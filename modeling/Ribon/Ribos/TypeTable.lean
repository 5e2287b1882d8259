/-
The ownership of the types of an artifact.

It is computed twice, by separate code.  The verifier computes it while it checks the
program (`ribos_verifier_type_ownership`), and preparing a program computes it again
for the table that the machine reads (`ribos_prepared_resolve_type_semantics`).  Both
recurse over the rows of the type table with a mark per type, but they do not end
alike: the verifier goes on where a nested type has no ownership and takes the
strongest of the others, and the preparation gives up.

`run_clean` says that this makes no difference to a program that is prepared: where
the preparation finds the ownership of every type, the verifier was given the same
ones, whatever it asked for and in whatever order.
-/
import Ribon.Memo.Resolve
import Ribon.Ribos.Artifact
import Ribon.Ribos.Schema

namespace Ribon.Ribos

open Wire Crash Memo

/-- What the ownership of a type is read from. -/
structure TypeTables where
  artifact : List UInt8
  types : SectionView
  shapes : SectionView
  schema : ProductSchema

namespace TypeTables

variable (tables : TypeTables)

def typeRow (id : Nat) : Option (List UInt8) := sectionRow tables.artifact tables.types id

def shapeRow (index : Nat) : Option (List UInt8) := sectionRow tables.artifact tables.shapes index

end TypeTables

def kindNamed : UInt16 := 7
def kindArray : UInt16 := 8
def kindList : UInt16 := 9
def kindFrozenMap : UInt16 := 10
def kindDict : UInt16 := 11
def kindOption : UInt16 := 12
def kindResult : UInt16 := 13
def kindStruct : UInt16 := 14
def kindEnum : UInt16 := 15

/-- How a row of the type table refers to other types. -/
inductive RowShape where
  | named (name : Text)
  /-- The length of the name does not fit the row. -/
  | unnamed
  | one (nested : Nat)
  | two (left right : Nat)
  | fields (start count : Nat)
  | plain
  deriving DecidableEq, Repr

/-- The fields of a row that its kind uses, which both computations read alike. -/
def rowShape (row : List UInt8) : RowShape :=
  let kind := loadU16 (row.drop 4)
  if kind == kindNamed then
    let length := (loadU32 (row.drop 56)).toNat
    if length > 63 then .unnamed else .named ((row.drop 60).take length)
  else if kind == kindArray || kind == kindList || kind == kindOption then
    .one (loadU32 (row.drop 8)).toNat
  else if kind == kindFrozenMap || kind == kindDict || kind == kindResult then
    .two (loadU32 (row.drop 8)).toNat (loadU32 (row.drop 12)).toNat
  else if kind == kindStruct || kind == kindEnum then
    .fields (loadU32 (row.drop 20)).toNat (loadU32 (row.drop 24)).toNat
  else .plain

/-- The type of a field or of a payload, where the shape has one. -/
def shapeType (shape : List UInt8) : Option Nat :=
  let nested := loadU32 (shape.drop 20)
  if nested == invalidId then none else some nested.toNat

/-! ### The preparation -/

section Prepared

variable (tables : TypeTables)

/-- The loop over the fields of a struct or an enum, with the strongest ownership so far. -/
def resolveFields : List Nat → Ownership → Asking Nat Ownership
  | [], ownership => .done (some ownership)
  | index :: rest, ownership =>
    match tables.shapeRow index with
    | none => .done none
    | some shape =>
      match shapeType shape with
      | none => resolveFields rest ownership
      | some nested => .call nested fun
        | none => .done none
        | some found => resolveFields rest (found.max ownership)

def resolveTypeSemantics (id : Nat) : Asking Nat Ownership :=
  match tables.typeRow id with
  | none => .done none
  | some row =>
    match rowShape row with
    | .named name => .done ((schemaFindType tables.schema name).map SchemaType.ownership)
    | .unnamed => .done none
    | .one nested => .call nested fun
      | none => .done none
      | some found => .done (some found)
    | .two left right => .call left fun
      | none => .done none
      | some first => .call right fun
        | none => .done none
        | some second => .done (some (first.max second))
    | .fields start count =>
      if start > tables.shapes.count || count > tables.shapes.count - start then .done none
      else resolveFields tables ((List.range count).map (start + ·)) .copy
    | .plain => .done (some .copy)

/-- The class that the table keeps for a named type. -/
def namedTypeClass (id : Nat) : Option SchemaTypeClass :=
  match (tables.typeRow id).map rowShape with
  | some (.named name) => (schemaFindType tables.schema name).map SchemaType.typeClass
  | _ => none

/-- One row of the table that the machine reads. -/
structure TypeSemantics where
  ownership : Ownership
  schemaTypeClass : Option SchemaTypeClass
  deriving DecidableEq, Repr

/-- Enough levels for every type: each one is entered at most once. -/
def typeFuel : Nat := tables.types.count + 1

/-- Resolve the types in turn.  A row is not written again once its type is resolved. -/
def resolveAll : List Nat → (Nat → Mark Ownership) → Option (List TypeSemantics)
  | [], _ => some []
  | id :: rest, marks =>
    match visit (resolveTypeSemantics tables) (typeFuel tables) id marks with
    | (none, _) => none
    | (some ownership, after) => do
      let semantics ← resolveAll rest after
      return ⟨ownership, namedTypeClass tables id⟩ :: semantics

def buildTypeSemantics : Option (List TypeSemantics) :=
  resolveAll tables (List.range tables.types.count) fun _ => .fresh

end Prepared

/-! ### The verifier -/

section Verifier

variable (tables : TypeTables)

/-- The loop over the fields; a nested type without ownership is passed over. -/
def ownershipFields : List Nat → Ownership → Asking Nat Ownership
  | [], ownership => .done (some ownership)
  | index :: rest, ownership =>
    match tables.shapeRow index with
    -- The structural checks have put the range inside the section.
    | none => .done none
    | some shape =>
      match shapeType shape with
      | none => ownershipFields rest ownership
      | some nested => .call nested fun answer =>
        ownershipFields rest ((answer.map fun found => found.max ownership).getD ownership)

/-- The stronger of two answers; no ownership is the weakest. -/
def strongest : Option Ownership → Option Ownership → Option Ownership
  | some left, some right => some (left.max right)
  | some left, none => some left
  | none, right => right

def typeOwnership (id : Nat) : Asking Nat Ownership :=
  match tables.typeRow id with
  | none => .done none
  | some row =>
    match rowShape row with
    | .named name => .done ((schemaFindType tables.schema name).map SchemaType.ownership)
    | .unnamed => .done none
    | .one nested => .call nested .done
    | .two left right => .call left fun first => .call right fun second =>
      .done (strongest first second)
    | .fields start count => ownershipFields tables ((List.range count).map (start + ·)) .copy
    | .plain => .done (some .copy)

/-- The marks of the verifier, and what it was answered so far. -/
structure OwnershipState where
  marks : Nat → Mark Ownership
  asked : List (Nat × Option Ownership)

/-- The verifier's passes on its type table: each question is a visit, and it is noted. -/
def ownershipMachine : Machine Nat (fun _ => Option Ownership) OwnershipState where
  answer id state := (visit (typeOwnership tables) (typeFuel tables) id state.marks).1
  effect id state :=
    let result := visit (typeOwnership tables) (typeFuel tables) id state.marks
    ⟨result.2, state.asked ++ [(id, result.1)]⟩

def ownershipStart : OwnershipState := ⟨fun _ => .fresh, []⟩

end Verifier

/-! ### The two agree -/

section Agree

variable (tables : TypeTables)

theorem strict_resolveFields (indices : List Nat) (ownership : Ownership) :
    Strict (resolveFields tables indices ownership) := by
  induction indices generalizing ownership with
  | nil => trivial
  | cons index rest ih =>
    rw [resolveFields]
    split
    · trivial
    · split
      · exact ih ownership
      · exact ⟨rfl, fun found => ih _⟩

theorem strict_resolve (id : Nat) : Strict (resolveTypeSemantics tables id) := by
  rw [resolveTypeSemantics]
  split
  · trivial
  · split
    · trivial
    · trivial
    · exact ⟨rfl, fun _ => trivial⟩
    · exact ⟨rfl, fun _ => ⟨rfl, fun _ => trivial⟩⟩
    · split
      · trivial
      · exact strict_resolveFields tables _ _
    · trivial

theorem follows_fields (indices : List Nat) (ownership : Ownership) :
    Follows (resolveFields tables indices ownership) (ownershipFields tables indices ownership) := by
  induction indices generalizing ownership with
  | nil => rfl
  | cons index rest ih =>
    rw [resolveFields, ownershipFields]
    split
    · trivial
    · split
      · exact ih ownership
      · exact ⟨rfl, fun found => ih _⟩

theorem follows_done (value : Option Ownership) :
    Follows (.done value : Asking Nat Ownership) (.done value) := by
  cases value with
  | none => trivial
  | some ownership => rfl

/-- While every nested type has an ownership, the verifier asks and ends as the preparation. -/
theorem follows_resolve (id : Nat) :
    Follows (resolveTypeSemantics tables id) (typeOwnership tables id) := by
  rw [resolveTypeSemantics, typeOwnership]
  split
  · trivial
  · split
    · exact follows_done _
    · trivial
    · exact ⟨rfl, fun _ => rfl⟩
    · exact ⟨rfl, fun _ => ⟨rfl, fun _ => rfl⟩⟩
    · split
      · trivial
      · exact follows_fields tables _ _
    · rfl

variable {tables}

theorem typeOwnership_outside {id : Nat} (h : id ∉ Finset.range tables.types.count) :
    typeOwnership tables id = .done none := by
  have hid : ¬ id < tables.types.count := by simpa using h
  simp [typeOwnership, TypeTables.typeRow, sectionRow, hid]

/-- The rows of the finished table are the ownerships of their types. -/
theorem yields_of_resolveAll {ids : List Nat} {marks : Nat → Mark Ownership}
    {semantics : List TypeSemantics} (h : resolveAll tables ids marks = some semantics)
    (hmarks : Sound (resolveTypeSemantics tables) marks) :
    List.Forall₂ (fun id row => ∃ n, Yields (resolveTypeSemantics tables) n
      (resolveTypeSemantics tables id) row.ownership) ids semantics := by
  induction ids generalizing marks semantics with
  | nil =>
    cases h
    exact .nil
  | cons id rest ih =>
    have hvisit := visit_sound (strict_resolve tables) (typeFuel tables) id hmarks
    rw [resolveAll] at h
    split at h
    · cases h
    · next ownership after heq =>
      rw [heq] at hvisit
      obtain ⟨rows, hrows, hcons⟩ := Option.bind_eq_some_iff.mp h
      cases hcons
      exact .cons (hvisit.2 ownership rfl) (ih hrows hvisit.1)

/-- The ownership that the table keeps for a type. -/
def storedOwnership (semantics : List TypeSemantics) (id : Nat) : Option Ownership :=
  semantics[id]?.map TypeSemantics.ownership

variable {semantics : List TypeSemantics}

theorem length_of_build (h : buildTypeSemantics tables = some semantics) :
    semantics.length = tables.types.count := by
  have hrows := yields_of_resolveAll h (sound_fresh _)
  simpa using hrows.length_eq.symm

/-- What the table keeps for a type is the ownership that the verifier's rules give it. -/
theorem yields_of_build (h : buildTypeSemantics tables = some semantics) {id : Nat}
    (hid : id < tables.types.count) :
    ∃ ownership n, storedOwnership semantics id = some ownership ∧
      Yields (typeOwnership tables) n (typeOwnership tables id) ownership := by
  have hrows := yields_of_resolveAll h (sound_fresh _)
  have hlen := length_of_build h
  have hrow := List.forall₂_iff_get.mp hrows
  obtain ⟨n, hn⟩ := hrow.2 id (by simpa using hid) (by omega)
  rw [List.get_eq_getElem, List.getElem_range] at hn
  refine ⟨_, n, ?_, hn.follow (follows_resolve tables) (follows_resolve tables id)⟩
  simp [storedOwnership, hlen, hid]

/-- The verifier's marks are right, and what it was answered is what the table keeps. -/
structure Clean (tables : TypeTables) (semantics : List TypeSemantics) (state : OwnershipState) :
    Prop where
  sound : Sound (typeOwnership tables) state.marks
  entered : ∀ id, state.marks id = .entered → tables.types.count ≤ id
  asked : ∀ entry ∈ state.asked, entry.2 = storedOwnership semantics entry.1

theorem clean_start : Clean tables semantics ownershipStart := by
  refine ⟨sound_fresh _, ?_, ?_⟩
  · intro id h
    cases h
  · intro entry h
    cases h

/-- One visit: its answer is what the table keeps. -/
theorem visit_clean (h : buildTypeSemantics tables = some semantics) {state : OwnershipState}
    (hclean : Clean tables semantics state) (id : Nat) :
    (ownershipMachine tables).answer id state = storedOwnership semantics id ∧
      Clean tables semantics ((ownershipMachine tables).effect id state) := by
  have hlog (result : Option Ownership × (Nat → Mark Ownership))
      (hvisit : visit (typeOwnership tables) (typeFuel tables) id state.marks = result)
      (hans : result.1 = storedOwnership semantics id)
      (hsound : Sound (typeOwnership tables) result.2)
      (hentered : ∀ id, result.2 id = .entered → tables.types.count ≤ id) :
      (ownershipMachine tables).answer id state = storedOwnership semantics id ∧
        Clean tables semantics ((ownershipMachine tables).effect id state) := by
    subst hvisit
    exact ⟨hans, hsound, hentered,
      List.forall_mem_append.mpr ⟨hclean.asked, List.forall_mem_singleton.mpr hans⟩⟩
  by_cases hid : id < tables.types.count
  · obtain ⟨ownership, n, hstored, hyields⟩ := yields_of_build h hid
    have hfresh : freshIn (Finset.range tables.types.count) state.marks < typeFuel tables := by
      refine Nat.lt_succ_of_le (le_trans (Finset.card_filter_le _ _) ?_)
      rw [Finset.card_range]
    have hfound := visit_value (fun _ => typeOwnership_outside) hyields hfresh hclean.sound
      (by
        intro j hj m u hu
        rw [typeOwnership_outside (by simpa using hclean.entered j hj)] at hu
        cases hu)
    refine hlog _ rfl (hfound.value.trans hstored.symm) hfound.sound ?_
    intro j hj
    exact hclean.entered j ((hfound.entered j).mp hj)
  · have houtside : typeOwnership tables id = .done none := typeOwnership_outside (by simpa using hid)
    have hstored : storedOwnership semantics id = none := by
      simp [storedOwnership, length_of_build h, hid]
    cases hmark : state.marks id with
    | known ownership =>
      -- A type that is not there has no ownership, so none was stored for it.
      obtain ⟨n, hn⟩ := hclean.sound id ownership hmark
      rw [houtside] at hn
      cases hn
    | entered =>
      exact hlog (none, state.marks) (by simp [visit, typeFuel, hmark]) hstored.symm hclean.sound
        hclean.entered
    | fresh =>
      refine hlog (none, Function.update state.marks id .entered)
        (by simp [visit, typeFuel, hmark, houtside, Prog.run]) hstored.symm
        (hclean.sound.enter id) ?_
      intro j hj
      by_cases hji : j = id
      · omega
      · exact hclean.entered j (by simpa [Function.update_of_ne hji] using hj)

/-- Whatever the verifier asks for, it is answered with what the table keeps. -/
theorem run_clean {A : Type} (h : buildTypeSemantics tables = some semantics)
    (p : Prog Nat (fun _ => Option Ownership) A) {state : OwnershipState}
    (hclean : Clean tables semantics state) :
    Clean tables semantics (p.run (ownershipMachine tables) state).2 := by
  induction p generalizing state with
  | done a => exact hclean
  | call id k ih => exact ih _ (visit_clean h hclean id).2

end Agree

end Ribon.Ribos
