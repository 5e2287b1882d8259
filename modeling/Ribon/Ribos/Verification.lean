/-
The frame of the two verifier stages, as verifier.c has it: opening the artifact,
comparing the identity of the schema, binding the sections, and the pass over the
types that opens the second stage.

The passes in between are a parameter.  They are programs, because they may ask for the
ownership of a type at any point and are answered from the verifier's marks, so what is
proved here holds for the passes of verifier.c and for any others.
-/
import Ribon.Ribos.TypeTable

namespace Ribon.Ribos

open Wire Crash Memo

inductive VerifierStatus where
  | workspaceTooSmall
  | structuralError
  | schemaMismatch
  | invalidType
  | invalidConstant
  | invalidFunction
  | invalidBlock
  | invalidSlot
  | invalidInstruction
  | invalidTarget
  | uninitializedSlot
  | typeMismatch
  | frameMismatch
  | recursiveCall
  | resourceMismatch
  | capabilityMismatch
  | opaqueForgery
  | typestateViolation
  | ownershipViolation
  | budgetExceeded
  | terminalActionViolation
  | failClosedViolation
  deriving DecidableEq, Repr

/-- What an accepted artifact was found to need; its status is OK. -/
structure VerifierReport where
  recomputedFrameBytes : UInt32
  recomputedCallDepth : UInt32
  recomputedStackBytes : UInt64
  recomputedReachableCapabilities : UInt32
  recomputedInstructionUpperBound : UInt64
  recomputedHelperUpperBound : UInt64
  deriving DecidableEq, Repr, Inhabited

/-- A pass of the verifier, which may ask for the ownership of types. -/
abbrev Pass (A : Type) := Prog Nat (fun _ => Option Ownership) (Except VerifierStatus A)

structure Passes where
  /-- The size of the scratch memory that an artifact needs. -/
  measureWorkspace : List UInt8 → ArtifactView → Option Nat
  /-- From the source maps to the resources of the entry function. -/
  structural : List UInt8 → ArtifactView → ProductSchema → Pass VerifierReport
  /-- The parameter and the result of the entry function. -/
  entryTypes : List UInt8 → ArtifactView → ProductSchema → Except VerifierStatus Unit
  /-- What the second stage checks behind the types. -/
  semantic : List UInt8 → ArtifactView → ProductSchema → VerifierReport → Pass VerifierReport

/-- Every type must have an ownership. -/
def ownershipPass : List Nat → Pass Unit
  | [] => .done (.ok ())
  | id :: rest => .call id fun
    | none => .done (.error .typestateViolation)
    | some _ => ownershipPass rest

/-- Go on with the result of a pass that accepts. -/
def Pass.andThen {A B : Type} (first : Pass A) (next : A → Pass B) : Pass B :=
  Prog.seq first fun
    | .error status => .done (.error status)
    | .ok a => next a

def validateStage2 (passes : Passes) (artifact : List UInt8) (view : ArtifactView)
    (schema : ProductSchema) (types : Nat) (report : VerifierReport) : Pass VerifierReport :=
  match passes.entryTypes artifact view schema with
  | .error status => .done (.error status)
  | .ok () => Pass.andThen (ownershipPass (List.range types)) fun _ =>
    passes.semantic artifact view schema report

/-- The passes of a stage over an artifact with `types` types. -/
def stagePasses (passes : Passes) (stage2 : Bool) (artifact : List UInt8) (view : ArtifactView)
    (schema : ProductSchema) (types : Nat) : Pass VerifierReport :=
  Pass.andThen (passes.structural artifact view schema) fun report =>
    if stage2 then validateStage2 passes artifact view schema types report else .done (.ok report)

/-- All thirteen sections, the source maps among them. -/
def bindSections (artifact : List UInt8) (view : ArtifactView) (schema : ProductSchema) :
    Option TypeTables := do
  let types ← findSection view.sections .types
  let shapes ← findSection view.sections .shapes
  if sectionKinds.all fun kind => (findSection view.sections kind).isSome then
    return ⟨artifact, types, shapes, schema⟩
  else none

/-- One stage: the report, and the ownerships that its passes were given. -/
def verifyArtifact (passes : Passes) (stage2 : Bool) (artifact : List UInt8)
    (schema : ProductSchema) (workspaceSize : Nat) :
    Except VerifierStatus (VerifierReport × List (Nat × Option Ownership)) := do
  let view ← mapStatus (fun _ => .structuralError) (artifactOpen artifact)
  let required ← demand (passes.measureWorkspace artifact view) .structuralError
  refuse (workspaceSize < required) .workspaceTooSmall
  refuse (!schemaValidate schema) .schemaMismatch
  let schemaDigest ← demand (schemaComputeIdentity schema) .schemaMismatch
  refuse (!schemaDigest.equal view.schemaDigest) .schemaMismatch
  let tables ← demand (bindSections artifact view schema) .structuralError
  let (result, state) := (stagePasses passes stage2 artifact view schema tables.types.count).run
    (ownershipMachine tables) ownershipStart
  let report ← result
  return (report, state.asked)

/-- The scratch memory that both stages need for an artifact. -/
def verifierWorkspaceSize (passes : Passes) (artifact : List UInt8) : Option Nat :=
  match artifactOpen artifact with
  | .error _ => none
  | .ok view => passes.measureWorkspace artifact view

/-! ### What the second stage asked for -/

variable {state : OwnershipState}

/-- The state in which the rest of a program goes on. -/
theorem run_andThen {A B : Type} {M : Machine Nat (fun _ => Option Ownership) OwnershipState}
    {first : Pass A} {next : A → Pass B} {b : B}
    (h : ((Pass.andThen first next).run M state).1 = .ok b) :
    ∃ a, (first.run M state).1 = .ok a ∧
      (Pass.andThen first next).run M state = (next a).run M (first.run M state).2 := by
  induction first generalizing state with
  | done r =>
    cases r with
    | error status => cases h
    | ok a => exact ⟨a, rfl, rfl⟩
  | call id k ih =>
    obtain ⟨a, ha, hrun⟩ := ih (M.answer id state) h
    exact ⟨a, ha, hrun⟩

variable {tables : TypeTables}

theorem asked_mono {A : Type} (p : Prog Nat (fun _ => Option Ownership) A)
    {entry : Nat × Option Ownership} (h : entry ∈ state.asked) :
    entry ∈ (p.run (ownershipMachine tables) state).2.asked := by
  induction p generalizing state with
  | done a => exact h
  | call id k ih => exact ih _ (List.mem_append_left _ h)

/-- The pass over the types has asked for each of them. -/
theorem asked_of_ownershipPass {ids : List Nat}
    (h : ((ownershipPass ids).run (ownershipMachine tables) state).1 = .ok ()) {id : Nat}
    (hid : id ∈ ids) :
    ∃ answer, (id, answer) ∈ ((ownershipPass ids).run (ownershipMachine tables) state).2.asked := by
  induction ids generalizing state with
  | nil => cases hid
  | cons first rest ih =>
    rw [ownershipPass, Prog.run] at h ⊢
    cases hans : (ownershipMachine tables).answer first state with
    | none =>
      rw [hans] at h
      cases h
    | some ownership =>
      rw [hans] at h
      rcases List.mem_cons.mp hid with rfl | hrest
      · refine ⟨(ownershipMachine tables).answer id state, asked_mono _ ?_⟩
        exact List.mem_append_right _ (List.mem_singleton.mpr rfl)
      · exact ih h hrest

/-- An accepted second stage has asked for the ownership of every type. -/
theorem asked_of_stage2 {passes : Passes} {artifact : List UInt8} {view : ArtifactView}
    {schema : ProductSchema} {types : Nat} {report : VerifierReport}
    (h : ((stagePasses passes true artifact view schema types).run (ownershipMachine tables)
      ownershipStart).1 = .ok report) {id : Nat} (hid : id < types) :
    ∃ answer, (id, answer) ∈ ((stagePasses passes true artifact view schema types).run
      (ownershipMachine tables) ownershipStart).2.asked := by
  obtain ⟨first, _, hstage⟩ := run_andThen h
  rw [stagePasses, hstage]
  rw [stagePasses, hstage, if_pos rfl, validateStage2] at h
  rw [if_pos rfl, validateStage2]
  split at h
  · cases h
  · obtain ⟨⟨⟩, hpass, hrest⟩ := run_andThen h
    obtain ⟨answer, hasked⟩ := asked_of_ownershipPass hpass (List.mem_range.mpr hid)
    refine ⟨answer, ?_⟩
    rw [hrest]
    exact asked_mono _ hasked

/-- Where the preparation finds an ownership for every type of the tables that a stage uses, the
stage was given those. -/
theorem asked_eq_stored {passes : Passes} {stage2 : Bool} {artifact : List UInt8}
    {schema : ProductSchema} {size : Nat} {result : VerifierReport × List (Nat × Option Ownership)}
    (h : verifyArtifact passes stage2 artifact schema size = .ok result) :
    ∃ view tables, artifactOpen artifact = .ok view ∧
      bindSections artifact view schema = some tables ∧
      schemaComputeIdentity schema = some view.schemaDigest ∧
      ∀ semantics, buildTypeSemantics tables = some semantics →
        (∀ entry ∈ result.2, entry.2 = storedOwnership semantics entry.1) ∧
        (stage2 = true → ∀ id, id < tables.types.count →
          (id, storedOwnership semantics id) ∈ result.2) := by
  simp only [verifyArtifact, bind_eq_ok, refuse_eq_ok, demand_eq_ok, mapStatus_eq_ok, pure_eq_ok,
    exists_const, Bool.not_eq_eq_eq_not, Bool.not_false] at h
  obtain ⟨view, hview, required, -, -, -, digest, hdig, hequal, tables, htabs, report, hreport,
    rfl⟩ := h
  cases Digest.equal_iff.mp hequal
  refine ⟨view, tables, hview, htabs, hdig, ?_⟩
  intro semantics hsem
  have hclean := run_clean hsem
    (stagePasses passes stage2 artifact view schema tables.types.count) clean_start
  refine ⟨hclean.asked, ?_⟩
  intro hstage id hid
  subst hstage
  obtain ⟨answer, hasked⟩ := asked_of_stage2 hreport hid
  have hans : answer = storedOwnership semantics id := hclean.asked _ hasked
  rwa [hans] at hasked

end Ribon.Ribos
