/-
The choice among the candidates of a boot configuration.

`select` walks the candidates once and keeps the best one so far.  A candidate
that ties with the best one so far ends the walk, whether or not a better one
follows.  So what it selects is always the one candidate of highest priority, but
it may also refuse a configuration that has one: the refusal depends on the order
of the candidates below the highest.
-/
import Mathlib.Data.List.Perm.Basic
import Ribon.Native

namespace Ribon

inductive BootConfigStatus where
  | badArgument
  | truncated
  | badSyntax
  | unknownKey
  | duplicateKey
  | outOfCapacity
  | badPath
  | incompleteEntry
  | ambiguous
  deriving DecidableEq, Repr

/-- A candidate; its texts stand without their terminators. -/
structure BootConfigEntry where
  id : List UInt8
  protocol : List UInt8
  imageFormat : List UInt8
  kernelPath : List UInt8
  commandLine : List UInt8
  initImagePath : List UInt8
  modulePaths : List (List UInt8)
  priority : UInt32
  hasInitImage : Bool
  requiredFields : UInt32
  deriving DecidableEq

namespace BootConfig

def maxEntries : Nat := 4
def maxModules : Nat := 8
def requiredFields : UInt32 := 15

/-- Whether a path component may end here: it is not empty, not all dots, and not one too many. -/
def componentEnds (componentBytes dots components : Nat) : Bool :=
  !(componentBytes == 0 || dots == componentBytes || (componentBytes == 2 && dots == 2) ||
    decide (maxModules < components + 1))

def pathLoop : List UInt8 → Nat → Nat → Nat → Bool
  | [], componentBytes, dots, components => componentEnds componentBytes dots components
  | byte :: rest, componentBytes, dots, components =>
      if byte == 0x2f then
        componentEnds componentBytes dots components && pathLoop rest 0 0 (components + 1)
      else
        !(decide (byte < 0x21) || decide (0x7e < byte) || byte == 0x5c ||
          decide (64 ≤ componentBytes + 1)) &&
        pathLoop rest (componentBytes + 1) (if byte == 0x2e then dots + 1 else dots) components

/-- An absolute path without empty components or components of dots. -/
def pathIsValid : List UInt8 → Bool
  | root :: first :: rest => root == 0x2f && pathLoop (first :: rest) 0 0 0
  | _ => false

def entryIsComplete (entry : BootConfigEntry) : Bool :=
  entry.requiredFields == requiredFields && !entry.id.isEmpty && !entry.protocol.isEmpty &&
  !entry.imageFormat.isEmpty && !entry.kernelPath.isEmpty && pathIsValid entry.kernelPath

/-- The loop over the candidates, with the one selected so far. -/
def selectFrom : Option BootConfigEntry → List BootConfigEntry →
    Except BootConfigStatus (Option BootConfigEntry)
  | selected, [] => .ok selected
  | selected, candidate :: rest =>
      if !entryIsComplete candidate then .error .incompleteEntry
      else match selected with
        | none => selectFrom (some candidate) rest
        | some best =>
            if best.priority < candidate.priority then selectFrom (some candidate) rest
            else if candidate.priority == best.priority then .error .ambiguous
            else selectFrom (some best) rest

def select (entries : List BootConfigEntry) : Except BootConfigStatus (Option BootConfigEntry) := do
  refuse (entries.isEmpty || decide (maxEntries < entries.length)) .badArgument
  selectFrom none entries

/-! ### What a selection should be -/

/-- The one candidate of highest priority. -/
def Highest (e : BootConfigEntry) (entries : List BootConfigEntry) : Prop :=
  ∃ others, entries.Perm (e :: others) ∧ ∀ x ∈ others, x.priority < e.priority

/-- In every order of the candidates, the one of highest priority is selected if it is the only one,
and none otherwise. -/
structure ByPriority (entries : List BootConfigEntry) : Prop where
  only : ∀ order e, order.Perm entries → Highest e entries → select order = .ok (some e)
  shared : ∀ order, order.Perm entries → (∀ e, ¬ Highest e entries) →
    select order = .error .ambiguous

variable {entries : List BootConfigEntry} {best e x : BootConfigEntry}

theorem Highest.perm {order : List BootConfigEntry} (h : Highest e entries)
    (horder : order.Perm entries) : Highest e order := by
  obtain ⟨others, hperm, hless⟩ := h
  exact ⟨others, horder.trans hperm, hless⟩

/-- A candidate below another one does not change which is the highest. -/
theorem Highest.cons {y : BootConfigEntry} (h : Highest e entries) (hy : y ∈ entries)
    (hless : x.priority < y.priority) : Highest e (x :: entries) := by
  obtain ⟨others, hperm, hothers⟩ := h
  refine ⟨x :: others, (hperm.cons x).trans (List.Perm.swap e x others), ?_⟩
  intro z hz
  rcases List.mem_cons.mp hz with rfl | hz
  · rcases List.mem_cons.mp (hperm.mem_iff.mp hy) with rfl | hy
    · exact hless
    · exact UInt32.lt_trans hless (hothers y hy)
  · exact hothers z hz

/-- Two candidates are not both the highest. -/
theorem Highest.unique (h : Highest e entries) (hx : Highest x entries) : e = x := by
  obtain ⟨others, hperm, hless⟩ := h
  obtain ⟨others', hperm', hless'⟩ := hx
  by_contra hne
  have hmem : x ∈ e :: others := hperm.mem_iff.mp (hperm'.mem_iff.mpr (by simp))
  have hmem' : e ∈ x :: others' := hperm'.mem_iff.mp (hperm.mem_iff.mpr (by simp))
  simp only [List.mem_cons, hne, Ne.symm hne, false_or] at hmem hmem'
  exact UInt32.lt_asymm (hless x hmem) (hless' e hmem')

/-- Candidates with equal priorities can be brought to the front. -/
theorem exists_tie (h : ¬ (entries.map (·.priority)).Nodup) :
    ∃ a b rest, entries.Perm (a :: b :: rest) ∧ a.priority = b.priority := by
  induction entries with
  | nil => simp at h
  | cons x xs ih =>
      by_cases hmem : x.priority ∈ xs.map (·.priority)
      · obtain ⟨b, hb, hpriority⟩ := List.mem_map.mp hmem
        obtain ⟨front, back, rfl⟩ := List.append_of_mem hb
        exact ⟨x, b, front ++ back, List.perm_middle.cons x, hpriority.symm⟩
      · rw [List.map_cons, List.nodup_cons] at h
        obtain ⟨a, b, rest, hperm, hpriority⟩ := ih fun hnodup => h ⟨hmem, hnodup⟩
        refine ⟨a, b, x :: rest, (hperm.cons x).trans ?_, hpriority⟩
        exact (List.Perm.swap a x _).trans ((List.Perm.swap b x rest).cons a)

/-! ### What the walk selects -/

/-- **What the walk selects is the one candidate of highest priority.** -/
theorem selectFrom_highest {rest : List BootConfigEntry} {r : Option BootConfigEntry}
    (h : selectFrom (some best) rest = .ok r) : ∃ e, r = some e ∧ Highest e (best :: rest) := by
  induction rest generalizing best with
  | nil =>
      cases h
      exact ⟨best, rfl, [], List.Perm.refl _, by simp⟩
  | cons candidate rest ih =>
      simp only [selectFrom] at h
      split at h
      · cases h
      split at h
      · next hless =>
        obtain ⟨e, hr, he⟩ := ih h
        exact ⟨e, hr, he.cons (by simp) hless⟩
      split at h
      · cases h
      · next hless hne =>
        obtain ⟨e, hr, he⟩ := ih h
        have hbelow : candidate.priority < best.priority :=
          UInt32.lt_of_le_of_ne (UInt32.not_lt.mp hless) (by simpa using hne)
        exact ⟨e, hr, (he.cons (by simp) hbelow).perm (List.Perm.swap candidate best rest)⟩

/-- Among complete candidates the walk only stops at a tie. -/
theorem selectFrom_error {rest : List BootConfigEntry} {status : BootConfigStatus}
    (hcomplete : ∀ x ∈ rest, entryIsComplete x = true)
    (h : selectFrom (some best) rest = .error status) :
    status = .ambiguous ∧ ¬ ((best :: rest).map (·.priority)).Nodup := by
  induction rest generalizing best with
  | nil => cases h
  | cons candidate rest ih =>
      have hrest : ∀ x ∈ rest, entryIsComplete x = true := fun x hx => hcomplete x (by simp [hx])
      simp only [selectFrom, hcomplete candidate (by simp), Bool.not_true, Bool.false_eq_true,
        if_false] at h
      split at h
      · obtain ⟨hstatus, htie⟩ := ih hrest h
        exact ⟨hstatus, fun hnodup => htie (List.nodup_cons.mp hnodup).2⟩
      split at h
      · next heq =>
        cases h
        exact ⟨rfl, by simp [eq_of_beq heq]⟩
      · obtain ⟨hstatus, htie⟩ := ih hrest h
        exact ⟨hstatus, fun hnodup => htie (hnodup.sublist (by simp))⟩

/-! ### The selection -/

theorem select_cons {rest : List BootConfigEntry} (hfirst : entryIsComplete best = true)
    (hsize : (best :: rest).length ≤ maxEntries) :
    select (best :: rest) = selectFrom (some best) rest := by
  have hfits : ¬ maxEntries < (best :: rest).length := Nat.not_lt.mpr hsize
  simp only [select, refuse, List.isEmpty_cons, hfits, selectFrom, hfirst]
  rfl

theorem select_of_unfit (h : ¬ (0 < entries.length ∧ entries.length ≤ maxEntries)) :
    select entries = .error .badArgument := by
  have hbad : (entries.isEmpty || decide (maxEntries < entries.length)) = true := by
    cases entries <;> simp_all
  simp only [select, refuse, hbad]
  rfl

variable (hcomplete : ∀ x ∈ entries, entryIsComplete x = true)
include hcomplete

/-- A selection among complete candidates that fit: the highest one, or none because of some tie. -/
theorem select_cases (hfits : 0 < entries.length ∧ entries.length ≤ maxEntries) :
    (∃ e, Highest e entries ∧ select entries = .ok (some e)) ∨
      select entries = .error .ambiguous ∧ ¬ (entries.map (·.priority)).Nodup := by
  obtain ⟨best, rest, rfl⟩ := List.exists_cons_of_length_pos hfits.1
  rw [select_cons (hcomplete best (by simp)) hfits.2]
  cases hres : selectFrom (some best) rest with
  | ok r =>
      obtain ⟨e, rfl, he⟩ := selectFrom_highest hres
      exact .inl ⟨e, he, rfl⟩
  | error status =>
      obtain ⟨rfl, htie⟩ := selectFrom_error (fun x hx => hcomplete x (by simp [hx])) hres
      exact .inr ⟨rfl, htie⟩

/-- A tie that comes first is refused, whatever follows. -/
theorem exists_refused (hsize : entries.length ≤ maxEntries)
    (h : ¬ (entries.map (·.priority)).Nodup) :
    ∃ order, order.Perm entries ∧ select order = .error .ambiguous := by
  obtain ⟨a, b, rest, hperm, htie⟩ := exists_tie h
  refine ⟨a :: b :: rest, hperm.symm, ?_⟩
  have ha : entryIsComplete a = true := hcomplete a (hperm.mem_iff.mpr (by simp))
  have hb : entryIsComplete b = true := hcomplete b (hperm.mem_iff.mpr (by simp))
  rw [select_cons ha (hperm.length_eq ▸ hsize)]
  simp [selectFrom, hb, htie]

/-- **When the selection depends on the priorities alone.**  Complete candidates are decided by
their priorities in every order if and only if they fit, and the highest priority is shared or no
two priorities are equal.  Below a single highest candidate, a tie is refused if it comes first and
passed over if it comes last. -/
theorem byPriority_iff : ByPriority entries ↔
    (0 < entries.length ∧ entries.length ≤ maxEntries) ∧
      ((∀ e, ¬ Highest e entries) ∨ (entries.map (·.priority)).Nodup) := by
  constructor
  · intro h
    have hfits : 0 < entries.length ∧ entries.length ≤ maxEntries := by
      by_contra hunfit
      have hsel := select_of_unfit hunfit
      by_cases hone : ∃ e, Highest e entries
      · obtain ⟨e, he⟩ := hone
        cases hsel.symm.trans (h.only entries e (.refl _) he)
      · cases hsel.symm.trans (h.shared entries (.refl _) (not_exists.mp hone))
    refine ⟨hfits, ?_⟩
    by_contra hneither
    simp only [not_or, not_forall, not_not] at hneither
    obtain ⟨⟨e, he⟩, htie⟩ := hneither
    obtain ⟨order, horder, hrefused⟩ := exists_refused hcomplete hfits.2 htie
    cases hrefused.symm.trans (h.only order e horder he)
  · rintro ⟨hfits, h⟩
    have hcases : ∀ order, order.Perm entries → (∃ e, Highest e order ∧ select order = .ok (some e)) ∨
        select order = .error .ambiguous ∧ ∀ e, ¬ Highest e entries := by
      intro order horder
      have hsel := select_cases (fun x hx => hcomplete x (horder.mem_iff.mp hx))
        (horder.length_eq ▸ hfits)
      rw [(horder.map _).nodup_iff] at hsel
      exact hsel.imp_right fun hrefused => ⟨hrefused.1, h.resolve_right hrefused.2⟩
    constructor
    · intro order e horder he
      rcases hcases order horder with ⟨e', he', hsel⟩ | ⟨-, hnone⟩
      · rw [hsel, he'.unique (he.perm horder)]
      · exact absurd he (hnone e)
    · intro order horder hnone
      rcases hcases order horder with ⟨e, he, -⟩ | ⟨hsel, -⟩
      · exact absurd (he.perm horder.symm) (hnone e)
      · exact hsel

omit hcomplete

namespace Bench

def entry (id : UInt8) (priority : UInt32) : BootConfigEntry where
  id := [id]
  protocol := [0x6c]
  imageFormat := [0x65]
  kernelPath := [0x2f, 0x6b]
  commandLine := []
  initImagePath := []
  modulePaths := []
  priority := priority
  hasInitImage := false
  requiredFields := requiredFields

theorem byPriority_three : ByPriority [entry 0x61 5, entry 0x62 10, entry 0x63 7] :=
  (byPriority_iff (by decide)).mpr ⟨by decide, .inr (by decide)⟩

/-- Two candidates of priority 5 hide the one of priority 10 behind them, and not the one before. -/
theorem low_tie_refused :
    (∀ x ∈ [entry 0x61 5, entry 0x62 5, entry 0x63 10], entryIsComplete x = true) ∧
    Highest (entry 0x63 10) [entry 0x61 5, entry 0x62 5, entry 0x63 10] ∧
    select [entry 0x61 5, entry 0x62 5, entry 0x63 10] = .error .ambiguous ∧
    select [entry 0x63 10, entry 0x61 5, entry 0x62 5] = .ok (some (entry 0x63 10)) := by
  refine ⟨by decide, ⟨[entry 0x61 5, entry 0x62 5], ?_, by decide⟩, by decide, by decide⟩
  decide

end Bench

end BootConfig

end Ribon
