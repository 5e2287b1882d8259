/-
Memoised resolution of a table whose entries are computed from each other.

An entry is a program that asks for other entries and ends with a value or with
nothing.  The recursion that resolves an entry marks it as entered before it runs
the program and stores the value when the program ends with one, so each program
runs at most once and a cycle is met as a question about an entered entry, which
is answered with nothing.

`Yields` is what the table means without marks and without an order of visits: the
value of an entry follows from the values of the entries it asks for, in finitely
many levels.  Two things are proved about the recursion.

  * Where the programs give up as soon as an answer is nothing, every value that
    is stored is the one that `Yields` gives.
  * Where `Yields` gives a value, the recursion finds it, also with programs that
    go on after an answer that is nothing.  The level is what rules cycles out: an
    entry that is entered has no value at the level of the entry that is visited.

The recursion takes a number of levels as fuel; `visit_stable` says that more of it
than there are fresh entries changes nothing.
-/
import Mathlib.Data.Finset.Card
import Mathlib.Logic.Function.Basic
import Ribon.Crash.Program

namespace Memo

open Crash

/-- The state of one entry of the table. -/
inductive Mark (V : Type) where
  | fresh
  /-- Its program has been started; it may have ended with nothing. -/
  | entered
  | known (v : V)
  deriving DecidableEq, Repr

def Mark.isFresh {V : Type} : Mark V → Bool
  | .fresh => true
  | _ => false

/-- A program that asks for entries and may end with a value. -/
abbrev Asking (I V : Type) := Prog I (fun _ => Option V) (Option V)

variable {I V : Type}

/-- The device that answers a program by visiting the entries it asks for. -/
def machine (visit : I → (I → Mark V) → Option V × (I → Mark V)) :
    Machine I (fun _ => Option V) (I → Mark V) where
  answer i marks := (visit i marks).1
  effect i marks := (visit i marks).2

/-! ### What the table means -/

/-- The program ends with the value, where each answer is the value of its entry, in `n` levels. -/
inductive Yields (body : I → Asking I V) : Nat → Asking I V → V → Prop where
  | done (n : Nat) (v : V) : Yields body n (.done (some v)) v
  | ask {n : Nat} {i : I} {u v : V} {k : Option V → Asking I V} :
      Yields body n (body i) u → Yields body (n + 1) (k (some u)) v →
      Yields body (n + 1) (.call i k) v

variable {body other : I → Asking I V} {p q : Asking I V} {n m : Nat} {v w : V}

theorem Yields.succ (h : Yields body n p v) : Yields body (n + 1) p v := by
  induction h with
  | done n v => exact .done _ v
  | ask _ _ ihi ihk => exact .ask ihi ihk

theorem Yields.mono (h : Yields body n p v) (hle : n ≤ m) : Yields body m p v := by
  induction hle with
  | refl => exact h
  | step _ ih => exact ih.succ

/-- The value does not depend on the number of levels. -/
theorem Yields.unique (h : Yields body n p v) (h' : Yields body m p w) : v = w := by
  induction h generalizing m w with
  | done n v =>
    cases h'
    rfl
  | ask _ _ ihi ihk =>
    cases h' with
    | ask hi hk =>
      cases ihi hi
      exact ihk hk

/-- Two programs that ask the same and end the same while every answer is a value. -/
def Follows : Asking I V → Asking I V → Prop
  | .done none, _ => True
  | .done (some v), q => q = .done (some v)
  | .call i k, .call j l => i = j ∧ ∀ u, Follows (k (some u)) (l (some u))
  | .call .., .done _ => False

/-- The values of one table are the values of another whose programs follow its own. -/
theorem Yields.follow (h : Yields body n p v) (hbody : ∀ i, Follows (body i) (other i))
    (hp : Follows p q) : Yields other n q v := by
  induction h generalizing q with
  | done n v =>
    have hq : q = .done (some v) := by simpa [Follows] using hp
    exact hq ▸ .done n v
  | @ask n i u v k _ _ ihi ihk =>
    cases q with
    | done r => exact absurd hp (by simp [Follows])
    | call j l =>
      obtain ⟨rfl, hl⟩ : i = j ∧ ∀ u, Follows (k (some u)) (l (some u)) := by
        simpa [Follows] using hp
      exact .ask (ihi (hbody i)) (ihk (hl u))

/-- Every stored value is the value of its entry. -/
def Sound (body : I → Asking I V) (marks : I → Mark V) : Prop :=
  ∀ i v, marks i = .known v → ∃ n, Yields body n (body i) v

theorem sound_fresh (body : I → Asking I V) : Sound body fun _ => .fresh := by
  intro i v h
  cases h

/-! ### A program on a device whose answers are right -/

/-- The program gives up on an answer that is nothing. -/
def Strict : Asking I V → Prop
  | .done _ => True
  | .call _ k => k none = .done none ∧ ∀ u, Strict (k (some u))

variable {M : Machine I (fun _ => Option V) (I → Mark V)} {marks : I → Mark V}

/-- A run of a strict program, on a device whose answers are right. -/
theorem run_sound
    (hM : ∀ i marks, Sound body marks → Sound body (M.effect i marks) ∧
      ∀ u, M.answer i marks = some u → ∃ n, Yields body n (body i) u) (hp : Strict p)
    (h : Sound body marks) :
    Sound body (p.run M marks).2 ∧
      ∀ v, (p.run M marks).1 = some v → ∃ n, Yields body n p v := by
  induction p generalizing marks with
  | done r =>
    refine ⟨h, ?_⟩
    intro v hv
    have hr : r = some v := hv
    exact ⟨0, hr ▸ .done 0 v⟩
  | call i k ih =>
    obtain ⟨hsound, hans⟩ := hM i marks h
    rw [Prog.run]
    cases hi : M.answer i marks with
    | none =>
      rw [hp.1]
      refine ⟨hsound, ?_⟩
      intro v hv
      cases hv
    | some u =>
      obtain ⟨hafter, hvalue⟩ := ih (some u) (hp.2 u) hsound
      refine ⟨hafter, ?_⟩
      intro v hv
      obtain ⟨n, hn⟩ := hans u hi
      obtain ⟨m, hm⟩ := hvalue v hv
      exact ⟨max n m + 1, .ask (hn.mono (by omega)) (hm.mono (by omega))⟩

/-- The entries that are entered have no value below the level `n`. -/
def Above (body : I → Asking I V) (n : Nat) (marks : I → Mark V) : Prop :=
  ∀ j, marks j = .entered → ∀ m, m < n → ∀ u, ¬ Yields body m (body j) u

/-- What a visit that finds its value does: it stores right values, and it leaves no entry entered. -/
structure Found (body : I → Asking I V) (v : V) (before : I → Mark V)
    (result : Option V × (I → Mark V)) : Prop where
  value : result.1 = some v
  sound : Sound body result.2
  entered : ∀ j, result.2 j = .entered ↔ before j = .entered

theorem run_found
    (hM : ∀ m, m < n → ∀ i u marks, Yields body m (body i) u → Sound body marks →
      Above body n marks → Found body u marks (M.answer i marks, M.effect i marks))
    (h : Yields body n p v) (hsound : Sound body marks) (habove : Above body n marks) :
    Found body v marks (p.run M marks) := by
  induction p generalizing marks with
  | done r =>
    cases h
    exact ⟨rfl, hsound, fun _ => Iff.rfl⟩
  | call i k ih =>
    cases h with
    | @ask m _ u _ _ hi hk =>
      have hfirst := hM m (Nat.lt_succ_self m) i u marks hi hsound habove
      have hans : M.answer i marks = some u := hfirst.value
      have hrest := ih (some u) hk hfirst.sound
        (fun j hj => habove j ((hfirst.entered j).mp hj))
      rw [Prog.run, hans]
      exact ⟨hrest.value, hrest.sound, fun j => (hrest.entered j).trans (hfirst.entered j)⟩

/-- How many of the entries are still fresh. -/
def freshIn (ids : Finset I) (marks : I → Mark V) : Nat :=
  (ids.filter fun i => (marks i).isFresh).card

theorem isFresh_iff {mark : Mark V} : mark.isFresh = true ↔ mark = .fresh := by
  cases mark <;> simp [Mark.isFresh]

theorem freshIn_le {ids : Finset I} {before after : I → Mark V}
    (h : ∀ i, after i = .fresh → before i = .fresh) : freshIn ids after ≤ freshIn ids before := by
  refine Finset.card_le_card ?_
  intro i hi
  rw [Finset.mem_filter, isFresh_iff] at hi ⊢
  exact ⟨hi.1, h i hi.2⟩

theorem fresh_of_run (hM : ∀ i marks j, M.effect i marks j = .fresh → marks j = .fresh)
    (p : Asking I V) {j : I} (h : (p.run M marks).2 j = .fresh) : marks j = .fresh := by
  induction p generalizing marks with
  | done r => exact h
  | call i k ih =>
    rw [Prog.run] at h
    exact hM i marks j (ih _ h)

/-- Two devices that agree while fewer than `bound` entries are fresh run a program alike. -/
theorem run_congr {N : Machine I (fun _ => Option V) (I → Mark V)} {ids : Finset I} {bound : Nat}
    (heq : ∀ i marks, freshIn ids marks < bound →
      M.answer i marks = N.answer i marks ∧ M.effect i marks = N.effect i marks)
    (hle : ∀ i marks, freshIn ids (N.effect i marks) ≤ freshIn ids marks) (p : Asking I V)
    (h : freshIn ids marks < bound) : p.run M marks = p.run N marks := by
  induction p generalizing marks with
  | done r => rfl
  | call i k ih =>
    obtain ⟨hans, heffect⟩ := heq i marks h
    rw [Prog.run, Prog.run, hans, heffect]
    exact ih _ (lt_of_le_of_lt (hle i marks) h)

/-! ### The recursion -/

variable [DecidableEq I]

/-- The value of an entry, and the marks after the visit. -/
def visit (body : I → Asking I V) : Nat → I → (I → Mark V) → Option V × (I → Mark V)
  | 0, _, marks => (none, marks)
  | fuel + 1, i, marks =>
    match marks i with
    | .known v => (some v, marks)
    | .entered => (none, marks)
    | .fresh =>
      match (body i).run (machine (visit body fuel)) (Function.update marks i .entered) with
      | (none, after) => (none, after)
      | (some v, after) => (some v, Function.update after i (.known v))

theorem Sound.enter (h : Sound body marks) (i : I) :
    Sound body (Function.update marks i .entered) := by
  intro j v hj
  by_cases hji : j = i
  · subst hji
    simp at hj
  · rw [Function.update_of_ne hji] at hj
    exact h j v hj

theorem Sound.store {i : I} (h : Sound body marks) (hi : Yields body n (body i) v) :
    Sound body (Function.update marks i (.known v)) := by
  intro j u hj
  by_cases hji : j = i
  · subst hji
    rw [Function.update_self, Mark.known.injEq] at hj
    exact ⟨n, hj ▸ hi⟩
  · rw [Function.update_of_ne hji] at hj
    exact h j u hj

/-- A visit with strict programs stores and returns right values only. -/
theorem visit_sound (hbody : ∀ i, Strict (body i)) (fuel : Nat) (i : I) (h : Sound body marks) :
    Sound body (visit body fuel i marks).2 ∧
      ∀ v, (visit body fuel i marks).1 = some v → ∃ n, Yields body n (body i) v := by
  induction fuel generalizing i marks with
  | zero =>
    refine ⟨h, ?_⟩
    intro v hv
    cases hv
  | succ fuel ih =>
    rw [visit]
    split
    · next u hu =>
      refine ⟨h, ?_⟩
      intro v hv
      cases hv
      exact h i _ hu
    · refine ⟨h, ?_⟩
      intro v hv
      cases hv
    · have hrun := run_sound (M := machine (visit body fuel)) (fun j marks hj => ih j hj)
        (hbody i) (h.enter i)
      split
      · next after heq =>
        rw [heq] at hrun
        refine ⟨hrun.1, ?_⟩
        intro v hv
        cases hv
      · next u after heq =>
        rw [heq] at hrun
        obtain ⟨n, hn⟩ := hrun.2 u rfl
        refine ⟨hrun.1.store hn, ?_⟩
        intro v hv
        cases hv
        exact ⟨n, hn⟩

theorem Found.store {i : I} {before : I → Mark V} {result : Option V × (I → Mark V)}
    (h : Found body v (Function.update before i .entered) result) (hi : Yields body n (body i) v)
    (hfresh : before i = .fresh) :
    Found body v before (some v, Function.update result.2 i (.known v)) := by
  refine ⟨rfl, h.sound.store hi, ?_⟩
  intro j
  by_cases hji : j = i
  · subst hji
    simp [hfresh]
  · simpa [Function.update_of_ne hji] using h.entered j

/-- An entry with a value is found, where the entered entries have none at its level. -/
theorem visit_found {fuel : Nat} {i : I} (h : Yields body n (body i) v) (hfuel : n < fuel)
    (hsound : Sound body marks) (habove : Above body (n + 1) marks) :
    Found body v marks (visit body fuel i marks) := by
  induction n using Nat.strong_induction_on generalizing fuel i v marks with
  | _ n ih =>
    by_cases hlow : ∃ m, m < n ∧ ∃ u, Yields body m (body i) u
    · -- The level is not the least one: the entry is found at a lower level.
      obtain ⟨m, hm, u, hu⟩ := hlow
      cases hu.unique h
      exact ih m hm hu (by omega) hsound fun j hj k hk => habove j hj k (by omega)
    · cases fuel with
      | zero => omega
      | succ fuel =>
        rw [visit]
        split
        · next u hu =>
          obtain ⟨k, hk⟩ := hsound i u hu
          cases hk.unique h
          exact ⟨rfl, hsound, fun _ => Iff.rfl⟩
        · next hentered => exact absurd h (habove i hentered n (by omega) v)
        · next hfresh =>
          -- The entry itself has no value below its level, so it may be marked as entered.
          have henter : Above body n (Function.update marks i .entered) := by
            intro j hj m hm u hu
            by_cases hji : j = i
            · subst hji
              exact hlow ⟨m, hm, u, hu⟩
            · rw [Function.update_of_ne hji] at hj
              exact habove j hj m (by omega) u hu
          have hrun := run_found (M := machine (visit body fuel))
            (fun m hm j u marks' hu hs ha => ih m hm hu (by omega) hs
              fun j hj k hk => ha j hj k (by omega))
            h (hsound.enter i) henter
          split
          · next after heq =>
            rw [heq] at hrun
            cases hrun.value
          · next u after heq =>
            rw [heq] at hrun
            cases hrun.value
            exact hrun.store h hfresh

theorem freshIn_enter_lt {ids : Finset I} {i : I} (hi : i ∈ ids) (hfresh : marks i = .fresh) :
    freshIn ids (Function.update marks i .entered) < freshIn ids marks := by
  refine Finset.card_lt_card ?_
  rw [Finset.ssubset_iff_of_subset]
  · refine ⟨i, ?_, ?_⟩
    · rw [Finset.mem_filter, isFresh_iff]
      exact ⟨hi, hfresh⟩
    · rw [Finset.mem_filter, isFresh_iff, Function.update_self]
      simp
  · intro j hj
    rw [Finset.mem_filter, isFresh_iff] at hj ⊢
    refine ⟨hj.1, ?_⟩
    by_cases hji : j = i
    · subst hji
      exact hfresh
    · rw [← hj.2, Function.update_of_ne hji]

/-- A visit makes no entry fresh again. -/
theorem fresh_of_visit {fuel : Nat} {i j : I} (h : (visit body fuel i marks).2 j = .fresh) :
    marks j = .fresh := by
  induction fuel generalizing i j marks with
  | zero => exact h
  | succ fuel ih =>
    have hrun {j : I} (hj : ((body i).run (machine (visit body fuel))
        (Function.update marks i .entered)).2 j = .fresh) : marks j = .fresh := by
      have hbefore := fresh_of_run (M := machine (visit body fuel)) (fun _ _ _ hj => ih hj) _ hj
      by_cases hji : j = i
      · subst hji
        simp at hbefore
      · rwa [Function.update_of_ne hji] at hbefore
    rw [visit] at h
    split at h
    · exact h
    · exact h
    · split at h
      · next after heq =>
        rw [heq] at hrun
        exact hrun h
      · next u after heq =>
        rw [heq] at hrun
        by_cases hji : j = i
        · subst hji
          simp at h
        · exact hrun (by simpa [Function.update_of_ne hji] using h)

section Fuel

variable {ids : Finset I} (hids : ∀ i, i ∉ ids → body i = .done none)
include hids

variable {marks : I → Mark V}

theorem visit_succ {fuel : Nat} {i : I} (h : freshIn ids marks < fuel) :
    visit body (fuel + 1) i marks = visit body fuel i marks := by
  induction fuel generalizing i marks with
  | zero => omega
  | succ fuel ih =>
    rw [visit, visit]
    cases hmark : marks i with
    | known v => rfl
    | entered => rfl
    | fresh =>
      by_cases hi : i ∈ ids
      · have hlt := freshIn_enter_lt hi hmark
        have hrun : (body i).run (machine (visit body (fuel + 1))) (Function.update marks i .entered) =
            (body i).run (machine (visit body fuel)) (Function.update marks i .entered) := by
          refine @run_congr _ _ _ _ _ ids fuel ?_ ?_ _ (by omega)
          · intro j marks' hj
            simp [machine, ih hj]
          · intro j marks'
            exact freshIn_le fun _ hj => fresh_of_visit hj
        simp only [hrun]
      · simp [hids i hi, Prog.run]

/-- Fuel beyond the number of fresh entries changes nothing. -/
theorem visit_stable {fuel : Nat} {i : I} (h : freshIn ids marks < fuel) (more : Nat) :
    visit body (fuel + more) i marks = visit body fuel i marks := by
  induction more with
  | zero => rfl
  | succ more ih =>
    rw [← Nat.add_assoc, visit_succ hids (by omega), ih]

/-- With enough fuel, an entry with a value is found, where no entry that has one is entered. -/
theorem visit_value {fuel : Nat} {i : I} (h : Yields body n (body i) v)
    (hfuel : freshIn ids marks < fuel) (hsound : Sound body marks)
    (hopen : ∀ j, marks j = .entered → ∀ m u, ¬ Yields body m (body j) u) :
    Found body v marks (visit body fuel i marks) := by
  rw [← visit_stable hids hfuel (n + 1)]
  exact visit_found h (by omega) hsound fun j hj m _ u => hopen j hj m u

end Fuel

end Memo
