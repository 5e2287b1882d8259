/-
Programs whose commands anybody may answer.

`Prog.run` follows a program on a machine.  Where the commands are callbacks there
is no machine: each one may answer what it likes, and two equal commands may be
answered differently.  `Logs` says that a program can go through with a list of
commands and answers, and what it returns then.  A condition that a program keeps
for all answers, `emits`, holds of each of its logs.
-/
import Ribon.Crash.Program

namespace Crash

/-- A command with the answer it got. -/
abbrev Entry (C : Type) (R : C → Type) := (c : C) × R c

namespace Prog

variable {C : Type} {R : C → Type} {α β : Type}

/-- With the answers of the log, the program issues its commands and returns the result. -/
def Logs : Prog C R α → List (Entry C R) → α → Prop
  | .done b, log, a => log = [] ∧ b = a
  | .call c k, log, a => ∃ r rest, log = ⟨c, r⟩ :: rest ∧ (k r).Logs rest a

variable {log : List (Entry C R)}

theorem logs_bind {p : Prog C R α} {f : α → Prog C R β} {b : β} :
    (p >>= f).Logs log b ↔
      ∃ first second a, log = first ++ second ∧ p.Logs first a ∧ (f a).Logs second b := by
  induction p generalizing log with
  | done a =>
    constructor
    · intro h
      exact ⟨[], log, a, rfl, ⟨rfl, rfl⟩, h⟩
    · rintro ⟨first, second, a', rfl, ⟨rfl, rfl⟩, h⟩
      exact h
  | call c k ih =>
    constructor
    · rintro ⟨r, rest, rfl, h⟩
      obtain ⟨first, second, a, rfl, hfirst, hsnd⟩ := (ih r).mp h
      exact ⟨⟨c, r⟩ :: first, second, a, rfl, ⟨r, first, rfl, hfirst⟩, hsnd⟩
    · rintro ⟨first, second, a, rfl, ⟨r, rest, rfl, hfirst⟩, hsnd⟩
      exact ⟨r, rest ++ second, rfl, (ih r).mpr ⟨rest, second, a, rfl, hfirst, hsnd⟩⟩

/-- The log of the run on a machine. -/
def record {S : Type} (M : Machine C R S) : Prog C R α → S → List (Entry C R)
  | .done _, _ => []
  | .call c k, s => ⟨c, M.answer c s⟩ :: (k (M.answer c s)).record M (M.effect c s)

/-- A run on a machine is one of the ways to answer. -/
theorem logs_record {S : Type} (M : Machine C R S) (p : Prog C R α) (s : S) :
    p.Logs (p.record M s) (p.run M s).1 := by
  induction p generalizing s with
  | done a => exact ⟨rfl, rfl⟩
  | call c k ih => exact ⟨M.answer c s, _, rfl, ih _ _⟩

theorem record_answers {S : Type} (M : Machine C R S) (p : Prog C R α) (s : S) :
    ∀ entry ∈ p.record M s, ∃ state, entry.2 = M.answer entry.1 state := by
  induction p generalizing s with
  | done a => simp [record]
  | call c k ih => exact List.forall_mem_cons.mpr ⟨⟨s, rfl⟩, ih _ _⟩

/-- The answers decide: of the logs that begin a given one there is at most one. -/
theorem logs_unique {p : Prog C R α} {log' whole : List (Entry C R)} {a a' : α} (h : p.Logs log a)
    (h' : p.Logs log' a') (hwhole : log <+: whole) (hwhole' : log' <+: whole) :
    log = log' ∧ a = a' := by
  induction p generalizing log log' whole with
  | done b =>
    obtain ⟨rfl, rfl⟩ := h
    obtain ⟨rfl, rfl⟩ := h'
    exact ⟨rfl, rfl⟩
  | call c k ih =>
    obtain ⟨r, rest, rfl, hrest⟩ := h
    obtain ⟨r', rest', rfl, hrest'⟩ := h'
    cases whole with
    | nil => simp at hwhole
    | cons entry whole =>
      obtain ⟨hentry, htail⟩ := List.cons_prefix_cons.mp hwhole
      obtain ⟨hentry', htail'⟩ := List.cons_prefix_cons.mp hwhole'
      cases hentry.trans hentry'.symm
      obtain ⟨hlog, ha⟩ := ih r hrest hrest' htail htail'
      exact ⟨by rw [hlog], ha⟩

/-- **What holds for all answers holds of every log.** -/
theorem emits.logs {G : C → Prop} {Q : α → Prop} {p : Prog C R α} (h : p.emits G Q) {a : α}
    (hlog : p.Logs log a) : (∀ entry ∈ log, G entry.1) ∧ Q a := by
  induction p generalizing log with
  | done b =>
    obtain ⟨rfl, rfl⟩ := hlog
    exact ⟨by simp, h⟩
  | call c k ih =>
    obtain ⟨r, rest, rfl, hrest⟩ := hlog
    obtain ⟨hcommands, hres⟩ := ih r (h.2 r) hrest
    exact ⟨List.forall_mem_cons.mpr ⟨h.1, hcommands⟩, hres⟩

end Prog

namespace Act

variable {C : Type} {R : C → Type} {E α β : Type}

/-- The log of a program that may fail, with its result or its error. -/
def Logs (x : Act C R E α) (log : List (Entry C R)) (result : Except E α) : Prop :=
  Prog.Logs x.run log result

variable {log : List (Entry C R)} {result : Except E α}

theorem logs_pure {a : α} :
    Logs (pure a : Act C R E α) log result ↔ log = [] ∧ result = .ok a := by
  rw [eq_comm (a := result)]
  exact Iff.rfl

theorem logs_throw {e : E} :
    Logs (throw e : Act C R E α) log result ↔ log = [] ∧ result = .error e := by
  rw [eq_comm (a := result)]
  exact Iff.rfl

theorem logs_ofExcept {r : Except E α} :
    Logs (ofExcept r : Act C R E α) log result ↔ log = [] ∧ result = r := by
  rw [eq_comm (a := result)]
  exact Iff.rfl

theorem logs_refuseIf {bad : Bool} {e : E} {result : Except E Unit} :
    Logs (refuseIf bad e : Act C R E Unit) log result ↔
      log = [] ∧ result = if bad then .error e else .ok () := by
  cases bad with
  | true => exact logs_throw
  | false => exact logs_pure

variable {x : Act C R E α}

/-- A sequence stops with the first error, or its log is that of both parts. -/
theorem logs_bind {f : α → Act C R E β} {result : Except E β} :
    Logs (x >>= f) log result ↔
      (∃ e, Logs x log (.error e) ∧ result = .error e) ∨
        ∃ first second a, log = first ++ second ∧ Logs x first (.ok a) ∧
          Logs (f a) second result := by
  have hbind : Logs (x >>= f) log result ↔ ∃ first second r, log = first ++ second ∧
      Prog.Logs x.run first r ∧ Prog.Logs (ExceptT.bindCont f r) second result := Prog.logs_bind
  rw [hbind]
  constructor
  · rintro ⟨first, second, r, rfl, hfirst, hsnd⟩
    cases r with
    | error e =>
      obtain ⟨rfl, rfl⟩ := hsnd
      rw [List.append_nil]
      exact .inl ⟨e, hfirst, rfl⟩
    | ok a => exact .inr ⟨first, second, a, rfl, hfirst, hsnd⟩
  · rintro (⟨e, hx, rfl⟩ | ⟨first, second, a, rfl, hfirst, hsnd⟩)
    · exact ⟨log, [], .error e, by simp, hx, rfl, rfl⟩
    · exact ⟨first, second, .ok a, rfl, hfirst, hsnd⟩

/-- A check that passes issues nothing. -/
theorem logs_bind_refuseIf {bad : Bool} {e : E} {f : Unit → Act C R E α} :
    Logs (refuseIf bad e >>= f) log result ↔
      (bad = true ∧ log = [] ∧ result = .error e) ∨ (bad = false ∧ Logs (f ()) log result) := by
  have hthrow : Logs (throw e : Act C R E α) log result ↔ _ := logs_throw
  cases bad with
  | true =>
    simp only [true_and, Bool.true_eq_false, false_and, or_false]
    exact hthrow
  | false =>
    simp only [Bool.false_eq_true, false_and, true_and, false_or]
    exact Iff.rfl

/-! The same for programs that succeed, where each part has succeeded. -/

theorem logs_bind_ok {f : α → Act C R E β} {b : β} :
    Logs (x >>= f) log (.ok b) ↔ ∃ first second a, log = first ++ second ∧ Logs x first (.ok a) ∧
      Logs (f a) second (.ok b) := by
  simp [logs_bind]

theorem logs_refuseIf_ok {bad : Bool} {e : E} {u : Unit} :
    Logs (refuseIf bad e : Act C R E Unit) log (.ok u) ↔ log = [] ∧ bad = false := by
  cases bad <;> simp [logs_refuseIf]

theorem logs_ofExcept_ok {r : Except E α} {a : α} :
    Logs (ofExcept r : Act C R E α) log (.ok a) ↔ log = [] ∧ r = .ok a := by
  rw [logs_ofExcept, eq_comm (a := r)]

theorem logs_pure_ok {a b : α} :
    Logs (pure a : Act C R E α) log (.ok b) ↔ log = [] ∧ b = a := by
  simp [logs_pure]

theorem emits.logs {G : C → Prop} {Q : Except E α → Prop} (h : emits G Q x)
    (hlog : Logs x log result) : (∀ entry ∈ log, G entry.1) ∧ Q result :=
  Prog.emits.logs h hlog

theorem logs_mapError {E' : Type} {f : E → E'} {result : Except E' α} :
    Logs (mapError f x) log result ↔ ∃ r, Logs x log r ∧ result = r.mapError f := by
  have hbind : Logs (mapError f x) log result ↔ ∃ first second r, log = first ++ second ∧
      Prog.Logs x.run first r ∧ Prog.Logs (.done (r.mapError f)) second result := Prog.logs_bind
  rw [hbind]
  constructor
  · rintro ⟨first, second, r, rfl, hfirst, rfl, hr⟩
    rw [List.append_nil]
    exact ⟨r, hfirst, hr.symm⟩
  · rintro ⟨r, hr, rfl⟩
    exact ⟨log, [], r, by simp, hr, rfl, rfl⟩

/-! ### Programs that succeed alike -/

/-- With the answers with which `x` succeeds `y` succeeds too, and the results are related. -/
def Follows (S : α → β → Prop) (x : Act C R E α) (y : Act C R E β) : Prop :=
  ∀ log a, Logs x log (.ok a) → ∃ b, S a b ∧ Logs y log (.ok b)

theorem follows_refl (x : Act C R E α) : Follows Eq x x :=
  fun _ a h => ⟨a, rfl, h⟩

variable {S : α → β → Prop}

theorem follows_pure {a : α} {b : β} (h : S a b) :
    Follows S (pure a : Act C R E α) (pure b) := by
  intro log a' hlog
  obtain ⟨rfl, ha⟩ := logs_pure.mp hlog
  cases ha
  exact ⟨b, h, logs_pure.mpr ⟨rfl, rfl⟩⟩

theorem follows_bind {γ δ : Type} {T : γ → δ → Prop} {y : Act C R E β} {f : α → Act C R E γ}
    {g : β → Act C R E δ} (hx : Follows S x y) (hf : ∀ a b, S a b → Follows T (f a) (g b)) :
    Follows T (x >>= f) (y >>= g) := by
  intro log c hlog
  obtain ⟨first, second, a, rfl, hfirst, hsnd⟩ := logs_bind_ok.mp hlog
  obtain ⟨b, hab, hfirst⟩ := hx _ _ hfirst
  obtain ⟨d, hcd, hsnd⟩ := hf a b hab _ _ hsnd
  exact ⟨d, hcd, logs_bind_ok.mpr ⟨first, second, b, rfl, hfirst, hsnd⟩⟩

/-- A check that passes does so whatever its error would have been. -/
theorem follows_refuseIf (bad : Bool) (e e' : E) :
    Follows Eq (refuseIf bad e : Act C R E Unit) (refuseIf bad e') := by
  intro log a hlog
  obtain ⟨rfl, ha⟩ := logs_refuseIf.mp hlog
  cases bad with
  | true => cases ha
  | false => exact ⟨a, rfl, logs_refuseIf.mpr ⟨rfl, rfl⟩⟩

theorem follows_mapError {E' : Type} {y : Act C R E β} {f g : E → E'} (h : Follows S x y) :
    Follows S (mapError f x) (mapError g y) := by
  intro log a hlog
  obtain ⟨r, hr, ha⟩ := logs_mapError.mp hlog
  cases r with
  | error e => cases ha
  | ok a' =>
    cases ha
    obtain ⟨b, hab, hy⟩ := h _ _ hr
    exact ⟨b, hab, logs_mapError.mpr ⟨_, hy, rfl⟩⟩

end Act

end Crash
