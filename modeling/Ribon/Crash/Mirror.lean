/-
Two runs side by side.

A program may ask its surroundings for permission all the time: to go on, to use
up one more of something.  Where it is always granted, the program ends as the
program that never asks.  `Mirrors` says so of two programs.  It relates the
states of the two runs, and counts what the first run uses up.
-/
import Ribon.Crash.Program

namespace Crash

namespace Act

variable {C : Type} {R : C → Type} {S E F α β : Type} {M : Machine C R S} {x y : Act C R E α}

theorem exec_bind (x : Act C R E α) (f : α → Act C R E β) (s : S) :
    (x >>= f).exec M s = Prog.run M (ExceptT.bindCont f (x.exec M s).1) (x.exec M s).2 :=
  Prog.run_bind M x.run _ s

variable (M) in
/-- From states that `K` relates, `x` and `y` end alike.  What `K` grants is counted: `x` uses up
`n` of it and leaves the rest. -/
def Mirrors (K : Nat → S → S → Prop) (n : Nat) (x y : Act C R E α) : Prop :=
  ∀ rest s t, K (n + rest) s t →
    (x.exec M s).1 = (y.exec M t).1 ∧ K rest (x.exec M s).2 (y.exec M t).2

/-- Of what is granted, a part is granted too. -/
def Shrinks (K : Nat → S → S → Prop) : Prop := ∀ n rest s t, K (n + rest) s t → K rest s t

section Mirrors

variable {K : Nat → S → S → Prop} {n m : Nat}

theorem Mirrors.bind (hK : Shrinks K) {f g : α → Act C R E β} (h : Mirrors M K n x y)
    (hf : ∀ a, Mirrors M K m (f a) (g a)) : Mirrors M K (n + m) (x >>= f) (y >>= g) := by
  intro rest s t hst
  obtain ⟨hres, hstate⟩ := h (m + rest) s t (by rw [← Nat.add_assoc]; exact hst)
  rw [exec_bind, exec_bind, ← hres]
  cases (x.exec M s).1 with
  | ok a => exact hf a rest _ _ hstate
  | error e => exact ⟨rfl, hK _ _ _ _ hstate⟩

theorem mirrors_done {r : Except E α} : Mirrors M K 0 (ofExcept r) (ofExcept r) := by
  intro rest s t hst
  rw [Nat.zero_add] at hst
  exact ⟨rfl, hst⟩

theorem mirrors_bind_ofExcept {r : Except E α} {f g : α → Act C R E β}
    (hf : ∀ a, r = .ok a → Mirrors M K n (f a) (g a)) (hK : Shrinks K) :
    Mirrors M K n (ofExcept r >>= f) (ofExcept r >>= g) := by
  cases r with
  | ok a => exact hf a rfl
  | error e =>
      intro rest s t hst
      exact ⟨rfl, hK _ _ _ _ hst⟩

theorem mirrors_bind_refuseIf {bad : Bool} {e : E} {f g : Unit → Act C R E β}
    (hf : Mirrors M K n (f ()) (g ())) (hK : Shrinks K) :
    Mirrors M K n (refuseIf bad e >>= f) (refuseIf bad e >>= g) := by
  cases bad with
  | false => exact hf
  | true =>
      intro rest s t hst
      exact ⟨rfl, hK _ _ _ _ hst⟩

theorem mirrors_command {c : C} (hc : ∀ n s t, K n s t → M.answer c s = M.answer c t ∧
      K n (M.effect c s) (M.effect c t)) :
    Mirrors M K 0 (command c : Act C R E (R c)) (command c) := by
  intro rest s t hst
  rw [Nat.zero_add] at hst
  obtain ⟨hans, hstate⟩ := hc rest s t hst
  exact ⟨congrArg Except.ok hans, hstate⟩

theorem mirrors_refuseIf {bad : Bool} {e : E} :
    Mirrors M K 0 (refuseIf bad e : Act C R E Unit) (refuseIf bad e) := by
  cases bad with
  | true | false => exact mirrors_done

theorem Mirrors.mapError (h : Mirrors M K n x y) (f : E → F) :
    Mirrors M K n (Act.mapError f x) (Act.mapError f y) := by
  intro rest s t hst
  obtain ⟨hres, hstate⟩ := h rest s t hst
  have hexec : ∀ (z : Act C R E α) (u : S), (Act.mapError f z).exec M u =
      ((z.exec M u).1.mapError f, (z.exec M u).2) := fun z u => Prog.run_bind M z.run _ u
  rw [hexec, hexec]
  exact ⟨congrArg (Except.mapError f) hres, hstate⟩

theorem Mirrors.mono (hK : Shrinks K) (h : Mirrors M K n x y) (hle : n ≤ m) : Mirrors M K m x y := by
  intro rest s t hst
  obtain ⟨k, rfl⟩ := Nat.le.dest hle
  exact h rest s t (hK k _ _ _ (by rw [← Nat.add_assoc, Nat.add_comm k n]; exact hst))

/-- A program of commands that keep the relation mirrors itself. -/
theorem emits.mirrors {G : C → Prop} {Q : Except E α → Prop} (hx : emits G Q x)
    (hG : ∀ c, G c → ∀ n s t, K n s t → M.answer c s = M.answer c t ∧
      K n (M.effect c s) (M.effect c t)) : Mirrors M K 0 x x := by
  have hprog : ∀ (p : Prog C R (Except E α)), p.emits G Q → ∀ n s t, K n s t →
      (p.run M s).1 = (p.run M t).1 ∧ K n (p.run M s).2 (p.run M t).2 := by
    intro p
    induction p with
    | done r => exact fun _ n s t h => ⟨rfl, h⟩
    | call c k ih =>
        intro hp n s t h
        obtain ⟨hans, hstate⟩ := hG c hp.1 n s t h
        rw [show Prog.run M (.call c k) s = (k (M.answer c s)).run M (M.effect c s) from rfl,
          show Prog.run M (.call c k) t = (k (M.answer c t)).run M (M.effect c t) from rfl,
          ← hans]
        exact ih _ (hp.2 _) n _ _ hstate
  intro rest s t hst
  rw [Nat.zero_add] at hst
  exact hprog x.run hx rest s t hst

end Mirrors

end Act

end Crash
