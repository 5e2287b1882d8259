/-
Programs that talk to a device, and what a power cut can interrupt.

A program is a tree: it is done with a result, or it issues one command and goes
on with whatever the device answers.  The tree says nothing about the device.  A
machine supplies that: what it answers in a state, and the state it is in
afterwards.

Two things are said of a program on a machine.

  * How it ends: the result and the last state of the run that nothing
    interrupts.
  * Where it can be stopped: the state after any number of its commands.  A
    power cut takes one of these states and nothing else of the program, since
    the rest of it was in memory.

`wpc` carries both at once.  It asks for a condition at every state the program
can be stopped in and for another at the end, and it is closed under sequencing,
so a long program is verified from the specifications of its parts.

`emits` says which commands a program issues whatever the device answers, and
`Ran` follows the run of a program that succeeds, with the commands it issued.
`Completes` says that a program does succeed: it is proved line by line, where
each check of the program passes.
-/
import Mathlib.Tactic.Common

namespace Crash

/-- A program over the commands `C`, where `R c` is what the device answers to `c`. -/
inductive Prog (C : Type) (R : C → Type) (α : Type) where
  /-- The program is done, with its result. -/
  | done (a : α) : Prog C R α
  /-- The program issues one command and goes on with the answer. -/
  | call (c : C) (k : R c → Prog C R α) : Prog C R α

/-- A deterministic device: its answer to each command, and the state it leaves. -/
structure Machine (C : Type) (R : C → Type) (S : Type) where
  /-- What the device answers in a state. -/
  answer : (c : C) → S → R c
  /-- The state the device is in after the command. -/
  effect : C → S → S

namespace Prog

variable {C : Type} {R : C → Type} {S α β : Type}

/-- One command, with its answer as the result. -/
def command (c : C) : Prog C R (R c) := .call c .done

/-- Run the first program and give its result to the second. -/
def seq : Prog C R α → (α → Prog C R β) → Prog C R β
  | .done a, f => f a
  | .call c k, f => .call c fun r => (k r).seq f

instance : Monad (Prog C R) where
  pure := .done
  bind := seq

/-! ### Runs -/

variable (M : Machine C R S)

/-- The result and the last state of the run that nothing interrupts. -/
def run : Prog C R α → S → α × S
  | .done a, s => (a, s)
  | .call c k, s => (k (M.answer c s)).run (M.effect c s)

/-- The state after the first `n` commands, or the last one where there are fewer. -/
def cut : Nat → Prog C R α → S → S
  | 0, _, s => s
  | _ + 1, .done _, s => s
  | n + 1, .call c k, s => (k (M.answer c s)).cut n (M.effect c s)

/-- The commands of the run that nothing interrupts, in order. -/
def trace : Prog C R α → S → List C
  | .done _, _ => []
  | .call c k, s => c :: (k (M.answer c s)).trace (M.effect c s)

@[simp] theorem run_bind (p : Prog C R α) (f : α → Prog C R β) (s : S) :
    (p >>= f).run M s = (f (p.run M s).1).run M (p.run M s).2 := by
  induction p generalizing s with
  | done a => rfl
  | call c k ih => exact ih (M.answer c s) (M.effect c s)

theorem trace_bind (p : Prog C R α) (f : α → Prog C R β) (s : S) :
    (p >>= f).trace M s = p.trace M s ++ (f (p.run M s).1).trace M (p.run M s).2 := by
  induction p generalizing s with
  | done a => rfl
  | call c k ih =>
      exact congrArg (c :: ·) (ih (M.answer c s) (M.effect c s))

/-! ### Verification conditions -/

/-- `I` holds wherever the program can be stopped from `s`, and `Q` where it ends. -/
def wpc (I : S → Prop) (Q : α → S → Prop) : Prog C R α → S → Prop
  | .done a, s => I s ∧ Q a s
  | .call c k, s => I s ∧ (k (M.answer c s)).wpc I Q (M.effect c s)

variable {M} {I J : S → Prop} {Q Q' : α → S → Prop} {p : Prog C R α} {s : S}

variable (h : p.wpc M I Q s)
include h

/-- Wherever a verified program starts, it may be stopped there. -/
theorem wpc.start : I s := by
  cases p with
  | done a => exact h.1
  | call c k => exact h.1

theorem wpc.mono (hI : ∀ t, I t → J t) (hQ : ∀ a t, Q a t → Q' a t) : p.wpc M J Q' s := by
  induction p generalizing s with
  | done a => exact ⟨hI _ h.1, hQ _ _ h.2⟩
  | call c k ih => exact ⟨hI _ h.1, ih _ h.2⟩

/-- **Sequencing.**  What the first program ends in is where the second one starts. -/
theorem wpc.bind {f : α → Prog C R β} {Q' : β → S → Prop}
    (hf : ∀ a t, I t → Q a t → (f a).wpc M I Q' t) : (p >>= f).wpc M I Q' s := by
  induction p generalizing s with
  | done a => exact hf a s h.1 h.2
  | call c k ih => exact ⟨h.1, ih _ h.2⟩

/-- **A verified program ends in its postcondition.** -/
theorem wpc.run_post : Q (p.run M s).1 (p.run M s).2 := by
  induction p generalizing s with
  | done a => exact h.2
  | call c k ih => exact ih _ h.2

/-- **Wherever a verified program is stopped, its crash condition holds.** -/
theorem wpc.cut_inv (n : Nat) : I (p.cut M n s) := by
  induction n generalizing p s with
  | zero => exact h.start
  | succ n ih =>
      cases p with
      | done a => exact h.1
      | call c k => exact ih h.2

omit h

/-- One more command changes the state as that command does. -/
theorem cut_succ (p : Prog C R α) (n : Nat) (s : S) :
    p.cut M (n + 1) s = p.cut M n s ∨ ∃ c, p.cut M (n + 1) s = M.effect c (p.cut M n s) := by
  induction n generalizing p s with
  | zero =>
      cases p with
      | done a => exact Or.inl rfl
      | call c k => exact Or.inr ⟨c, rfl⟩
  | succ n ih =>
      cases p with
      | done a => exact Or.inl rfl
      | call c k => exact ih (k (M.answer c s)) (M.effect c s)

/-! ### Commands -/

/-- Whatever the device answers, every command satisfies `G` and the result satisfies `Q`. -/
def emits (G : C → Prop) (Q : α → Prop) : Prog C R α → Prop
  | .done a => Q a
  | .call c k => G c ∧ ∀ r, (k r).emits G Q

section Emits

variable {G : C → Prop} {Q Q' : α → Prop}

theorem emits.bind {f : α → Prog C R β} {Q' : β → Prop} (h : p.emits G Q)
    (hf : ∀ a, Q a → (f a).emits G Q') : (p >>= f).emits G Q' := by
  induction p with
  | done a => exact hf a h
  | call c k ih => exact ⟨h.1, fun r => ih r (h.2 r)⟩

theorem emits.mono {H : C → Prop} (h : p.emits G Q) (hG : ∀ c, G c → H c) (hQ : ∀ a, Q a → Q' a) :
    p.emits H Q' := by
  induction p with
  | done a => exact hQ a h
  | call c k ih => exact ⟨hG c h.1, fun r => ih r (h.2 r)⟩

/-- **A program whose commands change nothing** leaves the state as it is, wherever it is stopped. -/
theorem emits.still (h : p.emits G Q) (hG : ∀ c, G c → ∀ s, M.effect c s = s) (s : S) :
    p.wpc M (· = s) (fun a t => t = s ∧ p.run M s = (a, s)) s := by
  induction p with
  | done a => exact ⟨rfl, rfl, rfl⟩
  | call c k ih =>
      have hrest := ih (M.answer c s) (h.2 _)
      simp only [wpc, run, hG c h.1, true_and]
      exact hrest

theorem emits.trace (h : p.emits G Q) (M : Machine C R S) (s : S) : ∀ c ∈ p.trace M s, G c := by
  induction p generalizing s with
  | done a => simp [Prog.trace]
  | call c k ih => exact List.forall_mem_cons.mpr ⟨h.1, ih _ (h.2 _) _⟩

end Emits

end Prog

/-! ### Programs that can fail

Code that returns a status early is a program in the exception monad over `Prog`.
An error ends the program where it is: what it did to the device stays done. -/

/-- A program that ends in a result or in an error. -/
abbrev Act (C : Type) (R : C → Type) (E α : Type) := ExceptT E (Prog C R) α

namespace Act

variable {C : Type} {R : C → Type} {S E F α β : Type}

/-- Issue one command. -/
def command (c : C) : Act C R E (R c) := ExceptT.lift (Prog.command c)

/-- Stop with an error where the condition holds. -/
def refuseIf (bad : Bool) (e : E) : Act C R E Unit := if bad then throw e else pure ()

/-- A computation that needs no device. -/
def ofExcept (x : Except E α) : Act C R E α := ExceptT.mk (.done x)

/-- Translate the error of a callee. -/
def mapError (f : E → F) (x : Act C R E α) : Act C R F α :=
  ExceptT.mk (x.run >>= fun r => .done (r.mapError f))

variable (M : Machine C R S)

/-- The result and the last state of the run that nothing interrupts. -/
def exec (x : Act C R E α) (s : S) : Except E α × S := Prog.run M x.run s

/-- The state after the first `n` commands. -/
def cut (n : Nat) (x : Act C R E α) (s : S) : S := Prog.cut M n x.run s

/-- The commands of the run that nothing interrupts. -/
def trace (x : Act C R E α) (s : S) : List C := Prog.trace M x.run s

/-- `I` holds wherever the program can be stopped from `s`, and `Q` where it ends. -/
def wpc (I : S → Prop) (Q : Except E α → S → Prop) (x : Act C R E α) (s : S) : Prop :=
  Prog.wpc M I Q x.run s

variable {M} {I J : S → Prop} {Q Q' : Except E α → S → Prop} {x : Act C R E α} {s : S}

theorem wpc_pure {a : α} (hI : I s) (hQ : Q (.ok a) s) : wpc M I Q (pure a) s := ⟨hI, hQ⟩

theorem wpc_throw {e : E} (hI : I s) (hQ : Q (.error e) s) : wpc M I Q (throw e) s := ⟨hI, hQ⟩

theorem wpc_ofExcept {r : Except E α} (hI : I s) (hQ : Q r s) : wpc M I Q (ofExcept r) s := ⟨hI, hQ⟩

/-- **Sequencing.**  The second program runs where the first one ended without an error. -/
theorem wpc_bind {f : α → Act C R E β} {Q' : Except E β → S → Prop} (h : wpc M I Q x s)
    (hok : ∀ a t, I t → Q (.ok a) t → wpc M I Q' (f a) t)
    (herr : ∀ e t, I t → Q (.error e) t → Q' (.error e) t) : wpc M I Q' (x >>= f) s := by
  refine Prog.wpc.bind h fun r t hI hr => ?_
  cases r with
  | ok a => exact hok a t hI hr
  | error e => exact ⟨hI, herr e t hI hr⟩

theorem wpc_command {c : C} {Q : Except E (R c) → S → Prop} (hI : I s) (hI' : I (M.effect c s))
    (hQ : Q (.ok (M.answer c s)) (M.effect c s)) : wpc M I Q (command c) s :=
  ⟨hI, hI', hQ⟩

theorem wpc_refuseIf {bad : Bool} {e : E} {Q : Except E Unit → S → Prop} (hI : I s)
    (hbad : bad = true → Q (.error e) s) (hgood : bad = false → Q (.ok ()) s) :
    wpc M I Q (refuseIf bad e) s := by
  cases bad with
  | true => exact ⟨hI, hbad rfl⟩
  | false => exact ⟨hI, hgood rfl⟩

theorem wpc_mapError {f : E → F} {Q' : Except F α → S → Prop} (h : wpc M I Q x s)
    (hok : ∀ a t, Q (.ok a) t → Q' (.ok a) t)
    (herr : ∀ e t, Q (.error e) t → Q' (.error (f e)) t) : wpc M I Q' (mapError f x) s := by
  refine Prog.wpc.bind h fun r t hI hr => ⟨hI, ?_⟩
  cases r with
  | ok a => exact hok a t hr
  | error e => exact herr e t hr

/-! The same rules where the program goes on, so that a proof walks down a program line by line. -/

theorem wpc_bind_command {c : C} {f : R c → Act C R E α} (hI : I s)
    (h : wpc M I Q (f (M.answer c s)) (M.effect c s)) : wpc M I Q (command c >>= f) s :=
  ⟨hI, h⟩

theorem wpc_bind_refuseIf {bad : Bool} {e : E} {f : Unit → Act C R E α} (hI : I s)
    (hbad : bad = true → Q (.error e) s) (hgood : bad = false → wpc M I Q (f ()) s) :
    wpc M I Q (refuseIf bad e >>= f) s := by
  cases bad with
  | true => exact ⟨hI, hbad rfl⟩
  | false => exact hgood rfl

theorem wpc_bind_ofExcept {r : Except E β} {f : β → Act C R E α} (hI : I s)
    (herr : ∀ e, r = .error e → Q (.error e) s) (hok : ∀ b, r = .ok b → wpc M I Q (f b) s) :
    wpc M I Q (ofExcept r >>= f) s := by
  cases r with
  | error e => exact ⟨hI, herr e rfl⟩
  | ok b => exact hok b rfl

theorem wpc_bind_mapError {f : E → F} {g : α → Act C R F β} {Q' : Except F β → S → Prop}
    (h : wpc M I Q x s) (hok : ∀ a t, I t → Q (.ok a) t → wpc M I Q' (g a) t)
    (herr : ∀ e t, Q (.error e) t → Q' (.error (f e)) t) : wpc M I Q' (mapError f x >>= g) s := by
  refine wpc_bind (Q := fun r t => match r with
    | .ok a => Q (.ok a) t
    | .error e => Q' (.error e) t) ?_ hok fun _ _ _ he => he
  exact wpc_mapError h (fun _ _ ha => ha) herr

/-- A call whose result and last state are known. -/
theorem wpc_bind_exact {a : α} {s' : S} {f : α → Act C R E β} {Q' : Except E β → S → Prop}
    (h : wpc M I (fun r t => r = .ok a ∧ t = s') x s) (hf : wpc M I Q' (f a) s') :
    wpc M I Q' (x >>= f) s := by
  refine wpc_bind h ?_ ?_
  · rintro b t - ⟨hb, rfl⟩
    cases hb
    exact hf
  · rintro e t - ⟨he, -⟩
    cases he

theorem wpc_tryCatch {handler : E → Act C R E α} {Q' : Except E α → S → Prop} (h : wpc M I Q x s)
    (hok : ∀ a t, I t → Q (.ok a) t → Q' (.ok a) t)
    (herr : ∀ e t, I t → Q (.error e) t → wpc M I Q' (handler e) t) :
    wpc M I Q' (tryCatch x handler) s := by
  refine Prog.wpc.bind h fun r t hI hr => ?_
  cases r with
  | ok a => exact ⟨hI, hok a t hI hr⟩
  | error e => exact herr e t hI hr

variable (h : wpc M I Q x s)
include h

theorem wpc_mono (hI : ∀ t, I t → J t) (hQ : ∀ r t, Q r t → Q' r t) : wpc M J Q' x s :=
  Prog.wpc.mono h hI hQ

theorem wpc.post : Q (x.exec M s).1 (x.exec M s).2 := Prog.wpc.run_post h

theorem wpc.inv (n : Nat) : I (x.cut M n s) := Prog.wpc.cut_inv h n

omit h

theorem cut_succ (x : Act C R E α) (n : Nat) (s : S) :
    x.cut M (n + 1) s = x.cut M n s ∨ ∃ c, x.cut M (n + 1) s = M.effect c (x.cut M n s) :=
  Prog.cut_succ _ n s

/-! ### Programs that keep an invariant -/

variable (M) in
/-- `P` holds all along the program and where it ends, whatever it ends with. -/
def Keeps (P : S → Prop) (x : Act C R E α) : Prop := ∀ s, P s → wpc M P (fun _ t => P t) x s

section Keeps

variable {P : S → Prop}

theorem keeps_pure (a : α) : Keeps M P (pure a : Act C R E α) := fun _ h => wpc_pure h h

theorem keeps_refuseIf (bad : Bool) (e : E) : Keeps M P (refuseIf bad e : Act C R E Unit) :=
  fun _ h => wpc_refuseIf h (fun _ => h) fun _ => h

theorem keeps_command {c : C} (hc : ∀ s, P s → P (M.effect c s)) :
    Keeps M P (command c : Act C R E (R c)) :=
  fun s h => wpc_command h (hc s h) (hc s h)

theorem Keeps.bind {f : α → Act C R E β} (hx : Keeps M P x) (hf : ∀ a, Keeps M P (f a)) :
    Keeps M P (x >>= f) :=
  fun s h => wpc_bind (hx s h) (fun a t _ ht => hf a t ht) fun _ _ _ ht => ht

/-- A program that keeps `P`, in front of one that needs more. -/
theorem Keeps.wpc_bind {f : α → Act C R E β} {Q' : Except E β → S → Prop} (hx : Keeps M P x)
    (hs : P s) (hf : ∀ a t, P t → wpc M P Q' (f a) t) (herr : ∀ e t, P t → Q' (.error e) t) :
    wpc M P Q' (x >>= f) s :=
  Act.wpc_bind (hx s hs) (fun a t _ ht => hf a t ht) fun e t _ ht => herr e t ht

/-- What follows a pure computation may rely on its result. -/
theorem keeps_bind_ofExcept {r : Except E β} {f : β → Act C R E α}
    (hf : ∀ b, r = .ok b → Keeps M P (f b)) : Keeps M P (ofExcept r >>= f) :=
  fun s h => wpc_bind_ofExcept h (fun _ _ => h) fun b hb => hf b hb s h

theorem Keeps.mapError (hx : Keeps M P x) (f : E → F) : Keeps M P (mapError f x) :=
  fun s h => wpc_mapError (hx s h) (fun _ _ ht => ht) fun _ _ ht => ht

end Keeps

/-! ### Commands -/

/-- Whatever the device answers, every command satisfies `G` and the outcome satisfies `Q`. -/
def emits (G : C → Prop) (Q : Except E α → Prop) (x : Act C R E α) : Prop := Prog.emits G Q x.run

section Emits

variable {G : C → Prop} {Q Q' : Except E α → Prop}

theorem emits_pure {a : α} (hQ : Q (.ok a)) : emits G Q (pure a : Act C R E α) := hQ

theorem emits_throw {e : E} (hQ : Q (.error e)) : emits G Q (throw e : Act C R E α) := hQ

theorem emits_bind {f : α → Act C R E β} {Q' : Except E β → Prop} (h : emits G Q x)
    (hok : ∀ a, Q (.ok a) → emits G Q' (f a)) (herr : ∀ e, Q (.error e) → Q' (.error e)) :
    emits G Q' (x >>= f) := by
  refine Prog.emits.bind h fun r hr => ?_
  cases r with
  | ok a => exact hok a hr
  | error e => exact herr e hr

theorem emits_bind_command {c : C} {f : R c → Act C R E α} (hc : G c)
    (h : ∀ r, emits G Q (f r)) : emits G Q (command c >>= f) :=
  ⟨hc, h⟩

theorem emits_bind_refuseIf {bad : Bool} {e : E} {f : Unit → Act C R E α}
    (hbad : bad = true → Q (.error e)) (hgood : bad = false → emits G Q (f ())) :
    emits G Q (refuseIf bad e >>= f) := by
  cases bad with
  | true => exact hbad rfl
  | false => exact hgood rfl

theorem emits_bind_ofExcept {r : Except E β} {f : β → Act C R E α}
    (herr : ∀ e, r = .error e → Q (.error e)) (hok : ∀ b, r = .ok b → emits G Q (f b)) :
    emits G Q (ofExcept r >>= f) := by
  cases r with
  | error e => exact herr e rfl
  | ok b => exact hok b rfl

theorem emits_mapError {f : E → F} {Q' : Except F α → Prop} (h : emits G Q x)
    (hok : ∀ a, Q (.ok a) → Q' (.ok a)) (herr : ∀ e, Q (.error e) → Q' (.error (f e))) :
    emits G Q' (mapError f x) := by
  refine Prog.emits.bind h fun r hr => ?_
  cases r with
  | ok a => exact hok a hr
  | error e => exact herr e hr

theorem emits.trace (h : emits G Q x) (M : Machine C R S) (s : S) : ∀ c ∈ x.trace M s, G c :=
  Prog.emits.trace h M s

/-- A callee whose commands change nothing: what follows starts in the same state. -/
theorem wpc_bind_still {f : E → F} {g : α → Act C R F β} {Q' : Except F β → S → Prop}
    (h : emits G Q x) (hG : ∀ c, G c → ∀ s, M.effect c s = s) (herr : ∀ e, Q' (.error e) s)
    (hok : ∀ a, x.exec M s = (.ok a, s) → wpc M (· = s) Q' (g a) s) :
    wpc M (· = s) Q' (mapError f x >>= g) s := by
  have hcall : wpc M (· = s) (fun r t => t = s ∧ ∀ a, r = .ok a → x.exec M s = (.ok a, s))
      (mapError f x) s := by
    refine wpc_mapError (Prog.emits.still h hG s) ?_ ?_
    · rintro a t ⟨rfl, hran⟩
      exact ⟨rfl, fun _ ha => Except.ok.inj ha ▸ hran⟩
    · rintro e t ⟨rfl, -⟩
      exact ⟨rfl, nofun⟩
  refine wpc_bind hcall ?_ ?_
  · rintro a t rfl ⟨-, hran⟩
    exact hok a (hran a rfl)
  · rintro e t rfl -
    exact herr e

end Emits

/-! ### Runs that succeed -/

variable (M) in
/-- The program runs from `s` to `t` without an error, with the result `a`, and issues the commands
`l`. -/
def Ran (x : Act C R E α) (s : S) (l : List C) (a : α) (t : S) : Prop :=
  x.exec M s = (.ok a, t) ∧ x.trace M s = l

section Ran

variable {l : List C} {a : α} {t : S}

theorem ran_of_exec (h : x.exec M s = (.ok a, t)) : Ran M x s (x.trace M s) a t := ⟨h, rfl⟩

/-- **A sequence succeeds where both parts do**, one after the other. -/
theorem ran_bind {f : α → Act C R E β} {b : β} {u : S} :
    Ran M (x >>= f) s l b u ↔
      ∃ l₁ l₂ a t, Ran M x s l₁ a t ∧ Ran M (f a) t l₂ b u ∧ l = l₁ ++ l₂ := by
  have hexec : (x >>= f).exec M s =
      Prog.run M (ExceptT.bindCont f (x.exec M s).1) (x.exec M s).2 := Prog.run_bind M x.run _ s
  have htrace : (x >>= f).trace M s = x.trace M s ++
      Prog.trace M (ExceptT.bindCont f (x.exec M s).1) (x.exec M s).2 :=
    Prog.trace_bind M x.run _ s
  constructor
  · rintro ⟨hrun, rfl⟩
    rw [hexec] at hrun
    cases hx : x.exec M s with
    | mk r t =>
        rw [hx] at hrun htrace
        cases r with
        | ok a => exact ⟨_, _, a, t, ⟨hx, rfl⟩, ⟨hrun, rfl⟩, htrace⟩
        | error e => cases hrun
  · rintro ⟨l₁, l₂, a, t, ⟨hx, rfl⟩, ⟨hf, rfl⟩, rfl⟩
    rw [hx] at hexec htrace
    exact ⟨hexec.trans hf, htrace⟩

theorem ran_pure {b : α} : Ran M (pure b : Act C R E α) s l a t ↔ l = [] ∧ a = b ∧ t = s := by
  constructor
  · rintro ⟨hexec, rfl⟩
    cases hexec
    exact ⟨rfl, rfl, rfl⟩
  · rintro ⟨rfl, rfl, rfl⟩
    exact ⟨rfl, rfl⟩

theorem ran_ofExcept {r : Except E α} :
    Ran M (ofExcept r : Act C R E α) s l a t ↔ l = [] ∧ r = .ok a ∧ t = s := by
  constructor
  · rintro ⟨hexec, rfl⟩
    cases hexec
    exact ⟨rfl, rfl, rfl⟩
  · rintro ⟨rfl, rfl, rfl⟩
    exact ⟨rfl, rfl⟩

theorem ran_refuseIf {bad : Bool} {e : E} {u : Unit} :
    Ran M (refuseIf bad e : Act C R E Unit) s l u t ↔ l = [] ∧ bad = false ∧ t = s := by
  constructor
  · rintro ⟨hexec, rfl⟩
    cases bad with
    | true => cases hexec
    | false =>
        cases hexec
        exact ⟨rfl, rfl, rfl⟩
  · rintro ⟨rfl, rfl, rfl⟩
    exact ⟨rfl, rfl⟩

theorem ran_command {c : C} {r : R c} :
    Ran M (command c : Act C R E (R c)) s l r t ↔ l = [c] ∧ r = M.answer c s ∧ t = M.effect c s := by
  constructor
  · rintro ⟨hexec, rfl⟩
    cases hexec
    exact ⟨rfl, rfl, rfl⟩
  · rintro ⟨rfl, rfl, rfl⟩
    exact ⟨rfl, rfl⟩

theorem ran_mapError {f : E → F} : Ran M (mapError f x) s l a t ↔ Ran M x s l a t := by
  have hexec : (mapError f x).exec M s = ((x.exec M s).1.mapError f, (x.exec M s).2) :=
    Prog.run_bind M x.run _ s
  have htrace : (mapError f x).trace M s = x.trace M s :=
    (Prog.trace_bind M x.run _ s).trans (List.append_nil _)
  unfold Ran
  rw [hexec, htrace]
  cases x.exec M s with
  | mk r u =>
      cases r with
      | ok b | error e => simp [Except.mapError]

/-- A program that is known to emit only some commands has emitted only those. -/
theorem Ran.emitted {G : C → Prop} {Q : Except E α → Prop} (h : Ran M x s l a t)
    (hx : emits G Q x) : ∀ c ∈ l, G c := by
  rw [← h.2]
  exact hx.trace M s

/-- What every run of a program satisfies, a successful run satisfies. -/
theorem Ran.post (h : Ran M x s l a t) (hx : wpc M I Q x s) : Q (.ok a) t := by
  have hpost := hx.post
  rw [h.1] at hpost
  exact hpost

end Ran

/-! ### Programs that succeed -/

variable (M) in
/-- Run from `s` without a cut, the program succeeds, and `Q` holds of its result and last state. -/
def Completes (x : Act C R E α) (s : S) (Q : α → S → Prop) : Prop :=
  ∃ l a t, Ran M x s l a t ∧ Q a t

section Completes

variable {P : α → S → Prop} {Q : β → S → Prop}

theorem completes_pure {a : α} (h : P a s) : Completes M (pure a : Act C R E α) s P :=
  ⟨_, _, _, ran_pure.mpr ⟨rfl, rfl, rfl⟩, h⟩

theorem completes_refuseIf {bad : Bool} {e : E} {P : Unit → S → Prop} (hbad : bad = false)
    (h : P () s) : Completes M (refuseIf bad e : Act C R E Unit) s P :=
  ⟨_, _, _, ran_refuseIf.mpr ⟨rfl, hbad, rfl⟩, h⟩

variable {f : α → Act C R E β}

theorem Completes.bind (hx : Completes M x s P) (hf : ∀ a t, P a t → Completes M (f a) t Q) :
    Completes M (x >>= f) s Q := by
  obtain ⟨l₁, a, t, hran, hP⟩ := hx
  obtain ⟨l₂, b, u, hran', hQ⟩ := hf a t hP
  exact ⟨_, b, u, ran_bind.mpr ⟨l₁, l₂, a, t, hran, hran', rfl⟩, hQ⟩

/-- A part whose run is known. -/
theorem Ran.completes_bind {l : List C} {a : α} {t : S} (hx : Ran M x s l a t)
    (hf : Completes M (f a) t Q) : Completes M (x >>= f) s Q := by
  obtain ⟨l', b, u, hran, hQ⟩ := hf
  exact ⟨_, b, u, ran_bind.mpr ⟨l, l', a, t, hx, hran, rfl⟩, hQ⟩

theorem completes_bind_ofExcept {r : Except E α} {a : α} (h : r = .ok a)
    (hf : Completes M (f a) s Q) : Completes M (ofExcept r >>= f) s Q := by
  subst h
  exact hf

theorem completes_bind_refuseIf {bad : Bool} {e : E} {f : Unit → Act C R E β} (h : bad = false)
    (hf : Completes M (f ()) s Q) : Completes M (refuseIf bad e >>= f) s Q := by
  subst h
  exact hf

theorem completes_bind_command {c : C} {f : R c → Act C R E β}
    (hf : Completes M (f (M.answer c s)) (M.effect c s) Q) :
    Completes M (command c >>= f) s Q :=
  Ran.completes_bind (ran_command.mpr ⟨rfl, rfl, rfl⟩) hf

variable (hx : Completes M x s P)
include hx

theorem Completes.mapError (f : E → F) : Completes M (Act.mapError f x) s P := by
  obtain ⟨l, a, t, hran, hP⟩ := hx
  exact ⟨l, a, t, ran_mapError.mpr hran, hP⟩

theorem Completes.mono {P' : α → S → Prop} (h : ∀ a t, P a t → P' a t) : Completes M x s P' := by
  obtain ⟨l, a, t, hran, hP⟩ := hx
  exact ⟨l, a, t, hran, h a t hP⟩

/-- There is only one run. -/
theorem Completes.of_ran {l : List C} {a : α} {t : S} (hran : Ran M x s l a t) : P a t := by
  obtain ⟨l', b, u, hran', hP⟩ := hx
  obtain ⟨rfl, rfl⟩ : b = a ∧ u = t := by
    have hsame := hran'.1.symm.trans hran.1
    simpa using hsame
  exact hP

/-- What every run satisfies holds of this one too. -/
theorem Completes.and_wpc (h : wpc M I Q' x s) :
    Completes M x s fun a t => P a t ∧ Q' (.ok a) t := by
  obtain ⟨l, a, t, hran, hP⟩ := hx
  exact ⟨l, a, t, hran, hP, hran.post h⟩

omit hx

/-- A program whose outcome is known to be a result completes. -/
theorem wpc.completes (h : wpc M I (fun r t => ∃ a, r = .ok a ∧ P a t) x s) :
    Completes M x s P := by
  obtain ⟨a, ha, hP⟩ := h.post
  exact ⟨_, a, _, ran_of_exec (Prod.ext ha rfl), hP⟩

theorem Completes.exec_eq (h : Completes M x s P) :
    ∃ a, (x.exec M s).1 = .ok a ∧ P a (x.exec M s).2 := by
  obtain ⟨l, a, t, hran, hP⟩ := h
  rw [hran.1]
  exact ⟨a, rfl, hP⟩

end Completes

end Act

end Crash
