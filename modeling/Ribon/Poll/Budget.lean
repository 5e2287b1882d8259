/-
Programs that poll a device under a budget.

Each call of the device takes one answer.  A program that waits for the device pays with a
tick; one that takes an answer and goes on without it is counted as having passed it over.
What a program can cost is said with credits.  A call uses one up, a tick that is paid and an
answer that is passed over give some back, and `Pays` says that a program which starts with so
many credits ends with at least so many.
-/
import Mathlib.Tactic.Common

namespace Poll

/-- The answers that are still to come, the ticks that are left, and how many answers were passed
over, which no program reads. -/
structure Link (A : Type) where
  answers : List A
  ticks : Nat
  passed : Nat

/-- A program waits for an answer, or it is done. -/
inductive Outcome (A E R : Type) where
  | waiting (link : Link A)
  | done (result : Except E R) (link : Link A)

def Outcome.link {A E R : Type} : Outcome A E R → Link A
  | .waiting link => link
  | .done _ link => link

def Run (A E R : Type) : Type := Link A → Outcome A E R

section Programs

variable {A E R S : Type}

instance : Monad (Run A E) where
  pure r := fun link => .done (.ok r) link
  bind x f := fun link =>
    match x link with
    | .waiting link => .waiting link
    | .done (.error e) link => .done (.error e) link
    | .done (.ok r) link => f r link

variable {x : Run A E R} {f : R → Run A E S} {link after : Link A}

theorem bind_apply : (x >>= f) link = match x link with
    | .waiting link => .waiting link
    | .done (.error e) link => .done (.error e) link
    | .done (.ok r) link => f r link := rfl

theorem bind_waiting (h : x link = .waiting after) : (x >>= f) link = .waiting after := by
  rw [bind_apply, h]

theorem bind_error {e : E} (h : x link = .done (.error e) after) : (x >>= f) link = .done (.error e) after := by
  rw [bind_apply, h]

theorem bind_ok {r : R} (h : x link = .done (.ok r) after) : (x >>= f) link = f r after := by
  rw [bind_apply, h]

/-- One call of the device. -/
def ask : Run A E A := fun link =>
  match link.answers with
  | [] => .waiting link
  | answer :: rest => .done (.ok answer) { link with answers := rest }

def fail (e : E) : Run A E R := fun link => .done (.error e) link

/-- Pay a tick; there may be none left. -/
def tick (e : E) : Run A E Unit := fun link =>
  if link.ticks = 0 then .done (.error e) link
  else .done (.ok ()) { link with ticks := link.ticks - 1 }

/-- The ticks that are left. -/
def remaining : Run A E Nat := fun link => .done (.ok link.ticks) link

/-- The same program with one error for all. -/
def orElse (e : E) (run : Run A E R) : Run A E R := fun link =>
  match run link with
  | .done (.error _) after => .done (.error e) after
  | outcome => outcome

/-- A program that gives a result has taken an answer, and has not passed it over. -/
def Takes (run : Run A E R) : Prop :=
  ∀ link r after, run link = .done (.ok r) after →
    after.answers.length < link.answers.length ∧
      after.passed + after.answers.length < link.passed + link.answers.length

/-- How a turn of a loop ends. -/
inductive Turn (S R : Type) where
  | again (state : S)
  | over (state : S)
  | result (r : R)

/-- A loop: turn after turn, until one gives a result.  A turn that ends with `over` has passed
its answer over. -/
def turns (turn : S → Run A E (Turn S R)) (hturn : ∀ state, Takes (turn state)) (state : S)
    (link : Link A) : Outcome A E R :=
  match _h : turn state link with
  | .waiting after => .waiting after
  | .done (.error e) after => .done (.error e) after
  | .done (.ok (.result r)) after => .done (.ok r) after
  | .done (.ok (.again next)) after => turns turn hturn next after
  | .done (.ok (.over next)) after =>
      turns turn hturn next { after with passed := after.passed + 1 }
termination_by link.answers.length
decreasing_by
  · exact (hturn _ _ _ _ (by assumption)).1
  · exact (hturn _ _ _ _ (by assumption)).1

end Programs

/-! ### What a program costs -/

section Cost

variable {A E R S Q : Type} {t p n m k : Nat} {before middle after : Link A}

/-- From one link to the other `n` credits become at least `m`, where a tick is worth `t` and an
answer that is passed over `p`; and no answer is passed over that was not taken. -/
structure Within (t p n m : Nat) (before after : Link A) : Prop where
  answers : after.answers.length ≤ before.answers.length
  ticks : after.ticks ≤ before.ticks
  passed : before.passed ≤ after.passed
  taken : after.passed + after.answers.length ≤ before.passed + before.answers.length
  cost : before.answers.length + t * after.ticks + p * before.passed + m ≤
    after.answers.length + t * before.ticks + p * after.passed + n

theorem Within.refl (link : Link A) (h : m ≤ n) : Within t p n m link link :=
  ⟨Nat.le_refl _, Nat.le_refl _, Nat.le_refl _, Nat.le_refl _, Nat.add_le_add_left h _⟩

theorem Within.trans (h : Within t p n m before middle) (h' : Within t p m k middle after) :
    Within t p n k before after where
  answers := Nat.le_trans h'.answers h.answers
  ticks := Nat.le_trans h'.ticks h.ticks
  passed := Nat.le_trans h.passed h'.passed
  taken := Nat.le_trans h'.taken h.taken
  cost := by
    have hfirst := h.cost
    have hsnd := h'.cost
    omega

theorem Within.weaken {n' m' : Nat} (h : Within t p n m before after) (hn : n + k ≤ n')
    (hm : m' ≤ m + k) : Within t p n' m' before after :=
  { h with
    cost := by
      have hcost := h.cost
      omega }

/-- What is left can be forgotten. -/
theorem Within.forget (h : Within t p n m before after) : Within t p n 0 before after :=
  h.weaken (k := 0) (Nat.le_refl n) (Nat.zero_le _)

/-- What an outcome leaves of the credits that its program started with.  A program waits only when
no answer is there. -/
def Paid (t p n : Nat) (post : R → Nat) (before : Link A) : Outcome A E R → Prop
  | .done (.ok r) after => Within t p n (post r) before after
  | .done (.error _) after => Within t p n 0 before after
  | .waiting after => after.answers = [] ∧ Within t p n 0 before after

variable {post : R → Nat}

theorem Within.paid {outcome : Outcome A E R} (h : Within t p n m before middle)
    (h' : Paid t p m post middle outcome) :
    Paid t p n post before outcome := by
  match outcome, h' with
  | .done (.ok _) _, h' => exact h.trans h'
  | .done (.error _) _, h' => exact h.trans h'
  | .waiting _, h' => exact ⟨h'.1, h.trans h'.2⟩

/-- A program leaves so many of its credits, however it ends. -/
def Pays (t p n : Nat) (run : Run A E R) (post : R → Nat) : Prop :=
  ∀ link, Paid t p n post link (run link)

/-- All of it within the credits. -/
theorem Pays.within {run : Run A E R} (h : Pays t p n run post) (link : Link A) :
    Within t p n 0 link (run link).link := by
  have hlink := h link
  cases hrun : run link with
  | waiting after =>
      rw [hrun] at hlink
      exact hlink.2
  | done result after =>
      rw [hrun] at hlink
      cases result with
      | error e => exact hlink
      | ok r => exact Within.forget hlink

theorem pays_pure {r : R} (h : post r ≤ n) :
    Pays t p n (pure r : Run A E R) post :=
  fun link => .refl link h

theorem pays_fail {e : E} : Pays t p n (fail e : Run A E R) post :=
  fun link => .refl link (Nat.zero_le n)

theorem pays_ask : Pays t p (n + 1) (ask : Run A E A) fun _ => n := by
  intro link
  unfold ask
  cases hanswers : link.answers with
  | nil => exact ⟨hanswers, .refl link (Nat.zero_le _)⟩
  | cons answer rest =>
      refine ⟨?_, Nat.le_refl _, Nat.le_refl _, ?_, ?_⟩
      all_goals
        dsimp only
        rw [hanswers, List.length_cons]
        omega

theorem pays_remaining : Pays t p n (remaining : Run A E Nat) fun _ => n :=
  fun link => .refl link (Nat.le_refl n)

theorem Pays.orElse {run : Run A E R} (h : Pays t p n run post) (e : E) :
    Pays t p n (orElse e run) post := by
  intro link
  have hlink := h link
  unfold Poll.orElse
  match hrun : run link, hlink with
  | .done (.ok _) _, hlink | .done (.error _) _, hlink | .waiting _, hlink => exact hlink

/-- A tick that is paid is worth `t`. -/
theorem pays_tick {e : E} : Pays t p n (tick e : Run A E Unit) fun _ => n + t := by
  intro link
  unfold tick
  split
  · exact .refl link (Nat.zero_le n)
  · next h =>
    obtain ⟨rest, hrest⟩ := Nat.exists_eq_succ_of_ne_zero h
    refine ⟨Nat.le_refl _, Nat.sub_le _ _, Nat.le_refl _, Nat.le_refl _, ?_⟩
    dsimp only
    rw [hrest, Nat.succ_sub_one, Nat.mul_succ]
    omega

/-- A program and what follows it. -/
theorem Pays.bind {x : Run A E R} {f : R → Run A E Q} {middle : R → Nat} {post : Q → Nat}
    (h : Pays t p n x middle) (hf : ∀ r, Pays t p (middle r) (f r) post) :
    Pays t p n (x >>= f) post := by
  intro link
  have hx := h link
  cases hlink : x link with
  | waiting after =>
      rw [hlink] at hx
      rw [bind_waiting hlink]
      exact hx
  | done result after =>
      rw [hlink] at hx
      cases result with
      | error e =>
          rw [bind_error hlink]
          exact hx
      | ok r =>
          rw [bind_ok hlink]
          exact Within.paid hx (hf r after)

theorem pays_ite {c : Prop} [Decidable c] {x y : Run A E R} (hx : Pays t p n x post)
    (hy : Pays t p n y post) :
    Pays t p n (if c then x else y) post := by
  split
  · exact hx
  · exact hy

/-- More credits do no harm. -/
theorem Pays.weaken {run : Run A E R} {post' : R → Nat} (h : Pays t p n run post) (hle : n + k ≤ m)
    (hpost : ∀ r, post' r ≤ post r + k) : Pays t p m run post' := by
  intro link
  have hlink := h link
  match hrun : run link, hlink with
  | .done (.ok r) after, hlink => exact Within.weaken hlink hle (hpost r)
  | .done (.error _) after, hlink => exact Within.weaken hlink hle (Nat.zero_le _)
  | .waiting after, hlink => exact ⟨hlink.1, hlink.2.weaken hle (Nat.zero_le _)⟩

/-- A program that takes an answer, whatever follows. -/
theorem Takes.bind {x : Run A E R} {f : R → Run A E Q} {post : R → Q → Nat} {budget : R → Nat}
    (h : Takes x) (hf : ∀ r, Pays t p (budget r) (f r) (post r)) : Takes (x >>= f) := by
  intro link q after hrun
  cases hlink : x link with
  | waiting middle =>
      rw [bind_waiting hlink] at hrun
      cases hrun
  | done result middle =>
      cases result with
      | error e =>
          rw [bind_error hlink] at hrun
          cases hrun
      | ok r =>
          rw [bind_ok hlink] at hrun
          have hfirst := h link r middle hlink
          have hrest := (hf r).within middle
          rw [hrun] at hrest
          exact ⟨Nat.lt_of_le_of_lt hrest.answers hfirst.1,
            Nat.lt_of_le_of_lt hrest.taken hfirst.2⟩

theorem takes_ask : Takes (ask : Run A E A) := by
  intro link answer after hrun
  unfold ask at hrun
  cases hanswers : link.answers with
  | nil =>
      rw [hanswers] at hrun
      cases hrun
  | cons first rest =>
      rw [hanswers] at hrun
      cases hrun
      exact ⟨Nat.lt_succ_self _, Nat.lt_succ_self _⟩

section Loop

variable {turn : S → Run A E (Turn S R)} {hturn : ∀ state, Takes (turn state)}

/-- What a turn leaves, given what a state needs. -/
def Turn.credits (p : Nat) (rank : S → Nat) (post : R → Nat) : Turn S R → Nat
  | .again state => rank state
  | .over state => rank state - p
  | .result r => post r

/-- **The rule for a loop.**  What a state needs pays for its turn and for the state after it. -/
theorem pays_turns (rank : S → Nat) {post : R → Nat}
    (h : ∀ state, Pays t p (rank state) (turn state) (Turn.credits p rank post)) (state : S) :
    Pays t p (rank state) (turns turn hturn state) post := by
  intro link
  fun_induction turns turn hturn state link with
  | case1 state link after hrun | case2 state link e after hrun
  | case3 state link r after hrun =>
      have hlink := h state link
      rw [hrun] at hlink
      exact hlink
  | case4 state link next after hrun ih =>
      have hlink := h state link
      rw [hrun] at hlink
      exact Within.paid hlink ih
  | case5 state link next after hrun ih =>
      have hlink : Within t p (rank state) (rank next - p) link after := by
        have hpaid := h state link
        rw [hrun] at hpaid
        exact hpaid
      -- the turn has taken an answer, which is the one that is passed over
      have htaken := (hturn state link _ _ hrun).2
      have hover : Within t p (rank state) (rank next) link
          { after with passed := after.passed + 1 } := by
        have hcost := hlink.cost
        have hpassed := hlink.passed
        refine ⟨hlink.answers, hlink.ticks, by dsimp only; omega, by dsimp only; omega, ?_⟩
        dsimp only
        rw [Nat.mul_succ]
        omega
      exact hover.paid ih

theorem turns_waiting {state : S} {link after : Link A} (h : turn state link = .waiting after) :
    turns turn hturn state link = .waiting after := by
  rw [turns]
  split <;> simp_all

theorem turns_result {state : S} {link after : Link A} {r : R}
    (h : turn state link = .done (.ok (.result r)) after) :
    turns turn hturn state link = .done (.ok r) after := by
  rw [turns]
  split <;> simp_all

theorem turns_over {state next : S} {link after : Link A}
    (h : turn state link = .done (.ok (.over next)) after) :
    turns turn hturn state link =
      turns turn hturn next { after with passed := after.passed + 1 } := by
  rw [turns]
  split <;> simp_all

/-- The result of a loop comes with an answer. -/
theorem takes_turns (state : S) : Takes (turns turn hturn state : Run A E R) := by
  intro link r after h
  fun_induction turns turn hturn state link with
  | case1 state link after' hrun => cases h
  | case2 state link e after' hrun => cases h
  | case3 state link r' after' hrun =>
      cases h
      exact hturn state link _ _ hrun
  | case4 state link next after' hrun ih =>
      have hfirst := hturn state link _ _ hrun
      have hrest := ih h
      exact ⟨Nat.lt_trans hrest.1 hfirst.1, Nat.lt_trans hrest.2 hfirst.2⟩
  | case5 state link next after' hrun ih =>
      have hfirst := hturn state link _ _ hrun
      have hrest := ih h
      dsimp only at hrest
      omega

end Loop

end Cost

end Poll
