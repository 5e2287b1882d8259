/-
Whole lives of an update journal.

A history starts with power on and goes on with calls.  A call runs to its end,
or power fails somewhere in it and the machine starts again from what the media
then holds.  A call that reports an interruption counts as cut, since its caller
has to start over from the media.  Each start opens the journal once and leaves
a note of what it found.

`Survives` is what a property has to satisfy to hold through all of this.
-/
import Ribon.Update.Install

namespace Ribon

open Wire Crash Crash.TwoSlot

/-- The newest snapshot that a commit returned or a start found. -/
def lastCommitted : List JournalNote → Option TransactionSnapshot
  | [] => none
  | .commitReturns snapshot :: _ => some snapshot
  | .recovered snapshot :: _ => some snapshot
  | .commitBegins .. :: rest => lastCommitted rest

/-- The generations that the starts found, newest first. -/
def recoveredGenerations : List JournalNote → List UInt64
  | [] => []
  | .recovered snapshot :: rest => snapshot.journalGeneration :: recoveredGenerations rest
  | _ :: rest => recoveredGenerations rest

namespace Transaction

/-! ### Calls and power cuts -/

/-- A call on the update journal. -/
inductive JournalCall where
  | init (metadata : SlotMetadata) (observer : Option TransactionObserver)
  | install (request : TransactionalInstallRequest)
  | confirm (request : ConfirmPendingRequest)

namespace JournalCall

/-- The call is on this journal, and an install has the layout and the provider of the journal. -/
def Over (journal : TransactionJournal) : JournalCall → Prop
  | .init .. => True
  | .install request => request.journal = journal ∧
      request.install.provider = some journal.provider ∧
      request.install.layout = some journal.layout
  | .confirm request => request.journal = journal

/-- The call as a program. -/
def act (journal : TransactionJournal) : JournalCall → Act TransactionStatus Unit
  | .init metadata observer => do
      let _ ← transactionInitialize journal metadata observer
  | .install request => do
      let _ ← installTransactionally request
  | .confirm request => do
      let _ ← transactionConfirmPending request

/-- The call is an initialization that succeeded. -/
def completes : JournalCall → Except TransactionStatus Unit → Bool
  | .init .., .ok _ => true
  | _, _ => false

end JournalCall

/-- What a start does: it opens the journal and notes what it found. -/
def startUp (journal : TransactionJournal) : Act TransactionStatus Unit := do
  match ← transactionTryOpen journal with
  | .ok snapshot => note (.recovered snapshot)
  | .error _ => pure ()

/-- Power fails in `t` and comes back in `t'`.  A byte in the cache may hold anything then, and an
object of the journal holds its old bytes, its new ones, or bytes that its decoder rejects.  Nothing
is said about other devices and the memory. -/
structure PowerCut (journal : TransactionJournal) (t t' : World) : Prop where
  media : ∃ img, (t.media journal.provider.device).CrashTo (fun _ _ => True) img ∧
    (journalView journal t).CrashTo scheme.Rejects (Store.viewImage (journalOverlay journal) img) ∧
    t'.media journal.provider.device = Store.fresh img
  notes : t'.notes = t.notes

/-- The histories of a journal.  The index says whether an initialization has returned. -/
inductive JournalRun (journal : TransactionJournal) : Bool → World → Prop
  /-- Power on. -/
  | start {w : World} (clean : ∀ a, ¬ (w.media journal.provider.device).dirty a)
      (notes : w.notes = []) :
      JournalRun journal false (Act.exec machine (startUp journal) w).2
  /-- A call that returns. -/
  | returned {initialized : Bool} {w : World} (run : JournalRun journal initialized w)
      (call : JournalCall) (hover : call.Over journal) (observer : ObserverState)
      (status : (Act.exec machine (call.act journal) { w with observer := observer }).1 ≠
        .error .interrupted) :
      JournalRun journal
        (initialized || call.completes
          (Act.exec machine (call.act journal) { w with observer := observer }).1)
        (Act.exec machine (call.act journal) { w with observer := observer }).2
  /-- A call that is cut at one of its commands, and the next start. -/
  | cut {initialized : Bool} {w t : World} (run : JournalRun journal initialized w)
      (call : JournalCall) (hover : call.Over journal) (observer : ObserverState) (n : Nat)
      (power : PowerCut journal (Act.cut machine n (call.act journal) { w with observer := observer }) t) :
      JournalRun journal initialized (Act.exec machine (startUp journal) t).2

/-! ### What survives a history -/

/-- The commits that calls on one journal make. -/
inductive CallStep (journal : TransactionJournal) (w : World) (S : TransactionSnapshot)
    (metadata : SlotMetadata) (target : UInt32) : Prop
  | install (request : TransactionalInstallRequest)
      (hover : (JournalCall.install request).Over journal)
      (step : InstallStep request w S metadata target)
  | confirm (request : ConfirmPendingRequest) (hover : request.journal = journal)
      (step : ConfirmStep request w S metadata target)

/-- The journal has never been open, and nothing is in the cache. -/
structure Idle (journal : TransactionJournal) (w : World) : Prop where
  clean : ∀ a, ¬ (w.media journal.provider.device).dirty a
  closed : ∀ S, openImage journal (journalView journal w).durable ≠ .ok S
  silent : lastCommitted w.notes = none

/-- What a property has to satisfy to hold through every history. -/
structure Survives (journal : TransactionJournal) (I : World → Prop)
    (R : TransactionSnapshot → World → Prop) : Prop
    extends Upheld journal (CallStep journal) I R where
  /-- The caller's memory does not matter. -/
  observed : ∀ {S w}, R S w → ∀ o, R S { w with observer := o }
  /-- The first commit of the journal. -/
  first : ∀ {w t metadata target}, Idle journal w → Committable none metadata target →
    openImage journal ((committed journal (w.media journal.provider.device) none metadata
      target).view (journalOverlay journal)).durable = .ok (successor none metadata target) →
    Moved journal.provider.device w
      (committed journal (w.media journal.provider.device) none metadata target)
      (.commitReturns (successor none metadata target) ::
        .commitBegins none metadata target :: w.notes) t →
    R (successor none metadata target) t
  /-- A start that finds the journal open. -/
  recovered : ∀ {S t t'}, I t ∨ lastCommitted t.notes = none → PowerCut journal t t' →
    openImage journal (journalView journal t').durable = .ok S →
    R S { t' with notes := .recovered S :: t'.notes }
  /-- Once the journal is open, every start finds it open. -/
  opens : ∀ {t t'}, I t → PowerCut journal t t' →
    ∃ S, openImage journal (journalView journal t').durable = .ok S

/-! ### One call -/

theorem Upheld.mono {journal : TransactionJournal}
    {allowed allowed' : World → TransactionSnapshot → SlotMetadata → UInt32 → Prop}
    {I : World → Prop} {R : TransactionSnapshot → World → Prop} (u : Upheld journal allowed I R)
    (h : ∀ {w S metadata target}, allowed' w S metadata target → allowed w S metadata target) :
    Upheld journal allowed' I R where
  settled := u.settled
  rest := u.rest
  stage hR ha := u.stage hR (h ha)
  commit hR ha := u.commit hR (h ha)
  payload := u.payload

/-- Trying to open keeps the status. -/
theorem transactionTryOpen_wpc {journal : TransactionJournal} {I : World → Prop} {w : World}
    {A : Type} {f : Except TransactionStatus TransactionSnapshot → Act TransactionStatus A}
    {Q : Except TransactionStatus A → World → Prop} (hI : I w)
    (hgo : Act.wpc machine I Q (f (openImage journal (journalView journal w).cached)) w) :
    Act.wpc machine I Q (transactionTryOpen journal >>= f) w := by
  refine Act.wpc_bind_exact ?_ hgo
  have hopen : Act.wpc machine I
      (fun r t => r = openImage journal (journalView journal w).cached ∧ t = w)
      (transactionOpen journal) w := transactionOpen_wpc hI ⟨rfl, rfl⟩
  cases hfound : openImage journal (journalView journal w).cached with
  | ok snapshot =>
      rw [hfound] at hopen
      refine Act.wpc_tryCatch (Q := fun r t => r = .ok (.ok snapshot) ∧ t = w)
        (Act.wpc_bind_exact hopen (Act.wpc_pure hI ⟨rfl, rfl⟩)) (fun a t _ h => h) ?_
      intro e t _ h
      cases h.1
  | error e =>
      rw [hfound] at hopen
      refine Act.wpc_tryCatch (Q := fun r t => r = .error e ∧ t = w)
        (Act.wpc_bind hopen ?_ ?_) ?_ ?_
      · intro a t _ h
        cases h.1
      · intro e' t _ h
        cases h.1
        exact ⟨rfl, h.2⟩
      · intro a t _ h
        cases h.1
      · intro e' t hIt h
        cases h.1
        exact Act.wpc_pure hIt ⟨rfl, h.2⟩

section Calls

variable {journal : TransactionJournal} {I : World → Prop} {R : TransactionSnapshot → World → Prop}
  {S : TransactionSnapshot} {w : World}

/-- A call on an open journal keeps what survives. -/
theorem Survives.call_wpc (v : Survives journal I R) (call : JournalCall)
    (hover : call.Over journal) (h : R S w) :
    Act.wpc machine I (RestsWith I R fun _ _ => True) (call.act journal) w := by
  have hunit : ∀ {A : Type} {P : A → TransactionSnapshot → Prop} {x : Act TransactionStatus A},
      Act.wpc machine I (RestsWith I R P) x w →
      Act.wpc machine I (RestsWith I R fun _ _ => True) (x >>= fun _ => pure ()) w := by
    intro A P x hx
    refine Act.wpc_bind hx ?_ fun e t _ ht => ht
    intro a t hIt ht
    obtain ⟨S', hS', -⟩ := ht
    exact Act.wpc_pure hIt ⟨S', hS', trivial⟩
  cases call with
  | init metadata observer =>
      -- an open journal is not initialized again
      refine hunit (P := fun _ _ => True) ?_
      refine Act.wpc_bind_refuseIf (v.rest h) (fun _ => ⟨v.rest h, fun _ => ⟨S, h⟩⟩) fun _ => ?_
      refine transactionTryOpen_wpc (v.rest h) ?_
      rw [show (journalView journal w).cached = _ from (v.settled h).cached_eq, (v.settled h).opens]
      exact Act.wpc_throw (v.rest h) ⟨v.rest h, fun _ => ⟨S, h⟩⟩
  | install request =>
      obtain ⟨rfl, hprov, hlay⟩ := hover
      exact hunit (installTransactionally_wpc
        (v.toUpheld.mono fun step => .install request ⟨rfl, hprov, hlay⟩ step) h hprov
        hlay)
  | confirm request =>
      obtain rfl := hover
      exact hunit (transactionConfirmPending_wpc
        (v.toUpheld.mono fun step => .confirm request rfl step) h)

/-- How a call on a journal that was never open ends: with the journal open, or as it was. -/
def IdleEnds {A : Type} (journal : TransactionJournal) (R : TransactionSnapshot → World → Prop) :
    Except TransactionStatus A → World → Prop
  | .ok _, t => ∃ S, R S t
  | .error e, t => e ≠ .interrupted → Idle journal t

theorem Idle.cached_eq (h : Idle journal w) :
    (journalView journal w).cached = (journalView journal w).durable :=
  Store.view_cached_of_clean _ h.clean

theorem Idle.observed (h : Idle journal w) (o : ObserverState) :
    Idle journal { w with observer := o } := ⟨h.clean, h.closed, h.silent⟩

/-- Opening such a journal fails. -/
theorem Idle.bind_open_wpc (h : Idle journal w) {J : World → Prop} (hJ : J w) {A : Type}
    {f : TransactionSnapshot → Act TransactionStatus A} :
    Act.wpc machine J (IdleEnds journal R) (transactionOpen journal >>= f) w := by
  refine Act.wpc_bind (Q := fun r t => r = openImage journal (journalView journal w).cached ∧ t = w)
    (transactionOpen_wpc hJ ⟨rfl, rfl⟩) ?_ ?_
  · intro snapshot t _ ht
    obtain ⟨hopen, -⟩ := ht
    rw [h.cached_eq] at hopen
    exact absurd hopen.symm (h.closed snapshot)
  · intro e t _ ht
    obtain ⟨-, rfl⟩ := ht
    exact fun _ => h

/-- **The first commit.**  It opens the journal; where it does not, the journal stays closed. -/
theorem Survives.first_wpc (v : Survives journal I R) (h : Idle journal w)
    (hvalid : journalIsValid journal = true)
    (hblank : openImage journal (journalView journal w).cached = .error .uninitialized)
    (metadata : SlotMetadata) (target : UInt32) (observer : Option TransactionObserver) :
    Act.wpc machine (fun t => I t ∨ lastCommitted t.notes = none) (IdleEnds journal R)
      (commitRecord journal none metadata target observer) w := by
  have hsels := selectorDecode_of_uninitialized hblank
  have hclosed : ∀ t, Moved journal.provider.device w
      (committed journal (w.media journal.provider.device) none metadata target)
      (.commitBegins none metadata target :: w.notes) t →
      (∀ S, openImage journal ((committed journal (w.media journal.provider.device) none metadata
        target).view (journalOverlay journal)).durable ≠ .ok S) → Idle journal t := by
    intro t ht hfail
    refine ⟨?_, ?_, ?_⟩
    · rw [ht.media]
      exact fun a ha => ha
    · show ∀ S, openImage journal
        (Store.view (journalOverlay journal) (t.media journal.provider.device)).durable ≠ .ok S
      rw [ht.media]
      exact hfail
    · rw [ht.notes_eq]
      exact h.silent
  have hnotes : ∀ {t : World} {m : Media}, Moved journal.provider.device w m
      (.commitBegins none metadata target :: w.notes) t → lastCommitted t.notes = none := by
    intro t m ht
    rw [ht.notes_eq]
    exact h.silent
  have hstage : Committable none metadata target → ∀ t,
      CommitStage journal none metadata target w t → I t ∨ lastCommitted t.notes = none := by
    intro c t ht
    cases ht with
    | begun ht | recordWritten ht | recordFlushed ht | selectorWritten ht | committed ht =>
        exact Or.inr (hnotes ht)
    | returned ht hopened => exact Or.inl (v.rest (v.first h c hopened ht))
  refine Transaction.commitRecord_wpc hvalid ?_ rfl (fun c => committed_opens c hsels)
    (Or.inr h.silent) hstage (fun e _ => fun _ => h) (fun c _ t ht => fun he => absurd rfl he) ?_ ?_
  · intro snapshot hsnap
    cases hsnap
  · intro c e t hopen ht _
    refine hclosed t ht fun S hS => ?_
    rw [hopen] at hS
    cases hS
  · intro c hopened t ht
    exact ⟨_, v.first h c hopened ht⟩

theorem Survives.idle_wpc (v : Survives journal I R) (call : JournalCall)
    (hover : call.Over journal) (h : Idle journal w) :
    Act.wpc machine (fun t => I t ∨ lastCommitted t.notes = none) (IdleEnds journal R)
      (call.act journal) w := by
  have hI : I w ∨ lastCommitted w.notes = none := Or.inr h.silent
  have hunit : ∀ {A : Type} {x : Act TransactionStatus A},
      Act.wpc machine (fun t => I t ∨ lastCommitted t.notes = none) (IdleEnds journal R) x w →
      Act.wpc machine (fun t => I t ∨ lastCommitted t.notes = none) (IdleEnds journal R)
        (x >>= fun _ => pure ()) w := by
    intro A x hx
    refine Act.wpc_bind hx ?_ fun e t _ ht => ht
    intro a t hIt ht
    exact Act.wpc_pure hIt ht
  cases call with
  | init metadata observer =>
      refine hunit ?_
      refine Act.wpc_bind_refuseIf hI (fun _ => fun _ => h) fun hchecked => ?_
      have hvalid : journalIsValid journal = true := by
        simp only [Bool.or_eq_false_iff, Bool.not_eq_false'] at hchecked
        exact hchecked.1.1.1.1
      refine transactionTryOpen_wpc hI ?_
      cases hopen : openImage journal (journalView journal w).cached with
      | ok S =>
          rw [h.cached_eq] at hopen
          exact absurd hopen (h.closed S)
      | error e =>
          by_cases hblank : e = .uninitialized
          · subst hblank
            exact v.first_wpc h hvalid hopen metadata _ observer
          · cases e <;> first | exact absurd rfl hblank | exact Act.wpc_throw hI fun _ => h
  | install request =>
      obtain ⟨rfl, -, -⟩ := hover
      refine hunit ?_
      exact Act.wpc_bind_refuseIf hI (fun _ => fun _ => h) fun _ => h.bind_open_wpc hI
  | confirm request =>
      obtain rfl := hover
      refine hunit ?_
      exact Act.wpc_bind_refuseIf hI (fun _ => fun _ => h) fun _ => h.bind_open_wpc hI

end Calls

/-! ### Whole histories -/

section Runs

variable {journal : TransactionJournal} {I : World → Prop} {R : TransactionSnapshot → World → Prop}
  {w t t' : World}

/-- A start leaves the media alone and notes the snapshot it found. -/
theorem startUp_exec (hclean : ∀ a, ¬ (w.media journal.provider.device).dirty a) :
    (Act.exec machine (startUp journal) w).2 =
      match openImage journal (journalView journal w).durable with
      | .ok S => { w with notes := .recovered S :: w.notes }
      | .error _ => w := by
  have hcached : (journalView journal w).cached = (journalView journal w).durable :=
    Store.view_cached_of_clean _ hclean
  have hstart : Act.wpc machine (fun _ => True)
      (fun _ t => t = match openImage journal (journalView journal w).durable with
        | .ok S => { w with notes := .recovered S :: w.notes }
        | .error _ => w) (startUp journal) w := by
    refine transactionTryOpen_wpc trivial ?_
    rw [hcached]
    cases openImage journal (journalView journal w).durable with
    | ok S => exact ⟨trivial, trivial, rfl⟩
    | error e => exact Act.wpc_pure trivial rfl
  exact hstart.post

theorem PowerCut.clean (h : PowerCut journal t t') (a : Nat) :
    ¬ (t'.media journal.provider.device).dirty a := by
  obtain ⟨img, -, -, hmedia⟩ := h.media
  rw [hmedia]
  exact fun ha => ha

/-- A start behind a power cut finds the journal open, or it has never been open. -/
theorem Survives.start (v : Survives journal I R) (hI : I t ∨ lastCommitted t.notes = none)
    (h : PowerCut journal t t') :
    (∃ S, R S (Act.exec machine (startUp journal) t').2) ∨
      (¬ I t ∧ Idle journal (Act.exec machine (startUp journal) t').2) := by
  rw [startUp_exec h.clean]
  cases hopen : openImage journal (journalView journal t').durable with
  | ok S => exact Or.inl ⟨S, v.recovered hI h hopen⟩
  | error e =>
      have hnot : ¬ I t := by
        intro hIt
        obtain ⟨S, hS⟩ := v.opens hIt h
        rw [hopen] at hS
        cases hS
      refine Or.inr ⟨hnot, h.clean, ?_, ?_⟩
      · intro S hS
        rw [hopen] at hS
        cases hS
      · rw [h.notes]
        exact hI.resolve_left hnot

/-- **What survives calls and power cuts holds in every history** from where the journal is open,
and an initialization that has returned has opened it. -/
theorem Survives.run (v : Survives journal I R) {initialized : Bool}
    (run : JournalRun journal initialized w) :
    (∃ S, R S w) ∨ (initialized = false ∧ Idle journal w) := by
  induction run with
  | @start w hclean hnotes =>
      -- power on is a start from media that nothing was writing to
      have hpower : PowerCut journal w w := by
        refine ⟨⟨(w.media journal.provider.device).durable, Store.crashTo_durable _ _, ?_, ?_⟩, rfl⟩
        · exact Store.crashTo_durable _ _
        · exact Store.eq_fresh_of_clean hclean
      rcases v.start (Or.inr (by rw [hnotes]; rfl)) hpower with hopen | ⟨-, hidle⟩
      · exact Or.inl hopen
      · exact Or.inr ⟨rfl, hidle⟩
  | @returned initialized w run call hover observer hstatus ih =>
      rcases ih with ⟨S, hS⟩ | ⟨rfl, hidle⟩
      · have hpost := (v.call_wpc call hover (v.observed hS observer)).post
        cases hres : (Act.exec machine (call.act journal) { w with observer := observer }).1 with
        | ok u =>
            rw [hres] at hpost
            obtain ⟨S', hS', -⟩ := hpost
            exact Or.inl ⟨S', hS'⟩
        | error e =>
            rw [hres] at hpost hstatus
            exact Or.inl (hpost.2 fun he => hstatus (congrArg Except.error he))
      · have hpost := (v.idle_wpc call hover (hidle.observed observer)).post
        cases hres : (Act.exec machine (call.act journal) { w with observer := observer }).1 with
        | ok u =>
            rw [hres] at hpost
            exact Or.inl hpost
        | error e =>
            rw [hres] at hpost hstatus
            refine Or.inr ⟨?_, hpost fun he => hstatus (congrArg Except.error he)⟩
            cases call <;> rfl
  | @cut initialized w t run call hover observer n power ih =>
      rcases ih with ⟨S, hS⟩ | ⟨rfl, hidle⟩
      · have hI := (v.call_wpc call hover (v.observed hS observer)).inv n
        rcases v.start (Or.inl hI) power with hopen | ⟨hnot, -⟩
        · exact Or.inl hopen
        · exact absurd hI hnot
      · have hI := (v.idle_wpc call hover (hidle.observed observer)).inv n
        rcases v.start hI power with hopen | ⟨-, hidle'⟩
        · exact Or.inl hopen
        · exact Or.inr ⟨rfl, hidle'⟩

/-- Wherever a call on an initialized journal is stopped, `I` holds. -/
theorem Survives.point (v : Survives journal I R) (run : JournalRun journal true w)
    (call : JournalCall) (hover : call.Over journal) (observer : ObserverState) (n : Nat) :
    I (Act.cut machine n (call.act journal) { w with observer := observer }) := by
  rcases v.run run with ⟨S, hS⟩ | ⟨hfalse, -⟩
  · exact (v.call_wpc call hover (v.observed hS observer)).inv n
  · cases hfalse

end Runs

end Transaction

end Ribon
