/-
Observers that never interrupt.

An observer sees every boundary of an install and may stop it there.  One that
always answers to go on, and whose counter does not run out, changes nothing: the
install ends as it would without an observer.  The same argument covers what has
not been flushed yet, since nothing an install reads tells cached bytes from
durable ones.
-/
import Ribon.Crash.Mirror
import Ribon.Update.Liveness

namespace Ribon

open Wire Crash

/-- The command is to the media, or leaves a mark. -/
def Cmd.IsMedia : Cmd → Prop
  | .read .. | .write .. | .erase .. | .flush .. | .note .. => True
  | _ => False

namespace Transaction

/-- `s` and `t` show the same on all media, and the observer lets the next `n` events pass. -/
structure Watched (observer : Option TransactionObserver) (n : Nat) (s t : World) : Prop where
  cached : ∀ device, (s.media device).cached = (t.media device).cached
  erased : s.erased = t.erased
  quiet : observer.isSome = true → (∀ k event, s.observer.answers k event = 0) ∧
    s.observer.nextSequence.toNat + n ≤ u32Max.toNat

section Watched

variable {observer : Option TransactionObserver} {n : Nat} {s t : World}

theorem watched_shrinks : Act.Shrinks (Watched observer) := by
  intro n rest s t h
  refine ⟨h.cached, h.erased, fun hsome => ?_⟩
  obtain ⟨hanswers, hroom⟩ := h.quiet hsome
  exact ⟨hanswers, by omega⟩

theorem mirrors_bind {E α β : Type} {m : Nat} {x y : Act E α} {f g : α → Act E β}
    (h : Act.Mirrors machine (Watched observer) n x y)
    (hf : ∀ a, Act.Mirrors machine (Watched observer) m (f a) (g a)) :
    Act.Mirrors machine (Watched observer) (n + m) (x >>= f) (y >>= g) :=
  Act.Mirrors.bind watched_shrinks h hf

/-- Media that change alike show the same afterwards. -/
theorem Watched.setMedia (h : Watched observer n s t) (device : Nat) {m m' : Media}
    (hm : m.cached = m'.cached) :
    Watched observer n (s.setMedia device m) (t.setMedia device m') := by
  refine ⟨fun other => ?_, h.erased, h.quiet⟩
  show (Function.update s.media device m other).cached =
    (Function.update t.media device m' other).cached
  by_cases hsame : other = device
  · rw [hsame, Function.update_self, Function.update_self, hm]
  · rw [Function.update_of_ne hsame, Function.update_of_ne hsame, h.cached]

/-- The media answer what they show. -/
theorem Watched.media {c : Cmd} (hc : c.IsMedia) (h : Watched observer n s t) :
    machine.answer c s = machine.answer c t ∧
      Watched observer n (machine.effect c s) (machine.effect c t) := by
  cases c with
  | read device offset size =>
      refine ⟨?_, h⟩
      show Transfer.mk 0 (bytesAt (s.media device).cached offset.toNat size.toNat) size = _
      rw [h.cached]
      rfl
  | write device offset data =>
      refine ⟨rfl, h.setMedia device (funext fun a => ?_)⟩
      show (if InRange offset.toNat data.length a then _ else (s.media device).cached a) =
        if InRange offset.toNat data.length a then _ else (t.media device).cached a
      rw [h.cached]
  | erase device offset size =>
      refine ⟨rfl, h.setMedia device (funext fun a => ?_)⟩
      show (if InRange offset.toNat size.toNat a then s.erased a else (s.media device).cached a) =
        if InRange offset.toNat size.toNat a then t.erased a else (t.media device).cached a
      rw [h.cached, h.erased]
  | flush device => exact ⟨rfl, h.setMedia device (h.cached device)⟩
  | note entry => exact ⟨rfl, h.cached, h.erased, h.quiet⟩
  | _ => exact absurd hc id

/-- **An observer that lets the program go on is as good as none.** -/
theorem observe_mirrors {E : Type} (hvalid : observer.all observerIsValid = true)
    (operation : TransactionOperation) (boundary : TransactionBoundary) (state : SlotState)
    (component : UInt32) (generation : UInt64) :
    Act.Mirrors machine (Watched observer) 1
      (observe observer operation boundary state component generation : Act E Int)
      (observe none operation boundary state component generation) := by
  intro rest s t hst
  cases observer with
  | none => exact ⟨rfl, watched_shrinks 1 rest s t hst⟩
  | some found =>
      obtain ⟨hanswers, hroom⟩ := hst.quiet rfl
      have hnext : s.observer.nextSequence ≠ u32Max := by
        intro hmax
        rw [hmax] at hroom
        omega
      have hgood : (!observerIsValid found || s.observer.nextSequence == u32Max) = false := by
        have hfound : observerIsValid found = true := hvalid
        simp [hfound, hnext]
      have hran : Act.Completes machine (observe (some found) operation boundary state component
          generation : Act E Int) s fun answer u => answer = 0 ∧ u = { s with observer := {
            nextSequence := s.observer.nextSequence + 1
            answers := s.observer.answers
            seen := s.observer.seen + 1 } } := by
        refine Act.completes_bind_command ?_
        rw [show machine.answer Cmd.observerSequence s = s.observer.nextSequence from rfl, hgood]
        refine Act.completes_bind_command ?_
        exact ⟨_, _, _, Act.ran_command.mpr ⟨rfl, rfl, rfl⟩, hanswers _ _, rfl⟩
      obtain ⟨answer, hans, hzero, hstate⟩ := hran.exec_eq
      rw [hans, hzero, hstate]
      refine ⟨rfl, hst.cached, hst.erased, fun _ => ⟨hanswers, ?_⟩⟩
      have hmax : u32Max.toNat = 2 ^ 32 - 1 := rfl
      rw [UInt32.toNat_add]
      show (s.observer.nextSequence.toNat + 1) % 2 ^ 32 + rest ≤ u32Max.toNat
      rw [Nat.mod_eq_of_lt (by omega)]
      omega

theorem media_mirrors {E : Type} {c : Cmd} (hc : c.IsMedia) :
    Act.Mirrors machine (Watched observer) 0 (Act.command c : Act E (Answer c)) (Act.command c) :=
  Act.mirrors_command fun _ _ _ h => h.media hc

end Watched

/-! ### The journal -/

section Journal

variable {observer : Option TransactionObserver} {journal : TransactionJournal}

theorem providerReadExact_mirrors (offset : UInt64) (size : Nat) :
    Act.Mirrors machine (Watched observer) 0 (providerReadExact journal offset size)
      (providerReadExact journal offset size) :=
  mirrors_bind (media_mirrors (by trivial)) fun _ =>
  mirrors_bind Act.mirrors_refuseIf fun _ =>
  mirrors_bind Act.mirrors_refuseIf fun _ => Act.mirrors_done

theorem providerWriteExact_mirrors (offset : UInt64) (bytes : List UInt8) :
    Act.Mirrors machine (Watched observer) 0 (providerWriteExact journal offset bytes)
      (providerWriteExact journal offset bytes) :=
  mirrors_bind (media_mirrors (by trivial)) fun _ =>
  mirrors_bind Act.mirrors_refuseIf fun _ => Act.mirrors_refuseIf

theorem providerFlush_mirrors :
    Act.Mirrors machine (Watched observer) 0 (providerFlush journal) (providerFlush journal) :=
  mirrors_bind (media_mirrors (by trivial)) fun _ => Act.mirrors_refuseIf

theorem transactionOpen_mirrors :
    Act.Mirrors machine (Watched observer) 0 (transactionOpen journal) (transactionOpen journal) := by
  refine (transactionOpen_emits journal).mirrors fun c hc n s t h => h.media ?_
  cases c with
  | read => trivial
  | _ => exact absurd hc id

variable (hvalid : observer.all observerIsValid = true)
include hvalid

theorem observeCommit_mirrors (state : SlotState) (generation : UInt64)
    (operation : TransactionOperation) (boundary : TransactionBoundary) :
    Act.Mirrors machine (Watched observer) 1
      (observeCommit observer state generation operation boundary)
      (observeCommit none state generation operation boundary) :=
  mirrors_bind (observe_mirrors hvalid _ _ _ _ _) fun _ => Act.mirrors_refuseIf

theorem commitRecordObject_mirrors (state : SlotState) (plan : CommitPlan) :
    Act.Mirrors machine (Watched observer) 6 (commitRecordObject journal observer state plan)
      (commitRecordObject journal none state plan) :=
  have stop := observeCommit_mirrors hvalid state plan.generation
  mirrors_bind (stop .journalRecordWrite .before) fun _ =>
  mirrors_bind (providerWriteExact_mirrors _ _) fun _ =>
  mirrors_bind (stop .journalRecordWrite .after) fun _ =>
  mirrors_bind (stop .journalRecordFlush .before) fun _ =>
  mirrors_bind providerFlush_mirrors fun _ =>
  mirrors_bind (stop .journalRecordFlush .after) fun _ =>
  mirrors_bind (stop .journalRecordReadback .before) fun _ =>
  mirrors_bind (providerReadExact_mirrors _ _) fun _ =>
  mirrors_bind Act.mirrors_refuseIf fun _ =>
  stop .journalRecordReadback .after

theorem commitSelectorObject_mirrors (state : SlotState) (plan : CommitPlan) :
    Act.Mirrors machine (Watched observer) 4 (commitSelectorObject journal observer state plan)
      (commitSelectorObject journal none state plan) :=
  have stop := observeCommit_mirrors hvalid state plan.generation
  mirrors_bind (stop .journalSelectorWrite .before) fun _ =>
  mirrors_bind (providerWriteExact_mirrors _ _) fun _ =>
  mirrors_bind (stop .journalSelectorWrite .after) fun _ =>
  mirrors_bind (stop .journalSelectorFlush .before) fun _ =>
  mirrors_bind providerFlush_mirrors fun _ =>
  stop .journalSelectorFlush .after

/-- A commit tells the observer of twelve boundaries. -/
theorem commitRecord_mirrors (current : Option TransactionSnapshot) (metadata : SlotMetadata)
    (target : UInt32) :
    Act.Mirrors machine (Watched observer) 12 (commitRecord journal current metadata target observer)
      (commitRecord journal current metadata target none) :=
  mirrors_bind Act.mirrors_done fun plan =>
  mirrors_bind (media_mirrors (by trivial)) fun _ =>
  mirrors_bind (commitRecordObject_mirrors hvalid _ plan) fun _ =>
  mirrors_bind (commitSelectorObject_mirrors hvalid _ plan) fun _ =>
  mirrors_bind (observeCommit_mirrors hvalid _ _ _ _) fun _ =>
  mirrors_bind transactionOpen_mirrors fun _ =>
  mirrors_bind Act.mirrors_refuseIf fun _ =>
  mirrors_bind (observeCommit_mirrors hvalid _ _ _ _) fun _ =>
  mirrors_bind (media_mirrors (by trivial)) fun _ => Act.mirrors_done

end Journal

end Transaction

/-! ### The payload -/

namespace Storage

open Transaction

variable {observer : Option TransactionObserver} {session : StorageSession} {handle : SlotHandle}

theorem storageRead_mirrors (slotOffset size : UInt64) :
    Act.Mirrors machine (Watched observer) 0 (storageRead session handle slotOffset size)
      (storageRead session handle slotOffset size) :=
  mirrors_bind Act.mirrors_done fun _ =>
  mirrors_bind (media_mirrors (by trivial)) fun _ =>
  mirrors_bind Act.mirrors_refuseIf fun _ =>
  mirrors_bind Act.mirrors_refuseIf fun _ => Act.mirrors_done

theorem storageWriteInactive_mirrors (slotOffset : UInt64) (buffer : List UInt8) :
    Act.Mirrors machine (Watched observer) 0 (storageWriteInactive session handle slotOffset buffer)
      (storageWriteInactive session handle slotOffset buffer) :=
  mirrors_bind Act.mirrors_done fun _ =>
  mirrors_bind (media_mirrors (by trivial)) fun _ =>
  mirrors_bind Act.mirrors_refuseIf fun _ => Act.mirrors_refuseIf

theorem storageEraseInactive_mirrors (slotOffset size : UInt64) :
    Act.Mirrors machine (Watched observer) 0 (storageEraseInactive session handle slotOffset size)
      (storageEraseInactive session handle slotOffset size) :=
  mirrors_bind Act.mirrors_done fun _ =>
  mirrors_bind (media_mirrors (by trivial)) fun _ => Act.mirrors_refuseIf

theorem storageFlush_mirrors :
    Act.Mirrors machine (Watched observer) 0 (storageFlush session) (storageFlush session) :=
  mirrors_bind Act.mirrors_refuseIf fun _ =>
  mirrors_bind (media_mirrors (by trivial)) fun _ => Act.mirrors_refuseIf

end Storage

namespace Installer

open Transaction Storage

/-- The request of an install that nobody observes. -/
def unobserved (request : InstallRequest) : InstallRequest := { request with observer := none }

section Passes

variable {request : InstallRequest} {parts : Parts} {manifest : ManifestView}
  {session : StorageSession} {handle : SlotHandle}
  (hvalid : request.observer.all observerIsValid = true)
include hvalid

theorem observeStaging_mirrors (operation : TransactionOperation) (boundary : TransactionBoundary)
    (component : UInt32) :
    Act.Mirrors machine (Watched request.observer) 1
      (observeStaging request session operation boundary component)
      (observeStaging (unobserved request) session operation boundary component) :=
  mirrors_bind (observe_mirrors hvalid _ _ _ _ _) fun _ => Act.mirrors_refuseIf

theorem writeComponent_mirrors (index : Nat) (exactTotal backingTotal : UInt64) :
    Act.Mirrors machine (Watched request.observer) 6
      (writeComponent request parts manifest session handle index exactTotal backingTotal)
      (writeComponent (unobserved request) parts manifest session handle index exactTotal
        backingTotal) :=
  mirrors_bind Act.mirrors_done fun _ =>
  mirrors_bind Act.mirrors_refuseIf fun _ =>
  mirrors_bind (observeStaging_mirrors hvalid _ _ _) fun _ =>
  mirrors_bind Act.mirrors_done fun _ =>
  mirrors_bind (observeStaging_mirrors hvalid _ _ _) fun _ =>
  mirrors_bind Act.mirrors_refuseIf fun _ =>
  mirrors_bind (observeStaging_mirrors hvalid _ _ _) fun _ =>
  mirrors_bind ((storageEraseInactive_mirrors _ _).mapError _) fun _ =>
  mirrors_bind (observeStaging_mirrors hvalid _ _ _) fun _ =>
  mirrors_bind (observeStaging_mirrors hvalid _ _ _) fun _ =>
  mirrors_bind ((storageWriteInactive_mirrors _ _).mapError _) fun _ =>
  mirrors_bind (observeStaging_mirrors hvalid _ _ _) fun _ => Act.mirrors_done

theorem writeComponents_mirrors (indices : List Nat) (exactTotal backingTotal : UInt64) :
    Act.Mirrors machine (Watched request.observer) (6 * indices.length)
      (writeComponents request parts manifest session handle indices exactTotal backingTotal)
      (writeComponents (unobserved request) parts manifest session handle indices exactTotal
        backingTotal) := by
  induction indices generalizing exactTotal backingTotal with
  | nil => exact Act.mirrors_done
  | cons index rest ih =>
      rw [List.length_cons, Nat.mul_succ, Nat.add_comm]
      exact mirrors_bind (writeComponent_mirrors hvalid index _ _)
        fun totals => ih totals.1 totals.2

theorem checkComponent_mirrors (index : Nat) :
    Act.Mirrors machine (Watched request.observer) 2
      (checkComponent request parts manifest session handle index)
      (checkComponent (unobserved request) parts manifest session handle index) :=
  mirrors_bind Act.mirrors_done fun _ =>
  mirrors_bind (observeStaging_mirrors hvalid _ _ _) fun _ =>
  mirrors_bind ((storageRead_mirrors _ _).mapError _) fun _ =>
  mirrors_bind (observeStaging_mirrors hvalid _ _ _) fun _ =>
  Act.mirrors_refuseIf

theorem checkComponents_mirrors (indices : List Nat) :
    Act.Mirrors machine (Watched request.observer) (2 * indices.length)
      (checkComponents request parts manifest session handle indices)
      (checkComponents (unobserved request) parts manifest session handle indices) := by
  induction indices with
  | nil => exact Act.mirrors_done
  | cons index rest ih =>
      rw [List.length_cons, Nat.mul_succ, Nat.add_comm]
      exact mirrors_bind (checkComponent_mirrors hvalid index) fun _ => ih

theorem openRequest_unobserved : openRequest (unobserved request) = openRequest request := by
  have hsame : ∀ parts, requestIsValid (unobserved request) parts = requestIsValid request parts := by
    intro parts
    unfold requestIsValid
    rw [hvalid]
    rfl
  unfold openRequest
  rw [show requestParts (unobserved request) = requestParts request from rfl]
  cases requestParts request with
  | none => rfl
  | some parts =>
      dsimp only
      rw [hsame]

theorem installPrepare_unobserved : installPrepare (unobserved request) = installPrepare request := by
  unfold installPrepare
  rw [openRequest_unobserved hvalid]
  rfl

/-- Installing a bundle tells the observer of at most 130 boundaries: two of the flush, and eight
of each component. -/
theorem installSignedBundle_mirrors :
    Act.Mirrors machine (Watched request.observer) 130 (installSignedBundle request)
      (installSignedBundle (unobserved request)) := by
  unfold installSignedBundle
  rw [installPrepare_unobserved hvalid, openRequest_unobserved hvalid]
  refine Act.mirrors_bind_ofExcept (fun plan _ => ?_) watched_shrinks
  refine Act.mirrors_bind_refuseIf ?_ watched_shrinks
  refine Act.mirrors_bind_ofExcept (fun parts _ => ?_) watched_shrinks
  refine Act.mirrors_bind_ofExcept (fun authorized hauth => ?_) watched_shrinks
  obtain ⟨manifest, decision⟩ := authorized
  have hopen := manifestOpen_of_authorized (mapStatus_eq_ok.mp hauth)
  obtain ⟨-, -, -, hmany, -⟩ := Manifest.manifestOpen_iff.mp hopen
  have hlen : (List.range manifest.componentCount.toNat).length ≤ 16 := by
    rw [List.length_range]
    exact hmany
  refine Act.mirrors_bind_ofExcept (fun handle _ => ?_) watched_shrinks
  refine Act.Mirrors.mono (n := 6 * (List.range manifest.componentCount.toNat).length + (1 + (0 + (1 +
    (2 * (List.range manifest.componentCount.toNat).length + (0 + 0)))))) watched_shrinks ?_ (by omega)
  exact mirrors_bind (writeComponents_mirrors hvalid _ _ _) fun totals =>
    mirrors_bind (observeStaging_mirrors hvalid _ _ _) fun _ =>
    mirrors_bind (storageFlush_mirrors.mapError _) fun _ =>
    mirrors_bind (observeStaging_mirrors hvalid _ _ _) fun _ =>
    mirrors_bind (checkComponents_mirrors hvalid _) fun _ =>
    mirrors_bind Act.mirrors_done fun _ => Act.mirrors_done

end Passes

end Installer

/-! ### The install -/

namespace Transaction

/-- The request of an install that nobody observes. -/
def silent (request : TransactionalInstallRequest) : TransactionalInstallRequest :=
  { request with observer := none }

section Install

variable {request : TransactionalInstallRequest}
  (hvalid : request.observer.all observerIsValid = true)
include hvalid

theorem installPrepare_silent (S : TransactionSnapshot) :
    Installer.installPrepare (installAgainst (silent request) S) =
      Installer.installPrepare (installAgainst request S) :=
  @Installer.installPrepare_unobserved (installAgainst request S) hvalid

theorem installRequestIsValid_silent :
    installRequestIsValid (silent request) = installRequestIsValid request := by
  unfold installRequestIsValid
  rw [hvalid]
  rfl

theorem commitStaging_mirrors (S : TransactionSnapshot) (plan : InstallPlan) :
    Act.Mirrors machine (Watched request.observer) 12 (commitStaging request S plan)
      (commitStaging (silent request) S plan) := by
  unfold commitStaging
  split
  · exact commitRecord_mirrors hvalid _ _ _
  · exact Act.Mirrors.mono watched_shrinks Act.mirrors_done (Nat.zero_le 12)

theorem installPayload_mirrors (S : TransactionSnapshot) :
    Act.Mirrors machine (Watched request.observer) 142 (installPayload request S)
      (installPayload (silent request) S) := by
  unfold installPayload
  rw [show (silent request).install = request.install from rfl]
  split
  · exact mirrors_bind
      ((@Installer.installSignedBundle_mirrors (installAgainst request S) hvalid).mapError _)
      fun _ => mirrors_bind (commitRecord_mirrors hvalid _ _ _) fun _ =>
      Act.mirrors_done
  · exact Act.Mirrors.mono watched_shrinks Act.mirrors_done (Nat.zero_le 142)

theorem commitPending_mirrors (S : TransactionSnapshot) :
    Act.Mirrors machine (Watched request.observer) 12 (commitPending request S)
      (commitPending (silent request) S) :=
  mirrors_bind Act.mirrors_refuseIf fun _ =>
  mirrors_bind Act.mirrors_done fun _ => commitRecord_mirrors hvalid _ _ _

/-- How many boundaries an install tells the observer of at most. -/
def installEvents : Nat := 166

/-- **An observer that lets an install go on is as good as none.** -/
theorem installTransactionally_mirrors :
    Act.Mirrors machine (Watched request.observer) installEvents (installTransactionally request)
      (installTransactionally (silent request)) := by
  unfold installTransactionally
  rw [installRequestIsValid_silent hvalid]
  refine mirrors_bind (n := 0) (m := 166) Act.mirrors_refuseIf fun _ => ?_
  refine mirrors_bind (n := 0) (m := 166) transactionOpen_mirrors fun S => ?_
  rw [installPrepare_silent hvalid]
  refine mirrors_bind (n := 0) (m := 166) Act.mirrors_done fun plan => ?_
  split
  · exact Act.Mirrors.mono watched_shrinks Act.mirrors_done (Nat.zero_le 166)
  · exact mirrors_bind (commitStaging_mirrors hvalid S plan) fun current =>
      mirrors_bind (installPayload_mirrors hvalid current) fun out =>
      mirrors_bind (commitPending_mirrors hvalid out.2.2) fun _ =>
      Act.mirrors_done

end Install

end Transaction

end Ribon
