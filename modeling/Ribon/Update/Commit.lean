/-
The journal code, run on the machine.

Opening reads and changes nothing.  A commit takes the media through five
states, with an observer in between that may stop it at any of them; `CommitStage`
names the places where it can be found.  What a commit does is then a question
about these places, which the two-slot theory answers.
-/
import Ribon.Update.Journal
import Ribon.Update.Payload

namespace Ribon.Transaction

open Wire Crash Crash.TwoSlot

/-! ### Reading, writing and observing -/

section Steps

variable {I : World → Prop} {journal : TransactionJournal} {w t : World} {m : Media}
  {notes : List JournalNote}

variable {A : Type} {Q : Except TransactionStatus A → World → Prop}

/-- The machine writes what it is given. -/
theorem bind_providerWriteExact_wpc {f : Unit → Act TransactionStatus A} {offset : UInt64}
    {bytes : List UInt8} (ht : Moved journal.provider.device w m notes t) (hI : I t)
    (hI' : ∀ t, Moved journal.provider.device w (m.writeBytes offset.toNat bytes) notes t → I t)
    (hgo : ∀ t, Moved journal.provider.device w (m.writeBytes offset.toNat bytes) notes t →
      Act.wpc machine I Q (f ()) t) :
    Act.wpc machine I Q (providerWriteExact journal offset bytes >>= f) t := by
  have ht' : Moved journal.provider.device w (m.writeBytes offset.toNat bytes) notes
      (machine.effect (.write journal.provider.device offset bytes) t) := by
    rw [← ht.media]
    exact ht.setMedia _
  refine Act.wpc_bind_exact (Act.wpc_bind_command hI ?_) (hgo _ ht')
  refine Act.wpc_bind_refuseIf (hI' _ ht') (nofun) fun _ => ?_
  refine Act.wpc_refuseIf (hI' _ ht') (fun hbad => ?_) fun _ => ⟨rfl, rfl⟩
  rw [show machine.answer (.write journal.provider.device offset bytes) t =
    ⟨0, [], UInt64.ofNat bytes.length⟩ from rfl, bne_self_eq_false] at hbad
  cases hbad

theorem bind_providerFlush_wpc {f : Unit → Act TransactionStatus A}
    (ht : Moved journal.provider.device w m notes t) (hI : I t)
    (hI' : ∀ t, Moved journal.provider.device w m.flush notes t → I t)
    (hgo : ∀ t, Moved journal.provider.device w m.flush notes t → Act.wpc machine I Q (f ()) t) :
    Act.wpc machine I Q (providerFlush journal >>= f) t := by
  have ht' : Moved journal.provider.device w m.flush notes
      (machine.effect (.flush journal.provider.device) t) := by
    rw [← ht.media]
    exact ht.setMedia _
  refine Act.wpc_bind_exact (Act.wpc_bind_command hI ?_) (hgo _ ht')
  exact Act.wpc_refuseIf (hI' _ ht') (nofun) fun _ => ⟨rfl, rfl⟩

variable {f : List UInt8 → Act TransactionStatus A}

theorem bind_providerReadExact_wpc {offset : UInt64} {size : Nat} (hsize : size < 2 ^ 64) (hI : I t)
    (hgo : Act.wpc machine I Q
      (f (bytesAt (t.media journal.provider.device).cached offset.toNat size)) t) :
    Act.wpc machine I Q (providerReadExact journal offset size >>= f) t := by
  have hans : machine.answer (.read journal.provider.device offset (UInt64.ofNat size)) t =
      ⟨0, bytesAt (t.media journal.provider.device).cached offset.toNat size,
        UInt64.ofNat size⟩ := by
    show (⟨0, bytesAt _ _ (UInt64.ofNat size).toNat, _⟩ : Transfer) = _
    rw [UInt64.toNat_ofNat_of_lt' hsize]
  refine Act.wpc_bind_exact (Act.wpc_bind_command hI ?_) hgo
  rw [hans]
  refine Act.wpc_bind_refuseIf hI (nofun) fun _ => ?_
  refine Act.wpc_bind_refuseIf hI (fun hbad => ?_) fun _ => Act.wpc_pure hI ⟨rfl, rfl⟩
  rw [bne_self_eq_false] at hbad
  cases hbad

/-- Reading an object of the journal gives the object. -/
theorem bind_readObject_wpc {offset : UInt64} {o : Obj} {size : Nat}
    (hoff : offset.toNat = objectOffset journal o) (hsize : size = objectSize o) (hI : I t)
    (hgo : Act.wpc machine I Q (f ((journalView journal t).cached o)) t) :
    Act.wpc machine I Q (providerReadExact journal offset size >>= f) t := by
  subst hsize
  refine bind_providerReadExact_wpc ?_ hI ?_
  · cases o <;> simp [objectSize, recordBytes, selectorBytes]
  · rw [hoff]
    exact hgo

/-- **Opening computes `openImage` of what the objects read as, and changes nothing.** -/
theorem transactionOpen_wpc {Q : Except TransactionStatus TransactionSnapshot → World → Prop}
    (hI : I t) (hQ : Q (openImage journal (journalView journal t).cached) t) :
    Act.wpc machine I Q (transactionOpen journal) t := by
  refine Act.wpc_bind_refuseIf hI ?_ fun hvalid => ?_
  · intro hbad
    rw [openImage, if_neg (by simpa using hbad)] at hQ
    exact hQ
  have hvalid' : journalIsValid journal = true := by simpa using hvalid
  have hsited := journalIsValid_sited hvalid'
  rw [openImage, if_pos hvalid', openObjects] at hQ
  refine bind_readObject_wpc (hsited.selectorOffset false) rfl hI ?_
  refine bind_readObject_wpc (hsited.selectorOffset true) rfl hI ?_
  cases hsel : selectNewest journal.minimumGeneration
      ((journalView journal t).cached (.selector false))
      ((journalView journal t).cached (.selector true)) with
  | error e =>
      rw [hsel] at hQ
      exact ⟨hI, hQ⟩
  | ok found =>
      obtain ⟨slot, selector⟩ := found
      rw [hsel] at hQ
      -- the selector that counts decoded, so it names a record slot
      have hslot : selector.recordSlot = slotNumber (scheme.slot selector) := by
        simp only [selectNewest, bind_eq_ok, refuse_eq_ok, pure_eq_ok, exists_const,
          Prod.exists] at hsel
        obtain ⟨slot', selector', hnewest, -, hsame⟩ := hsel
        cases hsame
        obtain ⟨k, -, hdecode, -⟩ := newestSelector_eq_ok.mp hnewest
        exact selectorDecode_slot hdecode
      refine bind_readObject_wpc (o := .record (scheme.slot selector)) ?_ rfl hI
        (Act.wpc_ofExcept hI hQ)
      rw [hslot]
      exact hsited.recordOffset _

end Steps

/-! ### Commits -/

/-- Where a commit can be found once it has begun, seen from the world `w` it was called in. -/
inductive CommitStage (journal : TransactionJournal) (current : Option TransactionSnapshot)
    (metadata : SlotMetadata) (target : UInt32) (w t : World) : Prop
  | begun (h : Moved journal.provider.device w (w.media journal.provider.device)
      (.commitBegins current metadata target :: w.notes) t)
  | recordWritten (h : Moved journal.provider.device w
      (recordWritten journal (w.media journal.provider.device) current metadata target)
      (.commitBegins current metadata target :: w.notes) t)
  | recordFlushed (h : Moved journal.provider.device w (Store.flush
      (Transaction.recordWritten journal (w.media journal.provider.device) current metadata target))
      (.commitBegins current metadata target :: w.notes) t)
  | selectorWritten (h : Moved journal.provider.device w
      (selectorWritten journal (w.media journal.provider.device) current metadata target)
      (.commitBegins current metadata target :: w.notes) t)
  | committed (h : Moved journal.provider.device w
      (committed journal (w.media journal.provider.device) current metadata target)
      (.commitBegins current metadata target :: w.notes) t)
  | returned (h : Moved journal.provider.device w
      (Transaction.committed journal (w.media journal.provider.device) current metadata target)
      (.commitReturns (successor current metadata target) ::
        .commitBegins current metadata target :: w.notes) t)
      (opened : openImage journal ((Transaction.committed journal
        (w.media journal.provider.device) current metadata target).view
          (journalOverlay journal)).durable = .ok (successor current metadata target))

section Commit

variable {I : World → Prop} {journal : TransactionJournal} {w t : World}
  {current : Option TransactionSnapshot} {metadata : SlotMetadata} {target : UInt32}
  {observer : Option TransactionObserver} {state : SlotState}

/-- How one half of a commit ends: at the next stage, or stopped at one of its own. -/
def HalfDone (journal : TransactionJournal) (observer : Option TransactionObserver) (current : Option TransactionSnapshot)
    (metadata : SlotMetadata) (target : UInt32) (w : World) (m : Media) :
    Except TransactionStatus Unit → World → Prop
  | .ok _, t => Moved journal.provider.device w m (.commitBegins current metadata target :: w.notes) t
  | .error e, t => e = .interrupted ∧ observer.isSome = true ∧
      CommitStage journal current metadata target w t

variable (hvalid : journalIsValid journal = true)
  (hI : ∀ t, CommitStage journal current metadata target w t → I t)
include hvalid hI

theorem commitRecordObject_wpc
    (ht : Moved journal.provider.device w (w.media journal.provider.device)
      (.commitBegins current metadata target :: w.notes) t) :
    Act.wpc machine I (HalfDone journal observer current metadata target w (Store.flush
        (recordWritten journal (w.media journal.provider.device) current metadata target)))
      (commitRecordObject journal observer state (planAfter current metadata target)) t := by
  have hsited := journalIsValid_sited hvalid
  have hoff : (recordOffset journal (planAfter current metadata target).recordSlot).toNat =
      objectOffset journal (.record (recordBit current)) := hsited.recordOffset _
  have hbegun := fun t h => hI t (.begun h)
  have hwritten := fun t h => hI t (.recordWritten h)
  have hflushed := fun t h => hI t (.recordFlushed h)
  refine bind_stop_wpc ht hbegun (fun hsome t h => ⟨rfl, hsome, .begun h⟩) fun t ht => ?_
  refine bind_providerWriteExact_wpc ht (hbegun t ht) ?_ ?_ <;> rw [hoff]
  · exact hwritten
  intro t ht
  refine bind_stop_wpc ht hwritten (fun hsome t h => ⟨rfl, hsome, .recordWritten h⟩) fun t ht => ?_
  refine bind_stop_wpc ht hwritten (fun hsome t h => ⟨rfl, hsome, .recordWritten h⟩) fun t ht => ?_
  refine bind_providerFlush_wpc ht (hwritten t ht) hflushed fun t ht => ?_
  refine bind_stop_wpc ht hflushed (fun hsome t h => ⟨rfl, hsome, .recordFlushed h⟩) fun t ht => ?_
  refine bind_stop_wpc ht hflushed (fun hsome t h => ⟨rfl, hsome, .recordFlushed h⟩) fun t ht => ?_
  refine bind_readObject_wpc hoff rfl (hflushed t ht) ?_
  -- the cache answers with what was just written
  have hread : (journalView journal t).cached (.record (recordBit current)) =
      (planAfter current metadata target).record := by
    show (Store.view (journalOverlay journal) (t.media journal.provider.device)).cached _ = _
    rw [ht.media, Store.view_flush, Store.flush_cached, view_writeObject_cached length_planRecord,
      if_pos rfl]
  rw [hread, bytesEqual_self]
  exact stop_wpc ht hflushed (fun hsome t h => ⟨rfl, hsome, .recordFlushed h⟩) fun t h => h

theorem commitSelectorObject_wpc
    (ht : Moved journal.provider.device w (Store.flush
      (recordWritten journal (w.media journal.provider.device) current metadata target))
      (.commitBegins current metadata target :: w.notes) t) :
    Act.wpc machine I (HalfDone journal observer current metadata target w
        (committed journal (w.media journal.provider.device) current metadata target))
      (commitSelectorObject journal observer state (planAfter current metadata target)) t := by
  have hsited := journalIsValid_sited hvalid
  have hoff : (selectorOffset journal (planAfter current metadata target).selectorSlot).toNat =
      objectOffset journal (.selector (selectorBit current)) := hsited.selectorOffset _
  have hflushed := fun t h => hI t (.recordFlushed h)
  have hwritten := fun t h => hI t (.selectorWritten h)
  have hcommitted := fun t h => hI t (.committed h)
  refine bind_stop_wpc ht hflushed (fun hsome t h => ⟨rfl, hsome, .recordFlushed h⟩) fun t ht => ?_
  refine bind_providerWriteExact_wpc ht (hflushed t ht) ?_ ?_ <;> rw [hoff]
  · exact hwritten
  intro t ht
  refine bind_stop_wpc ht hwritten (fun hsome t h => ⟨rfl, hsome, .selectorWritten h⟩) fun t ht => ?_
  refine bind_stop_wpc ht hwritten (fun hsome t h => ⟨rfl, hsome, .selectorWritten h⟩) fun t ht => ?_
  refine bind_providerFlush_wpc ht (hwritten t ht) hcommitted fun t ht => ?_
  exact stop_wpc ht hcommitted (fun hsome t h => ⟨rfl, hsome, .committed h⟩) fun t h => h

omit hvalid hI

/-- **What a commit does.**  It is refused before it touches anything, or stopped at one of its
stages, or it returns the successor with everything on the media.  `hfail` is the case of a journal
that does not open behind its first commit. -/
theorem commitRecord_wpc {Q : Except TransactionStatus TransactionSnapshot → World → Prop}
    (hvalid : journalIsValid journal = true) (hslots : ∀ snapshot ∈ current, Slotted snapshot)
    {opened : Except TransactionStatus TransactionSnapshot}
    (hopened : openImage journal ((committed journal (w.media journal.provider.device) current
      metadata target).view (journalOverlay journal)).durable = opened)
    (hopen : Committable current metadata target → ∀ snapshot, opened = .ok snapshot →
      snapshot = successor current metadata target)
    (hI : I w)
    (hstage : Committable current metadata target →
      ∀ t, CommitStage journal current metadata target w t → I t)
    (hrefuse : ∀ e, commitPlan current metadata target = .error e → Q (.error e) w)
    (hstop : Committable current metadata target → observer.isSome = true →
      ∀ t, CommitStage journal current metadata target w t → Q (.error .interrupted) t)
    (hfail : Committable current metadata target → ∀ e t, opened = .error e →
      Moved journal.provider.device w (committed journal (w.media journal.provider.device) current metadata target)
        (.commitBegins current metadata target :: w.notes) t → Q (.error e) t)
    (hok : Committable current metadata target → opened = .ok (successor current metadata target) →
      ∀ t, Moved journal.provider.device w (committed journal (w.media journal.provider.device) current metadata target)
        (.commitReturns (successor current metadata target) ::
          .commitBegins current metadata target :: w.notes) t →
      Q (.ok (successor current metadata target)) t) :
    Act.wpc machine I Q (commitRecord journal current metadata target observer) w := by
  refine Act.wpc_bind_ofExcept hI hrefuse fun plan hplan => ?_
  obtain ⟨c, rfl⟩ := (commitPlan_eq_ok hslots).mp hplan
  have hstage := hstage c
  have hstop := hstop c
  have hcommitted := fun t h => hstage t (.committed h)
  refine Act.wpc_bind_command hI ?_
  refine Act.wpc_bind (commitRecordObject_wpc hvalid hstage ((Moved.refl _ w).noted _)) ?_
    fun e t _ ⟨he, hsome, h⟩ => he ▸ hstop hsome t h
  rintro ⟨⟩ t - ht
  refine Act.wpc_bind (commitSelectorObject_wpc hvalid hstage ht) ?_
    fun e t _ ⟨he, hsome, h⟩ => he ▸ hstop hsome t h
  rintro ⟨⟩ t - ht
  refine bind_stop_wpc ht hcommitted (fun hsome t h => hstop hsome t (.committed h)) fun t ht => ?_
  have hview : openImage journal (journalView journal t).cached = opened := by
    rw [← hopened]
    show openImage journal (Store.view (journalOverlay journal)
      (t.media journal.provider.device)).cached = _
    rw [ht.media, committed, Store.view_flush]
    rfl
  refine Act.wpc_bind (Q := fun r t' => r = opened ∧ t' = t)
    (transactionOpen_wpc (hcommitted t ht) ⟨hview, rfl⟩) ?_ ?_
  rotate_left
  · rintro e t' - ⟨he, rfl⟩
    exact hfail c e t' he.symm ht
  rintro snapshot t' - ⟨hsnap, rfl⟩
  obtain rfl := hopen c snapshot hsnap.symm
  -- the code compares what it opened with what it wrote
  refine Act.wpc_bind_refuseIf (hcommitted t' ht) (fun hbad => ?_) fun _ => ?_
  · have hdig : Digest.read ((planAfter current metadata target).record.drop
        recordDigestOffset) = (successor current metadata target).recordDigest :=
      recordWire_name
    rw [hdig, Digest.equal_self] at hbad
    simp [successor, snapshotOf, nextRecord, recordViewOf, planAfter] at hbad
  refine bind_stop_wpc ht hcommitted (fun hsome t h => hstop hsome t (.committed h)) fun t ht => ?_
  refine Act.wpc_bind_command (hcommitted t ht) ?_
  exact Act.wpc_pure (hstage _ (.returned (ht.noted _) (hopened.trans hsnap.symm)))
    (hok c hsnap.symm _ (ht.noted _))

end Commit

/-! ### Commits write the journal only -/

section Within

variable {journal : TransactionJournal} {current : Option TransactionSnapshot}
  {metadata : SlotMetadata} {target : UInt32} {w t : World}

theorem recordWritten_within (m : Media) :
    Store.Within (InJournal journal) m (recordWritten journal m current metadata target) := by
  refine (Store.Within.refl _ m).write fun a ha => ⟨.record (recordBit current), ?_⟩
  rw [length_planRecord] at ha
  exact ha

theorem selectorWritten_within (m : Media) :
    Store.Within (InJournal journal) m (selectorWritten journal m current metadata target) := by
  refine (recordWritten_within m).flush.write fun a ha => ⟨.selector (selectorBit current), ?_⟩
  rw [length_planSelector] at ha
  exact ha

theorem committed_within (m : Media) :
    Store.Within (InJournal journal) m (committed journal m current metadata target) :=
  (selectorWritten_within m).flush

theorem CommitStage.within (h : CommitStage journal current metadata target w t) :
    Store.Within (InJournal journal) (w.media journal.provider.device)
      (t.media journal.provider.device) := by
  cases h with
  | begun h =>
      rw [h.media]
      exact Store.Within.refl _ _
  | recordWritten h =>
      rw [h.media]
      exact recordWritten_within _
  | recordFlushed h =>
      rw [h.media]
      exact (recordWritten_within _).flush
  | selectorWritten h =>
      rw [h.media]
      exact selectorWritten_within _
  | committed h | returned h _ =>
      rw [h.media]
      exact committed_within _

/-- A commit leaves a slot as it was. -/
theorem slot_kept (hsited : Sited journal) {m m' : Media}
    (hwithin : Store.Within (InJournal journal) m m') {slot : UInt32} {a : Nat}
    (ha : (Storage.slotRegion journal.layout slot).Contains a) (hclean : ¬ m.dirty a) :
    ¬ m'.dirty a ∧ m'.durable a = m.durable a := by
  have haway := slot_not_inJournal hsited ha
  exact ⟨fun hdirty => hclean (hwithin.dirty a haway hdirty), hwithin.durable a haway hclean⟩

/-- Writes inside an image slot do not reach the journal. -/
theorem Settled.within {m m' : Media} {S : TransactionSnapshot} (h : Settled journal m S)
    {slot : UInt32}
    (hwithin : Store.Within (Storage.slotRegion journal.layout slot).Contains m m') :
    Settled journal m' S := by
  obtain ⟨hvalid, -⟩ := openImage_eq_ok.mp h.opens
  have haway : ∀ o a, (journalOverlay journal).covers o a →
      ¬ (Storage.slotRegion journal.layout slot).Contains a := fun o a ha hslot =>
    slot_not_inJournal (journalIsValid_sited hvalid) hslot ⟨o, ha⟩
  refine ⟨fun o => (hwithin.view (haway o) (h.clean o)).1, ?_⟩
  rw [← h.opens]
  exact congrArg (openImage journal) (funext fun o => (hwithin.view (haway o) (h.clean o)).2)

/-- **What a power cut in a commit leaves**: the snapshot it started from, or its successor. -/
theorem CommitStage.crash {S : TransactionSnapshot}
    (h : Settled journal (w.media journal.provider.device) S)
    (c : Committable (some S) metadata target)
    (hstage : CommitStage journal (some S) metadata target w t) {img : Obj → List UInt8}
    (himg : (journalView journal t).CrashTo scheme.Rejects img) :
    openImage journal img = .ok S ∨
      openImage journal img = .ok (successor (some S) metadata target) := by
  have hview : ∀ {m : Media} {notes : List JournalNote},
      Moved journal.provider.device w m notes t →
      (m.view (journalOverlay journal)).CrashTo scheme.Rejects img := by
    intro m notes ht
    rw [← ht.media]
    exact himg
  cases hstage with
  | begun ht => exact Or.inl (h.crash (hview ht))
  | recordWritten ht => exact Or.inl (h.recordWritten_crash c (hview ht))
  | recordFlushed ht => exact Or.inl ((h.recordFlushed c).crash (hview ht))
  | selectorWritten ht => exact h.selectorWritten_crash c (hview ht)
  | committed ht | returned ht _ => exact Or.inr ((h.afterCommit c).crash (hview ht))

end Within

end Ribon.Transaction
