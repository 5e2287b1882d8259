/-
What stands behind a slot that is called verified, pending or confirmed.

A slot reaches these states through staging, and it leaves staging only when the
installer has read every component back from flushed media.  From then on
nothing is written into the slot: a write into a slot is in flight only while
the durable journal calls the slot staged.  So whatever a power cut leaves, the
payload of such a slot is the payload of the manifest it names.
-/
import Ribon.Update.Authorization
import Ribon.Update.Consistency

namespace Ribon.Transaction

open Wire Crash Crash.TwoSlot Storage

/-- The states that promise a payload. -/
def Promising (state : SlotState) : Prop := state ∈ [SlotState.verified, .pending, .confirmed]

/-- The slot holds the payload of the manifest that its entry names. -/
def Intact (journal : TransactionJournal) (img : Nat → UInt8) (slot : UInt32) (entry : SlotEntry) :
    Prop :=
  ∃ manifest, Manifest.manifestOpen (.mem manifest.bytes) = .ok manifest ∧
    sha256 manifest.bytes manifest.byteSize = entry.manifestDigest ∧
    ManifestMatches img (slotRegion journal.layout slot) journal.provider.writeAlignment
      manifest

/-- Some snapshot of the history showed the slot in a state that promises nothing, so that the state
it is in was reached since then. -/
def Reached (notes : List JournalNote) (slot : UInt32) : Prop :=
  ∃ snapshot, (.commitReturns snapshot ∈ notes ∨ .recovered snapshot ∈ notes) ∧
    ¬ Promising (snapshot.metadata.slot slot).state

/-- The journal is at rest, writes are in flight only in staged slots, and every promise that was
made in the history is kept. -/
structure Sound (journal : TransactionJournal) (S : TransactionSnapshot) (t : World) : Prop where
  consistent : Consistent journal S t
  staged : ∀ slot a, slot < slotCount →
    (slotRegion journal.layout slot).Contains a →
    (t.media journal.provider.device).dirty a → (S.metadata.slot slot).state = .staging
  intact : ∀ slot, slot < slotCount → Promising (S.metadata.slot slot).state →
    Reached t.notes slot →
    Intact journal (t.media journal.provider.device).durable slot (S.metadata.slot slot)

/-- The same at every point of a call, for whatever a power cut leaves there. -/
structure Safe (journal : TransactionJournal) (t : World) : Prop where
  recoverable : Recoverable journal t
  staged : ∀ slot a, slot < slotCount →
    (slotRegion journal.layout slot).Contains a →
    (t.media journal.provider.device).dirty a →
    ∃ S, openImage journal (journalView journal t).durable = .ok S ∧
      (S.metadata.slot slot).state = .staging
  intact : ∀ img S slot, (t.media journal.provider.device).CrashTo (fun _ _ => True) img →
    (journalView journal t).CrashTo scheme.Rejects (Store.viewImage (journalOverlay journal) img) →
    openImage journal (Store.viewImage (journalOverlay journal) img) = .ok S →
    slot < slotCount → Promising (S.metadata.slot slot).state → Reached t.notes slot →
    Intact journal img slot (S.metadata.slot slot)

/-- Payload is read from the slot's own region. -/
theorem Intact.congr {journal : TransactionJournal} {img img' : Nat → UInt8} {slot : UInt32}
    {entry entry' : SlotEntry} (h : Intact journal img slot entry)
    (hdig : entry'.manifestDigest = entry.manifestDigest)
    (himg : ∀ a, (slotRegion journal.layout slot).Contains a → img' a = img a) :
    Intact journal img' slot entry' := by
  obtain ⟨manifest, hopen, hsame, hmatches⟩ := h
  exact ⟨manifest, hopen, hsame.trans hdig.symm, hmatches.congr himg⟩

/-! ### What a commit promises -/

/-- An authorized manifest opens as itself. -/
theorem manifestOpen_of_authorized {authorization : ManifestAuthorization} {manifest : ManifestView}
    {decision : KeyPolicyDecision}
    (h : Manifest.manifestAuthorize authorization = .ok (manifest, decision)) :
    Manifest.manifestOpen (.mem manifest.bytes) = .ok manifest := by
  obtain ⟨_, _, _, _, authorized⟩ := Manifest.manifestAuthorize_eq_ok.mp h
  exact Manifest.manifestOpen_bytes authorized.opens

section Promises

variable {journal : TransactionJournal} {S : TransactionSnapshot} {w : World}
  {metadata : SlotMetadata} {target : UInt32}

/-- **Each commit of a call is one edge of the metadata**, and the edge to the verified state has
the payload on flushed media behind it. -/
theorem CallStep.edge (h : CallStep journal w S metadata target) :
    ∃ transition, Storage.Transitioned S.metadata transition metadata ∧
      transition.slotId = target ∧
      (transition.nextState = .staging ∨
        (transition.nextState = .verified ∧
          (∀ a, ¬ (w.media journal.provider.device).dirty a) ∧
          Intact journal (w.media journal.provider.device).cached target (metadata.slot target)) ∨
        transition.nextState = .pending ∨ transition.nextState = .confirmed) := by
  cases h with
  | install request hover step =>
      obtain ⟨rfl, hprov, hlay⟩ := hover
      cases step with
      | stage prepared fresh =>
          exact ⟨_, prepared_stages prepared fresh, rfl, Or.inl rfl⟩
      | @verify parts manifest plan metadata staging parts_eq installed =>
          obtain ⟨prepared, htrans⟩ := installed_resumed staging parts_eq installed
          obtain ⟨decision, hauth⟩ := installed.authorized
          obtain ⟨hsame, hsame'⟩ := parts_of_journal parts_eq hprov hlay
          refine ⟨_, htrans, rfl, Or.inr (Or.inl ⟨rfl, ?_, manifest,
            manifestOpen_of_authorized hauth, ?_, ?_⟩)⟩
          · rw [← hsame]
            exact installed.clean
          · have hdig : (metadata.slot request.install.targetSlot).manifestDigest =
                plan.manifestDigest := htrans.entry.2.2.2.1
            rw [hdig, prepared.manifestDigest]
          · rw [← hsame, ← hsame']
            exact installed.onMedia
      | pend verified transition =>
          have htrans := metadataTransition_eq_ok (mapStatus_eq_ok.mp transition)
          exact ⟨_, htrans, rfl, Or.inr (Or.inr (Or.inl rfl))⟩
  | confirm request hover step =>
      obtain rfl := hover
      cases step with
      | confirm matching transition =>
          have htrans := metadataTransition_eq_ok (mapStatus_eq_ok.mp transition)
          exact ⟨_, htrans, rfl, Or.inr (Or.inr (Or.inr rfl))⟩

/-- A slot that promises something has nothing in flight. -/
theorem Sound.clean (h : Sound journal S w) {slot : UInt32} (hslot : slot < slotCount)
    (hstate : Promising (S.metadata.slot slot).state) {a : Nat}
    (ha : (slotRegion journal.layout slot).Contains a) :
    ¬ (w.media journal.provider.device).dirty a := by
  intro hdirty
  rw [h.staged slot a hslot ha hdirty] at hstate
  simp [Promising] at hstate

/-- **What a commit is going to promise holds before it begins**, with nothing in flight. -/
theorem Sound.promise (h : Sound journal S w) (hstep : CallStep journal w S metadata target)
    {slot : UInt32} (hslot : slot < slotCount)
    (hstate : Promising (metadata.slot slot).state) (hreach : Reached w.notes slot) :
    (∀ a, (slotRegion journal.layout slot).Contains a →
      ¬ (w.media journal.provider.device).dirty a) ∧
      Intact journal (w.media journal.provider.device).durable slot (metadata.slot slot) := by
  obtain ⟨transition, htrans, rfl, hedge⟩ := hstep.edge
  by_cases hother : slot = transition.slotId
  · subst hother
    have hnext : (metadata.slot transition.slotId).state = transition.nextState :=
      htrans.entry.1
    -- the slot promised something before, with the same manifest
    have hkept : Promising (S.metadata.slot transition.slotId).state →
        transition.nextState ≠ .staging →
        (∀ a, (slotRegion journal.layout transition.slotId).Contains a →
          ¬ (w.media journal.provider.device).dirty a) ∧
          Intact journal (w.media journal.provider.device).durable transition.slotId
            (metadata.slot transition.slotId) := by
      intro hbefore hnot
      refine ⟨fun a ha => h.clean hslot hbefore ha, ?_⟩
      exact (h.intact _ hslot hbefore hreach).congr (htrans.keeps_identity hnot).2.1
        fun a _ => rfl
    have hallowed := htrans.edge
    rcases hedge with hstag | ⟨-, hclean, hintact⟩ | hpend | hconf
    · rw [hnext, hstag] at hstate
      simp [Promising] at hstate
    · refine ⟨fun a _ => hclean a, hintact.congr rfl fun a _ => ?_⟩
      exact ((w.media journal.provider.device).coherent a (hclean a)).symm
    · refine hkept ?_ (by rw [hpend]; decide)
      rw [hpend, transitionIsAllowed_pending] at hallowed
      rw [hallowed]
      simp [Promising]
    · refine hkept ?_ (by rw [hconf]; decide)
      rw [hconf, transitionIsAllowed_confirmed] at hallowed
      rw [hallowed]
      simp [Promising]
  · have hsame := htrans.slot_other hslot hother
    rw [hsame] at hstate ⊢
    exact ⟨fun a ha => h.clean hslot hstate ha, h.intact slot hslot hstate hreach⟩

end Promises

/-! ### Notes -/

section Notes

variable {notes : List JournalNote} {slot : UInt32} {S : TransactionSnapshot}

theorem reached_begins {current : Option TransactionSnapshot} {metadata : SlotMetadata}
    {target : UInt32} (h : Reached (.commitBegins current metadata target :: notes) slot) :
    Reached notes slot := by
  obtain ⟨S, hmem, hstate⟩ := h
  refine ⟨S, ?_, hstate⟩
  simpa using hmem

/-- A snapshot that shows a promise is not the one through which the promise was reached. -/
theorem reached_returns (hstate : Promising (S.metadata.slot slot).state)
    (h : Reached (.commitReturns S :: notes) slot) : Reached notes slot := by
  obtain ⟨S', hmem, hstate'⟩ := h
  simp only [List.mem_cons, JournalNote.commitReturns.injEq, reduceCtorEq, false_or] at hmem
  rcases hmem with (rfl | hmem) | hmem
  · exact absurd hstate hstate'
  · exact ⟨S', Or.inl hmem, hstate'⟩
  · exact ⟨S', Or.inr hmem, hstate'⟩

theorem reached_recovered (hstate : Promising (S.metadata.slot slot).state)
    (h : Reached (.recovered S :: notes) slot) : Reached notes slot := by
  obtain ⟨S', hmem, hstate'⟩ := h
  simp only [List.mem_cons, JournalNote.recovered.injEq, reduceCtorEq, false_or] at hmem
  rcases hmem with hmem | rfl | hmem
  · exact ⟨S', Or.inl hmem, hstate'⟩
  · exact absurd hstate hstate'
  · exact ⟨S', Or.inr hmem, hstate'⟩

/-- Nothing was reached before the journal was open. -/
theorem not_reached_of_silent (h : lastCommitted notes = none) : ¬ Reached notes slot := by
  induction notes with
  | nil =>
      intro hreach
      obtain ⟨S, hmem, -⟩ := hreach
      simp at hmem
  | cons entry rest ih =>
      cases entry with
      | commitBegins current metadata target => exact fun hreach => ih h (reached_begins hreach)
      | commitReturns snapshot => cases h
      | recovered snapshot => cases h

end Notes

/-! ### The moves -/

section Moves

variable {journal : TransactionJournal} {S : TransactionSnapshot} {w t t' : World}
  {metadata : SlotMetadata} {target : UInt32}

theorem Sound.sited (h : Sound journal S w) : Sited journal := by
  obtain ⟨hvalid, -⟩ := openImage_eq_ok.mp h.consistent.settled.opens
  exact journalIsValid_sited hvalid

theorem Sound.safe (h : Sound journal S t) : Safe journal t where
  recoverable := h.consistent.recoverable
  staged slot a hslot ha hdirty :=
    ⟨S, h.consistent.settled.opens, h.staged slot a hslot ha hdirty⟩
  intact := by
    intro img S' slot hbytes hobjs hopen hslot hstate hreach
    have hsame : S = S' :=
      Except.ok.inj ((h.consistent.settled.crash hobjs).symm.trans hopen)
    subst hsame
    refine (h.intact slot hslot hstate hreach).congr rfl fun a ha => ?_
    exact hbytes.of_clean (h.clean hslot hstate ha)

variable (h : Sound journal S w) (hstep : CallStep journal w S metadata target)
  (c : Committable (some S) metadata target)
include h hstep c

theorem Sound.afterCommit
    (ht : Moved journal.provider.device w
      (committed journal (w.media journal.provider.device) (some S) metadata target)
      (.commitReturns (successor (some S) metadata target) ::
        .commitBegins (some S) metadata target :: w.notes) t) :
    Sound journal (successor (some S) metadata target) t where
  consistent := h.consistent.afterCommit c ht
  staged := by
    intro slot a _ _ hdirty
    rw [ht.media] at hdirty
    exact hdirty.elim
  intact := by
    intro slot hslot hstate hreach
    rw [ht.notes_eq] at hreach
    obtain ⟨hclean, hintact⟩ := h.promise hstep hslot hstate
      (reached_begins (reached_returns hstate hreach))
    refine hintact.congr rfl fun a ha => ?_
    rw [ht.media]
    exact (slot_kept h.sited (committed_within _) ha (hclean a ha)).2

/-- A commit under way: what is in flight is in staged slots, and both outcomes keep the promises. -/
theorem Sound.committing (hstage : CommitStage journal (some S) metadata target w t)
    (hnotes : t.notes = .commitBegins (some S) metadata target :: w.notes)
    (hstaged : ∀ slot a, slot < slotCount →
      (slotRegion journal.layout slot).Contains a →
      (t.media journal.provider.device).dirty a →
      openImage journal (journalView journal t).durable = .ok S) :
    Safe journal t where
  recoverable := h.consistent.stage c hstage
  staged := by
    intro slot a hslot ha hdirty
    refine ⟨S, hstaged slot a hslot ha hdirty, h.staged slot a hslot ha ?_⟩
    exact hstage.within.dirty a (slot_not_inJournal h.sited ha) hdirty
  intact := by
    intro img found slot hbytes hobjs hopen hslot hstate hreach
    rw [hnotes] at hreach
    have hreach := reached_begins hreach
    obtain ⟨found', hfound', hrecovers⟩ := (h.consistent.stage c hstage).opens _ hobjs
    obtain rfl : found' = found := Except.ok.inj (hfound'.symm.trans hopen)
    -- a clean byte of the slot is what it was before the commit
    have hkept : ∀ a, (slotRegion journal.layout slot).Contains a →
        ¬ (w.media journal.provider.device).dirty a →
        img a = (w.media journal.provider.device).durable a := by
      intro a ha hclean
      obtain ⟨hclean', hdur⟩ := slot_kept h.sited hstage.within ha hclean
      exact (hbytes.of_clean hclean').trans hdur
    rw [hnotes] at hrecovers
    cases hrecovers with
    | last hlast =>
        obtain rfl : S = found' := Option.some.inj (h.consistent.last.symm.trans hlast)
        exact (h.intact slot hslot hstate hreach).congr rfl fun a ha =>
          hkept a ha (h.clean hslot hstate ha)
    | next hbegun _ hsucc _ _ =>
        cases hbegun
        subst hsucc
        obtain ⟨hclean, hintact⟩ := h.promise hstep hslot hstate hreach
        exact hintact.congr rfl fun a ha => hkept a ha (hclean a ha)

/-- **Every stage of a commit is safe.** -/
theorem Sound.stage (hstage : CommitStage journal (some S) metadata target w t) :
    Safe journal t := by
  have hcase := hstage
  cases hcase with
  | begun ht | recordWritten ht =>
      -- the record is at most in the cache
      refine h.committing hstep c hstage ht.notes_eq fun _ _ _ _ _ => ?_
      show openImage journal
        (Store.view (journalOverlay journal) (t.media journal.provider.device)).durable = _
      rw [ht.media]
      exact h.consistent.settled.opens
  | recordFlushed ht | committed ht =>
      refine h.committing hstep c hstage ht.notes_eq fun _ a _ _ hdirty => ?_
      rw [ht.media] at hdirty
      exact hdirty.elim
  | selectorWritten ht =>
      -- nothing but the selector is in the cache
      refine h.committing hstep c hstage ht.notes_eq fun _ a _ ha hdirty => ?_
      rw [ht.media] at hdirty
      rcases hdirty with hsel | hflushed
      · refine absurd ⟨.selector (selectorBit (some S)), ?_⟩ (slot_not_inJournal h.sited ha)
        rw [length_planSelector] at hsel
        exact hsel
      · exact hflushed.elim
  | returned ht _ => exact (h.afterCommit hstep c ht).safe

omit h hstep c

/-- Writing the staged slot breaks no promise of the other one. -/
theorem Sound.payload (h : Sound journal S w)
    (hstag : (S.metadata.slot target).state = .staging) (htgt : target < slotCount)
    (ht : WrittenIn journal.provider.device (slotRegion journal.layout target) w t)
    (hconsistent : Consistent journal S t) : Sound journal S t where
  consistent := hconsistent
  staged := by
    intro slot a hslot ha hdirty
    by_cases hsame : slot = target
    · rw [hsame]
      exact hstag
    · exact h.staged slot a hslot ha
        (ht.within.dirty a (slot_disjoint h.sited hslot htgt hsame ha) hdirty)
  intact := by
    intro slot hslot hstate hreach
    rw [ht.moved.notes_eq] at hreach
    have hne : slot ≠ target := by
      intro hsame
      rw [hsame, hstag] at hstate
      simp [Promising] at hstate
    refine (h.intact slot hslot hstate hreach).congr rfl fun a ha => ?_
    exact ht.within.durable a (slot_disjoint h.sited hslot htgt hne ha)
      (h.clean hslot hstate ha)

end Moves

/-- **Payload integrity survives every history.** -/
theorem sound_survives (journal : TransactionJournal) :
    Survives journal (Safe journal) (Sound journal) where
  settled h := h.consistent.settled
  rest h := h.safe
  stage h hstep c ht := h.stage hstep c ht
  commit h hstep c ht := h.afterCommit hstep c ht
  payload h hstag hactive htgt ht := h.payload hstag htgt ht
    ((consistent_survives journal).payload h.consistent hstag hactive htgt ht)
  observed h o := ⟨(consistent_survives journal).observed h.consistent o, h.staged, h.intact⟩
  first := by
    intro w t metadata target hidle c hopened ht
    refine ⟨(consistent_survives journal).first hidle c hopened ht, ?_, ?_⟩
    · intro slot a _ _ hdirty
      rw [ht.media] at hdirty
      exact hdirty.elim
    · intro slot hslot hstate hreach
      rw [ht.notes_eq] at hreach
      exact absurd (reached_begins (reached_returns hstate hreach))
        (not_reached_of_silent hidle.silent)
  recovered := by
    intro S t t' hbefore hpower hopen
    have hconsistent := (consistent_survives journal).recovered
      (hbefore.imp_left fun h => h.recoverable) hpower hopen
    refine ⟨hconsistent, fun slot a _ _ hdirty => absurd hdirty (hpower.clean a), ?_⟩
    intro slot hslot hstate hreach
    have hreach := reached_recovered hstate hreach
    rw [hpower.notes] at hreach
    obtain ⟨img, hbytes, hobjs, hmedia⟩ := hpower.media
    have hfound := openImage_left hmedia hopen
    rcases hbefore with hsafe | hsilent
    · have hintact := hsafe.intact img S slot hbytes hobjs hfound hslot hstate hreach
      refine hintact.congr rfl fun a _ => ?_
      rw [hmedia]
      rfl
    · exact absurd hreach (not_reached_of_silent hsilent)
  opens h hpower := (consistent_survives journal).opens h.recoverable hpower

end Ribon.Transaction
