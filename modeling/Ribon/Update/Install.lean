/-
The calls on the update journal, as sequences of moves.

Between two moves the journal is at rest with one snapshot.  A move is a commit,
which takes the journal to the successor of that snapshot, or a write into the
slot that is being staged, which leaves the journal alone.  `Upheld` is what a
property has to satisfy to survive every move.  The rules below say that then it
survives every call, wherever the call is stopped: the calls are walked through
once here, and each property of them is a question about the moves.
-/
import Ribon.Update.Commit
import Ribon.Update.Slots

namespace Ribon

open Wire Crash Crash.TwoSlot Storage Installer

/-! ### What an install is prepared with -/

namespace Installer

/-- What `installPrepare` has checked. -/
structure Prepared (request : InstallRequest) (parts : Parts) (manifest : ManifestView)
    (plan : InstallPlan) : Prop where
  parts_eq : openRequest request = .ok parts
  authorized : ∃ decision, Manifest.manifestAuthorize request.authorization = .ok (manifest, decision)
  accepted : layoutAcceptsManifest parts.layout manifest = true
  inactive : parts.currentMetadata.activeSlot ≠ request.targetSlot
  resumeState : plan.resumeState = (parts.currentMetadata.slot request.targetSlot).state
  manifestDigest : plan.manifestDigest = sha256 manifest.bytes manifest.byteSize
  imageSetDigest : imageSetIdentity manifest = .ok plan.imageSetDigest
  /-- A slot that is not being installed starts over. -/
  fresh : plan.resumeState ∈ [SlotState.empty, .bad, .confirmed] →
    metadataTransition parts.currentMetadata
      (transitionTo .staging request.targetSlot manifest.bundleGeneration plan.manifestDigest
        plan.imageSetDigest parts.layout.identityDigest) = .ok plan.stagingMetadata
  /-- A slot that is being installed goes on, under the same identity. -/
  resumed : plan.resumeState ∈ [SlotState.staging, .verified, .pending] →
    plan.stagingMetadata = parts.currentMetadata ∧
    entryMatchesPlan (parts.currentMetadata.slot request.targetSlot) manifest.bundleGeneration
      plan.manifestDigest plan.imageSetDigest parts.layout.identityDigest = true

variable {target : UInt32} {current next : SlotMetadata}
  {manifestDigest imageSetDigest layoutDigest : Digest} {generation : UInt64}
  (h : stagingMetadataFor current target generation manifestDigest imageSetDigest layoutDigest = .ok next)
include h

theorem stagingMetadataFor_fresh
    (hstate : (current.slot target).state ∈ [SlotState.empty, .bad, .confirmed]) :
    metadataTransition current (transitionTo .staging target generation manifestDigest
      imageSetDigest layoutDigest) = .ok next := by
  unfold stagingMetadataFor at h
  simp only [List.mem_cons, List.not_mem_nil, or_false] at hstate
  rcases hstate with hstate | hstate | hstate
  · rw [hstate] at h
    exact mapStatus_eq_ok.mp h
  · rw [hstate] at h
    exact mapStatus_eq_ok.mp h
  · rw [hstate] at h
    exact mapStatus_eq_ok.mp h

theorem stagingMetadataFor_resumed
    (hstate : (current.slot target).state ∈ [SlotState.staging, .verified, .pending]) :
    next = current ∧ entryMatchesPlan (current.slot target) generation manifestDigest imageSetDigest
      layoutDigest = true := by
  have hif : (if entryMatchesPlan (current.slot target) generation manifestDigest imageSetDigest
      layoutDigest = true then .ok current else Except.error InstallStatus.state) = .ok next := by
    unfold stagingMetadataFor at h
    simp only [List.mem_cons, List.not_mem_nil, or_false] at hstate
    rcases hstate with hstate | hstate | hstate
    · rw [hstate] at h
      exact h
    · rw [hstate] at h
      exact h
    · rw [hstate] at h
      exact h
  split at hif
  · next hmatch =>
    cases hif
    exact ⟨rfl, hmatch⟩
  · cases hif

omit h

theorem installPrepare_eq_ok {request : InstallRequest} {plan : InstallPlan}
    (h : installPrepare request = .ok plan) : ∃ parts manifest, Prepared request parts manifest plan := by
  unfold installPrepare at h
  simp only [bind_eq_ok, refuse_eq_ok, mapStatus_eq_ok, pure_eq_ok, exists_const, Prod.exists] at h
  obtain ⟨parts, hparts, manifest, decision, hauth, haccepted, hactive, imageSetDigest,
    hset, metadata, hmeta, rfl⟩ := h
  refine ⟨parts, manifest, hparts, ⟨decision, hauth⟩, by simpa using haccepted,
    by simpa using hactive, rfl, rfl, hset, ?_, ?_⟩
  · intro hstate
    exact stagingMetadataFor_fresh hmeta hstate
  · intro hstate
    exact stagingMetadataFor_resumed hmeta hstate

end Installer

namespace Transaction

/-! ### Moves -/

/-- What a property `R` of a journal at rest, and a property `I` of every point of a call, have to
satisfy to hold all along the calls that make the commits `allowed` describes. -/
structure Upheld (journal : TransactionJournal)
    (allowed : World → TransactionSnapshot → SlotMetadata → UInt32 → Prop) (I : World → Prop)
    (R : TransactionSnapshot → World → Prop) : Prop where
  settled : ∀ {S t}, R S t → Settled journal (t.media journal.provider.device) S
  rest : ∀ {S t}, R S t → I t
  stage : ∀ {S w t metadata target}, R S w → allowed w S metadata target →
    Committable (some S) metadata target → CommitStage journal (some S) metadata target w t → I t
  commit : ∀ {S w t metadata target}, R S w → allowed w S metadata target →
    Committable (some S) metadata target →
    Moved journal.provider.device w
      (committed journal (w.media journal.provider.device) (some S) metadata target)
      (.commitReturns (successor (some S) metadata target) ::
        .commitBegins (some S) metadata target :: w.notes) t →
    R (successor (some S) metadata target) t
  payload : ∀ {S w t target}, R S w → (S.metadata.slot target).state = .staging →
    S.metadata.activeSlot ≠ target → target < slotCount →
    WrittenIn journal.provider.device (slotRegion journal.layout target) w t → R S t

/-- How a part of an install ends: at rest with a snapshot of which `P` holds, or with an error.
A part that was stopped may be anywhere. -/
def RestsWith {A : Type} (I : World → Prop) (R : TransactionSnapshot → World → Prop)
    (P : A → TransactionSnapshot → Prop) : Except TransactionStatus A → World → Prop
  | .ok a, t => ∃ S, R S t ∧ P a S
  | .error e, t => I t ∧ (e ≠ .interrupted → ∃ S, R S t)

section Rules

variable {journal : TransactionJournal}
  {allowed : World → TransactionSnapshot → SlotMetadata → UInt32 → Prop} {I : World → Prop}
  {R : TransactionSnapshot → World → Prop} {S : TransactionSnapshot} {w : World}

variable (u : Upheld journal allowed I R) (h : R S w)
include u h

/-- Opening a journal at rest finds its snapshot. -/
theorem Upheld.bind_open_wpc {A : Type} {f : TransactionSnapshot → Act TransactionStatus A}
    {Q : Except TransactionStatus A → World → Prop} (hgo : Act.wpc machine I Q (f S) w) :
    Act.wpc machine I Q (transactionOpen journal >>= f) w := by
  refine Act.wpc_bind_exact (transactionOpen_wpc (u.rest h) ⟨?_, rfl⟩) hgo
  rw [show (journalView journal w).cached = _ from (u.settled h).cached_eq]
  exact (u.settled h).opens

theorem Upheld.refused {A : Type} {P : A → TransactionSnapshot → Prop} {e : TransactionStatus} :
    RestsWith I R P (.error e) w :=
  ⟨u.rest h, fun _ => ⟨S, h⟩⟩

/-- A commit is refused, stopped, or done. -/
theorem Upheld.commitRecord_rests {metadata : SlotMetadata} {target : UInt32}
    (ha : allowed w S metadata target) {observer : Option TransactionObserver}
    {P : TransactionSnapshot → TransactionSnapshot → Prop}
    (hP : P (successor (some S) metadata target) (successor (some S) metadata target)) :
    Act.wpc machine I (RestsWith I R P) (commitRecord journal (some S) metadata target observer) w := by
  have hsettled := u.settled h
  obtain ⟨hvalid, -⟩ := openImage_eq_ok.mp hsettled.opens
  refine Transaction.commitRecord_wpc hvalid ?_ rfl ?_ (u.rest h) (fun c t => u.stage h ha c)
    (fun e _ => u.refused h) (fun c _ t ht => ⟨u.stage h ha c ht, fun he => absurd rfl he⟩) ?_
    fun c _ t ht => ⟨_, u.commit h ha c ht, hP⟩
  · intro snapshot hsnap
    cases hsnap
    exact hsettled.slotted
  · intro c snapshot hopen
    exact Except.ok.inj (hopen.symm.trans (hsettled.afterCommit c).opens)
  · intro c e t hopen
    rw [(hsettled.afterCommit c).opens] at hopen
    cases hopen

end Rules

/-! ### The install -/

/-- The commits of an install, in the order in which it makes them. -/
inductive InstallStep (request : TransactionalInstallRequest) (w : World)
    (S : TransactionSnapshot) : SlotMetadata → UInt32 → Prop
  /-- The slot is staged for the manifest. -/
  | stage {parts : Installer.Parts} {manifest : ManifestView} {plan : InstallPlan}
      (prepared : Installer.Prepared (installAgainst request S) parts manifest plan)
      (fresh : plan.resumeState ∈ [SlotState.empty, .bad, .confirmed]) :
      InstallStep request w S plan.stagingMetadata request.install.targetSlot
  /-- The payload is on the media. -/
  | verify {parts : Installer.Parts} {manifest : ManifestView} {plan : InstallPlan}
      {metadata : SlotMetadata} (staging : (S.metadata.slot request.install.targetSlot).state = .staging)
      (parts_eq : openRequest (installAgainst request S) = .ok parts)
      (installed : Installer.Installed (installAgainst request S) parts w plan manifest metadata) :
      InstallStep request w S metadata request.install.targetSlot
  /-- The slot may be booted on trial. -/
  | pend {metadata : SlotMetadata}
      (verified : (S.metadata.slot request.install.targetSlot).state = .verified)
      (transition : transitionPending S request.install.targetSlot request.pendingAttempts =
        .ok metadata) :
      InstallStep request w S metadata request.install.targetSlot

section Install

variable {request : TransactionalInstallRequest} {I : World → Prop}
  {R : TransactionSnapshot → World → Prop} {S : TransactionSnapshot} {w : World}

/-- The metadata of a successor is what was committed. -/
theorem successor_slot {current : Option TransactionSnapshot} {metadata : SlotMetadata}
    {target slotId : UInt32} :
    (successor current metadata target).metadata.slot slotId = metadata.slot slotId := rfl

variable {parts : Installer.Parts}

/-- What a request against a snapshot holds. -/
theorem installAgainst_parts (h : openRequest (installAgainst request S) = .ok parts) :
    parts.currentMetadata = S.metadata ∧ request.install.provider = some parts.provider ∧
      request.install.layout = some parts.layout ∧
      request.install.targetSlot < slotCount := by
  obtain ⟨-, hprov, hlay, hmeta, hvalid⟩ := openRequest_eq_ok h
  refine ⟨(Option.some.inj hmeta).symm, hprov, hlay, ?_⟩
  simp only [requestIsValid, Bool.and_eq_true, decide_eq_true_eq] at hvalid
  exact hvalid.1.1.1.1.1.1.1.1.1.2

section Prepared

variable {parts : Installer.Parts} {manifest : ManifestView} {plan : InstallPlan}
  (prepared : Installer.Prepared (installAgainst request S) parts manifest plan)
include prepared

theorem prepared_state :
    plan.resumeState = (S.metadata.slot request.install.targetSlot).state := by
  rw [prepared.resumeState, (installAgainst_parts prepared.parts_eq).1]
  rfl

theorem prepared_inactive : S.metadata.activeSlot ≠ request.install.targetSlot := by
  rw [← (installAgainst_parts prepared.parts_eq).1]
  exact prepared.inactive

theorem prepared_stages (fresh : plan.resumeState ∈ [SlotState.empty, .bad, .confirmed]) :
    Storage.Transitioned S.metadata (transitionTo .staging request.install.targetSlot
      manifest.bundleGeneration plan.manifestDigest plan.imageSetDigest
      parts.layout.identityDigest) plan.stagingMetadata := by
  rw [← (installAgainst_parts prepared.parts_eq).1]
  exact metadataTransition_eq_ok (prepared.fresh fresh)

end Prepared

/-- A request over the provider and the layout of its journal. -/
theorem parts_of_journal (h : openRequest (installAgainst request S) = .ok parts)
    (hprov : request.install.provider = some request.journal.provider)
    (hlay : request.install.layout = some request.journal.layout) :
    parts.provider = request.journal.provider ∧ parts.layout = request.journal.layout := by
  obtain ⟨-, hprov', hlay', -⟩ := installAgainst_parts h
  exact ⟨Option.some.inj (hprov'.symm.trans hprov),
    Option.some.inj (hlay'.symm.trans hlay)⟩

/-- An install into a slot that is staged goes on from the metadata of the journal. -/
theorem installed_resumed {manifest : ManifestView} {plan : InstallPlan} {metadata : SlotMetadata}
    (staging : (S.metadata.slot request.install.targetSlot).state = .staging)
    (parts_eq : openRequest (installAgainst request S) = .ok parts)
    (installed : Installer.Installed (installAgainst request S) parts w plan manifest metadata) :
    Installer.Prepared (installAgainst request S) parts manifest plan ∧
      Storage.Transitioned S.metadata (transitionTo .verified request.install.targetSlot
        manifest.bundleGeneration plan.manifestDigest plan.imageSetDigest
        parts.layout.identityDigest) metadata := by
  obtain ⟨parts', manifest', prepared⟩ := installPrepare_eq_ok installed.prepared
  obtain rfl : parts = parts' := Except.ok.inj (parts_eq.symm.trans prepared.parts_eq)
  obtain ⟨decision, hauth⟩ := installed.authorized
  obtain ⟨decision', hauth'⟩ := prepared.authorized
  obtain rfl : manifest = manifest' :=
    congrArg Prod.fst (Except.ok.inj (hauth.symm.trans hauth'))
  have hresumed : plan.stagingMetadata = S.metadata := by
    rw [← (installAgainst_parts parts_eq).1]
    refine (prepared.resumed ?_).1
    rw [prepared_state prepared, staging]
    simp
  have htrans := metadataTransition_eq_ok installed.transition
  rw [hresumed] at htrans
  exact ⟨prepared, htrans⟩

variable (u : Upheld request.journal (InstallStep request) I R) (h : R S w)
include u h

theorem commitStaging_wpc {manifest : ManifestView} {plan : InstallPlan}
    (prepared : Installer.Prepared (installAgainst request S) parts manifest plan)
    (hpend : plan.resumeState ≠ .pending) :
    Act.wpc machine I (RestsWith I R fun S' current => S' = current ∧
        (current.metadata.slot request.install.targetSlot).state ∈ [SlotState.staging, .verified])
      (commitStaging request S plan) w := by
  unfold commitStaging
  split
  · next hfresh =>
    have hmem : plan.resumeState ∈ [SlotState.empty, .bad, .confirmed] := by
      cases hplan : plan.resumeState <;> simp_all
    refine u.commitRecord_rests h (.stage prepared hmem) ⟨rfl, ?_⟩
    have hstaged : (plan.stagingMetadata.slot request.install.targetSlot).state = .staging :=
      (prepared_stages prepared hmem).entry.1
    rw [successor_slot, hstaged]
    simp
  · next hfresh =>
    refine Act.wpc_pure (u.rest h) ⟨S, h, rfl, ?_⟩
    rw [← prepared_state prepared]
    simp only [Bool.and_eq_true, bne_iff_ne, not_and_or, not_not] at hfresh
    rcases hfresh with hfresh | hfresh <;> simp [hfresh]

theorem installPayload_wpc (hprov : request.install.provider = some request.journal.provider)
    (hlay : request.install.layout = some request.journal.layout) :
    Act.wpc machine I (RestsWith I R fun r current => r.2.2 = current) (installPayload request S) w := by
  unfold installPayload
  split
  · next hstag =>
    have hstag : (S.metadata.slot request.install.targetSlot).state = .staging := by
      simpa using hstag
    cases hprep : installPrepare (installAgainst request S) with
    | error e =>
        -- a request that cannot be prepared is refused before anything is written
        have hthrow : installSignedBundle (installAgainst request S) = throw e := by
          unfold installSignedBundle
          rw [hprep]
          rfl
        rw [hthrow]
        exact ⟨u.rest h, u.rest h, fun _ => ⟨S, h⟩⟩
    | ok plan =>
        obtain ⟨parts, manifest, prepared⟩ := installPrepare_eq_ok hprep
        obtain ⟨-, -, -, htgt⟩ := installAgainst_parts prepared.parts_eq
        obtain ⟨hsame, hsame'⟩ := parts_of_journal prepared.parts_eq hprov hlay
        have hrests : ∀ t, WrittenIn parts.provider.device
            (slotRegion parts.layout (installAgainst request S).targetSlot) w t → R S t := by
          intro t ht
          rw [hsame, hsame'] at ht
          exact u.payload h hstag (prepared_inactive prepared) htgt ht
        refine Act.wpc_bind_mapError (Act.wpc_mono (installSignedBundle_wpc prepared.parts_eq w)
          (fun t ht => u.rest (hrests t ht)) fun r t ht => ht) ?_
          fun e t ht => u.refused (hrests t ht.1)
        intro result t _ ht
        obtain ⟨ht, hinst⟩ := ht
        have ht := hrests t ht
        obtain ⟨plan, manifest, installed⟩ := hinst result rfl
        refine Act.wpc_bind (Q := RestsWith I R fun S' current => S' = current)
          (u.commitRecord_rests ht (.verify hstag prepared.parts_eq installed) rfl) ?_
          fun e t _ ht => ht
        intro next t hIt ht
        obtain ⟨S', hS', rfl⟩ := ht
        exact Act.wpc_pure hIt ⟨_, hS', rfl⟩
  · exact Act.wpc_pure (u.rest h) ⟨S, h, rfl⟩

theorem commitPending_wpc :
    Act.wpc machine I (RestsWith I R fun S' current => S' = current ∧
        (current.metadata.slot request.install.targetSlot).state = .pending)
      (commitPending request S) w := by
  refine Act.wpc_bind_refuseIf (u.rest h) (fun _ => u.refused h) fun hverified => ?_
  have hverified : (S.metadata.slot request.install.targetSlot).state = .verified := by
    simpa using hverified
  refine Act.wpc_bind_ofExcept (u.rest h) (fun e _ => u.refused h) fun metadata hmeta => ?_
  refine u.commitRecord_rests h (.pend hverified hmeta) ⟨rfl, ?_⟩
  have htrans := mapStatus_eq_ok.mp hmeta
  rw [successor_slot]
  exact (metadataTransition_eq_ok htrans).entry.1

/-- **An install is a sequence of moves.**  Wherever it is stopped, `I` holds.  Where it returns the
journal is at rest, and where it returns without an error the target slot is pending. -/
theorem installTransactionally_wpc
    (hprov : request.install.provider = some request.journal.provider)
    (hlay : request.install.layout = some request.journal.layout) :
    Act.wpc machine I (RestsWith I R fun result current => result.snapshot = current ∧
        (current.metadata.slot request.install.targetSlot).state = .pending)
      (installTransactionally request) w := by
  refine Act.wpc_bind_refuseIf (u.rest h) (fun _ => u.refused h) fun _ => ?_
  refine u.bind_open_wpc h ?_
  refine Act.wpc_bind_ofExcept (u.rest h) (fun e _ => u.refused h) fun plan hplan => ?_
  obtain ⟨parts, manifest, prepared⟩ := installPrepare_eq_ok (mapStatus_eq_ok.mp hplan)
  by_cases hpend : plan.resumeState = .pending
  · rw [if_pos (by simpa using hpend)]
    refine Act.wpc_pure (u.rest h) ⟨S, h, rfl, ?_⟩
    rw [← prepared_state prepared, hpend]
  · rw [if_neg (by simpa using hpend)]
    refine Act.wpc_bind (commitStaging_wpc u h prepared hpend) ?_ fun e t _ ht => ht
    intro S₁ t _ ht
    obtain ⟨S₁', hS₁, rfl, -⟩ := ht
    refine Act.wpc_bind (installPayload_wpc u hS₁ hprov hlay) ?_ fun e t _ ht => ht
    intro r t _ ht
    obtain ⟨exact, backing, S₂⟩ := r
    obtain ⟨S₂', hS₂, rfl⟩ := ht
    refine Act.wpc_bind (commitPending_wpc u hS₂) ?_ fun e t _ ht => ht
    intro S₃ t hIt ht
    obtain ⟨S₃', hS₃, rfl, hstate⟩ := ht
    exact Act.wpc_pure hIt ⟨_, hS₃, rfl, hstate⟩

end Install

/-! ### The confirmation of a pending slot -/

/-- The commit of a confirmation. -/
inductive ConfirmStep (request : ConfirmPendingRequest) (w : World) (S : TransactionSnapshot) :
    SlotMetadata → UInt32 → Prop
  | confirm {metadata : SlotMetadata} (matching : confirmIdentityMatches request S = true)
      (transition : transitionConfirmed S request.targetSlot = .ok metadata) :
      ConfirmStep request w S metadata request.targetSlot

/-- **So is a confirmation.** -/
theorem transactionConfirmPending_wpc {request : ConfirmPendingRequest} {I : World → Prop}
    {R : TransactionSnapshot → World → Prop} {S : TransactionSnapshot} {w : World}
    (u : Upheld request.journal (ConfirmStep request) I R) (h : R S w) :
    Act.wpc machine I (RestsWith I R fun result current => result.snapshot = current)
      (transactionConfirmPending request) w := by
  refine Act.wpc_bind_refuseIf (u.rest h) (fun _ => u.refused h) fun _ => ?_
  refine u.bind_open_wpc h ?_
  split
  · exact Act.wpc_pure (u.rest h) ⟨S, h, rfl⟩
  · refine Act.wpc_bind_refuseIf (u.rest h) (fun _ => u.refused h) fun hmatch => ?_
    refine Act.wpc_bind_ofExcept (u.rest h) (fun e _ => u.refused h) fun metadata hmeta => ?_
    refine Act.wpc_bind (Q := RestsWith I R fun S' current => S' = current)
      (u.commitRecord_rests h (.confirm (by simpa using hmatch) hmeta) rfl) ?_ fun e t _ ht => ht
    intro next t hIt ht
    obtain ⟨S', hS', rfl⟩ := ht
    exact Act.wpc_pure hIt ⟨_, hS', rfl⟩

end Transaction

end Ribon
