/-
Installs that are carried out.

A prepared install makes at most three commits and, where the slot is not verified
yet, two passes over the components.  `Clear` is what these ask for beyond the
preparation.  Where the way is clear and nothing interrupts, the install returns
with the slot pending.
-/
import Ribon.Update.Placement
import Ribon.Update.Convergence
import Ribon.Update.Integrity

namespace Ribon.Transaction

open Wire Crash Crash.TwoSlot Storage Installer

/-! ### Commits -/

section Commits

variable {journal : TransactionJournal} {S : TransactionSnapshot} {metadata : SlotMetadata}
  {target : UInt32} {w : World}

/-- The next metadata of a journal can be committed, unless its record hashes to zero. -/
theorem Settled.committable {m : Media} (h : Settled journal m S)
    (htgt : target < slotCount)
    (hvalid : metadataIsValid metadata = true)
    (hnext : metadata.metadataGeneration = S.metadata.metadataGeneration + 1)
    (hroom : S.metadata.metadataGeneration ≠ u64Max)
    (hdig : (nextRecordDigest (some S) metadata target).isZero = false) :
    Committable (some S) metadata target := by
  obtain ⟨hsame, hnamed⟩ := openImage_named h.opens
  have hpos := (metadataIsValid_iff.mp (openImage_valid h.opens)).generation
  rw [hsame] at hnext hroom hpos
  have hgen := succ_ne_zero_of_room hroom
  have hbehind : S.journalGeneration + 1 - 1 = S.journalGeneration := UInt64.add_sub_cancel _ _
  have hfirst : S.journalGeneration + 1 ≠ 1 := by
    intro hone
    rw [hone] at hbehind
    exact hpos hbehind.symm
  refine ⟨?_, ⟨htgt, hgen, hnext.symm, hvalid, ?_⟩, ⟨?_, hgen, hdig⟩⟩
  · intro snapshot hsnap
    cases hsnap
    exact hroom
  · show predecessorIsValid (S.journalGeneration + 1) S.journalGeneration S.recordDigest = true
    simp [predecessorIsValid, hfirst, hbehind, hnamed]
  · show slotNumber _ < recordSlots
    cases recordBit (some S) <;> decide

/-- **A commit of the next metadata completes**, and leaves the journal at rest with it. -/
theorem Settled.commit_completes (h : Settled journal (w.media journal.provider.device) S)
    (c : Committable (some S) metadata target) :
    Act.Completes machine (commitRecord journal (some S) metadata target none) w fun snapshot t =>
      snapshot = successor (some S) metadata target ∧
      Settled journal (t.media journal.provider.device) snapshot := by
  refine Act.wpc.completes (Act.wpc_mono (h.commitRecord_completes c) (fun _ h => h) ?_)
  rintro r t ⟨rfl, hmoved⟩
  refine ⟨_, rfl, rfl, ?_⟩
  rw [hmoved.media]
  exact h.afterCommit c

end Commits

/-! ### The commits of an install -/

/-- The metadata that an install commits next. -/
def nextMetadata (request : TransactionalInstallRequest) (S : TransactionSnapshot) :
    Except TransactionStatus SlotMetadata :=
  let entry := S.metadata.slot request.install.targetSlot
  match entry.state with
  | .empty | .bad | .confirmed =>
      (mapStatus prepareStatus (installPrepare (installAgainst request S))).map
        (·.stagingMetadata)
  | .staging =>
      mapStatus (fun _ => .install) (metadataTransition S.metadata
        (transitionTo .verified request.install.targetSlot entry.imageGeneration
          entry.manifestDigest entry.imageSetDigest entry.layoutDigest))
  | .verified => transitionPending S request.install.targetSlot request.pendingAttempts
  | .pending => .error .state

/-- How many commits there are between a state and the pending state. -/
def commitsLeft : SlotState → Nat
  | .empty | .bad | .confirmed => 3
  | .staging => 2
  | .verified => 1
  | .pending => 0

/-- The commits that an install goes on to make: where each starts and what it writes. -/
def commitsAhead (request : TransactionalInstallRequest) :
    Nat → TransactionSnapshot → List (TransactionSnapshot × SlotMetadata)
  | 0, _ => []
  | n + 1, S =>
      match nextMetadata request S with
      | .error _ => []
      | .ok metadata => (S, metadata) ::
          commitsAhead request n (successor (some S) metadata request.install.targetSlot)

theorem commitsAhead_succ {request : TransactionalInstallRequest} {S : TransactionSnapshot}
    {metadata : SlotMetadata} (h : nextMetadata request S = .ok metadata) (n : Nat) :
    commitsAhead request (n + 1) S = (S, metadata) ::
      commitsAhead request n (successor (some S) metadata request.install.targetSlot) := by
  rw [commitsAhead, h]

section Stages

variable {request : TransactionalInstallRequest} {S : TransactionSnapshot} {w : World} {n : Nat}

/-- Every record that the next commits write has a name. -/
def RecordsNamed (request : TransactionalInstallRequest) (n : Nat) (S : TransactionSnapshot) : Prop :=
  ∀ commit ∈ commitsAhead request n S,
    (nextRecordDigest (some commit.1) commit.2 request.install.targetSlot).isZero = false

variable {metadata : SlotMetadata} (h : RecordsNamed request (n + 1) S)
  (hnext : nextMetadata request S = .ok metadata)
include h hnext

theorem RecordsNamed.first :
    (nextRecordDigest (some S) metadata request.install.targetSlot).isZero = false :=
  h (S, metadata) (by rw [commitsAhead_succ hnext]; exact List.mem_cons_self)

theorem RecordsNamed.rest :
    RecordsNamed request n (successor (some S) metadata request.install.targetSlot) :=
  fun commit hcommit => h commit (by
    rw [commitsAhead_succ hnext]
    exact List.mem_cons_of_mem _ hcommit)

omit h hnext

/-- **One commit of an install completes**: the journal is at rest with its metadata, one
generation on. -/
theorem Settled.installCommit_completes {metadata : SlotMetadata} {transition : SlotTransition}
    (h : Settled request.journal (w.media request.journal.provider.device) S)
    (hnext : nextMetadata request S = .ok metadata)
    (htrans : Storage.Transitioned S.metadata transition metadata)
    (htgt : transition.slotId = request.install.targetSlot)
    (hrecs : RecordsNamed request (n + 1) S) :
    Act.Completes machine (commitRecord request.journal (some S) metadata
      request.install.targetSlot none) w fun snapshot t =>
        snapshot = successor (some S) metadata request.install.targetSlot ∧
        Settled request.journal (t.media request.journal.provider.device) snapshot ∧
        RecordsNamed request n snapshot := by
  have hslot := htrans.slot
  rw [htgt] at hslot
  have c := h.committable hslot htrans.validNext htrans.generation htrans.room
    (hrecs.first hnext)
  refine (h.commit_completes c).mono ?_
  rintro snapshot t ⟨rfl, hsettled⟩
  exact ⟨rfl, hsettled, hrecs.rest hnext⟩

/-- **A verified slot becomes pending.** -/
theorem commitPending_completes (hnone : request.observer = none)
    (h : Settled request.journal (w.media request.journal.provider.device) S)
    (hvalid : installRequestIsValid request = true)
    (htgt : request.install.targetSlot < slotCount)
    (hinact : S.metadata.activeSlot ≠ request.install.targetSlot)
    (hstate : (S.metadata.slot request.install.targetSlot).state = .verified)
    (hroom : S.metadata.metadataGeneration ≠ u64Max) (hrecs : RecordsNamed request (n + 1) S) :
    Act.Completes machine (commitPending request S) w fun snapshot t =>
      Settled request.journal (t.media request.journal.provider.device) snapshot ∧
      (snapshot.metadata.slot request.install.targetSlot).state = .pending := by
  have hatts : request.pendingAttempts ≠ 0 ∧ request.pendingAttempts ≤ 32 := by
    simp only [installRequestIsValid, Bool.and_eq_true, bne_iff_ne, decide_eq_true_eq] at hvalid
    exact ⟨hvalid.1.1.1.1.2, hvalid.1.1.1.2⟩
  obtain ⟨metadata, htrans⟩ : ∃ metadata, metadataTransition S.metadata
      { transitionTo .pending request.install.targetSlot
        (S.metadata.slot request.install.targetSlot).imageGeneration
        (S.metadata.slot request.install.targetSlot).manifestDigest
        (S.metadata.slot request.install.targetSlot).imageSetDigest
        (S.metadata.slot request.install.targetSlot).layoutDigest with
        bootAttempts := request.pendingAttempts } = .ok metadata := by
    refine Storage.InstallEdge.transitions ?_ (openImage_valid h.opens) htgt hinact.symm hroom
      ⟨rfl, rfl, rfl, reservedZero_none⟩ ?_
    · change Storage.InstallEdge (S.metadata.slot request.install.targetSlot).state .pending
        request.pendingAttempts
      rw [hstate]
      exact .pend hatts.1 hatts.2
    · simp [transitionIdentityMatches, transitionTo]
  have hpend : transitionPending S request.install.targetSlot request.pendingAttempts =
      .ok metadata := mapStatus_eq_ok.mpr htrans
  have hnext : nextMetadata request S = .ok metadata := by
    unfold nextMetadata
    dsimp only
    rw [hstate]
    exact hpend
  have hmoved := metadataTransition_eq_ok htrans
  refine Act.completes_bind_refuseIf (by rw [hstate]; rfl) ?_
  refine Act.completes_bind_ofExcept hpend ?_
  rw [hnone]
  refine (h.installCommit_completes hnext hmoved rfl hrecs).mono ?_
  rintro snapshot t ⟨rfl, hsettled, -⟩
  exact ⟨hsettled, hmoved.entry.1⟩

end Stages

/-! ### The install -/

/-- What a prepared install asks for beyond its preparation. -/
structure Clear (request : TransactionalInstallRequest) (S : TransactionSnapshot)
    (parts : Installer.Parts) (manifest : ManifestView) : Prop where
  /-- The journal and the install are about the same media. -/
  layout : request.install.layout = some request.journal.layout
  provider : request.install.provider = some request.journal.provider
  /-- The generations of the commits do not wrap, and their records do not hash to zero. -/
  room : S.journalGeneration.toNat +
    commitsLeft (S.metadata.slot request.install.targetSlot).state < 2 ^ 64
  records : RecordsNamed request (commitsLeft (S.metadata.slot request.install.targetSlot).state) S
  /-- Unless the payload is verified already, it can be written. -/
  payload : (S.metadata.slot request.install.targetSlot).state ∉ [SlotState.verified, .pending] →
    Installer.Fits (installAgainst request S) parts manifest ∧ Installer.Honest parts manifest

section Install

variable {request : TransactionalInstallRequest} {S : TransactionSnapshot} {w : World} {n : Nat}
  {parts : Installer.Parts} {manifest : ManifestView} {plan : InstallPlan}

theorem ne_max_of_room {g : UInt64} {k : Nat} (h : g.toNat + (k + 1) < 2 ^ 64) : g ≠ u64Max := by
  rintro rfl
  have : u64Max.toNat = 2 ^ 64 - 1 := rfl
  omega

theorem toNat_succ_of_room {g : UInt64} {k : Nat} (h : g.toNat + (k + 1) < 2 ^ 64) :
    (g + 1).toNat + k < 2 ^ 64 := by
  rw [UInt64.toNat_add]
  show (g.toNat + 1) % 2 ^ 64 + k < 2 ^ 64
  rw [Nat.mod_eq_of_lt (by omega)]
  omega

/-- What fits, fits again while the active slot keeps its entry. -/
theorem fits_again {S' : TransactionSnapshot}
    (fits : Installer.Fits (installAgainst request S) parts manifest)
    (hcur : parts.currentMetadata = S.metadata)
    (hkept : S'.metadata.slot S'.metadata.activeSlot = S.metadata.slot S.metadata.activeSlot) :
    Installer.Fits (installAgainst request S') { parts with currentMetadata := S'.metadata }
      manifest where
  active := by
    have hactive := fits.active
    rw [hcur] at hactive
    rw [hkept]
    exact hactive
  regions := fits.regions
  components := by
    intro index hindex component hcomp
    obtain ⟨backingSize, c⟩ := fits.components index hindex component hcomp
    exact ⟨backingSize, c.rounded, c.scratch, c.transfer, c.bundle, c.read, c.write, c.erase⟩

variable (prepared : Installer.Prepared (installAgainst request S) parts manifest plan)
include prepared

/-- A request that was prepared once is prepared again with the metadata of a later snapshot. -/
theorem prepared_again {S' : TransactionSnapshot}
    (hactive : S'.metadata.activeSlot ≠ request.install.targetSlot)
    (hstate : (S'.metadata.slot request.install.targetSlot).state ∈
      [SlotState.staging, .verified, .pending])
    (hnamed : Named request manifest (S'.metadata.slot request.install.targetSlot)) :
    ∃ plan', installPrepare (installAgainst request S') = .ok plan' ∧
      Installer.Prepared (installAgainst request S')
        { parts with currentMetadata := S'.metadata } manifest plan' := by
  obtain ⟨plan', hplan, -⟩ := installPrepare_again prepared hactive hstate hnamed
  obtain ⟨parts', manifest', prepared'⟩ := installPrepare_eq_ok hplan
  obtain rfl : { parts with currentMetadata := S'.metadata } = parts' :=
    Except.ok.inj ((openRequest_again prepared.parts_eq).symm.trans prepared'.parts_eq)
  obtain ⟨decision, hauth⟩ := prepared.authorized
  obtain ⟨decision', hauth'⟩ := prepared'.authorized
  obtain rfl : manifest = manifest' :=
    congrArg Prod.fst (Except.ok.inj (hauth.symm.trans hauth'))
  exact ⟨plan', hplan, prepared'⟩

/-- A slot that was staged for a request can be installed for it; the active slot is as before. -/
theorem staged_again {staged : TransactionSnapshot}
    (hstaged : staged = successor (some S) plan.stagingMetadata request.install.targetSlot)
    (htrans : Storage.Transitioned S.metadata (transitionTo .staging
      request.install.targetSlot manifest.bundleGeneration plan.manifestDigest plan.imageSetDigest
      parts.layout.identityDigest) plan.stagingMetadata) :
    (staged.metadata.slot request.install.targetSlot).state = .staging ∧
    staged.metadata.slot staged.metadata.activeSlot = S.metadata.slot S.metadata.activeSlot ∧
    ∃ plan', installPrepare (installAgainst request staged) = .ok plan' ∧
      Installer.Prepared (installAgainst request staged)
        { parts with currentMetadata := staged.metadata } manifest plan' := by
  have hentry : staged.metadata.slot request.install.targetSlot =
      plan.stagingMetadata.slot request.install.targetSlot := by rw [hstaged]; rfl
  have hstag : (staged.metadata.slot request.install.targetSlot).state = .staging := by
    rw [hentry]
    exact htrans.entry.1
  have hactive : staged.metadata.activeSlot = S.metadata.activeSlot := by
    rw [hstaged]
    exact htrans.activeSlot.trans (if_neg nofun)
  have hkept : staged.metadata.slot S.metadata.activeSlot = S.metadata.slot S.metadata.activeSlot := by
    rw [hstaged]
    exact htrans.slot_other (activeSlot_valid htrans.valid).1
      (Ne.symm htrans.inactive)
  have hinact : S.metadata.activeSlot ≠ request.install.targetSlot :=
    Ne.symm htrans.inactive
  exact ⟨hstag, by rw [hactive, hkept], prepared_again prepared (by rw [hactive]; exact hinact)
    (by rw [hstag]; simp) (by rw [hentry]; exact named_of_transition prepared htrans)⟩

variable (hnone : request.observer = none)
  (h : Settled request.journal (w.media request.journal.provider.device) S)
  (hplan : installPrepare (installAgainst request S) = .ok plan)
include hnone h hplan

/-- **The payload of a staged slot is installed and verified.** -/
theorem installPayload_completes
    (hlay : request.install.layout = some request.journal.layout)
    (hprov : request.install.provider = some request.journal.provider)
    (fits : Installer.Fits (installAgainst request S) parts manifest)
    (honest : Installer.Honest parts manifest)
    (hstag : (S.metadata.slot request.install.targetSlot).state = .staging)
    (hroom : S.metadata.metadataGeneration ≠ u64Max) (hrecs : RecordsNamed request (n + 1) S) :
    Act.Completes machine (installPayload request S) w fun out t =>
      Settled request.journal (t.media request.journal.provider.device) out.2.2 ∧
      RecordsNamed request n out.2.2 ∧
      (out.2.2.metadata.slot request.install.targetSlot).state = .verified ∧
      out.2.2.metadata.activeSlot = S.metadata.activeSlot ∧
      out.2.2.metadata.metadataGeneration = S.metadata.metadataGeneration + 1 := by
  have hcur := (installAgainst_parts prepared.parts_eq).1
  obtain ⟨hsame, hsame'⟩ := parts_of_journal prepared.parts_eq hprov hlay
  obtain ⟨decision, hauth⟩ := prepared.authorized
  have hbundle := fits.installSignedBundle_completes honest hplan prepared
    (manifestOpen_of_authorized hauth) (by rw [hcur]; exact hstag)
    (by rw [hcur]; exact openImage_valid h.opens) (by rw [hcur]; exact hroom) hnone w
  have hinst := (hbundle.and_wpc
    (installSignedBundle_wpc prepared.parts_eq w)).mapError bundleStatus
  unfold installPayload
  rw [if_pos (by rw [hstag]; rfl)]
  refine Act.Completes.bind hinst ?_
  rintro result t ⟨-, hwritten, hres⟩
  obtain ⟨plan', manifest', installed⟩ := hres result rfl
  obtain ⟨prepared', htrans⟩ := installed_resumed hstag prepared.parts_eq installed
  have ht : Settled request.journal (t.media request.journal.provider.device) S := by
    rw [hsame, hsame'] at hwritten
    exact h.within hwritten.within
  have hnext : nextMetadata request S = .ok result.verifiedMetadata := by
    have hresume : plan'.resumeState = .staging := (prepared_state prepared').trans hstag
    obtain ⟨hstays, hmatches⟩ := prepared'.resumed (by rw [hresume]; simp)
    rw [hcur] at hstays hmatches
    simp only [entryMatchesPlan, Bool.and_eq_true, beq_iff_eq, Digest.equal_iff] at hmatches
    obtain ⟨⟨⟨himage, hman⟩, hset⟩, hdig⟩ := hmatches
    have htrans := installed.transition
    rw [hstays, ← himage, ← hman, ← hset, ← hdig] at htrans
    unfold nextMetadata
    dsimp only
    rw [hstag]
    exact mapStatus_eq_ok.mpr htrans
  rw [hnone]
  refine Act.Completes.bind (ht.installCommit_completes hnext htrans rfl hrecs) ?_
  rintro snapshot u ⟨rfl, hsettled, hrest⟩
  refine Act.completes_pure ⟨hsettled, hrest, htrans.entry.1, ?_, htrans.generation⟩
  exact htrans.activeSlot.trans (if_neg fun h => by cases h)

/-- **An unstaged slot is staged.** -/
theorem commitStaging_completes
    (hfresh : (S.metadata.slot request.install.targetSlot).state ∈
      [SlotState.empty, .bad, .confirmed])
    (hrecs : RecordsNamed request (n + 1) S) :
    Act.Completes machine (commitStaging request S plan) w fun snapshot t =>
      snapshot = successor (some S) plan.stagingMetadata request.install.targetSlot ∧
      Settled request.journal (t.media request.journal.provider.device) snapshot ∧
      RecordsNamed request n snapshot ∧
      Storage.Transitioned S.metadata (transitionTo .staging request.install.targetSlot
        manifest.bundleGeneration plan.manifestDigest plan.imageSetDigest
        parts.layout.identityDigest) plan.stagingMetadata := by
  have hresume := prepared_state prepared
  have htrans := prepared_stages prepared (by rw [hresume]; exact hfresh)
  have hnext : nextMetadata request S = .ok plan.stagingMetadata := by
    unfold nextMetadata
    dsimp only
    rw [hplan]
    simp only [List.mem_cons, List.not_mem_nil, or_false] at hfresh
    rcases hfresh with hstate | hstate | hstate <;> (rw [hstate]; rfl)
  have hcommits : (plan.resumeState != .staging && plan.resumeState != .verified) = true := by
    rw [hresume]
    simp only [List.mem_cons, List.not_mem_nil, or_false] at hfresh
    rcases hfresh with hstate | hstate | hstate <;> (rw [hstate]; rfl)
  unfold commitStaging
  rw [if_pos hcommits, hnone]
  refine (h.installCommit_completes hnext htrans rfl hrecs).mono ?_
  rintro snapshot t ⟨rfl, hsettled, hrest⟩
  exact ⟨rfl, hsettled, hrest, htrans⟩

/-- **A slot that is staged or verified becomes pending.** -/
theorem finish_completes {A : Type} (f : UInt64 × UInt64 × TransactionSnapshot → TransactionSnapshot → A)
    (hvalid : installRequestIsValid request = true)
    (hlay : request.install.layout = some request.journal.layout)
    (hprov : request.install.provider = some request.journal.provider)
    (hstate : (S.metadata.slot request.install.targetSlot).state ∈ [SlotState.staging, .verified])
    (hroom : S.metadata.metadataGeneration.toNat +
      commitsLeft (S.metadata.slot request.install.targetSlot).state < 2 ^ 64)
    (hrecs : RecordsNamed request
      (commitsLeft (S.metadata.slot request.install.targetSlot).state) S)
    (hpay : (S.metadata.slot request.install.targetSlot).state = .staging →
      Installer.Fits (installAgainst request S) parts manifest ∧ Installer.Honest parts manifest) :
    Act.Completes machine (installPayload request S >>= fun out =>
      commitPending request out.2.2 >>= fun next => pure (f out next)) w fun r t =>
        ∃ out next, r = f out next ∧
          Settled request.journal (t.media request.journal.provider.device) next ∧
          (next.metadata.slot request.install.targetSlot).state = .pending := by
  obtain ⟨-, -, -, htgt⟩ := installAgainst_parts prepared.parts_eq
  have hinact := prepared_inactive prepared
  simp only [List.mem_cons, List.not_mem_nil, or_false] at hstate
  rcases hstate with hstag | hverified
  · rw [hstag] at hroom hrecs
    obtain ⟨fits, honest⟩ := hpay hstag
    refine Act.Completes.bind (installPayload_completes prepared hnone h hplan hlay hprov fits
      honest hstag (ne_max_of_room hroom) hrecs) ?_
    rintro out t ⟨hsettled, hrest, hstate, hactive, hgen⟩
    refine Act.Completes.bind (commitPending_completes hnone hsettled hvalid htgt
      (by rw [hactive]; exact hinact) hstate ?_ hrest) ?_
    · rw [hgen]
      exact ne_max_of_room (toNat_succ_of_room hroom)
    · rintro next u ⟨hsettled, hpend⟩
      exact Act.completes_pure ⟨out, next, rfl, hsettled, hpend⟩
  · rw [hverified] at hroom hrecs
    unfold installPayload
    rw [if_neg (by rw [hverified]; decide)]
    change Act.Completes machine
      (commitPending request S >>= fun next => pure (f (0, 0, S) next)) w _
    refine Act.Completes.bind (commitPending_completes hnone h hvalid htgt hinact hverified
      (ne_max_of_room hroom) hrecs) ?_
    rintro next u ⟨hsettled, hpend⟩
    exact Act.completes_pure ⟨(0, 0, S), next, rfl, hsettled, hpend⟩

/-- **An install whose way is clear is carried out.** -/
theorem Clear.installTransactionally_completes (clear : Clear request S parts manifest)
    (hvalid : installRequestIsValid request = true) :
    Act.Completes machine (installTransactionally request) w fun result t =>
      Settled request.journal (t.media request.journal.provider.device) result.snapshot ∧
      (result.snapshot.metadata.slot request.install.targetSlot).state = .pending := by
  have hresume := prepared_state prepared
  have hgen := (openImage_named h.opens).1
  obtain ⟨l, hopen, -⟩ := h.ran_open
  refine Act.completes_bind_refuseIf (by rw [hvalid]; rfl) ?_
  refine Act.Ran.completes_bind hopen ?_
  refine Act.completes_bind_ofExcept (mapStatus_eq_ok.mpr hplan) ?_
  by_cases hpend : (S.metadata.slot request.install.targetSlot).state = .pending
  · rw [if_pos (by rw [hresume, hpend]; rfl)]
    exact Act.completes_pure ⟨h, hpend⟩
  rw [if_neg (by rw [hresume]; simpa using hpend)]
  by_cases hfresh : (S.metadata.slot request.install.targetSlot).state ∈
      [SlotState.empty, .bad, .confirmed]
  · have hleft : commitsLeft (S.metadata.slot request.install.targetSlot).state = 3 := by
      simp only [List.mem_cons, List.not_mem_nil, or_false] at hfresh
      rcases hfresh with hstate | hstate | hstate <;> (rw [hstate]; rfl)
    have hroom := clear.room
    have hrecs := clear.records
    rw [hleft] at hroom hrecs
    rw [← hgen] at hroom
    obtain ⟨fits, honest⟩ := clear.payload (by
      intro hlate
      simp only [List.mem_cons, List.not_mem_nil, or_false] at hfresh hlate
      rcases hlate with hlate | hlate <;> simp [hlate] at hfresh)
    refine Act.Completes.bind (commitStaging_completes prepared hnone h hplan hfresh hrecs) ?_
    rintro staged t ⟨hstaged, hsettled, hrest, htrans⟩
    obtain ⟨hstag, hkept, plan', hplan', prepared'⟩ := staged_again prepared hstaged htrans
    refine (finish_completes prepared' hnone hsettled hplan' _ hvalid clear.layout clear.provider
      (by rw [hstag]; simp) ?_ (by rw [hstag]; exact hrest) fun _ => ⟨?_, honest⟩).mono ?_
    · rw [hstag, show staged.metadata.metadataGeneration = S.metadata.metadataGeneration + 1 by
        rw [hstaged]; exact htrans.generation]
      exact toNat_succ_of_room hroom
    · exact fits_again fits (installAgainst_parts prepared.parts_eq).1 hkept
    · rintro result u ⟨out, next, rfl, hsettled, hpend⟩
      exact ⟨hsettled, hpend⟩
  · have hlate : (S.metadata.slot request.install.targetSlot).state ∈
        [SlotState.staging, .verified] := by
      cases hstate : (S.metadata.slot request.install.targetSlot).state <;>
        simp [hstate] at hfresh hpend ⊢
    have hstays : commitStaging request S plan = pure S := by
      unfold commitStaging
      rw [if_neg]
      simp only [List.mem_cons, List.not_mem_nil, or_false] at hlate
      rcases hlate with hstate | hstate <;> (rw [hresume, hstate]; decide)
    have hroom := clear.room
    rw [← hgen] at hroom
    rw [hstays]
    refine (finish_completes prepared hnone h hplan _ hvalid clear.layout clear.provider hlate hroom
      clear.records fun hstag => clear.payload (by rw [hstag]; decide)).mono ?_
    rintro result u ⟨out, next, rfl, hsettled, hpend⟩
    exact ⟨hsettled, hpend⟩

end Install

end Ribon.Transaction
