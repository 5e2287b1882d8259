/-
Which prepared installs go through.

The preparation of an install is not enough for it to go through.  What it leaves
out is said exactly here: with the same layout and provider for the journal and
the install, an honest bundle, and nothing that interrupts, an install goes
through if and only if it fits.
-/
import Ribon.Update.Observed

namespace Ribon

open Wire Crash Storage Installer

/-! ### What the passes have checked -/

namespace Storage

theorem resolveRange_aligned {session : StorageSession} {handle : SlotHandle}
    {slotOffset size alignment mediaOffset : UInt64}
    (h : resolveRange session handle slotOffset size alignment = .ok mediaOffset) :
    aligned slotOffset alignment = true ∧ aligned size alignment = true := by
  unfold resolveRange at h
  simp only [bind_eq_ok, refuse_eq_ok, exists_const, Bool.or_eq_false_iff, Bool.not_eq_false'] at h
  exact h.2.1

end Storage

namespace Installer

section Passes

variable {request : InstallRequest} {parts : Parts} {manifest : ManifestView}
  {session : StorageSession} {handle : SlotHandle} {s t : World} {l : List Cmd}

theorem componentRange_fits {index : Nat} {component : ComponentView} {backingSize : UInt64}
    (h : componentRange request parts manifest index = .ok (component, backingSize)) :
    backingSize ≤ request.scratchSize ∧ backingSize ≤ parts.provider.maximumTransferBytes := by
  obtain ⟨hcomp, halign⟩ := componentRange_eq_ok h
  unfold componentRange at h
  rw [hcomp] at h
  dsimp only at h
  rw [halign] at h
  simp only [bind_eq_ok, refuse_eq_ok, exists_const, Bool.or_eq_false_iff, decide_eq_false_iff_not,
    UInt64.not_lt] at h
  exact h.1

/-- What the first pass checks of a component. -/
def Writable (request : InstallRequest) (parts : Parts) (manifest : ManifestView) (index : Nat) :
    Prop :=
  ∃ component backingSize,
    componentRange request parts manifest index = .ok (component, backingSize) ∧
    component.bundleOffset.toNat + component.exactSize.toNat ≤ parts.bundle.byteSize.toNat ∧
    aligned component.bundleOffset parts.provider.writeAlignment = true ∧
    aligned component.bundleOffset parts.provider.eraseAlignment = true ∧
    aligned backingSize parts.provider.eraseAlignment = true

/-- What the second pass checks of it. -/
def Readable (request : InstallRequest) (parts : Parts) (manifest : ManifestView) (index : Nat) :
    Prop :=
  ∃ component backingSize,
    componentRange request parts manifest index = .ok (component, backingSize) ∧
    aligned component.bundleOffset parts.provider.readAlignment = true ∧
    aligned backingSize parts.provider.readAlignment = true

variable (hprovider : session.provider = parts.provider)
include hprovider

theorem writeComponent_ran {index : Nat} {exactTotal backingTotal : UInt64} {totals : UInt64 × UInt64}
    (h : Act.Ran machine (writeComponent request parts manifest session handle index exactTotal
      backingTotal) s l totals t) : Writable request parts manifest index := by
  obtain ⟨_, _, range, _, hrange, h, -⟩ := Act.ran_bind.mp h
  obtain ⟨-, hrange, -⟩ := Act.ran_ofExcept.mp hrange
  obtain ⟨component, backingSize⟩ := range
  obtain ⟨_, _, _, _, hrefuse, h, -⟩ := Act.ran_bind.mp h
  obtain ⟨-, hbundle, -⟩ := Act.ran_refuseIf.mp hrefuse
  obtain ⟨_, _, _, _, -, h, -⟩ := Act.ran_bind.mp h
  obtain ⟨_, _, content, _, -, h, -⟩ := Act.ran_bind.mp h
  obtain ⟨_, _, _, _, -, h, -⟩ := Act.ran_bind.mp h
  obtain ⟨_, _, _, _, -, h, -⟩ := Act.ran_bind.mp h
  obtain ⟨_, _, _, _, -, h, -⟩ := Act.ran_bind.mp h
  obtain ⟨_, _, _, _, herase, h, -⟩ := Act.ran_bind.mp h
  obtain ⟨_, _, _, _, -, h, -⟩ := Act.ran_bind.mp h
  obtain ⟨_, _, _, _, -, h, -⟩ := Act.ran_bind.mp h
  obtain ⟨_, _, _, _, hwrite, -, -⟩ := Act.ran_bind.mp h
  obtain ⟨_, _, _, _, herase, -, -⟩ := Act.ran_bind.mp (Act.ran_mapError.mp herase)
  obtain ⟨_, _, _, _, hwrite, -, -⟩ := Act.ran_bind.mp (Act.ran_mapError.mp hwrite)
  obtain ⟨-, herase, -⟩ := Act.ran_ofExcept.mp herase
  obtain ⟨-, hwrite, -⟩ := Act.ran_ofExcept.mp hwrite
  have heraseAligned := resolveRange_aligned herase
  have hwriteAligned := resolveRange_aligned hwrite
  rw [hprovider] at heraseAligned hwriteAligned
  simp only [Bool.or_eq_false_iff, decide_eq_false_iff_not, UInt64.not_lt] at hbundle
  obtain ⟨⟨⟨hstart, hrest⟩, -⟩, -⟩ := hbundle
  have hstart := UInt64.le_iff_toNat_le.mp hstart
  rw [UInt64.le_iff_toNat_le, toNat_sub_of_le] at hrest
  exact ⟨component, backingSize, hrange, by omega, hwriteAligned.1, heraseAligned.1, heraseAligned.2⟩

theorem checkComponent_ran {index : Nat} {u : Unit}
    (h : Act.Ran machine (checkComponent request parts manifest session handle index) s l u t) :
    Readable request parts manifest index := by
  obtain ⟨_, _, range, _, hrange, h, -⟩ := Act.ran_bind.mp h
  obtain ⟨-, hrange, -⟩ := Act.ran_ofExcept.mp hrange
  obtain ⟨component, backingSize⟩ := range
  obtain ⟨_, _, _, _, -, h, -⟩ := Act.ran_bind.mp h
  obtain ⟨_, _, _, _, hread, -, -⟩ := Act.ran_bind.mp h
  obtain ⟨_, _, _, _, hread, -, -⟩ := Act.ran_bind.mp (Act.ran_mapError.mp hread)
  obtain ⟨-, hread, -⟩ := Act.ran_ofExcept.mp hread
  have haligned := resolveRange_aligned hread
  rw [hprovider] at haligned
  exact ⟨component, backingSize, hrange, haligned⟩

theorem writeComponents_ran {indices : List Nat} {exactTotal backingTotal : UInt64}
    {totals : UInt64 × UInt64}
    (h : Act.Ran machine (writeComponents request parts manifest session handle indices exactTotal
      backingTotal) s l totals t) : ∀ index ∈ indices, Writable request parts manifest index := by
  induction indices generalizing s l exactTotal backingTotal with
  | nil => simp
  | cons index rest ih =>
      obtain ⟨_, _, next, _, hfirst, hothers, -⟩ := Act.ran_bind.mp h
      exact List.forall_mem_cons.mpr ⟨writeComponent_ran hprovider hfirst, ih hothers⟩

theorem checkComponents_ran {indices : List Nat} {u : Unit}
    (h : Act.Ran machine (checkComponents request parts manifest session handle indices) s l u t) :
    ∀ index ∈ indices, Readable request parts manifest index := by
  induction indices generalizing s l with
  | nil => simp
  | cons index rest ih =>
      obtain ⟨_, _, _, _, hfirst, hothers, -⟩ := Act.ran_bind.mp h
      exact List.forall_mem_cons.mpr ⟨checkComponent_ran hprovider hfirst, ih hothers⟩

omit hprovider

/-- A valid session has slots that fit its provider and an active slot of its layout. -/
theorem session_fits (h : sessionIsValid session = true) :
    (∀ slotId, RegionFits session.provider (slotRegion session.layout slotId)) ∧
      (session.metadata.slot session.metadata.activeSlot).layoutDigest =
        session.layout.identityDigest := by
  simp only [sessionIsValid, Bool.and_eq_true] at h
  obtain ⟨⟨-, hmeta⟩, hlayout⟩ := h
  have hactive := (metadataIsValid_iff.mp hmeta).activeSlot
  have hconf := (metadataIsValid_iff.mp hmeta).confirmed
  split at hlayout
  · cases hlayout
  simp only [Bool.and_eq_true, Digest.equal_iff] at hlayout
  obtain ⟨⟨⟨-, hdig⟩, hslotA⟩, hslotB⟩ := hlayout
  rw [hdig] at hslotA hslotB
  have hslot := forall_slot
    (P := fun slotId => sessionSlotIsValid session session.layout.identityDigest slotId = true)
    |>.mpr ⟨hslotA, hslotB⟩
  simp only [sessionSlotIsValid, Bool.and_eq_true, Bool.or_eq_true, beq_iff_eq,
    Digest.equal_iff] at hslot
  have hfits : ∀ slotId < slotCount,
      RegionFits session.provider (slotRegion session.layout slotId) := by
    intro slotId hlt
    obtain ⟨⟨⟨⟨⟨⟨-, hread⟩, hread'⟩, hwrite⟩, hwrite'⟩, herase⟩, herase'⟩ := hslot slotId hlt
    exact ⟨⟨hread, hread'⟩, ⟨hwrite, hwrite'⟩, ⟨herase, herase'⟩⟩
  refine ⟨fun slotId => ?_, ?_⟩
  · by_cases hzero : slotId = 0
    · rw [hzero]
      exact hfits 0 (by decide)
    · rw [show slotRegion session.layout slotId = slotRegion session.layout 1 from if_neg hzero]
      exact hfits 1 (by decide)
  · rcases (hslot _ hactive).1.1.1.1.1.1 with hempty | hsame
    · rw [hconf] at hempty
      cases hempty
    · exact hsame

/-- **A bundle whose install returned fits.** -/
theorem installSignedBundle_ran {plan : InstallPlan} {result : InstallResult}
    (hplan : installPrepare request = .ok plan) (prepared : Prepared request parts manifest plan)
    (hstag : (parts.currentMetadata.slot request.targetSlot).state = .staging)
    (h : Act.Ran machine (installSignedBundle request) s l result t) :
    Fits request parts manifest := by
  have hresume : plan.resumeState = .staging := prepared.resumeState.trans hstag
  obtain ⟨hsame, -⟩ := prepared.resumed (by rw [hresume]; simp)
  obtain ⟨decision, hauth⟩ := prepared.authorized
  obtain ⟨_, _, plan', _, hplan', h, -⟩ := Act.ran_bind.mp h
  obtain ⟨-, hplan', -⟩ := Act.ran_ofExcept.mp hplan'
  obtain rfl : plan = plan' := Except.ok.inj (hplan.symm.trans hplan')
  obtain ⟨_, _, _, _, -, h, -⟩ := Act.ran_bind.mp h
  obtain ⟨_, _, parts', _, hparts, h, -⟩ := Act.ran_bind.mp h
  obtain ⟨-, hparts, -⟩ := Act.ran_ofExcept.mp hparts
  obtain rfl : parts = parts' := Except.ok.inj (prepared.parts_eq.symm.trans hparts)
  obtain ⟨_, _, authorized, _, hmanifest, h, -⟩ := Act.ran_bind.mp h
  obtain ⟨-, hmanifest, -⟩ := Act.ran_ofExcept.mp hmanifest
  obtain rfl : (manifest, decision) = authorized :=
    Except.ok.inj (hauth.symm.trans (mapStatus_eq_ok.mp hmanifest))
  obtain ⟨_, _, handle, _, hopened, h, -⟩ := Act.ran_bind.mp h
  obtain ⟨-, hopened, -⟩ := Act.ran_ofExcept.mp hopened
  obtain ⟨_, _, _, _, hwritten, h, -⟩ := Act.ran_bind.mp h
  obtain ⟨_, _, _, _, -, h, -⟩ := Act.ran_bind.mp h
  obtain ⟨_, _, _, _, -, h, -⟩ := Act.ran_bind.mp h
  obtain ⟨_, _, _, _, -, h, -⟩ := Act.ran_bind.mp h
  obtain ⟨_, _, _, _, hchecked, -, -⟩ := Act.ran_bind.mp h
  have hsess : sessionIsValid (sessionFor parts plan.stagingMetadata) = true := by
    have hrefused := mapStatus_eq_ok.mp hopened
    simp only [openInactiveSlot, bind_eq_ok, refuse_eq_ok, exists_const,
      Bool.or_eq_false_iff, Bool.not_eq_false'] at hrefused
    exact hrefused.1.1
  obtain ⟨hregs, hactive⟩ := session_fits hsess
  refine ⟨?_, hregs, ?_⟩
  · rw [← hsame]
    exact hactive
  · intro index hindex component hcomp
    have hmem := List.mem_range.mpr hindex
    obtain ⟨first, backingSize, hrange, hbundle, hwrite, herase⟩ :=
      writeComponents_ran rfl hwritten index hmem
    obtain ⟨second, backingSize', hrange', hread⟩ := checkComponents_ran rfl hchecked index hmem
    obtain ⟨hfirst, hrounded⟩ := componentRange_eq_ok hrange
    obtain ⟨hscr, htransfer⟩ := componentRange_fits hrange
    obtain ⟨rfl, rfl⟩ : first = second ∧ backingSize = backingSize' :=
      Prod.ext_iff.mp (Except.ok.inj (hrange.symm.trans hrange'))
    obtain rfl : first = component := Except.ok.inj (hfirst.symm.trans hcomp)
    exact ⟨backingSize, hrounded, hscr, htransfer, hbundle, hread, hwrite, herase⟩

end Passes

end Installer

namespace Transaction

/-! ### Unobserved installs -/

section Unobserved

variable {request : TransactionalInstallRequest} {S : TransactionSnapshot} {w : World}
  {parts : Installer.Parts} {manifest : ManifestView} {plan : InstallPlan}
  (hplan : installPrepare (installAgainst request S) = .ok plan)
  (prepared : Installer.Prepared (installAgainst request S) parts manifest plan)
include hplan prepared

/-- **A slot that is staged fits the install that went through.** -/
theorem fits_of_installPayload {out : UInt64 × UInt64 × TransactionSnapshot} {l : List Cmd}
    {t : World} (hstag : (S.metadata.slot request.install.targetSlot).state = .staging)
    (h : Act.Ran machine (installPayload request S) w l out t) :
    Installer.Fits (installAgainst request S) parts manifest := by
  obtain ⟨hcur, -, -, -⟩ := installAgainst_parts prepared.parts_eq
  unfold installPayload at h
  rw [if_pos (by rw [hstag]; rfl)] at h
  obtain ⟨_, _, _, _, hbundle, -, -⟩ := Act.ran_bind.mp h
  exact installSignedBundle_ran hplan prepared (by rw [hcur]; exact hstag)
    (Act.ran_mapError.mp hbundle)

/-- **An unobserved install that goes through fits**, unless the payload was there already. -/
theorem fits_of_ran (hnone : request.observer = none)
    (hsettled : Settled request.journal (w.media request.journal.provider.device) S)
    (hrecords : RecordsNamed request
      (commitsLeft (S.metadata.slot request.install.targetSlot).state) S)
    (hstate : (S.metadata.slot request.install.targetSlot).state ∉ [SlotState.verified, .pending])
    {result : TransactionalInstallResult} {l : List Cmd} {t : World}
    (h : Act.Ran machine (installTransactionally request) w l result t) :
    Installer.Fits (installAgainst request S) parts manifest := by
  obtain ⟨hcur, -, -, -⟩ := installAgainst_parts prepared.parts_eq
  have hresume := prepared_state prepared
  simp only [List.mem_cons, List.not_mem_nil, or_false, not_or] at hstate
  obtain ⟨hverified, hpend⟩ := hstate
  obtain ⟨l', hopen, -⟩ := hsettled.ran_open
  obtain ⟨_, _, _, w₁, hrefuse, h₁, -⟩ := Act.ran_bind.mp h
  obtain ⟨-, -, rfl⟩ := Act.ran_refuseIf.mp hrefuse
  obtain ⟨_, _, S', w₂, hopened, h₂, -⟩ := Act.ran_bind.mp h₁
  obtain ⟨rfl, rfl⟩ : S = S' ∧ w₁ = w₂ := by simpa using hopen.1.symm.trans hopened.1
  obtain ⟨_, _, plan', w₃, hran, h₃, -⟩ := Act.ran_bind.mp h₂
  obtain ⟨-, hprepare, rfl⟩ := Act.ran_ofExcept.mp hran
  obtain rfl : plan = plan' := Except.ok.inj (hplan.symm.trans (mapStatus_eq_ok.mp hprepare))
  rw [if_neg (by rw [hresume]; simpa using hpend)] at h₃
  obtain ⟨_, _, staged, w₄, hcommit, h₄, -⟩ := Act.ran_bind.mp h₃
  obtain ⟨_, _, out, w₅, hpay, -, -⟩ := Act.ran_bind.mp h₄
  by_cases hstag : (S.metadata.slot request.install.targetSlot).state = .staging
  · -- nothing is committed before the payload
    unfold commitStaging at hcommit
    rw [if_neg (by rw [hresume, hstag]; decide)] at hcommit
    obtain ⟨-, rfl, rfl⟩ := Act.ran_pure.mp hcommit
    exact fits_of_installPayload hplan prepared hstag hpay
  · have hfresh : (S.metadata.slot request.install.targetSlot).state ∈
        [SlotState.empty, .bad, .confirmed] := by
      cases hs : (S.metadata.slot request.install.targetSlot).state <;> simp_all
    have hleft : commitsLeft (S.metadata.slot request.install.targetSlot).state = 3 := by
      simp only [List.mem_cons, List.not_mem_nil, or_false] at hfresh
      rcases hfresh with hs | hs | hs <;> (rw [hs]; rfl)
    rw [hleft] at hrecords
    obtain ⟨hstaged, -, -, htrans⟩ :=
      (commitStaging_completes prepared hnone hsettled hplan hfresh hrecords).of_ran hcommit
    obtain ⟨hstag', hkept, plan', hplan', prepared'⟩ :=
      staged_again prepared hstaged htrans
    have hfits := fits_again (fits_of_installPayload hplan' prepared' hstag' hpay) rfl hkept.symm
    rw [← hcur] at hfits
    exact hfits

end Unobserved

/-! ### Observed installs -/

section Observed

variable {request : TransactionalInstallRequest} {S : TransactionSnapshot} {w : World}
  {parts : Installer.Parts} {manifest : ManifestView} {decision : KeyPolicyDecision}
  {plan : InstallPlan}

theorem commitsAhead_silent (hobs : request.observer.all observerIsValid = true) (n : Nat)
    (S : TransactionSnapshot) : commitsAhead (silent request) n S = commitsAhead request n S := by
  induction n generalizing S with
  | zero => rfl
  | succ n ih =>
      have hnext : nextMetadata (silent request) S = nextMetadata request S := by
        unfold nextMetadata
        rw [installPrepare_silent hobs]
        rfl
      rw [commitsAhead, commitsAhead, hnext]
      cases nextMetadata request S with
      | error e => rfl
      | ok metadata =>
          dsimp only
          rw [show (silent request).install = request.install from rfl, ih]

theorem prepared_silent (hobs : request.observer.all observerIsValid = true)
    (prepared : Installer.Prepared (installAgainst request S) parts manifest plan) :
    Installer.Prepared (installAgainst (silent request) S) parts manifest plan :=
  { prepared with
    parts_eq := (@openRequest_unobserved (installAgainst request S) hobs).trans
      prepared.parts_eq }

theorem fits_silent : Installer.Fits (installAgainst (silent request) S) parts manifest ↔
    Installer.Fits (installAgainst request S) parts manifest := by
  constructor <;>
  · rintro ⟨hactive, hregs, hcomps⟩
    refine ⟨hactive, hregs, fun index hindex component hcomp => ?_⟩
    obtain ⟨backingSize, c⟩ := hcomps index hindex component hcomp
    exact ⟨backingSize, c.rounded, c.scratch, c.transfer, c.bundle, c.read, c.write, c.erase⟩

/-- The world with everything flushed. -/
def flushed (w : World) : World := { w with media := fun device => (w.media device).flush }

/-- A journal that opens is at rest once it is flushed. -/
theorem settled_flushed {journal : TransactionJournal}
    (h : openImage journal (journalView journal w).cached = .ok S) :
    Settled journal ((flushed w).media journal.provider.device) S := by
  constructor
  · intro o
    show ¬ ((w.media journal.provider.device).flush.view (journalOverlay journal)).dirty o
    rw [Store.view_flush]
    exact id
  · show openImage journal ((w.media journal.provider.device).flush.view
      (journalOverlay journal)).durable = .ok S
    rw [Store.view_flush]
    exact h

/-- **A prepared install goes through if and only if it fits**, or the payload is there already.
Nothing else is left to go wrong: the journal and the install are about the same media, the bundle
holds what the manifest names, the generations and the records of the commits have room and names,
and the observer, if there is one, lets every boundary pass. -/
theorem prepared_install_completes_iff
    (hvalid : installRequestIsValid request = true)
    (hopens : openImage request.journal (journalView request.journal w).cached = .ok S)
    (hplan : installPrepare (installAgainst request S) = .ok plan)
    (hparts : openRequest (installAgainst request S) = .ok parts)
    (hmanifest : Manifest.manifestAuthorize request.install.authorization = .ok (manifest, decision))
    (hlayout : request.install.layout = some request.journal.layout)
    (hprovider : request.install.provider = some request.journal.provider)
    (hroom : S.journalGeneration.toNat +
      commitsLeft (S.metadata.slot request.install.targetSlot).state < 2 ^ 64)
    (hrecords : RecordsNamed request
      (commitsLeft (S.metadata.slot request.install.targetSlot).state) S)
    (honest : Installer.Honest parts manifest)
    (hquiet : request.observer.isSome = true → (∀ k event, w.observer.answers k event = 0) ∧
      w.observer.nextSequence.toNat + installEvents ≤ u32Max.toNat) :
    (∃ result t, (installTransactionally request).exec machine w = (.ok result, t) ∧
      (result.snapshot.metadata.slot request.install.targetSlot).state = .pending) ↔
    ((S.metadata.slot request.install.targetSlot).state ∉ [SlotState.verified, .pending] →
      Installer.Fits (installAgainst request S) parts manifest) := by
  have hobs : request.observer.all observerIsValid = true := by
    simp only [installRequestIsValid, Bool.and_eq_true] at hvalid
    exact hvalid.2
  have hsettled := settled_flushed hopens
  have hplan' := (installPrepare_silent hobs S).trans hplan
  obtain ⟨parts', manifest', prepared⟩ := installPrepare_eq_ok hplan
  obtain rfl : parts = parts' := Except.ok.inj (hparts.symm.trans prepared.parts_eq)
  obtain rfl : manifest = manifest' := by
    obtain ⟨decision', hman'⟩ := prepared.authorized
    exact congrArg Prod.fst (Except.ok.inj (hmanifest.symm.trans hman'))
  have prepared' := prepared_silent hobs prepared
  have hrecs' : RecordsNamed (silent request)
      (commitsLeft (S.metadata.slot request.install.targetSlot).state) S := by
    unfold RecordsNamed
    rw [commitsAhead_silent hobs]
    exact hrecords
  -- the install ends as it does from the flushed world without the observer
  have hsame := (installTransactionally_mirrors hobs 0 w (flushed w)
    ⟨fun _ => rfl, rfl, hquiet⟩).1
  constructor
  · rintro ⟨result, t, hexec, -⟩ hstate
    rw [hexec] at hsame
    obtain ⟨u, hran⟩ : ∃ u, (installTransactionally (silent request)).exec machine (flushed w) =
        (.ok result, u) := ⟨_, Prod.ext (by exact hsame.symm) rfl⟩
    exact fits_silent.mp
      (fits_of_ran hplan' prepared' rfl hsettled hrecs' hstate (Act.ran_of_exec hran))
  · intro hfits
    have clear : Clear (silent request) S parts manifest :=
      ⟨hlayout, hprovider, hroom, hrecs', fun hstate => ⟨fits_silent.mpr (hfits hstate), honest⟩⟩
    obtain ⟨result, hres, -, hpend⟩ := (clear.installTransactionally_completes
      prepared' rfl hsettled hplan' ((installRequestIsValid_silent hobs).trans hvalid)).exec_eq
    exact ⟨result, _, Prod.ext (hsame.trans hres) rfl, hpend⟩

end Observed

/-! ### A small update

The update of one kernel, on the small device.  On media that erase in blocks of 16 bytes it goes
through; on media that erase in blocks of 32 bytes it is prepared all the same, and then fails. -/

namespace Bench

open Manifest.Bench

/-- The bundle that carries the update. -/
def bundle : BundleSource where
  size := bundleSizeOf
  abiVersion := abiVersion
  flags := 0
  reserved0 := 0
  byteSize := 16
  context := true
  read := some fun offset size => ⟨0, fun i => image.getD (offset.toNat + i) 0, size⟩
  reserved := Reserved.none

/-- The request to install the update into slot A, on media with the given provider. -/
def update (provider : StorageProvider) : TransactionalInstallRequest where
  size := installRequestSizeOf
  abiVersion := abiVersion
  flags := 0
  pendingAttempts := 3
  install := {
    size := requestSizeOf
    abiVersion := abiVersion
    flags := 0
    targetSlot := 0
    authorization := Manifest.Bench.authorization
    bundle := some bundle
    provider := some provider
    layout := some layout
    currentMetadata := none
    scratch := 4096
    scratchSize := 4096
    deadlineTicks := 1
    observer := none
    reserved := Reserved.none }
  journal := { journal layout with provider := provider }
  observer := none
  reserved := Reserved.none

/-- The snapshot of the provisioned device. -/
def delivered : TransactionSnapshot := successor none metadata metadata.activeSlot

/-- The provider of media that erase in blocks of 32 bytes. -/
def coarse : StorageProvider := { provider with eraseAlignment := 32 }

def partsOf (provider : StorageProvider) (S : TransactionSnapshot) : Installer.Parts where
  bundle := bundle
  provider := provider
  layout := layout
  currentMetadata := S.metadata

/-- The digest of the component digests. -/
def imageSet : Digest := Sha256.Words.digest ⟨0x20befed9, 0x55d03def, 0xcffc954b, 0xce6dbe4b,
    0x7214f6f5, 0x070e16b9, 0xd894cc65, 0xe1487d1e⟩

/-- The moves of slot A to a state, for the update. -/
def move (next : SlotState) (attempts : UInt32) : SlotTransition :=
  { transitionTo next 0 2 envelope.manifestDigest imageSet layout.identityDigest with
    bootAttempts := attempts }

/-- The metadata after a move. -/
def moved (current : SlotMetadata) (next : SlotState) (attempts : UInt32) : SlotMetadata :=
  { transitionTarget current (move next attempts) with
    wireDigest := sha256 (metadataWire (transitionTarget current (move next attempts)))
      metadataBodyBytes }

def staged : SlotMetadata := moved delivered.metadata .staging 0

def plan : InstallPlan where
  resumeState := .empty
  targetSlot := 0
  componentCount := 1
  manifestDigest := envelope.manifestDigest
  imageSetDigest := imageSet
  stagingMetadata := staged

theorem component_at : Manifest.componentAt Manifest.Bench.view 0 =
    .ok (Manifest.componentView Manifest.Bench.component) := by
  rw [Manifest.componentAt_eq view_opens]
  have hrows := @Manifest.rowsAre_manifestWire Manifest.Bench.input (by decide +kernel)
  exact congrArg Except.ok (hrows 0 _ rfl).1

theorem set_identity : imageSetIdentity Manifest.Bench.view = .ok imageSet := by
  have hcount : Manifest.Bench.view.componentCount = 1 := rfl
  unfold imageSetIdentity
  rw [hcount, show List.range (1 : UInt32).toNat = [0] from rfl, List.mapM_cons, List.mapM_nil,
    component_at]
  refine congrArg Except.ok ?_
  simp only [sha256_eq]
  exact congrArg Sha256.Words.digest (by decide +kernel)

theorem required_bytes : requiredSlotBytes Manifest.Bench.view layout.allocationAlignment =
    .ok 16 := by
  simp only [requiredSlotBytes, bind_eq_ok, refuse_eq_ok, mapStatus_eq_ok, demand_eq_ok,
    exists_const]
  refine ⟨rfl, _, view_opens, 16, ?_, by decide⟩
  show List.foldlM _ _ (List.range (1 : UInt32).toNat) = _
  rw [show List.range (1 : UInt32).toNat = [0] from rfl, List.foldlM_cons, component_at]
  rfl

theorem accepted : layoutAcceptsManifest layout Manifest.Bench.view = true := by
  have hdig : ∀ identity, layoutIdentityEncode layout = .ok identity →
      sha256 identity layoutIdentityBytes = layout.identityDigest := by
    intro identity hid
    obtain rfl : identity = _ := Except.ok.inj (hid.symm.trans rfl)
    simp only [sha256_eq]
    exact congrArg Sha256.Words.digest (by decide +kernel)
  unfold layoutAcceptsManifest
  rw [required_bytes]
  cases hid : layoutIdentityEncode layout with
  | error e => cases hid
  | ok identity =>
      dsimp only
      rw [hdig identity hid]
      decide +kernel

/-- The journal after the staging and after the verified commit, and what the last commit writes. -/
def stagedSnapshot : TransactionSnapshot := successor (some delivered) staged 0
def verified : SlotMetadata := moved stagedSnapshot.metadata .verified 0
def verifiedSnapshot : TransactionSnapshot := successor (some stagedSnapshot) verified 0
def pending : SlotMetadata := moved verifiedSnapshot.metadata .pending 3

theorem moves_eq : metadataTransition delivered.metadata (move .staging 0) = .ok staged ∧
    metadataTransition stagedSnapshot.metadata (move .verified 0) = .ok verified ∧
    metadataTransition verifiedSnapshot.metadata (move .pending 3) = .ok pending := by
  refine ⟨?_, ?_, ?_⟩ <;>
  · simp only [metadataTransition, bind_eq_ok, refuse_eq_ok, mapStatus_eq_ok, pure_eq_ok,
      exists_const]
    exact ⟨by decide +kernel, by decide +kernel, by decide +kernel, _,
      metadataEncode_eq_ok.mpr ⟨by decide +kernel, rfl⟩, rfl⟩

section Update

variable {provider : StorageProvider}
  (hreq : requestIsValid (installAgainst (update provider) delivered)
    (partsOf provider delivered) = true)
include hreq

theorem parts_eq : openRequest (installAgainst (update provider) delivered) =
    .ok (partsOf provider delivered) := by
  show (if requestIsValid (installAgainst (update provider) delivered)
    (partsOf provider delivered) = true then _ else _) = _
  rw [if_pos hreq]
  rfl

/-- **The update is prepared.** -/
theorem prepared : installPrepare (installAgainst (update provider) delivered) =
    .ok plan := by
  obtain ⟨decision, hauth⟩ := Manifest.Bench.authorized
  simp only [installPrepare, bind_eq_ok, refuse_eq_ok, mapStatus_eq_ok, pure_eq_ok,
    exists_const]
  refine ⟨_, parts_eq hreq, (view, decision), hauth, ?_, by rfl, imageSet, set_identity,
    staged, ?_, ?_⟩
  · show (!layoutAcceptsManifest layout view) = false
    rw [accepted]
    rfl
  · rw [manifestDigest_eq]
    exact mapStatus_eq_ok.mpr moves_eq.1
  · rw [manifestDigest_eq]
    rfl

end Update

def stagedDigest : Digest := Sha256.Words.digest ⟨0xece79f9a, 0x03c8616f, 0xcdd9cd8b, 0x2c7d029d,
    0x53394629, 0x15d2a54c, 0x0588163b, 0x1e7b346e⟩

def verifiedDigest : Digest := Sha256.Words.digest ⟨0xf7add505, 0x7735466b, 0xf5cad4ec, 0x83653a06,
    0x9a74789b, 0x95efeeb0, 0x20012ef9, 0xd645f567⟩

def pendingDigest : Digest := Sha256.Words.digest ⟨0xb00d009d, 0x5964b050, 0xd556bf55, 0x9ac54b18,
    0x9b84d4d6, 0x4f670b49, 0xbd0d3343, 0x23cb9e09⟩

/-- The digest of each record, from the digest of the one before it. -/
theorem records_eq :
    recordDigestOf staged 0 2 1 (nextRecordDigest none metadata 1) = stagedDigest ∧
      recordDigestOf verified 0 3 2 stagedDigest = verifiedDigest ∧
      recordDigestOf pending 0 4 3 verifiedDigest = pendingDigest := by
  rw [firstRecordDigest_eq]
  refine ⟨?_, ?_, ?_⟩ <;>
  · simp only [recordDigestOf, recordOf, recordBody, metadataWire, sha256_eq, crc32c_eq]
    exact congrArg Sha256.Words.digest (by decide +kernel)

theorem stagedDigest_eq : nextRecordDigest (some delivered) staged 0 = stagedDigest := records_eq.1

theorem verifiedDigest_eq : nextRecordDigest (some stagedSnapshot) verified 0 = verifiedDigest := by
  show recordDigestOf verified 0 3 2 (nextRecordDigest (some delivered) staged 0) = _
  rw [stagedDigest_eq]
  exact records_eq.2.1

theorem pendingDigest_eq : nextRecordDigest (some verifiedSnapshot) pending 0 = pendingDigest := by
  show recordDigestOf pending 0 4 3 (nextRecordDigest (some stagedSnapshot) verified 0) = _
  rw [verifiedDigest_eq]
  exact records_eq.2.2

/-- Every record of the update has a name. -/
theorem records_named {provider : StorageProvider}
    (hreq : requestIsValid (installAgainst (update provider) delivered)
      (partsOf provider delivered) = true) :
    RecordsNamed (update provider) 3 delivered := by
  have hstaged : nextMetadata (update provider) delivered = .ok staged := by
    show (mapStatus prepareStatus (installPrepare
      (installAgainst (update provider) delivered))).map (·.stagingMetadata) = _
    rw [prepared hreq]
    rfl
  have hverified : nextMetadata (update provider) stagedSnapshot = .ok verified := by
    exact mapStatus_eq_ok.mpr moves_eq.2.1
  have hpend : nextMetadata (update provider) verifiedSnapshot = .ok pending := by
    exact mapStatus_eq_ok.mpr moves_eq.2.2
  unfold RecordsNamed
  rw [commitsAhead_succ hstaged]
  rw [show successor (some delivered) staged (update provider).install.targetSlot = stagedSnapshot
    from rfl, commitsAhead_succ hverified]
  rw [show successor (some stagedSnapshot) verified (update provider).install.targetSlot =
    verifiedSnapshot from rfl, commitsAhead_succ hpend]
  intro commit hcommit
  simp only [commitsAhead, List.mem_cons, List.not_mem_nil, or_false] at hcommit
  rcases hcommit with rfl | rfl | rfl
  · show (nextRecordDigest (some delivered) staged 0).isZero = false
    rw [stagedDigest_eq]
    decide
  · show (nextRecordDigest (some stagedSnapshot) verified 0).isZero = false
    rw [verifiedDigest_eq]
    decide
  · show (nextRecordDigest (some verifiedSnapshot) pending 0).isZero = false
    rw [pendingDigest_eq]
    decide

/-- The bundle holds what the manifest names. -/
theorem honest (provider : StorageProvider) :
    Installer.Honest (partsOf provider delivered) view := by
  intro index hindex component hcomp
  obtain rfl : index = 0 := by
    have hcount : view.componentCount.toNat = 1 := rfl
    omega
  obtain rfl := Except.ok.inj (component_at.symm.trans hcomp)
  refine ⟨image, rfl, ?_⟩
  simp only [sha256_eq]
  exact congrArg Sha256.Words.digest (by decide +kernel)

/-- The update fits media that erase in blocks of 16 bytes, and does not fit coarser ones. -/
theorem fits : Installer.Fits (installAgainst (update provider) delivered)
    (partsOf provider delivered) view where
  active := rfl
  regions := by
    intro slotId
    have hreg : slotRegion layout slotId = layout.regions[4] ∨
        slotRegion layout slotId = layout.regions[6] := by
      unfold slotRegion
      split
      · exact Or.inl rfl
      · exact Or.inr rfl
    show Installer.RegionFits provider (slotRegion layout slotId)
    rcases hreg with h | h <;> rw [h] <;> exact ⟨by decide, by decide, by decide⟩
  components := by
    intro index hindex component hcomp
    obtain rfl : index = 0 := by
      have hcount : view.componentCount.toNat = 1 := rfl
      omega
    obtain rfl := Except.ok.inj (component_at.symm.trans hcomp)
    exact ⟨16, by decide, by decide, by decide, by decide, by decide, by decide, by decide⟩

theorem not_fits : ¬ Installer.Fits (installAgainst (update coarse) delivered)
    (partsOf coarse delivered) view := by
  intro hfits
  obtain ⟨backingSize, hcomp⟩ := hfits.components 0 (by decide) _ component_at
  have hrounded : alignUp 16 16 = some backingSize := hcomp.rounded
  obtain rfl : backingSize = 16 := by
    have : alignUp 16 16 = some 16 := by decide
    exact (Option.some.inj (this.symm.trans hrounded)).symm
  have herase : aligned 16 32 = true := hcomp.erase.2
  exact absurd herase (by decide)

/-- The provisioned device, with its journal on media of the given provider. -/
def device (provider : StorageProvider) : World :=
  (Act.exec machine ((JournalCall.init metadata none).act (update provider).journal) blank).2

section Delivered

variable {provider : StorageProvider} (hvalid : journalIsValid (update provider).journal = true)
include hvalid

theorem settled_device :
    Settled (update provider).journal ((device provider).media
      (update provider).journal.provider.device) delivered :=
  settled_provision hvalid (by exact UInt64.le_refl 1) (openImage_blank hvalid rfl) rfl
    first_committable

theorem device_run : JournalRun (update provider).journal true (device provider) :=
  JournalRun.provision hvalid (by exact UInt64.le_refl 1) rfl rfl rfl first_committable

theorem delivered_opens :
    openImage (update provider).journal (journalView (update provider).journal
      (device provider)).cached = .ok delivered := by
  have hsettled := settled_device hvalid
  rw [show (journalView (update provider).journal (device provider)).cached = _ from
    hsettled.cached_eq]
  exact hsettled.opens

end Delivered

theorem requests_valid :
    requestIsValid (installAgainst (update provider) delivered)
        (partsOf provider delivered) = true ∧
      requestIsValid (installAgainst (update coarse) delivered)
        (partsOf coarse delivered) = true ∧
      journalIsValid (update coarse).journal = true := by
  decide +kernel

/-- The update goes through on media that erase in blocks of 16 bytes. -/
theorem prepared_install_completes_iff_update : ∃ result t,
    (installTransactionally (update provider)).exec machine (device provider) = (.ok result, t) ∧
      (result.snapshot.metadata.slot 0).state = .pending := by
  have hreq := requests_valid.1
  obtain ⟨decision, hauth⟩ := Manifest.Bench.authorized
  exact (prepared_install_completes_iff (by decide) (delivered_opens journal_valid)
    (prepared hreq) (parts_eq hreq) hauth rfl rfl (by decide) (records_named hreq)
    (honest provider) (nofun)).mpr fun _ => fits

/-- The same update, prepared and with an honest bundle, does not go through on media that erase in
blocks of 32 bytes. -/
theorem coarse_update_fails :
    installRequestIsValid (update coarse) = true ∧
    openImage (update coarse).journal (journalView (update coarse).journal (device coarse)).cached =
      .ok delivered ∧
    installPrepare (installAgainst (update coarse) delivered) = .ok plan ∧
    openRequest (installAgainst (update coarse) delivered) =
      .ok (partsOf coarse delivered) ∧
    Installer.Honest (partsOf coarse delivered) view ∧
    ∀ result t, (installTransactionally (update coarse)).exec machine (device coarse) ≠
      (.ok result, t) := by
  obtain ⟨-, hreq, hjnl⟩ := requests_valid
  refine ⟨by decide, delivered_opens hjnl, prepared hreq, parts_eq hreq, honest coarse, ?_⟩
  intro result t hexec
  obtain ⟨parts, manifest, hprep⟩ := installPrepare_eq_ok (prepared hreq)
  obtain ⟨decision, hauth⟩ := Manifest.Bench.authorized
  obtain ⟨decision', hauth'⟩ := hprep.authorized
  obtain rfl : view = manifest :=
    congrArg Prod.fst (Except.ok.inj (hauth.symm.trans hauth'))
  obtain rfl : partsOf coarse delivered = parts :=
    Except.ok.inj ((parts_eq hreq).symm.trans hprep.parts_eq)
  exact not_fits (fits_of_ran (prepared hreq) hprep rfl (settled_device hjnl)
    (records_named hreq) (by decide) (Act.ran_of_exec hexec))

/-- A world with the journal of the provisioned device. -/
theorem delivered_settled : ∃ w : World, Settled (update provider).journal
    (w.media (update provider).journal.provider.device) delivered :=
  ⟨_, settled_device journal_valid⟩

/-- From there the update is three commits. -/
theorem install_converges_update : ∃ w result t,
    (installTransactionally (update provider)).exec machine w = (.ok result, t) ∧
      result.snapshot.journalGeneration.toNat = delivered.journalGeneration.toNat + 3 := by
  have hreq := requests_valid.1
  obtain ⟨w, hsettled⟩ := delivered_settled
  obtain ⟨parts, manifest, hprep⟩ := installPrepare_eq_ok (prepared hreq)
  obtain ⟨decision, hauth⟩ := Manifest.Bench.authorized
  obtain ⟨decision', hauth'⟩ := hprep.authorized
  cases hauth.symm.trans hauth'
  cases (parts_eq hreq).symm.trans hprep.parts_eq
  have clear : Clear (update provider) delivered (partsOf provider delivered) view :=
    ⟨rfl, rfl, by decide, records_named hreq, fun _ => ⟨fits, honest provider⟩⟩
  obtain ⟨result, hres, -⟩ := (clear.installTransactionally_completes hprep rfl hsettled
    (prepared hreq) (by decide)).exec_eq
  exact ⟨w, result, _, Prod.ext hres rfl, (install_converges hsettled rfl rfl .none (by decide)
    (Prod.ext hres rfl)).2.1.generation⟩

/-- And wherever it is stopped, it has touched slot A and the journal alone. -/
theorem install_frame_update : ∃ w, ∀ n, Kept (update provider) delivered w
    (Act.cut machine n (installTransactionally (update provider)) w) := by
  obtain ⟨w, hsettled⟩ := delivered_settled
  exact ⟨w, fun n => install_frame hsettled rfl rfl .none w.observer n⟩

end Bench

end Transaction

end Ribon
