/-
Calls that complete.

What the code refuses, it refuses by checks on its arguments and on what the
journal says.  Where these checks pass and nothing interrupts, a commit goes all
the way, and with it the calls that are made of commits.
-/
import Ribon.Update.History
import Ribon.Security.Evaluation

namespace Ribon.Transaction

open Wire Crash Crash.TwoSlot Storage

/-! ### Commits -/

section Commits

variable {journal : TransactionJournal} {current : Option TransactionSnapshot} {S : TransactionSnapshot}
  {metadata : SlotMetadata} {target : UInt32} {w : World}

/-- How a commit that nothing interrupts ends. -/
def CommitDone (journal : TransactionJournal) (current : Option TransactionSnapshot)
    (metadata : SlotMetadata) (target : UInt32) (w : World)
    (r : Except TransactionStatus TransactionSnapshot) (t : World) : Prop :=
  r = .ok (successor current metadata target) ∧
    Moved journal.provider.device w
      (committed journal (w.media journal.provider.device) current metadata target)
      (.commitReturns (successor current metadata target) ::
        .commitBegins current metadata target :: w.notes) t

/-- **A commit on a journal at rest completes.** -/
theorem Settled.commitRecord_completes (h : Settled journal (w.media journal.provider.device) S)
    (c : Committable (some S) metadata target) :
    Act.wpc machine (fun _ => True) (CommitDone journal (some S) metadata target w)
      (commitRecord journal (some S) metadata target none) w := by
  obtain ⟨hvalid, -⟩ := openImage_eq_ok.mp h.opens
  have hslots : ∀ snapshot ∈ some S, Slotted snapshot := by
    intro snapshot hsnap
    cases hsnap
    exact h.slotted
  refine commitRecord_wpc hvalid hslots rfl ?_ trivial (fun _ _ _ => trivial) ?_ ?_ ?_ ?_
  · intro _ snapshot hopen
    exact Except.ok.inj (hopen.symm.trans (h.afterCommit c).opens)
  · intro e he
    rw [(commitPlan_eq_ok hslots).mpr ⟨c, rfl⟩] at he
    cases he
  · intro _ hsome
    cases hsome
  · intro _ e t hopen
    rw [(h.afterCommit c).opens] at hopen
    cases hopen
  · intro _ _ t ht
    exact ⟨rfl, ht⟩

theorem bytesAt_const (value : UInt8) (offset size : Nat) :
    bytesAt (fun _ => value) offset size = List.replicate size value := by
  unfold bytesAt
  rw [List.map_const', List.length_range]

/-- Media that are all zero count as a journal that was never initialized. -/
theorem openImage_blank (hvalid : journalIsValid journal = true)
    (hmedia : (w.media journal.provider.device).cached = fun _ => 0) :
    openImage journal (journalView journal w).cached = .error .uninitialized := by
  have hsel : ∀ k, (journalView journal w).cached (.selector k) =
      List.replicate selectorBytes 0 := by
    intro k
    simp only [Store.view_cached, Store.viewImage, hmedia, journalOverlay, bytesAt_const, objectSize]
  have hdecode : selectorDecode (List.replicate selectorBytes 0) = none := by decide +kernel
  have hzero : bytesZero (List.replicate selectorBytes 0 ++ List.replicate selectorBytes 0)
      (2 * selectorBytes) = true := by
    rw [List.replicate_append_replicate]
    exact bytesZero_replicate _ _
  unfold openImage openObjects selectNewest newestSelector
  rw [if_pos hvalid, hsel false, hsel true, hdecode]
  rw [if_pos hzero]
  rfl

section Blank

variable (hvalid : journalIsValid journal = true) (hfloor : journal.minimumGeneration ≤ 1)
  (hblank : openImage journal (journalView journal w).cached = .error .uninitialized)
include hvalid hfloor hblank

/-- A first commit that is finished leaves the journal at rest with its metadata. -/
theorem settled_first (c : Committable none metadata target) :
    Settled journal (committed journal (w.media journal.provider.device) none metadata target)
      (successor none metadata target) where
  clean := by
    intro o hdirty
    rw [committed, Store.view_flush] at hdirty
    exact hdirty
  opens := openImage_eq_ok.mpr ⟨hvalid, false, _, _,
    committed_selected c (selectorDecode_of_uninitialized hblank), hfloor, rfl⟩

/-- **The first commit of a blank journal completes**, unless the caller's floor is above it. -/
theorem first_completes (c : Committable none metadata target) :
    Act.wpc machine (fun _ => True) (CommitDone journal none metadata target w)
      (commitRecord journal none metadata target none) w := by
  have hslots : ∀ snapshot ∈ (none : Option TransactionSnapshot), Slotted snapshot := by
    intro snapshot hsnap
    cases hsnap
  have hsels := selectorDecode_of_uninitialized hblank
  refine commitRecord_wpc hvalid hslots rfl (fun c => committed_opens c hsels) trivial
    (fun _ _ _ => trivial) ?_ ?_ ?_ ?_
  · intro e he
    rw [(commitPlan_eq_ok hslots).mpr ⟨c, rfl⟩] at he
    cases he
  · intro _ hsome
    cases hsome
  · intro _ e t hopen
    rw [(settled_first hvalid hfloor hblank c).opens] at hopen
    cases hopen
  · intro _ _ t ht
    exact ⟨rfl, ht⟩

variable (hpend : metadata.pendingSlot = slotNone)
  (c : Committable none metadata metadata.activeSlot)
include hpend c

/-- **The initialization of a blank journal completes.** -/
theorem transactionInitialize_completes :
    Act.wpc machine (fun _ => True) (CommitDone journal none metadata metadata.activeSlot w)
      (transactionInitialize journal metadata none) w := by
  refine Act.wpc_bind_refuseIf trivial (fun hbad => ?_) fun _ => ?_
  · have hactive : ¬ slotCount ≤ metadata.activeSlot :=
      UInt32.not_le.mpr c.recordable.target
    have hgen : metadata.metadataGeneration = 1 := c.recordable.same.symm
    simp [hvalid, hactive, hpend, hgen] at hbad
  · refine transactionTryOpen_wpc trivial ?_
    rw [hblank]
    exact first_completes hvalid hfloor hblank c

/-- A provisioned device is at rest with the metadata it was given. -/
theorem settled_provision :
    Settled journal ((Act.exec machine ((JournalCall.init metadata none).act journal) w).2.media
      journal.provider.device) (successor none metadata metadata.activeSlot) := by
  have hact : Act.wpc machine (fun _ => True) (fun _ t => Settled journal
      (t.media journal.provider.device) (successor none metadata metadata.activeSlot))
      ((JournalCall.init metadata none).act journal) w := by
    refine Act.wpc_bind (transactionInitialize_completes hvalid hfloor hblank hpend c)
      (fun a t _ h => Act.wpc_pure trivial ?_) fun e t _ h => absurd h.1 (by simp)
    rw [h.2.media]
    exact settled_first hvalid hfloor hblank c
  exact hact.post

end Blank

/-- **A blank device can be provisioned.** -/
theorem JournalRun.provision (hvalid : journalIsValid journal = true)
    (hfloor : journal.minimumGeneration ≤ 1) (hnotes : w.notes = [])
    (hmedia : w.media journal.provider.device = Store.fresh fun _ => 0)
    (hpend : metadata.pendingSlot = slotNone)
    (c : Committable none metadata metadata.activeSlot) :
    JournalRun journal true
      (Act.exec machine ((JournalCall.init metadata none).act journal) w).2 := by
  have hblank : openImage journal (journalView journal w).cached = .error .uninitialized :=
    openImage_blank hvalid (by rw [hmedia]; rfl)
  have hclean : ∀ a, ¬ (w.media journal.provider.device).dirty a := by
    rw [hmedia]
    exact fun a ha => ha
  have hsame : (journalView journal w).cached = (journalView journal w).durable :=
    Store.view_cached_of_clean _ hclean
  have hstart : JournalRun journal false w := by
    have h := JournalRun.start hclean hnotes
    rw [startUp_exec hclean, ← hsame, hblank] at h
    exact h
  have hdone : (Act.exec machine ((JournalCall.init metadata none).act journal) w).1 = .ok () := by
    have hact : Act.wpc machine (fun _ => True) (fun r _ => r = .ok ())
        ((JournalCall.init metadata none).act journal) w := by
      refine Act.wpc_bind (transactionInitialize_completes hvalid hfloor hblank hpend c)
        (fun a t _ _ => Act.wpc_pure trivial rfl) ?_
      intro e t _ h
      cases h.1
    exact hact.post
  have hrun := JournalRun.returned hstart (.init metadata none) trivial w.observer ?_
  · rw [show (Act.exec machine ((JournalCall.init metadata none).act journal)
      { w with observer := w.observer }).1 = .ok () from hdone] at hrun
    exact hrun
  · rw [show (Act.exec machine ((JournalCall.init metadata none).act journal)
      { w with observer := w.observer }).1 = .ok () from hdone]
    intro h
    cases h

end Commits

/-! ### A small device

Sixteen KiB of media with a valid layout. -/

namespace Bench

def region (kind : LayoutRegionKind) (offset length : UInt64) : LayoutRegion :=
  ⟨kind, 0, offset, length⟩

def layoutOf (regions : Vector LayoutRegion 11) (identityDigest : Digest) : Layout where
  size := layoutSizeOf
  abiVersion := abiVersion
  flags := 0
  regionCount := regionCount
  mediaCapacityBytes := 16384
  allocationAlignment := 16
  regions := regions
  identityDigest := identityDigest
  reserved := Reserved.none

/-- The layout that the images are installed under. -/
def layout : Layout := layoutOf #v[
  region .bootloader 0 1024, region .guardBootRecovery 1024 1024,
  region .immutableRecovery 2048 1024, region .guardRecoverySlotA 3072 3072,
  region .slotA 6144 1024, region .guardSlotASlotB 7168 2048,
  region .slotB 9216 1024, region .guardSlotBMetadata 10240 1024,
  region .slotMetadata 11264 1024, region .updateJournal 12288 3072,
  region .trailingReserved 15360 1024]
  (Sha256.Words.digest ⟨0xeb0f1eed, 0x9a7c53a7, 0x9375cc89, 0xfcb8fc98, 0x0f44a81e, 0xd76de843,
    0xcd1b9d14, 0x26baa6ea⟩)

def provider : StorageProvider where
  size := providerSizeOf
  abiVersion := abiVersion
  flags := 0
  capabilities := capAll
  capacityBytes := 16384
  readAlignment := 16
  writeAlignment := 16
  eraseAlignment := 16
  maximumTransferBytes := 4096
  mediaIdentityDigest := ⟨List.replicate 32 7, by simp⟩
  context := some 0
  callbacks := true
  reserved := Reserved.none

/-- The journal of the device under a layout. -/
def journal (layout : Layout) : TransactionJournal where
  size := journalSizeOf
  abiVersion := abiVersion
  flags := 0
  reserved0 := 0
  provider := provider
  layout := layout
  minimumGeneration := 1
  deadlineTicks := 1
  reserved := Reserved.none

def emptyEntry : SlotEntry where
  slotId := 0
  state := .empty
  metadataGeneration := 0
  imageGeneration := 0
  manifestDigest := Digest.zero
  imageSetDigest := Digest.zero
  layoutDigest := Digest.zero
  bootAttempts := 0
  flags := 0
  reserved := Reserved.none

/-- Slot B holds the image the device was delivered with. -/
def deliveredEntry : SlotEntry where
  slotId := 1
  state := .confirmed
  metadataGeneration := 1
  imageGeneration := 1
  manifestDigest := ⟨List.replicate 32 1, by simp⟩
  imageSetDigest := ⟨List.replicate 32 2, by simp⟩
  layoutDigest := layout.identityDigest
  bootAttempts := 0
  flags := 0
  reserved := Reserved.none

/-- The metadata the device is provisioned with. -/
def metadata : SlotMetadata where
  size := metadataSizeOf
  abiVersion := abiVersion
  flags := 0
  activeSlot := 1
  pendingSlot := slotNone
  slotCount := slotCount
  metadataGeneration := 1
  slots := #v[emptyEntry, deliveredEntry]
  wireDigest := Digest.zero
  reserved := Reserved.none

/-- A world with blank media. -/
def blank : World where
  media _ := Store.fresh fun _ => 0
  erased _ := 0xff
  protectedStore _ := Store.fresh fun _ => .of []
  observer := ⟨0, fun _ _ => 0, 0⟩
  notes := []

theorem firstRecordDigest_eq : nextRecordDigest none metadata 1 =
    Sha256.Words.digest ⟨0xa9b16aab, 0x9d8e9a05, 0x9e358809, 0x2863b45c, 0x72e1aa1f, 0x0e6f2071,
      0x622889b3, 0x2d50b8c0⟩ := by
  show recordDigestOf metadata 1 1 0 Digest.zero = _
  simp only [recordDigestOf, recordOf, recordBody, metadataWire, sha256_eq, crc32c_eq]
  exact congrArg Sha256.Words.digest (by decide +kernel)

theorem first_committable : Committable none metadata metadata.activeSlot where
  room := by simp
  recordable := ⟨by decide, by decide, rfl, by decide +kernel, by decide +kernel⟩
  selectable := by
    refine ⟨by decide, by decide, ?_⟩
    show (nextRecordDigest none metadata 1).isZero = false
    rw [firstRecordDigest_eq]
    decide +kernel

theorem journal_valid : journalIsValid (journal layout) = true := by
  decide +kernel

/-- **The device can be provisioned.** -/
theorem provisioned : JournalRun (journal layout) true
    (Act.exec machine ((JournalCall.init metadata none).act (journal layout)) blank).2 :=
  JournalRun.provision journal_valid (by decide) rfl rfl rfl first_committable

end Bench

end Ribon.Transaction
