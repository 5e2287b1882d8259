/-
The crash-consistent update journal.

Its four objects lie in the journal region of the layout: two records, which
carry the slot metadata, and two selectors, which say which record counts.
`transactionOpen` scans the selectors and checks the record they lead to.
`commitRecord` writes the next record and then the next selector, each into the
slot that is not in use.  The installer and the confirmation of a pending slot
are sequences of such commits.
-/
import Ribon.Update.Installer

namespace Ribon

open Wire Crash

inductive TransactionStatus where
  | invalidArgument
  | uninitialized
  | io
  | shortIo
  | corrupt
  | conflict
  | replay
  | overflow
  | state
  | identity
  | authorization
  | install
  | interrupted
  deriving DecidableEq, Repr

structure TransactionJournal where
  size : UInt32
  abiVersion : UInt32
  flags : UInt32
  reserved0 : UInt32
  provider : StorageProvider
  layout : Layout
  minimumGeneration : UInt64
  deadlineTicks : UInt64
  reserved : Reserved
  deriving DecidableEq

structure TransactionRecordView where
  targetSlot : UInt32
  targetState : SlotState
  generation : UInt64
  predecessorGeneration : UInt64
  predecessorDigest : Digest
  recordDigest : Digest
  metadata : SlotMetadata
  deriving DecidableEq

structure TransactionSelectorView where
  recordSlot : UInt32
  generation : UInt64
  predecessorGeneration : UInt64
  recordDigest : Digest
  predecessorDigest : Digest
  deriving DecidableEq

structure TransactionalInstallRequest where
  size : UInt32
  abiVersion : UInt32
  flags : UInt32
  pendingAttempts : UInt32
  install : InstallRequest
  journal : TransactionJournal
  observer : Option TransactionObserver
  reserved : Reserved

structure TransactionalInstallResult where
  resumedFrom : SlotState
  targetSlot : UInt32
  componentCount : UInt32
  installedExactBytes : UInt64
  installedBackingBytes : UInt64
  snapshot : TransactionSnapshot
  deriving DecidableEq

structure ConfirmPendingRequest where
  size : UInt32
  abiVersion : UInt32
  flags : UInt32
  targetSlot : UInt32
  imageGeneration : UInt64
  manifestDigest : Digest
  journal : TransactionJournal
  observer : Option TransactionObserver
  reserved : Reserved

structure ConfirmPendingResult where
  duplicate : Bool
  snapshot : TransactionSnapshot
  deriving DecidableEq

namespace Transaction

def journalSizeOf : UInt32 := 80
def installRequestSizeOf : UInt32 := 72
def confirmRequestSizeOf : UInt32 := 104
def recordSlots : UInt32 := 2
def recordBytes : Nat := 1024
def selectorBytes : Nat := 512
def minimumJournalBytes : UInt64 := 3072
def recordHeaderBytes : Nat := 240
def recordMetadataOffset : Nat := 240
def recordDigestOffset : Nat := 752
def recordChecksumOffset : Nat := 784
def selectorDigestOffset : Nat := 128
def selectorChecksumOffset : Nat := 160

def recordMagic : List UInt8 := paddedText "RIBON-UPDATE-TXN-RECORD-V1" 32
def selectorMagic : List UInt8 := paddedText "RIBON-UPDATE-TXN-SELECT-V1" 32

/-- The journal region of the layout. -/
def journalRegion (layout : Layout) : LayoutRegion := layout.regions[9]

def journalIsValid (journal : TransactionJournal) : Bool :=
  let provider := journal.provider
  let region := journalRegion journal.layout
  journal.size == journalSizeOf && journal.abiVersion == abiVersion && journal.flags == 0 &&
  journal.reserved0 == 0 && journal.minimumGeneration != 0 && journal.deadlineTicks != 0 &&
  reservedZero journal.reserved && Storage.providerIsValid provider &&
  (Storage.layoutIdentityEncode journal.layout).isOk &&
  journal.layout.mediaCapacityBytes == provider.capacityBytes &&
  region.kind == .updateJournal && decide (minimumJournalBytes ≤ region.length) &&
  (match addU64 region.offset region.length with
    | none => false
    | some last => decide (last ≤ provider.capacityBytes)) &&
  aligned region.offset provider.readAlignment && aligned region.offset provider.writeAlignment &&
  aligned (UInt64.ofNat recordBytes) provider.readAlignment &&
  aligned (UInt64.ofNat recordBytes) provider.writeAlignment &&
  aligned (UInt64.ofNat selectorBytes) provider.readAlignment &&
  aligned (UInt64.ofNat selectorBytes) provider.writeAlignment &&
  decide (UInt64.ofNat recordBytes ≤ provider.maximumTransferBytes)

def recordOffset (journal : TransactionJournal) (slot : UInt32) : UInt64 :=
  (journalRegion journal.layout).offset + slot.toUInt64 * UInt64.ofNat recordBytes

def selectorOffset (journal : TransactionJournal) (slot : UInt32) : UInt64 :=
  (journalRegion journal.layout).offset + recordSlots.toUInt64 * UInt64.ofNat recordBytes +
    slot.toUInt64 * UInt64.ofNat selectorBytes

def providerReadExact (journal : TransactionJournal) (offset : UInt64) (size : Nat) :
    Act TransactionStatus (List UInt8) := do
  let transfer ← callRead journal.provider.device offset (UInt64.ofNat size)
  Act.refuseIf (transfer.status != 0) .io
  Act.refuseIf (transfer.transferred != UInt64.ofNat size) .shortIo
  return transfer.data

def providerWriteExact (journal : TransactionJournal) (offset : UInt64) (bytes : List UInt8) :
    Act TransactionStatus Unit := do
  let transfer ← callWrite journal.provider.device offset bytes
  Act.refuseIf (transfer.status != 0) .io
  Act.refuseIf (transfer.transferred != UInt64.ofNat bytes.length) .shortIo

def providerFlush (journal : TransactionJournal) : Act TransactionStatus Unit := do
  let status ← callFlush journal.provider.device
  Act.refuseIf (status != 0) .io

/-! ### Records -/

/-- Generation 1 has no predecessor; every other generation has the one before it. -/
def predecessorIsValid (generation predecessorGeneration : UInt64) (predecessorDigest : Digest) :
    Bool :=
  !(generation == 1 && (predecessorGeneration != 0 || !predecessorDigest.isZero)) &&
  !(decide (1 < generation) &&
    (predecessorGeneration != generation - 1 || predecessorDigest.isZero))

/-- The record up to its digest, in the whole buffer. -/
def recordBody (metadata : SlotMetadata) (wire : List UInt8) (targetSlot : UInt32)
    (generation predecessorGeneration : UInt64) (predecessorDigest : Digest) : List UInt8 :=
  let entry := metadata.slot targetSlot
  let output := List.replicate recordBytes 0
  let output := patch output 0 recordMagic
  let output := patch output 32 (storeU16 1)
  let output := patch output 34 (storeU16 (UInt16.ofNat recordHeaderBytes))
  let output := patch output 36 (storeU32 (UInt32.ofNat recordBytes))
  let output := patch output 40 (storeU32 1)
  let output := patch output 44 (storeU32 targetSlot)
  let output := patch output 48 (storeU32 entry.state.code)
  let output := patch output 52 (storeU32 0)
  let output := patch output 56 (storeU64 generation)
  let output := patch output 64 (storeU64 predecessorGeneration)
  let output := patch output 72 predecessorDigest.1
  let output := patch output 104 (sha256 wire Storage.metadataBytes).1
  let output := patch output 136 entry.manifestDigest.1
  let output := patch output 168 entry.imageSetDigest.1
  let output := patch output 200 entry.layoutDigest.1
  patch output recordMetadataOffset wire

def recordEncode (metadata : SlotMetadata) (targetSlot : UInt32)
    (generation predecessorGeneration : UInt64) (predecessorDigest : Digest) :
    Option (List UInt8) :=
  if Storage.slotCount ≤ targetSlot || generation == 0 ||
      generation != metadata.metadataGeneration then none
  else
    match Storage.metadataEncode metadata with
    | .error _ => none
    | .ok wire =>
        if !predecessorIsValid generation predecessorGeneration predecessorDigest then none
        else
          let output := recordBody metadata wire targetSlot generation predecessorGeneration
            predecessorDigest
          let output := patch output recordDigestOffset (sha256 output recordDigestOffset).1
          some (patch output recordChecksumOffset
            (storeU32 (crc32c output recordChecksumOffset)))

/-- The checks of a record that need nothing but its bytes. -/
def recordShapeIsValid (bytes : List UInt8) : Bool :=
  bytesEqual bytes recordMagic 32 && loadU16 (bytes.drop 32) == 1 &&
  loadU16 (bytes.drop 34) == UInt16.ofNat recordHeaderBytes &&
  loadU32 (bytes.drop 36) == UInt32.ofNat recordBytes && loadU32 (bytes.drop 40) == 1 &&
  decide (loadU32 (bytes.drop 44) < Storage.slotCount) &&
  (SlotState.ofCode (loadU32 (bytes.drop 48))).isSome && loadU32 (bytes.drop 52) == 0 &&
  loadU64 (bytes.drop 56) != 0 && bytesZero (bytes.drop 232) (recordHeaderBytes - 232) &&
  bytesZero (bytes.drop (recordChecksumOffset + 4)) (recordBytes - recordChecksumOffset - 4) &&
  loadU32 (bytes.drop recordChecksumOffset) == crc32c bytes recordChecksumOffset

/-- The fields of a record whose metadata has been opened. -/
def recordView (bytes : List UInt8) (state : SlotState) (metadata : SlotMetadata) :
    TransactionRecordView where
  targetSlot := loadU32 (bytes.drop 44)
  targetState := state
  generation := loadU64 (bytes.drop 56)
  predecessorGeneration := loadU64 (bytes.drop 64)
  predecessorDigest := Digest.read (bytes.drop 72)
  recordDigest := Digest.read (bytes.drop recordDigestOffset)
  metadata := metadata

/-- The record says of its target slot what its metadata says. -/
def recordMatchesMetadata (bytes : List UInt8) (record : TransactionRecordView) : Bool :=
  let entry := record.metadata.slot record.targetSlot
  record.metadata.metadataGeneration == record.generation && entry.state == record.targetState &&
  entry.manifestDigest.equal (Digest.read (bytes.drop 136)) &&
  entry.imageSetDigest.equal (Digest.read (bytes.drop 168)) &&
  entry.layoutDigest.equal (Digest.read (bytes.drop 200)) &&
  predecessorIsValid record.generation record.predecessorGeneration record.predecessorDigest

def recordDecode (bytes : List UInt8) : Option TransactionRecordView :=
  if !recordShapeIsValid bytes then none
  else if !(sha256 bytes recordDigestOffset).equal (Digest.read (bytes.drop recordDigestOffset)) then
    none
  else
    let wire := (bytes.drop recordMetadataOffset).take Storage.metadataBytes
    match Storage.metadataOpen wire, SlotState.ofCode (loadU32 (bytes.drop 48)) with
    | .ok metadata, some state =>
        if !(sha256 wire Storage.metadataBytes).equal (Digest.read (bytes.drop 104)) then none
        else
          let record := recordView bytes state metadata
          if recordMatchesMetadata bytes record then some record else none
    | _, _ => none

/-! ### Selectors -/

/-- The selector up to its digest, in the whole buffer. -/
def selectorBody (recordSlot : UInt32) (generation predecessorGeneration : UInt64)
    (recordDigest predecessorDigest : Digest) : List UInt8 :=
  let output := List.replicate selectorBytes 0
  let output := patch output 0 selectorMagic
  let output := patch output 32 (storeU16 1)
  let output := patch output 34 (storeU16 128)
  let output := patch output 36 (storeU32 (UInt32.ofNat selectorBytes))
  let output := patch output 40 (storeU32 recordSlot)
  let output := patch output 44 (storeU32 0)
  let output := patch output 48 (storeU64 generation)
  let output := patch output 56 recordDigest.1
  let output := patch output 88 (storeU64 predecessorGeneration)
  patch output 96 predecessorDigest.1

def selectorEncode (recordSlot : UInt32) (generation predecessorGeneration : UInt64)
    (recordDigest predecessorDigest : Digest) : Option (List UInt8) :=
  if recordSlots ≤ recordSlot || generation == 0 || recordDigest.isZero then none
  else
    let output := selectorBody recordSlot generation predecessorGeneration recordDigest
      predecessorDigest
    let output := patch output selectorDigestOffset (sha256 output selectorDigestOffset).1
    some (patch output selectorChecksumOffset (storeU32 (crc32c output selectorChecksumOffset)))

def selectorDecode (bytes : List UInt8) : Option TransactionSelectorView :=
  if !(bytesEqual bytes selectorMagic 32 && loadU16 (bytes.drop 32) == 1 &&
      loadU16 (bytes.drop 34) == 128 && loadU32 (bytes.drop 36) == UInt32.ofNat selectorBytes &&
      decide (loadU32 (bytes.drop 40) < recordSlots) && loadU32 (bytes.drop 44) == 0 &&
      loadU64 (bytes.drop 48) != 0 && !(Digest.read (bytes.drop 56)).isZero &&
      bytesZero (bytes.drop (selectorChecksumOffset + 4))
        (selectorBytes - selectorChecksumOffset - 4) &&
      loadU32 (bytes.drop selectorChecksumOffset) == crc32c bytes selectorChecksumOffset) then none
  else if !(sha256 bytes selectorDigestOffset).equal
      (Digest.read (bytes.drop selectorDigestOffset)) then none
  else some {
    recordSlot := loadU32 (bytes.drop 40)
    generation := loadU64 (bytes.drop 48)
    predecessorGeneration := loadU64 (bytes.drop 88)
    recordDigest := Digest.read (bytes.drop 56)
    predecessorDigest := Digest.read (bytes.drop 96) }

/-! ### Opening the journal -/

/-- Which selector counts: the only valid one, or the newer of two. -/
def newestSelector (bytes0 bytes1 : List UInt8) :
    Except TransactionStatus (UInt32 × TransactionSelectorView) :=
  match selectorDecode bytes0, selectorDecode bytes1 with
  | none, none =>
      if bytesZero (bytes0 ++ bytes1) (2 * selectorBytes) then .error .uninitialized
      else .error .corrupt
  | none, some selector1 => .ok (1, selector1)
  | some selector0, none => .ok (0, selector0)
  | some selector0, some selector1 =>
      if selector0.generation == selector1.generation then .error .conflict
      else if selector0.generation < selector1.generation then .ok (1, selector1)
      else .ok (0, selector0)

/-- The selector that counts, unless it is older than the caller allows. -/
def selectNewest (minimumGeneration : UInt64) (bytes0 bytes1 : List UInt8) :
    Except TransactionStatus (UInt32 × TransactionSelectorView) := do
  let (slot, selector) ← newestSelector bytes0 bytes1
  refuse (decide (selector.generation < minimumGeneration)) .replay
  return (slot, selector)

/-- The record a selector names, checked against it. -/
def checkSelected (slot : UInt32) (selector : TransactionSelectorView) (bytes : List UInt8) :
    Except TransactionStatus TransactionSnapshot :=
  match recordDecode bytes with
  | none => .error .corrupt
  | some record => do
      refuse (record.generation != selector.generation ||
        record.predecessorGeneration != selector.predecessorGeneration ||
        !record.recordDigest.equal selector.recordDigest ||
        !record.predecessorDigest.equal selector.predecessorDigest) .corrupt
      return {
        selectedRecordSlot := selector.recordSlot
        selectedSelectorSlot := slot
        targetSlot := record.targetSlot
        targetState := record.targetState
        journalGeneration := record.generation
        predecessorGeneration := record.predecessorGeneration
        recordDigest := record.recordDigest
        predecessorDigest := record.predecessorDigest
        metadata := record.metadata }

/-- The newest complete record, independently verified. -/
def transactionOpen (journal : TransactionJournal) : Act TransactionStatus TransactionSnapshot := do
  Act.refuseIf (!journalIsValid journal) .invalidArgument
  let bytes0 ← providerReadExact journal (selectorOffset journal 0) selectorBytes
  let bytes1 ← providerReadExact journal (selectorOffset journal 1) selectorBytes
  let (slot, selector) ← Act.ofExcept (selectNewest journal.minimumGeneration bytes0 bytes1)
  let bytes ← providerReadExact journal (recordOffset journal selector.recordSlot) recordBytes
  Act.ofExcept (checkSelected slot selector bytes)

/-! ### Commits -/

/-- What a commit is going to write, and where. -/
structure CommitPlan where
  generation : UInt64
  predecessorGeneration : UInt64
  predecessorDigest : Digest
  recordSlot : UInt32
  selectorSlot : UInt32
  record : List UInt8
  selector : List UInt8

/-- The position of the next commit: behind the current one, or at the very start. -/
def commitPosition (current : Option TransactionSnapshot) (metadata : SlotMetadata) :
    Except TransactionStatus (UInt64 × UInt64 × Digest × UInt32 × UInt32) :=
  match current with
  | some current => do
      refuse (current.journalGeneration == u64Max ||
        metadata.metadataGeneration != current.journalGeneration + 1) .overflow
      return (current.journalGeneration + 1, current.journalGeneration, current.recordDigest,
        1 - current.selectedRecordSlot, 1 - current.selectedSelectorSlot)
  | none => do
      refuse (metadata.metadataGeneration != 1) .state
      return (1, 0, Digest.zero, 0, 0)

def commitPlan (current : Option TransactionSnapshot) (metadata : SlotMetadata)
    (targetSlot : UInt32) : Except TransactionStatus CommitPlan := do
  let (generation, predecessorGeneration, predecessorDigest, recordSlot, selectorSlot) ←
    commitPosition current metadata
  match recordEncode metadata targetSlot generation predecessorGeneration predecessorDigest with
  | none => .error .state
  | some record =>
      match selectorEncode recordSlot generation predecessorGeneration
          (Digest.read (record.drop recordDigestOffset)) predecessorDigest with
      | none => .error .state
      | some selector => return {
          generation, predecessorGeneration, predecessorDigest, recordSlot, selectorSlot, record,
          selector }

/-- Stop where the observer asks for it. -/
def observeCommit (observer : Option TransactionObserver) (state : SlotState)
    (generation : UInt64) (operation : TransactionOperation) (boundary : TransactionBoundary) :
    Act TransactionStatus Unit := do
  let answer ← observe observer operation boundary state noComponent generation
  Act.refuseIf (answer != 0) .interrupted

/-- Write the record, flush it and read it back. -/
def commitRecordObject (journal : TransactionJournal) (observer : Option TransactionObserver)
    (state : SlotState) (plan : CommitPlan) : Act TransactionStatus Unit := do
  let stop := observeCommit observer state plan.generation
  stop .journalRecordWrite .before
  providerWriteExact journal (recordOffset journal plan.recordSlot) plan.record
  stop .journalRecordWrite .after
  stop .journalRecordFlush .before
  providerFlush journal
  stop .journalRecordFlush .after
  stop .journalRecordReadback .before
  let readback ← providerReadExact journal (recordOffset journal plan.recordSlot) recordBytes
  Act.refuseIf (!bytesEqual plan.record readback recordBytes) .corrupt
  stop .journalRecordReadback .after

/-- Write the selector and flush it. -/
def commitSelectorObject (journal : TransactionJournal) (observer : Option TransactionObserver)
    (state : SlotState) (plan : CommitPlan) : Act TransactionStatus Unit := do
  let stop := observeCommit observer state plan.generation
  stop .journalSelectorWrite .before
  providerWriteExact journal (selectorOffset journal plan.selectorSlot) plan.selector
  stop .journalSelectorWrite .after
  stop .journalSelectorFlush .before
  providerFlush journal
  stop .journalSelectorFlush .after

/-- Write the next record and then the next selector, and open the journal again. -/
def commitRecord (journal : TransactionJournal) (current : Option TransactionSnapshot)
    (metadata : SlotMetadata) (targetSlot : UInt32) (observer : Option TransactionObserver) :
    Act TransactionStatus TransactionSnapshot := do
  let plan ← Act.ofExcept (commitPlan current metadata targetSlot)
  let state := (metadata.slot targetSlot).state
  note (.commitBegins current metadata targetSlot)
  commitRecordObject journal observer state plan
  commitSelectorObject journal observer state plan
  observeCommit observer state plan.generation .journalReopen .before
  let snapshot ← transactionOpen journal
  Act.refuseIf (snapshot.journalGeneration != plan.generation ||
    snapshot.targetSlot != targetSlot || snapshot.targetState != state ||
    !snapshot.recordDigest.equal (Digest.read (plan.record.drop recordDigestOffset))) .corrupt
  observeCommit observer state plan.generation .journalReopen .after
  note (.commitReturns snapshot)
  return snapshot

/-! ### The operations -/

/-- Open the journal and keep the status instead of failing with it. -/
def transactionTryOpen (journal : TransactionJournal) :
    Act TransactionStatus (Except TransactionStatus TransactionSnapshot) :=
  tryCatch (transactionOpen journal >>= fun snapshot => pure (.ok snapshot))
    fun status => pure (.error status)

/-- Provision an empty journal with generation 1. -/
def transactionInitialize (journal : TransactionJournal) (initialMetadata : SlotMetadata)
    (observer : Option TransactionObserver) : Act TransactionStatus TransactionSnapshot := do
  Act.refuseIf (!journalIsValid journal ||
    decide (Storage.slotCount ≤ initialMetadata.activeSlot) ||
    initialMetadata.pendingSlot != Storage.slotNone || initialMetadata.metadataGeneration != 1 ||
    !observer.all observerIsValid) .invalidArgument
  match ← transactionTryOpen journal with
  | .ok _ => throw .state
  | .error .uninitialized =>
      commitRecord journal none initialMetadata initialMetadata.activeSlot observer
  | .error status => throw status

def transitionPending (verified : TransactionSnapshot) (targetSlot attempts : UInt32) :
    Except TransactionStatus SlotMetadata :=
  let entry := verified.metadata.slot targetSlot
  mapStatus (fun _ => .state) <|
    Storage.metadataTransition verified.metadata { Installer.transitionTo .pending targetSlot
      entry.imageGeneration entry.manifestDigest entry.imageSetDigest entry.layoutDigest with
      bootAttempts := attempts }

def installRequestIsValid (request : TransactionalInstallRequest) : Bool :=
  request.size == installRequestSizeOf && request.abiVersion == abiVersion &&
  request.flags == 0 && request.pendingAttempts != 0 && decide (request.pendingAttempts ≤ 32) &&
  request.install.currentMetadata.isNone && reservedZero request.reserved &&
  request.observer.all observerIsValid

/-- The install request against a snapshot of the journal. -/
def installAgainst (request : TransactionalInstallRequest) (current : TransactionSnapshot) :
    InstallRequest :=
  { request.install with currentMetadata := some current.metadata, observer := request.observer }

def prepareStatus : InstallStatus → TransactionStatus
  | .authorization => .authorization
  | _ => .install

def bundleStatus : InstallStatus → TransactionStatus
  | .interrupted => .interrupted
  | _ => .install

/-- The staging commit, where the slot is not being staged already. -/
def commitStaging (request : TransactionalInstallRequest) (current : TransactionSnapshot)
    (plan : InstallPlan) : Act TransactionStatus TransactionSnapshot :=
  if plan.resumeState != .staging && plan.resumeState != .verified then
    commitRecord request.journal (some current) plan.stagingMetadata request.install.targetSlot
      request.observer
  else pure current

/-- Install the payload and commit the verified state, where the slot is being staged. -/
def installPayload (request : TransactionalInstallRequest) (current : TransactionSnapshot) :
    Act TransactionStatus (UInt64 × UInt64 × TransactionSnapshot) :=
  if (current.metadata.slot request.install.targetSlot).state == .staging then do
    let installed ← Act.mapError bundleStatus
      (Installer.installSignedBundle (installAgainst request current))
    let next ← commitRecord request.journal (some current) installed.verifiedMetadata
      request.install.targetSlot request.observer
    return (installed.installedExactBytes, installed.installedBackingBytes, next)
  else pure (0, 0, current)

/-- Commit the pending state of a verified slot. -/
def commitPending (request : TransactionalInstallRequest) (current : TransactionSnapshot) :
    Act TransactionStatus TransactionSnapshot := do
  Act.refuseIf ((current.metadata.slot request.install.targetSlot).state != .verified) .state
  let pending ← Act.ofExcept
    (transitionPending current request.install.targetSlot request.pendingAttempts)
  commitRecord request.journal (some current) pending request.install.targetSlot request.observer

/-- Install a signed bundle: commit staging, write the payload, commit verified, commit pending. -/
def installTransactionally (request : TransactionalInstallRequest) :
    Act TransactionStatus TransactionalInstallResult := do
  Act.refuseIf (!installRequestIsValid request) .invalidArgument
  let current ← transactionOpen request.journal
  let plan ← Act.ofExcept
    (mapStatus prepareStatus (Installer.installPrepare (installAgainst request current)))
  if plan.resumeState == .pending then
    return {
      resumedFrom := plan.resumeState
      targetSlot := request.install.targetSlot
      componentCount := plan.componentCount
      installedExactBytes := 0
      installedBackingBytes := 0
      snapshot := current }
  let current ← commitStaging request current plan
  let (exact, backing, current) ← installPayload request current
  let next ← commitPending request current
  return {
    resumedFrom := plan.resumeState
    targetSlot := request.install.targetSlot
    componentCount := plan.componentCount
    installedExactBytes := exact
    installedBackingBytes := backing
    snapshot := next }

def confirmRequestIsValid (request : ConfirmPendingRequest) : Bool :=
  request.size == confirmRequestSizeOf && request.abiVersion == abiVersion &&
  request.flags == 0 && decide (request.targetSlot < Storage.slotCount) &&
  request.imageGeneration != 0 && !request.manifestDigest.isZero &&
  reservedZero request.reserved && request.observer.all observerIsValid

/-- The slot is active and confirmed with the identity of the request. -/
def confirmedAlready (request : ConfirmPendingRequest) (current : TransactionSnapshot) : Bool :=
  let entry := current.metadata.slot request.targetSlot
  current.metadata.activeSlot == request.targetSlot &&
  current.metadata.pendingSlot == Storage.slotNone && entry.state == .confirmed &&
  entry.imageGeneration == request.imageGeneration &&
  entry.manifestDigest.equal request.manifestDigest

/-- The slot is pending with the identity of the request. -/
def confirmIdentityMatches (request : ConfirmPendingRequest) (current : TransactionSnapshot) :
    Bool :=
  let entry := current.metadata.slot request.targetSlot
  current.targetSlot == request.targetSlot && current.targetState == .pending &&
  current.metadata.pendingSlot == request.targetSlot && entry.state == .pending &&
  entry.imageGeneration == request.imageGeneration &&
  entry.manifestDigest.equal request.manifestDigest

/-- The metadata with the pending slot confirmed. -/
def transitionConfirmed (current : TransactionSnapshot) (targetSlot : UInt32) :
    Except TransactionStatus SlotMetadata :=
  let entry := current.metadata.slot targetSlot
  mapStatus (fun _ => .state) <|
    Storage.metadataTransition current.metadata <|
      Installer.transitionTo .confirmed targetSlot entry.imageGeneration entry.manifestDigest
        entry.imageSetDigest entry.layoutDigest

/-- Commit the exact pending identity as confirmed. -/
def transactionConfirmPending (request : ConfirmPendingRequest) :
    Act TransactionStatus ConfirmPendingResult := do
  Act.refuseIf (!confirmRequestIsValid request) .invalidArgument
  let current ← transactionOpen request.journal
  if confirmedAlready request current then
    return { duplicate := true, snapshot := current }
  Act.refuseIf (!confirmIdentityMatches request current) .identity
  let next ← Act.ofExcept (transitionConfirmed current request.targetSlot)
  let confirmed ← commitRecord request.journal (some current) next request.targetSlot
    request.observer
  return { duplicate := false, snapshot := confirmed }

end Transaction

end Ribon
