/-
The update storage: a provider of bounded media, the canonical A/B layout of it,
and the slot metadata that says what each image slot holds.

The layout cuts the media into eleven regions without gaps.  The metadata has
one entry for each of the two slots and moves along a fixed set of edges, one
slot at a time, never the active one.
-/
import Ribon.Update.Manifest

namespace Ribon

open Wire

inductive LayoutRegionKind where
  | invalid
  | bootloader
  | guardBootRecovery
  | immutableRecovery
  | guardRecoverySlotA
  | slotA
  | guardSlotASlotB
  | slotB
  | guardSlotBMetadata
  | slotMetadata
  | updateJournal
  | trailingReserved
  deriving DecidableEq, Repr

def LayoutRegionKind.code : LayoutRegionKind → UInt32
  | .invalid => 0
  | .bootloader => 1
  | .guardBootRecovery => 2
  | .immutableRecovery => 3
  | .guardRecoverySlotA => 4
  | .slotA => 5
  | .guardSlotASlotB => 6
  | .slotB => 7
  | .guardSlotBMetadata => 8
  | .slotMetadata => 9
  | .updateJournal => 10
  | .trailingReserved => 11

inductive SlotState where
  | empty
  | staging
  | verified
  | pending
  | confirmed
  | bad
  deriving DecidableEq, Repr

namespace SlotState

def code : SlotState → UInt32
  | .empty => 0
  | .staging => 1
  | .verified => 2
  | .pending => 3
  | .confirmed => 4
  | .bad => 5

def ofCode (value : UInt32) : Option SlotState :=
  if value = 0 then some .empty
  else if value = 1 then some .staging
  else if value = 2 then some .verified
  else if value = 3 then some .pending
  else if value = 4 then some .confirmed
  else if value = 5 then some .bad
  else none

@[simp] theorem ofCode_code (s : SlotState) : ofCode s.code = some s := by
  cases s <;> rfl

end SlotState

inductive StorageStatus where
  | invalidArgument
  | unsupported
  | capacity
  | overflow
  | alignment
  | overlap
  | malformed
  | shortIo
  | io
  | protectedSlot
  | badState
  | identityMismatch
  deriving DecidableEq, Repr

/-- The media provider.  Its callbacks act on the device that `context` names. -/
structure StorageProvider where
  size : UInt32
  abiVersion : UInt32
  flags : UInt32
  capabilities : UInt32
  capacityBytes : UInt64
  readAlignment : UInt64
  writeAlignment : UInt64
  eraseAlignment : UInt64
  maximumTransferBytes : UInt64
  mediaIdentityDigest : Digest
  context : Option Nat
  /-- All four callbacks are set. -/
  callbacks : Bool
  reserved : Reserved
  deriving DecidableEq

/-- The device behind a provider. -/
def StorageProvider.device (provider : StorageProvider) : Nat := provider.context.getD 0

structure LayoutRegion where
  kind : LayoutRegionKind
  flags : UInt32
  offset : UInt64
  length : UInt64
  deriving DecidableEq, Repr

structure Layout where
  size : UInt32
  abiVersion : UInt32
  flags : UInt32
  regionCount : UInt32
  mediaCapacityBytes : UInt64
  allocationAlignment : UInt64
  regions : Vector LayoutRegion 11
  identityDigest : Digest
  reserved : Reserved
  deriving DecidableEq

structure SlotEntry where
  slotId : UInt32
  state : SlotState
  metadataGeneration : UInt64
  imageGeneration : UInt64
  manifestDigest : Digest
  imageSetDigest : Digest
  layoutDigest : Digest
  bootAttempts : UInt32
  flags : UInt32
  reserved : Reserved
  deriving DecidableEq

structure SlotMetadata where
  size : UInt32
  abiVersion : UInt32
  flags : UInt32
  activeSlot : UInt32
  pendingSlot : UInt32
  slotCount : UInt32
  metadataGeneration : UInt64
  slots : Vector SlotEntry 2
  wireDigest : Digest
  reserved : Reserved
  deriving DecidableEq

structure SlotTransition where
  size : UInt32
  abiVersion : UInt32
  flags : UInt32
  slotId : UInt32
  nextState : SlotState
  bootAttempts : UInt32
  imageGeneration : UInt64
  manifestDigest : Digest
  imageSetDigest : Digest
  layoutDigest : Digest
  reserved : Reserved
  deriving DecidableEq

namespace SlotMetadata

/-- The entry of a slot; callers have checked the slot number. -/
def slot (metadata : SlotMetadata) (slotId : UInt32) : SlotEntry :=
  if slotId = 0 then metadata.slots[0] else metadata.slots[1]

/-- The metadata with the entry of a slot replaced. -/
def setSlot (metadata : SlotMetadata) (slotId : UInt32) (entry : SlotEntry) : SlotMetadata :=
  { metadata with
    slots := if slotId = 0 then #v[entry, metadata.slots[1]] else #v[metadata.slots[0], entry] }

end SlotMetadata

namespace Storage

def abiVersion : UInt32 := 1
def layoutIdentityBytes : Nat := 512
def metadataBytes : Nat := 512
def slotCount : UInt32 := 2
def slotNone : UInt32 := u32Max
def regionCount : UInt32 := 11
def capAll : UInt32 := 15
def providerSizeOf : UInt32 := 160
def layoutSizeOf : UInt32 := 360
def metadataSizeOf : UInt32 := 416
def transitionSizeOf : UInt32 := 160
def sessionSizeOf : UInt32 := 72
def handleSizeOf : UInt32 := 88
def layoutHeaderBytes : Nat := 128
def layoutRegionBytes : Nat := 24
def metadataHeaderBytes : Nat := 64
def metadataSlotBytes : Nat := 160
def metadataBodyBytes : Nat := 384
def metadataDigestOffset : Nat := 384
def metadataChecksumOffset : Nat := 416
def metadataReservedOffset : Nat := 420
def maxBootAttempts : UInt32 := 32

def layoutMagic : List UInt8 := paddedText "RIBON-UPDATE-LAYOUT-V1" 32
def metadataMagic : List UInt8 := paddedText "RIBON-SLOT-METADATA-V1" 32

def providerIsValid (provider : StorageProvider) : Bool :=
  provider.size == providerSizeOf && provider.abiVersion == abiVersion && provider.flags == 0 &&
  provider.capabilities == capAll && provider.capacityBytes != 0 &&
  powerOfTwo provider.readAlignment && powerOfTwo provider.writeAlignment &&
  powerOfTwo provider.eraseAlignment && provider.maximumTransferBytes != 0 &&
  decide (provider.readAlignment ≤ provider.maximumTransferBytes) &&
  decide (provider.writeAlignment ≤ provider.maximumTransferBytes) &&
  decide (provider.eraseAlignment ≤ provider.maximumTransferBytes) &&
  !provider.mediaIdentityDigest.isZero && provider.context.isSome && provider.callbacks &&
  reservedZero provider.reserved

/-! ### Layout -/

/-- The checks of one region, which has to start where the one before it ended.  The result is its
end. -/
def regionEnd (alignment capacity : UInt64) (index : Nat) (cursor : UInt64)
    (region : LayoutRegion) : Option UInt64 :=
  if region.kind.code != UInt32.ofNat (index + 1) || region.flags != 0 ||
      region.length == 0 || region.offset != cursor || !aligned region.offset alignment ||
      !aligned region.length alignment then none
  else
    match addU64 region.offset region.length with
    | none => none
    | some last => if capacity < last then none else some last

/-- The region loop: the end of the last region. -/
def regionsEnd (alignment capacity : UInt64) : Nat → UInt64 → List LayoutRegion → Option UInt64
  | _, cursor, [] => some cursor
  | index, cursor, region :: rest =>
      match regionEnd alignment capacity index cursor region with
      | none => none
      | some last => regionsEnd alignment capacity (index + 1) last rest

def layoutIsStructurallyValid (layout : Layout) : Bool :=
  layout.size == layoutSizeOf && layout.abiVersion == abiVersion && layout.flags == 0 &&
  layout.regionCount == regionCount && layout.mediaCapacityBytes != 0 &&
  powerOfTwo layout.allocationAlignment && reservedZero layout.reserved &&
  regionsEnd layout.allocationAlignment layout.mediaCapacityBytes 0 0 layout.regions.toList ==
    some layout.mediaCapacityBytes &&
  decide (UInt64.ofNat (2 * metadataBytes) ≤ layout.regions[8].length) &&
  layout.regions[4].length == layout.regions[6].length

/-- The region of a slot. -/
def slotRegion (layout : Layout) (slotId : UInt32) : LayoutRegion :=
  if slotId = 0 then layout.regions[4] else layout.regions[6]

/-- One row of the layout identity. -/
def layoutRow (output : List UInt8) (index : Nat) (region : LayoutRegion) : List UInt8 :=
  let row := layoutHeaderBytes + index * layoutRegionBytes
  let output := patch output row (storeU32 region.kind.code)
  let output := patch output (row + 4) (storeU32 region.flags)
  let output := patch output (row + 8) (storeU64 region.offset)
  patch output (row + 16) (storeU64 region.length)

def layoutIdentityEncode (layout : Layout) : Except StorageStatus (List UInt8) := do
  refuse (!layoutIsStructurallyValid layout) .invalidArgument
  let output := List.replicate layoutIdentityBytes 0
  let output := patch output 0 layoutMagic
  let output := patch output 32 (storeU16 1)
  let output := patch output 34 (storeU16 (UInt16.ofNat layoutHeaderBytes))
  let output := patch output 36 (storeU32 (UInt32.ofNat layoutIdentityBytes))
  let output := patch output 40 (storeU64 layout.mediaCapacityBytes)
  let output := patch output 48 (storeU64 layout.allocationAlignment)
  let output := patch output 56 (storeU32 layout.regionCount)
  return layout.regions.toList.zipIdx.foldl
    (fun output (region, index) => layoutRow output index region) output

/-- The larger of an end so far and the end of one component at its maximum size. -/
def largerEnd (maximumEnd : UInt64) (component : Except ManifestStatus ComponentView) :
    Except StorageStatus UInt64 := do
  let component ← mapStatus (fun _ => .overflow) component
  let last ← demand (addU64 component.bundleOffset component.maximumSize) .overflow
  return if maximumEnd < last then last else maximumEnd

/-- The aligned slot bytes that the largest component range needs. -/
def requiredSlotBytes (manifest : ManifestView) (alignment : UInt64) :
    Except StorageStatus UInt64 := do
  refuse (!powerOfTwo alignment) .invalidArgument
  let reopened ← mapStatus (fun _ => .invalidArgument) (Manifest.manifestOpen (.mem manifest.bytes))
  let maximumEnd ← (List.range reopened.componentCount.toNat).foldlM
    (fun maximumEnd index => largerEnd maximumEnd (Manifest.componentAt reopened index)) (0 : UInt64)
  demand (alignUp maximumEnd alignment) .overflow

def layoutAcceptsManifest (layout : Layout) (manifest : ManifestView) : Bool :=
  match layoutIdentityEncode layout with
  | .error _ => false
  | .ok identity =>
      (sha256 identity layoutIdentityBytes).equal layout.identityDigest &&
      match requiredSlotBytes manifest layout.allocationAlignment with
      | .error _ => false
      | .ok required =>
          decide (required ≤ layout.regions[4].length) && decide (required ≤ layout.regions[6].length)

/-! ### Slot metadata -/

def slotEntryIsValid (entry : SlotEntry) (expectedSlot : UInt32) (metadataGeneration : UInt64) :
    Bool :=
  let emptyIdentity := entry.manifestDigest.isZero && entry.imageSetDigest.isZero &&
    entry.layoutDigest.isZero
  entry.slotId == expectedSlot && entry.flags == 0 &&
  decide (entry.bootAttempts ≤ maxBootAttempts) && reservedZero entry.reserved &&
  (if entry.state == .empty then
    entry.metadataGeneration == 0 && entry.imageGeneration == 0 && entry.bootAttempts == 0 &&
    emptyIdentity
  else
    entry.metadataGeneration != 0 && decide (entry.metadataGeneration ≤ metadataGeneration) &&
    entry.imageGeneration != 0 && !emptyIdentity && !entry.manifestDigest.isZero &&
    !entry.imageSetDigest.isZero && !entry.layoutDigest.isZero &&
    (if entry.state == .pending then entry.bootAttempts != 0 else entry.bootAttempts == 0))

def metadataIsValid (metadata : SlotMetadata) : Bool :=
  let pendingCount := (metadata.slots.toList.filter (·.state == .pending)).length
  metadata.size == metadataSizeOf && metadata.abiVersion == abiVersion && metadata.flags == 0 &&
  metadata.slotCount == slotCount && metadata.metadataGeneration != 0 &&
  decide (metadata.activeSlot < slotCount) &&
  (metadata.pendingSlot == slotNone || decide (metadata.pendingSlot < slotCount)) &&
  (metadata.slot metadata.activeSlot).state == .confirmed && reservedZero metadata.reserved &&
  slotEntryIsValid metadata.slots[0] 0 metadata.metadataGeneration &&
  slotEntryIsValid metadata.slots[1] 1 metadata.metadataGeneration &&
  (if metadata.pendingSlot == slotNone then pendingCount == 0
  else
    pendingCount == 1 && metadata.pendingSlot != metadata.activeSlot &&
    (metadata.slot metadata.pendingSlot).state == .pending)

/-- One row of the metadata wire. -/
def metadataRow (output : List UInt8) (row : Nat) (entry : SlotEntry) : List UInt8 :=
  let output := patch output row (storeU32 entry.slotId)
  let output := patch output (row + 4) (storeU32 entry.state.code)
  let output := patch output (row + 8) (storeU64 entry.metadataGeneration)
  let output := patch output (row + 16) (storeU64 entry.imageGeneration)
  let output := patch output (row + 24) entry.manifestDigest.1
  let output := patch output (row + 56) entry.imageSetDigest.1
  let output := patch output (row + 88) entry.layoutDigest.1
  let output := patch output (row + 120) (storeU32 entry.bootAttempts)
  patch output (row + 124) (storeU32 entry.flags)

/-- The 384 bytes of the metadata wire that its digest covers, in the whole buffer. -/
def metadataBody (metadata : SlotMetadata) : List UInt8 :=
  let output := List.replicate metadataBytes 0
  let output := patch output 0 metadataMagic
  let output := patch output 32 (storeU16 1)
  let output := patch output 34 (storeU16 (UInt16.ofNat metadataHeaderBytes))
  let output := patch output 36 (storeU32 (UInt32.ofNat metadataBytes))
  let output := patch output 40 (storeU64 metadata.metadataGeneration)
  let output := patch output 48 (storeU32 metadata.activeSlot)
  let output := patch output 52 (storeU32 metadata.pendingSlot)
  let output := patch output 56 (storeU32 metadata.slotCount)
  let output := metadataRow output metadataHeaderBytes metadata.slots[0]
  metadataRow output (metadataHeaderBytes + metadataSlotBytes) metadata.slots[1]

def metadataEncode (metadata : SlotMetadata) : Except StorageStatus (List UInt8) := do
  refuse (!metadataIsValid metadata) .invalidArgument
  let output := metadataBody metadata
  let output := patch output metadataDigestOffset (sha256 output metadataBodyBytes).1
  return patch output metadataChecksumOffset (storeU32 (crc32c output metadataChecksumOffset))

/-- One entry, read back from its row; the state of a row may be none at all. -/
def readEntry (row : List UInt8) (state : SlotState) : SlotEntry where
  slotId := loadU32 row
  state := state
  metadataGeneration := loadU64 (row.drop 8)
  imageGeneration := loadU64 (row.drop 16)
  manifestDigest := Digest.read (row.drop 24)
  imageSetDigest := Digest.read (row.drop 56)
  layoutDigest := Digest.read (row.drop 88)
  bootAttempts := loadU32 (row.drop 120)
  flags := loadU32 (row.drop 124)
  reserved := Reserved.none

/-- Read a row and refuse a state out of range and reserved bytes that are not zero. -/
def openEntry (row : List UInt8) : Except StorageStatus SlotEntry := do
  let state ← (match SlotState.ofCode (loadU32 (row.drop 4)) with
    | none => .error .malformed
    | some state => .ok state)
  refuse (!bytesZero (row.drop 128) 32) .malformed
  return readEntry row state

/-- Open untrusted metadata bytes. -/
def metadataOpen (bytes : List UInt8) : Except StorageStatus SlotMetadata := do
  refuse (bytes.length != metadataBytes || !bytesEqual bytes metadataMagic 32 ||
    loadU16 (bytes.drop 32) != 1 || loadU16 (bytes.drop 34) != UInt16.ofNat metadataHeaderBytes ||
    loadU32 (bytes.drop 36) != UInt32.ofNat metadataBytes || loadU32 (bytes.drop 60) != 0 ||
    !bytesZero (bytes.drop metadataReservedOffset) (metadataBytes - metadataReservedOffset))
    .malformed
  let digest := sha256 bytes metadataBodyBytes
  refuse (!digest.equal (Digest.read (bytes.drop metadataDigestOffset)) ||
    loadU32 (bytes.drop metadataChecksumOffset) != crc32c bytes metadataChecksumOffset) .malformed
  let slotA ← openEntry (bytes.drop metadataHeaderBytes)
  let slotB ← openEntry (bytes.drop (metadataHeaderBytes + metadataSlotBytes))
  let metadata : SlotMetadata := {
    size := metadataSizeOf
    abiVersion := abiVersion
    flags := 0
    activeSlot := loadU32 (bytes.drop 48)
    pendingSlot := loadU32 (bytes.drop 52)
    slotCount := loadU32 (bytes.drop 56)
    metadataGeneration := loadU64 (bytes.drop 40)
    slots := #v[slotA, slotB]
    wireDigest := digest
    reserved := Reserved.none }
  refuse (!metadataIsValid metadata) .malformed
  return metadata

/-! ### Transitions -/

def transitionIsAllowed : SlotState → SlotState → Bool
  | .empty, next => next == .staging
  | .bad, next => next == .staging
  | .confirmed, next => next == .staging
  | .staging, next => next == .verified || next == .bad
  | .verified, next => next == .pending || next == .bad
  | .pending, next => next == .confirmed || next == .bad

def transitionIdentityMatches (entry : SlotEntry) (transition : SlotTransition) : Bool :=
  entry.imageGeneration == transition.imageGeneration &&
  entry.manifestDigest.equal transition.manifestDigest &&
  entry.imageSetDigest.equal transition.imageSetDigest &&
  entry.layoutDigest.equal transition.layoutDigest

/-- The entry a transition leaves in its slot. -/
def transitionEntry (current : SlotMetadata) (transition : SlotTransition) : SlotEntry :=
  let entry := { current.slot transition.slotId with
    state := transition.nextState
    metadataGeneration := current.metadataGeneration + 1
    bootAttempts := transition.bootAttempts }
  if transition.nextState == .staging then { entry with
    imageGeneration := transition.imageGeneration
    manifestDigest := transition.manifestDigest
    imageSetDigest := transition.imageSetDigest
    layoutDigest := transition.layoutDigest }
  else entry

/-- The metadata a transition leads to, before it is validated and digested. -/
def transitionTarget (current : SlotMetadata) (transition : SlotTransition) : SlotMetadata :=
  let next := { current.setSlot transition.slotId (transitionEntry current transition) with
    metadataGeneration := current.metadataGeneration + 1
    wireDigest := Digest.zero }
  if transition.nextState == .pending then { next with pendingSlot := transition.slotId }
  else if transition.nextState == .confirmed then
    { next with activeSlot := transition.slotId, pendingSlot := slotNone }
  else if transition.nextState == .bad then { next with pendingSlot := slotNone }
  else next

def metadataTransition (current : SlotMetadata) (transition : SlotTransition) :
    Except StorageStatus SlotMetadata := do
  refuse (!metadataIsValid current || transition.size != transitionSizeOf ||
    transition.abiVersion != abiVersion || transition.flags != 0 ||
    decide (slotCount ≤ transition.slotId) || transition.slotId == current.activeSlot ||
    decide (maxBootAttempts < transition.bootAttempts) || transition.imageGeneration == 0 ||
    transition.manifestDigest.isZero || transition.imageSetDigest.isZero ||
    transition.layoutDigest.isZero || !reservedZero transition.reserved ||
    current.metadataGeneration == u64Max ||
    !transitionIsAllowed (current.slot transition.slotId).state transition.nextState) .badState
  refuse (if transition.nextState == .pending then
    transition.bootAttempts == 0 || current.pendingSlot != slotNone
    else transition.bootAttempts != 0) .badState
  refuse (transition.nextState != .staging &&
    !transitionIdentityMatches (current.slot transition.slotId) transition) .identityMismatch
  let next := transitionTarget current transition
  let wire ← mapStatus (fun _ => .badState) (metadataEncode next)
  return { next with wireDigest := sha256 wire metadataBodyBytes }

end Storage

end Ribon
