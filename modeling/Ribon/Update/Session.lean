/-
A storage session binds one provider, one layout and one metadata snapshot, and
hands out a handle to the inactive slot that is being staged.

Every access through the handle is relative to the slot.  It is checked against
the session again, resolved to a media range inside the slot's region, and only
then given to the provider.
-/
import Ribon.Device

namespace Ribon

open Wire Crash

structure StorageSession where
  size : UInt32
  abiVersion : UInt32
  flags : UInt32
  reserved0 : UInt32
  provider : StorageProvider
  layout : Layout
  metadata : SlotMetadata
  reserved : Reserved

structure SlotHandle where
  size : UInt32
  abiVersion : UInt32
  slotId : UInt32
  flags : UInt32
  metadataGeneration : UInt64
  mediaIdentityDigest : Digest
  layoutDigest : Digest
  deriving DecidableEq

namespace Storage

/-- A slot's entry is of the session's layout and its region fits the provider's alignments. -/
def sessionSlotIsValid (session : StorageSession) (digest : Digest) (slotId : UInt32) : Bool :=
  let region := slotRegion session.layout slotId
  let entry := session.metadata.slot slotId
  (entry.state == .empty || entry.layoutDigest.equal digest) &&
  aligned region.offset session.provider.readAlignment &&
  aligned region.length session.provider.readAlignment &&
  aligned region.offset session.provider.writeAlignment &&
  aligned region.length session.provider.writeAlignment &&
  aligned region.offset session.provider.eraseAlignment &&
  aligned region.length session.provider.eraseAlignment

def sessionIsValid (session : StorageSession) : Bool :=
  session.size == sessionSizeOf && session.abiVersion == abiVersion && session.flags == 0 &&
  session.reserved0 == 0 && reservedZero session.reserved && providerIsValid session.provider &&
  metadataIsValid session.metadata &&
  match layoutIdentityEncode session.layout with
  | .error _ => false
  | .ok identity =>
      let digest := sha256 identity layoutIdentityBytes
      session.layout.mediaCapacityBytes == session.provider.capacityBytes &&
      digest.equal session.layout.identityDigest &&
      sessionSlotIsValid session digest 0 && sessionSlotIsValid session digest 1

def openInactiveSlot (session : StorageSession) (slotId : UInt32) :
    Except StorageStatus SlotHandle := do
  refuse (!sessionIsValid session || decide (slotCount ≤ slotId)) .invalidArgument
  refuse (slotId == session.metadata.activeSlot) .protectedSlot
  refuse ((session.metadata.slot slotId).state != .staging) .badState
  return {
    size := handleSizeOf
    abiVersion := abiVersion
    slotId := slotId
    flags := 0
    metadataGeneration := session.metadata.metadataGeneration
    mediaIdentityDigest := session.provider.mediaIdentityDigest
    layoutDigest := session.layout.identityDigest }

def handleIsValid (session : StorageSession) (handle : SlotHandle) : Bool :=
  sessionIsValid session && handle.size == handleSizeOf && handle.abiVersion == abiVersion &&
  handle.flags == 0 && decide (handle.slotId < slotCount) &&
  handle.slotId != session.metadata.activeSlot &&
  (session.metadata.slot handle.slotId).state == .staging &&
  handle.metadataGeneration == session.metadata.metadataGeneration &&
  handle.mediaIdentityDigest.equal session.provider.mediaIdentityDigest &&
  handle.layoutDigest.equal session.layout.identityDigest

/-- The media offset of a slot-relative range. -/
def resolveRange (session : StorageSession) (handle : SlotHandle)
    (slotOffset size alignment : UInt64) : Except StorageStatus UInt64 := do
  refuse (!handleIsValid session handle || size == 0) .invalidArgument
  refuse (!aligned slotOffset alignment || !aligned size alignment) .alignment
  refuse (decide (session.provider.maximumTransferBytes < size)) .overflow
  let region := slotRegion session.layout handle.slotId
  match addU64 slotOffset size with
  | none => .error .overflow
  | some last => do
      refuse (decide (region.length < last)) .capacity
      match addU64 region.offset slotOffset with
      | none => .error .capacity
      | some mediaOffset => .ok mediaOffset

/-- The provider read behind a resolved range; a short transfer is an error. -/
def storageRead (session : StorageSession) (handle : SlotHandle) (slotOffset size : UInt64) :
    Act StorageStatus (List UInt8) := do
  let mediaOffset ← Act.ofExcept
    (resolveRange session handle slotOffset size session.provider.readAlignment)
  let transfer ← callRead session.provider.device mediaOffset size
  Act.refuseIf (transfer.status != 0) .io
  Act.refuseIf (transfer.transferred != size) .shortIo
  return transfer.data

def storageWriteInactive (session : StorageSession) (handle : SlotHandle) (slotOffset : UInt64)
    (buffer : List UInt8) : Act StorageStatus Unit := do
  let size := UInt64.ofNat buffer.length
  let mediaOffset ← Act.ofExcept
    (resolveRange session handle slotOffset size session.provider.writeAlignment)
  let transfer ← callWrite session.provider.device mediaOffset buffer
  Act.refuseIf (transfer.status != 0) .io
  Act.refuseIf (transfer.transferred != size) .shortIo

def storageEraseInactive (session : StorageSession) (handle : SlotHandle)
    (slotOffset size : UInt64) : Act StorageStatus Unit := do
  let mediaOffset ← Act.ofExcept
    (resolveRange session handle slotOffset size session.provider.eraseAlignment)
  let status ← callErase session.provider.device mediaOffset size
  Act.refuseIf (status != 0) .io

def storageFlush (session : StorageSession) : Act StorageStatus Unit := do
  Act.refuseIf (!sessionIsValid session) .invalidArgument
  let status ← callFlush session.provider.device
  Act.refuseIf (status != 0) .io

end Storage

end Ribon
