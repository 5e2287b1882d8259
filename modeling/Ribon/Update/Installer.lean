/-
Installing a signed bundle into the inactive slot.

`installPrepare` authorizes the manifest and says from which slot state the
install starts or resumes.  `installSignedBundle` then reads every component of
the bundle, erases its range and writes it with a zero tail, flushes once, reads
every component back, and only then makes the metadata that calls the slot
verified.
-/
import Ribon.Update.Session

namespace Ribon

open Wire Crash

inductive InstallStatus where
  | invalidArgument
  | authorization
  | layout
  | capacity
  | bundleIo
  | componentDigest
  | storageIo
  | readbackDigest
  | state
  | interrupted
  deriving DecidableEq, Repr

/-- What the bundle callback did: its status, what it left in the buffer, what it reports. -/
structure BundleRead where
  status : Int
  content : Nat → UInt8
  transferred : UInt64

structure BundleSource where
  size : UInt32
  abiVersion : UInt32
  flags : UInt32
  reserved0 : UInt32
  byteSize : UInt64
  /-- The context pointer is set. -/
  context : Bool
  read : Option (UInt64 → UInt64 → BundleRead)
  reserved : Reserved

/-- The observer descriptor; its counter lives in the machine's memory. -/
structure TransactionObserver where
  size : UInt32
  abiVersion : UInt32
  flags : UInt32
  /-- The callback is set. -/
  observe : Bool
  reserved : Reserved
  deriving DecidableEq

structure InstallRequest where
  size : UInt32
  abiVersion : UInt32
  flags : UInt32
  targetSlot : UInt32
  authorization : ManifestAuthorization
  bundle : Option BundleSource
  provider : Option StorageProvider
  layout : Option Layout
  currentMetadata : Option SlotMetadata
  scratch : UInt64
  scratchSize : UInt64
  deadlineTicks : UInt64
  observer : Option TransactionObserver
  reserved : Reserved

structure InstallPlan where
  resumeState : SlotState
  targetSlot : UInt32
  componentCount : UInt32
  manifestDigest : Digest
  imageSetDigest : Digest
  stagingMetadata : SlotMetadata
  deriving DecidableEq

structure InstallResult where
  targetSlot : UInt32
  componentCount : UInt32
  installedExactBytes : UInt64
  installedBackingBytes : UInt64
  manifestDigest : Digest
  imageSetDigest : Digest
  verifiedMetadata : SlotMetadata
  deriving DecidableEq

namespace Transaction

def abiVersion : UInt32 := 1
def observerSizeOf : UInt32 := 64
def noComponent : UInt32 := u32Max

def observerIsValid (observer : TransactionObserver) : Bool :=
  observer.size == observerSizeOf && observer.abiVersion == abiVersion && observer.flags == 0 &&
  observer.observe && reservedZero observer.reserved

/-- Tell the observer about one boundary; its answer is zero to go on. -/
def observe {E : Type} (observer : Option TransactionObserver) (operation : TransactionOperation)
    (boundary : TransactionBoundary) (durableState : SlotState) (componentIndex : UInt32)
    (journalGeneration : UInt64) : Act E Int :=
  match observer with
  | none => pure 0
  | some observer => do
      let sequence ← callObserverSequence
      if !observerIsValid observer || sequence == u32Max then return -1
      callObserverAdvance
      callObserve {
        operation := operation
        boundary := boundary
        durableState := durableState
        componentIndex := componentIndex
        sequence := sequence
        journalGeneration := journalGeneration }

end Transaction

namespace Installer

def abiVersion : UInt32 := 1
def requestSizeOf : UInt32 := 232
def bundleSizeOf : UInt32 := 72

def bundleIsValid (bundle : BundleSource) : Bool :=
  bundle.size == bundleSizeOf && bundle.abiVersion == abiVersion && bundle.flags == 0 &&
  bundle.reserved0 == 0 && bundle.byteSize != 0 && bundle.context && bundle.read.isSome &&
  reservedZero bundle.reserved

/-- The parts of a request that `requestIsValid` wants to be there. -/
structure Parts where
  bundle : BundleSource
  provider : StorageProvider
  layout : Layout
  currentMetadata : SlotMetadata

def requestParts (request : InstallRequest) : Option Parts := do
  let bundle ← request.bundle
  let provider ← request.provider
  let layout ← request.layout
  let currentMetadata ← request.currentMetadata
  return { bundle, provider, layout, currentMetadata }

def requestIsValid (request : InstallRequest) (parts : Parts) : Bool :=
  request.size == requestSizeOf && request.abiVersion == abiVersion && request.flags == 0 &&
  decide (request.targetSlot < Storage.slotCount) && request.scratch != 0 &&
  request.scratchSize != 0 && request.deadlineTicks != 0 &&
  request.observer.all Transaction.observerIsValid && reservedZero request.reserved &&
  bundleIsValid parts.bundle && Storage.providerIsValid parts.provider &&
  parts.provider.capacityBytes == parts.layout.mediaCapacityBytes &&
  aligned request.scratch parts.provider.writeAlignment

/-- The valid parts of a request. -/
def openRequest (request : InstallRequest) : Except InstallStatus Parts :=
  match requestParts request with
  | none => .error .invalidArgument
  | some parts => if requestIsValid request parts then .ok parts else .error .invalidArgument

/-- The digest of all content digests, in order. -/
def imageSetIdentity (manifest : ManifestView) : Except ManifestStatus Digest := do
  let digests ← (List.range manifest.componentCount.toNat).mapM fun index => do
    let component ← Manifest.componentAt manifest index
    return component.contentDigest.1
  let bytes := [manifest.componentCount.toUInt8, 0, 0, 0] ++ digests.flatten
  return sha256 bytes (4 + manifest.componentCount.toNat * 32)

def entryMatchesPlan (entry : SlotEntry) (imageGeneration : UInt64)
    (manifestDigest imageSetDigest layoutDigest : Digest) : Bool :=
  entry.imageGeneration == imageGeneration && entry.manifestDigest.equal manifestDigest &&
  entry.imageSetDigest.equal imageSetDigest && entry.layoutDigest.equal layoutDigest

/-- The transition of the target slot to `next` under the identity of a manifest. -/
def transitionTo (next : SlotState) (targetSlot : UInt32) (imageGeneration : UInt64)
    (manifestDigest imageSetDigest layoutDigest : Digest) : SlotTransition where
  size := Storage.transitionSizeOf
  abiVersion := Storage.abiVersion
  flags := 0
  slotId := targetSlot
  nextState := next
  bootAttempts := 0
  imageGeneration := imageGeneration
  manifestDigest := manifestDigest
  imageSetDigest := imageSetDigest
  layoutDigest := layoutDigest
  reserved := Reserved.none

/-- The metadata that stages the slot.  A slot that is being installed is staged already, and goes
on only under the identity it was staged with. -/
def stagingMetadataFor (current : SlotMetadata) (targetSlot : UInt32) (imageGeneration : UInt64)
    (manifestDigest imageSetDigest layoutDigest : Digest) : Except InstallStatus SlotMetadata :=
  match (current.slot targetSlot).state with
  | .empty | .bad | .confirmed =>
      mapStatus (fun _ => .state) <|
        Storage.metadataTransition current <|
          transitionTo .staging targetSlot imageGeneration manifestDigest imageSetDigest layoutDigest
  | .staging | .verified | .pending =>
      if entryMatchesPlan (current.slot targetSlot) imageGeneration manifestDigest imageSetDigest
          layoutDigest then .ok current
      else .error .state

/-- Authorize the manifest and plan the install, or its resumption. -/
def installPrepare (request : InstallRequest) : Except InstallStatus InstallPlan := do
  let parts ← openRequest request
  let (manifest, _) ← mapStatus (fun _ => .authorization)
    (Manifest.manifestAuthorize request.authorization)
  refuse (!Storage.layoutAcceptsManifest parts.layout manifest) .layout
  refuse (parts.currentMetadata.activeSlot == request.targetSlot) .state
  let manifestDigest := sha256 manifest.bytes manifest.byteSize
  let imageSetDigest ← mapStatus (fun _ => .layout) (imageSetIdentity manifest)
  let entry := parts.currentMetadata.slot request.targetSlot
  let stagingMetadata ← stagingMetadataFor parts.currentMetadata request.targetSlot
    manifest.bundleGeneration manifestDigest imageSetDigest parts.layout.identityDigest
  return {
    resumeState := entry.state
    targetSlot := request.targetSlot
    componentCount := manifest.componentCount
    manifestDigest := manifestDigest
    imageSetDigest := imageSetDigest
    stagingMetadata := stagingMetadata }

/-! ### The two passes over the components -/

section Passes

variable (request : InstallRequest) (parts : Parts) (manifest : ManifestView)
  (session : StorageSession) (handle : SlotHandle)

/-- Stop where the observer asks for it. -/
def observeStaging (operation : TransactionOperation) (boundary : TransactionBoundary)
    (component : UInt32) : Act InstallStatus Unit := do
  let answer ← Transaction.observe request.observer operation boundary .staging component
    session.metadata.metadataGeneration
  Act.refuseIf (answer != 0) .interrupted

/-- A component and the size of its range on the media. -/
def componentRange (index : Nat) : Except InstallStatus (ComponentView × UInt64) :=
  match Manifest.componentAt manifest index with
  | .error _ => .error .capacity
  | .ok component =>
      match alignUp component.exactSize parts.provider.writeAlignment with
      | none => .error .capacity
      | some backingSize => do
          refuse (decide (request.scratchSize < backingSize) ||
            decide (parts.provider.maximumTransferBytes < backingSize)) .capacity
          return (component, backingSize)

/-- Read one component of the bundle into the scratch buffer. -/
def bundleRead (component : ComponentView) : Except InstallStatus (List UInt8) :=
  match parts.bundle.read with
  | none => .error .bundleIo
  | some read => do
      let answer := read component.bundleOffset component.exactSize
      refuse (answer.status != 0 || answer.transferred != component.exactSize) .bundleIo
      return (List.range component.exactSize.toNat).map answer.content

/-- The first pass on one component: read it, erase its range, write it. -/
def writeComponent (index : Nat) (exactTotal backingTotal : UInt64) :
    Act InstallStatus (UInt64 × UInt64) := do
  let number := UInt32.ofNat index
  let (component, backingSize) ← Act.ofExcept (componentRange request parts manifest index)
  Act.refuseIf (decide (parts.bundle.byteSize < component.bundleOffset) ||
    decide (parts.bundle.byteSize - component.bundleOffset < component.exactSize) ||
    decide (u64Max - component.exactSize < exactTotal) ||
    decide (u64Max - backingSize < backingTotal)) .capacity
  observeStaging request session .bundleRead .before number
  let content ← Act.ofExcept (bundleRead parts component)
  observeStaging request session .bundleRead .after number
  Act.refuseIf (!(sha256 content component.exactSize.toNat).equal component.contentDigest)
    .componentDigest
  let tail := backingSize - component.exactSize
  let scratch := content ++ List.replicate tail.toNat 0
  observeStaging request session .slotErase .before number
  Act.mapError (fun _ => .storageIo)
    (Storage.storageEraseInactive session handle component.bundleOffset backingSize)
  observeStaging request session .slotErase .after number
  observeStaging request session .slotWrite .before number
  Act.mapError (fun _ => .storageIo)
    (Storage.storageWriteInactive session handle component.bundleOffset scratch)
  observeStaging request session .slotWrite .after number
  return (exactTotal + component.exactSize, backingTotal + backingSize)

/-- The first pass. -/
def writeComponents : List Nat → UInt64 → UInt64 → Act InstallStatus (UInt64 × UInt64)
  | [], exactTotal, backingTotal => pure (exactTotal, backingTotal)
  | index :: rest, exactTotal, backingTotal => do
      let (exactTotal, backingTotal) ← writeComponent request parts manifest session handle index
        exactTotal backingTotal
      writeComponents rest exactTotal backingTotal

/-- The second pass on one component: read it back and compare it with the manifest. -/
def checkComponent (index : Nat) : Act InstallStatus Unit := do
  let number := UInt32.ofNat index
  let (component, backingSize) ← Act.ofExcept (componentRange request parts manifest index)
  observeStaging request session .slotReadback .before number
  let scratch ← Act.mapError (fun _ => .storageIo)
    (Storage.storageRead session handle component.bundleOffset backingSize)
  observeStaging request session .slotReadback .after number
  let tail := backingSize - component.exactSize
  Act.refuseIf (!(sha256 scratch component.exactSize.toNat).equal component.contentDigest ||
    (tail != 0 && !bytesZero (scratch.drop component.exactSize.toNat) tail.toNat)) .readbackDigest

/-- The second pass. -/
def checkComponents : List Nat → Act InstallStatus Unit
  | [] => pure ()
  | index :: rest => do
      checkComponent request parts manifest session handle index
      checkComponents rest

end Passes

/-- The session of an install. -/
def sessionFor (parts : Parts) (metadata : SlotMetadata) : StorageSession where
  size := Storage.sessionSizeOf
  abiVersion := Storage.abiVersion
  flags := 0
  reserved0 := 0
  provider := parts.provider
  layout := parts.layout
  metadata := metadata
  reserved := Reserved.none

/-- Install the bundle into the inactive slot and make the verified metadata. -/
def installSignedBundle (request : InstallRequest) : Act InstallStatus InstallResult := do
  let plan ← Act.ofExcept (installPrepare request)
  Act.refuseIf (plan.resumeState == .verified || plan.resumeState == .pending) .state
  let parts ← Act.ofExcept (openRequest request)
  let (manifest, _) ← Act.ofExcept (mapStatus (fun _ => InstallStatus.authorization)
    (Manifest.manifestAuthorize request.authorization))
  let session := sessionFor parts plan.stagingMetadata
  let handle ← Act.ofExcept (mapStatus (fun _ => InstallStatus.state)
    (Storage.openInactiveSlot session request.targetSlot))
  let components := List.range manifest.componentCount.toNat
  let (exactTotal, backingTotal) ← writeComponents request parts manifest session handle
    components 0 0
  observeStaging request session .payloadFlush .before Transaction.noComponent
  Act.mapError (fun _ => .storageIo) (Storage.storageFlush session)
  observeStaging request session .payloadFlush .after Transaction.noComponent
  checkComponents request parts manifest session handle components
  let verifiedMetadata ← Act.ofExcept (mapStatus (fun _ => InstallStatus.state)
    (Storage.metadataTransition plan.stagingMetadata
      (transitionTo .verified request.targetSlot manifest.bundleGeneration plan.manifestDigest
        plan.imageSetDigest parts.layout.identityDigest)))
  return {
    targetSlot := request.targetSlot
    componentCount := manifest.componentCount
    installedExactBytes := exactTotal
    installedBackingBytes := backingTotal
    manifestDigest := plan.manifestDigest
    imageSetDigest := plan.imageSetDigest
    verifiedMetadata := verifiedMetadata }

end Installer

end Ribon
