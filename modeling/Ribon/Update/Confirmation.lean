/-
Boot confirmation: a candidate slot is tried a bounded number of times, and an
authenticated health receipt of the very attempt promotes it.

Two journals take part.  The update journal says which slot is pending.  The
protected journal holds the trial of its sequence, bound to the digest of one
attempt.  `beginAttempt` opens or rebinds the trial and pays for the attempt
before it starts.  `accept` checks the receipt against both journals, the key
policy and the protocol, and then confirms the protected journal first and the
update journal second.
-/
import Ribon.Protocol
import Ribon.Security.ProtectedState
import Ribon.Update.Transaction

namespace Ribon

open Wire Crash

inductive ConfirmationStatus where
  | invalidArgument
  | malformed
  | identity
  | stale
  | authenticator
  | healthRejected
  | protectedState
  | updateState
  | attemptsExhausted
  | overflow
  deriving DecidableEq, Repr

structure EnvelopeView where
  slotId : UInt32
  protocolMajor : UInt32
  protocolMinor : UInt32
  policyVersion : UInt32
  imageGeneration : UInt64
  manifestSequence : UInt64
  attemptSequence : UInt64
  productId : List UInt8
  protocolId : List UInt8
  keyId : List UInt8
  healthPayload : List UInt8
  signature : List UInt8
  authenticatedMessage : List UInt8
  manifestDigest : Digest
  nonce : Digest
  healthPayloadDigest : Digest
  deriving DecidableEq

structure BootAttemptIdentity where
  size : UInt32
  abiVersion : UInt32
  mode : KeyPolicyMode
  slotId : UInt32
  protocolMajor : UInt32
  protocolMinor : UInt32
  policyVersion : UInt32
  flags : UInt32
  imageGeneration : UInt64
  manifestSequence : UInt64
  productId : View
  protocolId : View
  manifestDigest : Digest
  productDigest : Digest
  rollbackDomainDigest : Digest
  reserved : Reserved
  deriving DecidableEq

/-- The nonce source; its callback's status and the bytes it leaves are the call's own. -/
structure NonceSource where
  size : UInt32
  abiVersion : UInt32
  flags : UInt32
  reserved0 : UInt32
  fill : Option (Int × Digest)
  reserved : Reserved
  deriving DecidableEq

structure BootAttempt where
  slotId : UInt32
  attemptsRemaining : UInt32
  imageGeneration : UInt64
  manifestSequence : UInt64
  attemptSequence : UInt64
  protectedGeneration : UInt64
  manifestDigest : Digest
  nonce : Digest
  bindingDigest : Digest
  deriving DecidableEq

structure BeginAttemptRequest where
  size : UInt32
  abiVersion : UInt32
  flags : UInt32
  maximumAttempts : UInt32
  identity : BootAttemptIdentity
  updateJournal : TransactionJournal
  protectedJournal : ProtectedJournal
  nonceSource : NonceSource
  reserved : Reserved

structure AcceptRequest where
  size : UInt32
  abiVersion : UInt32
  flags : UInt32
  reserved0 : UInt32
  envelope : View
  identity : BootAttemptIdentity
  protocol : BootProtocol
  keyPolicy : KeyPolicyStore
  signatureProvider : SignatureProvider
  signatureWorkspace : UInt64
  signatureWorkspaceSize : UInt64
  updateJournal : TransactionJournal
  protectedJournal : ProtectedJournal
  observer : Option TransactionObserver
  reserved : Reserved

/-- The receipt; `duplicate` tells the status `DUPLICATE` from `OK`. -/
structure ConfirmationReceipt where
  duplicate : Bool
  attemptSequence : UInt64
  protectedGeneration : UInt64
  updateGeneration : UInt64
  activeSlot : UInt32
  deriving DecidableEq

namespace Confirmation

def abiVersion : UInt32 := 1
def headerBytes : Nat := 256
def maxWireBytes : Nat := 2048
def maxProductIdBytes : Nat := 128
def maxProtocolIdBytes : Nat := 64
def maxKeyIdBytes : Nat := 64
def maxHealthBytes : Nat := 1024
def signatureBytes : Nat := 64
def identitySizeOf : UInt32 := 208
def nonceSourceSizeOf : UInt32 := 64
def beginRequestSizeOf : UInt32 := 80
def acceptRequestSizeOf : UInt32 := 136

def envelopeMagic : List UInt8 := paddedText "RIBON-BOOT-CONFIRM-ENV-V1" 32
def bindingDomain : List UInt8 := paddedText "RIBON-BOOT-ATTEMPT-BIND-V1" 32

def idIsValid (id : View) (maximum : Nat) : Bool :=
  !id.isNull && id.size != 0 && decide (id.size ≤ maximum) && id.data.all (· != 0)

def identityIsValid (identity : BootAttemptIdentity) : Bool :=
  identity.size == identitySizeOf && identity.abiVersion == abiVersion &&
  identity.mode != .invalid && decide (identity.slotId < Storage.slotCount) &&
  identity.protocolMajor != 0 && identity.policyVersion != 0 && identity.flags == 0 &&
  identity.imageGeneration != 0 && identity.manifestSequence != 0 &&
  idIsValid identity.productId maxProductIdBytes &&
  idIsValid identity.protocolId maxProtocolIdBytes && !identity.manifestDigest.isZero &&
  !identity.productDigest.isZero && !identity.rollbackDomainDigest.isZero &&
  reservedZero identity.reserved

def nonceSourceIsValid (source : NonceSource) : Bool :=
  source.size == nonceSourceSizeOf && source.abiVersion == abiVersion && source.flags == 0 &&
  source.reserved0 == 0 && source.fill.isSome && reservedZero source.reserved

/-! ### The envelope -/

/-- The header fields that do not depend on each other. -/
def envelopeHeaderIsValid (bytes : List UInt8) : Bool :=
  bytesEqual bytes envelopeMagic 32 && loadU16 (bytes.drop 32) == 1 &&
  loadU16 (bytes.drop 34) == 0 && loadU32 (bytes.drop 36) == UInt32.ofNat headerBytes &&
  (loadU32 (bytes.drop 40)).toNat == bytes.length &&
  decide (loadU32 (bytes.drop 44) < Storage.slotCount) && loadU32 (bytes.drop 48) != 0 &&
  loadU32 (bytes.drop 56) != 0 && loadU32 (bytes.drop 60) == 0 && loadU64 (bytes.drop 64) != 0 &&
  loadU64 (bytes.drop 72) != 0 && loadU64 (bytes.drop 80) != 0 && loadU16 (bytes.drop 94) == 0 &&
  loadU32 (bytes.drop 124) == 0 && !bytesZero (bytes.drop 128) 32 &&
  !bytesZero (bytes.drop 160) 32 && !bytesZero (bytes.drop 192) 32 &&
  bytesZero (bytes.drop 224) 32

/-- The sizes of the variable fields, in their order in the envelope. -/
structure EnvelopeSizes where
  product : Nat
  protocol : Nat
  key : Nat
  health : Nat

def envelopeSizes (bytes : List UInt8) : EnvelopeSizes where
  product := (loadU16 (bytes.drop 88)).toNat
  protocol := (loadU16 (bytes.drop 90)).toNat
  key := (loadU16 (bytes.drop 92)).toNat
  health := (loadU32 (bytes.drop 96)).toNat

/-- Sizes within their bounds, and every field right behind the one before it. -/
def envelopeFieldsAreValid (bytes : List UInt8) (sizes : EnvelopeSizes) : Bool :=
  let protocolOffset := headerBytes + sizes.product
  let keyOffset := protocolOffset + sizes.protocol
  let healthOffset := keyOffset + sizes.key
  let signatureOffset := healthOffset + sizes.health
  sizes.product != 0 && decide (sizes.product ≤ maxProductIdBytes) &&
  sizes.protocol != 0 && decide (sizes.protocol ≤ maxProtocolIdBytes) &&
  sizes.key != 0 && decide (sizes.key ≤ maxKeyIdBytes) &&
  sizes.health != 0 && decide (sizes.health ≤ maxHealthBytes) &&
  (loadU32 (bytes.drop 120)).toNat == signatureBytes &&
  (loadU32 (bytes.drop 100)).toNat == headerBytes &&
  (loadU32 (bytes.drop 104)).toNat == protocolOffset &&
  (loadU32 (bytes.drop 108)).toNat == keyOffset &&
  (loadU32 (bytes.drop 112)).toNat == healthOffset &&
  (loadU32 (bytes.drop 116)).toNat == signatureOffset &&
  signatureOffset + signatureBytes == bytes.length

/-- A field of the envelope. -/
def field (bytes : List UInt8) (offset size : Nat) : List UInt8 := (bytes.drop offset).take size

def envelopeView (bytes : List UInt8) (sizes : EnvelopeSizes) : EnvelopeView :=
  let protocolOffset := headerBytes + sizes.product
  let keyOffset := protocolOffset + sizes.protocol
  let healthOffset := keyOffset + sizes.key
  let signatureOffset := healthOffset + sizes.health
  { slotId := loadU32 (bytes.drop 44)
    protocolMajor := loadU32 (bytes.drop 48)
    protocolMinor := loadU32 (bytes.drop 52)
    policyVersion := loadU32 (bytes.drop 56)
    imageGeneration := loadU64 (bytes.drop 64)
    manifestSequence := loadU64 (bytes.drop 72)
    attemptSequence := loadU64 (bytes.drop 80)
    productId := field bytes headerBytes sizes.product
    protocolId := field bytes protocolOffset sizes.protocol
    keyId := field bytes keyOffset sizes.key
    healthPayload := field bytes healthOffset sizes.health
    signature := field bytes signatureOffset signatureBytes
    authenticatedMessage := bytes.take signatureOffset
    manifestDigest := Digest.read (bytes.drop 128)
    nonce := Digest.read (bytes.drop 160)
    healthPayloadDigest := Digest.read (bytes.drop 192) }

/-- Open an untrusted envelope. -/
def envelopeOpen (envelope : View) : Except ConfirmationStatus EnvelopeView :=
  match envelope with
  | .null _ => .error .malformed
  | .mem bytes => do
      refuse (decide (bytes.length < headerBytes) || decide (maxWireBytes < bytes.length)) .malformed
      let sizes := envelopeSizes bytes
      refuse (!envelopeHeaderIsValid bytes || !envelopeFieldsAreValid bytes sizes) .malformed
      let view := envelopeView bytes sizes
      refuse (!(idIsValid (.mem view.productId) maxProductIdBytes &&
        idIsValid (.mem view.protocolId) maxProtocolIdBytes &&
        idIsValid (.mem view.keyId) maxKeyIdBytes)) .malformed
      refuse (!(sha256 view.healthPayload sizes.health).equal view.healthPayloadDigest) .malformed
      return view

/-! ### Attempts -/

/-- The canonical bytes of an attempt. -/
def bindingBytes (identity : BootAttemptIdentity) (nonce : Digest) (attemptSequence : UInt64) :
    List UInt8 :=
  bindingDomain ++ storeU32 abiVersion ++ storeU32 identity.mode.code.toUInt32 ++
    storeU32 identity.slotId ++ storeU32 identity.protocolMajor ++
    storeU32 identity.protocolMinor ++ storeU32 identity.policyVersion ++
    storeU64 identity.imageGeneration ++ storeU64 identity.manifestSequence ++
    storeU64 attemptSequence ++ storeU32 (UInt32.ofNat identity.productId.size) ++
    storeU32 (UInt32.ofNat identity.protocolId.size) ++ identity.manifestDigest.1 ++
    identity.productDigest.1 ++ identity.rollbackDomainDigest.1 ++ nonce.1 ++
    identity.productId.data ++ identity.protocolId.data

def bindingDigest (identity : BootAttemptIdentity) (nonce : Digest) (attemptSequence : UInt64) :
    Except ConfirmationStatus Digest := do
  refuse (!identityIsValid identity || nonce.isZero || attemptSequence == 0) .invalidArgument
  let bytes := bindingBytes identity nonce attemptSequence
  return sha256 bytes bytes.length

def pendingIdentityMatches (snapshot : TransactionSnapshot) (identity : BootAttemptIdentity) :
    Bool :=
  let entry := snapshot.metadata.slot identity.slotId
  snapshot.metadata.pendingSlot == identity.slotId && snapshot.targetSlot == identity.slotId &&
  snapshot.targetState == .pending && entry.state == .pending &&
  entry.imageGeneration == identity.imageGeneration &&
  entry.manifestDigest.equal identity.manifestDigest

def beginRequestIsValid (request : BeginAttemptRequest) : Bool :=
  request.size == beginRequestSizeOf && request.abiVersion == abiVersion &&
  request.flags == 0 && request.maximumAttempts != 0 &&
  decide (request.maximumAttempts ≤ ProtectedState.maxTrialAttempts) &&
  identityIsValid request.identity && nonceSourceIsValid request.nonceSource &&
  reservedZero request.reserved

/-- The nonce of an attempt and its binding. -/
def drawBinding (request : BeginAttemptRequest) (attemptSequence : UInt64) :
    Except ConfirmationStatus (Digest × Digest) := do
  let (status, nonce) := request.nonceSource.fill.getD (-1, Digest.zero)
  refuse (status != 0 || nonce.isZero) .invalidArgument
  let binding ← mapStatus (fun _ => .invalidArgument)
    (bindingDigest request.identity nonce attemptSequence)
  return (nonce, binding)

def trialStatus : ProtectedStatus → ConfirmationStatus
  | .attemptsExhausted => .attemptsExhausted
  | _ => .protectedState

/-- Open the trial, or rebind it to the new attempt. -/
def bindAttempt (request : BeginAttemptRequest) (current : ProtectedSnapshot) (binding : Digest)
    (attemptSequence : UInt64) : Act ConfirmationStatus ProtectedSnapshot :=
  if current.kind == .confirmed then
    Act.mapError trialStatus (ProtectedState.beginBoundTrial request.protectedJournal
      request.identity.manifestSequence request.maximumAttempts binding attemptSequence)
  else if current.pendingSequence == request.identity.manifestSequence then
    Act.mapError trialStatus (ProtectedState.rebindTrialAttempt request.protectedJournal
      request.identity.manifestSequence binding attemptSequence)
  else throw .stale

/-- Bind a new attempt of the pending slot and pay for it before it starts. -/
def beginAttempt (request : BeginAttemptRequest) : Act ConfirmationStatus BootAttempt := do
  let identity := request.identity
  Act.refuseIf (!beginRequestIsValid request) .invalidArgument
  let update ← Act.mapError (fun _ => .updateState)
    (Transaction.transactionOpen request.updateJournal)
  Act.refuseIf (!pendingIdentityMatches update identity ||
    (update.metadata.slot identity.slotId).bootAttempts != request.maximumAttempts) .updateState
  let current ← Act.mapError (fun _ => .protectedState)
    (ProtectedState.protectedOpen request.protectedJournal)
  Act.refuseIf (current.attemptSequence == u64Max) .overflow
  let attemptSequence := current.attemptSequence + 1
  let (nonce, binding) ← Act.ofExcept (drawBinding request attemptSequence)
  let _ ← bindAttempt request current binding attemptSequence
  let paid ← Act.mapError trialStatus
    (ProtectedState.consumeTrialAttempt request.protectedJournal identity.manifestSequence)
  Act.refuseIf (!paid.trialBindingDigest.equal binding || paid.attemptSequence != attemptSequence)
    .protectedState
  return {
    slotId := identity.slotId
    attemptsRemaining := paid.trialAttemptsRemaining
    imageGeneration := identity.imageGeneration
    manifestSequence := identity.manifestSequence
    attemptSequence := attemptSequence
    protectedGeneration := paid.generation
    manifestDigest := identity.manifestDigest
    nonce := nonce
    bindingDigest := binding }

/-! ### Acceptance -/

def viewMatchesIdentity (view : EnvelopeView) (identity : BootAttemptIdentity) : Bool :=
  view.slotId == identity.slotId && view.protocolMajor == identity.protocolMajor &&
  view.protocolMinor == identity.protocolMinor && view.policyVersion == identity.policyVersion &&
  view.imageGeneration == identity.imageGeneration &&
  view.manifestSequence == identity.manifestSequence &&
  view.productId.length == identity.productId.size &&
  view.protocolId.length == identity.protocolId.size &&
  bytesEqual view.productId identity.productId.data identity.productId.size &&
  bytesEqual view.protocolId identity.protocolId.data identity.protocolId.size &&
  view.manifestDigest.equal identity.manifestDigest

def protocolMatchesIdentity (protocol : BootProtocol) (identity : BootAttemptIdentity) : Bool :=
  let id := protocol.id.getD []
  let size := min maxProtocolIdBytes (cString id).length
  protocol.isValid && protocol.abiVersion == identity.protocolMajor &&
  identity.protocolMinor == 0 && decide (size < maxProtocolIdBytes) &&
  size == identity.protocolId.size && bytesEqual id identity.protocolId.data size

def acceptRequestIsValid (request : AcceptRequest) : Bool :=
  request.size == acceptRequestSizeOf && request.abiVersion == abiVersion &&
  request.flags == 0 && request.reserved0 == 0 && !request.envelope.isNull &&
  request.envelope.size != 0 && identityIsValid request.identity && reservedZero request.reserved

/-- The envelope, opened and checked against the identity, with the binding it claims. -/
def acceptEnvelope (request : AcceptRequest) :
    Except ConfirmationStatus (EnvelopeView × Digest) := do
  refuse (!acceptRequestIsValid request) .invalidArgument
  let view ← envelopeOpen request.envelope
  refuse (!viewMatchesIdentity view request.identity ||
    !protocolMatchesIdentity request.protocol request.identity) .identity
  let binding ← mapStatus (fun _ => .identity)
    (bindingDigest request.identity view.nonce view.attemptSequence)
  return (view, binding)

/-- The update journal already has the slot active and confirmed. -/
def updateWasConfirmed (update : TransactionSnapshot) (identity : BootAttemptIdentity) : Bool :=
  let entry := update.metadata.slot identity.slotId
  update.metadata.activeSlot == identity.slotId &&
  update.metadata.pendingSlot == Storage.slotNone && entry.state == .confirmed &&
  entry.imageGeneration == identity.imageGeneration &&
  entry.manifestDigest.equal identity.manifestDigest

/-- The protected journal is at this very attempt, open or confirmed. -/
def attemptIsCurrent (current : ProtectedSnapshot) (view : EnvelopeView) (binding : Digest)
    (identity : BootAttemptIdentity) : Bool :=
  current.attemptSequence == view.attemptSequence && current.trialBindingDigest.equal binding &&
  ((current.kind == .trial && current.pendingSequence == identity.manifestSequence) ||
    (current.kind == .confirmed && current.confirmedFloor == identity.manifestSequence))

def policyRequest (request : AcceptRequest) (view : EnvelopeView) : KeyPolicyRequest where
  size := KeyPolicy.requestSizeOf
  abiVersion := KeyPolicy.abiVersion
  mode := request.identity.mode
  usage := .bootConfirmation
  flags := 0
  reserved0 := 0
  keyId := .mem view.keyId
  productDigest := request.identity.productDigest
  rollbackDomainDigest := request.identity.rollbackDomainDigest
  sequence := view.manifestSequence
  reserved := Reserved.none

def signatureCheck (request : AcceptRequest) (view : EnvelopeView) :
    KeyPolicySignatureVerification where
  size := KeyPolicy.verificationSizeOf
  abiVersion := KeyPolicy.abiVersion
  flags := 0
  reserved0 := 0
  policy := some (policyRequest request view)
  provider := some request.signatureProvider
  message := .mem view.authenticatedMessage
  signature := .mem view.signature
  workspace := request.signatureWorkspace
  workspaceSize := request.signatureWorkspaceSize
  reserved := Reserved.none

/-- The key policy authorizes the receipt and the protocol finds it healthy. -/
def acceptReceipt (request : AcceptRequest) (view : EnvelopeView) :
    Except ConfirmationStatus Unit := do
  let _ ← mapStatus (fun _ => .authenticator)
    (KeyPolicy.verify request.keyPolicy (signatureCheck request view))
  refuse (request.protocol.validateBootHealth
    { bytes := view.healthPayload, digest := view.healthPayloadDigest } != 0) .healthRejected

def confirmRequest (request : AcceptRequest) : ConfirmPendingRequest where
  size := Transaction.confirmRequestSizeOf
  abiVersion := Transaction.abiVersion
  flags := 0
  targetSlot := request.identity.slotId
  imageGeneration := request.identity.imageGeneration
  manifestDigest := request.identity.manifestDigest
  journal := request.updateJournal
  observer := request.observer
  reserved := Reserved.none

/-- Confirm both journals, the protected one first. -/
def promote (request : AcceptRequest) (view : EnvelopeView) (binding : Digest)
    (wasConfirmed : Bool) : Act ConfirmationStatus ConfirmationReceipt := do
  let confirmed ← Act.mapError (fun _ => .protectedState)
    (ProtectedState.confirmBound request.protectedJournal request.identity.manifestSequence binding
      view.attemptSequence)
  let result ← Act.mapError (fun _ => .updateState)
    (Transaction.transactionConfirmPending (confirmRequest request))
  return {
    duplicate := wasConfirmed || result.duplicate
    attemptSequence := view.attemptSequence
    protectedGeneration := confirmed.generation
    updateGeneration := result.snapshot.journalGeneration
    activeSlot := result.snapshot.metadata.activeSlot }

/-- Accept a receipt and promote the slot it is about. -/
def accept (request : AcceptRequest) : Act ConfirmationStatus ConfirmationReceipt := do
  let (view, binding) ← Act.ofExcept (acceptEnvelope request)
  let update ← Act.mapError (fun _ => .updateState)
    (Transaction.transactionOpen request.updateJournal)
  let wasConfirmed := updateWasConfirmed update request.identity
  Act.refuseIf (!wasConfirmed && !pendingIdentityMatches update request.identity) .identity
  let current ← Act.mapError (fun _ => .stale)
    (ProtectedState.protectedOpen request.protectedJournal)
  Act.refuseIf (!attemptIsCurrent current view binding request.identity) .stale
  Act.ofExcept (acceptReceipt request view)
  promote request view binding wasConfirmed

end Confirmation

end Ribon
