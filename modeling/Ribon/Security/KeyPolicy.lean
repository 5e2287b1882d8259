/-
The product key policy: a sorted table of key records, each with the modes,
usages, rollback domains and sequences it may sign for, and each but the roots
delegated by another record of the table.

A request is authorized when the record of its key and every issuer up to a root
allows it.  A signature is verified only after that, with the key of the record.
-/
import Ribon.Security.Signature

namespace Ribon

open Wire

inductive KeyPolicyMode where
  | invalid
  | normal
  | recovery
  | provisioning
  | diagnostic
  deriving DecidableEq, Repr

namespace KeyPolicyMode

def code : KeyPolicyMode → UInt16
  | .invalid => 0
  | .normal => 1
  | .recovery => 2
  | .provisioning => 3
  | .diagnostic => 4

/-- The mode of a wire value; every unknown value is invalid. -/
def ofCode (value : UInt16) : KeyPolicyMode :=
  if value = 1 then .normal
  else if value = 2 then .recovery
  else if value = 3 then .provisioning
  else if value = 4 then .diagnostic
  else .invalid

end KeyPolicyMode

inductive KeyPolicyUsage where
  | invalid
  | policyNormal
  | policyRecovery
  | policyProvisioning
  | policyDiagnostic
  | updateManifest
  | bootImage
  | bootConfirmation
  deriving DecidableEq, Repr

def KeyPolicyUsage.code : KeyPolicyUsage → UInt16
  | .invalid => 0
  | .policyNormal => 1
  | .policyRecovery => 2
  | .policyProvisioning => 3
  | .policyDiagnostic => 4
  | .updateManifest => 5
  | .bootImage => 6
  | .bootConfirmation => 7

inductive KeyPolicyLifecycle where
  | invalid
  | active
  | retiring
  | revoked
  deriving DecidableEq, Repr

def KeyPolicyLifecycle.code : KeyPolicyLifecycle → UInt32
  | .invalid => 0
  | .active => 1
  | .retiring => 2
  | .revoked => 3

/-- Why a key policy refuses; success is the other side of an `Except`. -/
inductive KeyPolicyStatus where
  | invalidArgument
  | invalidStore
  | identityMismatch
  | modeUsageMismatch
  | domainMismatch
  | keyUnknown
  | keyPolicy
  | unsupportedAlgorithm
  | signatureInvalid
  deriving DecidableEq, Repr

structure KeyPolicyRecord where
  size : UInt32
  abiVersion : UInt32
  flags : UInt32
  algorithm : SignatureAlgorithm
  lifecycle : KeyPolicyLifecycle
  modeMask : UInt32
  usageMask : UInt64
  keyId : View
  publicKey : Digest
  keyIdentityDigest : Digest
  productDigest : Digest
  /-- The domain table, whose length is the count; `none` is the null pointer. -/
  rollbackDomainDigests : Option (List Digest)
  delegationDepth : UInt32
  issuerKeyId : View
  minimumSequence : UInt64
  maximumSequence : UInt64
  reserved : Reserved
  deriving DecidableEq

structure KeyPolicyStore where
  magic : UInt32
  size : UInt32
  abiVersion : UInt32
  flags : UInt32
  id : View
  generation : UInt64
  records : Option (List KeyPolicyRecord)
  reserved0 : UInt32
  canonicalDigest : Digest
  reserved : Reserved
  deriving DecidableEq

structure KeyPolicyRequest where
  size : UInt32
  abiVersion : UInt32
  mode : KeyPolicyMode
  usage : KeyPolicyUsage
  flags : UInt32
  reserved0 : UInt32
  keyId : View
  productDigest : Digest
  rollbackDomainDigest : Digest
  sequence : UInt64
  reserved : Reserved
  deriving DecidableEq

structure KeyPolicyDecision where
  recordIndex : Nat
  delegationDepth : Nat
  trustStoreGeneration : UInt64
  keyIdentityDigest : Digest
  trustStoreDigest : Digest
  deriving DecidableEq

structure KeyPolicySignatureVerification where
  size : UInt32
  abiVersion : UInt32
  flags : UInt32
  reserved0 : UInt32
  policy : Option KeyPolicyRequest
  provider : Option SignatureProvider
  message : View
  signature : View
  workspace : UInt64
  workspaceSize : UInt64
  reserved : Reserved

namespace KeyPolicy

def storeMagic : UInt32 := 0x52424b50
def abiVersion : UInt32 := 1
def recordSizeOf : UInt32 := 224
def storeSizeOf : UInt32 := 120
def requestSizeOf : UInt32 := 144
def verificationSizeOf : UInt32 := 112
def maxRecords : Nat := 32
def maxDomains : Nat := 4
def maxDelegationEdges : Nat := 2
def maxKeyIdBytes : Nat := 64
def recordRoot : UInt32 := 1
def allModeMask : UInt32 := 0x0f
def allUsageMask : UInt64 := 0x7f

/-- Byte order of two ids, the shorter one first where one starts the other. -/
def idCompare : List UInt8 → List UInt8 → Ordering
  | [], [] => .eq
  | [], _ :: _ => .lt
  | _ :: _, [] => .gt
  | l :: left, r :: right =>
      if l < r then .lt else if r < l then .gt else idCompare left right

def idIsValid (id : View) : Bool :=
  !id.isNull && id.size != 0 && decide (id.size ≤ maxKeyIdBytes) && id.data.all (· != 0)

def KeyPolicyRecord.isRoot (record : KeyPolicyRecord) : Bool := record.flags &&& recordRoot != 0

/-- Search a sorted domain table, stopping at the first larger entry. -/
def tableHasDomain : List Digest → Digest → Bool
  | [], _ => false
  | entry :: rest, domain =>
      match idCompare entry.1 domain.1 with
      | .eq => true
      | .gt => false
      | .lt => tableHasDomain rest domain

def recordHasDomain (record : KeyPolicyRecord) (domain : Digest) : Bool :=
  tableHasDomain (record.rollbackDomainDigests.getD []) domain

/-- Search the sorted record table for a key, counting from `index`. -/
def findRecordFrom : List KeyPolicyRecord → Nat → List UInt8 → Option (Nat × KeyPolicyRecord)
  | [], _, _ => none
  | record :: rest, index, keyId =>
      match idCompare record.keyId.data keyId with
      | .eq => some (index, record)
      | .gt => none
      | .lt => findRecordFrom rest (index + 1) keyId

def findRecord (records : List KeyPolicyRecord) (keyId : View) : Option (Nat × KeyPolicyRecord) :=
  findRecordFrom records 0 keyId.data

/-- An issuer holds all the authority its child holds. -/
def recordContains (issuer child : KeyPolicyRecord) : Bool :=
  (child.usageMask &&& ~~~ issuer.usageMask) == 0 &&
  (child.modeMask &&& ~~~ issuer.modeMask) == 0 &&
  decide (issuer.minimumSequence ≤ child.minimumSequence) &&
  decide (child.maximumSequence ≤ issuer.maximumSequence) &&
  issuer.productDigest.equal child.productDigest &&
  (child.rollbackDomainDigests.getD []).all (recordHasDomain issuer)

/-! ### The canonical digest of a store -/

def storeDigestMagic : List UInt8 := paddedText "RIBON-KEY-STORE-V1" 32

/-- The bytes one record adds to the digest. -/
def recordBytes (record : KeyPolicyRecord) : List UInt8 :=
  let domains := record.rollbackDomainDigests.getD []
  let issuer :=
    if KeyPolicyRecord.isRoot record then Digest.zero
    else sha256 record.issuerKeyId.data record.issuerKeyId.size
  (sha256 record.keyId.data record.keyId.size).1 ++ record.publicKey.1 ++
    record.keyIdentityDigest.1 ++ record.productDigest.1 ++ storeU64 record.usageMask ++
    storeU32 record.modeMask ++ storeU32 record.lifecycle.code ++ storeU32 record.flags ++
    storeU64 record.minimumSequence ++ storeU64 record.maximumSequence ++ issuer.1 ++
    storeU32 record.delegationDepth ++ storeU32 (UInt32.ofNat domains.length) ++
    domains.flatMap (·.1)

def storeDigest (store : KeyPolicyStore) : Digest :=
  let records := store.records.getD []
  let bytes := storeDigestMagic ++ storeU16 1 ++ storeU16 0 ++
    storeU32 (UInt32.ofNat records.length) ++ storeU64 store.generation ++
    (sha256 store.id.data store.id.size).1 ++ records.flatMap recordBytes
  sha256 bytes bytes.length

/-! ### The shape of records and stores -/

/-- Every entry is nonzero and larger than the one before it. -/
def domainsAreSorted : List Digest → Bool
  | [] => true
  | [domain] => !domain.isZero
  | domain :: next :: rest =>
      !domain.isZero && idCompare domain.1 next.1 == .lt && domainsAreSorted (next :: rest)

def recordShapeIsValid (record : KeyPolicyRecord) : Bool :=
  record.size == recordSizeOf && record.abiVersion == abiVersion &&
  (record.flags &&& ~~~ recordRoot) == 0 &&
  record.algorithm == .ed25519 &&
  record.lifecycle != .invalid &&
  record.modeMask != 0 && (record.modeMask &&& ~~~ allModeMask) == 0 &&
  record.usageMask != 0 && (record.usageMask &&& ~~~ allUsageMask) == 0 &&
  idIsValid record.keyId &&
  !record.publicKey.isZero && !record.keyIdentityDigest.isZero && !record.productDigest.isZero &&
  record.rollbackDomainDigests.isSome &&
  (record.rollbackDomainDigests.getD []).length != 0 &&
  decide ((record.rollbackDomainDigests.getD []).length ≤ maxDomains) &&
  decide (record.minimumSequence ≤ record.maximumSequence) &&
  reservedZero record.reserved &&
  (sha256 record.publicKey.1 32).equal record.keyIdentityDigest &&
  (if KeyPolicyRecord.isRoot record then
    record.issuerKeyId.isNull && record.issuerKeyId.size == 0 && record.delegationDepth == 0
  else
    idIsValid record.issuerKeyId && record.delegationDepth != 0 &&
    decide (record.delegationDepth.toNat ≤ maxDelegationEdges)) &&
  domainsAreSorted (record.rollbackDomainDigests.getD [])

/-- The first loop over the records: shape, strict key order, and no identity twice. -/
def recordsAreValid : List KeyPolicyRecord → List KeyPolicyRecord → Bool
  | _, [] => true
  | before, record :: rest =>
      recordShapeIsValid record &&
      (match before.getLast? with
        | none => true
        | some previous => idCompare previous.keyId.data record.keyId.data == .lt) &&
      before.all (fun candidate => !record.keyIdentityDigest.equal candidate.keyIdentityDigest) &&
      recordsAreValid (before ++ [record]) rest

/-- The edges from a record up to its root, at most `left` of them. -/
def issuerDepth (records : List KeyPolicyRecord) : Nat → Nat → KeyPolicyRecord → Option Nat
  | left, cursorIndex, cursor =>
      if KeyPolicyRecord.isRoot cursor then some 0
      else
        match left with
        | 0 => none
        | left + 1 =>
            match findRecord records cursor.issuerKeyId with
            | none => none
            | some (issuerIndex, issuer) =>
                if issuerIndex = cursorIndex || !recordContains issuer cursor then none
                else (issuerDepth records left issuerIndex issuer).map (· + 1)

def chainsAreValid (records : List KeyPolicyRecord) : Bool :=
  (records.zipIdx).all fun (record, index) =>
    issuerDepth records maxDelegationEdges index record == some record.delegationDepth.toNat

def storeStructureIsValid (store : KeyPolicyStore) : Bool :=
  store.magic == storeMagic && store.size == storeSizeOf && store.abiVersion == abiVersion &&
  store.flags == 0 && idIsValid store.id && store.generation != 0 && store.records.isSome &&
  (store.records.getD []).length != 0 &&
  decide ((store.records.getD []).length ≤ maxRecords) && store.reserved0 == 0 &&
  reservedZero store.reserved && recordsAreValid [] (store.records.getD []) &&
  chainsAreValid (store.records.getD [])

def storeValidate (store : KeyPolicyStore) : Bool :=
  storeStructureIsValid store && !store.canonicalDigest.isZero &&
  (storeDigest store).equal store.canonicalDigest

/-! ### Authorization -/

def requestIsValid (request : KeyPolicyRequest) : Bool :=
  request.size == requestSizeOf && request.abiVersion == abiVersion &&
  request.mode != .invalid && request.usage != .invalid && request.flags == 0 &&
  request.reserved0 == 0 && idIsValid request.keyId && !request.productDigest.isZero &&
  !request.rollbackDomainDigest.isZero && reservedZero request.reserved

def recordAllowsRequest (record : KeyPolicyRecord) (request : KeyPolicyRequest) : Bool :=
  let modeBit : UInt32 := 1 <<< (request.mode.code.toUInt32 - 1)
  let usageBit : UInt64 := 1 <<< (request.usage.code.toUInt64 - 1)
  record.lifecycle != .revoked && (record.modeMask &&& modeBit) != 0 &&
  (record.usageMask &&& usageBit) != 0 && decide (record.minimumSequence ≤ request.sequence) &&
  decide (request.sequence ≤ record.maximumSequence) &&
  record.productDigest.equal request.productDigest &&
  recordHasDomain record request.rollbackDomainDigest

/-- Walk from a record up to its root; every record on the way has to allow the request. -/
def authorizeChain (records : List KeyPolicyRecord) (request : KeyPolicyRequest) :
    Nat → KeyPolicyRecord → Except KeyPolicyStatus Nat
  | left, cursor =>
      if !recordAllowsRequest cursor request then .error .keyPolicy
      else if KeyPolicyRecord.isRoot cursor then .ok 0
      else
        match left with
        | 0 => .error .invalidStore
        | left + 1 =>
            match findRecord records cursor.issuerKeyId with
            | none => .error .invalidStore
            | some (_, issuer) => (authorizeChain records request left issuer).map (· + 1)

/-- The record of the requested key, with its index. -/
def lookup (records : List KeyPolicyRecord) (keyId : View) :
    Except KeyPolicyStatus (Nat × KeyPolicyRecord) :=
  match findRecord records keyId with
  | none => .error .keyUnknown
  | some found => .ok found

def authorize (store : KeyPolicyStore) (request : KeyPolicyRequest) :
    Except KeyPolicyStatus KeyPolicyDecision := do
  let records := store.records.getD []
  refuse (!storeValidate store) .invalidStore
  refuse (!requestIsValid request) .invalidArgument
  refuse (decide (request.usage.code ≤ KeyPolicyUsage.policyDiagnostic.code) &&
    request.mode.code != request.usage.code) .modeUsageMismatch
  let (index, record) ← lookup records request.keyId
  refuse (!record.productDigest.equal request.productDigest) .identityMismatch
  refuse (!recordHasDomain record request.rollbackDomainDigest) .domainMismatch
  let depth ← authorizeChain records request maxDelegationEdges record
  return {
    recordIndex := index
    delegationDepth := depth
    trustStoreGeneration := store.generation
    keyIdentityDigest := record.keyIdentityDigest
    trustStoreDigest := store.canonicalDigest }

def verificationIsValid (verification : KeyPolicySignatureVerification) : Bool :=
  verification.size == verificationSizeOf && verification.abiVersion == abiVersion &&
  verification.flags == 0 && verification.reserved0 == 0 && verification.policy.isSome &&
  verification.provider.isSome &&
  (!verification.message.isNull || verification.message.size == 0) &&
  !verification.signature.isNull && reservedZero verification.reserved

/-- What the signature callback is asked once a record is authorized. -/
def signatureRequest (record : KeyPolicyRecord) (verification : KeyPolicySignatureVerification) :
    SignatureVerification where
  size := SignatureVerification.sizeOf
  abiVersion := signatureProviderAbiVersion
  algorithm := record.algorithm
  flags := 0
  publicKey := .mem record.publicKey.1
  message := verification.message
  signature := verification.signature
  workspace := verification.workspace
  workspaceSize := verification.workspaceSize
  reserved := Reserved.none

/-- Authorize the key first; only then verify the signature with it. -/
def verify (store : KeyPolicyStore) (verification : KeyPolicySignatureVerification) :
    Except KeyPolicyStatus KeyPolicyDecision :=
  match verification.policy, verification.provider with
  | some policy, some provider => do
      refuse (!verificationIsValid verification) .invalidArgument
      let decision ← authorize store policy
      match (store.records.getD [])[decision.recordIndex]? with
      | none => .error .invalidStore
      | some record =>
          refuse (provider.algorithm != record.algorithm) .unsupportedAlgorithm
          let status := signatureVerify provider (signatureRequest record verification)
          refuse (status == SignatureStatus.unsupportedAlgorithm.code) .unsupportedAlgorithm
          refuse (status != SignatureStatus.ok.code) .signatureInvalid
          return decision
  | _, _ => .error .invalidArgument

end KeyPolicy

end Ribon
