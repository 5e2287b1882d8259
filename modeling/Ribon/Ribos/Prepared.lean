/-
Authorizing an artifact and preparing it for execution, as prepared.c has them.

Three parties own the memory: the caller, with the artifact it received, the schema and
the helper table; the authorized workspace; and the prepared workspace.  Objects hold
pointers into these, so a pointer is a place here and reading it takes the memory: what
a program executes is what the memory holds where its view points, at the time it is
read.

The authorizer is any function.  It answers with a status and a receipt, and it may
write to the copy that it is shown.
-/
import Ribon.Ribos.Runtime
import Ribon.Ribos.Verification

namespace Ribon.Ribos

open Wire Memo

/-- Where a byte string is kept. -/
inductive BytePlace where
  | raw
  | authorizedCopy
  | preparedCopy
  deriving DecidableEq, Repr, Inhabited

/-- Where a helper table is kept. -/
inductive BindingPlace where
  | caller
  | preparedCopy
  deriving DecidableEq, Repr, Inhabited

/-- What the product's authority fills in when it grants. -/
structure Receipt where
  size : UInt32
  authorizationMajor : UInt16
  authorizationMinor : UInt16
  flags : UInt32
  decision : UInt32
  authorityGeneration : UInt64
  manifestSequence : UInt64
  rollbackFloor : UInt64
  artifactHash : Digest
  schemaDigest : Digest
  helperExecutionDigest : Digest
  keyIdentityDigest : Digest
  policyIdentityDigest : Digest
  reserved : Reserved
  deriving DecidableEq, Repr, Inhabited

structure AuthorizedArtifact where
  magic : UInt64
  major : UInt16
  minor : UInt16
  state : UInt32
  artifact : Option BytePlace
  artifactSize : Nat
  view : ArtifactView
  receipt : Receipt
  artifactBytesDigest : Digest
  receiptDigest : Digest
  deriving DecidableEq, Repr, Inhabited

structure PreparedProgram where
  magic : UInt64
  major : UInt16
  minor : UInt16
  state : UInt32
  artifact : Option BytePlace
  artifactSize : Nat
  /-- The place that the ranges of the view lie in. -/
  viewPlace : BytePlace
  view : ArtifactView
  artifactBytesDigest : Digest
  authorization : Receipt
  authorizationDigest : Digest
  schemaDigest : Digest
  helperExecutionDigest : Digest
  bindingDigest : Digest
  typeSemanticsCount : Nat
  report : VerifierReport
  limits : VmLimits
  helperContract : HelperContract
  bindingPlace : BindingPlace
  deriving DecidableEq, Repr, Inhabited

structure AuthorizedWorkspace where
  object : AuthorizedArtifact
  copy : List UInt8
  deriving Inhabited

structure PreparedWorkspace where
  object : PreparedProgram
  copy : List UInt8
  bindings : List HelperBinding
  typeSemantics : List TypeSemantics
  deriving Inhabited

structure Memory where
  rawArtifact : List UInt8
  schema : ProductSchema
  helperContract : HelperContract
  bindings : List HelperBinding
  authorized : AuthorizedWorkspace
  prepared : PreparedWorkspace

namespace Memory

def bytesAt (memory : Memory) : BytePlace → List UInt8
  | .raw => memory.rawArtifact
  | .authorizedCopy => memory.authorized.copy
  | .preparedCopy => memory.prepared.copy

def bindingsAt (memory : Memory) : BindingPlace → List HelperBinding
  | .caller => memory.bindings
  | .preparedCopy => memory.prepared.bindings

/-- The byte string that the machine executes: what the view of the program lies in. -/
def executed (memory : Memory) : List UInt8 := memory.bytesAt memory.prepared.object.viewPlace

end Memory

/-- The memory that the caller hands over for an object. -/
structure Workspace where
  aligned : Bool
  size : Nat
  deriving DecidableEq, Repr

def sizeAppend (size alignment count : Nat) : Option Nat := do
  let start ← sizeAlign size alignment
  sizeAdd start count

/-! ### Authorization -/

/-- What the authority is shown. -/
structure AuthorizationRequest where
  envelopeFlags : UInt32
  signatureAlgorithm : SignatureAlgorithm
  artifact : List UInt8
  keyId : List UInt8
  signature : List UInt8
  artifactHash : Digest
  schemaDigest : Digest
  deriving DecidableEq, Repr

/-- What the authority does: a status, a receipt, and what it writes over the copy. -/
structure AuthorizationAnswer where
  status : UInt32
  receipt : Receipt
  written : List UInt8
  deriving DecidableEq, Repr

structure Authorizer where
  size : UInt32
  authorizationMajor : UInt16
  authorizationMinor : UInt16
  flags : UInt32
  reserved0 : UInt32
  authorize : Option (AuthorizationRequest → AuthorizationAnswer)
  reserved : Reserved

def authorizationMajor : UInt16 := 1
def authorizationMinor : UInt16 := 0
def authorizerSizeOf : UInt32 := 64
def receiptSizeOf : UInt32 := 232
def authorizedSizeOf : Nat := 992
def programSizeOf : Nat := 1416
def typeSemanticsSizeOf : Nat := 2
def authorizedMagic : UInt64 := 0x5242414155544831
def programMagic : UInt64 := 0x5242505245505631
def programMajor : UInt16 := 1
def programMinor : UInt16 := 0
def stateReady : UInt32 := 1

/-- `RIBOS_ARTIFACT_AUTHORIZATION_GRANTED`. -/
def authorizationGranted : UInt32 := 1

def authorizerValidate (authorizer : Authorizer) :
    Except VmStatus (AuthorizationRequest → AuthorizationAnswer) := do
  refuse (authorizer.authorizationMajor != authorizationMajor ||
    authorizer.authorizationMinor != authorizationMinor) .notAuthorized
  refuse (authorizer.size != authorizerSizeOf) .invalidSize
  refuse (authorizer.flags != 0 || authorizer.reserved0 != 0 || !reservedZero authorizer.reserved)
    .reservedNonzero
  demand authorizer.authorize .invalidDescriptor

def receiptValidate (receipt : Receipt) (view : ArtifactView) : Except VmStatus Unit := do
  refuse (receipt.authorizationMajor != authorizationMajor ||
    receipt.authorizationMinor != authorizationMinor) .notAuthorized
  refuse (receipt.size != receiptSizeOf) .invalidSize
  refuse (receipt.flags != 0 || !reservedZero receipt.reserved) .reservedNonzero
  refuse (receipt.decision != authorizationGranted || receipt.authorityGeneration == 0 ||
    receipt.manifestSequence < receipt.rollbackFloor || receipt.helperExecutionDigest.isZero ||
    receipt.policyIdentityDigest.isZero) .notAuthorized
  refuse (!receipt.artifactHash.equal view.artifactHash ||
    !receipt.schemaDigest.equal view.schemaDigest) .digestMismatch
  refuse (view.envelopeFlags &&& envelopeSigned != 0 && receipt.keyIdentityDigest.isZero)
    .notAuthorized

def receiptIdentity (receipt : Receipt) : Digest :=
  hashOf (paddedText "RIBOS-AUTHORIZATION-RECEIPT-V1" 32 ++ storeU16 receipt.authorizationMajor ++
    storeU16 receipt.authorizationMinor ++ storeU32 receipt.flags ++ storeU32 receipt.decision ++
    storeU64 receipt.authorityGeneration ++ storeU64 receipt.manifestSequence ++
    storeU64 receipt.rollbackFloor ++ receipt.artifactHash.1 ++ receipt.schemaDigest.1 ++
    receipt.helperExecutionDigest.1 ++ receipt.keyIdentityDigest.1 ++
    receipt.policyIdentityDigest.1)

def authorizedWorkspaceSize (artifactSize : Nat) : Except VmStatus Nat := do
  refuse (artifactSize < envelopeBytes || artifactSize > artifactMaxBytes) .invalidSize
  let object ← demand (sizeAppend 0 8 authorizedSizeOf) .invalidSize
  demand (sizeAppend object 1 artifactSize) .invalidSize

/-- A range of a byte string. -/
def Span.of (span : Span) (bytes : List UInt8) : List UInt8 :=
  (bytes.drop span.offset).take span.length

def authorizationRequest (copy : List UInt8) (view : ArtifactView) : AuthorizationRequest where
  envelopeFlags := view.envelopeFlags
  signatureAlgorithm := view.signatureAlgorithm
  artifact := copy
  keyId := view.keyId.of copy
  signature := view.signature.of copy
  artifactHash := view.artifactHash
  schemaDigest := view.schemaDigest

def authorizeArtifact (authorizer : Authorizer) (workspace : Workspace) (memory : Memory) :
    Except VmStatus Memory := do
  let authorize ← authorizerValidate authorizer
  let required ← authorizedWorkspaceSize memory.rawArtifact.length
  refuse (!workspace.aligned) .invalidArgument
  refuse (workspace.size < required) .arenaTooSmall
  let copy := memory.rawArtifact
  let view ← mapStatus (fun _ => .notAuthorized) (artifactOpen copy)
  let request := authorizationRequest copy view
  let answer := authorize request
  refuse (answer.status != 0) .notAuthorized
  -- The callback has seen the copy in the workspace, so the copy is opened again.
  let copyAfter := patch copy 0 answer.written
  let viewAfter ← mapStatus (fun _ => .digestMismatch) (artifactOpen copyAfter)
  refuse (!viewAfter.artifactHash.equal request.artifactHash ||
    !viewAfter.schemaDigest.equal request.schemaDigest) .digestMismatch
  receiptValidate answer.receipt viewAfter
  return { memory with
    authorized :=
      { copy := copyAfter
        object :=
          { magic := authorizedMagic
            major := authorizationMajor
            minor := authorizationMinor
            state := stateReady
            artifact := some .authorizedCopy
            artifactSize := copyAfter.length
            view := viewAfter
            receipt := answer.receipt
            artifactBytesDigest := hashOf copyAfter
            receiptDigest := receiptIdentity answer.receipt } } }

/-- Check the seal of an authorized artifact; the bytes that it points to. -/
def authorizedArtifactValidate (memory : Memory) : Except VmStatus (List UInt8) := do
  let authorized := memory.authorized.object
  refuse (authorized.magic != authorizedMagic || authorized.major != authorizationMajor ||
    authorized.minor != authorizationMinor || authorized.state != stateReady) .notAuthorized
  let place ← demand authorized.artifact .notAuthorized
  refuse (authorized.artifactSize < envelopeBytes || authorized.artifactSize > artifactMaxBytes)
    .notAuthorized
  let artifact := (memory.bytesAt place).take authorized.artifactSize
  let view ← mapStatus (fun _ => .notAuthorized) (artifactOpen artifact)
  receiptValidate authorized.receipt view
  refuse (!(hashOf artifact).equal authorized.artifactBytesDigest ||
    !(receiptIdentity authorized.receipt).equal authorized.receiptDigest) .digestMismatch
  return artifact

/-! ### Helpers and limits -/

/-- The transition that the schema of a helper calls for. -/
def expectedTransition (schema : ProductSchema) (helper : SchemaHelper) : UInt32 :=
  if helper.isTerminal then
    if helper.hasTransition then transitionTerminalConsume else transitionNone
  else if helper.hasTransition then
    if helper.resultType == text "Unit" then transitionConsume else transitionReplace
  else if (schemaFindType schema helper.resultType).any (fun type => type.ownership != .copy) then
    transitionCreate
  else transitionNone

/-- A consumed parameter is the one that the transition names, and it is an owned handle. -/
def consumedParameterIsValid (schema : ProductSchema) (helper : SchemaHelper)
    (index : Nat) (parameter : SchemaParameter) : Bool :=
  parameter.mode != .consume ||
    helper.hasTransition && helper.transitionParameter.toNat == index &&
      (schemaFindType schema parameter.type).any fun type =>
        type.typeClass == .opaqueHandle && type.ownership != .copy

def validateBinding (schema : ProductSchema) (execution : HelperExecution) :
    Except VmStatus Unit := do
  let helper ← demand (schemaHelperById schema execution.stableId) .invalidDescriptor
  refuse (execution.requiredCapabilities != helper.capabilities) .invalidDescriptor
  refuse (!(helper.parameters.zipIdx.all fun entry =>
    consumedParameterIsValid schema helper entry.2 entry.1)) .invalidDescriptor
  let transition := expectedTransition schema helper
  let parameter :=
    if transition == transitionConsume || transition == transitionReplace ||
        transition == transitionTerminalConsume then
      helper.transitionParameter
    else invalidId
  refuse (execution.handleTransition != transition || execution.transitionParameter != parameter ||
    helper.isTerminal != (execution.effect == effectTerminal)) .invalidDescriptor

/-- An import of the artifact has a binding with its stable id and its capabilities. -/
def importIsBound (artifact : List UInt8) (imports : SectionView) (bindings : List HelperBinding)
    (index : Nat) : Bool :=
  let row := artifact.drop (imports.data.offset + index * imports.rowSize)
  bindings.any fun binding =>
    binding.execution.stableId == loadU32 row &&
      binding.execution.requiredCapabilities == loadU32 (row.drop 4)

def validateHelperSchema (schema : ProductSchema) (bindings : List HelperBinding)
    (artifact : List UInt8) (view : ArtifactView) : Except VmStatus Unit := do
  bindings.forM fun binding => validateBinding schema binding.execution
  let imports ← demand (findSection view.sections .helperImports) .invalidDescriptor
  refuse (!((List.range imports.count).all (importIsBound artifact imports bindings)))
    .invalidDescriptor

def validateLimits (limits : VmLimits) (view : ArtifactView) (report : VerifierReport) :
    Except VmStatus Unit := do
  limitsValidate limits
  refuse (limits.maximumInstructions < report.recomputedInstructionUpperBound ||
    limits.maximumInstructions > view.instructionBudget ||
    limits.maximumHelperCalls < report.recomputedHelperUpperBound ||
    limits.maximumHelperCalls > view.helperBudget ||
    limits.maximumStackBytes < report.recomputedStackBytes ||
    limits.maximumCallDepth < report.recomputedCallDepth) .limitExceeded

/-- The identity of everything a program is bound to. -/
def bindingIdentity (view : ArtifactView) (helperDigest : Digest) (limits : VmLimits)
    (typeSemantics : List TypeSemantics) : Digest :=
  hashOf (paddedText "RIBOS-PREPARED-BINDING-V1" 32 ++ view.artifactHash.1 ++
    view.schemaDigest.1 ++ helperDigest.1 ++ storeU16 runtimeAbiMajor ++ storeU16 runtimeAbiMinor ++
    storeU32 limits.flags ++ storeU64 limits.maximumInstructions ++
    storeU64 limits.maximumHelperCalls ++ storeU64 limits.maximumStackBytes ++
    storeU64 limits.maximumArenaBytes ++ storeU64 limits.maximumInputBytes ++
    storeU64 limits.maximumOutputBytes ++ storeU64 limits.maximumOperations ++
    storeU64 limits.maximumPolls ++ storeU64 limits.maximumExecutionDurationNs ++
    storeU64 limits.maximumHelperDurationNs ++ storeU32 limits.maximumCallDepth ++
    storeU32 limits.maximumHandles ++ storeU32 limits.maximumTraceRecords ++
    storeU32 (UInt32.ofNat typeSemantics.length) ++
    (typeSemantics.map fun row => storeU32 row.ownership.wire ++
      storeU32 ((row.schemaTypeClass.map SchemaTypeClass.wire).getD invalidId)).flatten)

/-! ### Preparation -/

def preparedWorkspaceSize (passes : Passes) (memory : Memory) : Except VmStatus Nat := do
  let artifact ← authorizedArtifactValidate memory
  helperContractValidate memory.helperContract memory.bindings
  let types ← demand (findSection memory.authorized.object.view.sections .types) .invalidSize
  let bindingBytes ← demand
    (sizeMultiply memory.helperContract.bindingCount.toNat bindingSizeOf) .invalidSize
  let semanticsBytes ← demand (sizeMultiply types.count typeSemanticsSizeOf) .invalidSize
  let verifierSize ← demand (verifierWorkspaceSize passes artifact) .invalidSize
  let object ← demand (sizeAppend 0 8 programSizeOf) .invalidSize
  let withArtifact ← demand (sizeAppend object 1 artifact.length) .invalidSize
  let withBindings ← demand (sizeAppend withArtifact 8 bindingBytes) .invalidSize
  let withSemantics ← demand (sizeAppend withBindings 1 semanticsBytes) .invalidSize
  demand (sizeAppend withSemantics 8 verifierSize) .invalidSize

/-- The table of the types of an artifact, which must have as many rows as the caller counted. -/
def preparedTypeSemantics (artifact : List UInt8) (view : ArtifactView) (schema : ProductSchema)
    (count : Nat) : Option (List TypeSemantics) := do
  let types ← findSection view.sections .types
  let shapes ← findSection view.sections .shapes
  if count = types.count then buildTypeSemantics ⟨artifact, types, shapes, schema⟩ else none

def prepareProgram (passes : Passes) (limits : VmLimits) (workspace : Workspace)
    (memory : Memory) : Except VmStatus Memory := do
  let authorized := memory.authorized.object
  let artifact ← authorizedArtifactValidate memory
  let schemaDigest ← demand (schemaComputeIdentity memory.schema) .invalidDescriptor
  refuse (!schemaDigest.equal authorized.view.schemaDigest ||
    !schemaDigest.equal authorized.receipt.schemaDigest) .digestMismatch
  let required ← preparedWorkspaceSize passes memory
  refuse (!workspace.aligned) .invalidArgument
  refuse (workspace.size < required) .arenaTooSmall
  let types ← demand (findSection authorized.view.sections .types) .notPrepared
  let verifierSize ← demand (verifierWorkspaceSize passes artifact) .notPrepared
  let view ← mapStatus (fun _ => .notPrepared) (artifactOpen artifact)
  refuse (!(hashOf artifact).equal authorized.artifactBytesDigest) .digestMismatch
  let _ ← mapStatus (fun _ => VmStatus.notPrepared)
    (verifyArtifact passes false artifact memory.schema verifierSize)
  let (report, _) ← mapStatus (fun _ => VmStatus.notPrepared)
    (verifyArtifact passes true artifact memory.schema verifierSize)
  let schemaDigestAfter ← demand (schemaComputeIdentity memory.schema) .digestMismatch
  refuse (!schemaDigest.equal schemaDigestAfter) .digestMismatch
  let typeSemantics ← demand (preparedTypeSemantics artifact view memory.schema types.count)
    .invalidDescriptor
  let helperDigest ← helperContractComputeIdentity memory.helperContract memory.bindings
  refuse (!helperDigest.equal memory.helperContract.digest ||
    !helperDigest.equal authorized.receipt.helperExecutionDigest) .digestMismatch
  let bindings := contractBindings memory.helperContract memory.bindings
  validateHelperSchema memory.schema bindings artifact view
  let copiedDigest ← mapStatus (fun _ => VmStatus.digestMismatch)
    (helperContractComputeIdentity memory.helperContract bindings)
  refuse (!helperDigest.equal copiedDigest) .digestMismatch
  validateLimits limits view report
  return { memory with
    prepared :=
      { copy := artifact
        bindings := bindings
        typeSemantics := typeSemantics
        object :=
          { magic := programMagic
            major := programMajor
            minor := programMinor
            state := stateReady
            artifact := some .preparedCopy
            artifactSize := artifact.length
            viewPlace := .preparedCopy
            view := view
            artifactBytesDigest := hashOf artifact
            authorization := authorized.receipt
            authorizationDigest := authorized.receiptDigest
            schemaDigest := schemaDigest
            helperExecutionDigest := helperDigest
            bindingDigest := bindingIdentity view helperDigest limits typeSemantics
            typeSemanticsCount := types.count
            report := report
            limits := limits
            helperContract := memory.helperContract
            bindingPlace := .preparedCopy } } }

/-- The check that every use of a prepared program makes first. -/
def preparedProgramValidate (memory : Memory) : Except VmStatus Unit := do
  let program := memory.prepared.object
  refuse (program.magic != programMagic || program.major != programMajor ||
    program.minor != programMinor || program.state != stateReady) .notPrepared
  let place ← demand program.artifact .notPrepared
  refuse (program.artifactSize < envelopeBytes) .notPrepared
  let artifact := (memory.bytesAt place).take program.artifactSize
  let view ← mapStatus (fun _ => .notPrepared) (artifactOpen artifact)
  refuse (!(hashOf artifact).equal program.artifactBytesDigest ||
    !view.schemaDigest.equal program.schemaDigest ||
    !view.artifactHash.equal program.authorization.artifactHash) .digestMismatch
  let types ← demand (findSection view.sections .types) .digestMismatch
  refuse (program.typeSemanticsCount != types.count) .digestMismatch
  receiptValidate program.authorization view
  refuse (!(receiptIdentity program.authorization).equal program.authorizationDigest)
    .digestMismatch
  let helperDigest ← mapStatus (fun _ => VmStatus.digestMismatch)
    (helperContractComputeIdentity program.helperContract (memory.bindingsAt program.bindingPlace))
  refuse (!helperDigest.equal program.helperExecutionDigest ||
    !helperDigest.equal program.helperContract.digest ||
    !helperDigest.equal program.authorization.helperExecutionDigest) .digestMismatch
  validateLimits program.limits view program.report
  refuse (!(bindingIdentity view helperDigest program.limits
    (memory.prepared.typeSemantics.take program.typeSemanticsCount)).equal program.bindingDigest)
    .digestMismatch

end Ribon.Ribos
