/-
The boot transaction: a bounded run from a boot source to the transfer of control.

A transaction goes through its stages in one direction.  Every call looks at the
stage first; a call that fails leaves the stage `failed` and a receipt behind.  What
the services, the protocol, the image parser and the architecture do is asked of
them by callbacks, and a callback may answer anything.
-/
import Ribon.Boot.Placement
import Ribon.Crash.Log
import Ribon.Protocol

namespace Ribon

open Crash Wire

/-- The stages, in the order of their numbers; zero is `capture`. -/
inductive BootStage where
  | capture
  | validateProduct
  | normalizeEnvironment
  | selectSource
  | verifyManifest
  | loadImage
  | prepareProtocol
  | commitAttempt
  | quiesceEnvironment
  | executeTerminal
  | transfer
  | failed
  deriving DecidableEq, Repr, Inhabited

inductive BootFailureReason where
  | none
  | badInput
  | product
  | budget
  | timeout
  | source
  | image
  | protocol
  | commit
  | quiesce
  | terminal
  deriving DecidableEq, Repr, Inhabited

structure BootFailureReceipt where
  stage : BootStage
  reason : BootFailureReason
  providerId : Option (List UInt8)
  consumedInputBytes : UInt64
  consumedOutputBytes : UInt64
  consumedComponents : UInt32
  consumedRetries : UInt32
  deriving DecidableEq, Repr, Inhabited

structure HandoffArtifact where
  size : UInt64
  versionMajor : UInt32
  sectionCount : UInt32
  deriving DecidableEq, Repr, Inhabited

/-- A pointer is given by whether it is there, a structure behind one by its contents. -/
structure BootTransactionInput where
  environment : Option BootEnvironment
  normalizedMemoryMap : Option MutableMemoryMap
  source : Option BootSource
  sourceOffset : UInt64
  sourceSize : UInt64
  payloadBuffer : Bool
  payloadBufferCapacity : UInt64
  sourceName : Option (List UInt8)
  validatedImage : Bool
  directLoadPlan : Option DirectLoadPlan
  handoffBuffer : Bool
  handoffBufferCapacity : UInt64
  handoffArtifact : Option HandoffArtifact
  transitionBuffer : Bool
  transitionBufferPhysicalAddress : UInt64
  transitionBufferCapacity : UInt64
  deriving DecidableEq, Repr, Inhabited

/-- What a prepared boot is made of.  Fields that repeat the load plan are read off
`kernelDirectLoadPlan`. -/
structure BootPlan where
  environment : EnvironmentKind
  environmentFlags : UInt32
  memoryRegionCount : Nat
  normalizedMemoryRegionCount : Nat
  usableMemoryBytes : UInt64
  bootMedia : BootMediaKind
  bootModuleCount : Nat
  deviceTreeAddress : UInt64
  deviceTreeSize : UInt64
  framebufferAddress : UInt64
  commandLine : Option (List UInt8)
  protocolId : Option (List UInt8)
  handoffMajor : UInt32
  expectations : UInt32
  kernelSourceName : Option (List UInt8)
  kernelImage : ValidatedImage
  kernelDirectLoadPlan : Option DirectLoadPlan
  kernelTransitionRootPhysical : UInt64
  kernelTransitionBytes : UInt64
  handoffArtifactSize : UInt64
  handoffArtifactSections : UInt32
  deriving DecidableEq, Repr, Inhabited

namespace BootPlan

def segmentCount (plan : BootPlan) : Nat :=
  plan.kernelDirectLoadPlan.elim 0 DirectLoadPlan.segmentCount

def highEntryVirtualAddress (plan : BootPlan) : UInt64 :=
  plan.kernelDirectLoadPlan.elim 0 DirectLoadPlan.highEntryVirtualAddress

def entryLoadAddress (plan : BootPlan) : UInt64 :=
  plan.kernelDirectLoadPlan.elim 0 DirectLoadPlan.entryLoadAddress

def runtimeEntryAddress (plan : BootPlan) : UInt64 :=
  plan.kernelDirectLoadPlan.elim 0 DirectLoadPlan.runtimeEntryAddress

end BootPlan

inductive LoadOptionsKind where
  | none
  | utf8CommandLine
  | unknown
  deriving DecidableEq, Repr, Inhabited

structure ManagedImageRequest where
  loadOptionsKind : LoadOptionsKind
  loadOptionsSize : UInt32
  loadOptions : Bool
  watchdogTimeoutMs : UInt64
  deriving DecidableEq, Repr, Inhabited

structure TerminalRequest where
  size : UInt32
  abiVersion : UInt32
  kind : TerminalExecutionKind
  reserved : UInt32
  directEntry : EntryInvocation
  managedImage : ManagedImageRequest
  deriving DecidableEq, Repr, Inhabited

namespace TerminalRequest

def sizeOf : UInt32 := 144
def currentAbiVersion : UInt32 := 2

def isValid (request : TerminalRequest) : Bool :=
  let managed := request.managedImage
  let entry := request.directEntry
  request.size == sizeOf && request.abiVersion == currentAbiVersion && request.reserved == 0 &&
  match request.kind with
  | .firmwareManagedImage =>
      entry == default && managed.watchdogTimeoutMs != 0 &&
      ((managed.loadOptionsKind == .none && managed.loadOptionsSize == 0 &&
          !managed.loadOptions) ||
        (managed.loadOptionsKind == .utf8CommandLine && managed.loadOptionsSize != 0 &&
          managed.loadOptions))
  | .directEntry =>
      managed == default && entry.size == Arch.entryInvocationSizeOf &&
      entry.abiVersion == Arch.entryInvocationAbiVersion && entry.entryAddress != 0 &&
      decide (entry.argumentCount ≤ Arch.entryArgumentLimit)
  | .unknown => false

end TerminalRequest

structure BootTransaction where
  size : UInt32
  abiVersion : UInt32
  stage : BootStage
  core : CoreContext
  arch : ArchOps
  protocol : BootProtocol
  imageFormat : ImageFormatOps
  bootSource : ServiceDescriptor
  timer : ServiceDescriptor
  metadata : ServiceDescriptor
  flush : ServiceDescriptor
  quiesce : Option ServiceDescriptor
  terminalLauncher : Option ServiceDescriptor
  environment : BootEnvironment
  source : BootSource
  input : BootTransactionInput
  payload : PayloadImage
  validatedImage : ValidatedImage
  plan : BootPlan
  terminalRequest : TerminalRequest
  preparedEntry : PreparedEntry
  receipt : BootFailureReceipt
  consumedInputBytes : UInt64
  consumedOutputBytes : UInt64
  consumedComponents : UInt32
  consumedRetries : UInt32

/-- A structure and its address; the registry knows an operation table by its address. -/
structure Located (A : Type) where
  address : UInt64
  value : A

namespace Boot

def transactionSizeOf : UInt32 := 1208
inductive HandoffStatus where
  | outOfCapacity
  | other
  deriving DecidableEq, Repr

inductive LaunchStatus where
  | timeout
  | other
  deriving DecidableEq, Repr

/-- What a launcher answers: its status, and whether the receipt is a proper one. -/
structure LaunchAnswer where
  status : LaunchStatus
  receiptSize : UInt32
  receiptAbiVersion : UInt32
  hasResult : Bool
  deriving DecidableEq, Repr

/-- The calls out of a transaction. -/
inductive Callback where
  | now
  | read (source : BootSource) (offset size deadline : UInt64)
  | analyze (payload : PayloadImage) (plan : Option DirectLoadPlan)
  | validateDirectLoad (image : ValidatedImage) (plan : DirectLoadPlan)
  | directHighPageTablePages (plan : Option DirectLoadPlan)
  | prepareDirectHighEntry (plan : Option DirectLoadPlan) (physicalAddress capacity : UInt64)
  | prepareHandoff (plan : BootPlan) (environment : BootEnvironment)
      (regions : List MemoryRegion) (capacity : UInt64)
  | prepareTerminal (plan : BootPlan) (environment : BootEnvironment)
      (handoff : Option HandoffArtifact)
  | prepareEntry (invocation : EntryInvocation)
  | metadataWrite (record : List UInt8)
  | flush (deadline : UInt64)
  | quiesce
  | launch (image : ValidatedImage) (request : ManagedImageRequest)
  | transferPrepared (entry : PreparedEntry)
  | halt

/-- What each may answer.  `none` and `false` stand for every status that is not OK. -/
def Answer : Callback → Type
  | .now => Option UInt64
  | .read .. => Option (List UInt8)
  | .analyze .. => Option (ValidatedImage × DirectLoadPlan)
  | .validateDirectLoad .. => Option DirectLoadPlan
  | .directHighPageTablePages _ => UInt64
  | .prepareDirectHighEntry .. => Option (UInt64 × UInt64)
  | .prepareHandoff .. => Except HandoffStatus HandoffArtifact
  | .prepareTerminal .. => Option TerminalRequest
  | .prepareEntry _ => Option PreparedEntry
  | .metadataWrite _ => Bool
  | .flush _ => Bool
  | .quiesce => Bool
  | .launch .. => LaunchAnswer
  | .transferPrepared _ => Unit
  | .halt => Unit

/-- A call that failed: its status, and the transaction it leaves. -/
structure Failure where
  status : BootStatus
  transaction : BootTransaction

/-- A program of the transaction. -/
abbrev Step := Crash.Act Callback Answer Failure

/-- Fix the failure in the receipt and in the stage. -/
def fail (transaction : BootTransaction) (stage : BootStage) (reason : BootFailureReason)
    (providerId : Option (List UInt8)) (status : BootStatus) : Failure where
  status := status
  transaction := { transaction with
    stage := .failed
    receipt := {
      stage := stage
      reason := reason
      providerId := providerId
      consumedInputBytes := transaction.consumedInputBytes
      consumedOutputBytes := transaction.consumedOutputBytes
      consumedComponents := transaction.consumedComponents
      consumedRetries := transaction.consumedRetries } }

/-- Call out; the answer comes as the type that `Answer` gives. -/
def ask {E : Type} (callback : Callback) : Crash.Act Callback Answer E (Answer callback) :=
  Act.command callback

/-! ### Deadlines -/

structure Deadline where
  startTicks : UInt64
  limitTicks : UInt64
  absoluteTicks : UInt64
  deriving DecidableEq, Repr

/-- Milliseconds in ticks, rounded up; what does not fit is no limit. -/
def limitTicks (requestedMs frequencyHz : UInt64) : UInt64 :=
  if requestedMs == 0 || decide (u64Max / frequencyHz < requestedMs) then u64Max
  else
    let numerator := requestedMs * frequencyHz
    let limit := numerator / 1000 + if numerator % 1000 != 0 then 1 else 0
    if limit == 0 then 1 else limit

def timerFrequency (timer : ServiceDescriptor) : Option UInt64 :=
  match timer.operations with
  | some (.monotonicTimer size abiVersion frequencyHz now) =>
      if size == 32 && abiVersion == serviceAbiVersion && frequencyHz != 0 && now then
        some frequencyHz
      else none
  | _ => none

def deadlineBegin (transaction : BootTransaction) (requestedMs : UInt64) :
    Crash.Act Callback Answer BootStatus Deadline := do
  Act.refuseIf (transaction.timer.operationsSize != 32) .missingCapability
  let frequencyHz ← Act.ofExcept (demand (timerFrequency transaction.timer) .timeout)
  let answer : Option UInt64 ← ask Callback.now
  let start ← Act.ofExcept (demand answer .timeout)
  let limit := limitTicks requestedMs frequencyHz
  return {
    startTicks := start
    limitTicks := limit
    absoluteTicks := if u64Max - limit < start then u64Max else start + limit }

def deadlineEnd (deadline : Deadline) : Crash.Act Callback Answer BootStatus Unit := do
  let answer : Option UInt64 ← ask Callback.now
  let now ← Act.ofExcept (demand answer .timeout)
  Act.refuseIf (decide (now < deadline.startTicks) ||
    decide (deadline.limitTicks < now - deadline.startTicks)) .timeout

/-! ### The plan -/

def transitionPresent (input : BootTransactionInput) : Bool :=
  input.transitionBuffer || input.transitionBufferPhysicalAddress != 0 ||
  input.transitionBufferCapacity != 0

def normalizedRegions (input : BootTransactionInput) : List MemoryRegion :=
  input.normalizedMemoryMap.elim [] MutableMemoryMap.regions

/-- The plan before the transition and the handoff are in it. -/
def candidatePlan (transaction : BootTransaction) : BootPlan where
  environment := transaction.environment.kind
  environmentFlags := transaction.environment.flags
  memoryRegionCount := transaction.environment.memoryMap.length
  normalizedMemoryRegionCount := (normalizedRegions transaction.input).length
  usableMemoryBytes := memoryMapUsableBytes (normalizedRegions transaction.input)
  bootMedia := transaction.environment.bootMedia
  bootModuleCount := transaction.environment.moduleCount
  deviceTreeAddress := transaction.environment.deviceTreeAddress
  deviceTreeSize := transaction.environment.deviceTreeSize
  framebufferAddress := transaction.environment.framebufferAddress
  commandLine := transaction.environment.commandLine.text
  protocolId := transaction.protocol.id
  handoffMajor := transaction.protocol.handoffMajor
  expectations := transaction.protocol.expectations
  kernelSourceName := transaction.payload.sourceName
  kernelImage := transaction.validatedImage
  kernelDirectLoadPlan := transaction.input.directLoadPlan
  kernelTransitionRootPhysical := 0
  kernelTransitionBytes := 0
  handoffArtifactSize := 0
  handoffArtifactSections := 0

def tablePagesOf (transaction : BootTransaction) : Step UInt64 :=
  if transaction.arch.directHighPageTablePages then
    ask (Callback.directHighPageTablePages transaction.input.directLoadPlan)
  else pure (0 : UInt64)

/-- The tables of a direct-high entry, where the caller gave a buffer for them. -/
def prepareTransition (transaction : BootTransaction) (candidate : BootPlan) : Step BootPlan := do
  let input := transaction.input
  if !transitionPresent input then
    return candidate
  let failure := fail transaction .prepareProtocol .protocol
    transaction.arch.descriptor.canonicalName .invalidHandoff
  let pageSize := transaction.arch.descriptor.pageSize
  let tablePages ← tablePagesOf transaction
  Act.refuseIf (!input.transitionBuffer || input.transitionBufferPhysicalAddress == 0 ||
    input.transitionBufferCapacity == 0 || !transaction.arch.prepareDirectHighEntry ||
    tablePages == 0 || decide (u64Max / pageSize < tablePages) ||
    decide (input.transitionBufferCapacity < tablePages * pageSize) ||
    !transitionRangeIsReserved (normalizedRegions input) input.transitionBufferPhysicalAddress
      (tablePages * pageSize)) failure
  let answer : Option (UInt64 × UInt64) ← ask (Callback.prepareDirectHighEntry
    input.directLoadPlan input.transitionBufferPhysicalAddress input.transitionBufferCapacity)
  let (entry, translationRoot) ← Act.ofExcept (demand answer failure)
  Act.refuseIf (entry != candidate.highEntryVirtualAddress ||
    translationRoot != input.transitionBufferPhysicalAddress) failure
  return { candidate with
    kernelTransitionRootPhysical := translationRoot
    kernelTransitionBytes := tablePages * pageSize }

/-- The handoff of a direct entry, within what is left of the output budget. -/
def prepareHandoff (transaction : BootTransaction) (candidate : BootPlan) :
    Step (BootTransaction × BootPlan) := do
  if transaction.protocol.terminalExecution != .directEntry then
    return (transaction, candidate)
  let limit := transaction.core.product.limits.maxHandoffBytes
  let failure := fail transaction .prepareProtocol
  let answer : Except HandoffStatus HandoffArtifact ← ask (Callback.prepareHandoff candidate
    transaction.environment (normalizedRegions transaction.input)
    transaction.input.handoffBufferCapacity)
  match answer with
  | .error .outOfCapacity => throw (failure .budget transaction.protocol.id .budgetExceeded)
  | .error .other => throw (failure .protocol transaction.protocol.id .invalidHandoff)
  | .ok artifact =>
      Act.refuseIf (decide (limit < artifact.size) ||
        decide (transaction.input.handoffBufferCapacity < artifact.size) ||
        decide (limit - artifact.size < transaction.consumedOutputBytes))
        (failure .budget transaction.protocol.id .budgetExceeded)
      return ({ transaction with
          input := { transaction.input with handoffArtifact := some artifact } },
        { candidate with
          handoffArtifactSize := artifact.size
          handoffArtifactSections := artifact.sectionCount })

/-- A refused terminal requirement leaves nothing of it behind. -/
def withoutTerminal (transaction : BootTransaction) : BootTransaction :=
  { transaction with terminalRequest := default, preparedEntry := default }

/-- The terminal requirement of the protocol, sealed by the architecture. -/
def prepareTerminal (transaction : BootTransaction) (candidate : BootPlan) :
    Step BootTransaction := do
  let direct := transaction.protocol.terminalExecution == .directEntry
  let failure := fail (withoutTerminal transaction) .prepareProtocol .protocol
    transaction.protocol.id
  let answer : Option TerminalRequest ← ask (Callback.prepareTerminal candidate
    transaction.environment (if direct then transaction.input.handoffArtifact else none))
  let request ← Act.ofExcept (demand answer (failure .unsupported))
  Act.refuseIf (!request.isValid || request.kind != transaction.protocol.terminalExecution)
    (failure .unsupported)
  let transaction := { transaction with terminalRequest := request }
  if request.kind != .directEntry then
    return transaction
  let answer : Option PreparedEntry ← ask (Callback.prepareEntry request.directEntry)
  let entry ← Act.ofExcept (demand answer (failure .unsupported))
  if request.directEntry.translation != .directHighBridge then
    return { transaction with preparedEntry := entry }
  Act.refuseIf (candidate.kernelTransitionRootPhysical == 0 ||
    candidate.kernelTransitionBytes == 0) (failure .invalidHandoff)
  return { transaction with
    preparedEntry := { entry with translationRoot := candidate.kernelTransitionRootPhysical } }

/-- Make the plan of the frozen payload and the environment. -/
def prepareProtocolPlan (transaction : BootTransaction) : Step BootTransaction := do
  let deadline ← Act.mapError
    (fail transaction .prepareProtocol .timeout (some transaction.timer.id))
    (deadlineBegin transaction transaction.core.product.limits.operationDeadlineMs)
  let candidate ← prepareTransition transaction (candidatePlan transaction)
  let (transaction, candidate) ← prepareHandoff transaction candidate
  Act.mapError (fail transaction .prepareProtocol .timeout transaction.protocol.id)
    (deadlineEnd deadline)
  let transaction ← prepareTerminal transaction candidate
  return { transaction with
    plan := candidate
    consumedOutputBytes := transaction.consumedOutputBytes + candidate.handoffArtifactSize
    stage := .prepareProtocol }

/-! ### The calls -/

def registryContainsOperations (registry : PluginRegistry) (kind : PluginKind)
    (operations : UInt64) : Bool :=
  registry.plugins.any fun plugin => plugin.kind == kind && plugin.operations == operations

/-- The image format can be executed the way the protocol wants. -/
def executionSupported (protocol : BootProtocol) (support : UInt32) : Bool :=
  match protocol.terminalExecution with
  | .directEntry => support &&& imageExecutionDirectEntry != 0
  | .firmwareManagedImage => support &&& imageExecutionFirmwareManaged != 0
  | .unknown => true

def transactionInitialize (core : CoreContext) (arch : Located ArchOps)
    (protocol : Located BootProtocol) (imageFormat : Located ImageFormatOps) :
    Except BootStatus BootTransaction := do
  let formats := (protocol.value.ops.bind BootProtocolOps.selectImageFormats).getD 0
  refuse (!(coreContextValidate core).isOk || !Arch.opsAreValid arch.value ||
    !protocol.value.isValid || !imageFormatOpsAreValid imageFormat.value ||
    !registryContainsOperations core.registry .architecture arch.address ||
    !registryContainsOperations core.registry .bootProtocol protocol.address ||
    !registryContainsOperations core.registry .imageFormat imageFormat.address ||
    formats &&& imageFormat.value.format.mask == 0 ||
    !executionSupported protocol.value imageFormat.value.executionSupport) .badArgument
  let authority := serviceAuthority core.services
  let bootSource ← demand (authority .bootSource) .missingCapability
  let timer ← demand (authority .monotonicTimer) .missingCapability
  let metadata ← demand (authority .persistentMetadata) .missingCapability
  let flush ← demand (authority .storageFlush) .missingCapability
  let quiesce := authority .environmentQuiesce
  let terminalLauncher := authority .terminalImageLaunch
  refuse ((protocol.value.terminalExecution == .directEntry && quiesce.isNone) ||
    (protocol.value.terminalExecution == .firmwareManagedImage && terminalLauncher.isNone))
    .missingCapability
  return {
    size := transactionSizeOf
    abiVersion := coreAbiVersion
    stage := .capture
    core := core
    arch := arch.value
    protocol := protocol.value
    imageFormat := imageFormat.value
    bootSource := bootSource
    timer := timer
    metadata := metadata
    flush := flush
    quiesce := quiesce
    terminalLauncher := terminalLauncher
    environment := default
    source := default
    input := default
    payload := default
    validatedImage := default
    plan := default
    terminalRequest := default
    preparedEntry := default
    receipt := default
    consumedInputBytes := 0
    consumedOutputBytes := 0
    consumedComponents := 0
    consumedRetries := 0 }

/-- The buffers of an input fit the way the protocol ends. -/
def inputFits (protocol : BootProtocol) (input : BootTransactionInput) : Bool :=
  match protocol.terminalExecution with
  | .directEntry =>
      input.directLoadPlan.isSome && input.handoffBuffer && input.handoffBufferCapacity != 0 &&
      input.handoffArtifact.isSome
  | .firmwareManagedImage =>
      input.directLoadPlan.isNone && !input.handoffBuffer && input.handoffBufferCapacity == 0 &&
      input.handoffArtifact.isNone
  | .unknown => true

def inputIsComplete (transaction : BootTransaction) (input : BootTransactionInput) : Bool :=
  transaction.size == transactionSizeOf && transaction.abiVersion == coreAbiVersion &&
  transaction.stage == .capture && input.environment.isSome &&
  input.normalizedMemoryMap.isSome && input.source.isSome && input.sourceSize != 0 &&
  input.payloadBuffer && decide (input.sourceSize ≤ input.payloadBufferCapacity) &&
  input.sourceName.isSome && input.validatedImage &&
  !(transitionPresent input && (!input.transitionBuffer ||
    input.transitionBufferPhysicalAddress == 0 || input.transitionBufferCapacity == 0)) &&
  inputFits transaction.protocol input

/-- An environment is for this architecture and this protocol. -/
def environmentIsAdmitted (transaction : BootTransaction) (environment : BootEnvironment) : Bool :=
  environment.isValid && environment.architecture == transaction.arch.descriptor.id &&
  !(environment.moduleCount != 0 &&
    !transaction.protocol.hasExpectation BootProtocol.allowBootModules) &&
  !(transaction.protocol.hasExpectation BootProtocol.expectMemoryMap &&
    !environment.has bootEnvHasMemoryMap)

/-- The first five stages, which call nobody: input, product, environment and source.  The
arena is the caller's, and may have been used since the transaction was initialized. -/
def capture (transaction : BootTransaction) (arena : Arena) (input : BootTransactionInput) :
    Except Failure BootTransaction := do
  refuse (!inputIsComplete transaction input)
    (fail transaction .capture .badInput none .badArgument)
  let transaction := { transaction with
    input := input, core := { transaction.core with arena := arena } }
  refuse (!(coreContextValidate transaction.core).isOk ||
    transaction.protocol.supportedModes.toBitVec &&& transaction.core.mode.mode.mask == 0)
    (fail transaction .validateProduct .product none .unsupported)
  let incomplete := fail transaction .normalizeEnvironment .badInput none .incompleteEnvironment
  let environment ← demand input.environment incomplete
  refuse (!environmentIsAdmitted transaction environment) incomplete
  let transaction := { transaction with environment := environment }
  let incomplete := fail transaction .normalizeEnvironment .badInput none .incompleteEnvironment
  let destination ← demand input.normalizedMemoryMap incomplete
  let normalized ← mapStatus (fun _ => incomplete)
    (memoryMapNormalize environment.memoryMap destination)
  let transaction := { transaction with
    input := { input with normalizedMemoryMap := some normalized } }
  let exceeded := fail transaction .selectSource .budget (some transaction.bootSource.id)
    .budgetExceeded
  let source ← demand input.source exceeded
  refuse (source.kind == .none || decide (source.size < input.sourceOffset) ||
    decide (source.size - input.sourceOffset < input.sourceSize) ||
    decide (transaction.core.product.limits.maxInputBytes < input.sourceSize) ||
    decide (transaction.bootSource.inputBudget < input.sourceSize)) exceeded
  let transaction := { transaction with source := source }
  refuse (input.sourceName == some [])
    (fail transaction .verifyManifest .badInput (some transaction.bootSource.id) .badArgument)
  return transaction

def readOnce (transaction : BootTransaction) (deadline : UInt64) : Step (Option (List UInt8)) :=
  ask (Callback.read transaction.source transaction.input.sourceOffset
    transaction.input.sourceSize deadline)

/-- The read loop: again after an error, as long as a retry is left. -/
def readSource (transaction : BootTransaction) (deadline : UInt64) : Nat →
    Step (BootTransaction × List UInt8)
  | 0 => do
      let answer ← readOnce transaction deadline
      let bytes ← Act.ofExcept (demand answer
        (fail transaction .loadImage .source (some transaction.bootSource.id) .providerFailure))
      return (transaction, bytes)
  | retries + 1 => do
      match ← readOnce transaction deadline with
      | some bytes => return (transaction, bytes)
      | none =>
          readSource { transaction with consumedRetries := transaction.consumedRetries + 1 }
            deadline retries

def sourceReadable (service : ServiceDescriptor) : Bool :=
  match service.operations with
  | some (.bootSource size abiVersion read) =>
      size == 24 && abiVersion == serviceAbiVersion && read
  | _ => false

/-- What the parser found is a valid image of its format, and one that the protocol can end
with. -/
def imageIsAdmitted (transaction : BootTransaction) (image : ValidatedImage) : Bool :=
  validatedImageIsValid image && image.format == transaction.imageFormat.format &&
  image.imageSize == transaction.payload.size &&
  image.executionSupport &&& transaction.imageFormat.executionSupport ==
    image.executionSupport &&
  executionSupported transaction.protocol image.executionSupport

/-- The load plan of a direct entry, placed and checked by the architecture. -/
def placeDirectLoad (transaction : BootTransaction) (image : ValidatedImage)
    (plan : DirectLoadPlan) (failure : Failure) : Step DirectLoadPlan := do
  let placed ← Act.ofExcept (mapStatus (fun _ => failure)
    (applyRelocatablePlacement transaction.core.services plan))
  let answer : Option DirectLoadPlan ← ask (Callback.validateDirectLoad image placed)
  Act.ofExcept (demand answer failure)

/-- Segments and modules stay within the limits of the product. -/
def componentsFit (limits : ResourceLimits) (segments modules : Nat) : Bool :=
  decide (segments ≤ limits.maxLoadSegments.toNat) &&
  decide (segments ≤ limits.maxComponents.toNat) &&
  decide (modules ≤ limits.maxComponents.toNat - segments)

/-- From the bytes of the source to the image and its load plan. -/
def loadImage (transaction : BootTransaction) : Step BootTransaction := do
  let format := (executableFormatName transaction.imageFormat.format).toUTF8.toList
  let failure := fail transaction .loadImage .image (some format) .invalidPayload
  let answer : Option (ValidatedImage × DirectLoadPlan) ← ask (Callback.analyze
    transaction.payload transaction.input.directLoadPlan)
  let (image, plan) ← Act.ofExcept (demand answer failure)
  Act.refuseIf (!imageIsAdmitted transaction image) failure
  let modules := transaction.environment.moduleCount
  match transaction.protocol.terminalExecution with
  | .directEntry =>
      let plan ← placeDirectLoad transaction image plan failure
      let transaction := { transaction with
        input := { transaction.input with directLoadPlan := some plan } }
      Act.refuseIf (!componentsFit transaction.core.product.limits plan.segmentCount modules)
        (fail transaction .loadImage .budget (some format) .budgetExceeded)
      return { transaction with
        consumedComponents := (plan.segmentCount + modules).toUInt32
        validatedImage := image }
  | _ =>
      Act.refuseIf (image.machine != transaction.arch.descriptor.peCoffMachine) failure
      return { transaction with
        consumedComponents := (1 + modules).toUInt32
        validatedImage := image }

/-- From the bytes of the source to the plan. -/
def prepareImage (transaction : BootTransaction) (deadline : Deadline) (bytes : List UInt8) :
    Step BootTransaction := do
  let input := transaction.input
  let transaction := { transaction with
    consumedInputBytes := transaction.consumedInputBytes + input.sourceSize }
  Act.mapError
    (fun _ => fail transaction .loadImage .timeout (some transaction.bootSource.id) .timeout)
    (deadlineEnd deadline)
  let transaction ← loadImage { transaction with
    payload := { data := bytes, size := input.sourceSize, sourceName := input.sourceName } }
  prepareProtocolPlan transaction

/-- Go from the source to the plan. -/
def prepare (transaction : BootTransaction) (arena : Arena) (input : BootTransactionInput) :
    Step BootTransaction := do
  let transaction ← Act.ofExcept (capture transaction arena input)
  let late := fail transaction .loadImage .timeout (some transaction.bootSource.id) .timeout
  Act.refuseIf (!sourceReadable transaction.bootSource) late
  let deadline ← Act.mapError (fun _ => late)
    (deadlineBegin transaction transaction.bootSource.deadlineMs)
  let (transaction, bytes) ← readSource transaction deadline.absoluteTicks
    (transaction.core.product.limits.maxRetries.toNat - transaction.consumedRetries.toNat)
  prepareImage transaction deadline bytes

/-- The attempt record: magic, stage, protocol major, and four numbers of the plan. -/
def attemptRecord (transaction : BootTransaction) : List UInt8 :=
  [0x52, 0x42, 0x41, 0x31, 7, transaction.protocol.handoffMajor.toUInt8, 0, 0] ++
  storeU64 transaction.consumedInputBytes ++
  storeU64 transaction.plan.handoffArtifactSize ++
  storeU64 transaction.plan.entryLoadAddress ++
  storeU64 transaction.plan.runtimeEntryAddress

def metadataWritable (service : ServiceDescriptor) : Bool :=
  match service.operations with
  | some (.persistentMetadata size abiVersion read write) =>
      size == 32 && abiVersion == serviceAbiVersion && read && write
  | _ => false

def flushable (service : ServiceDescriptor) : Bool :=
  match service.operations with
  | some (.storageFlush size abiVersion flush) =>
      size == 24 && abiVersion == serviceAbiVersion && flush
  | _ => false

/-- Make the attempt durable: write the record, then flush. -/
def commitAttempt (transaction : BootTransaction) : Step BootTransaction := do
  Act.refuseIf (transaction.stage != .prepareProtocol)
    (fail transaction .commitAttempt .badInput none .badState)
  let failure := fail transaction .commitAttempt .commit (some transaction.metadata.id)
    .providerFailure
  Act.refuseIf (!metadataWritable transaction.metadata || !flushable transaction.flush) failure
  let deadline ← Act.mapError (fun _ => failure)
    (deadlineBegin transaction transaction.metadata.deadlineMs)
  let written : Bool ← ask (Callback.metadataWrite (attemptRecord transaction))
  Act.refuseIf (!written) failure
  let flushed : Bool ← ask (Callback.flush deadline.absoluteTicks)
  Act.refuseIf (!flushed) failure
  Act.mapError (fun _ => failure) (deadlineEnd deadline)
  return { transaction with stage := .commitAttempt }

/-- Make the plan again, of a newer environment. -/
def refreshAfterCommit (transaction : BootTransaction) (environment : BootEnvironment) :
    Step BootTransaction := do
  let failure := fail transaction .commitAttempt .badInput none .incompleteEnvironment
  Act.refuseIf (transaction.stage != .commitAttempt ||
    transaction.terminalRequest.kind != .directEntry || !environment.isValid ||
    environment.architecture != transaction.arch.descriptor.id) failure
  let destination ← Act.ofExcept (demand transaction.input.normalizedMemoryMap failure)
  let normalized ← Act.ofExcept (mapStatus (fun _ => failure)
    (memoryMapNormalize environment.memoryMap destination))
  let transaction ← prepareProtocolPlan { transaction with
    environment := environment
    input := { transaction.input with normalizedMemoryMap := some normalized } }
  return { transaction with stage := .commitAttempt }

def quiescable (service : ServiceDescriptor) : Bool :=
  match service.operations with
  | some (.environmentQuiesce size abiVersion quiesce) =>
      size == 24 && abiVersion == serviceAbiVersion && quiesce
  | _ => false

/-- Close the environment. -/
def quiesceEnvironment (transaction : BootTransaction) : Step BootTransaction := do
  Act.refuseIf (transaction.stage != .commitAttempt)
    (fail transaction .quiesceEnvironment .badInput none .badState)
  Act.refuseIf (transaction.terminalRequest.kind != .directEntry)
    (fail transaction .executeTerminal .terminal transaction.protocol.id .unsupported)
  let failure := fail transaction .quiesceEnvironment .quiesce
    (transaction.quiesce.map ServiceDescriptor.id) .providerFailure
  Act.refuseIf (!transaction.quiesce.any quiescable) failure
  let closed : Bool ← ask Callback.quiesce
  Act.refuseIf (!closed) failure
  return { transaction with stage := .quiesceEnvironment }

def launchable (service : ServiceDescriptor) : Bool :=
  match service.operations with
  | some (.terminalImageLaunch size abiVersion launch) =>
      size == 24 && abiVersion == serviceAbiVersion && launch
  | _ => false

/-- A receipt that is not a proper one counts as an I/O error. -/
def launchStatus (answer : LaunchAnswer) : BootStatus :=
  if answer.receiptSize != 32 || answer.receiptAbiVersion != serviceAbiVersion ||
      !answer.hasResult then .providerFailure
  else
    match answer.status with
    | .timeout => .timeout
    | .other => .providerFailure

/-- Give the image to the launcher.  A launch that comes back has failed. -/
def executeTerminal (transaction : BootTransaction) : Step BootTransaction := do
  Act.refuseIf (transaction.stage != .commitAttempt ||
    transaction.terminalRequest.kind != .firmwareManagedImage ||
    transaction.terminalLauncher.isNone)
    (fail transaction .executeTerminal .badInput none .badState)
  let failure := fail transaction .executeTerminal .terminal
    (transaction.terminalLauncher.map ServiceDescriptor.id)
  Act.refuseIf (!transaction.terminalLauncher.any launchable) (failure .providerFailure)
  let answer : LaunchAnswer ← ask (Callback.launch transaction.validatedImage
    transaction.terminalRequest.managedImage)
  throw (failure (launchStatus answer))

def halt : Prog Callback Answer Unit := Prog.command Callback.halt

/-- Leave for the entry, or halt; control does not come back either way. -/
def transfer (transaction : BootTransaction) : Prog Callback Answer Unit :=
  if transaction.stage != .quiesceEnvironment ||
      transaction.terminalRequest.kind != .directEntry ||
      transaction.preparedEntry.invocation.size != Arch.entryInvocationSizeOf then halt
  else .call (Callback.transferPrepared transaction.preparedEntry) fun _ => halt

end Boot

end Ribon
