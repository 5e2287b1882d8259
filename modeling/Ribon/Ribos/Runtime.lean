/-
The descriptors of the runtime that a program is prepared against, as runtime.h has
them: the limits of an execution and the table of helper bindings, with their checks
and the identity of the table.

A callback is an address, zero for a null pointer; the identity of the table leaves it
out.
-/
import Ribon.Ribos.Artifact

namespace Ribon.Ribos

open Wire

inductive VmStatus where
  | invalidArgument
  | unsupportedRuntimeAbi
  | unsupportedHelperAbi
  | invalidSize
  | reservedNonzero
  | invalidDescriptor
  | invalidState
  | digestMismatch
  | limitExceeded
  | notAuthorized
  | notPrepared
  | arenaTooSmall
  | embedderRejected
  | alreadyConsumed
  | internalError
  deriving DecidableEq, Repr

structure VmLimits where
  size : UInt32
  runtimeAbiMajor : UInt16
  runtimeAbiMinor : UInt16
  flags : UInt32
  reserved0 : UInt32
  maximumInstructions : UInt64
  maximumHelperCalls : UInt64
  maximumStackBytes : UInt64
  maximumArenaBytes : UInt64
  maximumInputBytes : UInt64
  maximumOutputBytes : UInt64
  maximumOperations : UInt64
  maximumPolls : UInt64
  maximumExecutionDurationNs : UInt64
  maximumHelperDurationNs : UInt64
  maximumCallDepth : UInt32
  maximumHandles : UInt32
  maximumTraceRecords : UInt32
  reserved1 : UInt32
  reserved : Reserved
  deriving DecidableEq, Repr, Inhabited

def limitsSizeOf : UInt32 := 144
def runtimeAbiMajor : UInt16 := 1
def runtimeAbiMinor : UInt16 := 0

def limitsValidate (limits : VmLimits) : Except VmStatus Unit := do
  refuse (limits.runtimeAbiMajor != runtimeAbiMajor || limits.runtimeAbiMinor != runtimeAbiMinor)
    .unsupportedRuntimeAbi
  refuse (limits.size != limitsSizeOf) .invalidSize
  refuse (limits.flags != 0 || limits.reserved0 != 0 || limits.reserved1 != 0 ||
    !reservedZero limits.reserved) .reservedNonzero
  refuse (limits.maximumInstructions == 0 || limits.maximumHelperCalls == 0 ||
    limits.maximumStackBytes == 0 || limits.maximumArenaBytes < limits.maximumStackBytes ||
    limits.maximumOperations < limits.maximumHelperCalls ||
    limits.maximumExecutionDurationNs == 0 || limits.maximumHelperDurationNs == 0 ||
    limits.maximumHelperDurationNs > limits.maximumExecutionDurationNs ||
    limits.maximumCallDepth == 0) .invalidDescriptor

/-! ### Helper bindings -/

/-- How a helper runs on the target; effects and transitions are the wire values of runtime.h. -/
structure HelperExecution where
  size : UInt32
  contractMajor : UInt16
  contractMinor : UInt16
  stableId : UInt32
  flags : UInt32
  requiredCapabilities : UInt32
  effect : UInt32
  executionMode : UInt32
  durability : UInt32
  handleTransition : UInt32
  transitionParameter : UInt32
  reserved0 : UInt32
  allowedModeMask : UInt64
  allowedPhaseMask : UInt64
  maximumInputBytes : UInt64
  maximumOutputBytes : UInt64
  maximumOperations : UInt64
  maximumPolls : UInt64
  maximumDurationNs : UInt64
  reserved : Reserved
  deriving DecidableEq, Repr

structure HelperBinding where
  execution : HelperExecution
  invoke : UInt64
  deriving DecidableEq, Repr

/-- The header of the helper table; the bindings are an array of their own. -/
structure HelperContract where
  size : UInt32
  contractMajor : UInt16
  contractMinor : UInt16
  flags : UInt32
  bindingCount : UInt32
  digest : Digest
  reserved : Reserved
  deriving DecidableEq, Repr, Inhabited

def executionSizeOf : UInt32 := 136
def bindingSizeOf : Nat := 144
def contractSizeOf : UInt32 := 88
def helperExecutionMajor : UInt16 := 1
def helperExecutionMinor : UInt16 := 0
def maxHelperBindings : UInt32 := 256

def effectPure : UInt32 := 1
def effectEphemeral : UInt32 := 2
def effectJournaled : UInt32 := 3
def effectTerminal : UInt32 := 4
def executionSynchronous : UInt32 := 1
def transitionNone : UInt32 := 0
def transitionCreate : UInt32 := 1
def transitionConsume : UInt32 := 2
def transitionReplace : UInt32 := 3
def transitionTerminalConsume : UInt32 := 4

/-- The durability that an effect leaves. -/
def expectedDurability (effect : UInt32) : UInt32 :=
  if effect == effectEphemeral then 1
  else if effect == effectJournaled then 2
  else if effect == effectTerminal then 3
  else 0

def helperExecutionValidate (execution : HelperExecution) : Except VmStatus Unit := do
  refuse (execution.contractMajor != helperExecutionMajor ||
    execution.contractMinor != helperExecutionMinor) .unsupportedHelperAbi
  refuse (execution.size != executionSizeOf) .invalidSize
  refuse (execution.flags != 0 || execution.reserved0 != 0 || !reservedZero execution.reserved)
    .reservedNonzero
  refuse (execution.stableId == invalidId || execution.requiredCapabilities == 0 ||
    execution.effect < effectPure || execution.effect > effectTerminal ||
    execution.executionMode != executionSynchronous || execution.allowedModeMask == 0 ||
    execution.allowedPhaseMask == 0 || execution.maximumOperations == 0 ||
    execution.maximumDurationNs == 0 || execution.handleTransition > transitionTerminalConsume)
    .invalidDescriptor
  refuse (execution.durability != expectedDurability execution.effect) .invalidDescriptor
  if execution.handleTransition == transitionNone || execution.handleTransition == transitionCreate
  then refuse (execution.transitionParameter != invalidId) .invalidDescriptor
  else refuse (execution.transitionParameter ≥ 4) .invalidDescriptor

/-- The bindings from a position on, behind the stable id of the one before. -/
def bindingsValidate : Option UInt32 → List HelperBinding → Except VmStatus Unit
  | _, [] => .ok ()
  | previous, binding :: rest => do
    helperExecutionValidate binding.execution
    refuse (binding.invoke == 0 || previous.any (fun id => id ≥ binding.execution.stableId))
      .invalidDescriptor
    bindingsValidate (some binding.execution.stableId) rest

/-- The bindings that the header counts. -/
def contractBindings (contract : HelperContract) (bindings : List HelperBinding) :
    List HelperBinding :=
  bindings.take contract.bindingCount.toNat

def helperContractValidate (contract : HelperContract) (bindings : List HelperBinding) :
    Except VmStatus Unit := do
  refuse (contract.contractMajor != helperExecutionMajor ||
    contract.contractMinor != helperExecutionMinor) .unsupportedHelperAbi
  refuse (contract.size != contractSizeOf) .invalidSize
  refuse (contract.flags != 0 || !reservedZero contract.reserved) .reservedNonzero
  refuse (contract.bindingCount == 0 || contract.bindingCount > maxHelperBindings ||
    contract.digest.isZero) .invalidDescriptor
  bindingsValidate none (contractBindings contract bindings)

/-- The fields of a descriptor that its identity covers. -/
def executionFields (execution : HelperExecution) : List UInt8 :=
  storeU32 execution.stableId ++ storeU32 execution.flags ++
    storeU32 execution.requiredCapabilities ++ storeU32 execution.effect ++
    storeU32 execution.executionMode ++ storeU32 execution.durability ++
    storeU32 execution.handleTransition ++ storeU32 execution.transitionParameter ++
    storeU64 execution.allowedModeMask ++ storeU64 execution.allowedPhaseMask ++
    storeU64 execution.maximumInputBytes ++ storeU64 execution.maximumOutputBytes ++
    storeU64 execution.maximumOperations ++ storeU64 execution.maximumPolls ++
    storeU64 execution.maximumDurationNs

/-- The digest of a whole byte string. -/
def hashOf (bytes : List UInt8) : Digest := sha256 bytes bytes.length

/-- A digest that is not zero, which the check of a table without an identity is given. -/
def placeholderDigest : Digest := ⟨1 :: List.replicate 31 0, by simp⟩

def helperContractComputeIdentity (contract : HelperContract) (bindings : List HelperBinding) :
    Except VmStatus Digest := do
  helperContractValidate { contract with digest := placeholderDigest } bindings
  return hashOf (paddedText "RIBOS-HELPER-EXECUTION-V1" 32 ++ storeU16 contract.contractMajor ++
    storeU16 contract.contractMinor ++ storeU32 contract.bindingCount ++
    ((contractBindings contract bindings).map fun binding =>
      executionFields binding.execution).flatten)

end Ribon.Ribos
