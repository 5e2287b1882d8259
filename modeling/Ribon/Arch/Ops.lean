/-
Architecture backends: descriptor and operation table, the entry that a protocol
asks for, and the check that a direct load plan has to pass.
-/
import Ribon.Boot.Environment
import Ribon.Image.Plan

namespace Ribon

structure ArchDescriptor where
  size : UInt32
  abiVersion : UInt32
  id : ArchitectureId
  canonicalName : Option (List UInt8)
  wordBits : UInt32
  virtualAddressBits : UInt32
  elfMachine : UInt16
  peCoffMachine : UInt16
  pageSize : UInt64
  deriving DecidableEq, Repr

/-- An operation table.  A callback is given by whether it is there. -/
structure ArchOps where
  size : UInt32
  abiVersion : UInt32
  capabilities : UInt64
  descriptor : ArchDescriptor
  validateDirectLoad : Bool
  cacheSync : Bool
  normalizePrivilege : Bool
  directHighPageTablePages : Bool
  prepareDirectHighEntry : Bool
  prepareEntry : Bool
  transferPrepared : Bool
  halt : Bool
  reset : Bool
  monotonicCounter : Bool
  deriving DecidableEq, Repr

inductive RegisterAbi where
  | x86_64
  | aarch64
  | riscv64
  | unknown
  deriving DecidableEq, Repr, Inhabited

inductive EntryPrivilege where
  | currentSupervisor
  | aarch64El1
  | unknown
  deriving DecidableEq, Repr, Inhabited

inductive EntryTranslation where
  | preserveReachable
  | directHighBridge
  | disabled
  | unknown
  deriving DecidableEq, Repr, Inhabited

structure EntryInvocation where
  size : UInt32
  abiVersion : UInt32
  entryAddress : UInt64
  registerAbi : RegisterAbi
  argumentCount : UInt32
  arguments : List UInt64
  interruptsMasked : Bool
  privilege : EntryPrivilege
  translation : EntryTranslation
  deriving DecidableEq, Repr

/-- All bytes zero; zero is the value of masked interrupts. -/
instance : Inhabited EntryInvocation where
  default := ⟨0, 0, 0, .x86_64, 0, List.replicate 8 0, true, .currentSupervisor,
    .preserveReachable⟩

structure PreparedEntry where
  invocation : EntryInvocation
  translationRoot : UInt64
  deriving DecidableEq, Repr, Inhabited

namespace Arch

def opsAbiVersion : UInt32 := 6
def opsSizeOf : UInt32 := 104
def descriptorSizeOf : UInt32 := 96
def entryInvocationSizeOf : UInt32 := 104
def entryInvocationAbiVersion : UInt32 := 1
def entryArgumentLimit : UInt32 := 8

def capValidateDirectLoad : UInt64 := 1
def capCacheSync : UInt64 := 2
def capPrivilegeNormalize : UInt64 := 4
def capDirectHighEntry : UInt64 := 8
def capEntryBridge : UInt64 := 16
def capHalt : UInt64 := 32
def capReset : UInt64 := 64
def capMonotonicCounter : UInt64 := 128
def capAll : UInt64 := 255

/-- A capability bit stands for a callback that is there. -/
def capabilityMatches (ops : ArchOps) (capability : UInt64) (present : Bool) : Bool :=
  (ops.capabilities &&& capability != 0) == present

def opsAreValid (ops : ArchOps) : Bool :=
  let required := capValidateDirectLoad ||| capHalt
  ops.size == opsSizeOf && ops.abiVersion == opsAbiVersion &&
  ops.capabilities &&& ~~~capAll == 0 && ops.capabilities &&& required == required &&
  ops.descriptor.size == descriptorSizeOf && ops.descriptor.abiVersion == opsAbiVersion &&
  ops.descriptor.canonicalName.isSome && ops.validateDirectLoad && ops.halt &&
  capabilityMatches ops capCacheSync ops.cacheSync &&
  capabilityMatches ops capPrivilegeNormalize ops.normalizePrivilege &&
  capabilityMatches ops capDirectHighEntry
    (ops.directHighPageTablePages && ops.prepareDirectHighEntry) &&
  capabilityMatches ops capEntryBridge (ops.prepareEntry && ops.transferPrepared) &&
  capabilityMatches ops capReset ops.reset &&
  capabilityMatches ops capMonotonicCounter ops.monotonicCounter

end Arch

end Ribon
