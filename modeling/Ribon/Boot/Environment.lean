/-
The facts that an environment gives a boot, and when they are consistent.
-/
import Ribon.Core.Capability
import Ribon.Core.Memory

namespace Ribon

inductive EnvironmentKind where
  | host
  | uefi
  | bios
  | rawFdt
  | sbi
  | unknown
  deriving DecidableEq, Repr, Inhabited

inductive ArchitectureId where
  | x86_64
  | aarch64
  | riscv64
  | unknown
  deriving DecidableEq, Repr, Inhabited

inductive BootMediaKind where
  | none
  | file
  | block
  | memory
  | network
  deriving DecidableEq, Repr, Inhabited

inductive BootModuleRole where
  | invalid
  | initialImage
  | auxiliary
  deriving DecidableEq, Repr, Inhabited

def bootModuleCapacity : Nat := 8

def bootEnvHasMemoryMap : UInt32 := 1
def bootEnvHasBootMedia : UInt32 := 8
def bootEnvHasCommandLine : UInt32 := 16
def bootEnvHasBootModules : UInt32 := 32

structure BootSource where
  kind : BootMediaKind
  sourceId : UInt32
  size : UInt64
  blockSize : UInt32
  deriving DecidableEq, Repr, Inhabited

structure BootModule where
  physicalAddress : UInt64
  size : UInt64
  role : BootModuleRole
  deriving DecidableEq, Repr, Inhabited

structure CommandLine where
  text : Option (List UInt8)
  length : UInt32
  deriving DecidableEq, Repr, Inhabited

/-- An environment.  The facts that only a callback reads (raw map, ACPI, the rest of the
device tree and of the framebuffer, boot CPU) are left out. -/
structure BootEnvironment where
  size : UInt32
  abiVersion : UInt32
  kind : EnvironmentKind
  architecture : ArchitectureId
  memoryMap : List MemoryRegion
  deviceTreeAddress : UInt64
  deviceTreeSize : UInt64
  framebufferAddress : UInt64
  bootMedia : BootMediaKind
  bootModules : List BootModule
  commandLine : CommandLine
  flags : UInt32
  deriving DecidableEq, Repr, Inhabited

namespace BootEnvironment

def sizeOf : UInt32 := 232

def has (environment : BootEnvironment) (flag : UInt32) : Bool := environment.flags &&& flag != 0

def moduleCount (environment : BootEnvironment) : Nat := environment.bootModules.length

def modulesOverlap (left right : BootModule) : Bool :=
  decide (left.physicalAddress < right.physicalAddress + right.size) &&
  decide (right.physicalAddress < left.physicalAddress + left.size)

/-- The loop over the modules, with those before this one and the initial images among them. -/
def modulesAreValid : List BootModule → Nat → List BootModule → Bool
  | _, _, [] => true
  | seen, initialImages, bootModule :: rest =>
      let isInitial := bootModule.role == .initialImage
      if bootModule.physicalAddress == 0 || bootModule.size == 0 ||
          (addU64 bootModule.physicalAddress bootModule.size).isNone ||
          (!isInitial && bootModule.role != .auxiliary) ||
          (isInitial && decide (1 ≤ initialImages)) || seen.any (modulesOverlap bootModule) then
        false
      else modulesAreValid (bootModule :: seen) (initialImages + if isInitial then 1 else 0) rest

def isValid (environment : BootEnvironment) : Bool :=
  environment.size == sizeOf && environment.abiVersion == coreAbiVersion &&
  environment.kind != .unknown && environment.architecture != .unknown &&
  !(environment.has bootEnvHasMemoryMap && environment.memoryMap.isEmpty) &&
  environment.has bootEnvHasBootMedia == (environment.bootMedia != .none) &&
  environment.has bootEnvHasBootModules == !environment.bootModules.isEmpty &&
  decide (environment.moduleCount ≤ bootModuleCapacity) &&
  environment.has bootEnvHasCommandLine ==
    (environment.commandLine.text.isSome && environment.commandLine.length != 0) &&
  modulesAreValid [] 0 environment.bootModules

end BootEnvironment

end Ribon
