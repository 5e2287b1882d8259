/-
The handoff of a direct boot.

One kernel, one World, one buffer for the tree: the loader checks where they are, collects what
the kernel must leave alone and writes the tree.
-/
import Ribon.Boot.Environment
import Ribon.Image.Analysis
import Ribon.Luca.DirectFdt

namespace Ribon.Luca

open Wire

def runtimeRamStart : UInt64 := 0x40000000
def runtimeRamEnd : UInt64 := 0x80000000
def memoryAttrBootReclaimable : UInt64 := 32
def bootEnvHasDeviceTree : UInt32 := 2

inductive HandoffStatus where
  | badArgument
  | invalidPlan
  | outOfCapacity
  deriving DecidableEq, Repr

/-- The fields of a boot plan that the protocol reads. -/
structure DirectPlan where
  arch : Option ArchitectureId
  environment : EnvironmentKind
  kernelRuntimeEntryAddress : UInt64
  kernelLoadSegments : List LoadSegment

/-- The fields of an environment that the protocol reads. -/
structure DirectEnvironment where
  architecture : ArchitectureId
  kind : EnvironmentKind
  deviceTree : Option DeviceTree
  bootModules : List BootModule
  commandLineLength : UInt32
  flags : UInt32

structure HandoffArtifact where
  data : UInt64
  bytes : List UInt8
  format : String
  versionMajor : UInt32
  sectionCount : UInt32

/-- Whether two ranges overlap; one that is empty or does not end counts as such. -/
def directRangesOverlap (lhsBase lhsSize rhsBase rhsSize : UInt64) : Bool :=
  lhsSize == 0 || rhsSize == 0 || decide (u64Max - lhsSize < lhsBase) ||
  decide (u64Max - rhsSize < rhsBase) ||
  (decide (lhsBase < rhsBase + rhsSize) && decide (rhsBase < lhsBase + lhsSize))

def directFdtRuntimeSpanValid (base size : UInt64) : Bool :=
  size != 0 && decide (runtimeRamStart ≤ base) && decide (base < runtimeRamEnd) &&
  decide (size ≤ runtimeRamEnd - base)

/-- A region that stays in use after the firmware is gone. -/
def isFirmwareReserved (region : MemoryRegion) : Bool :=
  !(region.kind == .usable || region.kind == .mmio || region.kind == .framebuffer ||
    region.attributes &&& memoryAttrBootReclaimable != 0)

def addFirmwareReservations (memoryMap : MutableMemoryMap) (ranges : List MemoryRegion) :
    Option (List MemoryRegion) :=
  if !memoryMap.storage || decide (memoryMap.capacity.toNat < memoryMap.regions.length) then none
  else addReservations (memoryMap.regions.filter isFirmwareReserved) ranges

/-- Where a segment is at run time. -/
def segmentBase (segment : LoadSegment) : UInt64 :=
  if segment.runtimeAddress != 0 then segment.runtimeAddress else segment.loadAddress

/-- One segment more: it must end, and must not meet the World. -/
def addSegment (world : BootModule) (span : UInt64 × UInt64) (segment : LoadSegment) :
    Except HandoffStatus (UInt64 × UInt64) := do
  let base := segmentBase segment
  refuse (segment.memorySize == 0 || decide (u64Max - segment.memorySize < base) ||
    directRangesOverlap base segment.memorySize world.physicalAddress world.size) .invalidPlan
  return (lower span.1 base, raise span.2 (base + segment.memorySize))

def requiredFlags : UInt32 := bootEnvHasMemoryMap ||| bootEnvHasDeviceTree ||| bootEnvHasBootModules

/-- The World of an environment with one module. -/
def onlyModule : List BootModule → Option BootModule
  | [world] => some world
  | _ => none

def buildDirectFdt (plan : DirectPlan) (environment : DirectEnvironment)
    (normalizedMemoryMap : MutableMemoryMap) (buffer capacity : UInt64) :
    Except HandoffStatus HandoffArtifact := do
  refuse (buffer == 0 || plan.arch != some .aarch64 || plan.environment != .uefi ||
    plan.kernelRuntimeEntryAddress == 0 || plan.kernelLoadSegments.isEmpty ||
    environment.architecture != .aarch64 || environment.kind != .uefi) .badArgument
  let tree ← demand environment.deviceTree .badArgument
  let world ← demand (onlyModule environment.bootModules) .badArgument
  refuse (decide (tree.data.length < 40) || environment.commandLineLength != 0 ||
    environment.flags &&& requiredFlags != requiredFlags) .badArgument
  refuse (world.role != .initialImage || world.physicalAddress == 0 || world.size == 0 ||
    !directFdtRuntimeSpanValid world.physicalAddress world.size ||
    directRangesOverlap world.physicalAddress world.size buffer capacity) .invalidPlan
  let (kernelStart, kernelEnd) ← plan.kernelLoadSegments.foldlM (addSegment world) (u64Max, 0)
  refuse (kernelStart == u64Max || decide (kernelEnd ≤ kernelStart) ||
    !directFdtRuntimeSpanValid kernelStart (kernelEnd - kernelStart) ||
    decide (plan.kernelRuntimeEntryAddress < kernelStart) ||
    decide (kernelEnd ≤ plan.kernelRuntimeEntryAddress)) .invalidPlan
  let ranges ← demand (addReservation [] kernelStart (kernelEnd - kernelStart)) .invalidPlan
  let ranges ← demand (addReservation ranges world.physicalAddress world.size) .outOfCapacity
  let ranges ← demand (addReservation ranges buffer capacity) .outOfCapacity
  let ranges ← demand (addFirmwareReservations normalizedMemoryMap ranges) .outOfCapacity
  let blob ← mapStatus (fun _ => .invalidPlan) (directFdtBuildBlob tree kernelStart
    (kernelEnd - kernelStart) plan.kernelRuntimeEntryAddress world.physicalAddress world.size ranges
    buffer capacity)
  return { data := buffer, bytes := blob, format := "fdt", versionMajor := 17, sectionCount := 3 }

end Ribon.Luca
