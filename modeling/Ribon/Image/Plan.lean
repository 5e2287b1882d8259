/-
What an image parser hands on: the validated image and the direct load plan.
-/
import Ribon.Native

namespace Ribon

inductive ExecutableFormat where
  | unknown
  | elf64
  | peCoff
  | linuxAarch64
  | linuxRiscv64
  deriving DecidableEq, Repr, Inhabited

/-- The bit of a format in a protocol's list of formats. -/
def ExecutableFormat.mask : ExecutableFormat → UInt64
  | .unknown => 1
  | .elf64 => 2
  | .peCoff => 4
  | .linuxAarch64 => 8
  | .linuxRiscv64 => 16

def executableFormatName : ExecutableFormat → String
  | .elf64 => "elf64"
  | .peCoff => "pe-coff"
  | .linuxAarch64 => "linux-aarch64-image"
  | .linuxRiscv64 => "linux-riscv64-image"
  | .unknown => "unknown"

inductive LoaderStatus where
  | badArgument
  | badFormat
  | unsupported
  | truncated
  | overflow
  | outOfCapacity
  | misaligned
  | noLoadSegments
  | nonCanonical
  | overlappingSegments
  deriving DecidableEq, Repr

/-- The bytes that were read from the source. -/
structure PayloadImage where
  data : List UInt8
  size : UInt64
  sourceName : Option (List UInt8)
  deriving DecidableEq, Repr, Inhabited

/-- Ways to execute an image. -/
def imageExecutionDirectEntry : UInt32 := 1
def imageExecutionFirmwareManaged : UInt32 := 2
def imageExecutionAll : UInt32 := 3

def loadSegmentRead : UInt32 := 1
def loadSegmentWrite : UInt32 := 2
def loadSegmentExecute : UInt32 := 4

def loadPlanEntryLoadValid : UInt32 := 1
def loadPlanRuntimeEntryValid : UInt32 := 2
def loadPlanUsesPaddr : UInt32 := 4
def loadPlanHasHigherHalf : UInt32 := 8
def loadPlanDirectHighEntryCandidate : UInt32 := 16
def loadPlanHasLinkedPhysicalRange : UInt32 := 32
def loadPlanRelocatable : UInt32 := 256

structure LoadSegment where
  fileOffset : UInt64
  fileSize : UInt64
  memorySize : UInt64
  virtualAddress : UInt64
  linkedPhysicalAddress : UInt64
  physicalAddress : UInt64
  loadAddress : UInt64
  runtimeAddress : UInt64
  alignment : UInt64
  flags : UInt32
  deriving DecidableEq, Repr, Inhabited

structure ValidatedImage where
  size : UInt32
  abiVersion : UInt32
  format : ExecutableFormat
  machine : UInt16
  reserved : UInt16
  executionSupport : UInt32
  imageSize : UInt64
  validationReceipt : UInt64
  deriving DecidableEq, Repr, Inhabited

/-- A direct load plan.  `segments` are the entries that `segment_count` counts, `storage` is
whether the caller gave an array for them. -/
structure DirectLoadPlan where
  size : UInt32
  abiVersion : UInt32
  loadPlanFlags : UInt32
  entryPoint : UInt64
  entryLoadAddress : UInt64
  runtimeEntryAddress : UInt64
  loadBase : UInt64
  loadEnd : UInt64
  runtimeLoadBase : UInt64
  runtimeLoadEnd : UInt64
  memorySize : UInt64
  linkedVirtualBase : UInt64
  linkedVirtualEnd : UInt64
  linkedPhysicalBase : UInt64
  linkedPhysicalEnd : UInt64
  highEntryVirtualAddress : UInt64
  highEntryLoadAddress : UInt64
  segments : List LoadSegment
  storage : Bool
  segmentCapacity : UInt32
  deriving DecidableEq, Repr, Inhabited

def DirectLoadPlan.segmentCount (plan : DirectLoadPlan) : Nat := plan.segments.length

def validatedImageSizeOf : UInt32 := 40
def validatedImageAbiVersion : UInt32 := 1
def directLoadPlanSizeOf : UInt32 := 144
def directLoadPlanAbiVersion : UInt32 := 1
def imageFormatOpsSizeOf : UInt32 := 24
def imageFormatOpsAbiVersion : UInt32 := 3

/-- A parser.  What it finds in an image is asked of it by a callback. -/
structure ImageFormatOps where
  size : UInt32
  abiVersion : UInt32
  format : ExecutableFormat
  executionSupport : UInt32
  analyze : Bool
  deriving DecidableEq, Repr

def imageFormatOpsAreValid (ops : ImageFormatOps) : Bool :=
  ops.size == imageFormatOpsSizeOf && ops.abiVersion == imageFormatOpsAbiVersion &&
  ops.format != .unknown && ops.executionSupport != 0 &&
  ops.executionSupport &&& ~~~imageExecutionAll == 0 && ops.analyze

def validatedImageIsValid (image : ValidatedImage) : Bool :=
  image.size == validatedImageSizeOf && image.abiVersion == validatedImageAbiVersion &&
  image.format != .unknown && image.machine != 0 && image.reserved == 0 &&
  image.executionSupport != 0 && image.executionSupport &&& ~~~imageExecutionAll == 0 &&
  image.imageSize != 0

def directLoadPlanHasStorage (plan : DirectLoadPlan) : Bool :=
  plan.storage && plan.segmentCapacity != 0

end Ribon
