/-
Placing a payload after the firmware is gone.

The addresses that a kernel is linked to may be in use by the firmware until
`ExitBootServices`.  So the loader checks the segments of a plan against the memory map
that it captured last, leaves the firmware, and only then zeroes the pages of each segment
and copies the bytes of the file there.
-/
import Ribon.Core.Memory
import Ribon.Image.Plan
import Ribon.Wire.Memory

namespace Ribon

open Wire

inductive UefiAppStatus where
  | badArgument
  | outOfCapacity
  | firmwareError
  | payloadError
  | retryExhausted
  deriving DecidableEq, Repr

structure EfiMemoryDescriptor where
  type : UInt32
  physicalStart : UInt64
  numberOfPages : UInt64
  deriving DecidableEq, Repr

/-- The parts of the context that this uses.  `rawMemoryMap` gives the descriptors of the buffer,
one every `descriptorSize` bytes; `bootServices` is whether they are still there. -/
structure UefiAppContext where
  bootServices : Bool
  rawMemoryMap : Option (Nat → EfiMemoryDescriptor)
  rawMemoryMapCapacity : UInt64
  rawMemoryMapSize : UInt64
  descriptorSize : UInt64

/-- The buffer that holds the payload. -/
structure PayloadBuffer where
  data : UInt64
  size : UInt64
  deriving DecidableEq, Repr

namespace Uefi

def efiBootServicesCode : UInt32 := 3
def efiBootServicesData : UInt32 := 4
def efiConventionalMemory : UInt32 := 7
def descriptorSizeOf : UInt64 := 40
def loadPlanSegmentsPlaced : UInt32 := 64
def exitAttempts : Nat := 3
def efiInvalidParameter : UInt64 := 0x8000000000000002

def payloadDescriptorReclaimable (type : UInt32) : Bool :=
  type == efiConventionalMemory || type == efiBootServicesCode || type == efiBootServicesData

/-- The descriptors of the captured map. -/
def descriptors (context : UefiAppContext) : List EfiMemoryDescriptor :=
  match context.rawMemoryMap with
  | none => []
  | some map =>
      (List.range (context.rawMemoryMapSize / context.descriptorSize).toNat).map map

/-- Where a descriptor ends; none if it is empty or does not end. -/
def descriptorEnd (descriptor : EfiMemoryDescriptor) : Option UInt64 :=
  if descriptor.numberOfPages == 0 || decide (u64Max / 4096 < descriptor.numberOfPages) then none
  else
    let bytes := descriptor.numberOfPages * 4096
    if u64Max - descriptor.physicalStart < bytes then none else some (descriptor.physicalStart + bytes)

/-- The first descriptor that has the byte at the cursor, and its end. -/
def descriptorAt (descriptors : List EfiMemoryDescriptor) (cursor : UInt64) :
    Option (EfiMemoryDescriptor × UInt64) :=
  descriptors.findSome? fun descriptor =>
    (descriptorEnd descriptor).bind fun finish =>
      if descriptor.physicalStart ≤ cursor ∧ cursor < finish then some (descriptor, finish) else none

theorem descriptorAt_eq_some {descriptors : List EfiMemoryDescriptor} {cursor finish : UInt64}
    {descriptor : EfiMemoryDescriptor}
    (h : descriptorAt descriptors cursor = some (descriptor, finish)) :
    descriptor ∈ descriptors ∧ descriptorEnd descriptor = some finish ∧
      descriptor.physicalStart ≤ cursor ∧ cursor < finish := by
  obtain ⟨candidate, hmem, hfound⟩ := List.exists_of_findSome?_eq_some h
  obtain ⟨candidateEnd, hend, hin⟩ := Option.bind_eq_some_iff.mp hfound
  by_cases hcovers : candidate.physicalStart ≤ cursor ∧ cursor < candidateEnd
  · rw [if_pos hcovers] at hin
    cases hin
    exact ⟨hmem, hend, hcovers⟩
  · rw [if_neg hcovers] at hin
    cases hin

/-- Whether every byte up to the end is found in a descriptor that can be reclaimed: the walk of a
cursor from the end of one descriptor to the end of the next. -/
def payloadRangeReclaimable (descriptors : List EfiMemoryDescriptor) (cursor finish : UInt64) : Bool :=
  if cursor < finish then
    match hfound : descriptorAt descriptors cursor with
    | none => false
    | some (descriptor, descriptorEnd) =>
        if payloadDescriptorReclaimable descriptor.type then
          payloadRangeReclaimable descriptors (if descriptorEnd < finish then descriptorEnd else finish)
            finish
        else false
  else true
termination_by finish.toNat - cursor.toNat
decreasing_by
  -- a descriptor that has the cursor ends behind it
  obtain ⟨-, -, -, hbehind⟩ := descriptorAt_eq_some hfound
  simp only [UInt64.lt_iff_toNat_lt] at *
  split <;> omega

/-- The check of one segment, given those before it. -/
def postExitSegmentIsValid (context : UefiAppContext) (payload : PayloadBuffer)
    (prior : List LoadSegment) (segment : LoadSegment) : Bool :=
  let sourceStart := payload.data
  let sourceEnd := sourceStart + payload.size
  let pageBase := memoryAlignDown segment.loadAddress 4096
  segment.memorySize != 0 && !decide (u64Max - segment.memorySize < segment.loadAddress) &&
  !decide (u64Max - segment.memorySize < segment.virtualAddress) &&
  match memoryAlignUp (segment.loadAddress + segment.memorySize) 4096 with
  | none => false
  | some pageEnd =>
      decide (pageBase < pageEnd) && decide (segment.fileOffset ≤ payload.size) &&
      decide (segment.fileSize ≤ payload.size - segment.fileOffset) &&
      decide (segment.fileSize ≤ segment.memorySize) &&
      !(decide (pageBase < sourceEnd) && decide (sourceStart < pageEnd)) &&
      payloadRangeReclaimable (descriptors context) pageBase pageEnd &&
      prior.all fun other =>
        !decide (u64Max - other.memorySize < other.loadAddress) &&
        match memoryAlignUp (other.loadAddress + other.memorySize) 4096 with
        | none => false
        | some otherEnd =>
            !(decide (pageBase < otherEnd) &&
              decide (memoryAlignDown other.loadAddress 4096 < pageEnd))

/-- The loop over the segments. -/
def postExitSegmentsAreValid (context : UefiAppContext) (payload : PayloadBuffer) :
    List LoadSegment → List LoadSegment → Bool
  | _, [] => true
  | prior, segment :: rest =>
      postExitSegmentIsValid context payload prior segment &&
      postExitSegmentsAreValid context payload (prior ++ [segment]) rest

def postExitPayloadIsValid (context : UefiAppContext) (payload : PayloadBuffer)
    (layout : DirectLoadPlan) : Bool :=
  payload.data != 0 && layout.storage && !layout.segments.isEmpty && context.rawMemoryMap.isSome &&
  decide (descriptorSizeOf ≤ context.descriptorSize) &&
  decide (descriptorSizeOf ≤ context.rawMemoryMapSize) &&
  decide (context.rawMemoryMapSize ≤ context.rawMemoryMapCapacity) &&
  context.rawMemoryMapSize % context.descriptorSize == 0 &&
  layout.loadPlanFlags &&& loadPlanSegmentsPlaced == 0 &&
  !decide (u64Max - payload.data < payload.size) &&
  postExitSegmentsAreValid context payload [] layout.segments

def validatePostExitPayload (context : UefiAppContext) (payload : PayloadBuffer)
    (layout : DirectLoadPlan) : Except UefiAppStatus Unit := do
  refuse (!context.bootServices) .badArgument
  refuse (!postExitPayloadIsValid context payload layout) .payloadError

/-! ### Placement -/

/-- Where the loop over the segments stands: memory, the segments that were placed, the bounds so
far, and the entry once a segment had it. -/
structure PlaceState where
  memory : Memory
  segments : List LoadSegment
  runtimeBase : UInt64
  runtimeEnd : UInt64
  runtimeEntry : Option UInt64

/-- Zero the pages of a segment and copy its bytes. -/
def placeSegment (payload : PayloadBuffer) (entryPoint : UInt64) (state : PlaceState)
    (segment : LoadSegment) : Option PlaceState :=
  let pageBase := memoryAlignDown segment.loadAddress 4096
  let pageOffset := segment.loadAddress - pageBase
  (memoryAlignUp (segment.loadAddress + segment.memorySize) 4096).map fun pageEnd =>
    let memory := memset state.memory pageBase.toNat 0 (pageEnd - pageBase).toNat
    let memory := memcpy memory (pageBase + pageOffset).toNat (payload.data + segment.fileOffset).toNat
      segment.fileSize.toNat
    let runtimeAddress := pageBase + pageOffset
    let segmentEnd := runtimeAddress + segment.memorySize
    let entered := decide (segment.virtualAddress ≤ entryPoint) &&
      decide (entryPoint < segment.virtualAddress + segment.memorySize) &&
      segment.flags &&& loadSegmentExecute != 0
    { memory := memory
      segments := state.segments ++ [{ segment with runtimeAddress := runtimeAddress }]
      runtimeBase := if runtimeAddress < state.runtimeBase then runtimeAddress else state.runtimeBase
      runtimeEnd := if state.runtimeEnd < segmentEnd then segmentEnd else state.runtimeEnd
      runtimeEntry := if entered then some (runtimeAddress + (entryPoint - segment.virtualAddress))
        else state.runtimeEntry }

/-- The loop, which stops at a segment whose end cannot be rounded. -/
def placeSegments (payload : PayloadBuffer) (entryPoint : UInt64) :
    List LoadSegment → PlaceState → PlaceState × Bool
  | [], state => (state, true)
  | segment :: rest, state =>
      match placeSegment payload entryPoint state segment with
      | none => (state, false)
      | some next => placeSegments payload entryPoint rest next

/-- What a call of the placement leaves: its status, the plan and memory. -/
structure Placement where
  status : Except UefiAppStatus Unit
  layout : DirectLoadPlan
  memory : Memory

/-- The plan with the segments as far as they were placed. -/
def placedLayout (layout : DirectLoadPlan) (state : PlaceState) : DirectLoadPlan :=
  { layout with
    segments := state.segments ++ layout.segments.drop state.segments.length
    runtimeEntryAddress := state.runtimeEntry.getD layout.runtimeEntryAddress }

def placePayloadAfterExit (context : UefiAppContext) (payload : PayloadBuffer)
    (layout : DirectLoadPlan) (memory : Memory) : Placement :=
  if context.bootServices || !postExitPayloadIsValid context payload layout then
    ⟨.error .badArgument, layout, memory⟩
  else
    let (state, finished) := placeSegments payload layout.entryPoint layout.segments
      ⟨memory, [], u64Max, 0, none⟩
    let placed := placedLayout layout state
    if !finished then ⟨.error .payloadError, placed, state.memory⟩
    else if state.runtimeEntry.isNone || decide (state.runtimeEnd ≤ state.runtimeBase) then
      ⟨.error .payloadError, placed, state.memory⟩
    else
      ⟨.ok (), { placed with
        runtimeLoadBase := state.runtimeBase
        runtimeLoadEnd := state.runtimeEnd
        memorySize := state.runtimeEnd - state.runtimeBase
        loadPlanFlags := placed.loadPlanFlags ||| (loadPlanSegmentsPlaced |||
          loadPlanRuntimeEntryValid) }, state.memory⟩

/-! ### Leaving the firmware -/

/-- What a capture of the memory map leaves in the context. -/
structure MapCapture where
  rawMemoryMap : Option (Nat → EfiMemoryDescriptor)
  rawMemoryMapSize : UInt64
  descriptorSize : UInt64

/-- What the calls of one attempt answer. -/
structure ExitAttempt where
  captured : Except UefiAppStatus MapCapture
  persistentInputs : Bool
  refresh : Int
  exitStatus : UInt64

def withMap (context : UefiAppContext) (capture : MapCapture) : UefiAppContext :=
  { context with
    rawMemoryMap := capture.rawMemoryMap
    rawMemoryMapSize := capture.rawMemoryMapSize
    descriptorSize := capture.descriptorSize }

def efiError (status : UInt64) : Bool := status &&& 0x8000000000000000 != 0

/-- The attempts: capture, refresh and leave, again if only the map has changed.  What is returned
is the context that the post-exit callback finds. -/
def exitLoop (postExit : UefiAppContext → Int) :
    List ExitAttempt → UefiAppContext → Except UefiAppStatus UefiAppContext
  | [], _ => .error .retryExhausted
  | attempt :: rest, context =>
      match attempt.captured with
      | .error status => .error status
      | .ok capture =>
          let context := withMap context capture
          if !attempt.persistentInputs then .error .payloadError
          else if attempt.refresh != 0 then .error .payloadError
          else if !efiError attempt.exitStatus then
            let context := { context with bootServices := false }
            if postExit context != 0 then .error .payloadError else .ok context
          else if attempt.exitStatus != efiInvalidParameter then .error .firmwareError
          else exitLoop postExit rest context

def exitBootServices (context : UefiAppContext) (attempts : List ExitAttempt)
    (postExit : UefiAppContext → Int) : Except UefiAppStatus UefiAppContext :=
  if !context.bootServices then .error .badArgument
  else exitLoop postExit (attempts.take exitAttempts) context

end Uefi

end Ribon
