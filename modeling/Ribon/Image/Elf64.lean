/-
The ELF64 parser.

The program headers are read one after the other.  A header of type `LOAD` is checked
by itself, then against the segments before it, and becomes the next segment; the
bounds and the entry of the plan are updated on the way.
-/
import Ribon.Image.Analysis

namespace Ribon.Elf64

open Wire

def headerSize : UInt64 := 64
def phdrSize : UInt16 := 56

/-- Multiplication that refuses to wrap. -/
def mulU64 (left right : UInt64) : Option UInt64 :=
  if left != 0 && decide (u64Max / left < right) then none else some (left * right)

def segmentFlagsFromElf (flags : UInt32) : UInt32 :=
  (if flags &&& 4 != 0 then loadSegmentRead else 0) |||
  (if flags &&& 2 != 0 then loadSegmentWrite else 0) |||
  (if flags &&& 1 != 0 then loadSegmentExecute else 0)

def rangesOverlap (leftBase leftEnd rightBase rightEnd : UInt64) : Bool :=
  decide (leftBase < rightEnd) && decide (rightBase < leftEnd)

structure ProgramHeader where
  type : UInt32
  flags : UInt32
  offset : UInt64
  vaddr : UInt64
  paddr : UInt64
  filesz : UInt64
  memsz : UInt64
  align : UInt64
  deriving DecidableEq, Repr

def readProgramHeader (phdr : List UInt8) : ProgramHeader where
  type := loadU32 phdr
  flags := loadU32 (phdr.drop 4)
  offset := loadU64 (phdr.drop 8)
  vaddr := loadU64 (phdr.drop 16)
  paddr := loadU64 (phdr.drop 24)
  filesz := loadU64 (phdr.drop 32)
  memsz := loadU64 (phdr.drop 40)
  align := loadU64 (phdr.drop 48)

namespace ProgramHeader

/-- Headers without a physical address are loaded where they are linked to. -/
def loadAddress (header : ProgramHeader) : UInt64 :=
  if header.paddr != 0 then header.paddr else header.vaddr

def segment (header : ProgramHeader) : LoadSegment where
  fileOffset := header.offset
  fileSize := header.filesz
  memorySize := header.memsz
  virtualAddress := header.vaddr
  linkedPhysicalAddress := header.paddr
  physicalAddress := header.loadAddress
  loadAddress := header.loadAddress
  runtimeAddress := header.loadAddress
  alignment := header.align
  flags := segmentFlagsFromElf header.flags

end ProgramHeader

/-- What the loop over the headers carries along; `entry` is the load address of the entry
once it has been found. -/
structure Scan where
  segments : List LoadSegment
  loadBase : UInt64
  loadEnd : UInt64
  linkedVirtualBase : UInt64
  linkedVirtualEnd : UInt64
  linkedPhysicalBase : UInt64
  linkedPhysicalEnd : UInt64
  loadPlanFlags : UInt32
  entry : Option UInt64
  deriving DecidableEq, Repr

def Scan.start : Scan where
  segments := []
  loadBase := u64Max
  loadEnd := 0
  linkedVirtualBase := u64Max
  linkedVirtualEnd := 0
  linkedPhysicalBase := u64Max
  linkedPhysicalEnd := 0
  loadPlanFlags := 0
  entry := none

/-- The linked physical range takes part where a header has a physical address. -/
def Scan.addPhysical (scan : Scan) (header : ProgramHeader) : Except LoaderStatus Scan :=
  if header.paddr == 0 then .ok scan
  else do
    let rawPhysicalEnd ← demand (addU64 header.paddr header.memsz) .overflow
    return { scan with
      loadPlanFlags :=
        scan.loadPlanFlags ||| loadPlanUsesPaddr ||| loadPlanHasLinkedPhysicalRange
      linkedPhysicalBase := lower scan.linkedPhysicalBase header.paddr
      linkedPhysicalEnd := raise scan.linkedPhysicalEnd rawPhysicalEnd }

/-- The entry is looked for in executable segments; a later segment takes it over. -/
def entryIn (entryPoint virtualEnd : UInt64) (segment : LoadSegment) : Option UInt64 :=
  if decide (segment.virtualAddress ≤ entryPoint) && decide (entryPoint < virtualEnd) &&
      segment.isExecutable then
    some (segment.loadAddress + (entryPoint - segment.virtualAddress))
  else none

def checkPrevious (header : ProgramHeader) (physicalEnd : UInt64) (previous : LoadSegment) :
    Except LoaderStatus Unit := do
  let previousEnd ← demand (addU64 previous.loadAddress previous.memorySize) .overflow
  refuse (rangesOverlap previous.loadAddress previousEnd header.loadAddress physicalEnd)
    .overlappingSegments

/-- One header of type `LOAD`. -/
def addSegment (size entryPoint : UInt64) (capacity : UInt32) (scan : Scan)
    (header : ProgramHeader) : Except LoaderStatus Scan := do
  let align := header.align
  refuse (header.memsz == 0 || decide (header.memsz < header.filesz)) .badFormat
  refuse (align != 0 && align != 1 && !powerOfTwo align) .misaligned
  refuse (decide (1 < align) && header.offset % align != header.vaddr % align) .misaligned
  refuse (decide (1 < align) && header.offset % align != header.loadAddress % align) .misaligned
  let fileEnd ← demand (addU64 header.offset header.filesz) .overflow
  let physicalEnd ← demand (addU64 header.loadAddress header.memsz) .overflow
  let virtualEnd ← demand (addU64 header.vaddr header.memsz) .overflow
  refuse (decide (size < fileEnd)) .truncated
  scan.segments.forM (checkPrevious header physicalEnd)
  refuse (decide (capacity.toNat ≤ scan.segments.length)) .outOfCapacity
  Scan.addPhysical { scan with
    segments := scan.segments ++ [header.segment]
    loadBase := lower scan.loadBase header.loadAddress
    loadEnd := raise scan.loadEnd physicalEnd
    linkedVirtualBase := lower scan.linkedVirtualBase header.vaddr
    linkedVirtualEnd := raise scan.linkedVirtualEnd virtualEnd
    entry := (entryIn entryPoint virtualEnd header.segment).or scan.entry } header

def addHeader (size entryPoint : UInt64) (capacity : UInt32) (scan : Scan)
    (header : ProgramHeader) : Except LoaderStatus Scan :=
  if header.type != 1 then .ok scan else addSegment size entryPoint capacity scan header

def scanHeaders (image : PayloadImage) (entryPoint phoff : UInt64) (phnum : UInt16)
    (capacity : UInt32) : Except LoaderStatus Scan :=
  (List.range phnum.toNat).foldlM (fun scan index =>
    addHeader image.size entryPoint capacity scan
      (readProgramHeader (image.data.drop (phoff.toNat + index * phdrSize.toNat)))) Scan.start

/-- The plan of a finished scan. -/
def Scan.plan (scan : Scan) (out : DirectLoadPlan) (entryPoint entryLoadAddress : UInt64) :
    DirectLoadPlan where
  size := directLoadPlanSizeOf
  abiVersion := directLoadPlanAbiVersion
  loadPlanFlags := scan.loadPlanFlags ||| loadPlanEntryLoadValid ||| loadPlanRuntimeEntryValid
  entryPoint := entryPoint
  entryLoadAddress := entryLoadAddress
  runtimeEntryAddress := entryLoadAddress
  loadBase := scan.loadBase
  loadEnd := scan.loadEnd
  runtimeLoadBase := scan.loadBase
  runtimeLoadEnd := scan.loadEnd
  memorySize := scan.loadEnd - scan.loadBase
  linkedVirtualBase := scan.linkedVirtualBase
  linkedVirtualEnd := scan.linkedVirtualEnd
  linkedPhysicalBase := if scan.linkedPhysicalBase == u64Max then 0 else scan.linkedPhysicalBase
  linkedPhysicalEnd := scan.linkedPhysicalEnd
  highEntryVirtualAddress := 0
  highEntryLoadAddress := 0
  segments := scan.segments
  storage := out.storage
  segmentCapacity := out.segmentCapacity

def analyze (image : PayloadImage) (out : DirectLoadPlan) :
    Except LoaderStatus (ValidatedImage × DirectLoadPlan) := do
  refuse (!directLoadPlanHasStorage out) .badArgument
  refuse (decide (image.size < headerSize)) .truncated
  let data := image.data
  refuse (byteAt data 0 != 0x7f || byteAt data 1 != 0x45 || byteAt data 2 != 0x4c ||
    byteAt data 3 != 0x46) .badFormat
  refuse (byteAt data 4 != 2 || byteAt data 5 != 1 || byteAt data 6 != 1) .unsupported
  let type := loadU16 (data.drop 16)
  let machine := loadU16 (data.drop 18)
  let version := loadU32 (data.drop 20)
  let entryPoint := loadU64 (data.drop 24)
  let phoff := loadU64 (data.drop 32)
  let ehsize := loadU16 (data.drop 52)
  let phentsize := loadU16 (data.drop 54)
  let phnum := loadU16 (data.drop 56)
  refuse (type != 2 && type != 3) .unsupported
  refuse (version != 1 || ehsize.toUInt64 != headerSize || phentsize != phdrSize || phnum == 0)
    .badFormat
  let tableSize ← demand (mulU64 phentsize.toUInt64 phnum.toUInt64) .overflow
  let tableEnd ← demand (addU64 phoff tableSize) .overflow
  refuse (decide (image.size < tableEnd)) .truncated
  let scan ← scanHeaders image entryPoint phoff phnum out.segmentCapacity
  refuse scan.segments.isEmpty .noLoadSegments
  let entryLoadAddress ← demand scan.entry .badFormat
  refuse (decide (scan.loadEnd < scan.loadBase)) .overflow
  return ({
    size := validatedImageSizeOf
    abiVersion := validatedImageAbiVersion
    format := .elf64
    machine := machine
    reserved := 0
    executionSupport := imageExecutionDirectEntry
    imageSize := image.size
    validationReceipt := type.toUInt64 }, scan.plan out entryPoint entryLoadAddress)

/-! ### The loop -/

/-- What the loop keeps. -/
structure Scan.Sound (size entryPoint : UInt64) (scan : Scan) : Prop where
  placed : Placed size scan.segments
  load : Spans LoadSegment.loadStart LoadSegment.loadEnd scan.segments scan.loadBase scan.loadEnd
  linked : Spans LoadSegment.virtualStart LoadSegment.virtualEnd scan.segments
    scan.linkedVirtualBase scan.linkedVirtualEnd
  entry : ∀ address, scan.entry = some address → EntersAt scan.segments entryPoint address

theorem Scan.sound_start (size entryPoint : UInt64) : Scan.start.Sound size entryPoint :=
  ⟨placed_nil size, spans_nil, spans_nil, nofun⟩

section Step

variable {size entryPoint : UInt64} {capacity : UInt32} {scan next : Scan}
  {header : ProgramHeader}

theorem Scan.addPhysical_sound (h : scan.Sound size entryPoint)
    (hnext : scan.addPhysical header = .ok next) : next.Sound size entryPoint := by
  unfold Scan.addPhysical at hnext
  split at hnext
  · cases hnext
    exact h
  · simp only [bind_eq_ok, demand_eq_ok, pure_eq_ok] at hnext
    obtain ⟨_, _, rfl⟩ := hnext
    exact ⟨h.placed, h.load, h.linked, h.entry⟩

theorem entryIn_eq_some {virtualEnd address : UInt64} {segment : LoadSegment}
    {segments : List LoadSegment} (hmem : segment ∈ segments)
    (hfits : SegmentFits size segment) (hend : virtualEnd.toNat = segment.virtualEnd)
    (h : entryIn entryPoint virtualEnd segment = some address) :
    EntersAt segments entryPoint address := by
  unfold entryIn at h
  split at h
  next hcovered =>
    simp only [Bool.and_eq_true, decide_eq_true_eq] at hcovered
    obtain ⟨⟨hstart, hlast⟩, hexec⟩ := hcovered
    have hstart' := UInt64.le_iff_toNat_le.mp hstart
    have hlast' := UInt64.lt_iff_toNat_lt.mp hlast
    have hload := hfits.loadEnd
    rw [hend] at hlast'
    cases h
    refine ⟨segment, hmem, hexec, ⟨hstart', hlast'⟩, ?_⟩
    simp only [LoadSegment.virtualEnd, LoadSegment.loadEnd, LoadSegment.loadStart,
      LoadSegment.virtualStart] at *
    rw [UInt64.toNat_add, toNat_sub_of_le, Nat.mod_eq_of_lt (by omega)]
  next => cases h

/-- **One segment.** -/
theorem addSegment_sound (h : scan.Sound size entryPoint)
    (hnext : addSegment size entryPoint capacity scan header = .ok next) :
    next.Sound size entryPoint := by
  simp only [addSegment, bind_eq_ok, refuse_eq_ok, demand_eq_ok, forM_eq_ok, exists_const]
    at hnext
  obtain ⟨hsize, _, _, _, fileEnd, hfile, physicalEnd, hphys, virtualEnd, hvirt,
    htruncated, hprev, _, hadd⟩ := hnext
  simp only [Bool.or_eq_false_iff, beq_eq_false_iff_ne, decide_eq_false_iff_not] at hsize
  simp only [decide_eq_false_iff_not, UInt64.not_lt, UInt64.le_iff_toNat_le] at htruncated
  have hfileEnd := addU64_eq_some hfile
  have hphysicalEnd := addU64_eq_some hphys
  have hvirtualEnd := addU64_eq_some hvirt
  have hmemory := ne_zero_iff.mp hsize.1
  have hfits : SegmentFits size header.segment := by
    refine ⟨?_, UInt64.not_lt.mp hsize.2, hmemory, ?_, ?_, rfl⟩
    · show header.offset.toNat + header.filesz.toNat ≤ size.toNat
      omega
    · show header.loadAddress.toNat + header.memsz.toNat < 2 ^ 64
      rw [← hphysicalEnd]
      exact physicalEnd.toNat_lt
    · show header.vaddr.toNat + header.memsz.toNat < 2 ^ 64
      rw [← hvirtualEnd]
      exact virtualEnd.toNat_lt
  refine Scan.addPhysical_sound ?_ hadd
  constructor
  · refine h.placed.snoc hfits ?_
    intro previous hmem
    have hchecked := hprev previous hmem
    simp only [checkPrevious, bind_eq_ok, demand_eq_ok, refuse_eq_ok] at hchecked
    obtain ⟨previousEnd, hend, hoverlap⟩ := hchecked
    exact disjoint_loadRange hend hphys hoverlap
  · exact h.load.snoc rfl hphysicalEnd.symm
  · exact h.linked.snoc rfl hvirtualEnd.symm
  · intro address haddr
    cases hfound : entryIn entryPoint virtualEnd header.segment with
    | some found =>
      rw [hfound] at haddr
      cases haddr
      exact entryIn_eq_some (by simp) hfits hvirtualEnd hfound
    | none =>
      rw [hfound] at haddr
      exact (h.entry address haddr).snoc header.segment

theorem addHeader_sound (h : scan.Sound size entryPoint)
    (hnext : addHeader size entryPoint capacity scan header = .ok next) :
    next.Sound size entryPoint := by
  unfold addHeader at hnext
  split at hnext
  · cases hnext
    exact h
  · exact addSegment_sound h hnext

end Step

/-- **The loop.** -/
theorem scanHeaders_sound {image : PayloadImage} {entryPoint phoff : UInt64} {phnum : UInt16}
    {capacity : UInt32} {scan : Scan}
    (h : scanHeaders image entryPoint phoff phnum capacity = .ok scan) :
    scan.Sound image.size entryPoint := by
  refine foldlM_invariant (Scan.Sound image.size entryPoint) ?_
    (Scan.sound_start image.size entryPoint) h
  intro scan index next _ hscan hnext
  exact addHeader_sound hscan hnext

theorem analyze_layout {image : PayloadImage} {out plan : DirectLoadPlan}
    {validated : ValidatedImage} (h : analyze image out = .ok (validated, plan)) :
    SoundPlan image.size plan ∧ Placed image.size plan.segments := by
  simp only [analyze, bind_eq_ok, refuse_eq_ok, demand_eq_ok, pure_eq_ok, exists_const] at h
  obtain ⟨_, _, _, _, _, _, _, _, _, _, _, scan, hscan, _, entry, hentry, _, hres⟩ := h
  cases hres
  have hsound := scanHeaders_sound hscan
  exact ⟨hsound.placed.sound hsound.load hsound.linked (hsound.entry entry hentry),
    hsound.placed⟩

end Ribon.Elf64
