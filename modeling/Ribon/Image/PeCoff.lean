/-
The PE32+ parser.

The parser takes an image with a plan, for a direct entry, or without one, for a
firmware that loads the image itself.  A section that has a size becomes a segment at
the preferred base; it is checked against the sections before it in the table.
-/
import Ribon.Image.Analysis

namespace Ribon.PeCoff

open Wire

def signatureOffsetField : Nat := 0x3c
def coffHeaderSize : Nat := 20
def sectionHeaderSize : Nat := 40
def optionalMinimum : UInt16 := 112
def maxSections : UInt16 := 96

def segmentFlags (characteristics : UInt32) : UInt32 :=
  (if characteristics &&& 0x40000000 != 0 then loadSegmentRead else 0) |||
  (if characteristics &&& 0x80000000 != 0 then loadSegmentWrite else 0) |||
  (if characteristics &&& 0x20000000 != 0 then loadSegmentExecute else 0)

structure Section where
  virtualSize : UInt64
  virtualAddress : UInt64
  rawSize : UInt64
  rawOffset : UInt64
  characteristics : UInt32
  deriving DecidableEq, Repr

def readSection (bytes : List UInt8) : Section where
  virtualSize := (loadU32 (bytes.drop 8)).toUInt64
  virtualAddress := (loadU32 (bytes.drop 12)).toUInt64
  rawSize := (loadU32 (bytes.drop 16)).toUInt64
  rawOffset := (loadU32 (bytes.drop 20)).toUInt64
  characteristics := loadU32 (bytes.drop 36)

/-- A section without a virtual size has that of its bytes. -/
def Section.memorySize (section_ : Section) : UInt64 :=
  if section_.virtualSize == 0 then section_.rawSize else section_.virtualSize

/-- The segment of a section whose base is known. -/
def Section.segment (section_ : Section) (segmentBase : UInt64) (sectionAlignment : UInt32) :
    LoadSegment where
  fileOffset := section_.rawOffset
  fileSize := section_.rawSize
  memorySize := section_.memorySize
  virtualAddress := segmentBase
  linkedPhysicalAddress := segmentBase
  physicalAddress := segmentBase
  loadAddress := segmentBase
  runtimeAddress := segmentBase
  alignment := sectionAlignment.toUInt64
  flags := segmentFlags section_.characteristics

/-- The header fields that the loop reads. -/
structure Header where
  direct : Bool
  size : UInt64
  entryRva : UInt32
  imageBase : UInt64
  sectionAlignment : UInt32
  deriving DecidableEq, Repr

/-- What the loop over the sections carries along. -/
structure Scan where
  segments : List LoadSegment
  emittedSegments : Nat
  imageStart : UInt64
  imageEnd : UInt64
  entrySeen : Bool
  deriving DecidableEq, Repr

def Scan.start : Scan := ⟨[], 0, u64Max, 0, false⟩

/-- A section before this one, unless it is empty. -/
def checkPrevious (header : Header) (segmentBase segmentEnd : UInt64) (previous : Section) :
    Except LoaderStatus Unit :=
  if previous.memorySize == 0 then .ok ()
  else do
    let previousBase ← demand (addU64 header.imageBase previous.virtualAddress)
      .overlappingSegments
    let previousEnd ← demand (addU64 previousBase previous.memorySize) .overlappingSegments
    refuse (decide (segmentBase < previousEnd) && decide (previousBase < segmentEnd))
      .overlappingSegments

def entryIn (header : Header) (section_ : Section) : Bool :=
  decide (section_.virtualAddress ≤ header.entryRva.toUInt64) &&
  decide (header.entryRva.toUInt64 < section_.virtualAddress + section_.memorySize) &&
  segmentFlags section_.characteristics &&& loadSegmentExecute != 0

/-- A section that is not empty, after the sections `seen`. -/
def addSection (header : Header) (seen : List Section) (scan : Scan) (section_ : Section) :
    Except LoaderStatus Scan := do
  let rawEnd ← demand (addU64 section_.rawOffset section_.rawSize) .badFormat
  refuse (decide (header.size < rawEnd) ||
    (header.direct && decide (section_.memorySize < section_.rawSize))) .badFormat
  let segmentBase ← demand (addU64 header.imageBase section_.virtualAddress) .badFormat
  let segmentEnd ← demand (addU64 segmentBase section_.memorySize) .badFormat
  refuse (header.direct &&
    section_.virtualAddress % header.sectionAlignment.toUInt64 != 0) .badFormat
  seen.forM (checkPrevious header segmentBase segmentEnd)
  return {
    segments :=
      if header.direct then
        scan.segments ++ [section_.segment segmentBase header.sectionAlignment]
      else scan.segments
    emittedSegments := scan.emittedSegments + 1
    imageStart := lower scan.imageStart segmentBase
    imageEnd := raise scan.imageEnd segmentEnd
    entrySeen := scan.entrySeen || entryIn header section_ }

def addIfPresent (header : Header) (seen : List Section) (scan : Scan) (section_ : Section) :
    Except LoaderStatus Scan :=
  if section_.memorySize == 0 then .ok scan else addSection header seen scan section_

/-- The loop; `seen` are the sections before. -/
def scanSections (header : Header) :
    List Section → Scan → List Section → Except LoaderStatus Scan
  | _, scan, [] => .ok scan
  | seen, scan, section_ :: rest => do
      let scan ← addIfPresent header seen scan section_
      scanSections header (seen ++ [section_]) scan rest

def readSections (data : List UInt8) (offset count : Nat) : List Section :=
  (List.range count).map fun index => readSection (data.drop (offset + index * sectionHeaderSize))

def Scan.plan (scan : Scan) (out : DirectLoadPlan) (entryPoint : UInt64) : DirectLoadPlan where
  size := directLoadPlanSizeOf
  abiVersion := directLoadPlanAbiVersion
  loadPlanFlags := loadPlanEntryLoadValid ||| loadPlanRuntimeEntryValid ||| loadPlanUsesPaddr |||
    loadPlanHasLinkedPhysicalRange
  entryPoint := entryPoint
  entryLoadAddress := entryPoint
  runtimeEntryAddress := entryPoint
  loadBase := scan.imageStart
  loadEnd := scan.imageEnd
  runtimeLoadBase := scan.imageStart
  runtimeLoadEnd := scan.imageEnd
  memorySize := scan.imageEnd - scan.imageStart
  linkedVirtualBase := scan.imageStart
  linkedVirtualEnd := scan.imageEnd
  linkedPhysicalBase := scan.imageStart
  linkedPhysicalEnd := scan.imageEnd
  highEntryVirtualAddress := 0
  highEntryLoadAddress := 0
  segments := scan.segments
  storage := out.storage
  segmentCapacity := out.segmentCapacity

def analyze (image : PayloadImage) (out : Option DirectLoadPlan) :
    Except LoaderStatus (ValidatedImage × Option DirectLoadPlan) := do
  refuse (out.any (!directLoadPlanHasStorage ·) ||
    decide (image.size.toNat < signatureOffsetField + 4)) .badArgument
  let bytes := image.data
  refuse (byteAt bytes 0 != 0x4d || byteAt bytes 1 != 0x5a) .badFormat
  let signature := loadU32 (bytes.drop signatureOffsetField)
  let peOffset := signature.toNat
  refuse (decide (image.size.toNat < peOffset + 4 + coffHeaderSize)) .truncated
  -- The bytes of the signature are indexed by 32-bit sums.
  refuse (byteAt bytes peOffset != 0x50 || byteAt bytes (signature + 1).toNat != 0x45 ||
    byteAt bytes (signature + 2).toNat != 0 || byteAt bytes (signature + 3).toNat != 0) .badFormat
  let machine := loadU16 (bytes.drop (peOffset + 4))
  let sectionCount := loadU16 (bytes.drop (peOffset + 6))
  let optionalSize := loadU16 (bytes.drop (peOffset + 20))
  refuse (machine == 0) .unsupported
  refuse (sectionCount == 0 || decide (maxSections < sectionCount) ||
    out.any (fun plan => decide (plan.segmentCapacity.toNat < sectionCount.toNat)) ||
    decide (optionalSize < optionalMinimum)) .badFormat
  let tableOffset := peOffset + 4 + coffHeaderSize + optionalSize.toNat
  refuse (decide (image.size.toNat < tableOffset + sectionCount.toNat * sectionHeaderSize))
    .truncated
  let optional := bytes.drop (peOffset + 4 + coffHeaderSize)
  refuse (loadU16 optional != 0x20b) .unsupported
  let header : Header := {
    direct := out.isSome
    size := image.size
    entryRva := loadU32 (optional.drop 16)
    imageBase := loadU64 (optional.drop 24)
    sectionAlignment := loadU32 (optional.drop 32) }
  refuse (header.entryRva == 0 || (header.direct && header.imageBase == 0) ||
    header.sectionAlignment == 0 ||
    header.sectionAlignment &&& (header.sectionAlignment - 1) != 0) .badFormat
  let scan ← scanSections header [] Scan.start
    (readSections bytes tableOffset sectionCount.toNat)
  refuse (scan.emittedSegments == 0 || !scan.entrySeen ||
    decide (scan.imageEnd ≤ scan.imageStart)) .noLoadSegments
  return ({
    size := validatedImageSizeOf
    abiVersion := validatedImageAbiVersion
    format := .peCoff
    machine := machine
    reserved := 0
    executionSupport := imageExecutionDirectEntry ||| imageExecutionFirmwareManaged
    imageSize := image.size
    validationReceipt := sectionCount.toUInt64 <<< 32 ||| header.entryRva.toUInt64 },
    out.map fun plan => scan.plan plan (header.imageBase + header.entryRva.toUInt64))

/-! ### The loop -/

/-- The segment of a section, unless it is empty or its base does not exist. -/
def segmentOf (header : Header) (section_ : Section) : Option LoadSegment :=
  if section_.memorySize == 0 then none
  else (addU64 header.imageBase section_.virtualAddress).map fun base =>
    section_.segment base header.sectionAlignment

/-- What the loop keeps, for a direct entry. -/
structure Scan.Sound (header : Header) (seen : List Section) (scan : Scan) : Prop where
  segments : scan.segments = seen.filterMap (segmentOf header)
  placed : Placed header.size scan.segments
  load : Spans LoadSegment.loadStart LoadSegment.loadEnd scan.segments scan.imageStart
    scan.imageEnd
  same : ∀ segment ∈ scan.segments, segment.virtualAddress = segment.loadAddress
  entry : scan.entrySeen = true → EntersAt scan.segments
    (header.imageBase + header.entryRva.toUInt64) (header.imageBase + header.entryRva.toUInt64)

theorem Scan.sound_start (header : Header) : Scan.start.Sound header [] :=
  ⟨rfl, placed_nil _, spans_nil, by simp [Scan.start], nofun⟩

section Step

variable {header : Header} {seen : List Section} {scan next : Scan} {section_ : Section}

/-- A section that passed the check lies beside the segments of the ones before. -/
theorem disjoint_previous {segmentBase segmentEnd : UInt64} {previous : LoadSegment}
    (hchecks : ∀ s ∈ seen, checkPrevious header segmentBase segmentEnd s = .ok ())
    (hend : addU64 segmentBase section_.memorySize = some segmentEnd)
    (hprev : previous ∈ seen.filterMap (segmentOf header)) :
    Disjoint previous.loadRange
      (section_.segment segmentBase header.sectionAlignment).loadRange := by
  obtain ⟨s, hs, hseg⟩ := List.mem_filterMap.mp hprev
  have hcheck := hchecks s hs
  unfold segmentOf at hseg
  unfold checkPrevious at hcheck
  by_cases hempty : (s.memorySize == 0) = true
  · rw [if_pos hempty] at hseg
    cases hseg
  · rw [if_neg hempty] at hseg hcheck
    obtain ⟨base, hbase, rfl⟩ := Option.map_eq_some_iff.mp hseg
    simp only [bind_eq_ok, demand_eq_ok, refuse_eq_ok] at hcheck
    obtain ⟨base', hbase', previousEnd, hpreviousEnd, hoverlap⟩ := hcheck
    cases hbase.symm.trans hbase'
    rw [Bool.and_comm] at hoverlap
    exact disjoint_loadRange hpreviousEnd hend hoverlap

/-- The entry of a section, at the preferred base. -/
theorem entersAt_of_entryIn {segments : List LoadSegment} {segmentBase : UInt64}
    (hbase : addU64 header.imageBase section_.virtualAddress = some segmentBase)
    (hfits : SegmentFits header.size (section_.segment segmentBase header.sectionAlignment))
    (hmem : section_.segment segmentBase header.sectionAlignment ∈ segments)
    (h : entryIn header section_ = true) :
    EntersAt segments (header.imageBase + header.entryRva.toUInt64)
      (header.imageBase + header.entryRva.toUInt64) := by
  unfold entryIn at h
  simp only [Bool.and_eq_true, decide_eq_true_eq, UInt64.le_iff_toNat_le,
    UInt64.lt_iff_toNat_lt] at h
  obtain ⟨⟨hstart, hlast⟩, hexec⟩ := h
  have hbaseNat := addU64_eq_some hbase
  have hend : segmentBase.toNat + section_.memorySize.toNat < 2 ^ 64 := hfits.loadEnd
  have hsum : (section_.virtualAddress + section_.memorySize).toNat =
      section_.virtualAddress.toNat + section_.memorySize.toNat := by
    rw [UInt64.toNat_add, Nat.mod_eq_of_lt (by omega)]
  rw [hsum] at hlast
  have hentry : (header.imageBase + header.entryRva.toUInt64).toNat =
      header.imageBase.toNat + header.entryRva.toUInt64.toNat := by
    rw [UInt64.toNat_add, Nat.mod_eq_of_lt (by omega)]
  refine ⟨_, hmem, hexec, ?_, ?_⟩
  · rw [hentry]
    show segmentBase.toNat ≤ _ ∧ _ < segmentBase.toNat + section_.memorySize.toNat
    omega
  · rw [hentry]
    show _ = segmentBase.toNat + (_ - segmentBase.toNat)
    omega

/-- **One section.** -/
theorem addSection_sound (hdir : header.direct = true) (h : scan.Sound header seen)
    (hsize : section_.memorySize ≠ 0) (hnext : addSection header seen scan section_ = .ok next) :
    next.Sound header (seen ++ [section_]) := by
  simp only [addSection, bind_eq_ok, refuse_eq_ok, demand_eq_ok, forM_eq_ok, pure_eq_ok,
    exists_const, hdir, if_true, Bool.true_and] at hnext
  obtain ⟨rawEnd, hraw, hfile, segmentBase, hbase, segmentEnd, hend, _, hprev, rfl⟩ := hnext
  simp only [Bool.or_eq_false_iff, decide_eq_false_iff_not, UInt64.not_lt] at hfile
  have hrawNat := addU64_eq_some hraw
  have hendNat := addU64_eq_some hend
  have hfileNat := UInt64.le_iff_toNat_le.mp hfile.1
  have hmemory := ne_zero_iff.mp hsize
  have hwrap : segmentBase.toNat + section_.memorySize.toNat < 2 ^ 64 := by
    rw [← hendNat]
    exact segmentEnd.toNat_lt
  have hfits : SegmentFits header.size (section_.segment segmentBase header.sectionAlignment) := by
    refine ⟨?_, hfile.2, hmemory, hwrap, hwrap, rfl⟩
    show section_.rawOffset.toNat + section_.rawSize.toNat ≤ header.size.toNat
    omega
  have hseg : segmentOf header section_ =
      some (section_.segment segmentBase header.sectionAlignment) := by
    unfold segmentOf
    rw [if_neg (by simpa using hsize), hbase]
    rfl
  constructor
  · simp [h.segments, hseg]
  · refine h.placed.snoc hfits ?_
    intro previous hmem
    rw [h.segments] at hmem
    exact disjoint_previous hprev hend hmem
  · exact h.load.snoc rfl hendNat.symm
  · exact List.forall_mem_append.mpr ⟨h.same, List.forall_mem_singleton.mpr rfl⟩
  · intro hseen
    cases hentry : entryIn header section_ with
    | true => exact entersAt_of_entryIn hbase hfits (by simp) hentry
    | false =>
      rw [hentry, Bool.or_false] at hseen
      exact (h.entry hseen).snoc _

theorem addIfPresent_sound (hdir : header.direct = true) (h : scan.Sound header seen)
    (hnext : addIfPresent header seen scan section_ = .ok next) :
    next.Sound header (seen ++ [section_]) := by
  unfold addIfPresent at hnext
  split at hnext
  · next hempty =>
    cases hnext
    refine ⟨?_, h.placed, h.load, h.same, h.entry⟩
    have hnone : segmentOf header section_ = none := by
      unfold segmentOf
      rw [if_pos hempty]
    simp [h.segments, hnone]
  · next hempty =>
    exact addSection_sound hdir h (by simpa using hempty) hnext

end Step

/-- **The loop.** -/
theorem scanSections_sound {header : Header} (hdir : header.direct = true)
    {seen rest : List Section} {scan final : Scan} (h : scan.Sound header seen)
    (hscan : scanSections header seen scan rest = .ok final) :
    final.Sound header (seen ++ rest) := by
  induction rest generalizing seen scan with
  | nil =>
    cases hscan
    simpa using h
  | cons section_ rest ih =>
    simp only [scanSections, bind_eq_ok] at hscan
    obtain ⟨next, hnext, hrest⟩ := hscan
    have hfinal := ih (addIfPresent_sound hdir h hnext) hrest
    simpa using hfinal

/-- The virtual bounds are those of the load addresses. -/
theorem Scan.Sound.linked {header : Header} {seen : List Section} {scan : Scan}
    (h : scan.Sound header seen) : Spans LoadSegment.virtualStart LoadSegment.virtualEnd
      scan.segments scan.imageStart scan.imageEnd := by
  have hstart : LoadSegment.virtualStart '' {s | s ∈ scan.segments} =
      LoadSegment.loadStart '' {s | s ∈ scan.segments} := by
    refine Set.image_congr fun s hs => ?_
    rw [LoadSegment.virtualStart, LoadSegment.loadStart, h.same s hs]
  have hend : LoadSegment.virtualEnd '' {s | s ∈ scan.segments} =
      LoadSegment.loadEnd '' {s | s ∈ scan.segments} := by
    refine Set.image_congr fun s hs => ?_
    rw [LoadSegment.virtualEnd, LoadSegment.loadEnd, h.same s hs]
  constructor
  · rw [hstart]
    exact h.load.least
  · rw [hend]
    exact h.load.greatest

theorem analyze_layout {image : PayloadImage} {out plan : DirectLoadPlan}
    {validated : ValidatedImage} (h : analyze image (some out) = .ok (validated, some plan)) :
    SoundPlan image.size plan ∧ Placed image.size plan.segments := by
  simp only [analyze, bind_eq_ok, refuse_eq_ok, pure_eq_ok, exists_const] at h
  obtain ⟨_, _, _, _, _, _, _, _, _, scan, hscan, hchecks, hres⟩ := h
  have hsound := scanSections_sound rfl (Scan.sound_start _) hscan
  simp only [Bool.or_eq_false_iff, Bool.not_eq_false'] at hchecks
  cases hres
  exact ⟨hsound.placed.sound hsound.load hsound.linked (hsound.entry hchecks.1.2),
    hsound.placed⟩

end Ribon.PeCoff
