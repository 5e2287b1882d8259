/-
The parsers of the raw Linux images, and what all the parsers have in common.

A raw image is one segment.  Its plan is relative: the addresses count from a window
that the boot library chooses.
-/
import Ribon.Image.Elf64
import Ribon.Image.PeCoff

namespace Ribon

open Wire

namespace LinuxImage

def headerSize : UInt64 := 64

/-- The one segment of a raw image. -/
def segment (image : PayloadImage) (offset imageSize alignment : UInt64) : LoadSegment where
  fileOffset := 0
  fileSize := image.size
  memorySize := imageSize
  virtualAddress := offset
  linkedPhysicalAddress := offset
  physicalAddress := offset
  loadAddress := offset
  runtimeAddress := offset
  alignment := alignment
  flags := loadSegmentRead ||| loadSegmentWrite ||| loadSegmentExecute

def plan (image : PayloadImage) (out : DirectLoadPlan)
    (offset imageSize imageEnd alignment : UInt64) : DirectLoadPlan where
  size := directLoadPlanSizeOf
  abiVersion := directLoadPlanAbiVersion
  loadPlanFlags := loadPlanEntryLoadValid ||| loadPlanRuntimeEntryValid ||| loadPlanRelocatable
  entryPoint := offset
  entryLoadAddress := offset
  runtimeEntryAddress := offset
  loadBase := offset
  loadEnd := imageEnd
  runtimeLoadBase := offset
  runtimeLoadEnd := imageEnd
  memorySize := imageSize
  linkedVirtualBase := offset
  linkedVirtualEnd := imageEnd
  linkedPhysicalBase := offset
  linkedPhysicalEnd := imageEnd
  highEntryVirtualAddress := 0
  highEntryLoadAddress := 0
  segments := [segment image offset imageSize alignment]
  storage := out.storage
  segmentCapacity := out.segmentCapacity

def validated (image : PayloadImage) (format : ExecutableFormat) (machine : UInt16)
    (receipt : UInt64) : ValidatedImage where
  size := validatedImageSizeOf
  abiVersion := validatedImageAbiVersion
  format := format
  machine := machine
  reserved := 0
  executionSupport := imageExecutionDirectEntry
  imageSize := image.size
  validationReceipt := receipt

theorem plan_layout {image : PayloadImage} {out : DirectLoadPlan}
    {offset imageSize imageEnd alignment : UInt64} (hzero : imageSize ≠ 0)
    (hsize : image.size ≤ imageSize) (hend : imageEnd.toNat = offset.toNat + imageSize.toNat) :
    SoundPlan image.size (plan image out offset imageSize imageEnd alignment) ∧
      Placed image.size (plan image out offset imageSize imageEnd alignment).segments := by
  have hpos := ne_zero_iff.mp hzero
  have hwrap : offset.toNat + imageSize.toNat < 2 ^ 64 := by
    rw [← hend]
    exact imageEnd.toNat_lt
  have hfits : SegmentFits image.size (segment image offset imageSize alignment) := by
    refine ⟨?_, hsize, hpos, hwrap, hwrap, rfl⟩
    show (0 : UInt64).toNat + image.size.toNat ≤ image.size.toNat
    have hnone : (0 : UInt64).toNat = 0 := rfl
    omega
  have hplaced : Placed image.size [segment image offset imageSize alignment] :=
    (placed_nil image.size).snoc hfits (by simp)
  have hset : ∀ f : LoadSegment → Nat,
      f '' {s | s ∈ (plan image out offset imageSize imageEnd alignment).segments} =
        {f (segment image offset imageSize alignment)} := by
    intro f
    simp [plan]
  have hbase : IsLeast {offset.toNat} offset.toNat := isLeast_singleton
  have hlast : IsGreatest {offset.toNat + imageSize.toNat} imageEnd.toNat := by
    rw [hend]
    exact isGreatest_singleton
  refine ⟨?_, hplaced⟩
  constructor
  · exact fun s hs => ⟨(hplaced.fits s hs).file, (hplaced.fits s hs).room⟩
  · exact fun s hs => (hplaced.fits s hs).loadEnd
  · exact hplaced.disjoint
  · rw [hset]
    exact hbase
  · rw [hset]
    exact hlast
  · rw [hset]
    exact hbase
  · rw [hset]
    exact hlast
  · refine ⟨_, List.mem_singleton.mpr rfl, ?_, ?_, ?_⟩
    · show (loadSegmentRead ||| loadSegmentWrite ||| loadSegmentExecute) &&&
        loadSegmentExecute != 0
      decide
    · show offset.toNat ≤ offset.toNat ∧ offset.toNat < offset.toNat + imageSize.toNat
      omega
    · show offset.toNat = offset.toNat + (offset.toNat - offset.toNat)
      omega

end LinuxImage

namespace LinuxAarch64

def magic : UInt32 := 0x644d5241
def machine : UInt16 := 183
def flagBigEndian : UInt64 := 1
def knownFlags : UInt64 := 0xf
def minAlignment : UInt64 := 4096

def analyze (image : PayloadImage) (out : DirectLoadPlan) :
    Except LoaderStatus (ValidatedImage × DirectLoadPlan) := do
  refuse (!directLoadPlanHasStorage out) .badArgument
  refuse (decide (image.size < LinuxImage.headerSize)) .truncated
  let bytes := image.data
  refuse (loadU32 (bytes.drop 56) != magic) .badFormat
  let textOffset := loadU64 (bytes.drop 8)
  let imageSize := loadU64 (bytes.drop 16)
  let flags := loadU64 (bytes.drop 24)
  refuse (imageSize == 0 || decide (imageSize < image.size) || flags &&& flagBigEndian != 0 ||
    flags &&& ~~~knownFlags != 0 || !aligned textOffset minAlignment ||
    loadU64 (bytes.drop 32) != 0 || loadU64 (bytes.drop 40) != 0 ||
    loadU64 (bytes.drop 48) != 0) .unsupported
  let imageEnd ← demand (addU64 textOffset imageSize) .overflow
  return (LinuxImage.validated image .linuxAarch64 machine flags,
    LinuxImage.plan image out textOffset imageSize imageEnd minAlignment)

theorem analyze_layout {image : PayloadImage} {out plan : DirectLoadPlan}
    {validated : ValidatedImage} (h : analyze image out = .ok (validated, plan)) :
    SoundPlan image.size plan ∧ Placed image.size plan.segments := by
  simp only [analyze, bind_eq_ok, refuse_eq_ok, demand_eq_ok, pure_eq_ok, exists_const] at h
  obtain ⟨_, _, _, hchecks, imageEnd, hend, hres⟩ := h
  simp only [Bool.or_eq_false_iff, beq_eq_false_iff_ne, decide_eq_false_iff_not,
    UInt64.not_lt] at hchecks
  cases hres
  exact LinuxImage.plan_layout (by tauto) (by tauto) (addU64_eq_some hend)

end LinuxAarch64

namespace LinuxRiscv64

def machine : UInt16 := 243
def textOffset : UInt64 := 0x200000
def alignment : UInt64 := 0x200000
def maxImageSize : UInt64 := 0x4000000
def headerVersion : UInt32 := 2
def magic : UInt64 := 0x0000005643534952
def magic2 : UInt32 := 0x05435352
def knownFlags : UInt64 := 1

/-- Little endian and no unknown flag, so no flag at all. -/
def flagsAreKnown (flags : UInt64) : Bool := flags &&& 1 == 0 && flags &&& ~~~knownFlags == 0

def peHeaderIsValid (image : PayloadImage) (offset : UInt32) : Bool :=
  offset == 0 || (decide (LinuxImage.headerSize ≤ offset.toUInt64) &&
    decide (offset.toUInt64 ≤ image.size - 4) &&
    loadU32 (image.data.drop offset.toNat) == 0x00004550)

/-- Unlike the other raw image, this one is linked to the start of the window: the text offset
is checked and not used. -/
def analyze (image : PayloadImage) (out : DirectLoadPlan) :
    Except LoaderStatus (ValidatedImage × DirectLoadPlan) := do
  refuse (!directLoadPlanHasStorage out) .badArgument
  refuse (decide (image.size < LinuxImage.headerSize)) .truncated
  let bytes := image.data
  let imageSize := loadU64 (bytes.drop 16)
  let version := loadU32 (bytes.drop 32)
  let peHeaderOffset := loadU32 (bytes.drop 60)
  refuse (loadU64 (bytes.drop 48) != magic || loadU32 (bytes.drop 56) != magic2) .badFormat
  refuse (loadU64 (bytes.drop 8) != textOffset || imageSize == 0 ||
    decide (imageSize < image.size) || decide (maxImageSize < imageSize) ||
    version != headerVersion || !flagsAreKnown (loadU64 (bytes.drop 24)) ||
    loadU32 (bytes.drop 36) != 0 || loadU64 (bytes.drop 40) != 0 ||
    !peHeaderIsValid image peHeaderOffset) .unsupported
  return (LinuxImage.validated image .linuxRiscv64 machine
      (version.toUInt64 <<< 32 ||| peHeaderOffset.toUInt64),
    LinuxImage.plan image out 0 imageSize imageSize alignment)

theorem analyze_layout {image : PayloadImage} {out plan : DirectLoadPlan}
    {validated : ValidatedImage} (h : analyze image out = .ok (validated, plan)) :
    SoundPlan image.size plan ∧ Placed image.size plan.segments := by
  simp only [analyze, bind_eq_ok, refuse_eq_ok, pure_eq_ok, exists_const] at h
  obtain ⟨_, _, _, hchecks, hres⟩ := h
  simp only [Bool.or_eq_false_iff, beq_eq_false_iff_ne, decide_eq_false_iff_not,
    UInt64.not_lt] at hchecks
  cases hres
  refine LinuxImage.plan_layout (by tauto) (by tauto) ?_
  have hzero : (0 : UInt64).toNat = 0 := rfl
  omega

end LinuxRiscv64

/-- A parser has accepted an image with a plan. -/
inductive Analyzed (image : PayloadImage) (out : DirectLoadPlan) :
    ValidatedImage → DirectLoadPlan → Prop
  | elf64 {validated : ValidatedImage} {plan : DirectLoadPlan}
      (h : Elf64.analyze image out = .ok (validated, plan)) : Analyzed image out validated plan
  | peCoff {validated : ValidatedImage} {plan : DirectLoadPlan}
      (h : PeCoff.analyze image (some out) = .ok (validated, some plan)) :
      Analyzed image out validated plan
  | linuxAarch64 {validated : ValidatedImage} {plan : DirectLoadPlan}
      (h : LinuxAarch64.analyze image out = .ok (validated, plan)) :
      Analyzed image out validated plan
  | linuxRiscv64 {validated : ValidatedImage} {plan : DirectLoadPlan}
      (h : LinuxRiscv64.analyze image out = .ok (validated, plan)) :
      Analyzed image out validated plan

theorem Analyzed.layout {image : PayloadImage} {out plan : DirectLoadPlan}
    {validated : ValidatedImage} (h : Analyzed image out validated plan) :
    SoundPlan image.size plan ∧ Placed image.size plan.segments := by
  cases h with
  | elf64 h => exact Elf64.analyze_layout h
  | peCoff h => exact PeCoff.analyze_layout h
  | linuxAarch64 h => exact LinuxAarch64.analyze_layout h
  | linuxRiscv64 h => exact LinuxRiscv64.analyze_layout h

/-- **Every parser.**  A plan that comes out of one is sound, whatever the bytes are. -/
theorem Analyzed.soundPlan {image : PayloadImage} {out plan : DirectLoadPlan}
    {validated : ValidatedImage} (h : Analyzed image out validated plan) :
    SoundPlan image.size plan :=
  h.layout.1

/-! ### An ELF image with two segments -/

namespace Elf64.Bench

def header (count : UInt16) : List UInt8 :=
  [0x7f, 0x45, 0x4c, 0x46, 2, 1, 1, 0, 0, 0, 0, 0, 0, 0, 0, 0] ++ storeU16 2 ++ storeU16 62 ++
    storeU32 1 ++ storeU64 0x100010 ++ storeU64 64 ++ storeU64 0 ++ storeU32 0 ++ storeU16 64 ++
    storeU16 56 ++ storeU16 count ++ List.replicate 6 0

/-- A segment without bytes of its own, at these addresses. -/
def programHeader (flags : UInt32) (vaddr paddr memsz : UInt64) : List UInt8 :=
  storeU32 1 ++ storeU32 flags ++ storeU64 0 ++ storeU64 vaddr ++ storeU64 paddr ++ storeU64 0 ++
    storeU64 memsz ++ storeU64 0

def image (headers : List (List UInt8)) : PayloadImage where
  data := header headers.length.toUInt16 ++ headers.flatten
  size := (64 + 56 * headers.length).toUInt64
  sourceName := none

def out : DirectLoadPlan := { (default : DirectLoadPlan) with storage := true, segmentCapacity := 4 }

def twoSegments : PayloadImage :=
  image [programHeader 5 0x100000 0x100000 0x1000, programHeader 6 0x200000 0x200000 0x1000]

theorem twoSegments_analyzed : ∃ validated plan, Analyzed twoSegments out validated plan ∧
    plan.segments.length = 2 ∧ SoundPlan twoSegments.size plan := by
  cases hres : Elf64.analyze twoSegments out with
  | error status =>
    have hok : (Elf64.analyze twoSegments out).isOk = true := by decide +kernel
    rw [hres] at hok
    cases hok
  | ok result =>
    have hcount : (Elf64.analyze twoSegments out).toOption.map (·.2.segments.length) = some 2 := by
      decide +kernel
    rw [hres] at hcount
    exact ⟨result.1, result.2, .elf64 hres, Option.some.inj hcount,
      Analyzed.soundPlan (.elf64 hres)⟩

end Elf64.Bench

end Ribon
