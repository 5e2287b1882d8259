/-
Memory regions, and the map that the core makes of them: sorted by base, without
overlaps, neighbours of one class merged.
-/
import Ribon.Native

namespace Ribon

inductive MemoryRegionKind where
  | unknown
  | usable
  | reserved
  | acpi
  | mmio
  | framebuffer
  | firmware
  | bootloader
  | kernelImage
  | bootModule
  deriving DecidableEq, Repr, Inhabited

inductive MemoryStatus where
  | badArgument
  | overflow
  | outOfCapacity
  | overlap
  deriving DecidableEq, Repr

structure MemoryRegion where
  base : UInt64
  length : UInt64
  kind : MemoryRegionKind
  attributes : UInt64
  deriving DecidableEq, Repr, Inhabited

/-- A caller's array for a normalized map; `storage` is whether there is one. -/
structure MutableMemoryMap where
  storage : Bool
  regions : List MemoryRegion
  capacity : UInt32
  deriving DecidableEq, Repr, Inhabited

def memoryRegionEnd (region : MemoryRegion) : Except MemoryStatus UInt64 := do
  refuse (region.length == 0) .badArgument
  demand (addU64 region.base region.length) .overflow

def memoryRegionIsValid (region : MemoryRegion) : Bool :=
  region.length != 0 && (memoryRegionEnd region).isOk

def memoryRegionSameClass (lhs rhs : MemoryRegion) : Bool :=
  lhs.kind == rhs.kind && lhs.attributes == rhs.attributes

/-- A region goes behind the regions with the same base or a smaller one. -/
def memoryRegionInsertSorted (regions : List MemoryRegion) (capacity : UInt32)
    (region : MemoryRegion) : Except MemoryStatus (List MemoryRegion) := do
  refuse (decide (capacity.toNat ≤ regions.length)) .outOfCapacity
  return regions.takeWhile (fun other => decide (other.base ≤ region.base)) ++
    region :: regions.dropWhile fun other => decide (other.base ≤ region.base)

/-- The merge in place; `written` is what it has written so far, the last region first. -/
def memoryMapMergeAdjacent :
    List MemoryRegion → List MemoryRegion → Except MemoryStatus (List MemoryRegion)
  | written, [] => .ok written.reverse
  | written, current :: rest => do
      let _ ← mapStatus (fun _ => MemoryStatus.overflow) (memoryRegionEnd current)
      match written with
      | [] => memoryMapMergeAdjacent [current] rest
      | previous :: before =>
          let previousEnd ← mapStatus (fun _ => MemoryStatus.overflow) (memoryRegionEnd previous)
          refuse (decide (current.base < previousEnd)) .overlap
          if current.base == previousEnd && memoryRegionSameClass previous current then
            memoryMapMergeAdjacent
              ({ previous with length := previous.length + current.length } :: before) rest
          else memoryMapMergeAdjacent (current :: written) rest

def memoryMapNormalize (source : List MemoryRegion) (destination : MutableMemoryMap) :
    Except MemoryStatus MutableMemoryMap := do
  refuse (!destination.storage) .badArgument
  let sorted ← source.foldlM (fun regions region => do
    refuse (!memoryRegionIsValid region) MemoryStatus.badArgument
    memoryRegionInsertSorted regions destination.capacity region) []
  let merged ← memoryMapMergeAdjacent [] sorted
  return { destination with regions := merged }

/-- The usable bytes; the largest value stands for a sum that does not fit. -/
def memoryMapUsableBytes (regions : List MemoryRegion) : UInt64 :=
  (regions.foldlM (fun total region =>
    if region.kind != .usable then some total else addU64 total region.length) 0).getD u64Max

/-! ### Alignment -/

def memoryAlignDown (value alignment : UInt64) : UInt64 :=
  if alignment == 0 then value else value - value % alignment

/-- The boundary at or above a value, unless there is none. -/
def memoryAlignUp (value alignment : UInt64) : Option UInt64 :=
  if alignment == 0 then none
  else
    let remainder := value % alignment
    if remainder == 0 then some value else addU64 value (alignment - remainder)

theorem toNat_memoryAlignDown (value : UInt64) {alignment : UInt64} (h : alignment ≠ 0) :
    (memoryAlignDown value alignment).toNat = value.toNat - value.toNat % alignment.toNat := by
  have hle : (value % alignment).toNat ≤ value.toNat := by
    rw [UInt64.toNat_mod]
    exact Nat.mod_le _ _
  rw [memoryAlignDown, if_neg (by simpa using h), toNat_sub_of_le, UInt64.toNat_mod]

/-- The boundary, if there is one, is the next multiple. -/
theorem memoryAlignUp_eq_some {value alignment total : UInt64}
    (h : memoryAlignUp value alignment = some total) :
    total.toNat = (value.toNat + (alignment.toNat - 1)) / alignment.toNat * alignment.toNat := by
  unfold memoryAlignUp at h
  split at h
  · cases h
  next hzero =>
  have hpos := ne_zero_iff.mp (by simpa using hzero)
  have hmod : (value % alignment).toNat = value.toNat % alignment.toNat := UInt64.toNat_mod _ _
  have hsplit := Nat.div_add_mod value.toNat alignment.toNat
  by_cases halign : (value % alignment == 0) = true
  · rw [if_pos halign] at h
    cases h
    rw [beq_iff_eq] at halign
    have hzeros : value.toNat % alignment.toNat = 0 := by rw [← hmod, halign]; rfl
    have hmultiple := Nat.div_mul_cancel (Nat.dvd_of_mod_eq_zero hzeros)
    conv_rhs => rw [← hmultiple]
    rw [Nat.add_comm, Nat.add_mul_div_right _ _ hpos,
      Nat.div_eq_of_lt (show alignment.toNat - 1 < alignment.toNat by omega), Nat.zero_add,
      hmultiple]
  · rw [if_neg halign] at h
    have hlt := Nat.mod_lt value.toNat hpos
    have hne : value.toNat % alignment.toNat ≠ 0 := by
      intro hzeros
      refine halign ?_
      rw [beq_iff_eq]
      exact UInt64.toNat_inj.mp (hmod.trans hzeros)
    have hdelta : (alignment - value % alignment).toNat =
        alignment.toNat - value.toNat % alignment.toNat := by
      rw [toNat_sub_of_le, hmod]
    rw [addU64_eq_some h, hdelta]
    generalize hq : value.toNat / alignment.toNat = q at *
    have hround : value.toNat + (alignment.toNat - 1) =
        (value.toNat % alignment.toNat - 1) + (q + 1) * alignment.toNat := by
      rw [Nat.succ_mul, Nat.mul_comm q]
      omega
    rw [hround, Nat.add_mul_div_right _ _ hpos, Nat.div_eq_of_lt (by omega), Nat.zero_add,
      Nat.succ_mul, Nat.mul_comm q]
    omega

end Ribon
