/-
What the direct-high entries of the architectures share.

A direct-high entry runs a kernel in the higher half from the start: page tables map its
linked addresses before control is given to it.
-/
import Ribon.Arch.Ops
import Ribon.Image.Analysis

namespace Ribon

/-- What a direct-high entry is made of. -/
structure DirectHighHandoff where
  entry : UInt64
  translationRoot : UInt64
  highEntryLoad : UInt64
  highVaddrStart : UInt64
  highVaddrEnd : UInt64
  highLoadStart : UInt64
  highLoadEnd : UInt64
  deriving DecidableEq, Repr

inductive DirectHighStatus where
  | badArgument
  | badLayout
  | outOfCapacity
  deriving DecidableEq, Repr

def alignDown (value alignment : UInt64) : UInt64 := value &&& ~~~(alignment - 1)

/-- The place where a virtual address runs, by the first segment that has it. -/
def findRuntimeForVirtualEntry (virtualEntry : UInt64) : List LoadSegment → Option UInt64
  | [] => none
  | segment :: rest =>
      if segment.memorySize == 0 ||
          decide (u64Max - segment.memorySize < segment.virtualAddress) then none
      else if decide (segment.virtualAddress ≤ virtualEntry) &&
          decide (virtualEntry < segment.virtualAddress + segment.memorySize) then
        addU64 segment.runtimeAddress (virtualEntry - segment.virtualAddress)
      else findRuntimeForVirtualEntry virtualEntry rest

/-- Nine bits of an address. -/
def indexBits (address shift : UInt64) : UInt64 := (address >>> shift) &&& 0x1ff

/-! ### Addresses as numbers -/

theorem toNat_alignDown (value : UInt64) {alignment : UInt64} (h : powerOfTwo alignment = true) :
    (alignDown value alignment).toNat = value.toNat - value.toNat % alignment.toNat := by
  rw [alignDown, toNat_and_not, toNat_and_pred h]

theorem toNat_indexBits (address shift : UInt64) (hshift : shift.toNat < 64) :
    (indexBits address shift).toNat = address.toNat / 2 ^ shift.toNat % 512 := by
  have hmask : (0x1ff : UInt64).toNat = 2 ^ 9 - 1 := rfl
  rw [indexBits, UInt64.toNat_and, UInt64.toNat_shiftRight, Nat.mod_eq_of_lt hshift, hmask,
    Nat.and_two_pow_sub_one_eq_mod, Nat.shiftRight_eq_div_pow]

/-- A mask for the pages of the addresses below a power of two. -/
theorem toNat_and_frames (value : UInt64) {mask low : UInt64} {width : Nat}
    (hmask : mask = low &&& ~~~(4096 - 1)) (hlow : low.toNat = 2 ^ width - 1) :
    (value &&& mask).toNat = value.toNat % 2 ^ width / 4096 * 4096 := by
  have hpower : powerOfTwo 4096 = true := by decide
  have hpage : (4096 : UInt64).toNat = 4096 := rfl
  rw [hmask, ← UInt64.and_assoc, toNat_and_not, toNat_and_pred hpower, UInt64.toNat_and, hlow,
    Nat.and_two_pow_sub_one_eq_mod, hpage]
  omega

end Ribon
