/-
Words with their greatest byte first.

The same bytes as in the other order, so what is read back is what was written because it is
so there.
-/
import Ribon.Wire.Bytes

namespace Wire

def storeBe32 (v : UInt32) : List UInt8 :=
  [(v >>> 24).toUInt8, (v >>> 16).toUInt8, (v >>> 8).toUInt8, v.toUInt8]

def storeBe64 (v : UInt64) : List UInt8 := storeBe32 (v >>> 32).toUInt32 ++ storeBe32 v.toUInt32

def loadBe32 (bs : List UInt8) : UInt32 :=
  ((byteAt bs 0).toUInt32 <<< 24) ||| ((byteAt bs 1).toUInt32 <<< 16) |||
    ((byteAt bs 2).toUInt32 <<< 8) ||| (byteAt bs 3).toUInt32

def loadBe64 (bs : List UInt8) : UInt64 :=
  ((loadBe32 bs).toUInt64 <<< 32) ||| (loadBe32 (bs.drop 4)).toUInt64

@[simp] theorem length_storeBe32 (v : UInt32) : (storeBe32 v).length = 4 := rfl
@[simp] theorem length_storeBe64 (v : UInt64) : (storeBe64 v).length = 8 := rfl

theorem or_reverse (x y z w : UInt32) : x ||| y ||| z ||| w = w ||| z ||| y ||| x := by
  ac_rfl

theorem loadBe32_eq (bs : List UInt8) :
    loadBe32 bs = loadU32 [byteAt bs 3, byteAt bs 2, byteAt bs 1, byteAt bs 0] :=
  or_reverse _ _ _ _

theorem loadBe32_append (v : UInt32) (rest : List UInt8) :
    loadBe32 (storeBe32 v ++ rest) = v := by
  rw [loadBe32_eq]
  exact loadU32_storeU32 v

theorem loadBe64_append (v : UInt64) (rest : List UInt8) :
    loadBe64 (storeBe64 v ++ rest) = v := by
  have hlow : (storeBe64 v ++ rest).drop 4 = storeBe32 v.toUInt32 ++ rest := rfl
  have hjoin : v.toUInt32.toUInt64 ||| ((v >>> 32).toUInt32.toUInt64 <<< 32) = v := by
    have h := loadU64_storeU64 v
    rw [loadU64, storeU64, ← loadU32_take, List.take_left' (length_storeU32 _),
      List.drop_left' (length_storeU32 _), loadU32_storeU32, loadU32_storeU32] at h
    exact h
  rw [loadBe64, hlow, loadBe32_append, storeBe64, List.append_assoc, loadBe32_append,
    UInt64.or_comm]
  exact hjoin

variable {offset : Nat} {front : List UInt8} (h : front.length = offset)
include h

/-- A word that begins where a part of the bytes ends. -/
theorem loadBe32_drop {v : UInt32} {rest : List UInt8} :
    loadBe32 ((front ++ (storeBe32 v ++ rest)).drop offset) = v := by
  rw [List.drop_left' h, loadBe32_append]

theorem loadBe64_drop {v : UInt64} {rest : List UInt8} :
    loadBe64 ((front ++ (storeBe64 v ++ rest)).drop offset) = v := by
  rw [List.drop_left' h, loadBe64_append]

end Wire
