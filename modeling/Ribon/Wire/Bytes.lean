/-
Byte buffers of a fixed size, the little-endian words in them, and the two loops
that compare them.

An encoder here takes a buffer of zeros and patches fields into it at fixed
offsets.  A decoder reads fields back at fixed offsets, each one from a pointer
into the buffer, which is the buffer with its first bytes dropped.  So a decoder
undoes an encoder by three facts about one patch: a field read where it was
written is what was written, a field read wholly before it is what was there,
and everything from its end on is what was there.
-/
import Mathlib.Tactic.Common
import Mathlib.Tactic.IntervalCases

namespace Wire

/-- The byte at an index, and zero behind the end. -/
def byteAt (bs : List UInt8) (i : Nat) : UInt8 := bs.getD i 0

/-- Copy `data` into the buffer at `off`; what would fall behind its end is cut off. -/
def patch : List UInt8 → Nat → List UInt8 → List UInt8
  | [], _, _ => []
  | b :: bs, 0, [] => b :: bs
  | _ :: bs, 0, d :: data => d :: patch bs 0 data
  | b :: bs, off + 1, data => b :: patch bs off data

@[simp] theorem patch_nil (off : Nat) (data : List UInt8) : patch [] off data = [] := by
  simp [patch]

@[simp] theorem patch_zero_nil (bs : List UInt8) : patch bs 0 [] = bs := by
  cases bs <;> rfl

@[simp] theorem patch_cons_succ (b : UInt8) (bs : List UInt8) (off : Nat) (data : List UInt8) :
    patch (b :: bs) (off + 1) data = b :: patch bs off data := by
  cases data <;> rfl

@[simp] theorem length_patch (bs : List UInt8) (off : Nat) (data : List UInt8) :
    (patch bs off data).length = bs.length := by
  fun_induction patch bs off data <;> simp_all

/-! ### Reading a patched buffer -/

variable {bs data : List UInt8} {off o n : Nat}

/-- A patch that fits replaces exactly its own bytes. -/
theorem patch_eq (h : off + data.length ≤ bs.length) :
    patch bs off data = bs.take off ++ data ++ bs.drop (off + data.length) := by
  induction bs generalizing off data with
  | nil =>
      obtain ⟨rfl, hd⟩ : off = 0 ∧ data.length = 0 := by simpa using h
      rw [List.length_eq_zero_iff.mp hd]
      rfl
  | cons b bs ih =>
      cases off with
      | zero =>
          cases data with
          | nil => simp
          | cons d data =>
              have ih' := @ih data 0 (by simpa using h)
              simpa [patch] using ih'
      | succ off =>
          have ih' := @ih data off (by simp at h; omega)
          rw [patch_cons_succ, ih', show off + 1 + data.length = (off + data.length) + 1 by omega]
          simp

theorem take_patch (bs : List UInt8) (off : Nat) (data : List UInt8) :
    (patch bs off data).take off = bs.take off := by
  induction bs generalizing off with
  | nil => simp
  | cons b bs ih =>
      cases off with
      | zero => simp
      | succ off => simp [ih off]

/-- Everything from the end of a patch on is what was there. -/
@[simp] theorem drop_patch_after (h : off + data.length ≤ o) :
    (patch bs off data).drop o = bs.drop o := by
  fun_induction patch bs off data generalizing o with
  | case1 off data => rfl
  | case2 b bs => rfl
  | case3 b bs d data ih =>
      cases o with
      | zero => simp at h
      | succ o => simpa using ih (by simp at h; omega)
  | case4 b bs off data ih =>
      cases o with
      | zero => omega
      | succ o => simpa using ih (by omega)

/-- A field read wholly before a patch is what was there. -/
@[simp] theorem slice_patch_before (h : o + n ≤ off) :
    ((patch bs off data).drop o).take n = (bs.drop o).take n := by
  have cutAt (l : List UInt8) : (l.drop o).take n = ((l.take off).drop o).take n := by
    rw [List.drop_take, List.take_take, Nat.min_eq_left (by omega)]
  rw [cutAt, cutAt bs, take_patch]

/-- A field read where it was patched is what was patched. -/
@[simp] theorem slice_patch_self (hn : data.length = n) (h : off + n ≤ bs.length) :
    ((patch bs off data).drop off).take n = data := by
  subst hn
  rw [patch_eq h, List.append_assoc, List.drop_append_of_le_length (by simp; omega)]
  simp

theorem take_patch_before (h : n ≤ off) : (patch bs off data).take n = bs.take n := by
  simpa using @slice_patch_before bs data off 0 n (by omega)

theorem byteAt_eq_of_take {as bs : List UInt8} {n i : Nat} (h : as.take n = bs.take n)
    (hi : i < n) : byteAt as i = byteAt bs i := by
  have hget : (as.take n)[i]? = (bs.take n)[i]? := by rw [h]
  rw [List.getElem?_take_of_lt hi, List.getElem?_take_of_lt hi] at hget
  simp only [byteAt, List.getD_eq_getElem?_getD, hget]

/-! ### Little-endian words -/

/-- The two bytes of a word, least first. -/
def storeU16 (v : UInt16) : List UInt8 := [v.toUInt8, (v >>> 8).toUInt8]

/-- The four bytes of a word, least first. -/
def storeU32 (v : UInt32) : List UInt8 :=
  [v.toUInt8, (v >>> 8).toUInt8, (v >>> 16).toUInt8, (v >>> 24).toUInt8]

/-- The eight bytes of a word, its low half first. -/
def storeU64 (v : UInt64) : List UInt8 := storeU32 v.toUInt32 ++ storeU32 (v >>> 32).toUInt32

def loadU16 (bs : List UInt8) : UInt16 :=
  (byteAt bs 0).toUInt16 ||| ((byteAt bs 1).toUInt16 <<< 8)

def loadU32 (bs : List UInt8) : UInt32 :=
  (byteAt bs 0).toUInt32 ||| ((byteAt bs 1).toUInt32 <<< 8) |||
    ((byteAt bs 2).toUInt32 <<< 16) ||| ((byteAt bs 3).toUInt32 <<< 24)

def loadU64 (bs : List UInt8) : UInt64 :=
  (loadU32 bs).toUInt64 ||| ((loadU32 (bs.drop 4)).toUInt64 <<< 32)

@[simp] theorem length_storeU16 (v : UInt16) : (storeU16 v).length = 2 := (rfl)
@[simp] theorem length_storeU32 (v : UInt32) : (storeU32 v).length = 4 := (rfl)
@[simp] theorem length_storeU64 (v : UInt64) : (storeU64 v).length = 8 := (rfl)

/-- The bytes of a halfword, put back together bit by bit. -/
private theorem join_u16 (v : UInt16) :
    (v.toUInt8.toUInt16 ||| ((v >>> 8).toUInt8.toUInt16 <<< 8)) = v := by
  apply UInt16.eq_of_toBitVec_eq
  ext i hi
  interval_cases i <;> simp [-UInt16.toUInt16_toUInt8]

private theorem join_u32 (v : UInt32) :
    (v.toUInt8.toUInt32 ||| ((v >>> 8).toUInt8.toUInt32 <<< 8) |||
      ((v >>> 16).toUInt8.toUInt32 <<< 16) ||| ((v >>> 24).toUInt8.toUInt32 <<< 24)) = v := by
  apply UInt32.eq_of_toBitVec_eq
  ext i hi
  interval_cases i <;> simp [-UInt32.toUInt32_toUInt8]

private theorem join_u64 (v : UInt64) :
    (v.toUInt32.toUInt64 ||| ((v >>> 32).toUInt32.toUInt64 <<< 32)) = v := by
  apply UInt64.eq_of_toBitVec_eq
  ext i hi
  by_cases h : i < 32
  · simp [h, hi, -UInt64.toUInt64_toUInt32]
  · have hhigh : 32 + (i - 32) = i := by omega
    simp [h, hi, hhigh, show i - 32 < 32 by omega, -UInt64.toUInt64_toUInt32]

/-! A word depends on its own bytes only, so it is read through a patch as a field is. -/

theorem loadU16_take (bs : List UInt8) : loadU16 (bs.take 2) = loadU16 bs := by
  have h : (bs.take 2).take 2 = bs.take 2 := by rw [List.take_take, Nat.min_self]
  simp only [loadU16, byteAt_eq_of_take h (show 0 < 2 by omega),
    byteAt_eq_of_take h (show 1 < 2 by omega)]

theorem loadU32_take (bs : List UInt8) : loadU32 (bs.take 4) = loadU32 bs := by
  have h : (bs.take 4).take 4 = bs.take 4 := by rw [List.take_take, Nat.min_self]
  simp only [loadU32, byteAt_eq_of_take h (show 0 < 4 by omega),
    byteAt_eq_of_take h (show 1 < 4 by omega), byteAt_eq_of_take h (show 2 < 4 by omega),
    byteAt_eq_of_take h (show 3 < 4 by omega)]

theorem loadU64_take (bs : List UInt8) : loadU64 (bs.take 8) = loadU64 bs := by
  rw [loadU64, loadU64, ← loadU32_take (bs.take 8), List.take_take, List.drop_take,
    Nat.min_eq_left (by omega), loadU32_take, loadU32_take]

@[simp] theorem loadU16_storeU16 (v : UInt16) : loadU16 (storeU16 v) = v := join_u16 v

@[simp] theorem loadU32_storeU32 (v : UInt32) : loadU32 (storeU32 v) = v := join_u32 v

@[simp] theorem loadU64_storeU64 (v : UInt64) : loadU64 (storeU64 v) = v := by
  have low : loadU32 (storeU64 v) = v.toUInt32 := join_u32 v.toUInt32
  have high : loadU32 ((storeU64 v).drop 4) = (v >>> 32).toUInt32 := join_u32 (v >>> 32).toUInt32
  rw [loadU64, low, high]
  exact join_u64 v

@[simp] theorem loadU32_storeU32_append (v : UInt32) (bs : List UInt8) :
    loadU32 (storeU32 v ++ bs) = v := by
  rw [← loadU32_take, List.take_left' (length_storeU32 v), loadU32_storeU32]

@[simp] theorem loadU64_storeU64_append (v : UInt64) (bs : List UInt8) :
    loadU64 (storeU64 v ++ bs) = v := by
  rw [← loadU64_take, List.take_left' (length_storeU64 v), loadU64_storeU64]

@[simp] theorem loadU16_patch_self {v : UInt16} (h : off + 2 ≤ bs.length) :
    loadU16 ((patch bs off (storeU16 v)).drop off) = v := by
  rw [← loadU16_take, slice_patch_self (length_storeU16 v) h, loadU16_storeU16]

@[simp] theorem loadU32_patch_self {v : UInt32} (h : off + 4 ≤ bs.length) :
    loadU32 ((patch bs off (storeU32 v)).drop off) = v := by
  rw [← loadU32_take, slice_patch_self (length_storeU32 v) h, loadU32_storeU32]

@[simp] theorem loadU64_patch_self {v : UInt64} (h : off + 8 ≤ bs.length) :
    loadU64 ((patch bs off (storeU64 v)).drop off) = v := by
  rw [← loadU64_take, slice_patch_self (length_storeU64 v) h, loadU64_storeU64]

@[simp] theorem loadU16_patch_before (h : o + 2 ≤ off) :
    loadU16 ((patch bs off data).drop o) = loadU16 (bs.drop o) := by
  rw [← loadU16_take, slice_patch_before h, loadU16_take]

@[simp] theorem loadU32_patch_before (h : o + 4 ≤ off) :
    loadU32 ((patch bs off data).drop o) = loadU32 (bs.drop o) := by
  rw [← loadU32_take, slice_patch_before h, loadU32_take]

@[simp] theorem loadU64_patch_before (h : o + 8 ≤ off) :
    loadU64 ((patch bs off data).drop o) = loadU64 (bs.drop o) := by
  rw [← loadU64_take, slice_patch_before h, loadU64_take]

/-! ### Comparing bytes -/

/-- Whether the first `size` bytes are zero: their disjunction, as the loop accumulates it. -/
def bytesZero (bs : List UInt8) (size : Nat) : Bool :=
  (List.range size).foldl (fun value i => value ||| byteAt bs i) 0 == 0

/-- Whether the first `size` bytes agree: no byte of the loop differs. -/
def bytesEqual (left right : List UInt8) (size : Nat) : Bool :=
  (List.range size).foldl (fun difference i => difference ||| (byteAt left i ^^^ byteAt right i)) 0
    == 0

private theorem foldl_or_eq_zero (f : Nat → UInt8) (l : List Nat) (acc : UInt8) :
    l.foldl (fun value i => value ||| f i) acc = 0 ↔ acc = 0 ∧ ∀ i ∈ l, f i = 0 := by
  induction l generalizing acc with
  | nil => simp
  | cons i l ih =>
      rw [List.foldl_cons, ih, UInt8.or_eq_zero_iff]
      simp [and_assoc]

theorem bytesZero_iff {bs : List UInt8} {size : Nat} :
    bytesZero bs size = true ↔ ∀ i < size, byteAt bs i = 0 := by
  simp [bytesZero, foldl_or_eq_zero (byteAt bs)]

theorem bytesEqual_iff {left right : List UInt8} {size : Nat} :
    bytesEqual left right size = true ↔ ∀ i < size, byteAt left i = byteAt right i := by
  simp [bytesEqual, foldl_or_eq_zero fun i => byteAt left i ^^^ byteAt right i,
    UInt8.xor_eq_zero_iff]

@[simp] theorem bytesEqual_self (bs : List UInt8) (size : Nat) : bytesEqual bs bs size = true :=
  bytesEqual_iff.mpr fun _ _ => rfl

theorem bytesZero_take {bs : List UInt8} {size : Nat} :
    bytesZero (bs.take size) size = bytesZero bs size := by
  have h : (bs.take size).take size = bs.take size := by rw [List.take_take, Nat.min_self]
  rw [Bool.eq_iff_iff, bytesZero_iff, bytesZero_iff]
  exact forall₂_congr fun i hi => by rw [byteAt_eq_of_take h hi]

/-- The bytes that a comparison of equal-sized buffers covers are the whole of them. -/
theorem eq_of_bytesEqual {left right : List UInt8} {size : Nat} (hl : left.length = size)
    (hr : right.length = size) (h : bytesEqual left right size = true) : left = right := by
  refine List.ext_getElem (hl.trans hr.symm) fun i h₁ h₂ => ?_
  have := bytesEqual_iff.mp h i (hl ▸ h₁)
  simpa [byteAt, List.getD_eq_getElem?_getD, h₁, h₂] using this

@[simp] theorem bytesZero_patch_before (h : o + n ≤ off) :
    bytesZero ((patch bs off data).drop o) n = bytesZero (bs.drop o) n := by
  rw [← bytesZero_take, slice_patch_before h, bytesZero_take]

@[simp] theorem byteAt_replicate_zero (n i : Nat) : byteAt (List.replicate n 0) i = 0 := by
  simp only [byteAt, List.getD_eq_getElem?_getD, List.getElem?_replicate]
  split <;> rfl

@[simp] theorem bytesZero_replicate (n size : Nat) : bytesZero (List.replicate n 0) size = true :=
  bytesZero_iff.mpr fun i _ => byteAt_replicate_zero n i

@[simp] theorem bytesEqual_patch_before {other : List UInt8} (h : n ≤ off) :
    bytesEqual (patch bs off data) other n = bytesEqual bs other n := by
  have htake := @take_patch_before bs data off n h
  rw [Bool.eq_iff_iff, bytesEqual_iff, bytesEqual_iff]
  exact forall₂_congr fun i hi => by rw [byteAt_eq_of_take htake hi]

/-- A buffer starts with what was patched at its start. -/
@[simp] theorem bytesEqual_patch_zero (hn : data.length = n) (h : n ≤ bs.length) :
    bytesEqual (patch bs 0 data) data n = true := by
  have hself := @slice_patch_self bs data 0 n hn (by omega)
  rw [List.drop_zero] at hself
  refine bytesEqual_iff.mpr fun i hi => byteAt_eq_of_take ?_ hi
  rw [hself, List.take_of_length_le (by omega)]

@[simp] theorem loadU16_replicate (n : Nat) : loadU16 (List.replicate n 0) = 0 := by
  simp [loadU16]

@[simp] theorem loadU32_replicate (n : Nat) : loadU32 (List.replicate n 0) = 0 := by
  simp [loadU32]

@[simp] theorem loadU64_replicate (n : Nat) : loadU64 (List.replicate n 0) = 0 := by
  simp [loadU64]

/-! ### Checksum -/

/-- One bit of the reflected CRC-32C shift register. -/
def crcBit (crc : UInt32) : UInt32 :=
  (crc >>> 1) ^^^ (0x82f63b78 &&& (0 - (crc &&& 1)))

/-- One byte of it. -/
def crcByte (crc : UInt32) (b : UInt8) : UInt32 :=
  (List.range 8).foldl (fun crc _ => crcBit crc) (crc ^^^ b.toUInt32)

/-- The CRC-32C of the first `size` bytes. -/
def crc32c (bs : List UInt8) (size : Nat) : UInt32 :=
  ~~~ (bs.take size).foldl crcByte 0xffffffff

@[simp] theorem crc32c_patch_at (h : n ≤ off) :
    crc32c (patch bs off data) n = crc32c bs n := by
  rw [crc32c, take_patch_before h, ← crc32c]

-- From here on a buffer is read by the lemmas above.  Unfolding a patch of a thousand zeros is never
-- what a proof wants.
attribute [irreducible] patch

end Wire
