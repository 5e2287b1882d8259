/-
Bit masks read as sets of bits.

A C program asks of two masks whether they meet and whether one covers the other,
and folds masks together with `|=`.  Each question is answered here one bit at a
time, so that a proof about masks never looks at a number.
-/
import Mathlib.Data.BitVec

namespace Ribon.Mask

variable {w : Nat}

/-- The mask of one bit, `1 << bit`. -/
def bit (w : Nat) (i : Nat) : BitVec w := 1#w <<< i

/-- `(mask & other) == 0` -/
theorem and_eq_zero_iff {x y : BitVec w} :
    x &&& y = 0 ↔ ∀ i, x.getLsbD i = true → y.getLsbD i = false := by
  constructor
  · intro h i hx
    have hbit := congrArg (BitVec.getLsbD · i) h
    simpa [hx] using hbit
  · intro h
    apply BitVec.eq_of_getLsbD_eq
    intro i _
    by_cases hx : x.getLsbD i = true
    · simp [h i hx]
    · simp [hx]

/-- `(mask & ~other) == 0` -/
theorem and_not_eq_zero_iff {x y : BitVec w} :
    x &&& ~~~y = 0 ↔ ∀ i, x.getLsbD i = true → y.getLsbD i = true := by
  rw [and_eq_zero_iff]
  constructor
  · intro h i hx
    have hy := h i hx
    have hi : i < w := BitVec.lt_of_getLsbD hx
    simpa [hi] using hy
  · intro h i hx
    simp [h i hx]

/-- `(mask & (1 << bit)) != 0` -/
theorem and_bit_eq_zero_iff {x : BitVec w} {i : Nat} :
    x &&& bit w i = 0 ↔ x.getLsbD i = false := by
  rw [and_eq_zero_iff]
  constructor
  · intro h
    by_cases hx : x.getLsbD i = true
    · have hi : i < w := BitVec.lt_of_getLsbD hx
      have hbit := h i hx
      simp [bit, hi] at hbit
    · simpa using hx
  · intro h j hj
    by_cases hij : j = i
    · rw [hij, h] at hj
      cases hj
    · simp only [bit, BitVec.getLsbD_shiftLeft, BitVec.getLsbD_one, Bool.and_eq_false_imp]
      intro hlt
      simp at hlt ⊢
      omega

/-- `aggregate |= item` over an array. -/
def gather {A : Type} (f : A → BitVec w) (items : List A) (aggregate : BitVec w) : BitVec w :=
  items.foldl (fun mask item => mask ||| f item) aggregate

theorem getLsbD_gather {A : Type} {f : A → BitVec w} {items : List A} {aggregate : BitVec w}
    {i : Nat} : (gather f items aggregate).getLsbD i = true ↔
      aggregate.getLsbD i = true ∨ ∃ item ∈ items, (f item).getLsbD i = true := by
  induction items generalizing aggregate with
  | nil => simp [gather]
  | cons item rest ih =>
    have hstep : gather f (item :: rest) aggregate = gather f rest (aggregate ||| f item) := rfl
    rw [hstep, ih]
    simp only [BitVec.getLsbD_or, Bool.or_eq_true, List.mem_cons, exists_eq_or_imp]
    tauto

/-! ### Words with a field -/

/-- A field is read back where the other bits are not under its mask. -/
theorem or_and_field {value mask other : UInt64} (h : other &&& mask = 0) :
    ((value &&& mask) ||| other) &&& mask = value &&& mask := by
  rw [← UInt64.toBitVec_inj]
  have hbits : other.toBitVec &&& mask.toBitVec = 0 := by
    rw [← UInt64.toBitVec_and, h]
    rfl
  simp [BitVec.and_or_distrib_right, hbits, BitVec.and_assoc]

/-- A bit that is not under the mask is one of the other bits. -/
theorem or_and_other {value mask other bit : UInt64} (h : mask &&& bit = 0) :
    ((value &&& mask) ||| other) &&& bit = other &&& bit := by
  rw [← UInt64.toBitVec_inj]
  have hbits : mask.toBitVec &&& bit.toBitVec = 0 := by
    rw [← UInt64.toBitVec_and, h]
    rfl
  simp [BitVec.and_or_distrib_right, hbits, BitVec.and_assoc]

end Ribon.Mask
