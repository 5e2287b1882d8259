/-
Running bounds: the least start and the greatest end of the items seen so far.

A loop keeps them in two words that begin with the greatest and the least value.  As
sets, the first value is one more start, or one more end, that an item replaces.
-/
import Mathlib.Order.Bounds.Basic
import Mathlib.Data.Set.Image
import Mathlib.Order.CompletePartialOrder
import Mathlib.Order.Interval.Set.Disjoint
import Ribon.Native

namespace Wire

open Ribon

def lower (bound value : UInt64) : UInt64 := if value < bound then value else bound

def raise (bound value : UInt64) : UInt64 := if bound < value then value else bound

theorem toNat_lower (bound value : UInt64) :
    (lower bound value).toNat = min value.toNat bound.toNat := by
  unfold lower
  split
  · next h =>
    have hlt := UInt64.lt_iff_toNat_lt.mp h
    omega
  · next h =>
    have hle := UInt64.le_iff_toNat_le.mp (UInt64.not_lt.mp h)
    omega

theorem toNat_raise (bound value : UInt64) :
    (raise bound value).toNat = max value.toNat bound.toNat := by
  unfold raise
  split
  · next h =>
    have hlt := UInt64.lt_iff_toNat_lt.mp h
    omega
  · next h =>
    have hle := UInt64.le_iff_toNat_le.mp (UInt64.not_lt.mp h)
    omega

section Spans

variable {α : Type} {start stop : α → Nat} {items : List α} {base bound : UInt64}

/-- The bounds of the items, and of the values that a loop starts with. -/
structure Spans (start stop : α → Nat) (items : List α) (base bound : UInt64) : Prop where
  least : IsLeast (insert u64Max.toNat (start '' {item | item ∈ items})) base.toNat
  greatest : IsGreatest (insert 0 (stop '' {item | item ∈ items})) bound.toNat

theorem spans_nil : Spans start stop [] u64Max 0 where
  least := by simp
  greatest := by simp

theorem image_snoc (f : α → Nat) (items : List α) (item : α) :
    f '' {i | i ∈ items ++ [item]} = insert (f item) (f '' {i | i ∈ items}) := by
  rw [← Set.image_insert_eq]
  congr 1
  ext i
  simp [or_comm]

theorem Spans.snoc (h : Spans start stop items base bound) {item : α} {first last : UInt64}
    (hfirst : start item = first.toNat) (hlast : stop item = last.toNat) :
    Spans start stop (items ++ [item]) (lower base first) (raise bound last) where
  least := by
    rw [image_snoc, Set.insert_comm, hfirst, toNat_lower]
    exact h.least.insert first.toNat
  greatest := by
    rw [image_snoc, Set.insert_comm, hlast, toNat_raise]
    exact h.greatest.insert last.toNat

/-- Where there is an item, the values that the loop starts with are not bounds any more. -/
theorem Spans.exact (h : Spans start stop items base bound) (hitems : items ≠ [])
    (hrange : ∀ item ∈ items, start item < stop item ∧ stop item < 2 ^ 64) :
    IsLeast (start '' {item | item ∈ items}) base.toNat ∧
      IsGreatest (stop '' {item | item ∈ items}) bound.toNat := by
  obtain ⟨item, hitem⟩ := List.exists_mem_of_ne_nil items hitems
  have hmost : u64Max.toNat = 2 ^ 64 - 1 := rfl
  obtain ⟨hlt, hend⟩ := hrange item hitem
  constructor
  · refine ⟨?_, fun x hx => h.least.2 (Set.mem_insert_of_mem _ hx)⟩
    obtain hmax | hmem := h.least.1
    · have hle := h.least.2 (Set.mem_insert_of_mem _ ⟨item, hitem, rfl⟩)
      omega
    · exact hmem
  · refine ⟨?_, fun x hx => h.greatest.2 (Set.mem_insert_of_mem _ hx)⟩
    obtain hzero | hmem := h.greatest.1
    · have hle := h.greatest.2 (Set.mem_insert_of_mem _ ⟨item, hitem, rfl⟩)
      omega
    · exact hmem

end Spans

end Wire
