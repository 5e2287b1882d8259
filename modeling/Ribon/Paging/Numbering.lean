/-
Numbers that are given out on demand.

Whoever asks for the first time gets the next number, starting from one; whoever asks again
keeps it.  Zero means that nothing was given out yet.  There is a limit, and the request
that would need it fails.
-/
import Mathlib.Data.Finset.Card
import Mathlib.Logic.Function.Basic

namespace Paging

variable {α : Type} [DecidableEq α]

/-- The numbers given out so far, and the next one. -/
structure Numbering (α : Type) where
  number : α → Nat
  next : Nat

namespace Numbering

/-- Nothing is given out. -/
def start : Numbering α := ⟨fun _ => 0, 1⟩

/-- Ask for the number of something. -/
def ask (limit : Nat) (numbering : Numbering α) (a : α) : Option (Numbering α) :=
  if numbering.number a = 0 then
    if numbering.next = limit then none
    else some ⟨Function.update numbering.number a numbering.next, numbering.next + 1⟩
  else some numbering

/-- What a numbering is after these have asked. -/
structure Covers (asked : Finset α) (numbering : Numbering α) : Prop where
  given : ∀ a, numbering.number a ≠ 0 ↔ a ∈ asked
  lt : ∀ a, numbering.number a < numbering.next
  injective : ∀ a ∈ asked, ∀ b ∈ asked, numbering.number a = numbering.number b → a = b
  next : numbering.next = asked.card + 1

omit [DecidableEq α] in
theorem covers_start : Covers ∅ (start : Numbering α) where
  given a := by simp [start]
  lt a := by simp [start]
  injective a ha := by simp at ha
  next := rfl

variable {numbering : Numbering α} {asked : Finset α} (h : Covers asked numbering)
include h

/-- One who has asked before changes nothing. -/
theorem Covers.ask_again {limit : Nat} {a : α} (ha : a ∈ asked) :
    ask limit numbering a = some numbering := by
  rw [ask, if_neg ((h.given a).mpr ha)]

/-- The next number goes to one who has not asked. -/
theorem Covers.ask_new {limit : Nat} {a : α} (ha : a ∉ asked) :
    ask limit numbering a = (if asked.card + 1 = limit then none else
      some ⟨Function.update numbering.number a numbering.next, numbering.next + 1⟩) := by
  have hzero : numbering.number a = 0 := by
    by_contra hne
    exact ha ((h.given a).mp hne)
  rw [ask, if_pos hzero, h.next]

theorem Covers.grow {a : α} (ha : a ∉ asked) :
    Covers (insert a asked)
      ⟨Function.update numbering.number a numbering.next, numbering.next + 1⟩ := by
  refine ⟨?_, ?_, ?_, ?_⟩
  · intro b
    dsimp only
    by_cases hb : b = a
    · rw [hb, Function.update_self, h.next]
      simp
    · rw [Function.update_of_ne hb, h.given b, Finset.mem_insert]
      simp [hb]
  · intro b
    dsimp only
    by_cases hb : b = a
    · rw [hb, Function.update_self]
      exact Nat.lt_succ_self _
    · rw [Function.update_of_ne hb]
      exact Nat.lt_succ_of_lt (h.lt b)
  · -- the new number is larger than every old one
    intro b hb c hc hsame
    dsimp only at hsame
    have hold := h.lt
    by_cases hba : b = a
    · by_cases hca : c = a
      · rw [hba, hca]
      · rw [hba, Function.update_self, Function.update_of_ne hca] at hsame
        have := hold c
        omega
    · by_cases hca : c = a
      · rw [hca, Function.update_self, Function.update_of_ne hba] at hsame
        have := hold b
        omega
      · rw [Function.update_of_ne hba, Function.update_of_ne hca] at hsame
        rw [Finset.mem_insert] at hb hc
        exact h.injective b (hb.resolve_left hba) c (hc.resolve_left hca) hsame
  · rw [h.next, Finset.card_insert_of_notMem ha]

omit h

/-- **Asking in turn succeeds while there are numbers**, and numbers exactly those who asked. -/
theorem Covers.asks {asked : Finset α} {numbering : Numbering α} {limit : Nat} (as : List α)
    (h : Covers asked numbering) (hroom : asked.card < limit) :
    (∀ after, as.foldlM (ask limit) numbering = some after →
      Covers (asked ∪ as.toFinset) after ∧ (asked ∪ as.toFinset).card < limit) ∧
    ((asked ∪ as.toFinset).card < limit → ∃ after, as.foldlM (ask limit) numbering = some after) := by
  induction as generalizing asked numbering with
  | nil =>
      rw [List.toFinset_nil, Finset.union_empty]
      refine ⟨?_, fun _ => ⟨numbering, rfl⟩⟩
      intro after hafter
      cases hafter
      exact ⟨h, hroom⟩
  | cons a as ih =>
      have hunion : asked ∪ (a :: as).toFinset = insert a asked ∪ as.toFinset := by
        rw [List.toFinset_cons, Finset.union_insert, Finset.insert_union]
      rw [hunion, List.foldlM_cons]
      by_cases ha : a ∈ asked
      · rw [h.ask_again ha, Finset.insert_eq_self.mpr ha]
        exact ih h hroom
      · rw [h.ask_new ha]
        split
        · next hlast =>
          have hmany : limit ≤ (insert a asked ∪ as.toFinset).card := by
            rw [← hlast, ← Finset.card_insert_of_notMem ha]
            exact Finset.card_le_card Finset.subset_union_left
          refine ⟨?_, fun hfew => absurd hfew (by omega)⟩
          intro after hafter
          cases hafter
        · refine ih (h.grow ha) ?_
          rw [Finset.card_insert_of_notMem ha]
          omega

end Numbering

end Paging
