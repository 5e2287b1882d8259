/-
Searching a sorted table.

The search goes through the table in order.  It stops at the first entry that is
what it looks for, and gives up at the first entry that is already behind it.  In
a table that is sorted, giving up early loses nothing: the answer is the one that
going through the whole table would give.
-/
import Mathlib.Tactic.Common
import Mathlib.Data.List.Basic

namespace Wire

variable {α : Type} {order : α → Ordering}

/-- Search a table from index `i` on; `order` says on which side of the key an entry is. -/
def searchFrom (order : α → Ordering) : List α → Nat → Option (Nat × α)
  | [], _ => none
  | entry :: rest, i =>
      match order entry with
      | .eq => some (i, entry)
      | .gt => none
      | .lt => searchFrom order rest (i + 1)

/-- Behind an entry that is not in front of the key, every entry is behind the key. -/
def SortedFor (order : α → Ordering) (table : List α) : Prop :=
  table.Pairwise fun a b => order a ≠ .lt → order b = .gt

variable {table : List α} (h : SortedFor order table)
include h

/-- **In a sorted table the early exit changes nothing.** -/
theorem searchFrom_eq_find? (i : Nat) :
    searchFrom order table i =
      ((table.zipIdx i).find? fun p => order p.1 == .eq).map fun p => (p.2, p.1) := by
  induction table generalizing i with
  | nil => rfl
  | cons entry rest ih =>
      obtain ⟨hhead, hrest⟩ := List.pairwise_cons.mp h
      cases hentry : order entry with
      | lt => simp [searchFrom, hentry, ih hrest]
      | eq => simp [searchFrom, hentry]
      | gt =>
          have hnone : (rest.zipIdx (i + 1)).find? (fun p => order p.1 == .eq) = none := by
            rw [List.find?_eq_none]
            intro p hp
            have hgt := hhead p.1 (List.fst_mem_of_mem_zipIdx hp) (by simp [hentry])
            simp [hgt]
          simp [searchFrom, hentry, hnone]

/-- What a search of a sorted table finds. -/
theorem searchFrom_eq_some {i j : Nat} {a : α} :
    searchFrom order table i = some (j, a) ↔
      ∃ n, j = i + n ∧ table[n]? = some a ∧ order a = .eq := by
  induction table generalizing i with
  | nil => simp [searchFrom]
  | cons entry rest ih =>
      obtain ⟨hhead, hrest⟩ := List.pairwise_cons.mp h
      -- what is found behind an entry that stops the search cannot be the key
      have hbehind : order entry ≠ .lt → ∀ n : Nat, rest[n]? = some a → order a ≠ .eq := by
        intro hstop n hn heq
        have hgt := hhead a (List.mem_of_getElem? hn) hstop
        rw [hgt] at heq
        cases heq
      unfold searchFrom
      rw [← Nat.or_exists_add_one]
      simp only [Nat.add_zero, List.getElem?_cons_zero, List.getElem?_cons_succ, Option.some.injEq]
      cases hentry : order entry with
      | lt =>
          rw [ih hrest, or_iff_right]
          · simp only [Nat.add_assoc, Nat.add_comm 1]
          · rintro ⟨-, rfl, ha⟩
            simp [hentry] at ha
      | eq =>
          rw [or_iff_left fun ⟨n, _, hn, ha⟩ => hbehind (by simp [hentry]) n hn ha]
          constructor
          · rintro ⟨⟩
            exact ⟨rfl, rfl, hentry⟩
          · rintro ⟨rfl, rfl, -⟩
            rfl
      | gt =>
          refine iff_of_false nofun ?_
          rintro (⟨-, rfl, ha⟩ | ⟨n, -, hn, ha⟩)
          · simp [hentry] at ha
          · exact hbehind (by simp [hentry]) n hn ha

/-- A sorted table is searched in vain only for what is not in it. -/
theorem searchFrom_isSome (i : Nat) :
    (searchFrom order table i).isSome = true ↔ ∃ a ∈ table, order a = .eq := by
  rw [Option.isSome_iff_exists]
  constructor
  · rintro ⟨⟨j, a⟩, hfound⟩
    obtain ⟨n, -, hn, ha⟩ := (searchFrom_eq_some h).mp hfound
    exact ⟨a, List.mem_of_getElem? hn, ha⟩
  · rintro ⟨a, ha, heq⟩
    obtain ⟨n, hn⟩ := List.mem_iff_getElem?.mp ha
    exact ⟨(i + n, a), (searchFrom_eq_some h).mpr ⟨n, rfl, hn, heq⟩⟩

end Wire
