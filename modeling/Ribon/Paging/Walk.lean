/-
Radix page tables, and the walk that a processor makes through them.

A table has 512 entries of eight bytes.  An entry of the last level names a page, an
entry above names a table of the level below or, where it says so, a block of memory.
The format of the entries is a parameter.  Tables are built in a buffer that counts its
entries; where the buffer lies in memory, the walk reads it.
-/
import Mathlib.Algebra.Group.Nat.Defs
import Mathlib.Logic.Function.Basic

namespace Paging

/-- How a processor reads an entry. -/
structure Format where
  valid : Nat → UInt64 → Bool
  leaf : Nat → UInt64 → Bool
  target : UInt64 → Nat
  writable : UInt64 → Bool
  executable : UInt64 → Bool

/-- Where an address leads to, and what may be done there. -/
structure Mapping where
  physical : Nat
  writable : Bool
  executable : Bool
  deriving DecidableEq, Repr

/-- A right is needed on every level. -/
def Mapping.restrict (mapping : Mapping) (writable executable : Bool) : Mapping where
  physical := mapping.physical
  writable := writable && mapping.writable
  executable := executable && mapping.executable

/-- The bytes that an entry of a level stands for. -/
def span (level : Nat) : Nat := 2 ^ (12 + 9 * level)

/-- The entry of an address in a table of a level. -/
def index (level address : Nat) : Nat := address / span level % 512

theorem index_lt (level address : Nat) : index level address < 512 := Nat.mod_lt _ (by omega)

section Walk

variable (F : Format) (memory : Nat → UInt64)

/-- The walk of an address from a table of a level. -/
def walk : Nat → Nat → Nat → Option Mapping
  | 0, table, address =>
      let entry := memory (table + 8 * index 0 address)
      if F.valid 0 entry then
        some ⟨F.target entry + address % span 0, F.writable entry, F.executable entry⟩
      else none
  | level + 1, table, address =>
      let entry := memory (table + 8 * index (level + 1) address)
      if F.valid (level + 1) entry then
        if F.leaf (level + 1) entry then
          some ⟨F.target entry + address % span (level + 1), F.writable entry,
            F.executable entry⟩
        else
          (walk level (F.target entry) address).map
            (·.restrict (F.writable entry) (F.executable entry))
      else none

/-- The entry in which the walk of an address ends. -/
def leafOf : Nat → Nat → Nat → Option UInt64
  | 0, table, address =>
      let entry := memory (table + 8 * index 0 address)
      if F.valid 0 entry then some entry else none
  | level + 1, table, address =>
      let entry := memory (table + 8 * index (level + 1) address)
      if F.valid (level + 1) entry then
        if F.leaf (level + 1) entry then some entry else leafOf level (F.target entry) address
      else none

variable {F memory} {level table address : Nat} {entry : UInt64}

theorem walk_invalid (hentry : memory (table + 8 * index level address) = entry)
    (hvalid : F.valid level entry = false) : walk F memory level table address = none := by
  cases level with
  | zero | succ level => simp [walk, hentry, hvalid]

theorem walk_page (hentry : memory (table + 8 * index 0 address) = entry)
    (hvalid : F.valid 0 entry = true) : walk F memory 0 table address =
      some ⟨F.target entry + address % span 0, F.writable entry, F.executable entry⟩ := by
  simp [walk, hentry, hvalid]

section Entry

variable (hentry : memory (table + 8 * index (level + 1) address) = entry)
  (hvalid : F.valid (level + 1) entry = true)
include hentry hvalid

theorem walk_block (hleaf : F.leaf (level + 1) entry = true) :
    walk F memory (level + 1) table address =
      some ⟨F.target entry + address % span (level + 1), F.writable entry,
        F.executable entry⟩ := by
  simp [walk, hentry, hvalid, hleaf]

theorem leafOf_block (hleaf : F.leaf (level + 1) entry = true) :
    leafOf F memory (level + 1) table address = some entry := by
  simp [leafOf, hentry, hvalid, hleaf]

variable (hleaf : F.leaf (level + 1) entry = false)
include hleaf

theorem walk_table :
    walk F memory (level + 1) table address = (walk F memory level (F.target entry) address).map
      (·.restrict (F.writable entry) (F.executable entry)) := by
  simp [walk, hentry, hvalid, hleaf]

/-- A table that gives every right leaves the rights to the level below. -/
theorem walk_table_open (hwritable : F.writable entry = true)
    (hexec : F.executable entry = true) :
    walk F memory (level + 1) table address = walk F memory level (F.target entry) address := by
  rw [walk_table hentry hvalid hleaf, hwritable, hexec]
  cases walk F memory level (F.target entry) address with
  | none => rfl
  | some mapping => simp [Mapping.restrict]

theorem leafOf_table : leafOf F memory (level + 1) table address =
    leafOf F memory level (F.target entry) address := by
  simp [leafOf, hentry, hvalid, hleaf]

end Entry

end Walk

/-! ### Buffers -/

/-- The entries of a buffer. -/
abbrev Tables := Nat → UInt64

/-- The buffer lies in memory from this address on, with so many entries. -/
def Holds (memory : Nat → UInt64) (root : Nat) (tables : Tables) (count : Nat) : Prop :=
  ∀ i < count, memory (root + 8 * i) = tables i

variable {tables : Tables}

/-- An entry of one of the tables in the buffer. -/
theorem Holds.entry {memory : Nat → UInt64} {root count page i : Nat}
    (h : Holds memory root tables count) (hi : 512 * page + i < count) :
    memory (root + 4096 * page + 8 * i) = tables (512 * page + i) := by
  rw [← h _ hi]
  congr 1
  omega

/-- A loop that writes consecutive entries. -/
def fill (tables : Tables) (first : Nat) (f : Nat → UInt64) : Nat → Tables
  | 0 => tables
  | n + 1 => Function.update (fill tables first f n) (first + n) (f n)

theorem fill_apply (tables : Tables) (first : Nat) (f : Nat → UInt64) (n j : Nat) :
    fill tables first f n j = if first ≤ j ∧ j < first + n then f (j - first) else tables j := by
  induction n with
  | zero =>
    rw [if_neg (by omega)]
    rfl
  | succ n ih =>
    rw [fill, Function.update_apply]
    by_cases hlast : j = first + n
    · rw [if_pos hlast, if_pos (by omega), hlast, Nat.add_sub_cancel_left]
    · rw [if_neg hlast, ih]
      split
      · rw [if_pos (by omega)]
      · rw [if_neg (by omega)]

theorem fill_of_mem {first : Nat} {f : Nat → UInt64} {n i : Nat} (hi : i < n) :
    fill tables first f n (first + i) = f i := by
  rw [fill_apply, if_pos (by omega), Nat.add_sub_cancel_left]

theorem fill_of_not_mem {first : Nat} {f : Nat → UInt64} {n j : Nat}
    (hj : j < first ∨ first + n ≤ j) : fill tables first f n j = tables j := by
  rw [fill_apply, if_neg (by omega)]

/-! ### Claims -/

/-- Claim an entry, unless something else was written there. -/
def claim (tables : Tables) (c : Nat × UInt64) : Option Tables :=
  if tables c.1 ≠ 0 ∧ tables c.1 ≠ c.2 then none else some (Function.update tables c.1 c.2)

theorem claim_eq_some {c : Nat × UInt64} {after : Tables} :
    claim tables c = some after ↔
      (tables c.1 = 0 ∨ tables c.1 = c.2) ∧ Function.update tables c.1 c.2 = after := by
  unfold claim
  by_cases hfree : tables c.1 = 0 ∨ tables c.1 = c.2
  · rw [if_neg (fun h => not_or.mpr h hfree), Option.some.injEq, and_iff_right hfree]
  · rw [if_pos (not_or.mp hfree)]
    simp [hfree]

variable {claims : List (Nat × UInt64)} (hents : ∀ c ∈ claims, c.2 ≠ 0)
include hents

/-- **Claims.**  Each claimed entry is there, and nothing else has changed. -/
theorem foldlM_claim {after : Tables} (h : claims.foldlM claim tables = some after) :
    (∀ c ∈ claims, after c.1 = c.2) ∧ (∀ i, tables i ≠ 0 → after i = tables i) ∧
      ∀ i, (∀ c ∈ claims, c.1 ≠ i) → after i = tables i := by
  induction claims generalizing tables with
  | nil =>
      cases h
      simp
  | cons c claims ih =>
      simp only [List.foldlM_cons, Option.bind_eq_bind, Option.bind_eq_some_iff, claim_eq_some] at h
      obtain ⟨next, ⟨hfree, rfl⟩, hrest⟩ := h
      rw [List.forall_mem_cons] at hents
      obtain ⟨hthere, hkept, hother⟩ := ih hents.2 hrest
      have hc : after c.1 = c.2 := by
        have hnext := Function.update_self c.1 c.2 tables
        rw [hkept c.1 (by rw [hnext]; exact hents.1), hnext]
      refine ⟨List.forall_mem_cons.mpr ⟨hc, hthere⟩, fun i hi => ?_, fun i hi => ?_⟩
      · by_cases hsame : i = c.1
        · rw [hsame] at hi ⊢
          exact hc.trans (hfree.resolve_left hi).symm
        · have hnext := Function.update_of_ne hsame c.2 tables
          rw [hkept i (by rwa [hnext]), hnext]
      · rw [List.forall_mem_cons] at hi
        rw [hother i hi.2, Function.update_of_ne (Ne.symm hi.1)]

/-- **Claims succeed if the entries are free for them and no two of them disagree.** -/
theorem foldlM_claim_iff : (∃ after, claims.foldlM claim tables = some after) ↔
    (∀ c ∈ claims, tables c.1 = 0 ∨ tables c.1 = c.2) ∧
      ∀ c ∈ claims, ∀ d ∈ claims, c.1 = d.1 → c.2 = d.2 := by
  constructor
  · intro h
    obtain ⟨after, hfold⟩ := h
    obtain ⟨hthere, hkept, -⟩ := foldlM_claim hents hfold
    refine ⟨fun c hc => ?_, fun c hc d hd hsame => ?_⟩
    · by_cases hfree : tables c.1 = 0
      · exact Or.inl hfree
      · exact Or.inr ((hkept c.1 hfree).symm.trans (hthere c hc))
    · rw [← hthere c hc, ← hthere d hd, hsame]
  · intro h
    obtain ⟨hfree, hagree⟩ := h
    induction claims generalizing tables with
    | nil => exact ⟨tables, rfl⟩
    | cons c claims ih =>
        simp only [List.forall_mem_cons] at hents hfree hagree
        have hnext := claim_eq_some.mpr ⟨hfree.1, rfl⟩
        rw [List.foldlM_cons, hnext]
        refine ih hents.2 (fun d hd => ?_) fun d hd => (hagree.2 d hd).2
        by_cases hsame : d.1 = c.1
        · rw [hsame, Function.update_self]
          exact Or.inr (hagree.1.2 d hd hsame.symm)
        · rw [Function.update_of_ne hsame]
          exact hfree.2 d hd

end Paging
