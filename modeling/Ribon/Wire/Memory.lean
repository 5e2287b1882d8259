/-
Flat memory: a byte at every address, and the two block operations on it.
-/
import Mathlib.Data.Set.Basic

namespace Wire

/-- The byte at every address. -/
abbrev Memory := Nat → UInt8

/-- Every byte of a block becomes this one. -/
def memset (memory : Memory) (base : Nat) (value : UInt8) (size : Nat) : Memory :=
  fun address => if base ≤ address ∧ address < base + size then value else memory address

/-- A block becomes a copy of another one that it does not overlap. -/
def memcpy (memory : Memory) (destination source size : Nat) : Memory :=
  fun address =>
    if destination ≤ address ∧ address < destination + size then
      memory (source + (address - destination))
    else memory address

section Blocks

variable {memory : Memory} {base destination source size address : Nat} {value : UInt8}

theorem memset_of_mem (h : base ≤ address ∧ address < base + size) :
    memset memory base value size address = value := if_pos h

theorem memset_of_not_mem (h : ¬ (base ≤ address ∧ address < base + size)) :
    memset memory base value size address = memory address := if_neg h

theorem memcpy_of_mem (h : destination ≤ address ∧ address < destination + size) :
    memcpy memory destination source size address = memory (source + (address - destination)) :=
  if_pos h

theorem memcpy_of_not_mem (h : ¬ (destination ≤ address ∧ address < destination + size)) :
    memcpy memory destination source size address = memory address := if_neg h

end Blocks

end Wire
