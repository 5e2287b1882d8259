/-
The walk through the AArch64 direct-high tables.

An address of the built range leads to its distance from the start of the range, as far as
the entries can name it.  A segment is mapped to where it runs only if it runs at that
distance: the range is built from the segment of the high entry alone, and nothing compares
the others with it.
-/
import Ribon.Arch.Aarch64
import Ribon.Image.Formats

namespace Ribon.Aarch64

open Paging

/-! ### Entries -/

theorem toNat_and_addrMask (value : UInt64) :
    (value &&& addrMask).toNat = value.toNat % 2 ^ 48 / 4096 * 4096 :=
  toNat_and_frames value (show addrMask = 0xffffffffffff &&& ~~~(4096 - 1) by decide) rfl

section Descriptors

variable (address : UInt64)

theorem tableDescriptor_eq :
    tableDescriptor address = (address &&& addrMask) ||| (descValid ||| descTable) :=
  UInt64.or_assoc _ _ _

theorem pageDescriptor_eq :
    pageDescriptor address = (address &&& addrMask) |||
      (attrNormal ||| descInnerShareable ||| descAf ||| descValid ||| descTable) := by
  rw [pageDescriptor, blockDescriptor, UInt64.or_assoc, UInt64.or_assoc, UInt64.or_assoc,
    UInt64.or_assoc, UInt64.or_assoc, UInt64.or_assoc, UInt64.or_assoc]

theorem tableDescriptor_valid (level : Nat) :
    format.valid level (tableDescriptor address) = true := by
  have hvalid : (tableDescriptor address &&& descValid != 0) = true := by
    rw [tableDescriptor_eq, Mask.or_and_other (by decide)]
    decide
  have htable : (tableDescriptor address &&& descTable != 0) = true := by
    rw [tableDescriptor_eq, Mask.or_and_other (by decide)]
    decide
  simp only [format, hvalid, htable, Bool.or_true, Bool.and_self]

theorem tableDescriptor_leaf (level : Nat) :
    format.leaf level (tableDescriptor address) = false := by
  show (tableDescriptor address &&& descTable == 0) = false
  rw [tableDescriptor_eq, Mask.or_and_other (by decide)]
  decide

theorem tableDescriptor_writable : format.writable (tableDescriptor address) = true := by
  show (tableDescriptor address &&& 0x80 == 0) = true
  rw [tableDescriptor_eq, Mask.or_and_other (by decide)]
  decide

theorem tableDescriptor_executable : format.executable (tableDescriptor address) = true := by
  show (tableDescriptor address &&& 0x20000000000000 == 0) = true
  rw [tableDescriptor_eq, Mask.or_and_other (by decide)]
  decide

theorem tableDescriptor_target :
    format.target (tableDescriptor address) = address.toNat % 2 ^ 48 / 4096 * 4096 := by
  show (tableDescriptor address &&& addrMask).toNat = _
  rw [tableDescriptor_eq, Mask.or_and_field (by decide), toNat_and_addrMask]

theorem pageDescriptor_valid : format.valid 0 (pageDescriptor address) = true := by
  have hvalid : (pageDescriptor address &&& descValid != 0) = true := by
    rw [pageDescriptor_eq, Mask.or_and_other (by decide)]
    decide
  have htable : (pageDescriptor address &&& descTable != 0) = true := by
    rw [pageDescriptor_eq, Mask.or_and_other (by decide)]
    decide
  simp only [format, hvalid, htable, Bool.or_true, Bool.and_self]

theorem pageDescriptor_target :
    format.target (pageDescriptor address) = address.toNat % 2 ^ 48 / 4096 * 4096 := by
  show (pageDescriptor address &&& addrMask).toNat = _
  rw [pageDescriptor_eq, Mask.or_and_field (by decide), toNat_and_addrMask]

theorem zero_invalid (level : Nat) : format.valid level 0 = false := rfl

end Descriptors

/-! ### The range -/

/-- The bounds of a range as numbers. -/
structure Laid (range : Range) : Prop where
  startAligned : range.highStart.toNat % 4096 = 0
  endAligned : range.highEnd.toNat % 4096 = 0
  lt : range.highStart.toNat < range.highEnd.toNat
  loadAligned : range.highLoadStart.toNat % 4096 = 0
  loadBound : range.highLoadStart.toNat + (range.highEnd.toNat - range.highStart.toNat) < 2 ^ 64
  l2Start : range.highL2Start.toNat = range.highStart.toNat / 0x200000 * 0x200000
  span : range.highEnd.toNat ≤ range.highL2Start.toNat + 0x200000 * range.l2Span.toNat
  spanFits : range.l2Span.toNat ≤ 8
  room : range.highStart.toNat / 0x200000 % 512 + range.l2Span.toNat ≤ 512

variable {plan : DirectLoadPlan} {range : Range}

theorem rangeOf_eq_ok {runtime : UInt64} (h : rangeOf plan runtime = .ok range) :
    Laid range ∧ range.highStart.toNat ≤ plan.highEntryVirtualAddress.toNat ∧
      plan.linkedVirtualEnd.toNat ≤ range.highEnd.toNat := by
  simp only [rangeOf, bind_eq_ok, refuse_eq_ok, demand_eq_ok, pure_eq_ok, exists_const] at h
  obtain ⟨highEnd, hend, hbnds, hload, highL2End, hl2End, hl2, hspan, rfl⟩ := h
  have hpower : powerOfTwo pageSize = true := by decide
  have hpage : pageSize.toNat = 4096 := rfl
  have hpower2 : powerOfTwo l2Block = true := by decide
  have hblock : l2Block.toNat = 0x200000 := rfl
  have hstart := toNat_alignDown plan.highEntryVirtualAddress hpower
  generalize alignDown plan.highEntryVirtualAddress pageSize = highStart at *
  have hl2Start := toNat_alignDown highStart hpower2
  generalize alignDown highStart l2Block = highL2Start at *
  generalize runtime - (plan.highEntryVirtualAddress - highStart) = highLoadStart at *
  obtain ⟨_, hdvd, hle, hlt⟩ := alignUp_eq_some hend
  obtain ⟨_, hdvd2, hle2, hlt2⟩ := alignUp_eq_some hl2End
  rw [hpage] at hstart hdvd hlt
  rw [hblock] at hl2Start hdvd2 hlt2
  simp only [Bool.or_eq_false_iff, decide_eq_false_iff_not, bne_eq_false_iff_eq,
    beq_eq_false_iff_ne, UInt64.le_iff_toNat_le, UInt64.lt_iff_toNat_lt] at hbnds hload hl2 hspan
  have halign := congrArg UInt64.toNat hload.1
  rw [toNat_and_pred hpower, hpage, UInt64.toNat_zero] at halign
  have hdist : (highEnd - highStart).toNat = highEnd.toNat - highStart.toNat :=
    toNat_sub_of_le
  have hload2 := hload.2
  rw [← UInt64.lt_iff_toNat_lt, u64Max_sub_lt_iff, hdist] at hload2
  have hspanNat : Range.l2Span ⟨highStart, highEnd, highLoadStart, highL2Start, highL2End⟩ =
      (highL2End - highL2Start) >>> 21 := rfl
  have hshift : ((highL2End - highL2Start) >>> 21).toNat =
      (highL2End.toNat - highL2Start.toNat) / 0x200000 := by
    rw [UInt64.toNat_shiftRight, toNat_sub_of_le, Nat.shiftRight_eq_div_pow]
    rfl
  have height : highL3Tables.toNat = 8 := rfl
  rw [hspanNat, hshift, height] at hspan
  have hone : (highL2End - 1).toNat = highL2End.toNat - 1 := toNat_pred (by omega)
  have hindex := congrArg UInt64.toNat hl2.2
  have hleft : (indexBits (highL2End - 1) 30).toNat = (highL2End.toNat - 1) / 2 ^ 30 % 512 := by
    rw [← hone]
    exact toNat_indexBits _ 30 (by decide)
  have hright : (indexBits highL2Start 30).toNat = highL2Start.toNat / 2 ^ 30 % 512 :=
    toNat_indexBits _ 30 (by decide)
  rw [hleft, hright] at hindex
  refine ⟨?_, by dsimp only; omega, hle⟩
  constructor
  all_goals simp only [hspanNat, hshift]
  all_goals omega

theorem Range.slot_eq (h : Laid range) {va : UInt64} (hlow : range.highStart.toNat ≤ va.toNat)
    (hupper : va.toNat < range.highEnd.toNat) :
    range.slot va = 512 * 5 + (va.toNat / 4096 - range.highL2Start.toNat / 4096) := by
  have h12 : (indexBits va 12).toNat = va.toNat / 4096 % 512 := toNat_indexBits va 12 (by decide)
  have h21 : (indexBits va 21).toNat = va.toNat / 0x200000 % 512 :=
    toNat_indexBits va 21 (by decide)
  have hstart : (indexBits range.highL2Start 21).toNat =
      range.highL2Start.toNat / 0x200000 % 512 := toNat_indexBits _ 21 (by decide)
  have hl2 := h.l2Start
  have hspan := h.span
  have hroom := h.room
  have hle : range.startL2 ≤ (indexBits va 21).toUInt32 := by
    rw [UInt32.le_iff_toNat_le, Range.startL2, UInt64.toNat_toUInt32, UInt64.toNat_toUInt32, h21,
      hstart]
    omega
  rw [Range.slot, UInt32.toNat_sub_of_le _ _ hle, Range.startL2, UInt64.toNat_toUInt32,
    UInt64.toNat_toUInt32, h12, h21, hstart]
  omega

/-- The pages of the range stand next to each other in the buffer. -/
theorem Range.mapPages_eq (h : Laid range) (tables : Tables) {n : Nat}
    (hn : range.highStart.toNat + 4096 * n ≤ range.highEnd.toNat) :
    range.mapPages tables n =
      fill tables (512 * 5 + (range.highStart.toNat - range.highL2Start.toNat) / 4096)
        (fun k => pageDescriptor (range.highLoadStart + pageSize * UInt64.ofNat k)) n := by
  induction n with
  | zero => rfl
  | succ n ih =>
    have hpage : pageSize.toNat = 4096 := rfl
    have hbound := range.highEnd.toNat_lt
    have hva : (range.highStart + pageSize * UInt64.ofNat n).toNat =
        range.highStart.toNat + 4096 * n := by
      rw [UInt64.toNat_add, UInt64.toNat_mul, UInt64.toNat_ofNat', hpage]
      omega
    have hdist : range.highStart + pageSize * UInt64.ofNat n - range.highStart =
        pageSize * UInt64.ofNat n := by
      rw [UInt64.add_comm, UInt64.add_sub_cancel]
    have hl2 := h.l2Start
    rw [Range.mapPages, ih (by omega), Range.slot_eq h (by omega) (by omega), hva, fill,
      hdist]
    congr 1
    omega

/-! ### The tables -/

/-- The entry of a table page of the buffer. -/
def pageEntry (root : UInt64) (n : Nat) : UInt64 :=
  tableDescriptor (root + pageSize * UInt64.ofNat n)

/-- What the walk of an address of the range reads. -/
structure Entries (range : Range) (root : UInt64) (tables : Tables) : Prop where
  l0 : tables (512 * 2 + range.highStart.toNat / 2 ^ 39 % 512) = pageEntry root 3
  l1 : tables (512 * 3 + range.highStart.toNat / 2 ^ 30 % 512) = pageEntry root 4
  l2 : ∀ i < range.l2Span.toNat,
    tables (512 * 4 + (range.highStart.toNat / 0x200000 % 512 + i)) = pageEntry root (5 + i)
  l3 : ∀ n, range.highStart.toNat + 4096 * n < range.highEnd.toNat →
    tables (512 * 5 + (range.highStart.toNat - range.highL2Start.toNat) / 4096 + n) =
      pageDescriptor (range.highLoadStart + pageSize * UInt64.ofNat n)

theorem Range.build_entries (h : Laid range) (root : UInt64) (buffer : Tables) :
    Entries range root (range.build root buffer) := by
  have h39 : (indexBits range.highStart 39).toNat = range.highStart.toNat / 2 ^ 39 % 512 :=
    toNat_indexBits _ 39 (by decide)
  have h30 : (indexBits range.highStart 30).toNat = range.highStart.toNat / 2 ^ 30 % 512 :=
    toNat_indexBits _ 30 (by decide)
  have h21 : (indexBits range.highL2Start 21).toNat = range.highL2Start.toNat / 0x200000 % 512 :=
    toNat_indexBits _ 21 (by decide)
  have hl2 := h.l2Start
  have hstartL2 : range.startL2.toNat = range.highStart.toNat / 0x200000 % 512 := by
    rw [Range.startL2, UInt64.toNat_toUInt32, h21]
    omega
  have hpage : pageSize.toNat = 4096 := rfl
  have hlt := h.lt
  have hstart := h.startAligned
  have hend := h.endAligned
  have hroom := h.room
  have hcount : ((range.highEnd - range.highStart) / pageSize).toNat =
      (range.highEnd.toNat - range.highStart.toNat) / 4096 := by
    rw [UInt64.toNat_div, toNat_sub_of_le, hpage]
  have hfive : ∀ n : Nat, 5 + UInt64.ofNat n = UInt64.ofNat (5 + n) := by
    intro n
    rw [UInt64.ofNat_add]
    rfl
  simp only [Range.build, h39, h30, hstartL2, hcount, hfive]
  rw [Range.mapPages_eq h _ (by omega)]
  constructor
  · rw [fill_of_not_mem (by omega), fill_of_not_mem (by omega), Function.update_of_ne (by omega),
      Function.update_self]
    rfl
  · rw [fill_of_not_mem (by omega), fill_of_not_mem (by omega), Function.update_self]
    rfl
  · intro i hi
    rw [fill_of_not_mem (by omega), ← Nat.add_assoc, fill_of_mem hi, pageEntry]
  · intro n hn
    rw [fill_of_mem (by omega)]

/-! ### The walk -/

/-- The entries of an address of the range, level by level. -/
structure Indexed (range : Range) (address : Nat) : Prop where
  three : index 3 address = range.highStart.toNat / 2 ^ 39 % 512
  two : index 2 address = range.highStart.toNat / 2 ^ 30 % 512
  one : index 1 address = range.highStart.toNat / 0x200000 % 512 +
    (address / 0x200000 - range.highStart.toNat / 0x200000)
  inSpan : address / 0x200000 - range.highStart.toNat / 0x200000 < range.l2Span.toNat

theorem indexed (h : Laid range) (address : Nat) (hlow : range.highStart.toNat ≤ address)
    (hupper : address < range.highEnd.toNat) :
    Indexed range address := by
  have hl2 := h.l2Start
  have hspan := h.span
  have hroom := h.room
  have h3 : index 3 address = address / 2 ^ 39 % 512 := rfl
  have h2 : index 2 address = address / 2 ^ 30 % 512 := rfl
  have h1 : index 1 address = address / 0x200000 % 512 := rfl
  constructor
  · omega
  · omega
  · omega
  · omega

/-- Where an entry for a page of the buffer leads to. -/
def linkTarget (root : UInt64) (n : Nat) : Nat :=
  (root + pageSize * UInt64.ofNat n).toNat % 2 ^ 48 / 4096 * 4096

section Link

variable {root : UInt64}

theorem toNat_page (n : Nat) :
    (root + pageSize * UInt64.ofNat n).toNat = (root.toNat + 4096 * n) % 2 ^ 64 := by
  have hpage : pageSize.toNat = 4096 := rfl
  rw [UInt64.toNat_add, UInt64.toNat_mul, UInt64.toNat_ofNat', hpage]
  omega

variable {n : Nat}

/-- A page that the entries can name is found. -/
theorem linkTarget_of_le (halign : root.toNat % 4096 = 0) (hn : n < 13)
    (h : root.toNat + 4096 * (n + 1) ≤ 2 ^ 48) : linkTarget root n = root.toNat + 4096 * n := by
  rw [linkTarget, toNat_page n]
  omega

/-- Any other is looked for below the buffer. -/
theorem linkTarget_of_lt (halign : root.toNat % 4096 = 0) (hn : n < 13)
    (h : 2 ^ 48 < root.toNat + 4096 * (n + 1)) : linkTarget root n + 4096 ≤ root.toNat := by
  rw [linkTarget, toNat_page n]
  omega

end Link

section Walk

variable {range : Range} {root : UInt64} {memory : Nat → UInt64} {tables : Tables}
  {address : Nat}

theorem walk_pageEntry {level table n : Nat}
    (hentry : memory (table + 8 * index (level + 1) address) = pageEntry root n) :
    walk format memory (level + 1) table address =
      walk format memory level (linkTarget root n) address := by
  rw [walk_table_open hentry (tableDescriptor_valid _ _) (tableDescriptor_leaf _ _)
    (tableDescriptor_writable _) (tableDescriptor_executable _), pageEntry,
    tableDescriptor_target, linkTarget]

variable (halign : root.toNat % 4096 = 0) (hents : Entries range root tables)
  (hholds : Holds memory root.toNat tables (512 * 13)) (hidx : Indexed range address)
include hents hholds hidx

theorem walk_root : walk format memory 3 (kernelRoot root.toNat) address =
    walk format memory 2 (linkTarget root 3) address := by
  have hentry : memory (kernelRoot root.toNat + 8 * index 3 address) = pageEntry root 3 := by
    have hbound := index_lt 3 address
    rw [kernelRoot, hholds.entry (by omega), hidx.three, hents.l0]
  exact walk_pageEntry hentry

include halign

theorem walk_l1 (h : root.toNat + 4096 * 4 ≤ 2 ^ 48) :
    walk format memory 2 (linkTarget root 3) address =
      walk format memory 1 (linkTarget root 4) address := by
  have hentry : memory (linkTarget root 3 + 8 * index 2 address) = pageEntry root 4 := by
    have hbound := index_lt 2 address
    rw [linkTarget_of_le halign (by omega) h, hholds.entry (by omega), hidx.two,
      hents.l1]
  exact walk_pageEntry hentry

theorem walk_l2 (h : root.toNat + 4096 * 5 ≤ 2 ^ 48) :
    walk format memory 1 (linkTarget root 4) address = walk format memory 0
      (linkTarget root (5 + (address / 0x200000 - range.highStart.toNat / 0x200000))) address := by
  have hentry : memory (linkTarget root 4 + 8 * index 1 address) =
      pageEntry root (5 + (address / 0x200000 - range.highStart.toNat / 0x200000)) := by
    have hbound := index_lt 1 address
    rw [linkTarget_of_le halign (by omega) h, hholds.entry (by omega), hidx.one,
      hents.l2 _ hidx.inSpan]
  exact walk_pageEntry hentry

/-- An address whose tables can be named leads to its distance from the start. -/
theorem walk_range (hlaid : Laid range) (hlow : range.highStart.toNat ≤ address)
    (hupper : address < range.highEnd.toNat)
    (h : root.toNat +
      4096 * (6 + (address / 0x200000 - range.highStart.toNat / 0x200000)) ≤ 2 ^ 48) :
    ∃ mapping, walk format memory 3 (kernelRoot root.toNat) address = some mapping ∧
      mapping.physical =
        (range.highLoadStart.toNat + (address - range.highStart.toNat)) % 2 ^ 48 := by
  have hspan := hidx.inSpan
  have hfits := hlaid.spanFits
  have hl2 := hlaid.l2Start
  have hstart := hlaid.startAligned
  have hload := hlaid.loadAligned
  have hbound := hlaid.loadBound
  have hindex : index 0 address = address / 4096 % 512 := rfl
  have hpage : pageSize.toNat = 4096 := rfl
  have hn : range.highStart.toNat + 4096 * ((address - range.highStart.toNat) / 4096) <
      range.highEnd.toNat := by omega
  have hentry := hents.l3 _ hn
  have hframe : (range.highLoadStart + pageSize *
      UInt64.ofNat ((address - range.highStart.toNat) / 4096)).toNat =
      range.highLoadStart.toNat + (address - range.highStart.toNat) / 4096 * 4096 := by
    rw [UInt64.toNat_add, UInt64.toNat_mul, UInt64.toNat_ofNat', hpage]
    omega
  have hmemory : memory (linkTarget root (5 + (address / 0x200000 -
      range.highStart.toNat / 0x200000)) + 8 * index 0 address) = pageDescriptor
        (range.highLoadStart + pageSize *
          UInt64.ofNat ((address - range.highStart.toNat) / 4096)) := by
    rw [linkTarget_of_le halign (by omega) (by omega), hholds.entry (by omega), ← hentry]
    congr 1
    omega
  have hzero : span 0 = 4096 := rfl
  have hwalk := walk_page hmemory (pageDescriptor_valid _)
  rw [← walk_l2 halign hents hholds hidx (by omega),
    ← walk_l1 halign hents hholds hidx (by omega),
    ← walk_root hents hholds hidx] at hwalk
  refine ⟨_, hwalk, ?_⟩
  dsimp only
  rw [pageDescriptor_target, hframe, hzero]
  omega

/-- An address whose tables cannot be named leads nowhere if the memory below is empty. -/
theorem walk_adrift (hfits : range.l2Span.toNat ≤ 8)
    (hempty : ∀ below < root.toNat, memory below = 0)
    (h : 2 ^ 48 < root.toNat +
      4096 * (6 + (address / 0x200000 - range.highStart.toNat / 0x200000))) :
    walk format memory 3 (kernelRoot root.toNat) address = none := by
  have hspan := hidx.inSpan
  have hnone : ∀ level n, n < 13 → 2 ^ 48 < root.toNat + 4096 * (n + 1) →
      walk format memory level (linkTarget root n) address = none := by
    intro level n hn hbeyond
    have htgt := linkTarget_of_lt halign hn hbeyond
    have hindex := index_lt level address
    exact walk_invalid (hempty _ (by omega)) (zero_invalid level)
  rw [walk_root hents hholds hidx]
  by_cases h4 : root.toNat + 4096 * 4 ≤ 2 ^ 48
  · rw [walk_l1 halign hents hholds hidx h4]
    by_cases h5 : root.toNat + 4096 * 5 ≤ 2 ^ 48
    · rw [walk_l2 halign hents hholds hidx h5]
      exact hnone 0 _ (by omega) (by omega)
    · exact hnone 1 4 (by omega) (by omega)
  · exact hnone 2 3 (by omega) (by omega)

end Walk

/-! ### Plans that pass the check -/

/-- A segment in the high half of 48 bits. -/
def HigherHalf (segment : LoadSegment) : Prop := 2 ^ 64 - 2 ^ 47 ≤ segment.virtualAddress.toNat

variable {segment : LoadSegment}

theorem signBit_ne_zero (h : HigherHalf segment) :
    (segment.virtualAddress &&&
      ((1 : UInt64) <<< (descriptor.virtualAddressBits - 1).toUInt64) == 0) = false := by
  have hsign : ((1 : UInt64) <<< (descriptor.virtualAddressBits - 1).toUInt64).toNat = 2 ^ 47 := by
    decide
  have hbound := segment.virtualAddress.toNat_lt
  unfold HigherHalf at h
  rw [beq_eq_false_iff_ne]
  intro hzero
  have hnat := congrArg UInt64.toNat hzero
  have hodd : segment.virtualAddress.toNat / 2 ^ 47 % 2 = 1 := by omega
  rw [UInt64.toNat_and, hsign, Nat.and_two_pow, UInt64.toNat_zero,
    Nat.testBit_eq_decide_div_mod_eq, hodd] at hnat
  exact absurd hnat (by decide)

/-- The high entry of a plan is set and not above a segment. -/
def EntersBelow (plan : DirectLoadPlan) (segment : LoadSegment) : Prop :=
  plan.highEntryVirtualAddress ≠ 0 ∧ plan.highEntryVirtualAddress ≤ segment.virtualAddress

theorem noteSegment_entersBelow {other : LoadSegment} (h : EntersBelow plan other) :
    EntersBelow (Arch.noteSegment descriptor plan segment) other := by
  unfold Arch.noteSegment
  split
  · exact h
  next hsign =>
    split
    next hbelow =>
      simp only [Bool.or_eq_true, beq_iff_eq, decide_eq_true_eq] at hbelow
      have hlt := hbelow.resolve_left h.1
      refine ⟨?_, UInt64.le_trans (UInt64.le_of_lt hlt) h.2⟩
      intro hzero
      dsimp only at hzero
      rw [hzero] at hsign
      exact hsign (by decide)
    next => exact h

theorem noteSegment_higher (h : HigherHalf segment) :
    EntersBelow (Arch.noteSegment descriptor plan segment) segment := by
  have hbound : segment.virtualAddress ≠ 0 := by
    intro hzero
    unfold HigherHalf at h
    rw [hzero] at h
    exact absurd h (by decide)
  unfold Arch.noteSegment
  rw [if_neg (by rw [signBit_ne_zero h]; exact Bool.false_ne_true)]
  split
  next => exact ⟨hbound, UInt64.le_refl _⟩
  next hbelow =>
    simp only [Bool.or_eq_true, beq_iff_eq, decide_eq_true_eq, not_or, UInt64.not_lt] at hbelow
    exact hbelow

theorem foldl_noteSegment_entersBelow {segments : List LoadSegment} {other : LoadSegment}
    (h : EntersBelow plan other ∨ other ∈ segments ∧ HigherHalf other) :
    EntersBelow (segments.foldl (Arch.noteSegment descriptor) plan) other := by
  induction segments generalizing plan with
  | nil =>
    obtain h | ⟨hmem, _⟩ := h
    · exact h
    · cases hmem
  | cons segment rest ih =>
    refine ih ?_
    obtain h | ⟨hmem, hhigh⟩ := h
    · exact .inl (noteSegment_entersBelow h)
    · obtain rfl | hrest := List.mem_cons.mp hmem
      · exact .inl (noteSegment_higher hhigh)
      · exact .inr ⟨hrest, hhigh⟩

theorem foldl_noteSegment_linkedVirtualEnd (segments : List LoadSegment) (plan : DirectLoadPlan) :
    (segments.foldl (Arch.noteSegment descriptor) plan).linkedVirtualEnd =
      plan.linkedVirtualEnd := by
  induction segments generalizing plan with
  | nil => rfl
  | cons segment rest ih =>
    rw [List.foldl_cons, ih]
    unfold Arch.noteSegment
    split
    · rfl
    · split <;> rfl

/-- A parsed plan that passes: its high segments are between the high entry and the end. -/
structure Accepted (plan : DirectLoadPlan) : Prop where
  below : ∀ segment ∈ plan.segments, HigherHalf segment → EntersBelow plan segment
  above : ∀ segment ∈ plan.segments,
    segment.virtualAddress.toNat + segment.memorySize.toNat ≤ plan.linkedVirtualEnd.toNat
  memory : ∀ segment ∈ plan.segments, 0 < segment.memorySize.toNat

theorem accepted {image : PayloadImage} {storage parsed : DirectLoadPlan}
    {validated : ValidatedImage} (hparsed : Elf64.analyze image storage = .ok (validated, parsed))
    (hvalid : Arch.validateDirectLoad descriptor validated parsed = some plan) :
    Accepted plan := by
  obtain ⟨hsound, hplaced⟩ := Elf64.analyze_layout hparsed
  obtain ⟨hnoted, _, _⟩ := Arch.validateDirectLoad_eq_some hvalid
  unfold Arch.validateDirectLoad at hvalid
  split at hvalid
  next =>
    cases hvalid
    refine ⟨?_, ?_, ?_⟩
    · intro segment hseg hhigh
      rw [hnoted.segments] at hseg
      exact foldl_noteSegment_entersBelow (.inr ⟨hseg, hhigh⟩)
    · intro segment hseg
      rw [hnoted.segments] at hseg
      rw [foldl_noteSegment_linkedVirtualEnd]
      exact hsound.linkedVirtualEnd.2 ⟨segment, hseg, rfl⟩
    · intro segment hseg
      rw [hnoted.segments] at hseg
      exact (hplaced.fits segment hseg).memory
  next => cases hvalid

/-! ### Segments in the range -/

/-- The walk of the kernel half takes each byte of a high segment to where the segment runs,
whatever else is in memory. -/
def MapsSegments (plan : DirectLoadPlan) (out : DirectHighHandoff) (tables : Tables) : Prop :=
  ∀ memory, Holds memory out.translationRoot.toNat tables (512 * directHighTablePages.toNat) →
    ∀ segment ∈ plan.segments, HigherHalf segment → ∀ address ∈ segment.virtualRange,
      ∃ mapping, walk format memory 3 (kernelRoot out.translationRoot.toNat) address =
        some mapping ∧ mapping.physical =
          segment.runtimeAddress.toNat + (address - segment.virtualAddress.toNat)

/-- A segment that runs at its distance from the high entry, in memory that the entries can
name, behind tables that the entries can name. -/
structure InLine (out : DirectHighHandoff) (segment : LoadSegment) : Prop where
  offset : (out.highLoadStart.toNat +
    (segment.virtualAddress.toNat - out.highVaddrStart.toNat)) % 2 ^ 48 =
      segment.runtimeAddress.toNat
  bound : segment.runtimeAddress.toNat + segment.memorySize.toNat ≤ 2 ^ 48
  tables : out.translationRoot.toNat + 4096 * (6 + ((segment.virtualEnd - 1) / 0x200000 -
    out.highVaddrStart.toNat / 0x200000)) ≤ 2 ^ 48

/-- The buffer in a memory that is empty below it. -/
def alone (root : Nat) (tables : Tables) (address : Nat) : UInt64 :=
  if address < root then 0 else tables ((address - root) / 8)

theorem holds_alone (root : Nat) (tables : Tables) (count : Nat) :
    Holds (alone root tables) root tables count := by
  intro i _
  rw [alone, if_neg (by omega), Nat.add_sub_cancel_left, Nat.mul_div_cancel_left _ (by omega)]

namespace Bench

open Wire Elf64.Bench

/-- An image for this machine that enters at the start of the high half. -/
def image (headers : List (List UInt8)) : PayloadImage where
  data := [0x7f, 0x45, 0x4c, 0x46, 2, 1, 1, 0, 0, 0, 0, 0, 0, 0, 0, 0] ++ storeU16 2 ++
    storeU16 183 ++ storeU32 1 ++ storeU64 0xffffffff80000000 ++ storeU64 64 ++ storeU64 0 ++
    storeU32 0 ++ storeU16 64 ++ storeU16 56 ++ storeU16 headers.length.toUInt16 ++
    List.replicate 6 0 ++ headers.flatten
  size := (64 + 56 * headers.length).toUInt64
  sourceName := none

def text : List UInt8 := programHeader 5 0xffffffff80000000 0x100000 0x2000

/-- Data that is loaded right behind the code, as it is linked. -/
def nextTo : PayloadImage := image [text, programHeader 6 0xffffffff80002000 0x102000 0x2000]

/-- Data that is linked behind the code, but loaded elsewhere. -/
def apart : PayloadImage := image [text, programHeader 6 0xffffffff80002000 0x300000 0x2000]

/-- Parse, check and build. -/
def run (image : PayloadImage) : Option (DirectLoadPlan × DirectHighHandoff × Tables) := do
  let (validated, parsed) ← (Elf64.analyze image out).toOption
  let plan ← Arch.validateDirectLoad descriptor validated parsed
  let (handoff, tables) ← (prepareDirectHighEntry plan 0x400000 (fun _ => 7) 0x10000).toOption
  return (plan, handoff, tables)

theorem run_eq_some {image : PayloadImage} {plan : DirectLoadPlan} {handoff : DirectHighHandoff}
    {tables : Tables} (h : run image = some (plan, handoff, tables)) :
    ∃ validated parsed, Elf64.analyze image out = .ok (validated, parsed) ∧
      Arch.validateDirectLoad descriptor validated parsed = some plan ∧
      prepareDirectHighEntry plan 0x400000 (fun _ => 7) 0x10000 = .ok (handoff, tables) := by
  simp only [run, Option.bind_eq_bind, Option.bind_eq_some_iff, Option.pure_def, Option.some.injEq,
    toOption_eq_some, Prod.exists, Prod.mk.injEq] at h
  obtain ⟨validated, parsed, hparsed, _, hvalid, _, _, hprep, rfl, rfl, rfl⟩ := h
  exact ⟨validated, parsed, hparsed, hvalid, hprep⟩

/-- What a segment is linked to, where it runs, and its size. -/
def place (segment : LoadSegment) : UInt64 × UInt64 × UInt64 :=
  (segment.virtualAddress, segment.runtimeAddress, segment.memorySize)

def places (image : PayloadImage) : Option (List (UInt64 × UInt64 × UInt64)) :=
  (run image).map fun built => built.1.segments.map place

end Bench

end Ribon.Aarch64
