/-
The walk through the x86_64 direct-high tables.

A page of a segment leads to where the segment runs, with the rights of the segment; the
low four gigabytes lead to themselves; no other address leads anywhere.
-/
import Ribon.Arch.X8664Tables

namespace Ribon.X8664

open Paging

/-! ### The walk -/

theorem index_three (address : Nat) : index 3 address = address / 2 ^ 39 % 512 := rfl

theorem index_two (address : Nat) : index 2 address = address / 2 ^ 30 % 512 := rfl

theorem index_one (address : Nat) : index 1 address = address / 0x200000 % 512 := rfl

theorem index_zero (address : Nat) : index 0 address = address / 4096 % 512 := rfl

/-- The entries that lead to the high half are those of its addresses. -/
theorem in_window {plan : DirectLoadPlan} {highStart highEnd : UInt64}
    (h : Window plan highStart highEnd) {address : Nat} (hhigh : 0xffff800000000000 ≤ address)
    (hbound : address < 2 ^ 64) :
    (highStart.toNat ≤ address ∧ address < highEnd.toNat ↔
      index 3 address = highStart.toNat / 2 ^ 39 % 512 ∧
      index 2 address = highStart.toNat / 2 ^ 30 % 512 ∧
      highStart.toNat / 0x200000 % 512 ≤ index 1 address ∧
      index 1 address < highStart.toNat / 0x200000 % 512 + chunks highStart highEnd) ∧
    (highStart.toNat ≤ address ∧ address < highEnd.toNat →
      index 1 address - highStart.toNat / 0x200000 % 512 =
        (address - highStart.toNat) / 0x200000) := by
  have hstart := h.startAligned
  have hend := h.endAligned
  have hmin := h.high
  have hroom := h.room
  have hmaxEnd := highEnd.toNat_lt
  rw [index_three, index_two, index_one]
  unfold chunks at hroom ⊢
  refine ⟨⟨?_, ?_⟩, ?_⟩
  · rintro ⟨hlow, hupper⟩
    omega
  · rintro ⟨h3, h2, h1, h1'⟩
    omega
  · rintro ⟨hlow, hupper⟩
    omega

theorem toNat_block {gb i : Nat} (hgb : gb < 4) (hi : i < 512) :
    (UInt64.ofNat gb * large1G + UInt64.ofNat i * large2M).toNat =
      gb * 0x40000000 + i * 0x200000 := by
  have h1G : large1G.toNat = 0x40000000 := rfl
  have h2M : large2M.toNat = 0x200000 := rfl
  rw [UInt64.toNat_add, UInt64.toNat_mul, UInt64.toNat_mul, UInt64.toNat_ofNat',
    UInt64.toNat_ofNat', h1G, h2M, Nat.mod_eq_of_lt (a := gb) (by omega),
    Nat.mod_eq_of_lt (a := i) (by omega)]
  omega

theorem fits_block {gb i : Nat} (hgb : gb < 4) (hi : i < 512) :
    Fits (UInt64.ofNat gb * large1G + UInt64.ofNat i * large2M) := by
  have hblock := toNat_block hgb hi
  constructor <;> omega

/-- The finished buffer, in memory that the walk reads. -/
structure InMemory (plan : DirectLoadPlan) (memory : Nat → UInt64) (buffer tables : Tables)
    (root highStart highEnd : UInt64) : Prop where
  window : Window plan highStart highEnd
  aligned : root.toNat % 4096 = 0
  reach : root.toNat + 4096 * (8 + chunks highStart highEnd) ≤ 2 ^ 52
  high : ∀ segment ∈ plan.segments, HighSegment segment ∧
    highStart.toNat ≤ segment.virtualAddress.toNat ∧
    segment.virtualAddress.toNat + segment.memorySize.toNat ≤ highEnd.toNat
  filled : ∃ base, BaseTables base buffer root highStart highEnd ∧
    Filled plan.segments highStart base tables
  holds : Holds memory root.toNat tables (512 * (8 + chunks highStart highEnd))

namespace InMemory

variable {plan : DirectLoadPlan} {memory : Nat → UInt64} {buffer tables : Tables}
  {root highStart highEnd : UInt64} (h : InMemory plan memory buffer tables root highStart highEnd)
include h

theorem pageEntry_target {n : Nat} (hn : n < 8 + chunks highStart highEnd) :
    format.target (pageEntry root n) = root.toNat + 4096 * n := by
  have hreach := h.reach
  have halign := h.aligned
  have hpage : pageSize.toNat = 4096 := rfl
  have haddr : (root + pageSize * UInt64.ofNat n).toNat = root.toNat + 4096 * n := by
    rw [UInt64.toNat_add, UInt64.toNat_mul, UInt64.toNat_ofNat', hpage,
      Nat.mod_eq_of_lt (a := n) (by omega), Nat.mod_eq_of_lt (a := 4096 * n) (by omega),
      Nat.mod_eq_of_lt (by omega)]
  have hfits : Fits (root + pageSize * UInt64.ofNat n) := by
    constructor <;> omega
  rw [pageEntry, tableDescriptor_target hfits, haddr]

variable {address : Nat}

/-- An entry that leads to another page of the buffer. -/
theorem walk_pageEntry {level table n : Nat} (hn : n < 8 + chunks highStart highEnd)
    (hentry : memory (table + 8 * index (level + 1) address) = pageEntry root n) :
    walk format memory (level + 1) table address =
      walk format memory level (root.toNat + 4096 * n) address := by
  rw [walk_table_open hentry (tableDescriptor_valid _ _) (tableDescriptor_leaf _ _)
    (tableDescriptor_writable _) (tableDescriptor_executable _), h.pageEntry_target hn]

variable {base : Tables} (hfilled : Filled plan.segments highStart base tables)
include hfilled

/-- An entry of the pages before those of the segments. -/
theorem base_entry (page : Nat) {i : Nat} (hpage : page < 8) (hi : i < 512) :
    memory (root.toNat + 4096 * page + 8 * i) = base (512 * page + i) := by
  rw [h.holds.entry (by omega)]
  by_contra hchanged
  obtain ⟨segment, _, other, _, hslot⟩ := hfilled.other _ hchanged
  unfold pageSlot at hslot
  omega

theorem root_entry {i : Nat} (hi : i < 512) : memory (root.toNat + 8 * i) = base i := by
  have hentry := h.base_entry hfilled 0 (by omega) hi
  rwa [Nat.mul_zero, Nat.add_zero, Nat.zero_add] at hentry

omit hfilled

/-- The walk of a high address ends in the page table of its large page. -/
theorem walk_high (hhigh : 0xffff800000000000 ≤ address) (hbound : address < 2 ^ 64) :
    walk format memory 3 root.toNat address =
      if highStart.toNat ≤ address ∧ address < highEnd.toNat then
        walk format memory 0
          (root.toNat + 4096 * (8 + (address - highStart.toNat) / 0x200000)) address
      else none := by
  obtain ⟨base, hbase, hfilled⟩ := h.filled
  obtain ⟨hin, hdist⟩ := in_window h.window hhigh hbound
  have hroot : index 3 address ≠ 0 := by
    rw [index_three]
    omega
  have hentry3 := h.root_entry hfilled (index_lt 3 address)
  rw [hbase.pml4 _ (index_lt 3 address), if_neg hroot] at hentry3
  split at hentry3
  · next h3 =>
    rw [h.walk_pageEntry (by omega) hentry3]
    have hentry2 := h.base_entry hfilled 6 (by omega) (index_lt 2 address)
    rw [hbase.highPdpt _ (index_lt 2 address)] at hentry2
    split at hentry2
    · next h2 =>
      rw [h.walk_pageEntry (by omega) hentry2]
      have hentry1 := h.base_entry hfilled 7 (by omega) (index_lt 1 address)
      rw [hbase.highPd _ (index_lt 1 address)] at hentry1
      by_cases h1 : highStart.toNat / 0x200000 % 512 ≤ index 1 address ∧
          index 1 address < highStart.toNat / 0x200000 % 512 + chunks highStart highEnd
      · have hrange := hin.mpr ⟨h3, h2, h1⟩
        rw [if_pos h1] at hentry1
        rw [h.walk_pageEntry (by omega) hentry1, if_pos hrange, hdist hrange]
      · rw [if_neg h1] at hentry1
        rw [walk_invalid hentry1 (zero_invalid 1), if_neg fun hrange => h1 (hin.mp hrange).2.2]
    · next h2 =>
      rw [walk_invalid hentry2 (zero_invalid 2), if_neg fun hrange => h2 (hin.mp hrange).2.1]
  · next h3 =>
    rw [walk_invalid hentry3 (zero_invalid 3), if_neg fun hrange => h3 (hin.mp hrange).1]

/-- The last entry on the way to a high address. -/
theorem last_entry (hlow : highStart.toNat ≤ address) (hupper : address < highEnd.toNat) :
    memory (root.toNat + 4096 * (8 + (address - highStart.toNat) / 0x200000) +
      8 * index 0 address) = tables (pageSlot highStart (address / 4096)) := by
  have hstart := h.window.startAligned
  have hend := h.window.endAligned
  rw [h.holds.entry, index_zero, pageSlot]
  · congr 1
    omega
  · rw [index_zero]
    unfold chunks
    omega

theorem page_of_slot {segment : LoadSegment} (hseg : segment ∈ plan.segments) {page : Nat}
    (hmeets : Meets segment page) (hlow : highStart.toNat ≤ address)
    (hslot : pageSlot highStart page = pageSlot highStart (address / 4096)) :
    Meets segment (address / 4096) := by
  have hstart := (h.high segment hseg).2.1
  have hpage := hmeets.1
  have hsame : page = address / 4096 := by
    unfold pageSlot at hslot
    omega
  rwa [← hsame]

/-- A page of a segment leads to where the segment runs, with the rights of the segment. -/
theorem walk_segment {segment : LoadSegment} (hseg : segment ∈ plan.segments)
    (hruntime : segment.runtimeAddress.toNat + segment.memorySize.toNat ≤ 2 ^ 52)
    (hmeets : Meets segment (address / 4096)) :
    walk format memory 3 root.toNat address = some
      ⟨4096 * (segment.runtimeAddress.toNat / 4096 +
        (address / 4096 - segment.virtualAddress.toNat / 4096)) + address % 4096,
        isWritable segment, segment.isExecutable⟩ := by
  obtain ⟨hvalid, hstart, hend⟩ := h.high segment hseg
  obtain ⟨base, _, hfilled⟩ := h.filled
  have hmin := hvalid.high
  have halignedStart := h.window.startAligned
  have halignedEnd := h.window.endAligned
  have hmax := highEnd.toNat_lt
  have hlow := hmeets.1
  have hupper := hmeets.2
  have hrange : highStart.toNat ≤ address ∧ address < highEnd.toNat := by omega
  have hentry := h.last_entry hrange.1 hrange.2
  rw [hfilled.there segment hseg _ hmeets] at hentry
  have hcount := lt_pageCount hmeets
  have hspan : span 0 = 4096 := rfl
  rw [h.walk_high (by omega) (by omega), if_pos hrange,
    walk_page hentry (pageDescriptor_valid _ _ _), pageDescriptor_writable,
    pageDescriptor_executable, pageDescriptor_target segment (fits_pageFrame hvalid hcount hruntime),
    toNat_pageFrame hvalid hcount hruntime, hspan]

/-- A high address that leads anywhere is in a page of a segment. -/
theorem meets_of_walk (hhigh : 0xffff800000000000 ≤ address) (hbound : address < 2 ^ 64)
    (hwalk : walk format memory 3 root.toNat address ≠ none) :
    ∃ segment ∈ plan.segments, Meets segment (address / 4096) := by
  obtain ⟨base, hbase, hfilled⟩ := h.filled
  rw [h.walk_high hhigh hbound] at hwalk
  split at hwalk
  · next hrange =>
    have hentry := h.last_entry hrange.1 hrange.2
    by_cases hchanged : tables (pageSlot highStart (address / 4096)) =
        base (pageSlot highStart (address / 4096))
    · have hstart := h.window.startAligned
      have hend := h.window.endAligned
      have hzero := hbase.pages (pageSlot highStart (address / 4096))
        (by unfold pageSlot; omega) (by unfold pageSlot chunks; omega)
      rw [hchanged, hzero] at hentry
      exact absurd (walk_invalid hentry (zero_invalid 0)) hwalk
    · obtain ⟨segment, hseg, page, hmeets, hslot⟩ := hfilled.other _ hchanged
      exact ⟨segment, hseg, h.page_of_slot hseg hmeets hrange.1 hslot⟩
  · exact absurd rfl hwalk

/-- The low half: four gigabytes that lead to themselves, and nothing else. -/
theorem walk_low (hbound : address < 2 ^ 47) :
    walk format memory 3 root.toNat address =
      if address < 2 ^ 32 then some ⟨address, true, true⟩ else none := by
  obtain ⟨base, hbase, hfilled⟩ := h.filled
  have hmin := h.window.high
  have hmax := highStart.toNat_lt
  have hother : index 3 address ≠ highStart.toNat / 2 ^ 39 % 512 := by
    rw [index_three]
    omega
  have hentry3 := h.root_entry hfilled (index_lt 3 address)
  rw [hbase.pml4 _ (index_lt 3 address), if_neg hother] at hentry3
  split at hentry3
  · next h3 =>
    rw [h.walk_pageEntry (by omega) hentry3]
    have hentry2 := h.base_entry hfilled 1 (by omega) (index_lt 2 address)
    rw [Nat.mul_one, hbase.lowPdpt _ (index_lt 2 address)] at hentry2
    rw [index_three] at h3
    split at hentry2
    · next h2 =>
      rw [h.walk_pageEntry (by omega) hentry2, Nat.add_comm (index 2 address)]
      have hentry1 := h.base_entry hfilled (2 + index 2 address) (by omega) (index_lt 1 address)
      rw [hbase.lowPd _ h2 _ (index_lt 1 address)] at hentry1
      have hblock := toNat_block h2 (index_lt 1 address)
      have hspan : span 1 = 0x200000 := rfl
      rw [walk_block hentry1 (largeDescriptor_valid _ _) (largeDescriptor_leaf _ _),
        largeDescriptor_writable, largeDescriptor_executable,
        largeDescriptor_target (fits_block h2 (index_lt 1 address)), hblock, hspan]
      rw [index_two] at h2 ⊢
      rw [if_pos (by omega), index_one]
      congr 2
      omega
    · next h2 =>
      rw [index_two] at h2
      rw [walk_invalid hentry2 (zero_invalid 2), if_neg (by omega)]
  · next h3 =>
    rw [index_three] at h3
    rw [walk_invalid hentry3 (zero_invalid 3), if_neg (by omega)]

end InMemory

/-! ### The finished tables -/

/-- What a plan asks of its tables. -/
structure Exact (plan : DirectLoadPlan) (memory : Nat → UInt64) (root : Nat)
    (buffer tables : Tables) : Prop where
  segments : ∀ segment ∈ plan.segments, ∀ address, Meets segment (address / 4096) →
    ∃ mapping, walk format memory 3 root address = some mapping ∧
      mapping.physical + segment.virtualAddress.toNat =
        segment.runtimeAddress.toNat + address ∧
      mapping.writable = isWritable segment ∧ mapping.executable = segment.isExecutable
  exclusive : ∀ address, 0xffff800000000000 ≤ address → address < 2 ^ 64 → ∀ mapping,
    walk format memory 3 root address = some mapping →
      ¬(mapping.writable = true ∧ mapping.executable = true)
  only : ∀ address, 0xffff800000000000 ≤ address → address < 2 ^ 64 →
    walk format memory 3 root address ≠ none →
      ∃ segment ∈ plan.segments, Meets segment (address / 4096)
  identity : ∀ address < 2 ^ 32, ∃ mapping, walk format memory 3 root address = some mapping ∧
    mapping.physical = address
  lower : ∀ address < 2 ^ 47, 2 ^ 32 ≤ address → walk format memory 3 root address = none
  inside : ∀ i, 512 * (directHighPageTablePages plan).toNat ≤ i → tables i = buffer i

theorem InMemory.exact {plan : DirectLoadPlan} {memory : Nat → UInt64} {buffer tables : Tables}
    {root highStart highEnd : UInt64}
    (h : InMemory plan memory buffer tables root highStart highEnd)
    (hruntime : ∀ segment ∈ plan.segments,
      segment.runtimeAddress.toNat + segment.memorySize.toNat ≤ 2 ^ 52) :
    Exact plan memory root.toNat buffer tables := by
  constructor
  · intro segment hseg address hmeets
    refine ⟨_, h.walk_segment hseg (hruntime segment hseg) hmeets, ?_, rfl, rfl⟩
    have hoff := (h.high segment hseg).1.offset
    have hlow := hmeets.1
    dsimp only
    omega
  · intro address hhigh hbound mapping hwalk
    obtain ⟨segment, hseg, hmeets⟩ :=
      h.meets_of_walk hhigh hbound (by rw [hwalk]; exact Option.some_ne_none _)
    rw [h.walk_segment hseg (hruntime segment hseg) hmeets] at hwalk
    cases hwalk
    exact (h.high segment hseg).1.exclusive
  · intro address hhigh hbound hwalk
    exact h.meets_of_walk hhigh hbound hwalk
  · intro address hbound
    refine ⟨⟨address, true, true⟩, ?_, rfl⟩
    rw [h.walk_low (by omega), if_pos hbound]
  · intro address hbound hlow
    rw [h.walk_low hbound, if_neg (by omega)]
  · intro i hi
    obtain ⟨base, hbase, hfilled⟩ := h.filled
    rw [h.window.pages] at hi
    rw [← hbase.outside i hi]
    by_contra hchanged
    obtain ⟨segment, hseg, page, hmeets, hslot⟩ := hfilled.other i hchanged
    obtain ⟨_, hstart, hend⟩ := h.high segment hseg
    have hlow := hmeets.1
    have hupper := hmeets.2
    have hstartAligned := h.window.startAligned
    have hendAligned := h.window.endAligned
    unfold pageSlot at hslot
    unfold chunks at hi
    omega

/-- The buffer of a successful call. -/
theorem inMemory {plan : DirectLoadPlan} {memory : Nat → UInt64} {buffer tables : Tables}
    {root size : UInt64} {out : DirectHighHandoff}
    (h : prepareDirectHighEntry plan root buffer size = .ok (out, tables))
    (hbase : IsLeast (LoadSegment.virtualStart '' {s | s ∈ plan.segments})
      plan.linkedVirtualBase.toNat)
    (hend : IsGreatest (LoadSegment.virtualEnd '' {s | s ∈ plan.segments})
      plan.linkedVirtualEnd.toNat)
    (hreach : root.toNat + size.toNat ≤ 2 ^ 52)
    (hholds : Holds memory root.toNat tables (512 * (directHighPageTablePages plan).toNat)) :
    out.translationRoot = root ∧
      ∃ highStart highEnd, InMemory plan memory buffer tables root highStart highEnd := by
  simp only [prepareDirectHighEntry, bind_eq_ok, refuse_eq_ok, demand_eq_ok, pure_eq_ok,
    exists_const, Prod.mk.injEq, Prod.exists] at h
  obtain ⟨hroot, _, _, highStart, highEnd, hbnds, built, hbuilt, _, _, _, rfl, rfl⟩ := h
  simp only [Bool.or_eq_false_iff, beq_eq_false_iff_ne, bne_eq_false_iff_eq,
    decide_eq_false_iff_not, UInt64.not_lt, UInt64.le_iff_toNat_le] at hroot
  obtain ⟨⟨⟨hpages, _⟩, halign⟩, hsize⟩ := hroot
  have hwin := window hbnds hpages
  have hpower : powerOfTwo pageSize = true := by decide
  have hpage : pageSize.toNat = 4096 := rfl
  have halign := congrArg UInt64.toNat halign
  rw [toNat_and_pred hpower, hpage] at halign
  have hroom := hwin.room
  rw [UInt64.toNat_mul, hwin.pages, hpage, Nat.mod_eq_of_lt (by omega)] at hsize
  -- The bounds of the plan put every segment into the high half.
  have hsegs : ∀ segment ∈ plan.segments,
      plan.linkedVirtualBase.toNat ≤ segment.virtualAddress.toNat ∧
        segment.virtualAddress.toNat + segment.memorySize.toNat ≤ plan.linkedVirtualEnd.toNat := by
    intro segment hseg
    exact ⟨hbase.2 ⟨segment, hseg, rfl⟩, hend.2 ⟨segment, hseg, rfl⟩⟩
  have hmin : highCanonicalMin.toNat = 0xffff800000000000 := rfl
  have hhigh : ∀ segment ∈ plan.segments, highCanonicalMin ≤ segment.virtualAddress := by
    intro segment hseg
    have hlow := (hsegs segment hseg).1
    have hstart := hwin.base
    have hcanon := hwin.high
    exact UInt64.le_iff_toNat_le.mpr (by omega)
  have hvalid : ∀ segment ∈ plan.segments, HighSegment segment := by
    intro segment hseg
    exact highSegment (hwin.valid segment hseg (hhigh segment hseg))
  have hclaims := mapSegments_claims hhigh hbuilt
  refine ⟨rfl, highStart, highEnd, hwin, halign, by omega, ?_, ?_, ?_⟩
  · intro segment hseg
    obtain ⟨hlow, hupper⟩ := hsegs segment hseg
    exact ⟨hvalid segment hseg, hwin.base.trans hlow, hupper.trans hwin.bound⟩
  · refine ⟨_, baseTables_spec hwin, filled hwin.startAligned ?_ hclaims⟩
    intro segment hseg
    exact ⟨hvalid segment hseg, hwin.base.trans (hsegs segment hseg).1⟩
  · rw [← hwin.pages]
    exact hholds

/--
**The tables of a direct-high entry are exact.**  If the bounds of the plan are those of
its segments, and its memory and its table pages can be named by an entry, then each page
of a segment leads to where it runs with the rights of the segment, the low four gigabytes
lead to themselves, and nothing else leads anywhere.
-/
theorem prepareDirectHighEntry_exact {plan : DirectLoadPlan} {memory : Nat → UInt64}
    {buffer tables : Tables} {root size : UInt64} {out : DirectHighHandoff}
    (hbase : IsLeast (LoadSegment.virtualStart '' {s | s ∈ plan.segments})
      plan.linkedVirtualBase.toNat)
    (hend : IsGreatest (LoadSegment.virtualEnd '' {s | s ∈ plan.segments})
      plan.linkedVirtualEnd.toNat)
    (hruntime : ∀ segment ∈ plan.segments,
      segment.runtimeAddress.toNat + segment.memorySize.toNat ≤ 2 ^ 52)
    (hreach : root.toNat + size.toNat ≤ 2 ^ 52)
    (h : prepareDirectHighEntry plan root buffer size = .ok (out, tables))
    (hholds : Holds memory root.toNat tables (512 * (directHighPageTablePages plan).toNat)) :
    Exact plan memory out.translationRoot.toNat buffer tables := by
  obtain ⟨hroot, highStart, highEnd, hmemory⟩ := inMemory h hbase hend hreach hholds
  rw [hroot]
  exact hmemory.exact hruntime

namespace Bench

/-- Code at the start of the high half. -/
def text : LoadSegment where
  fileOffset := 0x1000
  fileSize := 0x2000
  memorySize := 0x2000
  virtualAddress := 0xffffffff80000000
  linkedPhysicalAddress := 0x100000
  physicalAddress := 0x100000
  loadAddress := 0x100000
  runtimeAddress := 0x100000
  alignment := 0x1000
  flags := loadSegmentRead ||| loadSegmentExecute

/-- Data after it that runs elsewhere. -/
def data : LoadSegment :=
  { text with
    fileOffset := 0x3000
    virtualAddress := 0xffffffff80002000
    loadAddress := 0x300000
    runtimeAddress := 0x300000
    flags := loadSegmentRead ||| loadSegmentWrite }

def plan : DirectLoadPlan :=
  { (default : DirectLoadPlan) with
    loadPlanFlags := loadPlanDirectHighEntryCandidate
    linkedVirtualBase := 0xffffffff80000000
    linkedVirtualEnd := 0xffffffff80004000
    highEntryVirtualAddress := 0xffffffff80000000
    segments := [text, data]
    storage := true }

/-- The tables of two segments with different rights. -/
theorem prepareDirectHighEntry_plan :
    ∃ out tables, prepareDirectHighEntry plan 0x400000 (fun _ => 7) 0x10000 = .ok (out, tables) ∧
      Exact plan (fun address => tables ((address - 0x400000) / 8)) out.translationRoot.toNat
        (fun _ => 7) tables := by
  have hok : (prepareDirectHighEntry plan 0x400000 (fun _ => 7) 0x10000).isOk = true := by
    decide +kernel
  cases hprep : prepareDirectHighEntry plan 0x400000 (fun _ => 7) 0x10000 with
  | error status =>
    rw [hprep] at hok
    cases hok
  | ok result =>
    obtain ⟨out, tables⟩ := result
    have hsegs : ∀ segment ∈ plan.segments, segment = text ∨ segment = data := by
      simp [plan]
    refine ⟨out, tables, rfl, prepareDirectHighEntry_exact ?_ ?_ ?_ (by decide) hprep ?_⟩
    · refine ⟨⟨text, by simp [plan], rfl⟩, ?_⟩
      rintro _ ⟨segment, hseg, rfl⟩
      obtain rfl | rfl := hsegs segment hseg <;> decide
    · refine ⟨⟨data, by simp [plan], rfl⟩, ?_⟩
      rintro _ ⟨segment, hseg, rfl⟩
      obtain rfl | rfl := hsegs segment hseg <;> decide
    · intro segment hseg
      obtain rfl | rfl := hsegs segment hseg <;> decide
    · intro i _
      have hroot : (0x400000 : UInt64).toNat = 0x400000 := rfl
      dsimp only
      rw [hroot, Nat.add_sub_cancel_left, Nat.mul_div_cancel_left _ (by omega)]

end Bench

end Ribon.X8664
