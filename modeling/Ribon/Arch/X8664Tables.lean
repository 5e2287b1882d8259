/-
The entries of the x86_64 direct-high tables.

What the code writes, entry by entry: the root, the tables of the low half, the
directory of the high half, and one entry for each page of a segment.  A page of the high
half has its entry at its distance from the start of the high half.
-/
import Ribon.Arch.X8664

namespace Ribon.X8664

open Paging

/-! ### Entries -/

theorem toNat_and_addrMask (value : UInt64) :
    (value &&& addrMask).toNat = value.toNat % 2 ^ 52 / 4096 * 4096 :=
  toNat_and_frames value (show addrMask = 0xfffffffffffff &&& ~~~(4096 - 1) by decide) rfl

/-- An address that an entry can hold. -/
def Fits (address : UInt64) : Prop := address.toNat < 2 ^ 52 ∧ address.toNat % 4096 = 0

theorem Fits.toNat_and {address : UInt64} (h : Fits address) :
    (address &&& addrMask).toNat = address.toNat := by
  rw [toNat_and_addrMask, Nat.mod_eq_of_lt h.1]
  have halign := h.2
  omega

theorem tableDescriptor_eq (address : UInt64) :
    tableDescriptor address = (address &&& addrMask) ||| (ptePresent ||| pteWrite) :=
  UInt64.or_assoc _ _ _

theorem largeDescriptor_eq (address : UInt64) :
    largeDescriptor address =
      (address &&& addrMask) ||| (ptePresent ||| pteWrite ||| pteLarge) := by
  rw [largeDescriptor, tableDescriptor_eq, UInt64.or_assoc]

section Descriptors

variable (level : Nat) (address : UInt64)

theorem tableDescriptor_valid : format.valid level (tableDescriptor address) = true := by
  show (tableDescriptor address &&& ptePresent != 0) = true
  rw [tableDescriptor_eq, Mask.or_and_other (by decide)]
  decide

theorem tableDescriptor_leaf : format.leaf level (tableDescriptor address) = false := by
  show (tableDescriptor address &&& pteLarge != 0) = false
  rw [tableDescriptor_eq, Mask.or_and_other (by decide)]
  decide

theorem tableDescriptor_writable : format.writable (tableDescriptor address) = true := by
  show (tableDescriptor address &&& pteWrite != 0) = true
  rw [tableDescriptor_eq, Mask.or_and_other (by decide)]
  decide

theorem tableDescriptor_executable : format.executable (tableDescriptor address) = true := by
  show (tableDescriptor address &&& pteNoExecute == 0) = true
  rw [tableDescriptor_eq, Mask.or_and_other (by decide)]
  decide

theorem tableDescriptor_target {address : UInt64} (h : Fits address) :
    format.target (tableDescriptor address) = address.toNat := by
  show (tableDescriptor address &&& addrMask).toNat = address.toNat
  rw [tableDescriptor_eq, Mask.or_and_field (by decide), h.toNat_and]

theorem largeDescriptor_valid : format.valid level (largeDescriptor address) = true := by
  show (largeDescriptor address &&& ptePresent != 0) = true
  rw [largeDescriptor_eq, Mask.or_and_other (by decide)]
  decide

theorem largeDescriptor_leaf : format.leaf level (largeDescriptor address) = true := by
  show (largeDescriptor address &&& pteLarge != 0) = true
  rw [largeDescriptor_eq, Mask.or_and_other (by decide)]
  decide

theorem largeDescriptor_writable : format.writable (largeDescriptor address) = true := by
  show (largeDescriptor address &&& pteWrite != 0) = true
  rw [largeDescriptor_eq, Mask.or_and_other (by decide)]
  decide

theorem largeDescriptor_executable : format.executable (largeDescriptor address) = true := by
  show (largeDescriptor address &&& pteNoExecute == 0) = true
  rw [largeDescriptor_eq, Mask.or_and_other (by decide)]
  decide

theorem largeDescriptor_target {address : UInt64} (h : Fits address) :
    format.target (largeDescriptor address) = address.toNat := by
  show (largeDescriptor address &&& addrMask).toNat = address.toNat
  rw [largeDescriptor_eq, Mask.or_and_field (by decide), h.toNat_and]

/-- The rights of a page. -/
def pageRights (segment : LoadSegment) : UInt64 :=
  ptePresent ||| (if isWritable segment then pteWrite else 0) |||
    (if segment.isExecutable then 0 else pteNoExecute)

variable (segment : LoadSegment)

theorem pageDescriptor_eq :
    pageDescriptor segment address = (address &&& addrMask) ||| pageRights segment := by
  rw [pageDescriptor, pageRights, UInt64.or_assoc, UInt64.or_assoc, UInt64.or_assoc]

theorem pageRights_cases (P : UInt64 → Prop)
    (h : ∀ writable executable : Bool, P (ptePresent ||| (if writable then pteWrite else 0) |||
      (if executable then 0 else pteNoExecute))) : P (pageRights segment) :=
  h (isWritable segment) segment.isExecutable

theorem pageDescriptor_valid : format.valid level (pageDescriptor segment address) = true := by
  show (pageDescriptor segment address &&& ptePresent != 0) = true
  rw [pageDescriptor_eq, Mask.or_and_other (by decide)]
  exact pageRights_cases segment (fun rights => (rights &&& ptePresent != 0) = true) (by decide)

theorem pageDescriptor_ne_zero : pageDescriptor segment address ≠ 0 := by
  intro hzero
  have hvalid := pageDescriptor_valid 0 address segment
  rw [hzero] at hvalid
  exact absurd hvalid (by decide)

theorem pageDescriptor_writable :
    format.writable (pageDescriptor segment address) = isWritable segment := by
  show (pageDescriptor segment address &&& pteWrite != 0) = isWritable segment
  rw [pageDescriptor_eq, Mask.or_and_other (by decide), pageRights]
  cases isWritable segment <;> cases segment.isExecutable <;> decide

theorem pageDescriptor_executable :
    format.executable (pageDescriptor segment address) = segment.isExecutable := by
  show (pageDescriptor segment address &&& pteNoExecute == 0) = segment.isExecutable
  rw [pageDescriptor_eq, Mask.or_and_other (by decide), pageRights]
  cases isWritable segment <;> cases segment.isExecutable <;> decide

theorem pageDescriptor_target {address : UInt64} (h : Fits address) :
    format.target (pageDescriptor segment address) = address.toNat := by
  show (pageDescriptor segment address &&& addrMask).toNat = address.toNat
  rw [pageDescriptor_eq, Mask.or_and_field, h.toNat_and]
  exact pageRights_cases segment (fun rights => rights &&& addrMask = 0) (by decide)

end Descriptors

theorem zero_invalid (level : Nat) : format.valid level 0 = false := rfl

/-! ### The high half -/

/-- The large pages of the high half. -/
def chunks (highStart highEnd : UInt64) : Nat := (highEnd.toNat - highStart.toNat) / 0x200000

/-- The bounds of the high half are large pages that one directory has room for. -/
structure Window (plan : DirectLoadPlan) (highStart highEnd : UInt64) : Prop where
  startAligned : highStart.toNat % 0x200000 = 0
  endAligned : highEnd.toNat % 0x200000 = 0
  high : 0xffff800000000000 ≤ highStart.toNat
  lt : highStart.toNat < highEnd.toNat
  base : highStart.toNat ≤ plan.linkedVirtualBase.toNat
  bound : plan.linkedVirtualEnd.toNat ≤ highEnd.toNat
  room : highStart.toNat / 0x200000 % 512 + chunks highStart highEnd ≤ 512
  pages : (directHighPageTablePages plan).toNat = 8 + chunks highStart highEnd
  valid : ∀ segment ∈ plan.segments, highCanonicalMin ≤ segment.virtualAddress →
    highSegmentValid segment = true

variable {highStart highEnd : UInt64}

variable {plan : DirectLoadPlan}

theorem highBounds_eq_some (h : highBounds plan = some (highStart, highEnd)) :
    highStart = alignDown plan.linkedVirtualBase large2M ∧
      alignUp plan.linkedVirtualEnd large2M = some highEnd ∧ highStart.toNat < highEnd.toNat := by
  unfold highBounds at h
  dsimp only at h
  split at h
  · cases h
  next found hfound =>
    split at h
    · cases h
    next hchecks =>
      simp only [Bool.or_eq_true, decide_eq_true_eq, not_or, UInt64.not_le] at hchecks
      cases h
      exact ⟨rfl, hfound, UInt64.lt_iff_toNat_lt.mp hchecks.1⟩

theorem toNat_chunks (h : highStart.toNat < highEnd.toNat) :
    ((highEnd - highStart) / large2M).toNat = chunks highStart highEnd := by
  have hlarge : large2M.toNat = 0x200000 := rfl
  rw [UInt64.toNat_div, toNat_sub_of_le, hlarge, chunks]

theorem window (hbnds : highBounds plan = some (highStart, highEnd))
    (hpages : directHighPageTablePages plan ≠ 0) : Window plan highStart highEnd := by
  obtain ⟨hstart, hend, hlt⟩ := highBounds_eq_some hbnds
  have hpower : powerOfTwo large2M = true := by decide
  have hlarge : large2M.toNat = 0x200000 := rfl
  have hstartNat := toNat_alignDown plan.linkedVirtualBase hpower
  rw [← hstart, hlarge] at hstartNat
  obtain ⟨_, hdvd, hle, _⟩ := alignUp_eq_some hend
  rw [hlarge] at hdvd
  have hchunks := toNat_chunks hlt
  unfold directHighPageTablePages at hpages
  split at hpages
  · exact absurd rfl hpages
  next hplan =>
    simp only [Bool.or_eq_true, decide_eq_true_eq, not_or, UInt64.not_lt] at hplan
    have hmin := UInt64.le_iff_toNat_le.mp hplan.1.1.1.2
    have hminNat : highCanonicalMin.toNat = 0xffff800000000000 := rfl
    rw [hbnds] at hpages
    dsimp only at hpages
    split at hpages
    · exact absurd rfl hpages
    next hroom =>
      split at hpages
      next hvalid =>
        have hindex : (indexBits highStart 21).toNat = highStart.toNat / 0x200000 % 512 :=
          toNat_indexBits highStart 21 (by decide)
        have hbound := highEnd.toNat_lt
        have hfew : chunks highStart highEnd < 2 ^ 43 := by
          unfold chunks
          omega
        have h512 : (512 : UInt64).toNat = 512 := rfl
        have hsum : (indexBits highStart 21 + (highEnd - highStart) / large2M).toNat =
            highStart.toNat / 0x200000 % 512 + chunks highStart highEnd := by
          rw [UInt64.toNat_add, hindex, hchunks, Nat.mod_eq_of_lt (by omega)]
        rw [decide_eq_true_eq, UInt64.not_lt, UInt64.le_iff_toNat_le, hsum, h512] at hroom
        refine ⟨by omega, by omega, by omega, hlt, by omega, hle, hroom, ?_, ?_⟩
        · have hbase : baseTablePages.toNat = 8 := rfl
          unfold directHighPageTablePages
          rw [if_neg (by simpa using hplan), hbnds]
          dsimp only
          rw [if_neg, if_pos hvalid, UInt64.toNat_add, hchunks, hbase,
            Nat.mod_eq_of_lt (by omega)]
          rw [decide_eq_true_eq, UInt64.not_lt, UInt64.le_iff_toNat_le, hsum, h512]
          exact hroom
        · intro segment hseg hhigh
          have hall := List.all_eq_true.mp hvalid segment hseg
          simpa [hhigh] using hall
      next => exact absurd rfl hpages

/-! ### The tables above the pages -/

/-- The entry of a table page of the buffer. -/
def pageEntry (root : UInt64) (n : Nat) : UInt64 :=
  tableDescriptor (root + pageSize * UInt64.ofNat n)

/-- The buffer before the pages of the segments are in it. -/
structure BaseTables (tables buffer : Tables) (root highStart highEnd : UInt64) : Prop where
  pml4 : ∀ i < 512, tables i =
    if i = 0 then pageEntry root 1
    else if i = highStart.toNat / 2 ^ 39 % 512 then pageEntry root 6 else 0
  lowPdpt : ∀ i < 512, tables (512 + i) = if i < 4 then pageEntry root (i + 2) else 0
  lowPd : ∀ gb < 4, ∀ i < 512, tables (512 * (2 + gb) + i) =
    largeDescriptor (UInt64.ofNat gb * large1G + UInt64.ofNat i * large2M)
  highPdpt : ∀ i < 512, tables (512 * 6 + i) =
    if i = highStart.toNat / 2 ^ 30 % 512 then pageEntry root 7 else 0
  highPd : ∀ i < 512, tables (512 * 7 + i) =
    if highStart.toNat / 0x200000 % 512 ≤ i ∧
        i < highStart.toNat / 0x200000 % 512 + chunks highStart highEnd then
      pageEntry root (8 + (i - highStart.toNat / 0x200000 % 512))
    else 0
  pages : ∀ i, 512 * 8 ≤ i → i < 512 * (8 + chunks highStart highEnd) → tables i = 0
  outside : ∀ i, 512 * (8 + chunks highStart highEnd) ≤ i → tables i = buffer i

variable {tables : Tables}

theorem identityMap_of_not_mem {n j : Nat} (hj : j < 1024 ∨ 512 * (2 + n) ≤ j) :
    identityMap tables n j = tables j := by
  induction n with
  | zero => rfl
  | succ n ih => rw [identityMap, fill_of_not_mem (by omega), ih (by omega)]

theorem identityMap_of_mem {n gb i : Nat} (hgb : gb < n) (hi : i < 512) :
    identityMap tables n (512 * (2 + gb) + i) =
      largeDescriptor (UInt64.ofNat gb * large1G + UInt64.ofNat i * large2M) := by
  induction n with
  | zero => omega
  | succ n ih =>
    by_cases hlast : gb = n
    · rw [hlast, identityMap, fill_of_mem hi]
    · rw [identityMap, fill_of_not_mem (by omega), ih (by omega)]

theorem baseTables_spec {buffer : Tables} {root : UInt64} (h : Window plan highStart highEnd) :
    BaseTables (baseTables buffer root highStart highEnd (directHighPageTablePages plan)) buffer
      root highStart highEnd := by
  have h39 : (indexBits highStart 39).toNat = highStart.toNat / 2 ^ 39 % 512 :=
    toNat_indexBits highStart 39 (by decide)
  have h30 : (indexBits highStart 30).toNat = highStart.toNat / 2 ^ 30 % 512 :=
    toNat_indexBits highStart 30 (by decide)
  have h21 : (indexBits highStart 21).toNat = highStart.toNat / 0x200000 % 512 :=
    toNat_indexBits highStart 21 (by decide)
  have hroom := h.room
  have hhigh := h.high
  have hbound := highStart.toNat_lt
  have hroot : highStart.toNat / 2 ^ 39 % 512 < 512 ∧ highStart.toNat / 2 ^ 39 % 512 ≠ 0 := by
    omega
  have hpage : ∀ n : Nat, baseTablePages + UInt64.ofNat n = UInt64.ofNat (8 + n) := by
    intro n
    rw [UInt64.ofNat_add]
    rfl
  have htwo : ∀ n : Nat, UInt64.ofNat n + 2 = UInt64.ofNat (n + 2) := by
    intro n
    rw [UInt64.ofNat_add]
    rfl
  clear hhigh hbound
  generalize hp : highStart.toNat / 2 ^ 39 % 512 = p at *
  generalize hq : highStart.toNat / 2 ^ 30 % 512 = q at *
  generalize hr : highStart.toNat / 0x200000 % 512 = r at *
  generalize hn : chunks highStart highEnd = n at *
  have hcount := h.pages
  have hchunks := toNat_chunks h.lt
  simp only [baseTables, h39, h30, h21, hpage, htwo, hchunks, hcount, hn]
  constructor
  · intro i hi
    rw [hp]
    by_cases hi39 : i = p
    · subst hi39
      simp (disch := omega) only [fill_apply, if_neg, Function.update_of_ne,
        Function.update_self]
      rfl
    · by_cases hi0 : i = 0
      · subst hi0
        simp (disch := omega) only [fill_apply, if_neg, Function.update_of_ne,
          identityMap_of_not_mem, Function.update_self]
        rfl
      · simp (disch := omega) only [fill_apply, if_pos, if_neg, Function.update_of_ne,
          identityMap_of_not_mem]
  · intro i hi
    by_cases hi4 : i < 4
    · simp (disch := omega) only [fill_of_not_mem, fill_of_mem, if_pos, Function.update_of_ne,
        identityMap_of_not_mem, pageEntry]
    · simp (disch := omega) only [fill_apply, if_pos, if_neg, Function.update_of_ne,
        identityMap_of_not_mem]
  · intro gb hgb i hi
    simp (disch := omega) only [fill_of_not_mem, Function.update_of_ne, identityMap_of_mem]
  · intro i hi
    rw [hq]
    by_cases hi30 : i = q
    · subst hi30
      simp (disch := omega) only [fill_of_not_mem, Function.update_self]
      rfl
    · simp (disch := omega) only [fill_apply, if_pos, if_neg, Function.update_of_ne,
        identityMap_of_not_mem]
  · intro i hi
    rw [hr, hn]
    by_cases hin : r ≤ i ∧ i < r + n
    · have hdist : 512 * 7 + i - (512 * 7 + r) = i - r := by omega
      simp (disch := omega) only [fill_apply, if_pos, hdist, pageEntry]
    · simp (disch := omega) only [fill_apply, if_pos, if_neg, Function.update_of_ne,
        identityMap_of_not_mem]
  · intro i hlow hi
    simp (disch := omega) only [fill_apply, if_pos, if_neg, Function.update_of_ne,
      identityMap_of_not_mem]
  · intro i hi
    simp (disch := omega) only [fill_of_not_mem, Function.update_of_ne, identityMap_of_not_mem]

/-! ### The pages of the segments -/

/-- The pages that a segment has bytes in. -/
def pageCount (segment : LoadSegment) : Nat :=
  (segment.virtualAddress.toNat + segment.memorySize.toNat + 4095) / 4096 -
    segment.virtualAddress.toNat / 4096

/-- The address of a page of a segment. -/
def pageAddress (segment : LoadSegment) (n : Nat) : UInt64 :=
  alignDown segment.virtualAddress pageSize + pageSize * UInt64.ofNat n

/-- Where a page of a segment runs. -/
def pageFrame (segment : LoadSegment) (n : Nat) : UInt64 :=
  segment.runtimeAddress - (segment.virtualAddress - alignDown segment.virtualAddress pageSize) +
    (pageAddress segment n - alignDown segment.virtualAddress pageSize)

/-- What a segment writes. -/
def segmentClaims (highStart : UInt64) (segment : LoadSegment) : List (Nat × UInt64) :=
  (List.range (pageCount segment)).map fun n =>
    (slot highStart (pageAddress segment n), pageDescriptor segment (pageFrame segment n))

variable {segment : LoadSegment}

theorem mapPages_claims {mapStart physicalStart : UInt64} {tables' : Tables} {pages : List Nat}
    (h : pages.foldlM (mapPage highStart mapStart physicalStart segment) tables = .ok tables') :
    (pages.map fun n => (slot highStart (mapStart + pageSize * UInt64.ofNat n),
      pageDescriptor segment (physicalStart + (mapStart + pageSize * UInt64.ofNat n -
        mapStart)))).foldlM claim tables = some tables' := by
  induction pages generalizing tables with
  | nil =>
    simp only [List.foldlM_nil, pure_eq_ok] at h
    rw [← h]
    rfl
  | cons n pages ih =>
    simp only [List.foldlM_cons, bind_eq_ok] at h
    obtain ⟨next, hpage, hrest⟩ := h
    simp only [mapPage, refuse_bind_eq_ok, pure_eq_ok, Bool.and_eq_false_iff,
      bne_eq_false_iff_eq] at hpage
    rw [List.map_cons, List.foldlM_cons, claim_eq_some.mpr hpage]
    exact ih hrest

/-- What the code checks of a segment in the high half. -/
structure HighSegment (segment : LoadSegment) : Prop where
  size : 0 < segment.memorySize.toNat
  exclusive : ¬(isWritable segment = true ∧ segment.isExecutable = true)
  high : 0xffff800000000000 ≤ segment.virtualAddress.toNat
  wrap : segment.virtualAddress.toNat + segment.memorySize.toNat < 2 ^ 64
  offset : segment.virtualAddress.toNat % 4096 = segment.runtimeAddress.toNat % 4096

theorem highSegment (h : highSegmentValid segment = true) :
    HighSegment segment := by
  unfold highSegmentValid at h
  simp only [Bool.and_eq_true, bne_iff_ne, beq_iff_eq, decide_eq_true_eq, Bool.not_eq_true',
    le_u64Max_sub_iff] at h
  obtain ⟨⟨⟨⟨⟨⟨hsize, _⟩, _⟩, hexclusive⟩, hhigh⟩, hwrap⟩, hoff⟩ := h
  have hpower : powerOfTwo pageSize = true := by decide
  have hpage : pageSize.toNat = 4096 := rfl
  have hoff := congrArg UInt64.toNat hoff
  rw [toNat_and_pred hpower, toNat_and_pred hpower, hpage] at hoff
  refine ⟨ne_zero_iff.mp hsize, ?_, UInt64.le_iff_toNat_le.mp hhigh, hwrap, hoff⟩
  rintro ⟨hwritable, hexec⟩
  rw [hwritable, hexec] at hexclusive
  cases hexclusive

theorem mapHighSegment_claims {built built' : Built}
    (h : mapHighSegment highStart built segment = .ok built') :
    (segmentClaims highStart segment).foldlM claim built.tables = some built'.tables := by
  simp only [mapHighSegment, bind_eq_ok, refuse_eq_ok, demand_eq_ok, pure_eq_ok,
    exists_const] at h
  obtain ⟨hvalid, mapEnd, hend, tables, hpages, rfl⟩ := h
  have hseg := highSegment (by simpa using hvalid)
  have hpower : powerOfTwo pageSize = true := by decide
  have hpage : pageSize.toNat = 4096 := rfl
  have hstart := toNat_alignDown segment.virtualAddress hpower
  obtain ⟨_, hdvd, hle, hlt⟩ := alignUp_eq_some hend
  have hsum : (segment.virtualAddress + segment.memorySize).toNat =
      segment.virtualAddress.toNat + segment.memorySize.toNat := by
    exact toNat_add_of_lt hseg.wrap
  rw [hpage] at hstart hdvd hlt
  rw [hsum] at hle hlt
  have hcount : ((mapEnd - alignDown segment.virtualAddress pageSize) / pageSize).toNat =
      pageCount segment := by
    rw [UInt64.toNat_div, toNat_sub_of_le, hstart, hpage, pageCount]
    omega
  rw [hcount] at hpages
  exact mapPages_claims hpages

theorem mapSegments_claims {segments : List LoadSegment} {built built' : Built}
    (hhigh : ∀ segment ∈ segments, highCanonicalMin ≤ segment.virtualAddress)
    (h : segments.foldlM (mapSegment highStart) built = .ok built') :
    (segments.flatMap (segmentClaims highStart)).foldlM claim built.tables =
      some built'.tables := by
  induction segments generalizing built with
  | nil =>
    simp only [List.foldlM_nil, pure_eq_ok] at h
    rw [← h]
    rfl
  | cons segment rest ih =>
    simp only [List.foldlM_cons, bind_eq_ok] at h
    obtain ⟨next, hseg, hrest⟩ := h
    have hlow : ¬segment.virtualAddress < highCanonicalMin :=
      UInt64.not_lt.mpr (hhigh segment (by simp))
    rw [mapSegment, if_neg (by simpa using hlow)] at hseg
    rw [List.flatMap_cons, List.foldlM_append, mapHighSegment_claims hseg]
    exact ih (fun s hs => hhigh s (by simp [hs])) hrest

/-- A segment has bytes in a page. -/
def Meets (segment : LoadSegment) (page : Nat) : Prop :=
  segment.virtualAddress.toNat / 4096 ≤ page ∧
    4096 * page < segment.virtualAddress.toNat + segment.memorySize.toNat

section Pages

variable {segment : LoadSegment} (h : HighSegment segment)
include h

variable {n : Nat} (hn : n < pageCount segment)
include hn

theorem toNat_pageAddress :
    (pageAddress segment n).toNat = 4096 * (segment.virtualAddress.toNat / 4096 + n) := by
  have hpower : powerOfTwo pageSize = true := by decide
  have hpage : pageSize.toNat = 4096 := rfl
  have hstart := toNat_alignDown segment.virtualAddress hpower
  have hwrap := h.wrap
  unfold pageCount at hn
  rw [pageAddress, UInt64.toNat_add, UInt64.toNat_mul, hstart, hpage, UInt64.toNat_ofNat',
    Nat.mod_eq_of_lt (a := n) (by omega), Nat.mod_eq_of_lt (a := 4096 * n) (by omega),
    Nat.mod_eq_of_lt (by omega)]
  omega

variable (hrt : segment.runtimeAddress.toNat + segment.memorySize.toNat ≤ 2 ^ 52)
include hrt

theorem toNat_pageFrame :
    (pageFrame segment n).toNat = 4096 * (segment.runtimeAddress.toNat / 4096 + n) := by
  have hpower : powerOfTwo pageSize = true := by decide
  have hpage : pageSize.toNat = 4096 := rfl
  have hstart := toNat_alignDown segment.virtualAddress hpower
  have haddr := toNat_pageAddress h hn
  have hoff := h.offset
  unfold pageCount at hn
  rw [hpage] at hstart
  have hdist : (segment.virtualAddress - alignDown segment.virtualAddress pageSize).toNat =
      segment.virtualAddress.toNat % 4096 := by
    rw [toNat_sub_of_le, hstart]
    omega
  have hforward : (pageAddress segment n - alignDown segment.virtualAddress pageSize).toNat =
      4096 * n := by
    rw [toNat_sub_of_le, hstart, haddr]
    omega
  rw [pageFrame, UInt64.toNat_add, hforward, toNat_sub_of_le, hdist, Nat.mod_eq_of_lt (by omega)]
  omega

theorem fits_pageFrame : Fits (pageFrame segment n) := by
  have hframe := toNat_pageFrame h hn hrt
  have hoff := h.offset
  unfold pageCount at hn
  constructor <;> omega

end Pages

theorem slot_eq {va : UInt64} (halign : highStart.toNat % 0x200000 = 0)
    (hva : highStart.toNat ≤ va.toNat) :
    slot highStart va = 4096 + (va.toNat / 4096 - highStart.toNat / 4096) := by
  have h12 : (indexBits va 12).toNat = va.toNat / 4096 % 512 := toNat_indexBits va 12 (by decide)
  have hbase : baseTablePages.toNat = 8 := rfl
  have hlarge : large2M.toNat = 0x200000 := rfl
  have hbound := va.toNat_lt
  rw [slot, h12, UInt64.toNat_add, UInt64.toNat_div, toNat_sub_of_le hva, hbase, hlarge,
    Nat.mod_eq_of_lt (by omega)]
  omega

/-- The entry of a page of the high half. -/
def pageSlot (highStart : UInt64) (page : Nat) : Nat := 4096 + (page - highStart.toNat / 4096)

/-- Each page of a segment has its entry, and nothing else has changed. -/
structure Filled (segments : List LoadSegment) (highStart : UInt64) (base tables : Tables) :
    Prop where
  there : ∀ segment ∈ segments, ∀ page, Meets segment page →
    tables (pageSlot highStart page) = pageDescriptor segment
      (pageFrame segment (page - segment.virtualAddress.toNat / 4096))
  other : ∀ i, tables i ≠ base i → ∃ segment ∈ segments, ∃ page, Meets segment page ∧
    pageSlot highStart page = i

theorem lt_pageCount {page : Nat} (h : Meets segment page) :
    page - segment.virtualAddress.toNat / 4096 < pageCount segment := by
  have hlow := h.1
  have hhigh := h.2
  unfold pageCount
  omega

theorem meets_of_lt {n : Nat} (h : n < pageCount segment) :
    Meets segment (segment.virtualAddress.toNat / 4096 + n) := by
  unfold pageCount at h
  constructor <;> omega

theorem filled {segments : List LoadSegment} {base : Tables}
    (halign : highStart.toNat % 0x200000 = 0)
    (hsegs : ∀ segment ∈ segments, HighSegment segment ∧
      highStart.toNat ≤ segment.virtualAddress.toNat)
    (h : (segments.flatMap (segmentClaims highStart)).foldlM claim base = some tables) :
    Filled segments highStart base tables := by
  have hents : ∀ claim ∈ segments.flatMap (segmentClaims highStart), claim.2 ≠ 0 := by
    intro claim hclaim
    simp only [List.mem_flatMap, segmentClaims, List.mem_map] at hclaim
    obtain ⟨segment, _, n, _, rfl⟩ := hclaim
    exact pageDescriptor_ne_zero _ segment
  obtain ⟨hthere, -, hother⟩ := foldlM_claim hents h
  have hslot : ∀ segment ∈ segments, ∀ n < pageCount segment,
      slot highStart (pageAddress segment n) =
        pageSlot highStart (segment.virtualAddress.toNat / 4096 + n) := by
    intro segment hseg n hn
    obtain ⟨hvalid, hstart⟩ := hsegs segment hseg
    have haddr := toNat_pageAddress hvalid hn
    rw [slot_eq halign (by omega), haddr, Nat.mul_div_cancel_left _ (by omega), pageSlot]
  constructor
  · intro segment hseg page hpage
    have hcount := lt_pageCount hpage
    have hlow := hpage.1
    have hentry := hthere (slot highStart (pageAddress segment _), _)
      (List.mem_flatMap.mpr ⟨segment, hseg, List.mem_map.mpr
        ⟨_, List.mem_range.mpr hcount, rfl⟩⟩)
    rw [hslot segment hseg _ hcount, Nat.add_sub_cancel' hlow] at hentry
    exact hentry
  · intro i hchanged
    by_contra hnone
    refine hchanged (hother i ?_)
    intro claim hclaim hi
    simp only [List.mem_flatMap, segmentClaims, List.mem_map, List.mem_range] at hclaim
    obtain ⟨segment, hseg, n, hn, rfl⟩ := hclaim
    exact hnone ⟨segment, hseg, _, meets_of_lt hn, (hslot segment hseg n hn).symm.trans hi⟩

end Ribon.X8664
