/-
What the post-exit bridge maps.

A block is a number here: block `b` is the 2 MiB from `b` times 2 MiB on.  The first pass
numbers the spans of the blocks that ranges meet, and succeeds if the ranges are in order
and there are at most eight such spans.  The second pass claims one entry for each block of
each range; two claims of one entry are claims of one block, so they disagree only if the
block is met by two kinds of memory.
-/
import Ribon.Arch.Aarch64Bridge
import Ribon.Arch.Aarch64Walk

namespace Ribon.Aarch64

open Paging

/-! ### Ranges and their blocks -/

/-- A range that may be registered. -/
structure RangeValid (range : BridgeRange) : Prop where
  nonempty : 0 < range.length.toNat
  baseAligned : range.base.toNat % 4096 = 0
  lengthAligned : range.length.toNat % 4096 = 0
  below : range.base.toNat + range.length.toNat ≤ 2 ^ 39

/-- A block has a byte of the range. -/
def Meets (range : BridgeRange) (block : Nat) : Prop :=
  range.base.toNat < (block + 1) * 0x200000 ∧
    block * 0x200000 < range.base.toNat + range.length.toNat

/-- Where a block begins. -/
def blockAddress (block : Nat) : UInt64 := UInt64.ofNat (block * 0x200000)

variable {range : BridgeRange}

theorem Meets.lt {block : Nat} (h : Meets range block) (valid : RangeValid range) :
    block < 2 ^ 18 := by
  have hend := h.2
  have hbelow := valid.below
  omega

section Block

variable {block : Nat}

theorem toNat_blockAddress (h : block < 2 ^ 18) : (blockAddress block).toNat = block * 0x200000 := by
  rw [blockAddress, UInt64.toNat_ofNat', Nat.mod_eq_of_lt (by omega)]

theorem spanOf_blockAddress (h : block < 2 ^ 18) : spanOf (blockAddress block) = block / 512 := by
  have hspan : l1Span.toNat = 0x40000000 := rfl
  rw [spanOf, UInt64.toNat_div, toNat_blockAddress h, hspan]
  omega

theorem indexBits_blockAddress (h : block < 2 ^ 18) :
    (indexBits (blockAddress block) 21).toNat = block % 512 := by
  rw [toNat_indexBits _ _ (by decide), toNat_blockAddress h]
  have hshift : (21 : UInt64).toNat = 21 := rfl
  rw [hshift]
  omega

end Block

theorem toNat_finish (valid : RangeValid range) :
    (range.base + range.length).toNat = range.base.toNat + range.length.toNat := by
  have hbelow := valid.below
  rw [UInt64.toNat_add, Nat.mod_eq_of_lt (by omega)]

/-- The loops over a range visit the blocks that it meets. -/
theorem mem_blocks (valid : RangeValid range) {address : UInt64} :
    address ∈ range.blocks ↔ ∃ block, Meets range block ∧ address = blockAddress block := by
  have hpower : powerOfTwo l2Block = true := by decide
  have hblock : l2Block.toNat = 0x200000 := rfl
  have hfirst := toNat_alignDown range.base hpower
  rw [hblock] at hfirst
  have hbelow := valid.below
  have hstep : ∀ i, range.base.toNat / 0x200000 + i < 2 ^ 18 →
      alignDown range.base l2Block + l2Block * UInt64.ofNat i =
        blockAddress (range.base.toNat / 0x200000 + i) := by
    intro i hi
    refine UInt64.toNat_inj.mp ?_
    rw [toNat_blockAddress hi, UInt64.toNat_add, UInt64.toNat_mul, UInt64.toNat_ofNat', hfirst,
      hblock]
    omega
  unfold BridgeRange.blocks
  simp only [List.mem_map, List.mem_range, toNat_finish valid, hfirst]
  constructor
  · rintro ⟨i, hi, rfl⟩
    refine ⟨range.base.toNat / 0x200000 + i, ⟨by omega, by omega⟩, hstep i (by omega)⟩
  · rintro ⟨block, hmeets, rfl⟩
    obtain ⟨hstart, hend⟩ := hmeets
    refine ⟨block - range.base.toNat / 0x200000, by omega, ?_⟩
    rw [hstep _ (by omega)]
    congr 1
    omega

/-! ### The first pass -/

theorem and_4095_eq_zero {value : UInt64} : value &&& 4095 = 0 ↔ value.toNat % 4096 = 0 := by
  have hpower : powerOfTwo 4096 = true := by decide
  have hvalue := toNat_and_pred hpower value
  have hmask : (4096 : UInt64) - 1 = 4095 := by decide
  have hpage : (4096 : UInt64).toNat = 4096 := rfl
  rw [hmask, hpage] at hvalue
  rw [← UInt64.toNat_inj, hvalue, UInt64.toNat_zero]

theorem rangeValid_iff :
    (range.length ≠ 0 ∧ range.base &&& 4095 = 0 ∧ range.length &&& 4095 = 0 ∧
      ¬ u64Max - range.length < range.base ∧ ¬ addressLimit < range.base + range.length) ↔
      RangeValid range := by
  have hlimit : addressLimit.toNat = 2 ^ 39 := rfl
  rw [ne_zero_iff, and_4095_eq_zero, and_4095_eq_zero, u64Max_sub_lt_iff, UInt64.lt_iff_toNat_lt,
    hlimit, UInt64.toNat_add]
  constructor
  · rintro ⟨hnonempty, hbase, halign, hoverflow, hbelow⟩
    refine ⟨hnonempty, hbase, halign, ?_⟩
    omega
  · rintro ⟨hnonempty, hbase, halign, hbelow⟩
    refine ⟨hnonempty, hbase, halign, ?_, ?_⟩
    all_goals omega

theorem checkRange_eq_ok {pass after : BridgePass} :
    checkRange pass range = .ok after ↔
      RangeValid range ∧ (∀ previous ∈ pass.previousEnd, previous.toNat ≤ range.base.toNat) ∧
        after.previousEnd = some (range.base + range.length) ∧
        (range.blocks.map spanOf).foldlM (Numbering.ask 9) pass.pages = some after.pages := by
  simp only [checkRange, bind_eq_ok, refuse_eq_ok, demand_eq_ok, pure_eq_ok, exists_const,
    Bool.or_eq_false_iff, beq_eq_false_iff_ne, bne_eq_false_iff_eq, decide_eq_false_iff_not]
  rw [← rangeValid_iff]
  have hprev : (pass.previousEnd.any fun previous => decide (range.base < previous)) = false ↔
      ∀ previous ∈ pass.previousEnd, previous.toNat ≤ range.base.toNat := by
    cases pass.previousEnd with
    | none => simp
    | some previous => simp [UInt64.le_iff_toNat_le]
  rw [hprev]
  constructor
  · rintro ⟨⟨⟨⟨⟨⟨h0, h1⟩, h2⟩, h3⟩, h4⟩, h5⟩, pages, hpages, rfl⟩
    exact ⟨⟨h0, h1, h2, h3, h4⟩, h5, rfl, hpages⟩
  · rintro ⟨⟨h0, h1, h2, h3, h4⟩, h5, hend, hpages⟩
    refine ⟨⟨⟨⟨⟨⟨h0, h1⟩, h2⟩, h3⟩, h4⟩, h5⟩, after.pages, hpages, ?_⟩
    cases after
    cases hend
    rfl

/-- The spans that the ranges ask a table for. -/
def spansOf (ranges : List BridgeRange) : Finset Nat :=
  (ranges.flatMap fun range => range.blocks.map spanOf).toFinset

/-- The order of ranges that the first pass asks for. -/
def InOrder (ranges : List BridgeRange) : Prop :=
  ranges.Pairwise fun range later => range.base.toNat + range.length.toNat ≤ later.base.toNat

section FirstPass

variable {asked : Finset Nat} {pass after : BridgePass}

/-- One range more. -/
theorem spansOf_cons (range : BridgeRange) (ranges : List BridgeRange) :
    asked ∪ spansOf (range :: ranges) =
      (asked ∪ (range.blocks.map spanOf).toFinset) ∪ spansOf ranges := by
  rw [spansOf, List.flatMap_cons, List.toFinset_append, Finset.union_assoc, spansOf]

/-- A first pass that succeeds has checked the ranges and numbered their spans. -/
theorem checkRanges_covers {ranges : List BridgeRange} (h : pass.pages.Covers asked)
    (hroom : asked.card < 9) (hok : ranges.foldlM checkRange pass = .ok after) :
    (∀ range ∈ ranges, RangeValid range) ∧
      (∀ previous ∈ pass.previousEnd, ∀ range ∈ ranges, previous.toNat ≤ range.base.toNat) ∧
      InOrder ranges ∧ after.pages.Covers (asked ∪ spansOf ranges) ∧
      (asked ∪ spansOf ranges).card < 9 := by
  induction ranges generalizing asked pass with
  | nil =>
      simp only [List.foldlM_nil, pure_eq_ok] at hok
      rw [← hok]
      simpa [spansOf, InOrder] using ⟨h, hroom⟩
  | cons range ranges ih =>
      rw [List.foldlM_cons, bind_eq_ok] at hok
      obtain ⟨next, hnext, hrest⟩ := hok
      obtain ⟨hvalid, hprev, hend, hpages⟩ := checkRange_eq_ok.mp hnext
      obtain ⟨hcovers, hcard⟩ := (h.asks _ hroom).1 _ hpages
      obtain ⟨hall, hafter, horder, hcovered, hfew⟩ := ih hcovers hcard hrest
      have hlater : ∀ later ∈ ranges,
          range.base.toNat + range.length.toNat ≤ later.base.toNat := by
        intro later hmem
        rw [← toNat_finish hvalid]
        exact hafter _ (by rw [hend]; rfl) later hmem
      rw [spansOf_cons]
      refine ⟨List.forall_mem_cons.mpr ⟨hvalid, hall⟩, ?_, List.pairwise_cons.mpr ⟨hlater, horder⟩,
        hcovered, hfew⟩
      intro previous hsome
      refine List.forall_mem_cons.mpr ⟨hprev previous hsome, ?_⟩
      intro later hmem
      have hfirst := hprev previous hsome
      have hbehind := hlater later hmem
      omega

/-- Ranges in order with few spans pass. -/
theorem checkRanges_ok {ranges : List BridgeRange} (h : pass.pages.Covers asked)
    (hroom : asked.card < 9) (hall : ∀ range ∈ ranges, RangeValid range)
    (hprev : ∀ previous ∈ pass.previousEnd, ∀ range ∈ ranges,
      previous.toNat ≤ range.base.toNat)
    (horder : InOrder ranges) (hfew : (asked ∪ spansOf ranges).card < 9) :
    ∃ after, ranges.foldlM checkRange pass = .ok after := by
  induction ranges generalizing asked pass with
  | nil => exact ⟨pass, rfl⟩
  | cons range ranges ih =>
      obtain ⟨hvalid, hrest⟩ := List.forall_mem_cons.mp hall
      obtain ⟨hlater, hord⟩ := List.pairwise_cons.mp horder
      rw [spansOf_cons] at hfew
      have hcard : (asked ∪ (range.blocks.map spanOf).toFinset).card < 9 :=
        Nat.lt_of_le_of_lt (Finset.card_le_card Finset.subset_union_left) hfew
      obtain ⟨pages, hpages⟩ := (h.asks (range.blocks.map spanOf) hroom).2 hcard
      have hnext : checkRange pass range = .ok ⟨pages, some (range.base + range.length)⟩ := by
        refine checkRange_eq_ok.mpr ⟨hvalid, ?_, rfl, hpages⟩
        intro previous hsome
        exact hprev previous hsome range (by simp)
      have hcovers := ((h.asks (range.blocks.map spanOf) hroom).1 pages hpages).1
      rw [List.foldlM_cons, hnext]
      refine ih hcovers hcard hrest ?_ hord hfew
      intro previous hsome later hmem
      cases hsome
      rw [toNat_finish hvalid]
      exact hlater later hmem

end FirstPass

/-! ### Descriptors of blocks -/

/-- The bits of a block besides its address. -/
def BridgeMemoryKind.bits : BridgeMemoryKind → UInt64
  | .normal => descAf ||| descValid ||| descInnerShareable
  | .device => descAf ||| descValid ||| (4 ||| descPxn ||| descUxn)

/-- The field of the attribute lies in the five lowest bits. -/
theorem attributeField_of_and {entry other : UInt64} (h : entry &&& 31 = other &&& 31) :
    ((entry >>> (2 : UInt64)) &&& (7 : UInt64)) = (other >>> (2 : UInt64)) &&& (7 : UInt64) := by
  have hmask : (31 : UInt64).toNat = 2 ^ 5 - 1 := rfl
  have hbits : (7 : UInt64).toNat = 2 ^ 3 - 1 := rfl
  have hshift : (2 : UInt64).toNat % 64 = 2 := rfl
  have hsame := congrArg UInt64.toNat h
  rw [UInt64.toNat_and, UInt64.toNat_and, hmask, Nat.and_two_pow_sub_one_eq_mod,
    Nat.and_two_pow_sub_one_eq_mod] at hsame
  refine UInt64.toNat_inj.mp ?_
  rw [UInt64.toNat_and, UInt64.toNat_and, hbits, Nat.and_two_pow_sub_one_eq_mod,
    Nat.and_two_pow_sub_one_eq_mod, UInt64.toNat_shiftRight, UInt64.toNat_shiftRight, hshift,
    Nat.shiftRight_eq_div_pow, Nat.shiftRight_eq_div_pow]
  omega

section Descriptor

variable (address : UInt64) (kind : BridgeMemoryKind)

theorem bridgeBlockDescriptor_eq :
    bridgeBlockDescriptor address kind = (address &&& addrMask) ||| kind.bits := by
  cases kind with
  | normal | device =>
      simp only [bridgeBlockDescriptor, BridgeMemoryKind.bits, UInt64.or_assoc]

/-- What a mask outside the address selects. -/
theorem bridgeBlockDescriptor_and {mask : UInt64} (hmask : addrMask &&& mask = 0) :
    bridgeBlockDescriptor address kind &&& mask = kind.bits &&& mask := by
  rw [bridgeBlockDescriptor_eq, Mask.or_and_other hmask]

theorem bridgeBlockDescriptor_valid :
    format.valid 1 (bridgeBlockDescriptor address kind) = true := by
  have hvalid : (bridgeBlockDescriptor address kind &&& descValid != 0) = true := by
    rw [bridgeBlockDescriptor_and _ _ (by decide)]
    cases kind <;> decide
  simp only [format, hvalid]
  rfl

theorem bridgeBlockDescriptor_ne_zero : bridgeBlockDescriptor address kind ≠ 0 := by
  intro hzero
  have hvalid := bridgeBlockDescriptor_valid address kind
  rw [hzero, zero_invalid] at hvalid
  cases hvalid

theorem bridgeBlockDescriptor_leaf :
    format.leaf 1 (bridgeBlockDescriptor address kind) = true := by
  show (bridgeBlockDescriptor address kind &&& descTable == 0) = true
  rw [bridgeBlockDescriptor_and _ _ (by decide)]
  cases kind <;> decide

theorem bridgeBlockDescriptor_writable :
    format.writable (bridgeBlockDescriptor address kind) = true := by
  show (bridgeBlockDescriptor address kind &&& 0x80 == 0) = true
  rw [bridgeBlockDescriptor_and _ _ (by decide)]
  cases kind <;> decide

/-- A block is executable if it is not of a device. -/
theorem bridgeBlockDescriptor_executable :
    format.executable (bridgeBlockDescriptor address kind) = (kind == .normal) := by
  show (bridgeBlockDescriptor address kind &&& 0x20000000000000 == 0) = (kind == .normal)
  rw [bridgeBlockDescriptor_and _ _ (by decide)]
  cases kind <;> decide

/-- And if it is, then on no level. -/
theorem bridgeBlockDescriptor_never :
    bridgeBlockDescriptor address .device &&& (descPxn ||| descUxn) = descPxn ||| descUxn := by
  rw [bridgeBlockDescriptor_and _ _ (by decide)]
  decide

theorem bridgeBlockDescriptor_target :
    format.target (bridgeBlockDescriptor address kind) = address.toNat % 2 ^ 48 / 4096 * 4096 := by
  show (bridgeBlockDescriptor address kind &&& addrMask).toNat = _
  rw [bridgeBlockDescriptor_eq, Mask.or_and_field (by cases kind <;> decide), toNat_and_addrMask]

/-- The attribute of a block is that of its kind. -/
theorem memoryAttribute_bridgeBlockDescriptor :
    memoryAttribute mairEl1Bridge (bridgeBlockDescriptor address kind) = kind.mairByte := by
  have hlow : addrMask &&& 31 = 0 := by decide
  have hfield := attributeField_of_and (bridgeBlockDescriptor_and address kind hlow)
  simp only [memoryAttribute, hfield]
  cases kind <;> decide

/-- Blocks of one address and two kinds differ. -/
theorem kind_of_bridgeBlockDescriptor {other : BridgeMemoryKind}
    (h : bridgeBlockDescriptor address kind = bridgeBlockDescriptor address other) :
    kind = other := by
  have hkind := memoryAttribute_bridgeBlockDescriptor address kind
  rw [h, memoryAttribute_bridgeBlockDescriptor] at hkind
  cases kind <;> cases other <;> first | rfl | cases hkind

end Descriptor

/-! ### The second pass -/

/-- All claims of the ranges, in their order. -/
def claimsOf (pages : Numbering Nat) (ranges : List BridgeRange) : List (Nat × UInt64) :=
  ranges.flatMap fun range => range.blocks.map (blockClaim pages range.kind)

theorem mapRanges_eq (pages : Numbering Nat) (ranges : List BridgeRange) (tables : Tables) :
    ranges.foldlM (mapRange pages) tables = (claimsOf pages ranges).foldlM claim tables := by
  induction ranges generalizing tables with
  | nil => rfl
  | cons range ranges ih =>
      rw [claimsOf, List.flatMap_cons, List.foldlM_append, List.foldlM_cons, mapRange]
      exact bind_congr ih

/-- The entry of a block. -/
def slotOf (pages : Numbering Nat) (block : Nat) : Nat :=
  pages.number (block / 512) * 512 + block % 512

section SecondPass

variable {ranges : List BridgeRange} {pages : Numbering Nat}
  (hall : ∀ range ∈ ranges, RangeValid range)

include hall

/-- What is made of the blocks of the ranges. -/
theorem mem_flatMap_blocks {A : Type} {f : BridgeRange → UInt64 → A} {a : A} :
    (a ∈ ranges.flatMap fun range => range.blocks.map (f range)) ↔
      ∃ range ∈ ranges, ∃ block, Meets range block ∧ a = f range (blockAddress block) := by
  simp only [List.mem_flatMap, List.mem_map]
  refine exists_congr fun range => and_congr_right fun hrange => ?_
  simp only [mem_blocks (hall range hrange)]
  constructor
  · rintro ⟨address, ⟨block, hmeets, rfl⟩, rfl⟩
    exact ⟨block, hmeets, rfl⟩
  · rintro ⟨block, hmeets, rfl⟩
    exact ⟨_, ⟨block, hmeets, rfl⟩, rfl⟩

theorem mem_spansOf {span : Nat} :
    span ∈ spansOf ranges ↔ ∃ range ∈ ranges, ∃ block, Meets range block ∧ block / 512 = span := by
  rw [spansOf, List.mem_toFinset, mem_flatMap_blocks hall]
  refine exists_congr fun range => and_congr_right fun hrange => exists_congr fun block =>
    and_congr_right fun hmeets => ?_
  rw [spanOf_blockAddress (hmeets.lt (hall range hrange)), eq_comm]

/-- Each claim is that of a block of a range. -/
theorem mem_claimsOf {c : Nat × UInt64} :
    c ∈ claimsOf pages ranges ↔ ∃ range ∈ ranges, ∃ block, Meets range block ∧
      c = (slotOf pages block, bridgeBlockDescriptor (blockAddress block) range.kind) := by
  rw [claimsOf, mem_flatMap_blocks hall]
  refine exists_congr fun range => and_congr_right fun hrange => exists_congr fun block =>
    and_congr_right fun hmeets => ?_
  have hlt := hmeets.lt (hall range hrange)
  rw [blockClaim, spanOf_blockAddress hlt, indexBits_blockAddress hlt, slotOf]

theorem claimsOf_ne_zero : ∀ c ∈ claimsOf pages ranges, c.2 ≠ 0 := by
  intro c hc
  obtain ⟨range, -, block, -, rfl⟩ := (mem_claimsOf hall).mp hc
  exact bridgeBlockDescriptor_ne_zero _ _

/-- A block that is met has a table. -/
theorem number_of_meets (hpages : pages.Covers (spansOf ranges)) {range : BridgeRange}
    (hrange : range ∈ ranges) {block : Nat} (hmeets : Meets range block) :
    block / 512 ∈ spansOf ranges ∧ 0 < pages.number (block / 512) := by
  have hspan := (mem_spansOf hall).mpr ⟨range, hrange, block, hmeets, rfl⟩
  exact ⟨hspan, Nat.pos_of_ne_zero ((hpages.given _).mpr hspan)⟩

omit hall in
/-- Blocks that are met have entries of their own. -/
theorem slotOf_injective (hpages : pages.Covers (spansOf ranges)) {left right : Nat}
    (hleft : left / 512 ∈ spansOf ranges) (hright : right / 512 ∈ spansOf ranges)
    (h : slotOf pages left = slotOf pages right) : left = right := by
  unfold slotOf at h
  have hnum : pages.number (left / 512) = pages.number (right / 512) := by omega
  have hspan := hpages.injective _ hleft _ hright hnum
  omega

/-- **The second pass succeeds if no block is met by two kinds of memory.** -/
theorem mapRanges_iff (hpages : pages.Covers (spansOf ranges)) {base : Tables}
    (hfree : ∀ i, 512 ≤ i → i < 512 * pages.next → base i = 0) :
    (∃ tables, ranges.foldlM (mapRange pages) base = some tables) ↔
      ∀ range ∈ ranges, ∀ other ∈ ranges, ∀ block, Meets range block → Meets other block →
        range.kind = other.kind := by
  simp only [mapRanges_eq]
  rw [foldlM_claim_iff (claimsOf_ne_zero hall), and_iff_right]
  · constructor
    · intro hagree range hrange other hother block hmeets hmeets'
      have hdesc := hagree _ ((mem_claimsOf hall).mpr ⟨range, hrange, block, hmeets, rfl⟩) _
        ((mem_claimsOf hall).mpr ⟨other, hother, block, hmeets', rfl⟩) rfl
      exact kind_of_bridgeBlockDescriptor _ _ hdesc
    · intro hkinds c hc d hd hsame
      obtain ⟨range, hrange, block, hmeets, rfl⟩ := (mem_claimsOf hall).mp hc
      obtain ⟨other, hother, block', hmeets', rfl⟩ := (mem_claimsOf hall).mp hd
      have hblock := slotOf_injective hpages (number_of_meets hall hpages hrange hmeets).1
        (number_of_meets hall hpages hother hmeets').1 hsame
      subst hblock
      rw [hkinds range hrange other hother block hmeets hmeets']
  · intro c hc
    obtain ⟨range, hrange, block, hmeets, rfl⟩ := (mem_claimsOf hall).mp hc
    have hpos := (number_of_meets hall hpages hrange hmeets).2
    have hlt := hpages.lt (block / 512)
    refine Or.inl (hfree _ ?_ ?_)
    · show 512 ≤ pages.number (block / 512) * 512 + block % 512
      omega
    · show pages.number (block / 512) * 512 + block % 512 < 512 * pages.next
      omega

/-- What the second pass has written. -/
theorem mapRanges_spec {base tables : Tables}
    (h : ranges.foldlM (mapRange pages) base = some tables) :
    (∀ range ∈ ranges, ∀ block, Meets range block →
      tables (slotOf pages block) = bridgeBlockDescriptor (blockAddress block) range.kind) ∧
    ∀ i, (∀ range ∈ ranges, ∀ block, Meets range block → slotOf pages block ≠ i) →
      tables i = base i := by
  rw [mapRanges_eq] at h
  obtain ⟨hthere, -, hother⟩ := foldlM_claim (claimsOf_ne_zero hall) h
  constructor
  · intro range hrange block hmeets
    exact hthere _ ((mem_claimsOf hall).mpr ⟨range, hrange, block, hmeets, rfl⟩)
  · intro i hfree
    refine hother i ?_
    intro c hc
    obtain ⟨range, hrange, block, hmeets, rfl⟩ := (mem_claimsOf hall).mp hc
    exact hfree range hrange block hmeets

end SecondPass

/-! ### The tables -/

theorem linkTables_apply (pages : Numbering Nat) (root : UInt64) (tables : Tables) (n i : Nat) :
    linkTables pages root tables n i =
      if i < n ∧ pages.number i ≠ 0 then
        bridgeTableDescriptor (root + UInt64.ofNat (pages.number i) * pageSize)
      else tables i := by
  induction n with
  | zero => simp [linkTables]
  | succ n ih =>
      rw [linkTables]
      split
      · next hzero =>
        rw [ih]
        by_cases hlast : i = n
        · rw [if_neg (by omega), if_neg (by rw [hlast]; simp [hzero])]
        · exact if_congr (by omega) rfl rfl
      · next hzero =>
        rw [Function.update_apply]
        by_cases hlast : i = n
        · rw [if_pos hlast, if_pos ⟨by omega, by rw [hlast]; exact hzero⟩, hlast]
        · rw [if_neg hlast, ih]
          exact if_congr (by omega) rfl rfl

/-- The tables when the second pass begins. -/
def linkedTables (pages : Numbering Nat) (root : UInt64) (buffer : Tables) : Tables :=
  linkTables pages root (fill buffer 0 (fun _ => 0) (bridgeTableBytes / 8).toNat) 512

variable {pages : Numbering Nat}

theorem linkedTables_of_le {root : UInt64} {buffer : Tables} {i : Nat} (h : 512 ≤ i) :
    linkedTables pages root buffer i = if i < 4608 then 0 else buffer i := by
  have hcount : (bridgeTableBytes / 8).toNat = 4608 := by decide
  rw [linkedTables, linkTables_apply, if_neg (by omega), fill_apply, hcount]
  exact if_congr (by omega) rfl rfl

/-- The tables of the numbered spans are free. -/
theorem linkedTables_free {ranges : List BridgeRange} {root : UInt64} {buffer : Tables}
    (hpages : pages.Covers (spansOf ranges)) (hfew : (spansOf ranges).card < 9) (i : Nat)
    (h : 512 ≤ i) (hlt : i < 512 * pages.next) : linkedTables pages root buffer i = 0 := by
  have hnext := hpages.next
  rw [linkedTables_of_le h, if_pos (by omega)]

theorem linkedTables_of_lt {root : UInt64} {buffer : Tables} {i : Nat} (h : i < 512) :
    linkedTables pages root buffer i =
      if pages.number i ≠ 0 then
        bridgeTableDescriptor (root + UInt64.ofNat (pages.number i) * pageSize)
      else 0 := by
  have hcount : (bridgeTableBytes / 8).toNat = 4608 := by decide
  rw [linkedTables, linkTables_apply, fill_apply, hcount, if_pos (show 0 ≤ i ∧ i < 0 + 4608 by omega)]
  exact if_congr (by simp [h]) rfl rfl

/-- A bridge as it stands in memory. -/
structure Built (ranges : List BridgeRange) (pages : Numbering Nat) (root : UInt64)
    (buffer tables : Tables) : Prop where
  all : ∀ range ∈ ranges, RangeValid range
  covers : pages.Covers (spansOf ranges)
  few : (spansOf ranges).card < 9
  mapped : ranges.foldlM (mapRange pages) (linkedTables pages root buffer) = some tables

section Built

variable {ranges : List BridgeRange} {pages : Numbering Nat} {root : UInt64}
  {buffer tables : Tables} (built : Built ranges pages root buffer tables)

include built

theorem Built.number_lt (span : Nat) : pages.number span < 9 := by
  have hlt := built.covers.lt span
  have hnext := built.covers.next
  have hfew := built.few
  omega

/-- Every entry that is claimed lies behind the root and inside the buffer. -/
theorem Built.slot_bounds {range : BridgeRange} (hrange : range ∈ ranges) {block : Nat}
    (hmeets : Meets range block) : 512 ≤ slotOf pages block ∧ slotOf pages block < 4608 := by
  have hpos := (number_of_meets built.all built.covers hrange hmeets).2
  have hlt := built.number_lt (block / 512)
  unfold slotOf
  omega

/-- The root has a table for each span that is met. -/
theorem Built.root_entry {span : Nat} (h : span < 512) :
    tables span = if pages.number span ≠ 0 then
      bridgeTableDescriptor (root + UInt64.ofNat (pages.number span) * pageSize) else 0 := by
  rw [← @linkedTables_of_lt pages root buffer span h]
  refine (mapRanges_spec built.all built.mapped).2 span ?_
  intro range hrange block hmeets hsame
  have hbnds := (built.slot_bounds hrange hmeets).1
  omega

theorem Built.block_entry {range : BridgeRange} (hrange : range ∈ ranges) {block : Nat}
    (hmeets : Meets range block) :
    tables (slotOf pages block) = bridgeBlockDescriptor (blockAddress block) range.kind :=
  (mapRanges_spec built.all built.mapped).1 range hrange block hmeets

/-- A block that no range meets has no entry, though its span may have a table. -/
theorem Built.free_entry {block : Nat} (hspan : block / 512 ∈ spansOf ranges)
    (hfree : ∀ range ∈ ranges, ¬ Meets range block) : tables (slotOf pages block) = 0 := by
  have hbnds : 512 ≤ slotOf pages block ∧ slotOf pages block < 4608 := by
    have hpos := Nat.pos_of_ne_zero ((built.covers.given _).mpr hspan)
    have hlt := built.number_lt (block / 512)
    unfold slotOf
    omega
  rw [(mapRanges_spec built.all built.mapped).2, linkedTables_of_le hbnds.1, if_pos hbnds.2]
  intro range hrange other hmeets hsame
  have hblock := slotOf_injective built.covers
    (number_of_meets built.all built.covers hrange hmeets).1 hspan hsame
  subst hblock
  exact hfree range hrange hmeets

/-- Nothing behind the nine tables is written. -/
theorem Built.outside {i : Nat} (h : 4608 ≤ i) : tables i = buffer i := by
  rw [(mapRanges_spec built.all built.mapped).2, linkedTables_of_le (by omega),
    if_neg (by omega)]
  intro range hrange block hmeets hsame
  have hbnds := (built.slot_bounds hrange hmeets).2
  omega

end Built

/-! ### The walk -/

section Walk

variable {ranges : List BridgeRange} {pages : Numbering Nat} {root : UInt64}
  {buffer tables : Tables} {memory : Nat → UInt64} {address : Nat}
  (built : Built ranges pages root buffer tables) (halign : root.toNat % 4096 = 0)
  (hbelow : root.toNat + 9 * 4096 ≤ 2 ^ 48) (hmemory : Holds memory root.toNat tables 4608)
  (haddr : address < 2 ^ 39)

include built halign hbelow

/-- The table of a span lies in the buffer. -/
theorem Built.table_target (span : Nat) :
    format.target (bridgeTableDescriptor (root + UInt64.ofNat (pages.number span) * pageSize)) =
      root.toNat + 4096 * pages.number span := by
  have hlt := built.number_lt span
  have hpage : pageSize.toNat = 4096 := rfl
  have htable : (root + UInt64.ofNat (pages.number span) * pageSize).toNat =
      root.toNat + 4096 * pages.number span := by
    rw [UInt64.toNat_add, UInt64.toNat_mul, UInt64.toNat_ofNat', hpage]
    omega
  have htgt := tableDescriptor_target (root + UInt64.ofNat (pages.number span) * pageSize)
  rw [htable] at htgt
  refine Eq.trans htgt ?_
  omega

include hmemory haddr

/-- The walk goes through the table of the span. -/
theorem Built.walk_span (hspan : address / 0x40000000 ∈ spansOf ranges) :
    walk format memory 2 root.toNat address =
        walk format memory 1 (root.toNat + 4096 * pages.number (address / 0x40000000)) address ∧
      leafOf format memory 2 root.toNat address =
        leafOf format memory 1 (root.toNat + 4096 * pages.number (address / 0x40000000)) address ∧
      memory (root.toNat + 4096 * pages.number (address / 0x40000000) + 8 * index 1 address) =
        tables (slotOf pages (address / 0x200000)) := by
  have hindex : index 2 address = address / 0x40000000 := by
    unfold index span
    omega
  have hindex1 : index 1 address = address / 0x200000 % 512 := rfl
  have hdiv : address / 0x200000 / 512 = address / 0x40000000 := by omega
  have hnum := built.number_lt (address / 0x40000000)
  have hnz := (built.covers.given _).mpr hspan
  have hentry : memory (root.toNat + 8 * index 2 address) =
      bridgeTableDescriptor (root + UInt64.ofNat (pages.number (address / 0x40000000)) *
        pageSize) := by
    rw [hindex, hmemory _ (by omega), built.root_entry (by omega), if_pos hnz]
  refine ⟨?_, ?_, ?_⟩
  · rw [walk_table_open hentry (tableDescriptor_valid _ _) (tableDescriptor_leaf _ _)
      (tableDescriptor_writable _) (tableDescriptor_executable _),
      built.table_target halign hbelow]
  · rw [leafOf_table hentry (tableDescriptor_valid _ _) (tableDescriptor_leaf _ _),
      built.table_target halign hbelow]
  · rw [hmemory.entry (by rw [hindex1]; omega), slotOf, hindex1, hdiv, Nat.mul_comm 512]

/-- A block that a range meets is mapped to itself. -/
theorem Built.walk_meets {range : BridgeRange} (hrange : range ∈ ranges)
    (hmeets : Meets range (address / 0x200000)) :
    walk format memory 2 root.toNat address = some ⟨address, true, range.kind == .normal⟩ ∧
      leafOf format memory 2 root.toNat address =
        some (bridgeBlockDescriptor (blockAddress (address / 0x200000)) range.kind) := by
  have hdiv : address / 0x200000 / 512 = address / 0x40000000 := by omega
  have hspan := (number_of_meets built.all built.covers hrange hmeets).1
  rw [hdiv] at hspan
  obtain ⟨hwalk, hleaf, hentry⟩ := built.walk_span halign hbelow hmemory haddr hspan
  rw [built.block_entry hrange hmeets] at hentry
  have htgt : format.target (bridgeBlockDescriptor (blockAddress (address / 0x200000))
      range.kind) + address % span 1 = address := by
    rw [bridgeBlockDescriptor_target, toNat_blockAddress (by omega)]
    unfold span
    omega
  constructor
  · rw [hwalk, walk_block hentry (bridgeBlockDescriptor_valid _ _)
      (bridgeBlockDescriptor_leaf _ _), htgt, bridgeBlockDescriptor_writable,
      bridgeBlockDescriptor_executable]
  · rw [hleaf, leafOf_block hentry (bridgeBlockDescriptor_valid _ _)
      (bridgeBlockDescriptor_leaf _ _)]

/-- Everything else is not mapped. -/
theorem Built.walk_free (hfree : ∀ range ∈ ranges, ¬ Meets range (address / 0x200000)) :
    walk format memory 2 root.toNat address = none := by
  by_cases hspan : address / 0x40000000 ∈ spansOf ranges
  · obtain ⟨hwalk, -, hentry⟩ := built.walk_span halign hbelow hmemory haddr hspan
    have hdiv : address / 0x200000 / 512 = address / 0x40000000 := by omega
    rw [built.free_entry (by rw [hdiv]; exact hspan) hfree] at hentry
    rw [hwalk, walk_invalid hentry (zero_invalid _)]
  · have hindex : index 2 address = address / 0x40000000 := by
      unfold index span
      omega
    have hzero : pages.number (address / 0x40000000) = 0 := by
      by_contra hne
      exact hspan ((built.covers.given _).mp hne)
    have hentry : memory (root.toNat + 8 * index 2 address) = 0 := by
      rw [hindex, hmemory _ (by omega), built.root_entry (by omega), if_neg (by simp [hzero])]
    exact walk_invalid hentry (zero_invalid _)

end Walk

/-! ### The bridge -/

/-- Ranges that can be bridged. -/
structure Registered (ranges : List BridgeRange) : Prop where
  all : ∀ range ∈ ranges, RangeValid range
  order : InOrder ranges
  kinds : ∀ range ∈ ranges, ∀ other ∈ ranges, ∀ block, Meets range block → Meets other block →
    range.kind = other.kind
  spans : ∃ spans : List Nat, spans.length ≤ 8 ∧
    ∀ range ∈ ranges, ∀ block, Meets range block → block / 512 ∈ spans

/-- What a bridge over ranges is for the processor. -/
structure Bridges (ranges : List BridgeRange) (root : UInt64) (transition : PostExitTransition)
    (buffer tables : Tables) : Prop where
  installed : transition.translationRoot = root
  bits : 64 - transition.tcrEl1.toNat % 64 = 39
  mapped : ∀ memory, Holds memory root.toNat tables 4608 → ∀ range ∈ ranges, ∀ address,
    Meets range (address / 0x200000) →
      bridgeWalk transition memory address = some ⟨address, true, range.kind == .normal⟩ ∧
        ∃ entry, leafOf format memory 2 root.toNat address = some entry ∧
          memoryAttribute transition.mairEl1 entry = range.kind.mairByte ∧
          (range.kind = .device → entry &&& (descPxn ||| descUxn) = descPxn ||| descUxn)
  unmapped : ∀ memory, Holds memory root.toNat tables 4608 → ∀ address,
    (∀ range ∈ ranges, ¬ Meets range (address / 0x200000)) →
      bridgeWalk transition memory address = none
  outside : ∀ i, 4608 ≤ i → tables i = buffer i

theorem tcr_bits (encoding : UInt64) :
    64 - (bridgeTcr ||| (encoding <<< 32)).toNat % 64 = 39 := by
  have hbase : bridgeTcr.toNat % 2 ^ 6 = 25 := by decide
  have hhigh : (encoding <<< 32).toNat % 2 ^ 6 = 0 := by
    rw [UInt64.toNat_shiftLeft]
    have hshift : (32 : UInt64).toNat % 64 = 32 := rfl
    rw [hshift, Nat.shiftLeft_eq]
    omega
  have hmod : (bridgeTcr ||| (encoding <<< 32)).toNat % 2 ^ 6 = 25 := by
    rw [UInt64.toNat_or, Nat.or_mod_two_pow, hbase, hhigh]
    rfl
  omega

/-- Few spans are few numbers. -/
theorem spans_iff {ranges : List BridgeRange} (hall : ∀ range ∈ ranges, RangeValid range) :
    (spansOf ranges).card < 9 ↔ ∃ spans : List Nat, spans.length ≤ 8 ∧
      ∀ range ∈ ranges, ∀ block, Meets range block → block / 512 ∈ spans := by
  constructor
  · intro hcard
    refine ⟨(spansOf ranges).toList, by rw [Finset.length_toList]; omega, ?_⟩
    intro range hrange block hmeets
    rw [Finset.mem_toList]
    exact (mem_spansOf hall).mpr ⟨range, hrange, block, hmeets, rfl⟩
  · rintro ⟨spans, hlen, hspans⟩
    have hsubset : spansOf ranges ⊆ spans.toFinset := by
      intro span hspan
      obtain ⟨range, hrange, block, hmeets, rfl⟩ := (mem_spansOf hall).mp hspan
      exact List.mem_toFinset.mpr (hspans range hrange block hmeets)
    have hcard := Finset.card_le_card hsubset
    have hsize := List.toFinset_card_le spans
    omega

section Prepare

variable {request : BridgeRequest} {entry : EntryState} {stackTop continuation context : UInt64}
  {buffer : Tables}

/-- What a bridge is made of. -/
theorem preparePostExitBridge_eq_ok
    (hvalid : bridgeArgumentsAreValid request entry stackTop continuation context = true)
    {transition : PostExitTransition} {tables : Tables} :
    preparePostExitBridge request entry stackTop continuation context buffer =
        .ok (transition, tables) ↔
      ∃ pass, request.ranges.foldlM checkRange ⟨Numbering.start, none⟩ = .ok pass ∧
        request.ranges.foldlM (mapRange pass.pages)
          (linkedTables pass.pages request.tableBuffer buffer) = some tables ∧
        transition = {
          translationRoot := request.tableBuffer
          tcrEl1 := bridgeTcr ||| (entryPaRangeEncoding entry <<< 32)
          mairEl1 := mairEl1Bridge
          sctlrEl1 := sctlrEl1Bridge
          stackTop := stackTop
          continuation := continuation
          context := context
          sourceEl := entry.currentEl
          mappedL1Tables := UInt32.ofNat (pass.pages.next - 1) } := by
  simp only [preparePostExitBridge, bind_eq_ok, refuse_eq_ok, demand_eq_ok, pure_eq_ok,
    exists_const, hvalid, Bool.not_true, true_and, Prod.mk.injEq]
  constructor
  · rintro ⟨pass, hpass, after, hafter, rfl, rfl⟩
    exact ⟨pass, hpass, hafter, rfl⟩
  · rintro ⟨pass, hpass, hafter, rfl⟩
    exact ⟨pass, hpass, tables, hafter, rfl, rfl⟩

/-- **The bridge maps exactly the blocks of the registered ranges.** -/
theorem preparePostExitBridge_exact
    (hvalid : bridgeArgumentsAreValid request entry stackTop continuation context = true)
    (hbelow : request.tableBuffer.toNat + 9 * 4096 ≤ 2 ^ 48) :
    ((∃ result, preparePostExitBridge request entry stackTop continuation context buffer =
        .ok result) ↔ Registered request.ranges) ∧
      ∀ transition tables,
        preparePostExitBridge request entry stackTop continuation context buffer =
          .ok (transition, tables) →
        Bridges request.ranges request.tableBuffer transition buffer tables := by
  have hstart : (Numbering.start : Numbering Nat).Covers ∅ := Numbering.covers_start
  have halign : request.tableBuffer.toNat % 4096 = 0 := by
    simp only [bridgeArgumentsAreValid, Bool.and_eq_true, beq_iff_eq] at hvalid
    exact and_4095_eq_zero.mp hvalid.1.1.1.1.1.2
  refine ⟨?_, ?_⟩
  · constructor
    · rintro ⟨⟨transition, tables⟩, hok⟩
      obtain ⟨pass, hpass, hmapped, -⟩ := (preparePostExitBridge_eq_ok hvalid).mp hok
      obtain ⟨hall, -, horder, hcovers, hfew⟩ := checkRanges_covers hstart (by simp) hpass
      rw [Finset.empty_union] at hcovers hfew
      have hkinds := (mapRanges_iff hall hcovers ?_).mp ⟨tables, hmapped⟩
      · exact ⟨hall, horder, hkinds, (spans_iff hall).mp hfew⟩
      · exact linkedTables_free hcovers hfew
    · intro hregistered
      have hfew := (spans_iff hregistered.all).mpr hregistered.spans
      obtain ⟨pass, hpass⟩ := @checkRanges_ok ∅ ⟨Numbering.start, none⟩ request.ranges hstart
        (by simp) hregistered.all (by simp) hregistered.order
        (by rw [Finset.empty_union]; exact hfew)
      obtain ⟨-, -, -, hcovers, -⟩ := checkRanges_covers hstart (by simp) hpass
      rw [Finset.empty_union] at hcovers
      obtain ⟨tables, hmapped⟩ := (mapRanges_iff hregistered.all hcovers
        (linkedTables_free hcovers hfew)).mpr hregistered.kinds
      exact ⟨_, (preparePostExitBridge_eq_ok hvalid).mpr ⟨pass, hpass, hmapped, rfl⟩⟩
  · intro transition tables hok
    obtain ⟨pass, hpass, hmapped, rfl⟩ := (preparePostExitBridge_eq_ok hvalid).mp hok
    obtain ⟨hall, -, -, hcovers, hfew⟩ := checkRanges_covers hstart (by simp) hpass
    rw [Finset.empty_union] at hcovers hfew
    have built : Built request.ranges pass.pages request.tableBuffer buffer tables :=
      ⟨hall, hcovers, hfew, hmapped⟩
    have hbits := tcr_bits (entryPaRangeEncoding entry)
    refine ⟨rfl, hbits, ?_, ?_, ?_⟩
    · intro memory hmemory range hrange address hmeets
      have haddr : address < 2 ^ 39 := by
        have hblock := hmeets.lt (hall range hrange)
        omega
      obtain ⟨hwalk, hleaf⟩ := built.walk_meets halign hbelow hmemory haddr hrange hmeets
      refine ⟨?_, _, hleaf, memoryAttribute_bridgeBlockDescriptor _ _, ?_⟩
      · unfold bridgeWalk
        rw [hbits, if_pos haddr, hwalk]
      · intro hdev
        rw [hdev]
        exact bridgeBlockDescriptor_never _
    · intro memory hmemory address hfree
      unfold bridgeWalk
      rw [hbits]
      by_cases haddr : address < 2 ^ 39
      · rw [if_pos haddr]
        exact built.walk_free halign hbelow hmemory haddr hfree
      · rw [if_neg haddr]
    · intro i hi
      exact built.outside hi

end Prepare

namespace Bench

/-- Memory from 1 GiB on, and a device below it. -/
def bridge : BridgeRequest where
  size := bridgeRequestSizeOf
  abiVersion := entryStateAbiVersion
  ranges := [⟨0x9000000, 0x1000, .device⟩, ⟨0x40001000, 0x400000, .normal⟩]
  tableBuffer := 0x40200000
  tableBufferSize := bridgeTableBytes

def entryState : EntryState where
  size := entryStateSizeOf
  abiVersion := entryStateAbiVersion
  currentEl := 1
  tcr := 0

example : (preparePostExitBridge bridge entryState 0x40300000 1 1 (fun _ => 7)).toOption.map
    (·.1.mappedL1Tables) = some 2 := by decide +kernel

theorem bridge_exact :
    bridgeArgumentsAreValid bridge entryState 0x40300000 1 1 = true ∧
      ((∃ result, preparePostExitBridge bridge entryState 0x40300000 1 1 (fun _ => 7) =
          .ok result) ↔ Registered bridge.ranges) ∧
        ∀ transition tables,
          preparePostExitBridge bridge entryState 0x40300000 1 1 (fun _ => 7) =
            .ok (transition, tables) →
          Bridges bridge.ranges bridge.tableBuffer transition (fun _ => 7) tables :=
  ⟨by decide, preparePostExitBridge_exact (by decide) (by decide)⟩

end Bench

end Ribon.Aarch64
