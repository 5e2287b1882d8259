/-
Ranges of memory that a kernel must leave alone.

They are kept in the order of their first bytes.  A range that is added goes to its place, and
one pass then joins what overlaps or touches: the list changes, the bytes that it covers do
not, apart from those of the new range.
-/
import Ribon.Core.MemoryMap

namespace Ribon.Luca

open Intervals

/-- The bytes of any of these regions. -/
def covered (ranges : List MemoryRegion) : Set Nat :=
  {address | ∃ region ∈ ranges, address ∈ region.range}

@[simp] theorem covered_nil : covered [] = ∅ := by
  ext address
  simp [covered]

@[simp] theorem covered_cons (region : MemoryRegion) (ranges : List MemoryRegion) :
    covered (region :: ranges) = region.range ∪ covered ranges := by
  ext address
  simp [covered]

/-! ### Adding a range -/

def reservationCapacity : Nat := 64

/-- Put a region before the first one that does not begin before it. -/
def insertRange (region : MemoryRegion) : List MemoryRegion → List MemoryRegion
  | [] => [region]
  | first :: rest =>
      if first.base < region.base then first :: insertRange region rest
      else region :: first :: rest

/-- The pass that joins: a region that begins before the end of the one before it, or at that end,
is taken into it. -/
def mergeRanges : List MemoryRegion → List MemoryRegion
  | [] => []
  | [region] => [region]
  | previous :: current :: rest =>
      let previousEnd := previous.base + previous.length
      let currentEnd := current.base + current.length
      if previousEnd < current.base then previous :: mergeRanges (current :: rest)
      else if previousEnd < currentEnd then
        mergeRanges ({ previous with length := currentEnd - previous.base } :: rest)
      else mergeRanges (previous :: rest)
termination_by ranges => ranges.length

/-- The addition of both files of the protocol. -/
def addReservation (ranges : List MemoryRegion) (base length : UInt64) :
    Option (List MemoryRegion) :=
  if length == 0 || decide (u64Max - length < base) then none
  else if ranges.length == reservationCapacity then none
  else some (mergeRanges (insertRange ⟨base, length, .reserved, 0⟩ ranges))

/-! ### What is covered -/

/-- Regions in their order. -/
structure Ordered (ranges : List MemoryRegion) : Prop where
  sorted : ranges.Pairwise fun left right => left.base ≤ right.base
  each : ∀ region ∈ ranges, region.Extends

theorem ordered_nil : Ordered [] := ⟨.nil, by simp⟩

variable {ranges : List MemoryRegion}

variable {region : MemoryRegion}

theorem Ordered.tail (h : Ordered (region :: ranges)) : Ordered ranges :=
  ⟨(List.pairwise_cons.mp h.sorted).2, fun other hmem => h.each other (by simp [hmem])⟩

theorem Ordered.cons (h : Ordered ranges) (hreg : region.Extends)
    (hfirst : ∀ other ∈ ranges, region.base ≤ other.base) :
    Ordered (region :: ranges) :=
  ⟨List.pairwise_cons.mpr ⟨hfirst, h.sorted⟩, List.forall_mem_cons.mpr ⟨hreg, h.each⟩⟩

section Insert

variable {region : MemoryRegion} {ranges : List MemoryRegion}

theorem insertRange_eq : insertRange region ranges =
    ranges.takeWhile (fun other => decide (other.base < region.base)) ++
      region :: ranges.dropWhile fun other => decide (other.base < region.base) := by
  induction ranges with
  | nil => rfl
  | cons first rest ih =>
      rw [insertRange]
      split
      · next h =>
        rw [ih]
        simp [h]
      · next h =>
        simp [h]

theorem perm_insertRange : (insertRange region ranges).Perm (region :: ranges) := by
  rw [insertRange_eq]
  exact perm_insert _ region ranges

theorem covered_insertRange :
    covered (insertRange region ranges) = region.range ∪ covered ranges := by
  ext address
  simp only [covered, perm_insertRange.mem_iff, List.mem_cons, Set.mem_union, Set.mem_ofPred_eq,
    exists_eq_or_imp]

theorem ordered_insertRange (h : Ordered ranges) (hreg : region.Extends) :
    Ordered (insertRange region ranges) := by
  refine ⟨?_, fun other hmem => ?_⟩
  · rw [insertRange_eq]
    refine pairwise_insert (fun _ _ _ => UInt64.le_trans) ?_ ?_ h.sorted
    · intro other hbefore
      exact UInt64.le_of_lt (by simpa using hbefore)
    · intro other hbehind
      simpa using hbehind
  · rcases List.mem_cons.mp (perm_insertRange.mem_iff.mp hmem) with hnew | hold
    · rw [hnew]
      exact hreg
    · exact h.each other hold

end Insert

variable {previous current : MemoryRegion} (hprev : previous.Extends)
  (hcur : current.Extends) (horder : previous.base ≤ current.base)
include hprev hcur horder

/-- The region that two joined ones become. -/
theorem range_joined (htouch : ¬ previous.base + previous.length < current.base)
    (hlonger : previous.base + previous.length < current.base + current.length) :
    ({ previous with length := current.base + current.length - previous.base } :
        MemoryRegion).Extends ∧
      ({ previous with length := current.base + current.length - previous.base } :
        MemoryRegion).range = previous.range ∪ current.range := by
  rw [UInt64.lt_iff_toNat_lt, hprev.toNat_end] at htouch hlonger
  rw [hcur.toNat_end] at hlonger
  rw [UInt64.le_iff_toNat_le] at horder
  have hlen : (current.base + current.length - previous.base).toNat =
      current.base.toNat + current.length.toNat - previous.base.toNat := by
    rw [toNat_sub_of_le (by rw [hcur.toNat_end]; omega), hcur.toNat_end]
  have hfin := hcur.finish
  refine ⟨⟨?_, ?_⟩, ?_⟩
  · dsimp only
    omega
  · dsimp only
    omega
  · unfold MemoryRegion.range
    ext address
    simp only [Set.mem_Ico, Set.mem_union, hlen]
    omega

/-- A region that a longer one before it takes in whole. -/
theorem range_absorbed
    (hshorter : ¬ previous.base + previous.length < current.base + current.length) :
    previous.range ∪ current.range = previous.range := by
  rw [UInt64.lt_iff_toNat_lt, hprev.toNat_end, hcur.toNat_end] at hshorter
  rw [UInt64.le_iff_toNat_le] at horder
  unfold MemoryRegion.range
  ext address
  simp only [Set.mem_Ico, Set.mem_union]
  omega

omit hprev hcur horder

/-- Each region that the pass leaves begins as one of the list, and is of its class. -/
theorem mem_mergeRanges (h : region ∈ mergeRanges ranges) :
    ∃ other ∈ ranges, region.base = other.base ∧
      region.kind = other.kind ∧ region.attributes = other.attributes := by
  fun_induction mergeRanges ranges with
  | case1 => simp at h
  | case2 only =>
      rw [List.mem_singleton] at h
      exact ⟨only, by simp, by simp [h]⟩
  | case3 previous current rest previousEnd hgap ih =>
      rcases List.mem_cons.mp h with hhead | htail
      · exact ⟨previous, by simp, by simp [hhead]⟩
      · obtain ⟨other, hmem, hother⟩ := ih htail
        exact ⟨other, by simp [hmem], hother⟩
  | case4 previous current rest previousEnd currentEnd htouch hlonger ih
  | case5 previous current rest previousEnd currentEnd htouch hshorter ih =>
      obtain ⟨other, hmem, hother⟩ := ih h
      rcases List.mem_cons.mp hmem with hhead | htail
      · exact ⟨previous, by simp, by simpa [hhead] using hother⟩
      · exact ⟨other, by simp [htail], hother⟩

/-- There are bytes between a region and one behind it. -/
def Gap (left right : MemoryRegion) : Prop :=
  left.base.toNat + left.length.toNat < right.base.toNat

/-- The pass keeps the order and what is covered, and leaves a gap behind every region. -/
theorem mergeRanges_spec (h : Ordered ranges) :
    Ordered (mergeRanges ranges) ∧ covered (mergeRanges ranges) = covered ranges ∧
      (mergeRanges ranges).length ≤ ranges.length ∧ (mergeRanges ranges).Pairwise Gap := by
  fun_induction mergeRanges ranges with
  | case1 => exact ⟨h, rfl, le_rfl, .nil⟩
  | case2 => exact ⟨h, rfl, le_rfl, by simp⟩
  | case3 previous current rest previousEnd hgap ih =>
      obtain ⟨hord, hcovered, hlen, hgaps⟩ := ih h.tail
      have hprev := h.each previous (by simp)
      have hfirst := (List.pairwise_cons.mp h.sorted).1
      refine ⟨hord.cons hprev ?_, ?_, ?_, List.pairwise_cons.mpr ⟨?_, hgaps⟩⟩
      · intro other hmem
        obtain ⟨source, hsrc, hbase, -⟩ := mem_mergeRanges hmem
        rw [hbase]
        exact hfirst source hsrc
      · rw [covered_cons, covered_cons, hcovered]
      · simp only [List.length_cons] at hlen ⊢
        omega
      · intro other hmem
        obtain ⟨source, hsrc, hbase, -⟩ := mem_mergeRanges hmem
        have hnext : current.base ≤ source.base := by
          rcases List.mem_cons.mp hsrc with hhead | htail
          · rw [hhead]
            exact UInt64.le_refl _
          · exact (List.pairwise_cons.mp h.tail.sorted).1 source htail
        rw [UInt64.lt_iff_toNat_lt, hprev.toNat_end] at hgap
        rw [UInt64.le_iff_toNat_le] at hnext
        unfold Gap
        rw [hbase]
        omega
  | case4 previous current rest previousEnd currentEnd htouch hlonger ih =>
      have hfirst := (List.pairwise_cons.mp h.sorted).1
      obtain ⟨hext, hrange⟩ := range_joined (h.each previous (by simp))
        (h.each current (by simp)) (hfirst current (by simp)) htouch hlonger
      obtain ⟨hord, hcovered, hlen, hgaps⟩ :=
        ih (h.tail.tail.cons hext fun other hmem => hfirst other (by simp [hmem]))
      refine ⟨hord, ?_, Nat.le_succ_of_le hlen, hgaps⟩
      rw [hcovered, covered_cons, covered_cons, covered_cons, hrange, Set.union_assoc]
  | case5 previous current rest previousEnd currentEnd htouch hshorter ih =>
      have hfirst := (List.pairwise_cons.mp h.sorted).1
      have hrange := range_absorbed (h.each previous (by simp)) (h.each current (by simp))
        (hfirst current (by simp)) hshorter
      obtain ⟨hord, hcovered, hlen, hgaps⟩ := ih (h.tail.tail.cons (h.each previous (by simp))
        fun other hmem => hfirst other (by simp [hmem]))
      refine ⟨hord, ?_, Nat.le_succ_of_le hlen, hgaps⟩
      rw [hcovered, covered_cons, covered_cons, covered_cons, ← Set.union_assoc, hrange]

/-- The ranges of a list that was built by additions, and what it covers. -/
structure Reserves (ranges : List MemoryRegion) (bytes : Set Nat) : Prop where
  ordered : Ordered ranges
  covers : covered ranges = bytes
  room : ranges.length ≤ reservationCapacity

theorem reserves_nil : Reserves [] ∅ := ⟨ordered_nil, covered_nil, by decide⟩

variable {next : List MemoryRegion}

/-- An addition is refused for its range, or for want of room. -/
theorem addReservation_eq_some {base length : UInt64} :
    addReservation ranges base length = some next ↔
      (⟨base, length, .reserved, 0⟩ : MemoryRegion).Extends ∧
      ranges.length ≠ reservationCapacity ∧
      mergeRanges (insertRange ⟨base, length, .reserved, 0⟩ ranges) = next := by
  have hvalid : (length == 0 || decide (u64Max - length < base)) = false ↔
      (⟨base, length, .reserved, 0⟩ : MemoryRegion).Extends := by
    rw [Bool.or_eq_false_iff, beq_eq_false_iff_ne, decide_eq_false_iff_not, u64Max_sub_lt_iff,
      ne_zero_iff, Nat.not_le]
    exact ⟨fun h => ⟨h.1, h.2⟩, fun h => ⟨h.length, h.finish⟩⟩
  rw [addReservation, Option.ite_none_left_eq_some, Option.ite_none_left_eq_some,
    Bool.not_eq_true, hvalid, beq_iff_eq, Option.some.injEq]

/-- **One range more.** -/
theorem Reserves.add {bytes : Set Nat} (h : Reserves ranges bytes) {base length : UInt64}
    (hadd : addReservation ranges base length = some next) :
    base.toNat + length.toNat < 2 ^ 64 ∧
      Reserves next (Set.Ico base.toNat (base.toNat + length.toNat) ∪ bytes) := by
  obtain ⟨hext, hfull, rfl⟩ := addReservation_eq_some.mp hadd
  obtain ⟨hord, hcovered, hlen, -⟩ :=
    mergeRanges_spec (ordered_insertRange h.ordered hext)
  refine ⟨hext.finish, hord, ?_, ?_⟩
  · rw [hcovered, covered_insertRange, h.covers]
    rfl
  · have hroom := h.room
    rw [perm_insertRange.length_eq, List.length_cons] at hlen
    omega

/-- Additions one after another. -/
def addReservations (regions : List MemoryRegion) (ranges : List MemoryRegion) :
    Option (List MemoryRegion) :=
  regions.foldlM (fun ranges region => addReservation ranges region.base region.length) ranges

theorem Reserves.addAll {regions : List MemoryRegion} {bytes : Set Nat} (h : Reserves ranges bytes)
    (hadd : addReservations regions ranges = some next) :
    Reserves next (covered regions ∪ bytes) := by
  induction regions generalizing ranges bytes with
  | nil =>
      cases hadd
      rw [covered_nil, Set.empty_union]
      exact h
  | cons region regions ih =>
      unfold addReservations at hadd ih
      rw [List.foldlM_cons] at hadd
      obtain ⟨middle, hfirst, hrest⟩ := Option.bind_eq_some_iff.mp hadd
      obtain ⟨-, hmiddle⟩ := h.add hfirst
      have hall := ih hmiddle hrest
      have hset : covered regions ∪ (Set.Ico region.base.toNat
          (region.base.toNat + region.length.toNat) ∪ bytes) =
          covered (region :: regions) ∪ bytes := by
        rw [covered_cons, Set.union_left_comm, Set.union_assoc]
        rfl
      rwa [hset] at hall

/-! ### The normal form -/

/-- Reserved ranges with bytes between them, in their order. -/
structure Separated (ranges : List MemoryRegion) : Prop where
  ordered : Ordered ranges
  gaps : ranges.Pairwise Gap
  plain : ∀ region ∈ ranges, region.kind = .reserved ∧ region.attributes = 0

variable (h : Separated ranges)
include h

theorem Separated.canonical : Canonical (ranges.map MemoryRegion.piece) := by
  refine ⟨?_, List.pairwise_map.mpr (h.gaps.imp fun hgap => Or.inl hgap)⟩
  intro p hp
  obtain ⟨region, hmem, rfl⟩ := List.mem_map.mp hp
  exact Nat.lt_add_of_pos_right (h.ordered.each region hmem).length

theorem Separated.labels_iff {address : Nat} {label : MemoryRegionKind × UInt64} :
    Labels (ranges.map MemoryRegion.piece) address label ↔
      address ∈ covered ranges ∧ (.reserved, 0) = label := by
  simp only [Labels, List.mem_map, exists_exists_and_eq_and, covered, Set.mem_ofPred_eq]
  constructor
  · intro hlabels
    obtain ⟨region, hmem, hlo, hhi, hlabel⟩ := hlabels
    exact ⟨⟨region, hmem, hlo, hhi⟩, hlabel ▸ (Prod.ext (h.plain region hmem).1
      (h.plain region hmem).2).symm⟩
  · intro hcovered
    obtain ⟨⟨region, hmem, hlo, hhi⟩, hlabel⟩ := hcovered
    exact ⟨region, hmem, hlo, hhi, (Prod.ext (h.plain region hmem).1
      (h.plain region hmem).2).trans hlabel⟩

/-- **The list is known from the bytes.** -/
theorem Separated.eq_of_covered {ranges' : List MemoryRegion} (h' : Separated ranges')
    (hsame : covered ranges = covered ranges') : ranges = ranges' := by
  refine List.map_injective_iff.mpr MemoryRegion.piece_injective
    (h.canonical.unique h'.canonical fun address label => ?_)
  rw [h.labels_iff, h'.labels_iff, hsame]

theorem Separated.addAll {regions : List MemoryRegion}
    (hadd : addReservations regions ranges = some next) : Separated next := by
  induction regions generalizing ranges with
  | nil =>
      cases hadd
      exact h
  | cons region regions ih =>
      unfold addReservations at hadd ih
      rw [List.foldlM_cons] at hadd
      obtain ⟨middle, hfirst, hrest⟩ := Option.bind_eq_some_iff.mp hadd
      refine ih ?_ hrest
      obtain ⟨hext, -, rfl⟩ := addReservation_eq_some.mp hfirst
      obtain ⟨hord, -, -, hgaps⟩ := mergeRanges_spec (ordered_insertRange h.ordered hext)
      refine ⟨hord, hgaps, fun other hmem => ?_⟩
      obtain ⟨source, hsrc, -, hkind, hattributes⟩ := mem_mergeRanges hmem
      rw [hkind, hattributes]
      rcases List.mem_cons.mp (perm_insertRange.mem_iff.mp hsrc) with hnew | hold
      · simp [hnew]
      · exact h.plain source hold

omit h

theorem separated_nil : Separated [] := ⟨ordered_nil, .nil, by simp⟩

theorem covered_perm {ranges' : List MemoryRegion} (h : ranges.Perm ranges') :
    covered ranges = covered ranges' := by
  ext address
  simp only [covered, h.mem_iff]

end Ribon.Luca
