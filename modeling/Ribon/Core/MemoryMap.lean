/-
The map that the core makes is a normal form.

Regions that are sorted, disjoint and joined where they touch are known from the class that
they give each address.  So the map does not depend on the order of its source, and a map that
was made once is made again.
-/
import Mathlib.Data.List.Chain
import Mathlib.Order.CompletePartialOrder
import Ribon.Core.Memory
import Ribon.Intervals

namespace Ribon

open Intervals

namespace MemoryRegion

/-- The bytes of a region. -/
def range (region : MemoryRegion) : Set Nat :=
  Set.Ico region.base.toNat (region.base.toNat + region.length.toNat)

/-- A region that has bytes and ends. -/
structure Extends (region : MemoryRegion) : Prop where
  length : 0 < region.length.toNat
  finish : region.base.toNat + region.length.toNat < 2 ^ 64

theorem Extends.toNat_end {region : MemoryRegion} (h : region.Extends) :
    (region.base + region.length).toNat = region.base.toNat + region.length.toNat :=
  toNat_add_of_lt h.finish

/-- A region as a piece of the address space, under its class. -/
def piece (region : MemoryRegion) : Piece Nat (MemoryRegionKind × UInt64) where
  lo := region.base.toNat
  hi := region.base.toNat + region.length.toNat
  label := (region.kind, region.attributes)

theorem piece_injective : Function.Injective piece := by
  intro a b h
  obtain ⟨abase, alength, akind, aattributes⟩ := a
  simp only [piece, Piece.mk.injEq, Prod.mk.injEq, UInt64.toNat_inj] at h
  obtain ⟨rfl, hlen, rfl, rfl⟩ := h
  rw [Nat.add_right_inj, UInt64.toNat_inj] at hlen
  rw [hlen]

/-- A region stands before another one, maybe right before it. -/
def Ahead (left right : MemoryRegion) : Prop :=
  left.base.toNat + left.length.toNat ≤ right.base.toNat

/-- Regions in the order of their bases share no byte if they stand one behind the other. -/
theorem disjoint_iff_ahead {left right : MemoryRegion} (hleft : left.Extends)
    (hright : right.Extends) (horder : left.base ≤ right.base) :
    Disjoint left.range right.range ↔ left.Ahead right := by
  have hsome := hleft.length
  have hsome' := hright.length
  rw [UInt64.le_iff_toNat_le] at horder
  unfold range Ahead
  rw [Set.Ico_disjoint_Ico]
  omega

end MemoryRegion

open MemoryRegion

/-! ### Sorting -/

theorem memoryRegionEnd_eq_ok {region : MemoryRegion} {finish : UInt64} :
    memoryRegionEnd region = .ok finish ↔
      region.Extends ∧ finish = region.base + region.length := by
  simp only [memoryRegionEnd, refuse_bind_eq_ok, demand_eq_ok, addU64, gt_iff_lt, beq_eq_false_iff_ne]
  constructor
  · intro h
    obtain ⟨hlen, hadd⟩ := h
    split at hadd
    · cases hadd
    · next hwraps =>
      rw [u64Max_sub_lt_iff, Nat.not_le] at hwraps
      exact ⟨⟨ne_zero_iff.mp hlen, hwraps⟩, (Option.some.inj hadd).symm⟩
  · intro h
    obtain ⟨hext, rfl⟩ := h
    refine ⟨ne_zero_iff.mpr hext.length, if_neg ?_⟩
    rw [u64Max_sub_lt_iff, Nat.not_le]
    exact hext.finish

theorem memoryRegionIsValid_iff {region : MemoryRegion} :
    memoryRegionIsValid region = true ↔ region.Extends := by
  unfold memoryRegionIsValid
  cases hend : memoryRegionEnd region with
  | ok finish =>
      have hext := (memoryRegionEnd_eq_ok.mp hend).1
      simp [Except.isOk, Except.toBool, ne_zero_iff.mpr hext.length, hext]
  | error status =>
      refine iff_of_false (by simp [Except.isOk, Except.toBool]) fun hext => ?_
      rw [memoryRegionEnd_eq_ok.mpr ⟨hext, rfl⟩] at hend
      cases hend

/-- A region at its place. -/
def insertedRegion (regions : List MemoryRegion) (region : MemoryRegion) : List MemoryRegion :=
  regions.takeWhile (fun other => decide (other.base ≤ region.base)) ++
    region :: regions.dropWhile fun other => decide (other.base ≤ region.base)

variable {regions : List MemoryRegion}

theorem foldl_insertedRegion {start : List MemoryRegion} (source : List MemoryRegion)
    (h : start.Pairwise fun left right => left.base ≤ right.base) :
    (source.foldl insertedRegion start).Perm (source ++ start) ∧
      (source.foldl insertedRegion start).Pairwise fun left right => left.base ≤ right.base := by
  refine @foldl_insert _ (fun left right => left.base ≤ right.base) start
    (fun other region => decide (other.base ≤ region.base)) (fun _ _ _ => UInt64.le_trans) ?_ ?_
    source h
  · intro other region hbefore
    simpa using hbefore
  · intro other region hbehind
    exact UInt64.le_of_lt (by simpa using hbehind)

variable {source : List MemoryRegion} {capacity : UInt32}

/-- The first loop succeeds with valid regions for which there is room. -/
theorem sortAll_eq_ok {start sorted : List MemoryRegion} (hroom : start.length ≤ capacity.toNat) :
    (source.foldlM (fun regions region => do
        refuse (!memoryRegionIsValid region) MemoryStatus.badArgument
        memoryRegionInsertSorted regions capacity region) start = .ok sorted) ↔
      (∀ region ∈ source, region.Extends) ∧ source.length + start.length ≤ capacity.toNat ∧
        sorted = source.foldl insertedRegion start := by
  induction source generalizing start with
  | nil =>
      simp only [List.foldlM_nil, pure_eq_ok, List.length_nil, Nat.zero_add, hroom, true_and]
      simp [eq_comm]
  | cons region source ih =>
      have hlen : (insertedRegion start region).length = start.length + 1 :=
        (perm_insert _ region start).length_eq
      have hnext := fun hroom => @ih (insertedRegion start region) hroom
      simp only [List.foldlM_cons, bind_eq_ok, refuse_eq_ok, exists_const, memoryRegionInsertSorted,
        pure_eq_ok, Bool.not_eq_false', memoryRegionIsValid_iff, decide_eq_false_iff_not, Nat.not_le,
        List.forall_mem_cons, List.length_cons, List.foldl_cons]
      constructor
      · intro h
        obtain ⟨next, ⟨hvalid, hfree, rfl⟩, hrest⟩ := h
        obtain ⟨hall, hcount, hsorted⟩ := (hnext (by omega)).mp hrest
        exact ⟨⟨hvalid, hall⟩, by omega, hsorted⟩
      · intro h
        obtain ⟨⟨hvalid, hall⟩, hcount, hsorted⟩ := h
        exact ⟨_, ⟨hvalid, by omega, rfl⟩, (hnext (by omega)).mpr ⟨hall, by omega, hsorted⟩⟩

/-! ### Merging -/

theorem Ahead.trans {a b c : MemoryRegion} (hab : a.Ahead b) (hbc : b.Ahead c) : a.Ahead c := by
  unfold Ahead at *
  omega

instance : IsTrans MemoryRegion Ahead := ⟨fun _ _ _ => Ahead.trans⟩

/-- Two regions of one class that touch, as one. -/
def joinedRegion (previous current : MemoryRegion) : MemoryRegion :=
  { previous with length := previous.length + current.length }

/-- What the second loop has made of the regions in its array. -/
structure Merged (regions out : List MemoryRegion) : Prop where
  canonical : Canonical (out.map piece)
  labels : ∀ a l, Labels (out.map piece) a l ↔ Labels (regions.map piece) a l
  each : ∀ region ∈ out, region.Extends
  length : out.length ≤ regions.length

section Merge

variable {previous current : MemoryRegion} {before rest written out : List MemoryRegion}

theorem joinedRegion_spec (hprev : previous.Extends) (hcur : current.Extends)
    (htouch : current.base = previous.base + previous.length) :
    (joinedRegion previous current).Extends ∧ (joinedRegion previous current).piece =
      ⟨previous.piece.lo, current.piece.hi, previous.piece.label⟩ := by
  have hbase := hprev.toNat_end
  rw [← htouch] at hbase
  have hsome := hprev.length
  have hfin := hcur.finish
  have hlen : (previous.length + current.length).toNat =
      previous.length.toNat + current.length.toNat := toNat_add_of_lt
  refine ⟨⟨?_, ?_⟩, ?_⟩
  · simp only [joinedRegion]
    omega
  · simp only [joinedRegion]
    omega
  · simp only [joinedRegion, piece, hlen, Piece.mk.injEq, true_and, and_true]
    omega

theorem mergeAdjacent_cons (hprev : previous.Extends) (hcur : current.Extends) :
    memoryMapMergeAdjacent (previous :: before) (current :: rest) =
      if current.base < previous.base + previous.length then .error .overlap
      else if current.base == previous.base + previous.length &&
          memoryRegionSameClass previous current then
        memoryMapMergeAdjacent (joinedRegion previous current :: before) rest
      else memoryMapMergeAdjacent (current :: previous :: before) rest := by
  rw [memoryMapMergeAdjacent, memoryRegionEnd_eq_ok.mpr ⟨hcur, rfl⟩,
    memoryRegionEnd_eq_ok.mpr ⟨hprev, rfl⟩]
  split
  · next hlt =>
    simp [mapStatus, refuse, hlt, bind, Except.bind]
  · next hlt =>
    simp [mapStatus, refuse, hlt, bind, Except.bind, joinedRegion]

theorem isChain_joinedRegion (h : (joinedRegion previous current).piece =
      ⟨previous.piece.lo, current.piece.hi, previous.piece.label⟩) :
    ((joinedRegion previous current :: before).head?.toList ++ rest).IsChain Ahead ↔
      (current :: rest).IsChain Ahead := by
  have hend : ∀ region, (joinedRegion previous current).Ahead region ↔ current.Ahead region := by
    intro region
    show (joinedRegion previous current).piece.hi ≤ _ ↔ _
    rw [h]
    rfl
  cases rest <;> simp [List.isChain_cons_cons, hend]

/-- **The merge succeeds with regions that stand one behind the other, and only with them.** -/
theorem mergeAdjacent_spec (hcanon : Canonical (written.reverse.map piece))
    (hwritten : ∀ region ∈ written, region.Extends) (hrest : ∀ region ∈ rest, region.Extends) :
    (∃ out, memoryMapMergeAdjacent written rest = .ok out ∧ Merged (written.reverse ++ rest) out ∧
        (written.head?.toList ++ rest).IsChain Ahead) ∨
      ((∃ status, memoryMapMergeAdjacent written rest = .error status) ∧
        ¬ (written.head?.toList ++ rest).IsChain Ahead) := by
  induction rest generalizing written with
  | nil =>
      refine Or.inl ⟨written.reverse, by rw [memoryMapMergeAdjacent], ⟨hcanon, by simp,
        by simpa using hwritten, by simp⟩, ?_⟩
      cases written <;> simp
  | cons current rest ih =>
      obtain ⟨hcur, hrest⟩ := List.forall_mem_cons.mp hrest
      have hproper : current.piece.lo < current.piece.hi := by
        have := hcur.length
        simp only [piece]
        omega
      cases written with
      | nil =>
          rw [memoryMapMergeAdjacent, memoryRegionEnd_eq_ok.mpr ⟨hcur, rfl⟩]
          exact @ih [current] ⟨by simpa using hproper, by simp⟩
            (by simpa using hcur) hrest
      | cons previous before =>
          obtain ⟨hprev, hbefore⟩ := List.forall_mem_cons.mp hwritten
          have hahead : previous.Ahead current ↔ ¬ current.base < previous.base + previous.length := by
            rw [UInt64.lt_iff_toNat_lt, hprev.toNat_end, Nat.not_lt]
            rfl
          have hchain : ((previous :: before).head?.toList ++ current :: rest).IsChain Ahead ↔
              previous.Ahead current ∧ (current :: rest).IsChain Ahead := List.isChain_cons_cons
          rw [mergeAdjacent_cons hprev hcur, hchain, hahead]
          split
          · next hlt =>
            exact Or.inr ⟨⟨_, rfl⟩, fun h => h.1 hlt⟩
          next hlt =>
          rw [List.reverse_cons, List.map_append] at hcanon
          split
          · next htouch =>
            simp only [memoryRegionSameClass, Bool.and_eq_true, beq_iff_eq] at htouch
            obtain ⟨hjoined, hpiece⟩ := joinedRegion_spec hprev hcur htouch.1
            have hlast : previous.piece.hi = current.piece.lo := by
              show _ = current.base.toNat
              rw [htouch.1, hprev.toNat_end]
              rfl
            have hnext := @ih (joinedRegion previous current :: before)
              (by
                rw [List.reverse_cons, List.map_append, List.map_singleton, hpiece]
                exact hcanon.extend (hlast.le.trans hproper.le))
              (List.forall_mem_cons.mpr ⟨hjoined, hbefore⟩) hrest
            rw [isChain_joinedRegion hpiece] at hnext
            rcases hnext with ⟨out, hout, hmerged, hok⟩ | ⟨hstatus, hno⟩
            · refine Or.inl ⟨out, hout, ⟨hmerged.canonical, fun a l => ?_, hmerged.each, ?_⟩, hlt, hok⟩
              · have hjoin := labels_joined (p := previous.piece) (q := current.piece)
                  (Nat.le_add_right _ _) hproper.le hlast (Prod.ext htouch.2.1 htouch.2.2)
                  (a := a) (l := l)
                have hnew : ((joinedRegion previous current :: before).reverse ++ rest).map piece =
                    before.reverse.map piece ++
                      ([(joinedRegion previous current).piece] ++ rest.map piece) := by simp
                have hold : ((previous :: before).reverse ++ current :: rest).map piece =
                    before.reverse.map piece ++
                      ([previous.piece, current.piece] ++ rest.map piece) := by simp
                rw [hmerged.labels, hnew, hold, hpiece, labels_append, labels_append,
                  labels_append, labels_append, hjoin]
              · have := hmerged.length
                simp only [List.length_append, List.length_reverse, List.length_cons] at this ⊢
                omega
            · exact Or.inr ⟨hstatus, fun h => hno h.2⟩
          · next htouch =>
            have hbehind : previous.piece.Before current.piece := by
              rcases Nat.lt_or_eq_of_le (hahead.mpr hlt) with hgap | hmeet
              · exact Or.inl hgap
              · refine Or.inr ⟨hmeet, fun hclass => htouch ?_⟩
                have hbase : current.base = previous.base + previous.length :=
                  UInt64.toNat_inj.mp (hmeet.symm.trans hprev.toNat_end.symm)
                simpa [memoryRegionSameClass, hbase] using Prod.mk.inj hclass
            have hnext := @ih (current :: previous :: before)
              (by
                rw [List.reverse_cons, List.reverse_cons, List.map_append, List.map_append]
                exact hcanon.snoc hbehind hproper)
              (List.forall_mem_cons.mpr ⟨hcur, hwritten⟩) hrest
            rw [List.reverse_cons, List.append_assoc] at hnext
            rcases hnext with ⟨out, hout, hmerged, hok⟩ | ⟨hstatus, hno⟩
            · exact Or.inl ⟨out, hout, hmerged, hlt, hok⟩
            · exact Or.inr ⟨hstatus, fun h => hno h.2⟩

end Merge

/-! ### The map -/

variable {out : List MemoryRegion}

theorem Merged.unique {out' : List MemoryRegion} (h : Merged regions out)
    (h' : Merged regions out') : out = out' := by
  refine List.map_injective_iff.mpr piece_injective (h.canonical.unique h'.canonical ?_)
  intro a l
  rw [h.labels, h'.labels]

theorem Merged.of_perm {regions' : List MemoryRegion} (hperm : regions.Perm regions')
    (h : Merged regions out) : Merged regions' out where
  canonical := h.canonical
  labels a l := (h.labels a l).trans (labels_perm (hperm.map piece))
  each := h.each
  length := hperm.length_eq ▸ h.length

theorem pairwise_disjoint_iff (hext : ∀ region ∈ regions, region.Extends)
    (hsorted : regions.Pairwise fun left right => left.base ≤ right.base) :
    regions.Pairwise (fun left right => Disjoint left.range right.range) ↔
      regions.IsChain Ahead := by
  rw [List.isChain_iff_pairwise]
  constructor
  · intro h
    refine (h.and hsorted).imp_of_mem fun hleft hright hboth => ?_
    exact (disjoint_iff_ahead (hext _ hleft) (hext _ hright) hboth.2).mp hboth.1
  · intro h
    refine (h.and hsorted).imp_of_mem fun hleft hright hboth => ?_
    exact (disjoint_iff_ahead (hext _ hleft) (hext _ hright) hboth.2).mpr hboth.1

/-- What a map can be made of. -/
structure Normalizable (source : List MemoryRegion) (capacity : UInt32) : Prop where
  each : ∀ region ∈ source, region.Extends
  disjoint : source.Pairwise fun left right => Disjoint left.range right.range
  room : source.length ≤ capacity.toNat

/-- **When a map is made, and which.** -/
theorem memoryMapNormalize_spec (source old : List MemoryRegion) (capacity : UInt32) :
    (Normalizable source capacity ∧ ∃ out, Merged source out ∧
        memoryMapNormalize source ⟨true, old, capacity⟩ = .ok ⟨true, out, capacity⟩) ∨
      (¬ Normalizable source capacity ∧
        ∀ map, memoryMapNormalize source ⟨true, old, capacity⟩ ≠ .ok map) := by
  obtain ⟨hperm, hsorted⟩ := foldl_insertedRegion source List.Pairwise.nil
  rw [List.append_nil] at hperm
  have hok : ∀ map, memoryMapNormalize source ⟨true, old, capacity⟩ = .ok map ↔
      ((∀ region ∈ source, region.Extends) ∧ source.length ≤ capacity.toNat) ∧ ∃ out,
        memoryMapMergeAdjacent [] (source.foldl insertedRegion []) = .ok out ∧
        ⟨true, out, capacity⟩ = map := by
    intro map
    simp only [memoryMapNormalize, bind_eq_ok, refuse_eq_ok, pure_eq_ok, exists_const, Bool.not_true,
      true_and, @sortAll_eq_ok _ _ [] _ (Nat.zero_le _), List.length_nil, Nat.add_zero]
    constructor
    · intro h
      obtain ⟨sorted, ⟨hext, hroom, rfl⟩, hmap⟩ := h
      exact ⟨⟨hext, hroom⟩, hmap⟩
    · intro h
      exact ⟨_, ⟨h.1.1, h.1.2, rfl⟩, h.2⟩
  by_cases hext : ∀ region ∈ source, region.Extends
  swap
  · exact Or.inr ⟨fun h => hext h.each, fun map h => hext ((hok map).mp h).1.1⟩
  by_cases hroom : source.length ≤ capacity.toNat
  swap
  · exact Or.inr ⟨fun h => hroom h.room, fun map h => hroom ((hok map).mp h).1.2⟩
  have hsortedEach := fun region hmem => hext region (hperm.mem_iff.mp hmem)
  have hdisj := (hperm.pairwise_iff fun h => h.symm).symm.trans
    (pairwise_disjoint_iff hsortedEach hsorted)
  rcases @mergeAdjacent_spec _ [] ⟨by simp, .nil⟩ (by simp) hsortedEach with
    ⟨out, hout, hmerged, hchain⟩ | ⟨⟨status, hstatus⟩, hno⟩
  · exact Or.inl ⟨⟨hext, hdisj.mpr hchain, hroom⟩, out, hmerged.of_perm hperm,
      (hok _).mpr ⟨⟨hext, hroom⟩, out, hout, rfl⟩⟩
  · refine Or.inr ⟨fun h => hno (hdisj.mp h.disjoint), fun map h => ?_⟩
    obtain ⟨-, out, hout, -⟩ := (hok map).mp h
    rw [hstatus] at hout
    cases hout

theorem Normalizable.normalize (h : Normalizable source capacity) (hmerged : Merged source out)
    (old : List MemoryRegion) :
    memoryMapNormalize source ⟨true, old, capacity⟩ = .ok ⟨true, out, capacity⟩ := by
  rcases memoryMapNormalize_spec source old capacity with ⟨-, out', hmerged', hok⟩ | ⟨hno, -⟩
  · rw [hok, hmerged.unique hmerged']
  · exact absurd h hno

theorem Normalizable.of_perm {source' : List MemoryRegion} (hperm : source.Perm source')
    (h : Normalizable source capacity) :
    Normalizable source' capacity where
  each region hmem := h.each region (hperm.mem_iff.mpr hmem)
  disjoint := (hperm.pairwise_iff fun h => h.symm).mp h.disjoint
  room := hperm.length_eq ▸ h.room

theorem Merged.ahead (h : Merged regions out) :
    out.Pairwise Ahead := by
  have hpairs := h.canonical.apart
  rw [List.pairwise_map] at hpairs
  exact hpairs.imp fun hbefore => hbefore.le

/-- A map is its own normal form. -/
theorem Merged.again (h : Merged regions out) :
    Merged out out := ⟨h.canonical, fun _ _ => Iff.rfl, h.each, le_rfl⟩

theorem Merged.normalizable (h : Merged regions out) (hroom : regions.length ≤ capacity.toNat) :
    Normalizable out capacity where
  each := h.each
  disjoint := h.ahead.imp fun hahead => Set.Ico_disjoint_Ico.mpr
    ((min_le_left _ _).trans (hahead.trans (le_max_right _ _)))
  room := h.length.trans hroom

/-- The class that the regions give an address. -/
def HasClass (regions : List MemoryRegion) (address : Nat) (kind : MemoryRegionKind)
    (attributes : UInt64) : Prop :=
  ∃ region ∈ regions, address ∈ region.range ∧ region.kind = kind ∧ region.attributes = attributes

theorem hasClass_iff {address : Nat} {kind : MemoryRegionKind} {attributes : UInt64} :
    HasClass regions address kind attributes ↔
      Labels (regions.map piece) address (kind, attributes) := by
  simp [HasClass, Labels, piece, range, and_assoc]

/-- **Normalization is canonical.** -/
theorem memoryMapNormalize_canonical (source old : List MemoryRegion) (capacity : UInt32) :
    ((∃ map, memoryMapNormalize source ⟨true, old, capacity⟩ = .ok map) ↔
      Normalizable source capacity) ∧
    ∀ map, memoryMapNormalize source ⟨true, old, capacity⟩ = .ok map →
      map.regions.Pairwise (fun left right => left.base < right.base ∧ left.Ahead right) ∧
      map.regions.IsChain (fun left right => left.base + left.length = right.base →
        ¬ (left.kind = right.kind ∧ left.attributes = right.attributes)) ∧
      (∀ address kind attributes, HasClass map.regions address kind attributes ↔
        HasClass source address kind attributes) ∧
      (∀ source' old', source'.Perm source →
        memoryMapNormalize source' ⟨true, old', capacity⟩ = .ok map) ∧
      ∀ old', memoryMapNormalize map.regions ⟨true, old', capacity⟩ = .ok map := by
  rcases memoryMapNormalize_spec source old capacity with ⟨h, out, hmerged, hok⟩ | ⟨hno, hstatus⟩
  swap
  · exact ⟨iff_of_false (fun ⟨map, hmap⟩ => hstatus map hmap) hno,
      fun map hmap => absurd hmap (hstatus map)⟩
  refine ⟨iff_of_true ⟨_, hok⟩ h, fun map hmap => ?_⟩
  obtain rfl := Except.ok.inj (hok.symm.trans hmap)
  refine ⟨?_, ?_, ?_, ?_, hmerged.again.normalizable (hmerged.length.trans h.room) |>.normalize
    hmerged.again⟩
  · refine hmerged.ahead.imp_of_mem fun hleft hright hahead => ⟨?_, hahead⟩
    have hsome := (hmerged.each _ hleft).length
    unfold Ahead at hahead
    rw [UInt64.lt_iff_toNat_lt]
    omega
  · have hpairs := hmerged.canonical.apart
    rw [List.pairwise_map] at hpairs
    refine (hpairs.imp_of_mem fun {left right} hleft _ hbefore htouch hclass => ?_).isChain
    have hend := (hmerged.each left hleft).toNat_end
    rw [htouch] at hend
    rcases hbefore with hgap | ⟨-, hother⟩
    · exact absurd hend hgap.ne'
    · exact hother (Prod.ext hclass.1 hclass.2)
  · intro address kind attributes
    rw [hasClass_iff, hasClass_iff, hmerged.labels]
  · intro source' old' hperm
    exact (h.of_perm hperm.symm).normalize (hmerged.of_perm hperm.symm) old'

end Ribon
