/-
The range set of the post-exit bridge, from the empty set on.

An addition is rounded to pages and put among ranges that are kept sorted.  If it reaches the
range before it, that range grows and takes those behind it, one after the other; if it reaches
only the range behind it, that one grows.  The two branches differ: the first changes the set
before it has seen the kinds of the ranges that it takes, and the second takes one range and
no other.  So the set stays a normal form exactly as long as no addition runs into one of the
two; what it says about the addresses is right as long as every call succeeds.
-/
import Mathlib.Data.List.TakeWhile
import Ribon.Arch.Aarch64BridgeWalk
import Ribon.Intervals
import Ribon.Rounding

namespace Ribon.Aarch64

open Intervals Paging

/-- One call: the range that is to be added. -/
structure Addition where
  base : UInt64
  length : UInt64
  kind : BridgeMemoryKind
  deriving DecidableEq, Repr

/-- What a call returns, and the set that it leaves. -/
abbrev RangeAddResult := Except ArchOperationStatus Unit × List BridgeRange

def BridgeRange.finish (range : BridgeRange) : UInt64 := range.base + range.length

/-- The pages of an addition. -/
def Addition.pages (addition : Addition) : Except ArchOperationStatus (UInt64 × UInt64) := do
  refuse (addition.length == 0 || decide (u64Max - addition.length < addition.base)) .badArgument
  let alignedBase := alignDown addition.base pageSize
  let alignedEnd ← demand (alignUp (addition.base + addition.length) pageSize) .invalidPayload
  refuse (decide (alignedEnd ≤ alignedBase) || decide (addressLimit < alignedEnd)) .invalidPayload
  return (alignedBase, alignedEnd)

/-- Make a range longer if it ends before. -/
def BridgeRange.lengthen (range : BridgeRange) (finish : UInt64) : BridgeRange :=
  if range.finish < finish then { range with length := finish - range.base } else range

/-- The loop that takes the ranges behind the previous one while it reaches them.  A range of
another kind stops it with what has been taken. -/
def swallow (kind : BridgeMemoryKind) (previous : BridgeRange) :
    List BridgeRange → Except ArchOperationStatus Unit × BridgeRange × List BridgeRange
  | [] => (.ok (), previous, [])
  | next :: rest =>
      if next.base ≤ previous.finish then
        if next.kind = kind then swallow kind (previous.lengthen next.finish) rest
        else (.error .invalidPayload, previous, next :: rest)
      else (.ok (), previous, next :: rest)

/-- A range is added to the set. -/
def bridgeRangeAdd (set : List BridgeRange) (addition : Addition) : RangeAddResult :=
  match addition.pages with
  | .error status => (.error status, set)
  | .ok (alignedBase, alignedEnd) =>
      let before := set.takeWhile fun range => range.base < alignedBase
      let after := set.dropWhile fun range => range.base < alignedBase
      -- the range before the place, if it is reached, and else the one behind it
      match before.getLast?.filter fun previous => alignedBase ≤ previous.finish,
          after.head?.filter fun next => next.base ≤ alignedEnd with
      | some previous, _ =>
          if previous.kind = addition.kind then
            let (status, merged, rest) :=
              swallow addition.kind (previous.lengthen alignedEnd) after
            (status, before.dropLast ++ merged :: rest)
          else (.error .invalidPayload, set)
      | none, some next =>
          if next.kind = addition.kind then
            let finish := if next.finish < alignedEnd then alignedEnd else next.finish
            (.ok (), before ++ ⟨alignedBase, finish - alignedBase, next.kind⟩ :: after.tail)
          else (.error .invalidPayload, set)
      | none, none =>
          if set.length = bridgeRangeLimit then (.error .invalidPayload, set)
          else (.ok (), before ++ ⟨alignedBase, alignedEnd - alignedBase, addition.kind⟩ :: after)

/-! ### What the set is for -/

/-- The addresses of a range, under its kind. -/
def BridgeRange.piece (range : BridgeRange) : Piece Nat BridgeMemoryKind :=
  ⟨range.base.toNat, range.base.toNat + range.length.toNat, range.kind⟩

def pieces (ranges : List BridgeRange) : List (Piece Nat BridgeMemoryKind) :=
  ranges.map BridgeRange.piece

/-- The addresses of the pages that an addition touches, under its kind. -/
def Addition.window (addition : Addition) : Piece Nat BridgeMemoryKind :=
  ⟨addition.base.toNat - addition.base.toNat % 4096,
    roundUp (addition.base.toNat + addition.length.toNat) 4096, addition.kind⟩

/-- A set, and the additions that succeeded on the way to it. -/
structure Session where
  ranges : List BridgeRange
  added : List Addition

def Session.add (session : Session) (addition : Addition) : Session :=
  match bridgeRangeAdd session.ranges addition with
  | (.ok _, ranges) => ⟨ranges, session.added ++ [addition]⟩
  | (.error _, ranges) => ⟨ranges, session.added⟩

/-- The calls of a run, from the empty set on. -/
def register (additions : List Addition) : Session := additions.foldl Session.add ⟨[], []⟩

/-- The first pass over the ranges, which checks their order, fails for want of tables only. -/
def InOrderForBridge (ranges : List BridgeRange) : Prop :=
  (spansOf ranges).card < 9 →
    ∃ pass, ranges.foldlM checkRange ⟨Numbering.start, none⟩ = .ok pass

/-- What a call should do: give the normal form of everything added so far, or nothing. -/
def Lawful (session : Session) (addition : Addition) : Prop :=
  match bridgeRangeAdd session.ranges addition with
  | (.ok _, ranges) =>
      Canonical (pieces ranges) ∧
        (∀ a kind, Labels (pieces ranges) a kind ↔
          Labels ((session.added ++ [addition]).map Addition.window) a kind) ∧
        InOrderForBridge ranges
  | (.error _, ranges) => ranges = session.ranges

/-- Let a window pass the end of the first piece that it reaches, which has its label.  If that
piece begins before the window, all that it comes to take has the label; if not, the other pieces
stand behind the window. -/
def Clear (window : Piece Nat BridgeMemoryKind) (pieces : List (Piece Nat BridgeMemoryKind)) :
    Prop :=
  match pieces.dropWhile fun piece => piece.hi < window.lo with
  | [] => True
  | first :: rest =>
      first.lo ≤ window.hi → first.label = window.label → first.hi < window.hi →
        if first.lo < window.lo then Agrees window.label window.hi rest
        else ∀ piece ∈ rest, window.Before piece

/-- An addition that has pages is clear of what the two branches get wrong. -/
def Safe (session : Session) (addition : Addition) : Prop :=
  ∀ pages, addition.pages = .ok pages → Clear addition.window (pieces session.ranges)

/-- All calls of a run. -/
def EachCall (P : Session → Addition → Prop) (additions : List Addition) : Prop :=
  ∀ before addition, before ++ [addition] <+: additions → P (register before) addition

/-- Two orders of the same additions: each call does what it should, and if all calls succeed the
two sets are the same. -/
structure OrderFree (additions others : List Addition) : Prop where
  first : EachCall Lawful additions
  second : EachCall Lawful others
  same : (register additions).added = additions → (register others).added = others →
    (register additions).ranges = (register others).ranges

/-! ### Words as addresses -/

section Words

variable {range : BridgeRange} {addition : Addition} {x y : UInt64}

theorem piece_injective : Function.Injective BridgeRange.piece := by
  intro range other h
  cases range
  cases other
  simp only [BridgeRange.piece, Piece.mk.injEq, UInt64.toNat_inj] at h
  obtain ⟨rfl, hlen, rfl⟩ := h
  rw [UInt64.toNat_inj.mp (Nat.add_left_cancel hlen)]

theorem toNat_rangeFinish (valid : RangeValid range) : range.finish.toNat = range.piece.hi :=
  toNat_finish valid

theorem le_finish_iff (valid : RangeValid range) : x ≤ range.finish ↔ x.toNat ≤ range.piece.hi := by
  rw [UInt64.le_iff_toNat_le, toNat_rangeFinish valid]

theorem piece_proper (valid : RangeValid range) : range.piece.lo < range.piece.hi :=
  Nat.lt_add_of_pos_right valid.nonempty

/-- A place where pages of the set may begin or end. -/
def Boundary (x : UInt64) : Prop := x.toNat % 4096 = 0 ∧ x.toNat ≤ 2 ^ 39

theorem boundary_finish (valid : RangeValid range) : Boundary range.finish := by
  have hfin : range.finish.toNat = range.base.toNat + range.length.toNat := toNat_finish valid
  obtain ⟨-, hbase, hlen, hbelow⟩ := valid
  exact ⟨by omega, by omega⟩

/-- A range between two boundaries. -/
theorem range_between (kind : BridgeMemoryKind) (hx : Boundary x) (hy : Boundary y)
    (hlt : x.toNat < y.toNat) :
    RangeValid ⟨x, y - x, kind⟩ ∧
      BridgeRange.piece ⟨x, y - x, kind⟩ = ⟨x.toNat, y.toNat, kind⟩ := by
  have hlen : (y - x).toNat = y.toNat - x.toNat := toNat_sub_of_le hlt.le
  obtain ⟨hx, -⟩ := hx
  obtain ⟨hy, hbelow⟩ := hy
  refine ⟨⟨?_, hx, ?_, ?_⟩, ?_⟩
  all_goals simp only [BridgeRange.piece, Piece.mk.injEq, hlen, true_and, and_true]; omega

theorem lengthen_spec (valid : RangeValid range) (hy : Boundary y) :
    RangeValid (range.lengthen y) ∧
      (range.lengthen y).piece =
        ⟨range.piece.lo, max range.piece.hi y.toNat, range.piece.label⟩ := by
  have hproper := piece_proper valid
  have hfin := toNat_rangeFinish valid
  have hbase : Boundary range.base := ⟨valid.baseAligned, by have := valid.below; omega⟩
  rw [BridgeRange.lengthen]
  split
  · next hlt =>
    rw [UInt64.lt_iff_toNat_lt, hfin] at hlt
    rw [max_eq_right hlt.le]
    exact range_between range.kind hbase hy (hproper.trans hlt)
  · next hle =>
    rw [UInt64.lt_iff_toNat_lt, hfin, not_lt] at hle
    rw [max_eq_left hle]
    exact ⟨valid, rfl⟩

/-- Two words between which the window of an addition lies. -/
structure Spans (addition : Addition) (x y : UInt64) : Prop where
  first : Boundary x
  last : Boundary y
  lo : x.toNat = addition.window.lo
  hi : y.toNat = addition.window.hi
  proper : addition.window.lo < addition.window.hi

/-- The pages of an addition are those of its window. -/
theorem pages_spans (h : addition.pages = .ok (x, y)) : Spans addition x y := by
  have hpower : powerOfTwo pageSize = true := by decide
  have hpage : pageSize.toNat = 4096 := rfl
  have hlimit : addressLimit.toNat = 2 ^ 39 := rfl
  have hdown := toNat_alignDown addition.base hpower
  have hsum := UInt64.toNat_add addition.base addition.length
  simp only [Addition.pages, bind_eq_ok, refuse_eq_ok, demand_eq_ok, pure_eq_ok, exists_const,
    Bool.or_eq_false_iff, beq_eq_false_iff_ne, decide_eq_false_iff_not, u64Max_sub_lt_iff,
    ne_zero_iff, alignUp_iff hpower, Prod.mk.injEq] at h
  obtain ⟨⟨hlen, hfits⟩, finish, hfin, ⟨hproper, hbelow⟩, rfl, rfl⟩ := h
  rw [Nat.mod_eq_of_lt (by omega)] at hsum
  rw [hsum, hpage] at hfin
  rw [hpage] at hdown
  rw [UInt64.lt_iff_toNat_lt, hlimit] at hbelow
  rw [UInt64.le_iff_toNat_le] at hproper
  obtain ⟨⟨pages, hdvd⟩, -, -⟩ := roundUp_spec (a := 4096) (by omega)
    (addition.base.toNat + addition.length.toNat)
  exact ⟨⟨by omega, by omega⟩, ⟨by omega, by omega⟩, hdown, hfin, by
    simp only [Addition.window]; omega⟩

end Words

/-- A set that is a normal form. -/
structure Sound (ranges : List BridgeRange) : Prop where
  valid : ∀ range ∈ ranges, RangeValid range
  canonical : Canonical (pieces ranges)

section Pieces

variable {left right : List BridgeRange} {range : BridgeRange}

@[simp] theorem pieces_append : pieces (left ++ right) = pieces left ++ pieces right :=
  List.map_append

@[simp] theorem pieces_cons : pieces (range :: right) = range.piece :: pieces right := rfl

@[simp] theorem forall_mem_pieces {P : Piece Nat BridgeMemoryKind → Prop} :
    (∀ piece ∈ pieces right, P piece) ↔ ∀ range ∈ right, P range.piece :=
  List.forall_mem_map

theorem Sound.split (h : Sound (left ++ range :: right)) :
    RangeValid range ∧ Sound right ∧ (∀ other ∈ left, other.piece.Before range.piece) ∧
      ∀ other ∈ right, range.piece.Before other.piece := by
  obtain ⟨hvalid, hcanon⟩ := h
  simp only [List.forall_mem_append, List.forall_mem_cons] at hvalid
  simp only [pieces_append, pieces_cons, canonical_put, forall_mem_pieces] at hcanon
  obtain ⟨hkept, -, hbefore, hbehind⟩ := hcanon
  exact ⟨hvalid.2.1, ⟨hvalid.2.2, hkept.sublist (List.sublist_append_right _ _)⟩, hbefore, hbehind⟩

end Pieces

/-! ### The loop of the first branch -/

/-- What the loop makes of the previous range and those behind it. -/
structure Taken (previous : BridgeRange) (ranges : List BridgeRange)
    (result : Except ArchOperationStatus Unit × BridgeRange × List BridgeRange) : Prop where
  valid : RangeValid result.2.1
  grown : ∃ hi, previous.piece.hi ≤ hi ∧ result.2.1.piece = ⟨previous.piece.lo, hi, previous.kind⟩
  rest : result.2.2 <:+ ranges
  agrees : result.1 = .ok () ↔ Agrees previous.kind previous.piece.hi (pieces ranges)
  behind : result.1 = .ok () → ∀ range ∈ result.2.2, result.2.1.piece.hi < range.piece.lo
  labels : result.1 = .ok () → ∀ a l, Labels (pieces (result.2.1 :: result.2.2)) a l ↔
    Labels (pieces (previous :: ranges)) a l

theorem swallow_taken {previous : BridgeRange} {ranges : List BridgeRange}
    (valid : RangeValid previous) (h : Sound ranges)
    (hlow : ∀ range ∈ ranges, previous.piece.lo ≤ range.piece.lo) :
    Taken previous ranges (swallow previous.kind previous ranges) := by
  induction ranges generalizing previous with
  | nil =>
      exact ⟨valid, ⟨_, le_rfl, rfl⟩, List.suffix_rfl, by simp [swallow, pieces, Agrees],
        by simp [swallow], by simp [swallow]⟩
  | cons next rest ih =>
      obtain ⟨hnext, hrest, -, hbehind⟩ := (show Sound ([] ++ next :: rest) from h).split
      obtain ⟨hlowNext, hlowRest⟩ := List.forall_mem_cons.mp hlow
      have hreach : next.base ≤ previous.finish ↔ next.piece.lo ≤ previous.piece.hi :=
        le_finish_iff valid
      simp only [swallow, hreach]
      split
      · next htouch =>
        split
        · next hkind =>
          -- the range is taken, and the loop goes on with the longer one
          obtain ⟨hvalid, hpiece⟩ := lengthen_spec valid (boundary_finish hnext)
          rw [toNat_rangeFinish hnext] at hpiece
          have hsame : (previous.lengthen next.finish).kind = previous.kind :=
            congrArg Piece.label hpiece
          have htaken := ih hvalid hrest (by rw [hpiece]; exact hlowRest)
          rw [hsame] at htaken
          obtain ⟨hi, hgrows, hgrown⟩ := htaken.grown
          rw [hsame, hpiece] at hgrown
          rw [hpiece] at hgrows
          refine ⟨htaken.valid, ⟨hi, (le_max_left _ _).trans hgrows, hgrown⟩,
            htaken.rest.trans (List.suffix_cons _ _), ?_, htaken.behind, ?_⟩
          · rw [htaken.agrees, hpiece, hsame]
            exact ⟨fun hagrees _ => ⟨hkind, hagrees⟩, fun hagrees => (hagrees htouch).2⟩
          · intro hok a l
            rw [htaken.labels hok, pieces_cons, hpiece, labels_cons,
              labels_merge hlowNext htouch hkind.symm, ← labels_append]
            rfl
        · next hkind =>
          exact ⟨valid, ⟨_, le_rfl, rfl⟩, List.suffix_rfl,
            by simpa [Agrees, BridgeRange.piece, hkind] using htouch, by simp, by simp⟩
      · next hgap =>
        refine ⟨valid, ⟨_, le_rfl, rfl⟩, List.suffix_rfl, by simp [Agrees, hgap], ?_, by simp⟩
        intro _
        refine List.forall_mem_cons.mpr ⟨not_le.mp hgap, ?_⟩
        intro range hrange
        exact (not_le.mp hgap).trans ((piece_proper hnext).trans_le (hbehind range hrange).le)

/-- Ranges that need not be taken are left as they are, whatever the loop returns. -/
theorem swallow_still {previous : BridgeRange} {ranges : List BridgeRange}
    (valid : RangeValid previous) (hbefore : ∀ range ∈ ranges, previous.piece.Before range.piece) :
    (swallow previous.kind previous ranges).2 = (previous, ranges) := by
  cases ranges with
  | nil => rfl
  | cons next rest =>
      rw [swallow]
      split
      · next htouch =>
        split
        · next hkind =>
          rcases hbefore next (by simp) with hgap | ⟨-, hother⟩
          · exact absurd ((le_finish_iff valid).mp htouch) (not_le.mpr hgap)
          · exact absurd hkind.symm hother
        · rfl
      · rfl

/-! ### One call -/

/-- What a call does to a set that is a normal form.  On success the addresses are right, but the
set is a normal form only for a clear addition; and only for such a one is a failure without
effect. -/
def Outcome (set : List BridgeRange) (addition : Addition) (result : RangeAddResult) : Prop :=
  match result with
  | (.ok _, ranges) =>
      (∀ range ∈ ranges, RangeValid range) ∧
        (∀ a l, Labels (pieces ranges) a l ↔
          Labels (pieces set) a l ∨ Labels [addition.window] a l) ∧
        (Canonical (pieces ranges) ↔ Clear addition.window (pieces set))
  | (.error _, ranges) => ranges = set ↔ Clear addition.window (pieces set)

section Call

variable {addition : Addition} {x y : UInt64} {set left right : List BridgeRange}
  {range previous next : BridgeRange}

theorem labels_put {a : Nat} {l : BridgeMemoryKind} :
    Labels (pieces (left ++ range :: right)) a l ↔
      Labels (pieces left) a l ∨ Labels [range.piece] a l ∨ Labels (pieces right) a l := by
  rw [pieces_append, labels_append, pieces_cons, labels_cons]

variable (hleft : ∀ other ∈ left, other.piece.hi < addition.window.lo)
include hleft

/-- What an addition is clear of, from the first range on that it reaches. -/
theorem clear_first (hreach : addition.window.lo ≤ range.piece.hi) :
    Clear addition.window (pieces (left ++ range :: right)) ↔
      (range.piece.lo ≤ addition.window.hi → range.kind = addition.kind →
        range.piece.hi < addition.window.hi →
          if range.piece.lo < addition.window.lo then
            Agrees addition.kind addition.window.hi (pieces right)
          else ∀ other ∈ right, addition.window.Before other.piece) := by
  rw [Clear, pieces_append, List.dropWhile_append_of_pos (by simpa using hleft), pieces_cons,
    List.dropWhile_cons_of_neg (by simpa using hreach), ← forall_mem_pieces]
  rfl

omit hleft in
/-- A range is put in the place of some. -/
theorem outcome_put (h : Sound set) (hsub : (left ++ right).Sublist set)
    (valid : RangeValid range) (hleft : ∀ other ∈ left, other.piece.Before range.piece)
    (hlabels : ∀ a l, Labels (pieces (left ++ range :: right)) a l ↔
      Labels (pieces set) a l ∨ Labels [addition.window] a l)
    (hright : (∀ other ∈ right, range.piece.Before other.piece) ↔
      Clear addition.window (pieces set)) :
    Outcome set addition (.ok (), left ++ range :: right) := by
  refine ⟨?_, hlabels, ?_⟩
  · intro other hother
    rcases List.mem_cons.mp (List.perm_middle.mem_iff.mp hother) with hnew | hold
    · rwa [hnew]
    · exact h.valid other (hsub.subset hold)
  · have hkept := h.canonical.sublist (hsub.map BridgeRange.piece)
    rw [List.map_append] at hkept
    rw [pieces_append, pieces_cons, canonical_put, ← hright, forall_mem_pieces, forall_mem_pieces]
    exact ⟨fun hput => hput.2.2.2, fun hput => ⟨hkept, piece_proper valid, hleft, hput⟩⟩

variable (hspans : Spans addition x y)
include hspans

/-- The range before the place is reached, and of the kind. -/
theorem outcome_previous (h : Sound (left ++ previous :: right))
    (hkind : previous.kind = addition.kind)
    (hstart : previous.piece.lo < addition.window.lo)
    (hreach : addition.window.lo ≤ previous.piece.hi) :
    Outcome (left ++ previous :: right) addition
      ((swallow addition.kind (previous.lengthen y) right).1,
        left ++ (swallow addition.kind (previous.lengthen y) right).2.1 ::
          (swallow addition.kind (previous.lengthen y) right).2.2) := by
  obtain ⟨-, hy, -, hyw, hproper⟩ := hspans
  obtain ⟨valid, hright, hbefore, hbehind⟩ := h.split
  have hclear : Clear _ (pieces (left ++ previous :: right)) ↔ _ := clear_first hleft hreach
  simp only [if_pos hstart, hkind, (hstart.trans hproper).le, forall_const] at hclear
  obtain ⟨hvalid, hpiece⟩ := lengthen_spec valid hy
  rw [hyw] at hpiece
  have hsame : (previous.lengthen y).kind = addition.kind :=
    (congrArg Piece.label hpiece).trans hkind
  have htaken := swallow_taken hvalid hright (by
    intro range hrange
    rw [hpiece]
    exact (piece_proper valid).le.trans (hbehind range hrange).le)
  have hstill : ¬ previous.piece.hi < addition.window.hi →
      (swallow addition.kind (previous.lengthen y) right).2 = (previous, right) := by
    intro hwithin
    rw [max_eq_left (not_lt.mp hwithin)] at hpiece
    rw [piece_injective hpiece, ← hkind]
    exact swallow_still valid hbehind
  rw [hsame] at htaken
  generalize swallow addition.kind (previous.lengthen y) right = result at htaken hstill ⊢
  obtain ⟨status, merged, rest⟩ := result
  obtain ⟨hmerged, ⟨hi, hgrows, hgrown⟩, hrest, hagrees, hgap, hlabels⟩ := htaken
  simp only [hsame, hpiece] at hgrows hgrown hagrees
  cases status with
  | ok =>
      refine outcome_put h ?_ hmerged ?_ ?_ (iff_of_true ?_ (hclear.mpr ?_))
      · exact ((List.sublist_cons_of_sublist _ hrest.sublist)).append_left left
      · intro other hother
        rw [hgrown, ← hkind]
        exact hbefore other hother
      · intro a l
        have hnew : Labels [merged.piece] a l ∨ Labels (pieces rest) a l ↔
            Labels [(previous.lengthen y).piece] a l ∨ Labels (pieces right) a l :=
          labels_cons.symm.trans ((hlabels rfl a l).trans labels_cons)
        rw [hpiece, labels_merge hstart.le hreach hkind, labels_cons (p := previous.piece)] at hnew
        rw [labels_put, labels_put, hnew]
        simp only [or_comm, or_left_comm]
      · intro other hother
        exact Or.inl (hgap rfl other hother)
      · intro hpass
        rw [max_eq_right hpass.le] at hagrees
        exact hagrees.mp rfl
  | error status =>
      refine Iff.trans ?_ hclear.symm
      by_cases hpass : previous.piece.hi < addition.window.hi
      · -- the range has grown before the loop came to another kind
        rw [max_eq_right hpass.le] at hagrees hgrows
        refine iff_of_false ?_ ?_
        · intro hset
          have hold : merged = previous := (List.cons.inj (List.append_cancel_left hset)).1
          rw [hold] at hgrown
          exact absurd hpass (not_lt.mpr (hgrows.trans (congrArg Piece.hi hgrown).ge))
        · intro hall
          exact absurd (hagrees.mpr (hall hpass)) (by simp)
      · cases hstill hpass
        exact iff_of_true rfl fun hpass' => absurd hpass' hpass

/-- The range behind the place is reached, and of the kind. -/
theorem outcome_next (h : Sound (left ++ next :: right)) (hkind : next.kind = addition.kind)
    (hstart : addition.window.lo ≤ next.piece.lo) (hreach : next.piece.lo ≤ addition.window.hi) :
    Outcome (left ++ next :: right) addition
      (.ok (), left ++
        ⟨x, (if next.finish < y then y else next.finish) - x, next.kind⟩ :: right) := by
  obtain ⟨hx, hy, hxw, hyw, hproper⟩ := hspans
  obtain ⟨valid, -, -, hbehind⟩ := h.split
  have hfin := toNat_rangeFinish valid
  have hend : Boundary (if next.finish < y then y else next.finish) ∧
      (if next.finish < y then y else next.finish).toNat =
        max addition.window.hi next.piece.hi := by
    split
    · next hlt =>
      rw [UInt64.lt_iff_toNat_lt, hfin, hyw] at hlt
      exact ⟨hy, by rw [max_eq_left hlt.le, hyw]⟩
    · next hle =>
      rw [UInt64.lt_iff_toNat_lt, hfin, hyw, not_lt] at hle
      exact ⟨boundary_finish valid, by rw [max_eq_right hle, hfin]⟩
  generalize (if next.finish < y then y else next.finish) = finish at hend ⊢
  obtain ⟨hboundary, hfin⟩ := hend
  obtain ⟨hnew, hpiece⟩ := range_between next.kind hx hboundary (by
    rw [hxw, hfin]
    exact hproper.trans_le (le_max_left _ _))
  rw [hxw, hfin] at hpiece
  refine outcome_put h ?_ hnew ?_ ?_ ?_
  · exact (List.sublist_cons_self _ _).append_left left
  · intro other hother
    rw [hpiece]
    exact Or.inl (hleft other hother)
  · intro a l
    have hlabel : addition.window.label = next.kind := hkind.symm
    have hmerge := labels_merge hstart hreach hlabel (a := a) (l := l)
    rw [hlabel] at hmerge
    rw [labels_put, labels_put, hpiece, hmerge, labels_cons]
    simp only [or_comm, or_left_comm]
  · rw [clear_first hleft (hstart.trans (piece_proper valid).le), if_neg (not_lt.mpr hstart), hpiece]
    by_cases hpass : next.piece.hi < addition.window.hi
    · rw [max_eq_left hpass.le, hkind]
      exact ⟨fun hall _ _ _ => hall, fun hall => hall hreach rfl hpass⟩
    · rw [max_eq_right (not_lt.mp hpass)]
      exact iff_of_true hbehind fun _ _ hpass' => absurd hpass' hpass

/-- No range is reached. -/
theorem outcome_apart (h : Sound (left ++ right))
    (hright : ∀ other ∈ right, addition.window.hi < other.piece.lo) :
    Outcome (left ++ right) addition (.ok (), left ++ ⟨x, y - x, addition.kind⟩ :: right) ∧
      Clear addition.window (pieces (left ++ right)) := by
  obtain ⟨hx, hy, hxw, hyw, hproper⟩ := hspans
  obtain ⟨hnew, hpiece⟩ := range_between addition.kind hx hy (by rw [hxw, hyw]; exact hproper)
  rw [hxw, hyw] at hpiece
  replace hpiece : BridgeRange.piece ⟨x, y - x, addition.kind⟩ = addition.window := hpiece
  have hclear : Clear addition.window (pieces (left ++ right)) := by
    cases right with
    | nil =>
        rw [Clear, List.dropWhile_eq_nil_iff.mpr (by simpa using hleft)]
        trivial
    | cons first rest =>
        have hfirst := hright first (by simp)
        rw [clear_first hleft (hproper.le.trans (hfirst.le.trans (piece_proper h.split.1).le))]
        exact fun hreach => absurd hreach (not_le.mpr hfirst)
  refine ⟨outcome_put h (List.Sublist.refl _) hnew ?_ ?_ (iff_of_true ?_ hclear), hclear⟩
  · intro other hother
    rw [hpiece]
    exact Or.inl (hleft other hother)
  · intro a l
    rw [labels_put, hpiece, pieces_append, labels_append, or_assoc,
      or_comm (a := Labels [addition.window] a l)]
  · intro other hother
    rw [hpiece]
    exact Or.inl (hright other hother)

omit hleft hspans

/-- **What a call does to a normal form.** -/
theorem bridgeRangeAdd_outcome (h : Sound set) (hpages : addition.pages = .ok (x, y)) :
    Outcome set addition (bridgeRangeAdd set addition) := by
  have hspans := pages_spans hpages
  have hxw := hspans.lo
  have hyw := hspans.hi
  have hplace : set = (set.takeWhile fun range => range.base < x) ++
      set.dropWhile fun range => range.base < x := List.takeWhile_append_dropWhile.symm
  have hbefore : ∀ range ∈ set.takeWhile fun range => range.base < x,
      range.piece.lo < addition.window.lo := by
    intro range hrange
    rw [← hxw]
    simpa [UInt64.lt_iff_toNat_lt, BridgeRange.piece] using List.mem_takeWhile_imp hrange
  have hafter : ∀ range ∈ (set.dropWhile fun range => range.base < x).head?,
      addition.window.lo ≤ range.piece.lo := by
    intro range hrange
    rw [← hxw]
    have hnot := List.head?_dropWhile_not (fun range : BridgeRange => decide (range.base < x)) set
    rw [hrange] at hnot
    simpa [UInt64.le_iff_toNat_le, BridgeRange.piece] using hnot
  simp only [bridgeRangeAdd, hpages]
  generalize (set.takeWhile fun range => range.base < x) = left at hplace hbefore ⊢
  generalize (set.dropWhile fun range => range.base < x) = right at hplace hafter ⊢
  subst hplace
  cases hprev : left.getLast?.filter fun previous => x ≤ previous.finish with
  | some previous =>
      obtain ⟨hlast, hreach⟩ := Option.filter_eq_some_iff.mp hprev
      obtain ⟨init, rfl⟩ := List.getLast?_eq_some_iff.mp hlast
      rw [List.append_assoc, List.singleton_append] at h ⊢
      obtain ⟨valid, -, hacross, -⟩ := h.split
      have hstart := hbefore previous (by simp)
      rw [decide_eq_true_eq, le_finish_iff valid, hxw] at hreach
      have hleft : ∀ other ∈ init, other.piece.hi < addition.window.lo := fun other hother =>
        (hacross other hother).le.trans_lt hstart
      simp only [List.dropLast_concat]
      split
      · next hkind => exact outcome_previous hleft hspans h hkind hstart hreach
      · next hkind =>
        exact iff_of_true rfl ((clear_first hleft hreach).mpr fun _ hsame => absurd hsame hkind)
  | none =>
      have hleft : ∀ other ∈ left, other.piece.hi < addition.window.lo := by
        rcases List.eq_nil_or_concat left with hnil | ⟨init, last, hconcat⟩
        · simp [hnil]
        · rw [List.concat_eq_append] at hconcat
          subst hconcat
          rw [List.append_assoc, List.singleton_append] at h
          obtain ⟨valid, -, hacross, -⟩ := h.split
          have hlast : last.piece.hi < addition.window.lo := by
            rw [← hxw, ← not_le, ← le_finish_iff valid]
            simpa using Option.filter_eq_none_iff.mp hprev last (by simp)
          intro other hother
          rcases List.mem_append.mp hother with hinit | hend
          · exact (hacross other hinit).le.trans_lt ((piece_proper valid).trans hlast)
          · rwa [List.mem_singleton.mp hend]
      cases hnext : right.head?.filter fun next => next.base ≤ y with
      | some next =>
          obtain ⟨hhead, hreach⟩ := Option.filter_eq_some_iff.mp hnext
          have hstart := hafter next hhead
          obtain ⟨rest, rfl⟩ := List.head?_eq_some_iff.mp hhead
          rw [decide_eq_true_eq, UInt64.le_iff_toNat_le, hyw] at hreach
          dsimp only [List.tail_cons]
          split
          · next hkind => exact outcome_next hleft hspans h hkind hstart hreach
          · next hkind =>
            refine iff_of_true rfl ((clear_first hleft ?_).mpr fun _ hsame => absurd hsame hkind)
            exact hstart.trans (piece_proper h.split.1).le
      | none =>
          have hright : ∀ other ∈ right, addition.window.hi < other.piece.lo := by
            cases right with
            | nil => simp
            | cons first rest =>
                have hfirst : addition.window.hi < first.piece.lo := by
                  have hnot := Option.filter_eq_none_iff.mp hnext first rfl
                  rw [decide_eq_true_eq, UInt64.le_iff_toNat_le, hyw] at hnot
                  exact not_le.mp hnot
                obtain ⟨valid, -, -, hbehind⟩ := h.split
                refine List.forall_mem_cons.mpr ⟨hfirst, fun other hother => ?_⟩
                exact hfirst.trans ((piece_proper valid).trans_le (hbehind other hother).le)
          obtain ⟨hput, hclear⟩ := outcome_apart hleft hspans h hright
          dsimp only
          split
          · exact iff_of_true rfl hclear
          · exact hput

end Call

/-! ### Runs -/

/-- The set is the normal form of the additions that succeeded. -/
structure Kept (session : Session) : Prop where
  sound : Sound session.ranges
  labels : ∀ a kind, Labels (pieces session.ranges) a kind ↔
    Labels (session.added.map Addition.window) a kind

theorem Sound.inOrderForBridge {ranges : List BridgeRange} (h : Sound ranges) :
    InOrderForBridge ranges := by
  intro hfew
  have horder : InOrder ranges :=
    (List.pairwise_map.mp h.canonical.apart).imp fun hbefore => hbefore.le
  exact @checkRanges_ok ∅ ⟨Numbering.start, none⟩ ranges Numbering.covers_start (by simp) h.valid
    (by simp) horder (by rwa [Finset.empty_union])

section Run

variable {session : Session} {additions : List Addition} {addition : Addition}

/-- One call of a run. -/
theorem Kept.call (h : Kept session) (addition : Addition) :
    (Lawful session addition ↔ Safe session addition) ∧
      (Safe session addition → Kept (session.add addition)) := by
  cases hpages : addition.pages with
  | error status =>
      simp only [Lawful, Session.add, bridgeRangeAdd, hpages]
      exact ⟨iff_of_true trivial (by simp [Safe, hpages]), fun _ => h⟩
  | ok window =>
      obtain ⟨x, y⟩ := window
      have houtcome := bridgeRangeAdd_outcome h.sound hpages
      have hsafe : Safe session addition ↔ Clear addition.window (pieces session.ranges) :=
        ⟨fun hclear => hclear _ hpages, fun hclear _ _ => hclear⟩
      rw [Lawful, Session.add, hsafe]
      generalize bridgeRangeAdd session.ranges addition = result at houtcome ⊢
      obtain ⟨status, ranges⟩ := result
      cases status with
      | error status =>
          refine ⟨houtcome, fun hclear => ?_⟩
          rw [houtcome.mpr hclear]
          exact h
      | ok =>
          obtain ⟨hvalid, hlabels, hcanon⟩ := houtcome
          have hall : ∀ a kind, Labels (pieces ranges) a kind ↔
              Labels ((session.added ++ [addition]).map Addition.window) a kind := by
            intro a kind
            rw [hlabels, h.labels, List.map_append, labels_append]
            rfl
          have hsound : Clear addition.window (pieces session.ranges) → Sound ranges :=
            fun hclear => ⟨hvalid, hcanon.mpr hclear⟩
          refine ⟨⟨fun hlawful => hcanon.mp hlawful.1, fun hclear => ?_⟩,
            fun hclear => ⟨hsound hclear, hall⟩⟩
          exact ⟨hcanon.mpr hclear, hall, (hsound hclear).inOrderForBridge⟩

theorem register_snoc : register (additions ++ [addition]) = (register additions).add addition :=
  List.foldl_append

theorem eachCall_snoc {P : Session → Addition → Prop} :
    EachCall P (additions ++ [addition]) ↔
      EachCall P additions ∧ P (register additions) addition := by
  constructor
  · intro h
    exact ⟨fun before call hpre => h before call (hpre.trans (List.prefix_append _ _)),
      h additions addition List.prefix_rfl⟩
  · rintro ⟨hall, hlast⟩ before call hpre
    rcases List.prefix_concat_iff.mp hpre with heq | hshorter
    · obtain ⟨rfl, hcall⟩ := List.append_inj' heq rfl
      cases hcall
      exact hlast
    · exact hall before call hshorter

/-- A run of safe calls. -/
theorem register_kept (h : EachCall Safe additions) : Kept (register additions) := by
  induction additions using List.reverseRecOn with
  | nil => exact ⟨⟨by simp [register], ⟨by simp [register, pieces], List.Pairwise.nil⟩⟩, by simp [register, pieces]⟩
  | append_singleton additions addition ih =>
      obtain ⟨hbefore, hlast⟩ := eachCall_snoc.mp h
      rw [register_snoc]
      exact ((ih hbefore).call addition).2 hlast

theorem eachCall_lawful_iff : EachCall Lawful additions ↔ EachCall Safe additions := by
  induction additions using List.reverseRecOn with
  | nil => simp [EachCall]
  | append_singleton additions addition ih =>
      rw [eachCall_snoc, eachCall_snoc, ih]
      exact and_congr_right fun hsafe => ((register_kept hsafe).call addition).1

/-- **Range sets are normal forms, in whatever order they are made, exactly if the calls are
safe.** -/
theorem orderFree_iff {others : List Addition} (hperm : additions.Perm others) :
    OrderFree additions others ↔ EachCall Safe additions ∧ EachCall Safe others := by
  constructor
  · intro h
    exact ⟨eachCall_lawful_iff.mp h.first, eachCall_lawful_iff.mp h.second⟩
  · rintro ⟨hfirst, hsnd⟩
    refine ⟨eachCall_lawful_iff.mpr hfirst, eachCall_lawful_iff.mpr hsnd, ?_⟩
    intro hall hothers
    have hkept := register_kept hfirst
    have hkept' := register_kept hsnd
    refine List.map_injective_iff.mpr piece_injective ?_
    refine hkept.sound.canonical.unique hkept'.sound.canonical fun a kind => ?_
    refine (hkept.labels a kind).trans (Iff.trans ?_ (hkept'.labels a kind).symm)
    rw [hall, hothers]
    exact labels_perm (hperm.map Addition.window)

end Run

namespace Bench

def page (n count : UInt64) (kind : BridgeMemoryKind) : Addition := ⟨n * 4096, count * 4096, kind⟩

theorem orderFree_pair :
    [page 1 1 .normal, page 3 1 .device].Perm [page 3 1 .device, page 1 1 .normal] ∧
      (OrderFree [page 1 1 .normal, page 3 1 .device] [page 3 1 .device, page 1 1 .normal] ↔
        EachCall Safe [page 1 1 .normal, page 3 1 .device] ∧
          EachCall Safe [page 3 1 .device, page 1 1 .normal]) :=
  ⟨.swap _ _ _, orderFree_iff (.swap _ _ _)⟩

/-- The last addition takes the first of two ranges and covers the second, and the bridge refuses
the set; with the other last addition the call fails and leaves two ranges that overlap. -/
theorem covered_and_grown :
    bridgeRangeAdd (register [page 2 1 .normal, page 4 1 .normal]).ranges (page 0 6 .normal) =
        (.ok (), [⟨0, 0x6000, .normal⟩, ⟨0x4000, 0x1000, .normal⟩]) ∧
      ¬ EachCall Lawful [page 2 1 .normal, page 4 1 .normal, page 0 6 .normal] ∧
      checkRange ⟨Numbering.start, some 0x6000⟩ ⟨0x4000, 0x1000, .normal⟩ = .error .invalidPayload ∧
      bridgeRangeAdd (register [page 0 1 .normal, page 2 1 .device]).ranges (page 1 2 .normal) =
        (.error .invalidPayload, [⟨0, 0x3000, .normal⟩, ⟨0x2000, 0x1000, .device⟩]) ∧
      ¬ EachCall Lawful [page 0 1 .normal, page 2 1 .device, page 1 2 .normal] := by
  have hok : bridgeRangeAdd (register [page 2 1 .normal, page 4 1 .normal]).ranges
      (page 0 6 .normal) = (.ok (), [⟨0, 0x6000, .normal⟩, ⟨0x4000, 0x1000, .normal⟩]) := rfl
  have herror : bridgeRangeAdd (register [page 0 1 .normal, page 2 1 .device]).ranges
      (page 1 2 .normal) =
        (.error .invalidPayload, [⟨0, 0x3000, .normal⟩, ⟨0x2000, 0x1000, .device⟩]) := rfl
  refine ⟨hok, ?_, rfl, herror, ?_⟩
  · intro h
    have hlast := h [page 2 1 .normal, page 4 1 .normal] (page 0 6 .normal) List.prefix_rfl
    rw [Lawful, hok] at hlast
    simpa [pieces, Piece.Before, BridgeRange.piece] using hlast.1.apart
  · intro h
    have hlast := h [page 0 1 .normal, page 2 1 .device] (page 1 2 .normal) List.prefix_rfl
    rw [Lawful, herror] at hlast
    cases hlast

end Bench

end Ribon.Aarch64
