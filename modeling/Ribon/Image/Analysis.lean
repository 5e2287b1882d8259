/-
What a parser promises of a direct load plan.

Every segment takes its bytes from the image and has room for them, the segments lie
in memory side by side, the bounds of the plan are those of the segments, and the
entry is in a segment that may be executed.  The parsers go through a table and add
segment after segment; `Placed` is what they keep on the way.
-/
import Ribon.Image.Plan
import Ribon.Wire.Bounds

namespace Ribon

open Wire

namespace LoadSegment

def loadStart (segment : LoadSegment) : Nat := segment.loadAddress.toNat

def loadEnd (segment : LoadSegment) : Nat :=
  segment.loadAddress.toNat + segment.memorySize.toNat

def virtualStart (segment : LoadSegment) : Nat := segment.virtualAddress.toNat

def virtualEnd (segment : LoadSegment) : Nat :=
  segment.virtualAddress.toNat + segment.memorySize.toNat

/-- The addresses in memory that a segment takes. -/
def loadRange (segment : LoadSegment) : Set Nat := Set.Ico segment.loadStart segment.loadEnd

/-- The addresses that it is linked to. -/
def virtualRange (segment : LoadSegment) : Set Nat :=
  Set.Ico segment.virtualStart segment.virtualEnd

def isExecutable (segment : LoadSegment) : Bool := segment.flags &&& loadSegmentExecute != 0

end LoadSegment

/-- The entry is in an executable segment, at the offset at which it is loaded. -/
def EntersAt (segments : List LoadSegment) (entryPoint entryLoadAddress : UInt64) : Prop :=
  ∃ segment ∈ segments, segment.isExecutable = true ∧
    entryPoint.toNat ∈ segment.virtualRange ∧
    entryLoadAddress.toNat = segment.loadStart + (entryPoint.toNat - segment.virtualStart)

theorem EntersAt.snoc {segments : List LoadSegment} {entryPoint entryLoadAddress : UInt64}
    (h : EntersAt segments entryPoint entryLoadAddress) (segment : LoadSegment) :
    EntersAt (segments ++ [segment]) entryPoint entryLoadAddress := by
  obtain ⟨found, hmem, hfound⟩ := h
  exact ⟨found, by simp [hmem], hfound⟩

/-- A plan that a loader can follow, for an image of that size. -/
structure SoundPlan (size : UInt64) (plan : DirectLoadPlan) : Prop where
  file : ∀ segment ∈ plan.segments,
    segment.fileOffset.toNat + segment.fileSize.toNat ≤ size.toNat ∧
      segment.fileSize ≤ segment.memorySize
  wrap : ∀ segment ∈ plan.segments, segment.loadEnd < 2 ^ 64
  disjoint : plan.segments.Pairwise fun left right => Disjoint left.loadRange right.loadRange
  loadBase : IsLeast (LoadSegment.loadStart '' {s | s ∈ plan.segments}) plan.loadBase.toNat
  loadEnd : IsGreatest (LoadSegment.loadEnd '' {s | s ∈ plan.segments}) plan.loadEnd.toNat
  linkedVirtualBase :
    IsLeast (LoadSegment.virtualStart '' {s | s ∈ plan.segments}) plan.linkedVirtualBase.toNat
  linkedVirtualEnd :
    IsGreatest (LoadSegment.virtualEnd '' {s | s ∈ plan.segments}) plan.linkedVirtualEnd.toNat
  entry : EntersAt plan.segments plan.entryPoint plan.entryLoadAddress

/-! ### Segment after segment -/

/-- A segment by itself. -/
structure SegmentFits (size : UInt64) (segment : LoadSegment) : Prop where
  file : segment.fileOffset.toNat + segment.fileSize.toNat ≤ size.toNat
  room : segment.fileSize ≤ segment.memorySize
  memory : 0 < segment.memorySize.toNat
  loadEnd : segment.loadEnd < 2 ^ 64
  virtualEnd : segment.virtualEnd < 2 ^ 64
  runtime : segment.runtimeAddress = segment.loadAddress

/-- The segments so far. -/
structure Placed (size : UInt64) (segments : List LoadSegment) : Prop where
  fits : ∀ segment ∈ segments, SegmentFits size segment
  disjoint : segments.Pairwise fun left right => Disjoint left.loadRange right.loadRange

theorem placed_nil (size : UInt64) : Placed size [] :=
  ⟨by simp, .nil⟩

theorem Placed.snoc {size : UInt64} {segments : List LoadSegment} (h : Placed size segments)
    {segment : LoadSegment} (hfits : SegmentFits size segment)
    (hdisj : ∀ previous ∈ segments, Disjoint previous.loadRange segment.loadRange) :
    Placed size (segments ++ [segment]) := by
  constructor
  · exact List.forall_mem_append.mpr ⟨h.fits, List.forall_mem_singleton.mpr hfits⟩
  · rw [List.pairwise_append]
    exact ⟨h.disjoint, List.pairwise_singleton _ _, fun previous hprev =>
      List.forall_mem_singleton.mpr (hdisj previous hprev)⟩

/-- Two ranges that the check of the parsers lets pass. -/
theorem disjoint_loadRange {previous segment : LoadSegment} {previousEnd segmentEnd : UInt64}
    (hprev : addU64 previous.loadAddress previous.memorySize = some previousEnd)
    (hseg : addU64 segment.loadAddress segment.memorySize = some segmentEnd)
    (h : (decide (previous.loadAddress < segmentEnd) &&
      decide (segment.loadAddress < previousEnd)) = false) :
    Disjoint previous.loadRange segment.loadRange := by
  have hprev := addU64_eq_some hprev
  have hseg := addU64_eq_some hseg
  simp only [Bool.and_eq_false_iff, decide_eq_false_iff_not, UInt64.not_lt,
    UInt64.le_iff_toNat_le] at h
  rw [Set.disjoint_left]
  intro address hleft hright
  simp only [LoadSegment.loadRange, LoadSegment.loadStart, LoadSegment.loadEnd, Set.mem_Ico]
    at hleft hright
  omega

/-- The plan at the end of the table. -/
theorem Placed.sound {size : UInt64} {plan : DirectLoadPlan} (h : Placed size plan.segments)
    (hload : Spans LoadSegment.loadStart LoadSegment.loadEnd plan.segments plan.loadBase
      plan.loadEnd)
    (hlinked : Spans LoadSegment.virtualStart LoadSegment.virtualEnd plan.segments
      plan.linkedVirtualBase plan.linkedVirtualEnd)
    (hentry : EntersAt plan.segments plan.entryPoint plan.entryLoadAddress) :
    SoundPlan size plan := by
  have hsegs : plan.segments ≠ [] := by
    obtain ⟨segment, hmem, _⟩ := hentry
    exact List.ne_nil_of_mem hmem
  have hloaded := hload.exact hsegs fun s hs =>
    ⟨Nat.lt_add_of_pos_right (h.fits s hs).memory, (h.fits s hs).loadEnd⟩
  have hvirt := hlinked.exact hsegs fun s hs =>
    ⟨Nat.lt_add_of_pos_right (h.fits s hs).memory, (h.fits s hs).virtualEnd⟩
  exact {
    file := fun s hs => ⟨(h.fits s hs).file, (h.fits s hs).room⟩
    wrap := fun s hs => (h.fits s hs).loadEnd
    disjoint := h.disjoint
    loadBase := hloaded.1
    loadEnd := hloaded.2
    linkedVirtualBase := hvirt.1
    linkedVirtualEnd := hvirt.2
    entry := hentry }

end Ribon
