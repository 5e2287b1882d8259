/-
What placing a payload does to memory.

The walk of the cursor finds every byte of a page in a descriptor that can be reclaimed.
The pages of the segments do not meet each other or the payload, so zeroing and copying one
segment leaves the others and the source as they are: in the end each page holds what its
own segment put there.
-/
import Mathlib.Data.List.Pairwise
import Mathlib.Data.UInt
import Ribon.Image.Formats
import Ribon.Uefi.PostExit

namespace Ribon

open Wire LoadSegment

/-- The bytes that a descriptor describes. -/
def EfiMemoryDescriptor.range (descriptor : EfiMemoryDescriptor) : Set Nat :=
  Set.Ico descriptor.physicalStart.toNat
    (descriptor.physicalStart.toNat + descriptor.numberOfPages.toNat * 4096)

/-- The bytes of the payload. -/
def PayloadBuffer.range (payload : PayloadBuffer) : Set Nat :=
  Set.Ico payload.data.toNat (payload.data.toNat + payload.size.toNat)

namespace LoadSegment

def pageStart (segment : LoadSegment) : Nat := segment.loadStart - segment.loadStart % 4096

def pageEnd (segment : LoadSegment) : Nat := (segment.loadEnd + 4095) / 4096 * 4096

/-- The pages that a segment is placed in. -/
def pages (segment : LoadSegment) : Set Nat := Set.Ico segment.pageStart segment.pageEnd

/-- The byte that a placed segment has at an address of its pages: its file, and zeros around. -/
def placedByte (segment : LoadSegment) (payload : PayloadBuffer) (memory : Memory)
    (address : Nat) : UInt8 :=
  if segment.loadStart ≤ address ∧ address < segment.loadStart + segment.fileSize.toNat then
    memory (payload.data.toNat + segment.fileOffset.toNat + (address - segment.loadStart))
  else 0

end LoadSegment

namespace Uefi

/-! ### The walk of the cursor -/

theorem descriptorEnd_eq_some {descriptor : EfiMemoryDescriptor} {finish : UInt64}
    (h : descriptorEnd descriptor = some finish) :
    finish.toNat = descriptor.physicalStart.toNat + descriptor.numberOfPages.toNat * 4096 := by
  unfold descriptorEnd at h
  split at h
  · cases h
  next hempty =>
  dsimp only at h
  split at h
  · cases h
  next hwrap =>
  cases h
  have hmax : u64Max.toNat = 2 ^ 64 - 1 := rfl
  have hpage : (4096 : UInt64).toNat = 4096 := rfl
  simp only [Bool.or_eq_true, beq_iff_eq, decide_eq_true_eq, not_or, UInt64.lt_iff_toNat_lt,
    UInt64.toNat_div, hmax, hpage] at hempty
  have hbytes : (descriptor.numberOfPages * 4096).toNat =
      descriptor.numberOfPages.toNat * 4096 := by
    rw [UInt64.toNat_mul, hpage, Nat.mod_eq_of_lt (by omega)]
  rw [u64Max_sub_lt_iff] at hwrap
  rw [toNat_add_of_lt, hbytes]

/-- A byte lies in memory that the firmware gives back. -/
def Reclaimable (descriptors : List EfiMemoryDescriptor) (address : Nat) : Prop :=
  ∃ descriptor ∈ descriptors, payloadDescriptorReclaimable descriptor.type = true ∧
    address ∈ descriptor.range

/-- **The cursor passes over reclaimable memory only.** -/
theorem reclaimable_of_payloadRangeReclaimable {descriptors : List EfiMemoryDescriptor}
    {cursor finish : UInt64} (h : payloadRangeReclaimable descriptors cursor finish = true)
    {address : Nat} (hstart : cursor.toNat ≤ address) (hend : address < finish.toNat) :
    Reclaimable descriptors address := by
  fun_induction payloadRangeReclaimable descriptors cursor finish with
  | case1 => cases h
  | case2 cursor hlt descriptor descriptorFinish hfound hreclaimable ih =>
      obtain ⟨hmem, hdescriptorEnd, hfirst, hbehind⟩ := descriptorAt_eq_some hfound
      have hnat := descriptorEnd_eq_some hdescriptorEnd
      rw [UInt64.le_iff_toNat_le] at hfirst
      -- the byte is in this descriptor, or the cursor goes on to it
      by_cases hhere : address < descriptorFinish.toNat
      · refine ⟨descriptor, hmem, hreclaimable, ?_⟩
        rw [EfiMemoryDescriptor.range, Set.mem_Ico]
        omega
      · refine ih h ?_
        by_cases hshort : descriptorFinish < finish
        · rw [dif_pos hshort]
          omega
        · rw [UInt64.lt_iff_toNat_lt] at hshort
          omega
  | case3 => cases h
  | case4 cursor hge =>
      rw [UInt64.lt_iff_toNat_lt] at hge
      omega

/-! ### The check of the segments -/

section Check

variable {context : UefiAppContext} {payload : PayloadBuffer}

/-- A segment that has passed. -/
structure SegmentChecked (context : UefiAppContext) (payload : PayloadBuffer)
    (segment : LoadSegment) : Prop where
  memory : 0 < segment.memorySize.toNat
  loadEnd : segment.loadEnd < 2 ^ 64
  virtualEnd : segment.virtualEnd < 2 ^ 64
  rounded : ∃ finish, memoryAlignUp (segment.loadAddress + segment.memorySize) 4096 = some finish
  file : segment.fileOffset.toNat + segment.fileSize.toNat ≤ payload.size.toNat
  room : segment.fileSize.toNat ≤ segment.memorySize.toNat
  source : Disjoint segment.pages payload.range
  reclaimable : ∀ address ∈ segment.pages, Reclaimable (descriptors context) address

theorem toNat_pageBase (segment : LoadSegment) :
    (memoryAlignDown segment.loadAddress 4096).toNat = segment.pageStart := by
  rw [toNat_memoryAlignDown _ (by decide)]
  rfl

/-- The rounded end is the end of the pages. -/
theorem toNat_pageEnd {segment : LoadSegment} (hroom : segment.loadEnd < 2 ^ 64) {finish : UInt64}
    (h : memoryAlignUp (segment.loadAddress + segment.memorySize) 4096 = some finish) :
    finish.toNat = segment.pageEnd := by
  rw [memoryAlignUp_eq_some h, toNat_add_of_lt hroom]
  rfl

theorem disjoint_Ico_of_not {a b c d : Nat} (h : ¬ (a < d ∧ c < b)) :
    Disjoint (Set.Ico a b) (Set.Ico c d) := by
  rw [Set.disjoint_left]
  intro address hleft hright
  rw [Set.mem_Ico] at hleft hright
  omega

/-- What the check of one segment says. -/
theorem checked_of_valid (hwrap : payload.data.toNat + payload.size.toNat < 2 ^ 64)
    {prior : List LoadSegment} {segment : LoadSegment}
    (h : postExitSegmentIsValid context payload prior segment = true) :
    SegmentChecked context payload segment ∧
      ∀ other ∈ prior, Disjoint segment.pages other.pages := by
  unfold postExitSegmentIsValid at h
  simp only [Bool.and_eq_true, bne_iff_ne, Bool.not_eq_true', decide_eq_false_iff_not,
    u64Max_sub_lt_iff, Nat.not_le] at h
  obtain ⟨⟨⟨hmemory, hload⟩, hvirt⟩, hrest⟩ := h
  split at hrest
  · cases hrest
  next finish hup =>
  simp only [Bool.and_eq_true, Bool.not_eq_true', decide_eq_true_eq, List.all_eq_true] at hrest
  obtain ⟨⟨⟨⟨⟨⟨_, hoff⟩, hfile⟩, hroom⟩, hsrc⟩, hreclaim⟩, hprior⟩ := hrest
  have hbase := toNat_pageBase segment
  have hfin := toNat_pageEnd hload hup
  have hsourceEnd := toNat_add_of_lt hwrap
  refine ⟨⟨ne_zero_iff.mp hmemory, hload, hvirt, ⟨_, hup⟩, ?_,
    UInt64.le_iff_toNat_le.mp hroom, ?_, ?_⟩, ?_⟩
  · rw [UInt64.le_iff_toNat_le] at hoff
    rw [UInt64.le_iff_toNat_le, toNat_sub_of_le hoff] at hfile
    omega
  · refine disjoint_Ico_of_not ?_
    simp only [Bool.and_eq_false_iff, decide_eq_false_iff_not, UInt64.lt_iff_toNat_lt, hbase,
      hfin, hsourceEnd] at hsrc
    omega
  · intro address haddr
    rw [pages, Set.mem_Ico] at haddr
    exact reclaimable_of_payloadRangeReclaimable hreclaim (by omega) (by omega)
  · intro other hmem
    have hother := hprior other hmem
    obtain ⟨hotherRoom, hotherEnd⟩ := hother
    rw [decide_eq_false_iff_not, Nat.not_le] at hotherRoom
    split at hotherEnd
    · cases hotherEnd
    next otherFinish hotherUp =>
    have hotherBase := toNat_pageBase other
    have hotherFinish := toNat_pageEnd hotherRoom hotherUp
    refine disjoint_Ico_of_not ?_
    simp only [Bool.not_eq_true', Bool.and_eq_false_iff, decide_eq_false_iff_not,
      UInt64.lt_iff_toNat_lt, hbase, hfin, hotherBase, hotherFinish] at hotherEnd
    omega

/-- What the check of all segments says. -/
theorem checked_of_segmentsValid (hwrap : payload.data.toNat + payload.size.toNat < 2 ^ 64)
    {prior segments : List LoadSegment}
    (h : postExitSegmentsAreValid context payload prior segments = true) :
    (∀ segment ∈ segments, SegmentChecked context payload segment) ∧
      (∀ other ∈ prior, ∀ segment ∈ segments, Disjoint segment.pages other.pages) ∧
      segments.Pairwise fun left right => Disjoint left.pages right.pages := by
  induction segments generalizing prior with
  | nil => simp
  | cons segment segments ih =>
      rw [postExitSegmentsAreValid, Bool.and_eq_true] at h
      obtain ⟨hchecked, hprior⟩ := checked_of_valid hwrap h.1
      obtain ⟨hall, hlater, hpairwise⟩ := ih h.2
      refine ⟨List.forall_mem_cons.mpr ⟨hchecked, hall⟩, ?_, ?_⟩
      · intro other hmem
        refine List.forall_mem_cons.mpr ⟨hprior other hmem, ?_⟩
        exact hlater other (by simp [hmem])
      · refine List.pairwise_cons.mpr ⟨?_, hpairwise⟩
        intro other hmem
        exact (hlater segment (by simp) other hmem).symm

end Check

/-! ### Segment after segment -/

section Place

variable {context : UefiAppContext} {payload : PayloadBuffer} {entryPoint : UInt64}

/-- The entry is in a segment that may be executed. -/
def Enters (entryPoint : UInt64) (segment : LoadSegment) : Prop :=
  segment.isExecutable = true ∧ entryPoint.toNat ∈ segment.virtualRange

/-- The address at which the entry is loaded with a segment. -/
def entryAddress (entryPoint : UInt64) (segment : LoadSegment) : Nat :=
  segment.loadStart + (entryPoint.toNat - segment.virtualStart)

/-- What has happened once these segments are placed. -/
structure PlacedSoFar (payload : PayloadBuffer) (entryPoint : UInt64) (memory : Memory)
    (done : List LoadSegment) (state : PlaceState) : Prop where
  bytes : ∀ segment ∈ done, ∀ address ∈ segment.pages,
    state.memory address = segment.placedByte payload memory address
  frame : ∀ address, (∀ segment ∈ done, address ∉ segment.pages) →
    state.memory address = memory address
  segments : state.segments = done.map fun segment =>
    { segment with runtimeAddress := segment.loadAddress }
  spans : Spans loadStart loadEnd done state.runtimeBase state.runtimeEnd
  entered : (∃ segment ∈ done, Enters entryPoint segment) → state.runtimeEntry.isSome = true
  entry : ∀ address, state.runtimeEntry = some address →
    ∃ segment ∈ done, Enters entryPoint segment ∧ address.toNat = entryAddress entryPoint segment

theorem placedSoFar_nil (memory : Memory) :
    PlacedSoFar payload entryPoint memory [] ⟨memory, [], u64Max, 0, none⟩ where
  bytes := by simp
  frame := by simp
  segments := rfl
  spans := spans_nil
  entered := by simp
  entry := by simp

theorem SegmentChecked.pageStart_le (segment : LoadSegment) :
    segment.pageStart ≤ segment.loadStart := Nat.sub_le _ _

theorem SegmentChecked.loadEnd_le (segment : LoadSegment) :
    segment.loadEnd ≤ segment.pageEnd := by
  unfold pageEnd
  omega

variable {segment : LoadSegment} {state : PlaceState}

/-- The memory that placing a segment leaves. -/
theorem placedMemory (h : SegmentChecked context payload segment)
    (hwrap : payload.data.toNat + payload.size.toNat < 2 ^ 64) {next : PlaceState}
    (hplace : placeSegment payload entryPoint state segment = some next) (address : Nat) :
    (address ∈ segment.pages →
      next.memory address = segment.placedByte payload state.memory address) ∧
    (address ∉ segment.pages → next.memory address = state.memory address) := by
  obtain ⟨finish, hup, hnext⟩ := Option.map_eq_some_iff.mp hplace
  have hbase := toNat_pageBase segment
  have hfin := toNat_pageEnd h.loadEnd hup
  have hbefore := SegmentChecked.pageStart_le segment
  have hbehind := SegmentChecked.loadEnd_le segment
  have hwhole : segment.loadEnd = segment.loadStart + segment.memorySize.toNat := rfl
  have hsize : (finish - memoryAlignDown segment.loadAddress 4096).toNat =
      segment.pageEnd - segment.pageStart := by
    rw [toNat_sub_of_le, hbase, hfin]
  have hsrc : (payload.data + segment.fileOffset).toNat =
      payload.data.toNat + segment.fileOffset.toNat := by
    have hfile := h.file
    exact toNat_add_of_lt
  have hfile := h.file
  have hfits := h.room
  cases hnext
  dsimp only
  have hstart : segment.loadAddress.toNat = segment.loadStart := rfl
  rw [add_sub_cancel, hsrc, hsize, hbase, hstart]
  unfold placedByte pages
  rw [Set.mem_Ico]
  by_cases hin : segment.loadStart ≤ address ∧
      address < segment.loadStart + segment.fileSize.toNat
  · rw [memcpy_of_mem hin, if_pos hin]
    refine ⟨fun _ => ?_, fun hout => absurd ⟨by omega, by omega⟩ hout⟩
    -- the source is not in the pages that were zeroed
    refine memset_of_not_mem fun hclear => ?_
    refine Set.disjoint_left.mp h.source (Set.mem_Ico.mpr ⟨hclear.1, by omega⟩) ?_
    rw [PayloadBuffer.range, Set.mem_Ico]
    omega
  · rw [memcpy_of_not_mem hin, if_neg hin]
    constructor
    · intro hpage
      exact memset_of_mem (by omega)
    · intro hpage
      exact memset_of_not_mem (by omega)

variable {memory : Memory}

/-- The source of a segment is as before while only pages of other segments have changed. -/
theorem PlacedSoFar.placedByte {done : List LoadSegment}
    (h : PlacedSoFar payload entryPoint memory done state)
    (hchecked : SegmentChecked context payload segment)
    (hsrc : ∀ other ∈ done, Disjoint other.pages payload.range) (address : Nat) :
    segment.placedByte payload state.memory address =
      segment.placedByte payload memory address := by
  unfold LoadSegment.placedByte
  by_cases hin : segment.loadStart ≤ address ∧
      address < segment.loadStart + segment.fileSize.toNat
  · rw [if_pos hin, if_pos hin]
    refine h.frame _ fun other hmem hpage => ?_
    refine Set.disjoint_left.mp (hsrc other hmem) hpage ?_
    have hfile := hchecked.file
    rw [PayloadBuffer.range, Set.mem_Ico]
    omega
  · rw [if_neg hin, if_neg hin]

/-- The condition of the loop, in numbers. -/
theorem enters_iff (hend : segment.virtualEnd < 2 ^ 64) :
    (decide (segment.virtualAddress ≤ entryPoint) &&
      decide (entryPoint < segment.virtualAddress + segment.memorySize) &&
      segment.flags &&& loadSegmentExecute != 0) = true ↔ Enters entryPoint segment := by
  have hsum : (segment.virtualAddress + segment.memorySize).toNat = segment.virtualEnd := by
    rw [UInt64.toNat_add]
    exact Nat.mod_eq_of_lt hend
  simp only [Bool.and_eq_true, decide_eq_true_eq, UInt64.le_iff_toNat_le, UInt64.lt_iff_toNat_lt,
    hsum, Enters, isExecutable, virtualRange, virtualStart,
    Set.mem_Ico]
  exact and_comm

theorem toNat_entryAddress (hload : segment.loadEnd < 2 ^ 64) (h : Enters entryPoint segment) :
    (segment.loadAddress + (entryPoint - segment.virtualAddress)).toNat =
      entryAddress entryPoint segment := by
  obtain ⟨-, hrange⟩ := h
  simp only [virtualRange, virtualStart, virtualEnd,
    Set.mem_Ico] at hrange
  unfold loadEnd at hload
  unfold entryAddress loadStart virtualStart
  rw [UInt64.toNat_add, toNat_sub_of_le hrange.1, Nat.mod_eq_of_lt (by omega)]

/-- One segment more. -/
theorem PlacedSoFar.step {done : List LoadSegment}
    (h : PlacedSoFar payload entryPoint memory done state)
    (hwrap : payload.data.toNat + payload.size.toNat < 2 ^ 64)
    (hchecked : SegmentChecked context payload segment)
    (hpages : ∀ other ∈ done, Disjoint other.pages segment.pages)
    (hsrc : ∀ other ∈ done, Disjoint other.pages payload.range) :
    ∃ next, placeSegment payload entryPoint state segment = some next ∧
      PlacedSoFar payload entryPoint memory (done ++ [segment]) next := by
  obtain ⟨finish, hup⟩ := hchecked.rounded
  cases hplace : placeSegment payload entryPoint state segment with
  | none =>
      rw [placeSegment, hup] at hplace
      cases hplace
  | some next =>
      have hmemory := placedMemory hchecked hwrap hplace
      rw [placeSegment, hup, add_sub_cancel] at hplace
      have hend : segment.loadEnd = (segment.loadAddress + segment.memorySize).toNat := by
        rw [UInt64.toNat_add]
        exact (Nat.mod_eq_of_lt hchecked.loadEnd).symm
      refine ⟨next, rfl, ?_, ?_, ?_, ?_, ?_, ?_⟩
      · intro other hother address haddr
        rcases List.mem_append.mp hother with hold | hnew
        · rw [(hmemory address).2 fun hhere =>
            Set.disjoint_left.mp (hpages other hold) haddr hhere]
          exact h.bytes other hold address haddr
        · rw [List.mem_singleton.mp hnew] at haddr ⊢
          rw [(hmemory address).1 haddr]
          exact h.placedByte hchecked hsrc address
      · intro address hout
        rw [(hmemory address).2 (hout segment (by simp))]
        exact h.frame address fun other hother => hout other (by simp [hother])
      · cases hplace
        simp [h.segments]
      · cases hplace
        exact h.spans.snoc rfl hend
      · rintro ⟨other, hother, henters⟩
        cases hplace
        dsimp only
        by_cases hhere : Enters entryPoint segment
        · rw [if_pos ((enters_iff hchecked.virtualEnd).mpr hhere)]
          rfl
        · rw [if_neg fun hpassed => hhere ((enters_iff hchecked.virtualEnd).mp hpassed)]
          rcases List.mem_append.mp hother with hold | hnew
          · exact h.entered ⟨other, hold, henters⟩
          · rw [List.mem_singleton.mp hnew] at henters
            exact absurd henters hhere
      · intro address haddr
        cases hplace
        dsimp only at haddr
        by_cases hhere : Enters entryPoint segment
        · rw [if_pos ((enters_iff hchecked.virtualEnd).mpr hhere)] at haddr
          cases haddr
          exact ⟨segment, by simp, hhere, toNat_entryAddress hchecked.loadEnd hhere⟩
        · rw [if_neg fun hpassed => hhere ((enters_iff hchecked.virtualEnd).mp hpassed)]
            at haddr
          obtain ⟨other, hother, hfound⟩ := h.entry address haddr
          exact ⟨other, by simp [hother], hfound⟩

/-- **The whole loop.**  Segments that have passed are all placed. -/
theorem placeSegments_spec (hwrap : payload.data.toNat + payload.size.toNat < 2 ^ 64)
    {done segments : List LoadSegment} (h : PlacedSoFar payload entryPoint memory done state)
    (hchecked : ∀ segment ∈ done ++ segments, SegmentChecked context payload segment)
    (hpages : (done ++ segments).Pairwise fun left right => Disjoint left.pages right.pages) :
    ∃ final, placeSegments payload entryPoint segments state = (final, true) ∧
      PlacedSoFar payload entryPoint memory (done ++ segments) final := by
  induction segments generalizing done state with
  | nil => exact ⟨state, rfl, by rwa [List.append_nil]⟩
  | cons segment segments ih =>
      obtain ⟨next, hnext, hstep⟩ := h.step hwrap (hchecked segment (by simp))
        (fun other hother => (List.pairwise_append.mp hpages).2.2 other hother segment (by simp))
        (fun other hother => (hchecked other (by simp [hother])).source)
      rw [List.append_cons] at hchecked hpages ⊢
      obtain ⟨final, hfinal, hall⟩ := ih hstep hchecked hpages
      refine ⟨final, ?_, hall⟩
      rw [placeSegments, hnext]
      exact hfinal

/-- What the check of the payload says. -/
theorem checked_of_payloadValid {layout : DirectLoadPlan}
    (h : postExitPayloadIsValid context payload layout = true) :
    layout.segments ≠ [] ∧ payload.data.toNat + payload.size.toNat < 2 ^ 64 ∧
      (∀ segment ∈ layout.segments, SegmentChecked context payload segment) ∧
      layout.segments.Pairwise fun left right => Disjoint left.pages right.pages := by
  unfold postExitPayloadIsValid at h
  simp only [Bool.and_eq_true, Bool.not_eq_true', decide_eq_false_iff_not, u64Max_sub_lt_iff,
    Nat.not_le] at h
  obtain ⟨⟨⟨⟨⟨⟨⟨⟨⟨_, hempty⟩, _⟩, _⟩, _⟩, _⟩, _⟩, _⟩, hwrap⟩, hsegs⟩ := h
  rw [Nat.add_comm] at hwrap
  obtain ⟨hchecked, -, hpages⟩ := checked_of_segmentsValid hwrap hsegs
  refine ⟨?_, hwrap, hchecked, hpages⟩
  intro hnil
  rw [hnil] at hempty
  cases hempty

theorem PlacedSoFar.bounds {segments : List LoadSegment}
    (h : PlacedSoFar payload entryPoint memory segments state) (hsegs : segments ≠ [])
    (hchecked : ∀ segment ∈ segments, SegmentChecked context payload segment) :
    IsLeast (loadStart '' {s | s ∈ segments}) state.runtimeBase.toNat ∧
      IsGreatest (loadEnd '' {s | s ∈ segments}) state.runtimeEnd.toNat := by
  exact h.spans.exact hsegs fun segment hmem =>
    ⟨Nat.lt_add_of_pos_right (hchecked segment hmem).memory, (hchecked segment hmem).loadEnd⟩

/-- **What a call does.**  A payload that passes is placed whole; only the entry can be missing. -/
theorem placePayloadAfterExit_valid {layout : DirectLoadPlan} (memory : Memory)
    (hboot : context.bootServices = false)
    (h : postExitPayloadIsValid context payload layout = true) :
    ∃ state, PlacedSoFar payload layout.entryPoint memory layout.segments state ∧
      placePayloadAfterExit context payload layout memory =
        if state.runtimeEntry.isNone then
          ⟨.error .payloadError, placedLayout layout state, state.memory⟩
        else
          ⟨.ok (), { placedLayout layout state with
            runtimeLoadBase := state.runtimeBase
            runtimeLoadEnd := state.runtimeEnd
            memorySize := state.runtimeEnd - state.runtimeBase
            loadPlanFlags := (placedLayout layout state).loadPlanFlags |||
              (loadPlanSegmentsPlaced ||| loadPlanRuntimeEntryValid) }, state.memory⟩ := by
  obtain ⟨hsegs, hwrap, hchecked, hpages⟩ := checked_of_payloadValid h
  have hstart := @placedSoFar_nil payload layout.entryPoint memory
  obtain ⟨state, hrun, hplaced⟩ := placeSegments_spec hwrap hstart hchecked hpages
  rw [List.nil_append] at hplaced
  refine ⟨state, hplaced, ?_⟩
  obtain ⟨hbase, hend⟩ := hplaced.bounds hsegs hchecked
  have hroom : decide (state.runtimeEnd ≤ state.runtimeBase) = false := by
    obtain ⟨segment, hmem⟩ := List.exists_mem_of_ne_nil _ hsegs
    have hlow := hbase.2 ⟨segment, hmem, rfl⟩
    have hhigh := hend.2 ⟨segment, hmem, rfl⟩
    have hmemory := (hchecked segment hmem).memory
    unfold loadStart at hlow
    unfold loadEnd at hhigh
    rw [decide_eq_false_iff_not, UInt64.le_iff_toNat_le]
    omega
  unfold placePayloadAfterExit
  rw [hboot, h, hrun]
  simp only [Bool.not_true, Bool.or_false, Bool.false_eq_true, if_false, hroom]

end Place

/-! ### Leaving the firmware -/

theorem withMap_withMap (context : UefiAppContext) (first second : MapCapture) :
    withMap (withMap context first) second = withMap context second := rfl

/-- The callback finds the map of the attempt that left the firmware. -/
theorem exitLoop_eq_ok {postExit : UefiAppContext → Int} {attempts : List ExitAttempt}
    {context final : UefiAppContext} (h : exitLoop postExit attempts context = .ok final) :
    ∃ attempt ∈ attempts, ∃ capture, attempt.captured = .ok capture ∧ attempt.refresh = 0 ∧
      efiError attempt.exitStatus = false ∧
      final = { withMap context capture with bootServices := false } := by
  induction attempts generalizing context with
  | nil => cases h
  | cons attempt attempts ih =>
      unfold exitLoop at h
      split at h
      · cases h
      next capture hcap =>
      split at h
      · cases h
      split at h
      · cases h
      next hrefresh =>
      split at h
      next hleft =>
        dsimp only at h
        split at h
        · cases h
        cases h
        exact ⟨attempt, by simp, capture, hcap, by simpa using hrefresh,
          by simpa using hleft, rfl⟩
      split at h
      · cases h
      -- the next attempt captures the map again
      obtain ⟨later, hmem, found, hfound, hrest⟩ := ih h
      rw [withMap_withMap] at hrest
      exact ⟨later, by simp [hmem], found, hfound, hrest⟩

/-! ### The whole of it -/

/-- A payload that has been placed safely. -/
structure SafelyPlaced (context : UefiAppContext) (payload : PayloadBuffer)
    (layout : DirectLoadPlan) (memory : Memory) (placement : Placement) : Prop where
  reclaimable : ∀ segment ∈ layout.segments, ∀ address ∈ segment.pages,
    Reclaimable (descriptors context) address ∧
      ∀ descriptor ∈ descriptors context, address ∈ descriptor.range →
        payloadDescriptorReclaimable descriptor.type = true
  source : ∀ segment ∈ layout.segments, Disjoint segment.pages payload.range
  bytes : ∀ segment ∈ layout.segments, ∀ address ∈ segment.pages,
    placement.memory address = segment.placedByte payload memory address
  frame : ∀ address, (∀ segment ∈ layout.segments, address ∉ segment.pages) →
    placement.memory address = memory address
  runtimeLoadBase : IsLeast (loadStart '' {s | s ∈ layout.segments})
    placement.layout.runtimeLoadBase.toNat
  runtimeLoadEnd : IsGreatest (loadEnd '' {s | s ∈ layout.segments})
    placement.layout.runtimeLoadEnd.toNat

section Whole

variable {context : UefiAppContext} {payload : PayloadBuffer} {layout : DirectLoadPlan}
  {memory : Memory}

/-- Of ranges that do not overlap, only one has an address. -/
theorem eq_of_mem_ranges {α : Type} {list : List α} {range : α → Set Nat}
    (hdisj : list.Pairwise fun left right => Disjoint (range left) (range right))
    {left right : α} (hleft : left ∈ list) (hright : right ∈ list) {address : Nat}
    (hinLeft : address ∈ range left) (hinRight : address ∈ range right) : left = right := by
  by_contra hne
  exact Set.disjoint_left.mp (hdisj.forall hleft hright hne) hinLeft hinRight

theorem placePayloadAfterExit_rejects
    (h : (context.bootServices || !postExitPayloadIsValid context payload layout) = true) :
    placePayloadAfterExit context payload layout memory = ⟨.error .badArgument, layout, memory⟩ := by
  unfold placePayloadAfterExit
  rw [if_pos h]

/-- A call that did not reject the plan found it valid. -/
theorem not_rejected
    (h : ¬ (context.bootServices || !postExitPayloadIsValid context payload layout) = true) :
    context.bootServices = false ∧ postExitPayloadIsValid context payload layout = true := by
  simpa using h

theorem safelyPlaced_of_ok
    (hmap : (descriptors context).Pairwise fun left right => Disjoint left.range right.range)
    (h : (placePayloadAfterExit context payload layout memory).status = .ok ()) :
    SafelyPlaced context payload layout memory
      (placePayloadAfterExit context payload layout memory) := by
  by_cases hrejected :
      (context.bootServices || !postExitPayloadIsValid context payload layout) = true
  · rw [placePayloadAfterExit_rejects hrejected] at h
    cases h
  obtain ⟨hboot, hvalid⟩ := not_rejected hrejected
  obtain ⟨hsegs, hwrap, hchecked, hpages⟩ := checked_of_payloadValid hvalid
  obtain ⟨state, hplaced, hcall⟩ := placePayloadAfterExit_valid memory hboot hvalid
  obtain ⟨hbase, hend⟩ := hplaced.bounds hsegs hchecked
  by_cases hnone : state.runtimeEntry.isNone = true
  · rw [hcall, if_pos hnone] at h
    cases h
  rw [hcall, if_neg hnone]
  refine ⟨?_, fun segment hmem => (hchecked segment hmem).source, hplaced.bytes, hplaced.frame,
    hbase, hend⟩
  intro segment hmem address haddr
  have hreclaimable := (hchecked segment hmem).reclaimable address haddr
  refine ⟨hreclaimable, ?_⟩
  intro descriptor hdesc hin
  obtain ⟨found, hfound, htype, hcovers⟩ := hreclaimable
  rw [← eq_of_mem_ranges hmap hfound hdesc hcovers hin]
  exact htype

/-- An analyzed plan that is valid is placed, with the entry where the parser saw it. -/
theorem placed_of_valid {image : PayloadImage} {out : DirectLoadPlan} {validated : ValidatedImage}
    (hanalyzed : Analyzed image out validated layout)
    (hvirt : layout.segments.Pairwise fun left right =>
      Disjoint left.virtualRange right.virtualRange)
    (hboot : context.bootServices = false)
    (hvalid : postExitPayloadIsValid context payload layout = true) :
    (placePayloadAfterExit context payload layout memory).status = .ok () ∧
      (placePayloadAfterExit context payload layout memory).layout.runtimeEntryAddress =
        layout.entryLoadAddress := by
  obtain ⟨segment, hmem, hexec, hin, hentry⟩ := hanalyzed.soundPlan.entry
  obtain ⟨state, hplaced, hcall⟩ := placePayloadAfterExit_valid memory hboot hvalid
  have hsome := hplaced.entered ⟨segment, hmem, hexec, hin⟩
  obtain ⟨address, haddr⟩ := Option.isSome_iff_exists.mp hsome
  -- no other segment has the entry
  obtain ⟨other, hother, ⟨_, hinOther⟩, hvalue⟩ := hplaced.entry address haddr
  have hsame := eq_of_mem_ranges hvirt hother hmem hinOther hin
  rw [hcall, if_neg (by simp [haddr])]
  refine ⟨rfl, ?_⟩
  change state.runtimeEntry.getD layout.runtimeEntryAddress = layout.entryLoadAddress
  rw [haddr, Option.getD_some, ← UInt64.toNat_inj, hvalue, hsame, hentry]
  rfl

/-- The check of the segments does not ask for boot services. -/
theorem postExitSegmentsAreValid_left (context : UefiAppContext) (prior segments : List LoadSegment) :
    postExitSegmentsAreValid { context with bootServices := false } payload prior segments =
      postExitSegmentsAreValid context payload prior segments := by
  induction segments generalizing prior with
  | nil => rfl
  | cons segment segments ih =>
      rw [postExitSegmentsAreValid, postExitSegmentsAreValid, ih]
      rfl

/-- The check before the exit is the check after it. -/
theorem valid_of_validated {before : UefiAppContext} {capture : MapCapture}
    (h : validatePostExitPayload (withMap before capture) payload layout = .ok ()) :
    postExitPayloadIsValid { withMap before capture with bootServices := false } payload layout =
      true := by
  simp only [validatePostExitPayload, bind_eq_ok, refuse_eq_ok, exists_const] at h
  obtain ⟨-, hvalid⟩ := h
  rw [Bool.not_eq_false'] at hvalid
  unfold postExitPayloadIsValid at hvalid ⊢
  rw [postExitSegmentsAreValid_left]
  exact hvalid

/-- **Placement is safe and does not fail late.**  What it reports placed lies in memory that the
firmware gives back, off the source, with the bytes of the file between zeros, and nothing else is
changed; what it rejects changes nothing; and an analyzed plan that passed on the map with which
the firmware was left is placed.  A callback that answers zero lets the exit return the context
that it finds. -/
theorem placePayloadAfterExit_safe (context : UefiAppContext) (payload : PayloadBuffer)
    (layout : DirectLoadPlan) (memory : Memory) :
    ((descriptors context).Pairwise (fun left right => Disjoint left.range right.range) →
      (placePayloadAfterExit context payload layout memory).status = .ok () →
      SafelyPlaced context payload layout memory
        (placePayloadAfterExit context payload layout memory)) ∧
    ((context.bootServices = true ∨ postExitPayloadIsValid context payload layout = false) →
      placePayloadAfterExit context payload layout memory =
        ⟨.error .badArgument, layout, memory⟩) ∧
    ((placePayloadAfterExit context payload layout memory).status = .error .badArgument →
      (placePayloadAfterExit context payload layout memory).memory = memory) ∧
    (∀ image out validated, Analyzed image out validated layout →
      layout.segments.Pairwise (fun left right =>
        Disjoint left.virtualRange right.virtualRange) →
      ∀ before attempts, exitBootServices before attempts (fun _ => 0) = .ok context →
      ∃ attempt ∈ attempts.take exitAttempts, ∃ capture, attempt.captured = .ok capture ∧
        attempt.refresh = 0 ∧ efiError attempt.exitStatus = false ∧
        context = { withMap before capture with bootServices := false } ∧
        (validatePostExitPayload (withMap before capture) payload layout = .ok () →
          (placePayloadAfterExit context payload layout memory).status = .ok () ∧
          (placePayloadAfterExit context payload layout memory).layout.runtimeEntryAddress =
            layout.entryLoadAddress)) := by
  refine ⟨safelyPlaced_of_ok, ?_, ?_, ?_⟩
  · intro h
    exact placePayloadAfterExit_rejects (by simpa using h)
  · intro h
    by_cases hrejected :
        (context.bootServices || !postExitPayloadIsValid context payload layout) = true
    · rw [placePayloadAfterExit_rejects hrejected]
    obtain ⟨hboot, hvalid⟩ := not_rejected hrejected
    obtain ⟨state, -, hcall⟩ := placePayloadAfterExit_valid memory hboot hvalid
    rw [hcall] at h
    split at h
    · cases h
    · cases h
  · intro image out validated hanalyzed hvirt before attempts hexit
    unfold exitBootServices at hexit
    split at hexit
    · cases hexit
    obtain ⟨attempt, hmem, capture, hcap, hrefresh, hleft, hfinal⟩ := exitLoop_eq_ok hexit
    refine ⟨attempt, hmem, capture, hcap, hrefresh, hleft, hfinal, ?_⟩
    intro hvalidated
    have hvalid := valid_of_validated hvalidated
    rw [← hfinal] at hvalid
    exact placed_of_valid hanalyzed hvirt (by rw [hfinal]) hvalid

end Whole

namespace Bench

def context : UefiAppContext where
  bootServices := false
  rawMemoryMap := some fun _ => ⟨efiConventionalMemory, 0x100000, 0x200⟩
  rawMemoryMapCapacity := 4096
  rawMemoryMapSize := 48
  descriptorSize := 48

def payload : PayloadBuffer := ⟨0x400000, 176⟩

-- the image with two segments is placed, and its entry is where it is loaded
example : (Elf64.analyze Elf64.Bench.twoSegments Elf64.Bench.out).toOption.map (fun result =>
    let placement := placePayloadAfterExit context payload result.2 fun _ => 1
    (placement.status.isOk, placement.layout.runtimeEntryAddress, placement.memory 0x100fff,
      placement.memory 0x101000)) = some (true, 0x100010, 0, 1) := by
  decide +kernel

end Bench

end Uefi

end Ribon
