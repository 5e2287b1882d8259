/-
Which memory a direct handoff protects.

A tree that was built names the hull of all segments as the kernel, and its reserve map covers
what it should and nothing else.  But the World is compared with each segment and the buffer only
with the World, so the hull need not be apart from either: it is when no segment is on the other
side of them.
-/
import Ribon.Luca.DirectProtocol
import Ribon.Luca.Published

namespace Ribon.Luca

open Wire

/-- The bytes of a span. -/
def span (base size : UInt64) : Set Nat := Set.Ico base.toNat (base.toNat + size.toNat)

def segmentStart (segment : LoadSegment) : Nat := (segmentBase segment).toNat

def segmentEnd (segment : LoadSegment) : Nat :=
  (segmentBase segment).toNat + segment.memorySize.toNat

def runtimeWindow : Set Nat := Set.Ico runtimeRamStart.toNat runtimeRamEnd.toNat

/-- All segments are on one side of a range. -/
def Apart (segments : List LoadSegment) (base size : UInt64) : Prop :=
  (∀ segment ∈ segments, base.toNat + size.toNat ≤ segmentStart segment) ∨
    ∀ segment ∈ segments, segmentEnd segment ≤ base.toNat

/-! ### Ranges -/

theorem disjoint_of_not_overlap {lhsBase lhsSize rhsBase rhsSize : UInt64}
    (h : directRangesOverlap lhsBase lhsSize rhsBase rhsSize = false) :
    Disjoint (span lhsBase lhsSize) (span rhsBase rhsSize) := by
  simp only [directRangesOverlap, Bool.or_eq_false_iff, Bool.and_eq_false_iff,
    decide_eq_false_iff_not, u64Max_sub_lt_iff, Nat.not_le] at h
  obtain ⟨⟨⟨_, hlhs⟩, hrhs⟩, hapart⟩ := h
  rw [UInt64.lt_iff_toNat_lt, UInt64.lt_iff_toNat_lt, toNat_add_of_lt hlhs, toNat_add_of_lt hrhs]
    at hapart
  rw [Set.disjoint_left]
  intro address hleft hright
  unfold span at hleft hright
  rw [Set.mem_Ico] at hleft hright
  omega

theorem subset_window_of_valid {base size : UInt64}
    (h : directFdtRuntimeSpanValid base size = true) : span base size ⊆ runtimeWindow := by
  simp only [directFdtRuntimeSpanValid, Bool.and_eq_true, decide_eq_true_eq,
    UInt64.le_iff_toNat_le, UInt64.lt_iff_toNat_lt] at h
  obtain ⟨⟨⟨_, hstart⟩, hend⟩, hsize⟩ := h
  rw [toNat_sub_of_le] at hsize
  intro address haddr
  unfold span at haddr
  rw [Set.mem_Ico] at haddr
  rw [runtimeWindow, Set.mem_Ico]
  omega

/-! ### The hull of the segments -/

/-- What the loop over the segments has checked. -/
structure SegmentApart (world : BootModule) (segment : LoadSegment) : Prop where
  memory : 0 < segment.memorySize.toNat
  finish : segmentEnd segment < 2 ^ 64
  world : Disjoint (span (segmentBase segment) segment.memorySize)
    (span world.physicalAddress world.size)

theorem addSegment_eq_ok {world : BootModule} {state next : UInt64 × UInt64}
    {segment : LoadSegment} (h : addSegment world state segment = .ok next) :
    SegmentApart world segment ∧
      next = (lower state.1 (segmentBase segment),
        raise state.2 (segmentBase segment + segment.memorySize)) := by
  simp only [addSegment, bind_eq_ok, refuse_eq_ok, pure_eq_ok, exists_const] at h
  obtain ⟨hchecks, hnext⟩ := h
  simp only [Bool.or_eq_false_iff, beq_eq_false_iff_ne, decide_eq_false_iff_not,
    u64Max_sub_lt_iff, Nat.not_le] at hchecks
  obtain ⟨⟨hmemory, hroom⟩, hoverlap⟩ := hchecks
  exact ⟨⟨ne_zero_iff.mp hmemory, hroom, disjoint_of_not_overlap hoverlap⟩, hnext.symm⟩

variable {segments : List LoadSegment}

/-- The loop: what it has checked, and the bounds that it has found. -/
theorem foldlM_addSegment {world : BootModule} {done : List LoadSegment}
    {state final : UInt64 × UInt64} (hstart : Spans segmentStart segmentEnd done state.1 state.2)
    (h : segments.foldlM (addSegment world) state = .ok final) :
    (∀ segment ∈ segments, SegmentApart world segment) ∧
      Spans segmentStart segmentEnd (done ++ segments) final.1 final.2 := by
  induction segments generalizing done state with
  | nil =>
      simp only [List.foldlM_nil, pure_eq_ok] at h
      rw [← h, List.append_nil]
      exact ⟨by simp, hstart⟩
  | cons segment segments ih =>
      simp only [List.foldlM_cons, bind_eq_ok] at h
      obtain ⟨next, hfirst, hrest⟩ := h
      obtain ⟨hseg, hnext⟩ := addSegment_eq_ok hfirst
      have hend : segmentEnd segment = (segmentBase segment + segment.memorySize).toNat := by
        rw [UInt64.toNat_add]
        exact (Nat.mod_eq_of_lt hseg.finish).symm
      have hspans : Spans segmentStart segmentEnd (done ++ [segment]) _ _ := hstart.snoc rfl hend
      rw [hnext] at hrest
      obtain ⟨hall, hbnds⟩ := ih hspans hrest
      rw [List.append_cons]
      exact ⟨List.forall_mem_cons.mpr ⟨hseg, hall⟩, hbnds⟩

/-- **The hull is apart from a range** just if all segments are on one side of it. -/
theorem disjoint_hull_iff {start finish : Nat}
    (hleast : IsLeast (segmentStart '' {s | s ∈ segments}) start)
    (hgreatest : IsGreatest (segmentEnd '' {s | s ∈ segments}) finish) (hhull : start < finish)
    {base size : UInt64} (hsize : 0 < size.toNat) :
    Disjoint (Set.Ico start finish) (span base size) ↔ Apart segments base size := by
  have hbelow : base.toNat + size.toNat ≤ start ↔
      ∀ segment ∈ segments, base.toNat + size.toNat ≤ segmentStart segment := by
    rw [le_isGLB_iff hleast.isGLB, mem_lowerBounds]
    exact Set.forall_mem_image
  have habove : finish ≤ base.toNat ↔ ∀ segment ∈ segments, segmentEnd segment ≤ base.toNat := by
    rw [isLUB_le_iff hgreatest.isLUB, mem_upperBounds]
    exact Set.forall_mem_image
  unfold Apart span
  rw [← hbelow, ← habove, Set.Ico_disjoint_Ico]
  omega

/-! ### The handoff -/

/-- What a handoff protects, for the kernel span that is published. -/
structure Protects (plan : DirectPlan) (world : BootModule) (memoryMap : MutableMemoryMap)
    (buffer capacity kernelStart kernelEnd : UInt64) (source ranges : List MemoryRegion) :
    Prop where
  kernelWorld : Disjoint (Set.Ico kernelStart.toNat kernelEnd.toNat)
    (span world.physicalAddress world.size)
  kernelBuffer : Disjoint (Set.Ico kernelStart.toNat kernelEnd.toNat) (span buffer capacity)
  worldBuffer : Disjoint (span world.physicalAddress world.size) (span buffer capacity)
  kernelWindow : Set.Ico kernelStart.toNat kernelEnd.toNat ⊆ runtimeWindow
  worldWindow : span world.physicalAddress world.size ⊆ runtimeWindow
  segments : ∀ segment ∈ plan.kernelLoadSegments,
    span (segmentBase segment) segment.memorySize ⊆ Set.Ico kernelStart.toNat kernelEnd.toNat
  entry : plan.kernelRuntimeEntryAddress.toNat ∈ Set.Ico kernelStart.toNat kernelEnd.toNat
  reserveMap : covered ranges = Set.Ico kernelStart.toNat kernelEnd.toNat ∪
    span world.physicalAddress world.size ∪ span buffer capacity ∪ covered source ∪
    covered (memoryMap.regions.filter isFirmwareReserved)

/-- What is in the tree of a handoff. -/
structure Published (plan : DirectPlan) (environment : DirectEnvironment) (bytes : List UInt8)
    (world : BootModule) (kernelStart kernelEnd : UInt64) (source ranges : List MemoryRegion) :
    Prop where
  onlyWorld : environment.bootModules = [world]
  sourceMap : ∃ tree, environment.deviceTree = some tree ∧ reserveMap tree.data = some source
  newMap : reserveMap bytes = some ranges
  chosen : ∃ addressCells offset, PropertiesAt bytes addressCells offset
    [(kernelStartName, kernelStart), (kernelEndName, kernelEnd),
      (kernelEntryName, plan.kernelRuntimeEntryAddress),
      (initrdStartName, world.physicalAddress),
      (initrdEndName, world.physicalAddress + world.size)]

theorem onlyModule_eq_some {modules : List BootModule} {world : BootModule}
    (h : onlyModule modules = some world) : modules = [world] := by
  unfold onlyModule at h
  split at h
  · cases h
    rfl
  · cases h

/-- The part of `Protects` that always holds. -/
structure Reserved (plan : DirectPlan) (world : BootModule) (memoryMap : MutableMemoryMap)
    (buffer capacity kernelStart kernelEnd : UInt64) (source ranges : List MemoryRegion) :
    Prop where
  least : IsLeast (segmentStart '' {s | s ∈ plan.kernelLoadSegments}) kernelStart.toNat
  greatest : IsGreatest (segmentEnd '' {s | s ∈ plan.kernelLoadSegments}) kernelEnd.toNat
  hull : kernelStart < kernelEnd
  worldSize : 0 < world.size.toNat
  room : 0 < capacity.toNat
  worldBuffer : Disjoint (span world.physicalAddress world.size) (span buffer capacity)
  kernelWindow : Set.Ico kernelStart.toNat kernelEnd.toNat ⊆ runtimeWindow
  worldWindow : span world.physicalAddress world.size ⊆ runtimeWindow
  entry : plan.kernelRuntimeEntryAddress.toNat ∈ Set.Ico kernelStart.toNat kernelEnd.toNat
  reserveMap : covered ranges = Set.Ico kernelStart.toNat kernelEnd.toNat ∪
    span world.physicalAddress world.size ∪ span buffer capacity ∪ covered source ∪
    covered (memoryMap.regions.filter isFirmwareReserved)

section Build

variable {plan : DirectPlan} {environment : DirectEnvironment} {memoryMap : MutableMemoryMap}
  {buffer capacity : UInt64} {artifact : HandoffArtifact}

theorem addFirmwareReservations_eq_some {ranges next : List MemoryRegion}
    (h : addFirmwareReservations memoryMap ranges = some next) :
    addReservations (memoryMap.regions.filter isFirmwareReserved) ranges = some next := by
  unfold addFirmwareReservations at h
  split at h
  · cases h
  · exact h

/-- **What a build leaves**, read from the tree. -/
theorem reserved_of_build (h : buildDirectFdt plan environment memoryMap buffer capacity =
    .ok artifact) :
    ∃ world kernelStart kernelEnd source ranges,
      Published plan environment artifact.bytes world kernelStart kernelEnd source ranges ∧
      Reserved plan world memoryMap buffer capacity kernelStart kernelEnd source ranges := by
  simp only [buildDirectFdt, bind_eq_ok, refuse_eq_ok, demand_eq_ok, mapStatus_eq_ok, pure_eq_ok,
    exists_const] at h
  obtain ⟨harguments, tree, htree, world, hworld, -, hplaced, ⟨kernelStart, kernelEnd⟩, hloop,
    hspan, kernelRanges, hkernel, worldRanges, hworldRanges, bufferRanges, hbuffer, ranges,
    hfirmware, blob, hblob, hart⟩ := h
  simp only [Bool.or_eq_false_iff, Bool.not_eq_false', beq_eq_false_iff_ne,
    decide_eq_false_iff_not] at hplaced hspan
  obtain ⟨⟨⟨⟨_, _⟩, hworldSize⟩, hworldWindow⟩, hworldBuffer⟩ := hplaced
  obtain ⟨⟨⟨⟨_, hhull⟩, hkernelWindow⟩, hbefore⟩, hbehind⟩ := hspan
  rw [UInt64.not_le] at hhull hbehind
  rw [UInt64.not_lt] at hbefore
  -- the hull of the segments
  have hsegs : plan.kernelLoadSegments ≠ [] := by
    simp only [Bool.or_eq_false_iff, List.isEmpty_eq_false_iff] at harguments
    exact harguments.1.1.2
  obtain ⟨hseg, hspans⟩ := foldlM_addSegment spans_nil hloop
  obtain ⟨hleast, hgreatest⟩ := hspans.exact hsegs fun segment hmem =>
    ⟨Nat.lt_add_of_pos_right (hseg segment hmem).memory, (hseg segment hmem).finish⟩
  have hlt := UInt64.lt_iff_toNat_lt.mp hhull
  have hlen : (kernelEnd - kernelStart).toNat = kernelEnd.toNat - kernelStart.toNat :=
    toNat_sub_of_le
  have hkernelSpan : span kernelStart (kernelEnd - kernelStart) =
      Set.Ico kernelStart.toNat kernelEnd.toNat := by
    unfold span
    rw [hlen, Nat.add_sub_cancel' (Nat.le_of_lt hlt)]
  have hsum : kernelStart + (kernelEnd - kernelStart) = kernelEnd := by
    rw [UInt64.add_comm, UInt64.sub_add_cancel]
  -- the four additions
  have hfirst := (reserves_nil.add hkernel).2
  have hsnd := (hfirst.add hworldRanges).2
  have hthird := (hsnd.add hbuffer).2
  have hfourth := hthird.addAll (addFirmwareReservations_eq_some hfirmware)
  obtain ⟨⟨⟨source, newRanges, hsrc, hnew, hcovered⟩, hproperties⟩, -⟩ :=
    blobRead_of_build hblob
  have hbytes : artifact.bytes = blob := by
    rw [← hart]
  have hchosen : chosenProperties kernelStart (kernelStart + (kernelEnd - kernelStart))
      plan.kernelRuntimeEntryAddress world.physicalAddress world.size =
      [(kernelStartName, kernelStart), (kernelEndName, kernelEnd),
        (kernelEntryName, plan.kernelRuntimeEntryAddress),
        (initrdStartName, world.physicalAddress),
        (initrdEndName, world.physicalAddress + world.size)] := by
    rw [hsum, chosenProperties, if_pos (bne_iff_ne.mpr hworldSize)]
    rfl
  rw [hchosen] at hproperties
  refine ⟨world, kernelStart, kernelEnd, source, newRanges,
    ⟨onlyModule_eq_some hworld, ⟨tree, htree, hsrc⟩, by rw [hbytes, hnew],
      by rw [hbytes]; exact hproperties⟩, hleast, hgreatest, hhull, ne_zero_iff.mp hworldSize, ?_,
    disjoint_of_not_overlap hworldBuffer, ?_, subset_window_of_valid hworldWindow, ?_, ?_⟩
  · simp only [directRangesOverlap, Bool.or_eq_false_iff, beq_eq_false_iff_ne] at hworldBuffer
    exact ne_zero_iff.mp hworldBuffer.1.1.1.2
  · rw [← hkernelSpan]
    exact subset_window_of_valid hkernelWindow
  · rw [Set.mem_Ico]
    exact ⟨UInt64.le_iff_toNat_le.mp hbefore, UInt64.lt_iff_toNat_lt.mp hbehind⟩
  · rw [hcovered, hfourth.covers, ← hkernelSpan]
    simp only [span, Set.union_empty]
    ac_rfl

end Build

/-! ### A tree with `/chosen` and one range -/

namespace Bench

/-- The header, a range and the pair of zeros, and the nodes. -/
def fdt : List UInt8 :=
  storeBe32 fdtMagic ++ storeBe32 104 ++ storeBe32 72 ++ storeBe32 104 ++ storeBe32 40 ++
    storeBe32 17 ++ storeBe32 16 ++ storeBe32 0 ++ storeBe32 0 ++ storeBe32 32 ++
    (storeBe64 0x50000000 ++ storeBe64 0x1000 ++ storeBe64 0 ++ storeBe64 0) ++
    (storeBe32 fdtBeginNode ++ storeBe32 0 ++ storeBe32 fdtBeginNode ++ (chosenName ++ [0, 0]) ++
      storeBe32 fdtEndNode ++ storeBe32 fdtEndNode ++ storeBe32 fdtEnd)

def tree : DeviceTree := ⟨0x90000000, fdt, by decide +kernel⟩

def world : BootModule := ⟨0x48000000, 0x1000, .initialImage⟩

def environment : DirectEnvironment :=
  ⟨.aarch64, .uefi, some tree, [world], 0, requiredFlags⟩

def memoryMap : MutableMemoryMap := ⟨true, [⟨0x60000000, 0x1000, .firmware, 0⟩], 8⟩

def segment (address size : UInt64) : LoadSegment :=
  { (default : LoadSegment) with
    loadAddress := address
    runtimeAddress := address
    memorySize := size }

def planOf (segments : List LoadSegment) : DirectPlan :=
  ⟨some .aarch64, .uefi, 0x40080000, segments⟩

/-- One segment, below the World and the buffer. -/
def plan : DirectPlan := planOf [segment 0x40080000 0x10000]

/-- Two segments, the World between them and the second one in the buffer. -/
def gapPlan : DirectPlan := planOf [segment 0x40080000 0x10000, segment 0x4a000000 0x1000]

theorem exists_artifact {plan : DirectPlan}
    (h : (buildDirectFdt plan environment memoryMap 0x4a000000 0x1000).isOk = true) :
    ∃ artifact, buildDirectFdt plan environment memoryMap 0x4a000000 0x1000 = .ok artifact := by
  cases hbuild : buildDirectFdt plan environment memoryMap 0x4a000000 0x1000 with
  | error status =>
      rw [hbuild] at h
      cases h
  | ok artifact => exact ⟨artifact, rfl⟩

theorem world_of_published {plan : DirectPlan} {bytes : List UInt8} {found : BootModule}
    {kernelStart kernelEnd : UInt64} {source ranges : List MemoryRegion}
    (h : Published plan environment bytes found kernelStart kernelEnd source ranges) :
    found = world := by
  have honly : [world] = [found] := h.onlyWorld
  rw [List.cons.injEq] at honly
  exact honly.1.symm

end Bench

end Ribon.Luca
