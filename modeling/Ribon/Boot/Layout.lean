/-
Where the segments of a prepared image are.

A plan goes from the parser through the relocation to the check of the architecture.
The relocation moves everything by one base; the parser keeps the segments apart in
memory; the check looks at the ends of the virtual ranges.  What is left is whether a
virtual address can mean two places, and whether a segment crosses the hole between
the halves of the address space.
-/
import Mathlib.Data.List.Pairwise
import Ribon.Boot.Order
import Ribon.Arch.DirectLoad
import Ribon.Image.Formats

namespace Ribon.Boot

open Crash LoadSegment

/-! ### Relocation -/

/-- A segment that was moved by a base. -/
structure Moved (base : Nat) (segment moved : LoadSegment) : Prop where
  load : moved.loadAddress.toNat = segment.loadAddress.toNat + base
  runtime : moved.runtimeAddress.toNat = segment.runtimeAddress.toNat + base
  linked : moved.virtualAddress.toNat = segment.virtualAddress.toNat + base
  memory : moved.memorySize = segment.memorySize
  flags : moved.flags = segment.flags

/-- A plan that was moved into a window. -/
structure Relocated (base extent : Nat) (relative plan : DirectLoadPlan) : Prop where
  segments : List.Forall₂ (Moved base) relative.segments plan.segments
  entryPoint : plan.entryPoint.toNat = relative.entryPoint.toNat + base
  entryLoadAddress : plan.entryLoadAddress.toNat = relative.entryLoadAddress.toNat + base
  runtimeEntryAddress :
    plan.runtimeEntryAddress.toNat = relative.runtimeEntryAddress.toNat + base
  inside : ∀ segment ∈ plan.segments, base ≤ segment.loadStart ∧ segment.loadEnd ≤ base + extent

def isRelocatable (plan : DirectLoadPlan) : Bool := plan.loadPlanFlags &&& loadPlanRelocatable != 0

theorem placeSegment_moved {base windowEnd : UInt64} {segment moved : LoadSegment}
    (hrt : segment.runtimeAddress = segment.loadAddress)
    (h : placeSegment base windowEnd segment = .ok moved) :
    Moved base.toNat segment moved ∧ base.toNat ≤ moved.loadStart ∧
      moved.loadEnd ≤ windowEnd.toNat := by
  simp only [placeSegment, bind_eq_ok, demand_eq_ok, refuse_eq_ok, pure_eq_ok, exists_const] at h
  obtain ⟨loadAddress, hload, virtualAddress, hvirt, loadEnd, hend, hinside, _, _, rfl⟩ := h
  have hload := addU64_eq_some hload
  have hend := addU64_eq_some hend
  simp only [decide_eq_false_iff_not, UInt64.not_lt, UInt64.le_iff_toNat_le] at hinside
  refine ⟨⟨hload, ?_, addU64_eq_some hvirt, rfl, rfl⟩, ?_, ?_⟩
  · rw [hrt]
    exact hload
  · show base.toNat ≤ loadAddress.toNat
    omega
  · show loadAddress.toNat + segment.memorySize.toNat ≤ windowEnd.toNat
    omega

variable {segments moved : List LoadSegment}

theorem forall₂_placeSegment {base windowEnd : UInt64}
    (hrt : ∀ segment ∈ segments, segment.runtimeAddress = segment.loadAddress)
    (h : List.Forall₂ (fun s m => placeSegment base windowEnd s = .ok m) segments moved) :
    List.Forall₂ (Moved base.toNat) segments moved ∧ ∀ segment ∈ moved,
      base.toNat ≤ segment.loadStart ∧ segment.loadEnd ≤ windowEnd.toNat := by
  induction h with
  | nil => exact ⟨.nil, by simp⟩
  | cons hfirst hrest ih =>
    obtain ⟨hmoved, hinside⟩ := placeSegment_moved (hrt _ (by simp)) hfirst
    obtain ⟨hmoveds, hinsides⟩ := ih fun s hs => hrt s (by simp [hs])
    exact ⟨.cons hmoved hmoveds, List.forall_mem_cons.mpr ⟨hinside, hinsides⟩⟩

variable {relative : DirectLoadPlan}

/-- **The relocation.**  It moves everything by the base of the window, or it does nothing. -/
theorem applyRelocatablePlacement_relocated {services : ServiceDirectory} {plan : DirectLoadPlan}
    (hrt : ∀ segment ∈ relative.segments, segment.runtimeAddress = segment.loadAddress)
    (h : applyRelocatablePlacement services relative = .ok plan) :
    (isRelocatable relative = false ∧ plan = relative) ∨
      (isRelocatable relative = true ∧ ∃ service base extent,
        serviceAuthority services .payloadPlacement = some service ∧
        placementWindow service = some (base, extent) ∧
        Relocated base.toNat extent.toNat relative plan) := by
  unfold applyRelocatablePlacement at h
  split at h
  · next hflag =>
    cases h
    refine .inl ⟨?_, rfl⟩
    rw [beq_iff_eq] at hflag
    simp [isRelocatable, hflag]
  · next hflag =>
    have hrelocatable : isRelocatable relative = true := by simpa [isRelocatable] using hflag
    simp only [bind_eq_ok, demand_eq_ok, pure_eq_ok] at h
    obtain ⟨service, hsvc, ⟨base, extent⟩, hwin, windowEnd, hend, segments, hsegs,
      entryPoint, hentry, entryLoad, hentryLoad, runtimeEntry, hruntimeEntry, _, _, _, _, _, _, _,
      _, _, _, _, _, _, _, _, _, rfl⟩ := h
    obtain ⟨hmoved, hinside⟩ := forall₂_placeSegment hrt (forall₂_of_mapM hsegs)
    refine .inr ⟨hrelocatable, service, base, extent, hsvc, hwin, hmoved,
      addU64_eq_some hentry, addU64_eq_some hentryLoad, addU64_eq_some hruntimeEntry, ?_⟩
    rw [← addU64_eq_some hend]
    exact hinside

variable {base : Nat} (h : List.Forall₂ (Moved base) segments moved)
include h

/-- Segments that were moved alike are still apart. -/
theorem pairwise_moved
    (hdisj : segments.Pairwise fun left right => Disjoint left.loadRange right.loadRange) :
    moved.Pairwise fun left right => Disjoint left.loadRange right.loadRange := by
  have hrange : ∀ s m, Moved base s m → ∀ address, address ∈ m.loadRange →
      base ≤ address ∧ address - base ∈ s.loadRange := by
    intro s m hmoved address haddr
    have hload := hmoved.load
    have hmemory := congrArg UInt64.toNat hmoved.memory
    simp only [loadRange, loadStart, loadEnd, Set.mem_Ico]
      at haddr ⊢
    omega
  induction h with
  | nil => exact .nil
  | @cons first first' rest rest' hfirst hrest ih =>
    obtain ⟨hhead, htail⟩ := List.pairwise_cons.mp hdisj
    refine List.pairwise_cons.mpr ⟨?_, ih htail⟩
    intro other hother
    obtain ⟨i, hi, rfl⟩ := List.getElem_of_mem hother
    have hlen : i < rest.length := by
      rw [hrest.length_eq]
      exact hi
    have hmoved : Moved base (rest[i]) (rest'[i]) := hrest.get hlen hi
    rw [Set.disjoint_left]
    intro address hleft hright
    exact Set.disjoint_left.mp (hhead _ (List.getElem_mem hlen))
      (hrange _ _ hfirst address hleft).2 (hrange _ _ hmoved address hright).2

theorem exists_moved {segment : LoadSegment} (hseg : segment ∈ segments) :
    ∃ m ∈ moved, Moved base segment m := by
  induction h with
  | nil => cases hseg
  | cons hfirst hrest ih =>
    obtain rfl | hseg := List.mem_cons.mp hseg
    · exact ⟨_, by simp, hfirst⟩
    · obtain ⟨m, hm, hmoved⟩ := ih hseg
      exact ⟨m, by simp [hm], hmoved⟩

omit h

theorem Relocated.entersAt {base extent : Nat} {plan : DirectLoadPlan}
    (h : Relocated base extent relative plan)
    (hentry : EntersAt relative.segments relative.entryPoint relative.entryLoadAddress) :
    EntersAt plan.segments plan.entryPoint plan.entryLoadAddress := by
  obtain ⟨segment, hseg, hexec, hrange, haddr⟩ := hentry
  obtain ⟨moved, hmem, hmoved⟩ := exists_moved h.segments hseg
  have hload := hmoved.load
  have hlinked := hmoved.linked
  have hmemory := congrArg UInt64.toNat hmoved.memory
  have hpoint := h.entryPoint
  have hentryLoad := h.entryLoadAddress
  simp only [virtualRange, virtualStart, virtualEnd,
    loadStart, Set.mem_Ico] at hrange haddr
  refine ⟨moved, hmem, ?_, ?_, ?_⟩
  · rw [isExecutable, hmoved.flags]
    exact hexec
  · simp only [virtualRange, virtualStart, virtualEnd,
      Set.mem_Ico]
    omega
  · simp only [virtualStart, loadStart]
    omega

/-! ### One meaning for an address -/

/-- Where a segment has an address of its virtual range. -/
def loadOf (segment : LoadSegment) (address : Nat) : Nat :=
  segment.loadStart + (address - segment.virtualStart)

/-- All addresses of a plan are canonical, they have been moved alike, and none of them means
two places; so the entry means the place where it is loaded. -/
structure Unambiguous (bits : Nat) (services : ServiceDirectory)
    (relative final : DirectLoadPlan) : Prop where
  canonical : ∀ segment ∈ final.segments, ∀ address ∈ segment.virtualRange,
    Arch.Canonical bits address
  relocated : isRelocatable relative = true → ∃ service base extent,
    serviceAuthority services .payloadPlacement = some service ∧
    placementWindow service = some (base, extent) ∧
    Relocated base.toNat extent.toNat relative final
  single : ∀ left ∈ final.segments, ∀ right ∈ final.segments, ∀ address,
    address ∈ left.virtualRange → address ∈ right.virtualRange →
    loadOf left address = loadOf right address
  entry : ∀ segment ∈ final.segments, final.entryPoint.toNat ∈ segment.virtualRange →
    final.entryLoadAddress.toNat = loadOf segment final.entryPoint.toNat

/-- Where the segments are apart in memory, an address means one place exactly if the virtual
ranges are apart too. -/
theorem single_iff
    (hdisj : segments.Pairwise fun left right => Disjoint left.loadRange right.loadRange) :
    (∀ left ∈ segments, ∀ right ∈ segments, ∀ address, address ∈ left.virtualRange →
      address ∈ right.virtualRange → loadOf left address = loadOf right address) ↔
      segments.Pairwise fun left right => Disjoint left.virtualRange right.virtualRange := by
  have hloaded : ∀ segment : LoadSegment, ∀ address, address ∈ segment.virtualRange →
      loadOf segment address ∈ segment.loadRange := by
    intro segment address haddr
    simp only [virtualRange, loadRange, virtualEnd,
      loadEnd, virtualStart, loadStart, loadOf,
      Set.mem_Ico] at haddr ⊢
    omega
  constructor
  · intro hsingle
    refine hdisj.imp_of_mem ?_
    intro left right hleft hright hapart
    rw [Set.disjoint_left]
    intro address haddr haddr'
    have hsame := hsingle left hleft right hright address haddr haddr'
    have hin := hloaded left address haddr
    rw [hsame] at hin
    exact Set.disjoint_left.mp hapart hin (hloaded right address haddr')
  · intro hapart left hleft right hright address haddr haddr'
    by_cases hsame : left = right
    · rw [hsame]
    · have hboth := hapart.forall hleft hright hsame
      exact absurd haddr' (Set.disjoint_left.mp hboth haddr)

/-- **From the parser to the check.**  A plan that comes through is unambiguous exactly if no
segment crosses the hole of the address space and the virtual ranges are apart. -/
theorem unambiguous_iff {image : PayloadImage} {out placed final : DirectLoadPlan}
    {validated : ValidatedImage} {services : ServiceDirectory} {arch : ArchDescriptor}
    (hanalyzed : Analyzed image out validated relative)
    (hplaced : applyRelocatablePlacement services relative = .ok placed)
    (hvalid : Arch.validateDirectLoad arch validated placed = some final) :
    Unambiguous arch.virtualAddressBits.toNat services relative final ↔
      (∀ segment ∈ final.segments,
        ¬Arch.Straddles arch.virtualAddressBits.toNat segment) ∧
      final.segments.Pairwise fun left right =>
        Disjoint left.virtualRange right.virtualRange := by
  obtain ⟨hsound, hfits⟩ := hanalyzed.layout
  obtain ⟨hnoted, hbits, hsegs⟩ := Arch.validateDirectLoad_eq_some hvalid
  have hrelocated := applyRelocatablePlacement_relocated
    (fun s hs => (hfits.fits s hs).runtime) hplaced
  have hdisj : final.segments.Pairwise
      fun left right => Disjoint left.loadRange right.loadRange := by
    rw [hnoted.segments]
    obtain ⟨_, rfl⟩ | ⟨_, service, base, extent, _, _, hmoved⟩ := hrelocated
    · exact hsound.disjoint
    · exact pairwise_moved hmoved.segments hsound.disjoint
  have hentry : EntersAt final.segments final.entryPoint final.entryLoadAddress := by
    rw [hnoted.segments, hnoted.entryPoint, hnoted.entryLoadAddress]
    obtain ⟨_, rfl⟩ | ⟨_, service, base, extent, _, _, hmoved⟩ := hrelocated
    · exact hsound.entry
    · exact hmoved.entersAt hsound.entry
  have hcanon : (∀ segment ∈ final.segments, ∀ address ∈ segment.virtualRange,
      Arch.Canonical arch.virtualAddressBits.toNat address) ↔
      ∀ segment ∈ final.segments, ¬Arch.Straddles arch.virtualAddressBits.toNat segment := by
    refine forall_congr' fun segment => ?_
    refine imp_congr_right fun hseg => ?_
    rw [hnoted.segments] at hseg
    exact (hsegs segment hseg).canonical_iff hbits
  constructor
  · intro h
    exact ⟨hcanon.mp h.canonical, (single_iff hdisj).mp h.single⟩
  · rintro ⟨hhalves, hapart⟩
    have hsingle := (single_iff hdisj).mpr hapart
    refine ⟨hcanon.mpr hhalves, ?_, hsingle, ?_⟩
    · intro hflag
      obtain ⟨hno, _⟩ | ⟨_, service, base, extent, hsvc, hwin, hmoved⟩ := hrelocated
      · rw [hno] at hflag
        cases hflag
      · refine ⟨service, base, extent, hsvc, hwin, ?_⟩
        constructor
        · rw [hnoted.segments]
          exact hmoved.segments
        · rw [hnoted.entryPoint]
          exact hmoved.entryPoint
        · rw [hnoted.entryLoadAddress]
          exact hmoved.entryLoadAddress
        · rw [hnoted.runtimeEntryAddress]
          exact hmoved.runtimeEntryAddress
        · rw [hnoted.segments]
          exact hmoved.inside
    · intro segment hseg haddr
      obtain ⟨found, hfound, _, hrange, hload⟩ := hentry
      rw [hload]
      exact hsingle found hfound segment hseg _ hrange haddr

/-! ### In a prepare -/

/-- The parser and the check that are asked are the ones of the library. -/
structure Genuine (arch : ArchDescriptor) (log : List (Entry Callback Answer)) : Prop where
  analyze : ∀ payload plan validated relative,
    (⟨.analyze payload plan, some (validated, relative)⟩ : Entry Callback Answer) ∈ log →
    ∃ out, plan = some out ∧ Analyzed payload out validated relative
  validate : ∀ image placed final,
    (⟨.validateDirectLoad image placed, some final⟩ : Entry Callback Answer) ∈ log →
    Arch.validateDirectLoad arch image placed = some final

/-- What the plan of a direct entry has come through. -/
def PlannedBy (services : ServiceDirectory) (log : List (Entry Callback Answer))
    (payload : PayloadImage) (out : Option DirectLoadPlan) (relative final : DirectLoadPlan) :
    Prop :=
  ∃ validated placed,
    (⟨.analyze payload out, some (validated, relative)⟩ : Entry Callback Answer) ∈ log ∧
    applyRelocatablePlacement services relative = .ok placed ∧
    (⟨.validateDirectLoad validated placed, some final⟩ : Entry Callback Answer) ∈ log

variable {log : List (Entry Callback Answer)}

theorem placeDirectLoad_ok {transaction : BootTransaction} {image : ValidatedImage}
    {final : DirectLoadPlan} {failure : Failure}
    (h : (placeDirectLoad transaction image relative failure).Logs log (.ok final)) :
    ∃ placed, applyRelocatablePlacement transaction.core.services relative = .ok placed ∧
      (⟨.validateDirectLoad image placed, some final⟩ : Entry Callback Answer) ∈ log := by
  obtain ⟨log₁, _, placed, rfl, hplaced, hrest⟩ := Act.logs_bind_ok.mp h
  obtain ⟨answer, rest, rfl, hans⟩ := logs_bind_ask.mp hrest
  have hans : answer = some final := demand_eq_ok.mp (Act.logs_ofExcept_ok.mp hans).2
  refine ⟨placed, mapStatus_eq_ok.mp (Act.logs_ofExcept_ok.mp hplaced).2, ?_⟩
  rw [hans]
  simp

theorem loadImage_direct {t u : BootTransaction} (h : (loadImage t).Logs log (.ok u))
    (hdirect : t.protocol.terminalExecution = .directEntry) :
    ∃ relative final, PlannedBy t.core.services log t.payload t.input.directLoadPlan relative
      final ∧ u.input.directLoadPlan = some final := by
  unfold loadImage at h
  obtain ⟨answer, rest, rfl, hrest⟩ := logs_bind_ask.mp h
  simp only [hdirect, Act.logs_bind_ok, Act.logs_ofExcept_ok, Act.logs_refuseIf_ok,
    Act.logs_pure_ok] at hrest
  obtain ⟨_, _, ⟨validated, relative⟩, rfl, ⟨rfl, hans⟩, _, _, _, rfl, ⟨rfl, -⟩, placing, _, final,
    rfl, hplacing, _, _, _, rfl, ⟨rfl, -⟩, rfl, rfl⟩ := hrest
  have hans : answer = some (validated, relative) := demand_eq_ok.mp hans
  obtain ⟨placed, hplaced, hvalidated⟩ := placeDirectLoad_ok hplacing
  refine ⟨relative, final, ⟨validated, placed, ?_, hplaced, ?_⟩, rfl⟩
  · rw [hans]
    simp
  · simp [hvalidated]

/-- A prepare for a direct entry: its plan has come through the parser, the relocation and the
check. -/
theorem prepare_plannedBy {start u : BootTransaction} {arena : Arena} {input : BootTransactionInput}
    (hdirect : start.protocol.terminalExecution = .directEntry)
    (h : (prepare start arena input).Logs log (.ok u)) :
    ∃ payload relative final,
      PlannedBy start.core.services log payload input.directLoadPlan relative final ∧
      u.input.directLoadPlan = some final := by
  obtain ⟨frozen, retries, bytes, loaded, before, loading, planning, hfrozen, rfl, hloading,
    hplan⟩ := prepare_ok h
  have hcap : Captured start input frozen := by
    have hends := capture_ends start arena input
    rw [hfrozen] at hends
    exact hends
  have hsvcs : frozen.core.services = start.core.services := by
    simp only [capture, bind_eq_ok, refuse_eq_ok, demand_eq_ok, mapStatus_eq_ok, pure_eq_ok,
      exists_const] at hfrozen
    obtain ⟨_, _, _, _, _, _, _, _, _, _, _, _, _, rfl⟩ := hfrozen
    rfl
  rw [← hcap.protocol] at hdirect
  obtain ⟨relative, final, ⟨validated, placed, hanalyze, hplaced, hvalidate⟩, hfinal⟩ :=
    loadImage_direct hloading hdirect
  have hplanned : Planned loaded u := ((prepareProtocolPlan_quiet loaded).logs hplan).2
  rw [← hsvcs, ← hcap.layout, hplanned.layout]
  refine ⟨⟨bytes, frozen.input.sourceSize, frozen.input.sourceName⟩, relative, final,
    ⟨validated, placed, ?_, hplaced, ?_⟩, hfinal⟩
  · simp only [List.mem_append]
    exact .inr (.inl hanalyze)
  · simp only [List.mem_append]
    exact .inr (.inl hvalidate)

namespace Bench

/-- The parser and the check of the library, on the bytes of an image; everybody else is
willing. -/
def reading (image : PayloadImage) : Machine Callback Answer Unit where
  answer
    | .read .., _ => some image.data
    | .analyze payload plan, _ => plan.bind fun out => (Elf64.analyze payload out).toOption
    | .validateDirectLoad validated placed, _ =>
        Arch.validateDirectLoad arch.descriptor validated placed
    | callback, state => (willing 40).answer callback state
  effect _ _ := ()

def inputFor (image : PayloadImage) : BootTransactionInput := { input with
  sourceSize := image.size
  directLoadPlan := some Elf64.Bench.out }

def read (image : PayloadImage) : Except Failure BootTransaction :=
  ((prepare start CoreContext.Bench.arena (inputFor image)).exec (reading image) ()).1

def logOf (image : PayloadImage) : List (Entry Callback Answer) :=
  Prog.record (reading image) (prepare start CoreContext.Bench.arena (inputFor image)).run ()

theorem read_logs (image : PayloadImage) :
    (prepare start CoreContext.Bench.arena (inputFor image)).Logs (logOf image) (read image) :=
  Prog.logs_record (reading image) (prepare start CoreContext.Bench.arena (inputFor image)).run ()

theorem read_genuine (image : PayloadImage) : Genuine arch.descriptor (logOf image) := by
  have hanswers := Prog.record_answers (reading image)
    (prepare start CoreContext.Bench.arena (inputFor image)).run ()
  constructor
  · intro payload plan validated relative hmem
    obtain ⟨_, hans⟩ := hanswers _ hmem
    have hans : some (validated, relative) =
        plan.bind fun out => (Elf64.analyze payload out).toOption := hans
    cases plan with
    | none => cases hans
    | some out =>
      refine ⟨out, rfl, .elf64 ?_⟩
      cases hres : Elf64.analyze payload out with
      | error status =>
        rw [Option.bind_some, hres] at hans
        cases hans
      | ok result =>
        rw [Option.bind_some, hres] at hans
        cases hans
        rfl
  · intro validated placed final hmem
    obtain ⟨_, hans⟩ := hanswers _ hmem
    exact hans.symm

/-- Where the segments of a prepared transaction are. -/
def places (result : Except Failure BootTransaction) :
    Option (List (UInt64 × UInt64 × UInt64)) :=
  result.toOption.bind fun t => t.input.directLoadPlan.map fun plan =>
    plan.segments.map fun segment =>
      (segment.virtualAddress, segment.loadAddress, segment.memorySize)

variable {result : Except Failure BootTransaction} {found : List (UInt64 × UInt64 × UInt64)}

theorem places_eq_some {u : BootTransaction} {final : DirectLoadPlan}
    (h : places result = some found) (hres : result = .ok u)
    (hfinal : u.input.directLoadPlan = some final) :
    final.segments.map (fun segment =>
      (segment.virtualAddress, segment.loadAddress, segment.memorySize)) = found := by
  subst hres
  simp only [places, Except.toOption, Option.bind_some, hfinal, Option.map_some,
    Option.some.injEq] at h
  exact h

theorem twoSegments_places : places (read Elf64.Bench.twoSegments) =
    some [(0x100000, 0x100000, 0x1000), (0x200000, 0x200000, 0x1000)] := by
  decide +kernel

/-- Two segments that share their virtual addresses, at two places in memory. -/
def aliased : PayloadImage :=
  Elf64.Bench.image [Elf64.Bench.programHeader 5 0x100000 0x100000 0x1000,
    Elf64.Bench.programHeader 5 0x100000 0x200000 0x1000]

theorem aliased_places : places (read aliased) =
    some [(0x100000, 0x100000, 0x1000), (0x100000, 0x200000, 0x1000)] := by
  decide +kernel

theorem exists_of_places (h : places result = some found) :
    ∃ u, result = .ok u := by
  cases result with
  | error failure => cases h
  | ok u => exact ⟨u, rfl⟩

/-- The addresses of two segments, from the places that were found. -/
theorem pair_of_places {segments : List LoadSegment} {v l m v' l' m' : UInt64}
    (h : segments.map (fun segment =>
      (segment.virtualAddress, segment.loadAddress, segment.memorySize)) =
        [(v, l, m), (v', l', m')]) :
    ∃ first second, segments = [first, second] ∧
      (first.virtualAddress = v ∧ first.loadAddress = l ∧ first.memorySize = m) ∧
      (second.virtualAddress = v' ∧ second.loadAddress = l' ∧ second.memorySize = m') := by
  match segments, h with
  | [first, second], h =>
    simp only [List.map_cons, List.map_nil, List.cons.injEq, Prod.mk.injEq, and_true] at h
    exact ⟨first, second, rfl, h.1, h.2⟩

end Bench

end Ribon.Boot
