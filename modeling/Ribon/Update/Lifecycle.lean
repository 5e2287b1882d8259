/-
The life of a slot.

A slot is staged, verified, made pending and confirmed, and may be dropped on the way; a
slot that is empty, dropped or confirmed may be staged again.  This is what the edges of the
slot metadata allow, and every run of transitions keeps the metadata valid and each slot on
this path.

A transition that is refused leaves zeros behind, not what its output held before.
-/
import Mathlib.Logic.Relation
import Ribon.Update.Slots

namespace Ribon

open Wire

/-- `memset(metadata, 0, sizeof(*metadata))` -/
def SlotMetadata.zero : SlotMetadata where
  size := 0
  abiVersion := 0
  flags := 0
  activeSlot := 0
  pendingSlot := 0
  slotCount := 0
  metadataGeneration := 0
  slots := Vector.replicate 2 {
    slotId := 0
    state := .empty
    metadataGeneration := 0
    imageGeneration := 0
    manifestDigest := Digest.zero
    imageSetDigest := Digest.zero
    layoutDigest := Digest.zero
    bootAttempts := 0
    flags := 0
    reserved := Reserved.none }
  wireDigest := Digest.zero
  reserved := Reserved.none

namespace Storage

/-- The status of a transition and what is in its output afterwards, whatever was in it
before. -/
def metadataTransitionInto (current : SlotMetadata) (transition : SlotTransition)
    (_before : SlotMetadata) : Option StorageStatus × SlotMetadata :=
  match metadataTransition current transition with
  | .ok next => (none, next)
  | .error status => (some status, SlotMetadata.zero)

variable {current next : SlotMetadata}

theorem into_of_ok {transition : SlotTransition}
    (h : metadataTransition current transition = .ok next) (before : SlotMetadata) :
    metadataTransitionInto current transition before = (none, next) := by
  unfold metadataTransitionInto
  rw [h]

theorem into_of_error {transition : SlotTransition} {status : StorageStatus}
    (h : metadataTransition current transition = .error status) (before : SlotMetadata) :
    metadataTransitionInto current transition before = (some status, SlotMetadata.zero) := by
  unfold metadataTransitionInto
  rw [h]

/-- The checks before the output is written. -/
def transitionAdmitted (current : SlotMetadata) (transition : SlotTransition) :
    Except StorageStatus Unit := do
  refuse (!metadataIsValid current || transition.size != transitionSizeOf ||
    transition.abiVersion != abiVersion || transition.flags != 0 ||
    decide (slotCount ≤ transition.slotId) || transition.slotId == current.activeSlot ||
    decide (maxBootAttempts < transition.bootAttempts) || transition.imageGeneration == 0 ||
    transition.manifestDigest.isZero || transition.imageSetDigest.isZero ||
    transition.layoutDigest.isZero || !reservedZero transition.reserved ||
    current.metadataGeneration == u64Max ||
    !transitionIsAllowed (current.slot transition.slotId).state transition.nextState) .badState
  refuse (if transition.nextState == .pending then
    transition.bootAttempts == 0 || current.pendingSlot != slotNone
    else transition.bootAttempts != 0) .badState
  refuse (transition.nextState != .staging &&
    !transitionIdentityMatches (current.slot transition.slotId) transition) .identityMismatch

theorem requested {transition : SlotTransition}
    (h : transitionAdmitted current transition = .ok ()) : Requested current transition := by
  simp only [transitionAdmitted, bind_eq_ok, refuse_eq_ok, exists_const] at h
  obtain ⟨hchecks, hatts, hid⟩ := h
  simp only [Bool.or_eq_false_iff, Bool.not_eq_false', bne_eq_false_iff_eq,
    beq_eq_false_iff_ne, decide_eq_false_iff_not, UInt32.not_le, UInt32.not_lt] at hchecks
  obtain ⟨⟨⟨⟨⟨⟨⟨⟨⟨⟨⟨⟨⟨hcur, hsize⟩, habi⟩, hflags⟩, hslot⟩, hinact⟩, hfew⟩, himage⟩,
    hman⟩, hset⟩, hlay⟩, hresv⟩, hroom⟩, hedge⟩ := hchecks
  refine ⟨metadataIsValid_iff.mp hcur, ⟨hsize, habi, hflags, hresv⟩, hslot, hinact,
    hfew, himage, hman, hset, hlay, hroom, hedge, ?_, ?_⟩
  · by_cases hpend : transition.nextState = .pending
    · rw [if_pos (by simpa using hpend)] at hatts
      simp only [Bool.or_eq_false_iff, beq_eq_false_iff_ne] at hatts
      exact ⟨fun _ => hatts.1, fun _ => hpend⟩
    · rw [if_neg (by simpa using hpend), bne_eq_false_iff_eq] at hatts
      exact ⟨fun h => absurd h hpend, fun h => absurd hatts h⟩
  · intro hstag
    have hne : (transition.nextState != SlotState.staging) = true := by simpa using hstag
    rw [hne, Bool.true_and, Bool.not_eq_false'] at hid
    exact hid

/-! ### The path -/

/-- The edges of the life of a slot. -/
inductive Edge : SlotState → SlotState → Prop
  | stage {state : SlotState} (h : state = .empty ∨ state = .bad ∨ state = .confirmed) :
      Edge state .staging
  | verify : Edge .staging .verified
  | pend : Edge .verified .pending
  | confirm : Edge .pending .confirmed
  | drop {state : SlotState} (h : state = .staging ∨ state = .verified ∨ state = .pending) :
      Edge state .bad

theorem edge_iff {state next : SlotState} :
    transitionIsAllowed state next = true ↔ Edge state next := by
  constructor
  · intro h
    cases state <;> cases next <;> first
      | exact absurd h (by decide)
      | exact .stage (by simp)
      | exact .verify
      | exact .pend
      | exact .confirm
      | exact .drop (by simp)
  · intro h
    cases h with
    | stage h | drop h => rcases h with rfl | rfl | rfl <;> rfl
    | verify | pend | confirm => rfl

/-- What a transition that is taken changes, and what it keeps. -/
structure Taken (current : SlotMetadata) (transition : SlotTransition) (next : SlotMetadata) :
    Prop where
  valid : metadataIsValid next = true
  generation : next.metadataGeneration.toNat = current.metadataGeneration.toNat + 1
  only : next = { current with
    metadataGeneration := next.metadataGeneration
    activeSlot := next.activeSlot
    pendingSlot := next.pendingSlot
    slots := next.slots
    wireDigest := next.wireDigest }
  others : ∀ slotId < slotCount, slotId ≠ transition.slotId →
    next.slot slotId = current.slot slotId
  active : next.activeSlot =
    if transition.nextState = .confirmed then transition.slotId else current.activeSlot
  pending : next.pendingSlot =
    if transition.nextState = .pending then transition.slotId else slotNone
  identity : transition.nextState ≠ .staging →
    (next.slot transition.slotId).imageGeneration =
        (current.slot transition.slotId).imageGeneration ∧
      (next.slot transition.slotId).manifestDigest =
        (current.slot transition.slotId).manifestDigest ∧
      (next.slot transition.slotId).imageSetDigest =
        (current.slot transition.slotId).imageSetDigest ∧
      (next.slot transition.slotId).layoutDigest = (current.slot transition.slotId).layoutDigest
  confirmed : next.activeSlot < slotCount ∧ (next.slot next.activeSlot).state = .confirmed
  edge : Edge (current.slot transition.slotId).state (next.slot transition.slotId).state

theorem admitted_of_ok {transition : SlotTransition}
    (h : metadataTransition current transition = .ok next) :
    transitionAdmitted current transition = .ok () := by
  simp only [metadataTransition, bind_eq_ok, refuse_eq_ok, exists_const] at h
  obtain ⟨hchecks, hatts, hid, _⟩ := h
  simp only [transitionAdmitted, bind_eq_ok, refuse_eq_ok, exists_const]
  exact ⟨hchecks, hatts, hid⟩

theorem toNat_succ_of_room {g : UInt64} (h : g ≠ u64Max) : (g + 1).toNat = g.toNat + 1 := by
  have hne : g.toNat ≠ 2 ^ 64 - 1 := fun heq => h (UInt64.toNat_inj.mp heq)
  have hbound := g.toNat_lt
  have hone : (1 : UInt64).toNat = 1 := rfl
  rw [UInt64.toNat_add, hone]
  omega

theorem taken {transition : SlotTransition} (h : metadataTransition current transition = .ok next) :
    Taken current transition next := by
  have hstep := metadataTransition_eq_ok h
  have hreq := requested (admitted_of_ok h)
  have hvalid := metadataIsValid_iff.mp hstep.validNext
  constructor
  case valid => exact hstep.validNext
  case generation =>
    rw [hstep.generation]
    exact toNat_succ_of_room hstep.room
  case only =>
    rw [hstep.next_eq]
    unfold withWireDigest transitionTarget
    cases transition.nextState <;> rfl
  case others =>
    intro slotId hslot hne
    exact hstep.slot_other hslot hne
  case active => exact hstep.activeSlot
  case pending =>
    rw [hstep.next_eq]
    exact hreq.target_pendingSlot
  case identity => exact hstep.keeps_identity
  case confirmed => exact ⟨hvalid.activeSlot, hvalid.confirmed⟩
  case edge =>
    rw [hstep.entry.1]
    exact edge_iff.mp hstep.edge

/-- The state of a slot after a transition. -/
theorem Taken.path {transition : SlotTransition} (h : Taken current transition next)
    {slotId : UInt32} (hslot : slotId < slotCount) :
    Relation.ReflTransGen Edge (current.slot slotId).state (next.slot slotId).state := by
  by_cases hsame : slotId = transition.slotId
  · rw [hsame]
    exact Relation.ReflTransGen.single h.edge
  · rw [h.others slotId hslot hsame]

/-- After a run of transitions. -/
structure Followed (current : SlotMetadata) (count : Nat) (final : SlotMetadata) : Prop where
  valid : metadataIsValid final = true
  generation : final.metadataGeneration.toNat = current.metadataGeneration.toNat + count
  path : ∀ slotId < slotCount,
    Relation.ReflTransGen Edge (current.slot slotId).state (final.slot slotId).state

theorem followed {final : SlotMetadata} {transitions : List SlotTransition}
    (hvalid : metadataIsValid current = true)
    (h : transitions.foldlM metadataTransition current = .ok final) :
    Followed current transitions.length final := by
  induction transitions generalizing current with
  | nil =>
    simp only [List.foldlM_nil, pure_eq_ok] at h
    rw [← h]
    exact ⟨hvalid, rfl, fun _ _ => .refl⟩
  | cons transition rest ih =>
    simp only [List.foldlM_cons, bind_eq_ok] at h
    obtain ⟨next, hfirst, hrest⟩ := h
    have htaken := taken hfirst
    have hfollowed := ih htaken.valid hrest
    refine ⟨hfollowed.valid, ?_, ?_⟩
    · rw [hfollowed.generation, htaken.generation, List.length_cons]
      omega
    · intro slotId hslot
      exact (htaken.path hslot).trans (hfollowed.path slotId hslot)

/-- What a transition out of valid metadata does. -/
structure Closed (current : SlotMetadata) (transition : SlotTransition) (before : SlotMetadata) :
    Prop where
  refused : ∀ status, (metadataTransitionInto current transition before).1 = some status →
    (metadataTransitionInto current transition before).2 = SlotMetadata.zero
  taken : (metadataTransitionInto current transition before).1 = none →
    Taken current transition (metadataTransitionInto current transition before).2
  admitted : transitionAdmitted current transition = .ok () →
    (metadataTransitionInto current transition before).1 = none
  runs : ∀ (transitions : List SlotTransition) (final : SlotMetadata),
    transitions.foldlM metadataTransition current = .ok final →
      Followed current transitions.length final

/--
**Closure of the slot metadata.**  A transition out of valid metadata is refused and leaves
zeros, or is taken along one edge of the life of its slot to valid metadata.  Nothing that is
admitted is refused by the validation at the end, and a run of transitions stays on the path.
-/
theorem metadataTransition_closed (current : SlotMetadata) (transition : SlotTransition)
    (before : SlotMetadata) (hvalid : metadataIsValid current = true) :
    Closed current transition before := by
  constructor
  case refused =>
    intro status hrefused
    cases hres : metadataTransition current transition with
    | error status => rw [into_of_error hres]
    | ok next =>
      rw [into_of_ok hres] at hrefused
      cases hrefused
  case taken =>
    intro htaken
    cases hres : metadataTransition current transition with
    | error status =>
      rw [into_of_error hres] at htaken
      cases htaken
    | ok next =>
      rw [into_of_ok hres]
      exact Storage.taken hres
  case admitted =>
    intro hadm
    obtain ⟨next, hres⟩ := (requested hadm).transitions
    rw [into_of_ok hres]
  case runs =>
    intro transitions final hrun
    exact followed hvalid hrun

namespace Lifecycle.Bench

def digest : Digest := ⟨List.replicate 32 1, rfl⟩

def entry (slotId : UInt32) (state : SlotState) : SlotEntry where
  slotId := slotId
  state := state
  metadataGeneration := 1
  imageGeneration := 1
  manifestDigest := digest
  imageSetDigest := digest
  layoutDigest := digest
  bootAttempts := 0
  flags := 0
  reserved := Reserved.none

/-- One slot runs, the other is verified. -/
def metadata : SlotMetadata where
  size := metadataSizeOf
  abiVersion := abiVersion
  flags := 0
  activeSlot := 0
  pendingSlot := slotNone
  slotCount := slotCount
  metadataGeneration := 1
  slots := #v[entry 0 .confirmed, entry 1 .verified]
  wireDigest := Digest.zero
  reserved := Reserved.none

def transition (next : SlotState) (attempts : UInt32) : SlotTransition where
  size := transitionSizeOf
  abiVersion := abiVersion
  flags := 0
  slotId := 1
  nextState := next
  bootAttempts := attempts
  imageGeneration := 1
  manifestDigest := digest
  imageSetDigest := digest
  layoutDigest := digest
  reserved := Reserved.none

theorem metadata_closed : metadataIsValid metadata = true ∧
    Closed metadata (transition .pending 3) SlotMetadata.zero :=
  ⟨by decide, metadataTransition_closed metadata _ _ (by decide)⟩

/-- A slot that is made pending is named by the metadata, and a slot may be dropped before that;
a transition that is refused does not keep what was in its output. -/
theorem metadata_changes : metadataIsValid metadata = true ∧
    (∃ next, metadataTransitionInto metadata (transition .pending 3) metadata = (none, next) ∧
      metadata.pendingSlot = slotNone ∧ next.pendingSlot = 1) ∧
    (∃ next, metadataTransitionInto metadata (transition .bad 0) metadata = (none, next) ∧
      (metadata.slot 1).state = .verified ∧ (next.slot 1).state = .bad) ∧
    metadataTransitionInto metadata (transition .staging 0) metadata =
      (some .badState, SlotMetadata.zero) ∧ SlotMetadata.zero ≠ metadata := by
  refine ⟨by decide, ?_, ?_, ?_, by decide⟩
  · have hadm : transitionAdmitted metadata (transition .pending 3) = .ok () := by decide
    obtain ⟨next, hnext⟩ := (requested hadm).transitions
    refine ⟨next, into_of_ok hnext _, rfl, ?_⟩
    rw [(taken hnext).pending]
    rfl
  · have hadm : transitionAdmitted metadata (transition .bad 0) = .ok () := by decide
    obtain ⟨next, hnext⟩ := (requested hadm).transitions
    refine ⟨next, into_of_ok hnext _, rfl, ?_⟩
    exact (metadataTransition_eq_ok hnext).entry.1
  · rfl

end Lifecycle.Bench

end Storage

end Ribon
