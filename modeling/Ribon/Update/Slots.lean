/-
One edge of the slot metadata.

A transition names one inactive slot and moves it along one allowed edge.  The
entry of that slot takes the new state and, where it is staged, a new identity.
The other entry stays, the generation rises by one, and the active slot changes
only when a slot is confirmed.  What was admitted leads to valid metadata, so that
the edges of an install are open wherever the slot is in the state they start from.
-/
import Ribon.Update.Codec

namespace Ribon

open Wire

namespace SlotMetadata

variable {metadata : SlotMetadata} {slotId other : UInt32} {entry : SlotEntry}

@[simp] theorem slot_setSlot_self : (metadata.setSlot slotId entry).slot slotId = entry := by
  unfold slot setSlot
  by_cases h : slotId = 0
  · rw [if_pos h, if_pos h]
    rfl
  · rw [if_neg h, if_neg h]
    rfl

theorem slot_setSlot_of_ne (hs : slotId < Storage.slotCount) (ho : other < Storage.slotCount)
    (hne : other ≠ slotId) : (metadata.setSlot slotId entry).slot other = metadata.slot other := by
  have hs' : slotId.toNat < 2 := UInt32.lt_iff_toNat_lt.mp hs
  have ho' : other.toNat < 2 := UInt32.lt_iff_toNat_lt.mp ho
  have hne' : other.toNat ≠ slotId.toNat := fun h => hne (UInt32.toNat_inj.mp h)
  unfold slot setSlot
  by_cases h : slotId = 0
  · have h0 : slotId.toNat = 0 := by rw [h]; rfl
    have : other ≠ 0 := by
      intro h'
      rw [h'] at hne'
      exact hne' h0.symm
    rw [if_neg this, if_pos h, if_neg this]
    rfl
  · have h0 : slotId.toNat ≠ 0 := fun h' => h (UInt32.toNat_inj.mp h')
    have : other = 0 := UInt32.toNat_inj.mp (show other.toNat = 0 by omega)
    rw [if_pos this, if_neg h, if_pos this]
    rfl

end SlotMetadata

namespace Storage

variable {state : SlotState}

/-- Only a verified slot becomes pending. -/
theorem transitionIsAllowed_pending :
    transitionIsAllowed state .pending = true ↔ state = .verified := by
  cases state <;> simp [transitionIsAllowed]

/-- Only a pending slot is confirmed. -/
theorem transitionIsAllowed_confirmed :
    transitionIsAllowed state .confirmed = true ↔ state = .pending := by
  cases state <;> simp [transitionIsAllowed]

/-- What a transition has checked, and what it leads to. -/
structure Transitioned (current : SlotMetadata) (transition : SlotTransition)
    (next : SlotMetadata) : Prop where
  valid : metadataIsValid current = true
  slot : transition.slotId < slotCount
  inactive : transition.slotId ≠ current.activeSlot
  room : current.metadataGeneration ≠ u64Max
  edge : transitionIsAllowed (current.slot transition.slotId).state transition.nextState = true
  pending : transition.nextState = .pending →
    transition.bootAttempts ≠ 0 ∧ current.pendingSlot = slotNone
  identity : transition.nextState ≠ .staging →
    transitionIdentityMatches (current.slot transition.slotId) transition = true
  validNext : metadataIsValid next = true
  next_eq : next = withWireDigest (transitionTarget current transition)

variable {current : SlotMetadata} {transition : SlotTransition}

theorem metadataTransition_eq_ok {next : SlotMetadata}
    (h : metadataTransition current transition = .ok next) :
    Transitioned current transition next := by
  unfold metadataTransition at h
  simp only [bind_eq_ok, refuse_eq_ok, mapStatus_eq_ok, pure_eq_ok, exists_const] at h
  obtain ⟨hchecks, hatts, hidentity, wire, hwire, rfl⟩ := h
  obtain ⟨hvalid, rfl⟩ := metadataEncode_eq_ok.mp hwire
  simp only [Bool.or_eq_false_iff, Bool.not_eq_false', bne_eq_false_iff_eq,
    beq_eq_false_iff_ne, decide_eq_false_iff_not, UInt32.not_le] at hchecks
  obtain ⟨⟨⟨⟨⟨⟨⟨⟨⟨⟨⟨⟨⟨hcur, -⟩, -⟩, -⟩, hslot⟩, hinact⟩, -⟩, -⟩, -⟩, -⟩, -⟩, -⟩, hroom⟩,
    hedge⟩ := hchecks
  refine ⟨hcur, hslot, hinact, hroom, hedge, ?_, ?_, hvalid, ?_⟩
  · intro hpend
    rw [if_pos (by simpa using hpend)] at hatts
    simp only [Bool.or_eq_false_iff, beq_eq_false_iff_ne, bne_eq_false_iff_eq] at hatts
    exact hatts
  · intro hstag
    have hne : (transition.nextState != SlotState.staging) = true := by simpa using hstag
    rw [hne, Bool.true_and, Bool.not_eq_false'] at hidentity
    exact hidentity
  · -- the digest of the wire is the digest of the body in front of it
    unfold withWireDigest metadataWire
    rw [sha256_patch_before (by decide), sha256_patch_before (by decide)]

variable (current transition)

theorem transitionTarget_slots :
    (transitionTarget current transition).slots =
      (current.setSlot transition.slotId (transitionEntry current transition)).slots := by
  unfold transitionTarget
  cases transition.nextState <;> rfl

theorem transitionTarget_generation :
    (transitionTarget current transition).metadataGeneration = current.metadataGeneration + 1 := by
  unfold transitionTarget
  cases transition.nextState <;> rfl

theorem transitionTarget_activeSlot :
    (transitionTarget current transition).activeSlot =
      if transition.nextState = .confirmed then transition.slotId else current.activeSlot := by
  unfold transitionTarget
  cases transition.nextState <;> rfl

theorem transitionTarget_slot_self :
    (transitionTarget current transition).slot transition.slotId =
      transitionEntry current transition := by
  have hslots := transitionTarget_slots current transition
  unfold SlotMetadata.slot
  rw [hslots]
  exact SlotMetadata.slot_setSlot_self

variable {current transition}

theorem transitionTarget_slot_other {other : UInt32} (hslot : transition.slotId < slotCount)
    (ho : other < slotCount) (hne : other ≠ transition.slotId) :
    (transitionTarget current transition).slot other = current.slot other := by
  have hslots := transitionTarget_slots current transition
  have hother : (current.setSlot transition.slotId (transitionEntry current transition)).slot other =
      current.slot other := SlotMetadata.slot_setSlot_of_ne hslot ho hne
  unfold SlotMetadata.slot at hother ⊢
  rw [hslots]
  exact hother

/-- The entry of a transition has the state, the attempts and the identity that it names. -/
theorem transitionEntry_named
    (h : transition.nextState ≠ .staging →
      transitionIdentityMatches (current.slot transition.slotId) transition = true) :
    (transitionEntry current transition).state = transition.nextState ∧
      (transitionEntry current transition).bootAttempts = transition.bootAttempts ∧
      (transitionEntry current transition).imageGeneration = transition.imageGeneration ∧
      (transitionEntry current transition).manifestDigest = transition.manifestDigest ∧
      (transitionEntry current transition).imageSetDigest = transition.imageSetDigest ∧
      (transitionEntry current transition).layoutDigest = transition.layoutDigest := by
  unfold transitionEntry
  by_cases hstag : transition.nextState = .staging
  · rw [if_pos (by simpa using hstag)]
    exact ⟨rfl, rfl, rfl, rfl, rfl, rfl⟩
  · have hidentity := h hstag
    simp only [transitionIdentityMatches, Bool.and_eq_true, beq_iff_eq, Digest.equal_iff] at hidentity
    obtain ⟨⟨⟨hgen, hman⟩, hset⟩, hlay⟩ := hidentity
    rw [if_neg (by simpa using hstag)]
    exact ⟨rfl, rfl, hgen, hman, hset, hlay⟩

section Transitioned

variable {current next : SlotMetadata} {transition : SlotTransition}
  (h : Transitioned current transition next)
include h

theorem Transitioned.slot_self :
    next.slot transition.slotId = transitionEntry current transition := by
  rw [h.next_eq]
  exact transitionTarget_slot_self current transition

/-- The other slot keeps its entry. -/
theorem Transitioned.slot_other {other : UInt32} (ho : other < slotCount)
    (hne : other ≠ transition.slotId) : next.slot other = current.slot other := by
  rw [h.next_eq]
  exact transitionTarget_slot_other h.slot ho hne

/-- A transition names the state, the attempts and the identity of the entry it leaves. -/
theorem Transitioned.entry :
    (next.slot transition.slotId).state = transition.nextState ∧
      (next.slot transition.slotId).bootAttempts = transition.bootAttempts ∧
      (next.slot transition.slotId).imageGeneration = transition.imageGeneration ∧
      (next.slot transition.slotId).manifestDigest = transition.manifestDigest ∧
      (next.slot transition.slotId).imageSetDigest = transition.imageSetDigest ∧
      (next.slot transition.slotId).layoutDigest = transition.layoutDigest := by
  rw [h.slot_self]
  exact transitionEntry_named h.identity

/-- Along every edge but staging the slot keeps its identity. -/
theorem Transitioned.keeps_identity (hstag : transition.nextState ≠ .staging) :
    (next.slot transition.slotId).imageGeneration =
        (current.slot transition.slotId).imageGeneration ∧
      (next.slot transition.slotId).manifestDigest =
        (current.slot transition.slotId).manifestDigest ∧
      (next.slot transition.slotId).imageSetDigest =
        (current.slot transition.slotId).imageSetDigest ∧
      (next.slot transition.slotId).layoutDigest =
        (current.slot transition.slotId).layoutDigest := by
  rw [h.slot_self]
  unfold transitionEntry
  rw [if_neg (by simpa using hstag)]
  exact ⟨rfl, rfl, rfl, rfl⟩

theorem Transitioned.generation : next.metadataGeneration = current.metadataGeneration + 1 := by
  rw [h.next_eq]
  exact transitionTarget_generation current transition

/-- The active slot changes only by a confirmation. -/
theorem Transitioned.activeSlot :
    next.activeSlot =
      if transition.nextState = .confirmed then transition.slotId else current.activeSlot := by
  rw [h.next_eq]
  exact transitionTarget_activeSlot current transition

end Transitioned

/-! ### The metadata that a transition leads to -/

variable {slotId : UInt32}

variable {entry : SlotEntry} {g : UInt64}

/-- What is checked of the entry of a slot that is not empty. -/
theorem slotEntryIsValid_iff (hstate : entry.state ≠ .empty) :
    slotEntryIsValid entry slotId g = true ↔
      entry.slotId = slotId ∧ entry.flags = 0 ∧ entry.bootAttempts ≤ maxBootAttempts ∧
      reservedZero entry.reserved = true ∧ entry.metadataGeneration ≠ 0 ∧
      entry.metadataGeneration ≤ g ∧ entry.imageGeneration ≠ 0 ∧
      entry.manifestDigest.isZero = false ∧ entry.imageSetDigest.isZero = false ∧
      entry.layoutDigest.isZero = false ∧ (entry.state = .pending ↔ entry.bootAttempts ≠ 0) := by
  unfold slotEntryIsValid
  by_cases hpend : entry.state = .pending
  · simp +contextual [hpend, and_assoc]
  · simp +contextual [hstate, hpend, and_assoc]

theorem slotEntryIsValid_mono {g' : UInt64} (h : slotEntryIsValid entry slotId g = true)
    (hle : g ≤ g') :
    slotEntryIsValid entry slotId g' = true := by
  by_cases hempty : entry.state = .empty
  · unfold slotEntryIsValid at h ⊢
    simp only [hempty, beq_self_eq_true, if_true] at h ⊢
    exact h
  · obtain ⟨hid, hflags, hboots, hresv, hzero, hold, hrest⟩ := (slotEntryIsValid_iff hempty).mp h
    exact (slotEntryIsValid_iff hempty).mpr
      ⟨hid, hflags, hboots, hresv, hzero, UInt64.le_trans hold hle, hrest⟩

theorem succ_ne_zero_of_room (h : g ≠ u64Max) : g + 1 ≠ 0 := by
  intro hzero
  refine h ?_
  rw [← UInt64.add_sub_cancel g 1, hzero]
  rfl

theorem le_succ_of_room (h : g ≠ u64Max) : g ≤ g + 1 := by
  have hne : g.toNat ≠ 2 ^ 64 - 1 := fun heq => h (UInt64.toNat_inj.mp heq)
  have := g.toNat_lt
  rw [UInt64.le_iff_toNat_le, UInt64.toNat_add]
  show g.toNat ≤ (g.toNat + 1) % 2 ^ 64
  omega

theorem slot_cases (h : slotId < slotCount) : slotId = 0 ∨ slotId = 1 := by
  have h : slotId.toNat < 2 := UInt32.lt_iff_toNat_lt.mp h
  rcases Nat.lt_or_ge slotId.toNat 1 with h0 | h1
  · exact .inl (UInt32.toNat_inj.mp (show slotId.toNat = 0 by omega))
  · exact .inr (UInt32.toNat_inj.mp (show slotId.toNat = 1 by omega))

/-- What is checked of metadata, slot by slot. -/
structure MetadataValid (metadata : SlotMetadata) : Prop where
  native : metadata.size = metadataSizeOf ∧ metadata.abiVersion = abiVersion ∧
    metadata.flags = 0 ∧ metadata.slotCount = slotCount ∧ reservedZero metadata.reserved = true
  generation : metadata.metadataGeneration ≠ 0
  activeSlot : metadata.activeSlot < slotCount
  confirmed : (metadata.slot metadata.activeSlot).state = .confirmed
  entries : ∀ slotId < slotCount,
    slotEntryIsValid (metadata.slot slotId) slotId metadata.metadataGeneration = true
  pendingSlot : metadata.pendingSlot = slotNone ∨ metadata.pendingSlot < slotCount
  pending : ∀ slotId < slotCount,
    (metadata.slot slotId).state = .pending ↔ metadata.pendingSlot = slotId

theorem forall_slot {P : UInt32 → Prop} : (∀ slotId < slotCount, P slotId) ↔ P 0 ∧ P 1 := by
  constructor
  · intro h
    exact ⟨h 0 (by decide), h 1 (by decide)⟩
  · rintro ⟨h0, h1⟩ slotId hslot
    rcases slot_cases hslot with rfl | rfl
    · exact h0
    · exact h1

/-- Beside a confirmed active slot, at most the other slot is pending, and the metadata names it. -/
theorem pending_iff {active pending : UInt32} {a b : SlotState} (hactive : active < slotCount)
    (hconf : (if active = 0 then a else b) = .confirmed)
    (hpend : pending = slotNone ∨ pending < slotCount) :
    (if pending = slotNone then
        (if a = .pending then 1 else 0) + (if b = .pending then 1 else 0) = 0
      else ((if a = .pending then 1 else 0) + (if b = .pending then 1 else 0) = 1 ∧
        pending ≠ active) ∧ (if pending = 0 then a else b) = .pending) ↔
      (a = .pending ↔ pending = 0) ∧ (b = .pending ↔ pending = 1) := by
  have h01 : (0 : UInt32) ≠ slotNone ∧ (1 : UInt32) ≠ slotNone := by decide
  rcases slot_cases hactive with rfl | rfl
  · obtain rfl : a = .confirmed := hconf
    rcases hpend with rfl | hpend
    · simp [h01.1.symm, h01.2.symm]
    · rcases slot_cases hpend with rfl | rfl
      · simp [h01]
      · by_cases hb : b = .pending <;> simp [hb, h01]
  · obtain rfl : b = .confirmed := hconf
    rcases hpend with rfl | hpend
    · simp [h01.1.symm, h01.2.symm]
    · rcases slot_cases hpend with rfl | rfl
      · by_cases ha : a = .pending <;> simp [ha, h01]
      · simp [h01]

theorem metadataIsValid_iff {metadata : SlotMetadata} :
    metadataIsValid metadata = true ↔ MetadataValid metadata := by
  have hpendings : ∀ a b : SlotEntry,
      ([a, b].filter (·.state == .pending)).length =
        (if a.state = .pending then 1 else 0) + (if b.state = .pending then 1 else 0) := by
    intro a b
    by_cases ha : a.state = .pending <;> by_cases hb : b.state = .pending <;> simp [ha, hb]
  have hlist : metadata.slots.toList = [metadata.slots[0], metadata.slots[1]] := by
    obtain ⟨⟨l⟩, hl⟩ := metadata.slots
    rcases l with _ | ⟨a, _ | ⟨b, _ | _⟩⟩ <;> first | rfl | simp at hl
  unfold metadataIsValid
  rw [hlist, hpendings]
  have hslot : ∀ slotId, (metadata.slot slotId).state =
      if slotId = 0 then metadata.slots[0].state else metadata.slots[1].state := fun slotId =>
    apply_ite SlotEntry.state _ _ _
  simp only [Bool.and_eq_true, beq_iff_eq, bne_iff_ne, decide_eq_true_eq, Bool.or_eq_true,
    Bool.ite_eq_true_distrib, hslot]
  constructor
  · rintro ⟨⟨⟨⟨⟨⟨⟨⟨⟨⟨⟨h1, h2⟩, h3⟩, h4⟩, hg⟩, hactive⟩, hp⟩, hconf⟩, h5⟩, ha⟩, hb⟩, hpend⟩
    exact ⟨⟨h1, h2, h3, h4, h5⟩, hg, hactive, (hslot _).trans hconf, forall_slot.mpr ⟨ha, hb⟩, hp,
      forall_slot.mpr ((pending_iff hactive hconf hp).mp hpend)⟩
  · rintro ⟨⟨h1, h2, h3, h4, h5⟩, hg, hactive, hconf, hents, hp, hpend⟩
    obtain ⟨ha, hb⟩ := forall_slot.mp hents
    rw [hslot] at hconf
    exact ⟨⟨⟨⟨⟨⟨⟨⟨⟨⟨⟨h1, h2⟩, h3⟩, h4⟩, hg⟩, hactive⟩, hp⟩, hconf⟩, h5⟩, ha⟩, hb⟩,
      (pending_iff hactive hconf hp).mpr (forall_slot.mp hpend)⟩

/-- Where the inactive slot is not pending, no slot is. -/
theorem MetadataValid.pendingSlot_none {metadata : SlotMetadata} (valid : MetadataValid metadata)
    (hslot : slotId < slotCount) (hinact : slotId ≠ metadata.activeSlot)
    (hstate : (metadata.slot slotId).state ≠ .pending) :
    metadata.pendingSlot = slotNone := by
  refine valid.pendingSlot.resolve_right fun hp => ?_
  have hpend := (valid.pending _ hp).mpr rfl
  by_cases hsame : metadata.pendingSlot = slotId
  · rw [hsame] at hpend
    exact hstate hpend
  · have hactive : metadata.pendingSlot = metadata.activeSlot := by
      have h1 : metadata.pendingSlot.toNat < 2 := UInt32.lt_iff_toNat_lt.mp hp
      have h2 : slotId.toNat < 2 := UInt32.lt_iff_toNat_lt.mp hslot
      have h3 : metadata.activeSlot.toNat < 2 := UInt32.lt_iff_toNat_lt.mp valid.activeSlot
      have h4 : metadata.pendingSlot.toNat ≠ slotId.toNat := fun h => hsame (UInt32.toNat_inj.mp h)
      have h5 : slotId.toNat ≠ metadata.activeSlot.toNat :=
        fun h => hinact (UInt32.toNat_inj.mp h)
      exact UInt32.toNat_inj.mp (by omega)
    rw [hactive, valid.confirmed] at hpend
    cases hpend

theorem slotNone_ne (h : slotId < slotCount) : slotNone ≠ slotId := by
  rintro rfl
  revert h
  decide

/-- What is checked before the metadata that a transition leads to is validated again. -/
structure Requested (current : SlotMetadata) (transition : SlotTransition) : Prop where
  valid : MetadataValid current
  native : transition.size = transitionSizeOf ∧ transition.abiVersion = abiVersion ∧
    transition.flags = 0 ∧ reservedZero transition.reserved = true
  slot : transition.slotId < slotCount
  inactive : transition.slotId ≠ current.activeSlot
  few : transition.bootAttempts ≤ maxBootAttempts
  image : transition.imageGeneration ≠ 0
  manifest : transition.manifestDigest.isZero = false
  imageSet : transition.imageSetDigest.isZero = false
  layout : transition.layoutDigest.isZero = false
  room : current.metadataGeneration ≠ u64Max
  edge : transitionIsAllowed (current.slot transition.slotId).state transition.nextState = true
  attempts : transition.nextState = .pending ↔ transition.bootAttempts ≠ 0
  identity : transition.nextState ≠ .staging →
    transitionIdentityMatches (current.slot transition.slotId) transition = true

/-- An edge does not lead to the empty state, and only the edges out of a pending slot lead to a
slot that is confirmed. -/
theorem transitionIsAllowed_next {next : SlotState} (h : transitionIsAllowed state next = true) :
    next ≠ .empty ∧ (next = .staging ∨ next = .verified → state ≠ .pending) := by
  cases state <;> cases next <;> simp_all [transitionIsAllowed]

/-- A valid entry belongs to its slot, whatever state it is in. -/
theorem slotEntryIsValid_base (h : slotEntryIsValid entry slotId g = true) :
    entry.slotId = slotId ∧ entry.flags = 0 ∧ reservedZero entry.reserved = true := by
  unfold slotEntryIsValid at h
  simp only [Bool.and_eq_true, beq_iff_eq] at h
  exact ⟨h.1.1.1.1, h.1.1.1.2, h.1.2⟩

section Requested

variable {current : SlotMetadata} {transition : SlotTransition}
  (h : Requested current transition)
include h

theorem Requested.entry_valid :
    slotEntryIsValid (transitionEntry current transition) transition.slotId
      (current.metadataGeneration + 1) = true := by
  obtain ⟨hstate, hboots, himage, hman, hset, hlay⟩ := transitionEntry_named h.identity
  obtain ⟨hid, hflags, hresv⟩ := slotEntryIsValid_base (h.valid.entries _ h.slot)
  have hkept : (transitionEntry current transition).slotId =
        (current.slot transition.slotId).slotId ∧
      (transitionEntry current transition).flags = (current.slot transition.slotId).flags ∧
      (transitionEntry current transition).reserved =
        (current.slot transition.slotId).reserved ∧
      (transitionEntry current transition).metadataGeneration =
        current.metadataGeneration + 1 := by
    unfold transitionEntry
    split <;> exact ⟨rfl, rfl, rfl, rfl⟩
  obtain ⟨hid', hflags', hresv', hgen⟩ := hkept
  have hne : (transitionEntry current transition).state ≠ .empty := by
    rw [hstate]
    exact (transitionIsAllowed_next h.edge).1
  rw [slotEntryIsValid_iff hne, hid', hflags', hresv', hgen, hstate, hboots, himage,
    hman, hset, hlay]
  exact ⟨hid, hflags, h.few, hresv, succ_ne_zero_of_room h.room, UInt64.le_refl _, h.image,
    h.manifest, h.imageSet, h.layout, h.attempts⟩

/-- After a transition, the slot is the pending one if that is its new state, and none is
otherwise. -/
theorem Requested.target_pendingSlot :
    (transitionTarget current transition).pendingSlot =
      if transition.nextState = .pending then transition.slotId else slotNone := by
  have hkeeps := (transitionIsAllowed_next h.edge).2
  have hnone := h.valid.pendingSlot_none h.slot h.inactive
  unfold transitionTarget
  cases hnext : transition.nextState with
  | empty => exact absurd hnext (transitionIsAllowed_next h.edge).1
  | staging => exact hnone (hkeeps (.inl hnext))
  | verified => exact hnone (hkeeps (.inr hnext))
  | pending => rfl
  | confirmed => rfl
  | bad => rfl

/-- **Closure.**  A transition that was admitted leads from valid metadata to valid metadata. -/
theorem Requested.target_valid : MetadataValid (transitionTarget current transition) := by
  have hself := transitionTarget_slot_self current transition
  have hstate := (transitionEntry_named h.identity).1
  have hgen := transitionTarget_generation current transition
  have hactive := transitionTarget_activeSlot current transition
  have hp := h.target_pendingSlot
  constructor
  case native =>
    have hnative := h.valid.native
    unfold transitionTarget
    cases transition.nextState <;> exact hnative
  case generation =>
    rw [hgen]
    exact succ_ne_zero_of_room h.room
  case activeSlot =>
    rw [hactive]
    split
    · exact h.slot
    · exact h.valid.activeSlot
  case confirmed =>
    rw [hactive]
    by_cases hconf : transition.nextState = .confirmed
    · rw [if_pos hconf, hself, hstate, hconf]
    · rw [if_neg hconf,
        transitionTarget_slot_other h.slot h.valid.activeSlot (Ne.symm h.inactive)]
      exact h.valid.confirmed
  case entries =>
    intro slotId hs
    rw [hgen]
    by_cases hsame : slotId = transition.slotId
    · rw [hsame, hself]
      exact h.entry_valid
    · rw [transitionTarget_slot_other h.slot hs hsame]
      exact slotEntryIsValid_mono (h.valid.entries _ hs) (le_succ_of_room h.room)
  case pendingSlot =>
    rw [hp]
    split
    · exact .inr h.slot
    · exact .inl rfl
  case pending =>
    intro slotId hs
    rw [hp]
    by_cases hsame : slotId = transition.slotId
    · rw [hsame, hself, hstate]
      by_cases hpend : transition.nextState = .pending
      · simp [hpend]
      · simp [hpend, slotNone_ne h.slot]
    · -- the other slot is the active one
      have hother : slotId = current.activeSlot := by
        have hslot := h.slot
        have hinact := h.inactive
        have hcur := h.valid.activeSlot
        rcases slot_cases hs with rfl | rfl <;> rcases slot_cases hslot with heq | heq <;>
          rcases slot_cases hcur with heq' | heq' <;> simp_all
      rw [transitionTarget_slot_other h.slot hs hsame, hother, h.valid.confirmed]
      by_cases hpend : transition.nextState = .pending
      · simp [hpend, h.inactive]
      · simp [hpend, slotNone_ne h.valid.activeSlot]

/-- Validation at the end does not refuse what was admitted. -/
theorem Requested.transitions : ∃ next, metadataTransition current transition = .ok next := by
  have hvalid := metadataIsValid_iff.mpr h.valid
  have htgt := metadataIsValid_iff.mpr h.target_valid
  obtain ⟨hsize, habi, hflags, hresv⟩ := h.native
  refine ⟨{ transitionTarget current transition with
    wireDigest := sha256 (metadataWire (transitionTarget current transition)) metadataBodyBytes }, ?_⟩
  unfold metadataTransition
  simp only [bind_eq_ok, refuse_eq_ok, mapStatus_eq_ok, pure_eq_ok, exists_const]
  refine ⟨?_, ?_, ?_, _, metadataEncode_eq_ok.mpr ⟨htgt, rfl⟩, rfl⟩
  · simp [hvalid, hsize, habi, hflags, hresv, h.room, h.edge, h.inactive, h.image, h.manifest,
      h.imageSet, h.layout, h.slot, h.few]
  · by_cases hpend : transition.nextState = .pending
    · have hstate : (current.slot transition.slotId).state ≠ .pending := by
        have hedge := h.edge
        rw [hpend, transitionIsAllowed_pending] at hedge
        simp [hedge]
      simp [hpend, h.valid.pendingSlot_none h.slot h.inactive hstate, h.attempts.mp hpend]
    · have hzero : transition.bootAttempts = 0 := not_not.mp (mt h.attempts.mpr hpend)
      simp [hpend, hzero]
  · by_cases hstag : transition.nextState = .staging
    · simp [hstag]
    · simp [h.identity hstag]

end Requested

/-- The edges of an install behind its staging, with the attempts they leave. -/
inductive InstallEdge : SlotState → SlotState → UInt32 → Prop
  | verify : InstallEdge .staging .verified 0
  | pend {attempts : UInt32} (some : attempts ≠ 0) (few : attempts ≤ maxBootAttempts) :
      InstallEdge .verified .pending attempts

/-- **The edges of an install behind its staging can be taken.** -/
theorem InstallEdge.transitions
    (edge : InstallEdge (current.slot transition.slotId).state transition.nextState
      transition.bootAttempts) (hvalid : metadataIsValid current = true)
    (hslot : transition.slotId < slotCount) (hinact : transition.slotId ≠ current.activeSlot)
    (hroom : current.metadataGeneration ≠ u64Max)
    (hnative : transition.size = transitionSizeOf ∧ transition.abiVersion = abiVersion ∧
      transition.flags = 0 ∧ reservedZero transition.reserved = true)
    (hidentity : transitionIdentityMatches (current.slot transition.slotId) transition = true) :
    ∃ next, metadataTransition current transition = .ok next := by
  have valid := metadataIsValid_iff.mp hvalid
  have hmatches := hidentity
  simp only [transitionIdentityMatches, Bool.and_eq_true, beq_iff_eq, Digest.equal_iff] at hmatches
  obtain ⟨⟨⟨himage, hman⟩, hset⟩, hlay⟩ := hmatches
  have hedge : (current.slot transition.slotId).state ≠ .empty ∧
      transition.bootAttempts ≤ maxBootAttempts ∧
      transitionIsAllowed (current.slot transition.slotId).state transition.nextState = true ∧
      (transition.nextState = .pending ↔ transition.bootAttempts ≠ 0) := by
    generalize (current.slot transition.slotId).state = state at edge
    generalize transition.nextState = next at edge
    generalize transition.bootAttempts = attempts at edge
    cases edge with
    | verify => decide
    | pend hsome hfew => simp [hsome, hfew, transitionIsAllowed]
  obtain ⟨hempty, hfew, hallowed, hatts⟩ := hedge
  obtain ⟨-, -, -, -, -, -, himage', hman', hset', hlay', -⟩ :=
    (slotEntryIsValid_iff hempty).mp (valid.entries _ hslot)
  rw [himage] at himage'
  rw [hman] at hman'
  rw [hset] at hset'
  rw [hlay] at hlay'
  exact Requested.transitions ⟨valid, hnative, hslot, hinact, hfew, himage', hman', hset',
    hlay', hroom, hallowed, hatts, fun _ => hidentity⟩

end Storage

end Ribon
