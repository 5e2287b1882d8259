/-
The check of a direct load plan that the architecture backends share.

An address is canonical for a width if its upper bits repeat the sign bit: it is in
the low half or in the high half of what the width can reach.  The check looks at the
first and at the last address of a segment.
-/
import Mathlib.Data.Nat.Bitwise
import Ribon.Arch.Ops
import Ribon.Image.Analysis

namespace Ribon.Arch

def addressIsCanonical (address : UInt64) (virtualAddressBits : UInt32) : Bool :=
  if virtualAddressBits == 0 || decide (64 < virtualAddressBits) then false
  else if virtualAddressBits == 64 then true
  else
    let signBit := (1 : UInt64) <<< (virtualAddressBits - 1).toUInt64
    let highMask := ~~~(((1 : UInt64) <<< virtualAddressBits.toUInt64) - 1)
    if address &&& signBit == 0 then address &&& highMask == 0
    else address &&& highMask == highMask

/-- The machine number that an image of the format has for this architecture. -/
def expectedMachine (arch : ArchDescriptor) : ExecutableFormat → UInt16
  | .elf64 => arch.elfMachine
  | .peCoff => arch.peCoffMachine
  | .linuxAarch64 => if arch.id == .aarch64 then arch.elfMachine else 0
  | .linuxRiscv64 => if arch.id == .riscv64 then arch.elfMachine else 0
  | .unknown => 0

/-- The facts about the high half that the check adds to a plan; the lowest high segment is
the high entry. -/
def noteSegment (arch : ArchDescriptor) (plan : DirectLoadPlan) (segment : LoadSegment) :
    DirectLoadPlan :=
  if segment.virtualAddress &&& ((1 : UInt64) <<< (arch.virtualAddressBits - 1).toUInt64) == 0
  then plan
  else
    let noted := { plan with
      loadPlanFlags :=
        plan.loadPlanFlags ||| loadPlanHasHigherHalf ||| loadPlanDirectHighEntryCandidate }
    if plan.highEntryVirtualAddress == 0 ||
        decide (segment.virtualAddress < plan.highEntryVirtualAddress) then
      { noted with
        highEntryVirtualAddress := segment.virtualAddress
        highEntryLoadAddress := segment.loadAddress }
    else noted

def segmentIsValid (arch : ArchDescriptor) (segment : LoadSegment) : Bool :=
  segment.memorySize != 0 && decide (segment.fileSize ≤ segment.memorySize) &&
  addressIsCanonical segment.virtualAddress arch.virtualAddressBits &&
  decide (segment.virtualAddress ≤ u64Max - segment.memorySize) &&
  addressIsCanonical (segment.virtualAddress + segment.memorySize - 1) arch.virtualAddressBits

def coversEntry (entryPoint : UInt64) (segment : LoadSegment) : Bool :=
  decide (segment.virtualAddress ≤ entryPoint) &&
  decide (entryPoint < segment.virtualAddress + segment.memorySize) && segment.isExecutable

def imageIsAccepted (arch : ArchDescriptor) (image : ValidatedImage) (plan : DirectLoadPlan) :
    Bool :=
  validatedImageIsValid image && plan.size == directLoadPlanSizeOf &&
  plan.abiVersion == directLoadPlanAbiVersion && arch.canonicalName.isSome &&
  arch.wordBits == 64 && arch.pageSize != 0 &&
  image.executionSupport &&& imageExecutionDirectEntry != 0 && plan.storage &&
  !plan.segments.isEmpty && decide (plan.segments.length ≤ plan.segmentCapacity.toNat) &&
  expectedMachine arch image.format != 0 && image.machine == expectedMachine arch image.format &&
  addressIsCanonical plan.entryPoint arch.virtualAddressBits

/-- The plan that passes, with what the check has found out. -/
def validateDirectLoad (arch : ArchDescriptor) (image : ValidatedImage) (plan : DirectLoadPlan) :
    Option DirectLoadPlan :=
  if imageIsAccepted arch image plan && plan.segments.all (segmentIsValid arch) &&
      plan.segments.any (coversEntry plan.entryPoint) then
    some (plan.segments.foldl (noteSegment arch) plan)
  else none

/-! ### Canonical addresses -/

/-- In the low half of the width or in the high half. -/
def Canonical (bits address : Nat) : Prop :=
  address < 2 ^ (bits - 1) ∨ 2 ^ 64 - 2 ^ (bits - 1) ≤ address

theorem toNat_one_shiftLeft {n : Nat} (hn : n < 64) (shift : UInt64) (hshift : shift.toNat = n) :
    ((1 : UInt64) <<< shift).toNat = 2 ^ n := by
  have hone : (1 : UInt64).toNat = 1 := rfl
  rw [UInt64.toNat_shiftLeft, hshift, Nat.mod_eq_of_lt hn, hone, Nat.one_shiftLeft,
    Nat.mod_eq_of_lt (Nat.pow_lt_pow_right (by omega) hn)]

/-- The halves of a width, in the quotient and the remainder of an address. -/
theorem canonical_split {half count quotient rest : Nat} (hrest : rest < 2 * half)
    (hquotient : quotient < count) :
    (if rest < half then 2 * half * quotient = 0
      else 2 * half * quotient = 2 * half * count - 2 * half) ↔
      (2 * half * quotient + rest < half ∨
        2 * half * count - half ≤ 2 * half * quotient + rest) := by
  have hlow : 2 * half * quotient = 0 ∨ 2 * half ≤ 2 * half * quotient := by
    rcases Nat.eq_zero_or_pos quotient with rfl | hpos
    · exact .inl (Nat.mul_zero _)
    · exact .inr (Nat.le_mul_of_pos_right _ hpos)
  have hhigh : 2 * half * count = 2 * half * quotient + 2 * half ∨
      2 * half * quotient + 2 * half + 2 * half ≤ 2 * half * count := by
    rcases Nat.eq_or_lt_of_le hquotient with rfl | hless
    · exact .inl (Nat.mul_succ _ _)
    · exact .inr (Nat.mul_le_mul_left (2 * half) hless)
  split <;> omega

/-- **The check of an address.**  The masks pick the sign bit and the bits above the width. -/
theorem addressIsCanonical_iff {address : UInt64} {bits : UInt32} :
    addressIsCanonical address bits = true ↔
      0 < bits.toNat ∧ bits.toNat ≤ 64 ∧ Canonical bits.toNat address.toNat := by
  have hmax : (64 : UInt32).toNat = 64 := rfl
  have hzero : (0 : UInt64).toNat = 0 := rfl
  simp only [addressIsCanonical, Bool.or_eq_true, beq_iff_eq, decide_eq_true_eq,
    UInt32.lt_iff_toNat_lt, ← UInt32.toNat_inj, hmax, UInt32.toNat_zero]
  split
  · next hwidth =>
    simp only [Bool.false_eq_true, false_iff]
    omega
  split
  · next hfull =>
    simp only [hfull, Canonical, true_iff]
    omega
  -- Half of the reach of the width, and how often the reach fits into a word.
  obtain ⟨k, hk⟩ : ∃ k, bits.toNat = k + 1 := ⟨bits.toNat - 1, by omega⟩
  have hsign : ((1 : UInt64) <<< (bits - 1).toUInt64).toNat = 2 ^ k := by
    refine toNat_one_shiftLeft (by omega) _ ?_
    have hone : (1 : UInt32) ≤ bits := UInt32.le_iff_toNat_le.mpr (by rw [hk]; exact k.succ_pos)
    rw [UInt32.toNat_toUInt64, UInt32.toNat_sub_of_le _ _ hone, hk]
    rfl
  have hpow : (2 : Nat) ^ 64 = 2 * 2 ^ k * 2 ^ (63 - k) := by
    rw [← Nat.pow_succ', ← Nat.pow_add]
    congr 1
    omega
  have hhalf : 0 < 2 ^ k := Nat.two_pow_pos k
  have hmask : (((1 : UInt64) <<< bits.toUInt64) - 1).toNat = 2 * 2 ^ k - 1 := by
    have hreach : ((1 : UInt64) <<< bits.toUInt64).toNat = 2 * 2 ^ k := by
      rw [toNat_one_shiftLeft (show k + 1 < 64 by omega) _ (by rw [UInt32.toNat_toUInt64, hk]),
        Nat.pow_succ']
    rw [toNat_pred (by omega), hreach]
  have hhigh : (~~~(((1 : UInt64) <<< bits.toUInt64) - 1)).toNat = 2 ^ 64 - 2 * 2 ^ k := by
    rw [UInt64.toNat_not, hmask]
    show 2 ^ 64 - 1 - (2 * 2 ^ k - 1) = 2 ^ 64 - 2 * 2 ^ k
    omega
  have hdivide := Nat.div_add_mod address.toNat (2 * 2 ^ k)
  have hrest := Nat.mod_lt address.toNat (show 0 < 2 * 2 ^ k by omega)
  have hquotient : address.toNat / (2 * 2 ^ k) < 2 ^ (63 - k) := by
    rw [Nat.div_lt_iff_lt_mul (by omega), Nat.mul_comm, ← hpow]
    exact address.toNat_lt
  have hupper : (address &&& ~~~(((1 : UInt64) <<< bits.toUInt64) - 1)).toNat =
      2 * 2 ^ k * (address.toNat / (2 * 2 ^ k)) := by
    rw [toNat_and_not, UInt64.toNat_and, hmask, ← Nat.pow_succ', Nat.and_two_pow_sub_one_eq_mod,
      Nat.pow_succ']
    omega
  have hbit : address &&& ((1 : UInt64) <<< (bits - 1).toUInt64) = 0 ↔
      address.toNat % (2 * 2 ^ k) < 2 ^ k := by
    rw [← UInt64.toNat_inj, UInt64.toNat_and, hsign, hzero, Nat.and_two_pow, Nat.mul_eq_zero,
      Nat.testBit_eq_decide_div_mod_eq, Nat.mul_comm 2 (2 ^ k), ← Nat.div_eq_zero_iff_lt hhalf,
      Nat.mod_mul_right_div_self]
    rcases Nat.mod_two_eq_zero_or_one (address.toNat / 2 ^ k) with h | h <;> simp [h]
  have hsplit := canonical_split hrest hquotient
  rw [hdivide, ← hpow] at hsplit
  rw [hk, and_iff_right k.succ_pos, and_iff_right (by omega), Canonical, Nat.add_sub_cancel, ← hsplit]
  by_cases hlower : address.toNat % (2 * 2 ^ k) < 2 ^ k
  · rw [if_pos (hbit.mpr hlower), if_pos hlower, beq_iff_eq, ← UInt64.toNat_inj, hupper, hzero]
  · rw [if_neg (hbit.not.mpr hlower), if_neg hlower, beq_iff_eq, ← UInt64.toNat_inj, hupper, hhigh]

/-! ### A plan that passes -/

section Valid

variable {arch : ArchDescriptor} {image : ValidatedImage} {plan final : DirectLoadPlan}

/-- The check changes nothing but the facts about the high half. -/
structure Noted (plan final : DirectLoadPlan) : Prop where
  segments : final.segments = plan.segments
  entryPoint : final.entryPoint = plan.entryPoint
  entryLoadAddress : final.entryLoadAddress = plan.entryLoadAddress
  runtimeEntryAddress : final.runtimeEntryAddress = plan.runtimeEntryAddress

theorem noteSegment_noted (h : Noted plan final) (segment : LoadSegment) :
    Noted plan (noteSegment arch final segment) := by
  unfold noteSegment
  split
  · exact h
  · split
    · exact ⟨h.segments, h.entryPoint, h.entryLoadAddress, h.runtimeEntryAddress⟩
    · exact ⟨h.segments, h.entryPoint, h.entryLoadAddress, h.runtimeEntryAddress⟩

theorem foldl_noteSegment_noted (segments : List LoadSegment) (h : Noted plan final) :
    Noted plan (segments.foldl (noteSegment arch) final) := by
  induction segments generalizing final with
  | nil => exact h
  | cons segment rest ih => exact ih (noteSegment_noted h segment)

/-- A segment that passes: it does not wrap, and its first and its last address are canonical. -/
structure SegmentValid (bits : Nat) (segment : LoadSegment) : Prop where
  memory : 0 < segment.memorySize.toNat
  wrap : segment.virtualEnd < 2 ^ 64
  first : Canonical bits segment.virtualStart
  last : Canonical bits (segment.virtualEnd - 1)

theorem segmentIsValid_valid {segment : LoadSegment} (h : segmentIsValid arch segment = true) :
    SegmentValid arch.virtualAddressBits.toNat segment := by
  simp only [segmentIsValid, Bool.and_eq_true, bne_iff_ne, decide_eq_true_eq,
    addressIsCanonical_iff, le_u64Max_sub_iff] at h
  obtain ⟨⟨⟨⟨hzero, _⟩, hfirst⟩, hwrap⟩, hlast⟩ := h
  have hmemory := ne_zero_iff.mp hzero
  have hsum : (segment.virtualAddress + segment.memorySize).toNat = segment.virtualEnd :=
    toNat_add_of_lt hwrap
  have hend : segment.virtualEnd = segment.virtualAddress.toNat + segment.memorySize.toNat := rfl
  refine ⟨hmemory, by omega, hfirst.2.2, ?_⟩
  have hlast := hlast.2.2
  rwa [toNat_pred (by omega), hsum] at hlast

theorem validateDirectLoad_eq_some (h : validateDirectLoad arch image plan = some final) :
    Noted plan final ∧ arch.virtualAddressBits.toNat ≤ 64 ∧
      ∀ segment ∈ plan.segments, SegmentValid arch.virtualAddressBits.toNat segment := by
  unfold validateDirectLoad at h
  split at h
  next hchecks =>
    simp only [Bool.and_eq_true, List.all_eq_true, imageIsAccepted, addressIsCanonical_iff]
      at hchecks
    cases h
    exact ⟨foldl_noteSegment_noted plan.segments ⟨rfl, rfl, rfl, rfl⟩, hchecks.1.1.2.2.1,
      fun segment hmem => segmentIsValid_valid (hchecks.1.2 segment hmem)⟩
  next => cases h

end Valid

/-- A segment of which the check sees two different halves. -/
def Straddles (bits : Nat) (segment : LoadSegment) : Prop :=
  bits < 64 ∧ segment.virtualStart < 2 ^ (bits - 1) ∧ 2 ^ (bits - 1) < segment.virtualEnd

/-- All addresses of a segment that passes are canonical, unless it starts in the low half and
ends in the high half. -/
theorem SegmentValid.canonical_iff {bits : Nat} {segment : LoadSegment}
    (h : SegmentValid bits segment) (hbits : bits ≤ 64) :
    (∀ address ∈ segment.virtualRange, Canonical bits address) ↔ ¬Straddles bits segment := by
  have hfirst := h.first
  simp only [Canonical, LoadSegment.virtualRange, Set.mem_Ico, Straddles, LoadSegment.virtualStart,
    LoadSegment.virtualEnd] at *
  constructor
  · rintro hall ⟨hlt, hstart, hend⟩
    -- The first address of the hole is one of the segment.
    have hpow' : 2 ^ (bits - 1) ≤ (2 : Nat) ^ 62 := Nat.pow_le_pow_right (by omega) (by omega)
    have hhole := hall (2 ^ (bits - 1)) ⟨by omega, by omega⟩
    omega
  · intro hnot address haddr
    by_cases hlt : bits < 64
    · by_cases hstart : segment.virtualAddress.toNat < 2 ^ (bits - 1)
      · omega
      · omega
    · have hfull : bits = 64 := by omega
      subst hfull
      omega

end Ribon.Arch
