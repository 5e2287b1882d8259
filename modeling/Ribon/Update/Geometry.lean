/-
Where things lie on the media.

A valid layout places its eleven regions one behind the other, so two different
regions share no address.  The journal's four objects lie one behind the other
in the journal region.  Seen from the journal, the media is a store of these
four objects, and everything else is outside.
-/
import Ribon.Crash.TwoSlot
import Ribon.Update.Codec

namespace Ribon

open Wire Crash Crash.TwoSlot

/-- The address behind the last one of a region. -/
def LayoutRegion.last (region : LayoutRegion) : Nat := region.offset.toNat + region.length.toNat

/-- The addresses of a region. -/
def LayoutRegion.Contains (region : LayoutRegion) (address : Nat) : Prop :=
  InRange region.offset.toNat region.length.toNat address

namespace Storage

/-- One step of the region loop. -/
theorem regionEnd_eq_some {alignment capacity cursor last : UInt64} {index : Nat}
    {region : LayoutRegion} (h : regionEnd alignment capacity index cursor region = some last) :
    region.offset = cursor ∧ last.toNat = region.last ∧ last ≤ capacity := by
  unfold regionEnd at h
  split at h
  · cases h
  next hbad =>
  simp only [Bool.or_eq_true, not_or, bne_iff_ne, ne_eq, not_not] at hbad
  obtain ⟨⟨⟨⟨⟨-, -⟩, -⟩, hoff⟩, -⟩, -⟩ := hbad
  cases hadd : addU64 region.offset region.length with
  | none => rw [hadd] at h; cases h
  | some found =>
      rw [hadd] at h
      by_cases hcap : capacity < found
      · simp only [if_pos hcap] at h
        cases h
      · simp only [if_neg hcap, Option.some.injEq] at h
        subst h
        exact ⟨hoff, addU64_eq_some hadd, UInt64.not_lt.mp hcap⟩

/-- **The region loop places every region behind the ones before it.** -/
theorem regionsEnd_sound {alignment capacity final : UInt64} :
    ∀ (rest : List LayoutRegion) (index : Nat) (cursor : UInt64),
      regionsEnd alignment capacity index cursor rest = some final →
      (∀ region ∈ rest, cursor.toNat ≤ region.offset.toNat ∧ region.last ≤ capacity.toNat) ∧
        rest.Pairwise fun before after => before.last ≤ after.offset.toNat := by
  intro rest
  induction rest with
  | nil => intro index cursor _; simp
  | cons region rest ih =>
      intro index cursor h
      simp only [regionsEnd] at h
      cases hstep : regionEnd alignment capacity index cursor region with
      | none => rw [hstep] at h; cases h
      | some last =>
      rw [hstep] at h
      obtain ⟨hoff, hlast, hcap⟩ := regionEnd_eq_some hstep
      have hcap' : last.toNat ≤ capacity.toNat := UInt64.le_iff_toNat_le.mp hcap
      obtain ⟨hall, hpairs⟩ := ih _ _ h
      have hbehind : ∀ after ∈ rest, region.last ≤ after.offset.toNat := by
        intro after hmem
        rw [← hlast]
        exact (hall after hmem).1
      refine ⟨?_, List.pairwise_cons.mpr ⟨hbehind, hpairs⟩⟩
      intro other hmem
      rcases List.mem_cons.mp hmem with rfl | hmem
      · exact ⟨by rw [hoff], by omega⟩
      · have hle : region.offset.toNat ≤ region.last := Nat.le_add_right _ _
        have := hbehind other hmem
        exact ⟨by rw [← hoff]; omega, (hall other hmem).2⟩

/-- The regions of a layout lie one behind the other, inside the media. -/
structure Placed (layout : Layout) : Prop where
  ordered : ∀ (i j : Nat) (hj : j < 11) (hij : i < j),
    layout.regions[i].last ≤ layout.regions[j].offset.toNat
  bounded : ∀ (i : Nat) (hi : i < 11), layout.regions[i].last ≤ layout.mediaCapacityBytes.toNat

theorem layoutIsStructurallyValid_placed {layout : Layout}
    (h : layoutIsStructurallyValid layout = true) : Placed layout := by
  simp only [layoutIsStructurallyValid, Bool.and_eq_true, beq_iff_eq] at h
  obtain ⟨⟨⟨-, hregs⟩, -⟩, -⟩ := h
  obtain ⟨hall, hpairs⟩ := regionsEnd_sound _ _ _ hregs
  constructor
  · intro i j hj hij
    have := (List.pairwise_iff_getElem.mp hpairs) i j (by simp; omega) (by simpa using hj) hij
    simpa using this
  · intro i hi
    exact (hall layout.regions[i] (by simp)).2

theorem layoutIdentityEncode_isOk {layout : Layout} :
    (layoutIdentityEncode layout).isOk = layoutIsStructurallyValid layout := by
  unfold layoutIdentityEncode
  cases layoutIsStructurallyValid layout <;> rfl

/-- Two different regions share no address. -/
theorem Placed.disjoint {layout : Layout} (h : Placed layout) {i j : Nat} (hi : i < 11)
    (hj : j < 11) (hne : i ≠ j) {address : Nat} (ha : layout.regions[i].Contains address) :
    ¬ layout.regions[j].Contains address := by
  rintro ⟨hlow, hhigh⟩
  obtain ⟨hlow', hhigh'⟩ := ha
  rcases Nat.lt_or_gt_of_ne hne with hij | hji
  · have := h.ordered i j hj hij
    unfold LayoutRegion.last at this
    omega
  · have := h.ordered j i hi hji
    unfold LayoutRegion.last at this
    omega

end Storage

/-! ### The journal's objects -/

namespace Transaction

/-- The number of a slot, as the code has it. -/
def slotNumber (slot : Bool) : UInt32 := if slot then 1 else 0

def objectOffset (journal : TransactionJournal) : Obj → Nat
  | .record slot => (journalRegion journal.layout).offset.toNat + slot.toNat * recordBytes
  | .selector slot =>
      (journalRegion journal.layout).offset.toNat + 2 * recordBytes + slot.toNat * selectorBytes

def objectSize : Obj → Nat
  | .record _ => recordBytes
  | .selector _ => selectorBytes

theorem bytesAt_congr {f g : Nat → UInt8} {offset size : Nat}
    (h : ∀ a, InRange offset size a → f a = g a) : bytesAt f offset size = bytesAt g offset size := by
  refine List.map_congr_left fun i hi => h _ ⟨Nat.le_add_right _ _, ?_⟩
  have := List.mem_range.mp hi
  omega

@[simp] theorem length_bytesAt (img : Nat → UInt8) (offset size : Nat) :
    (bytesAt img offset size).length = size := by
  simp [bytesAt]

/-- What was written over a range is what is read from it. -/
theorem bytesAt_data {data : List UInt8} {offset : Nat} :
    bytesAt (fun address => byteAt data (address - offset)) offset data.length = data := by
  refine List.ext_getElem (by simp) fun i h₁ h₂ => ?_
  simp [bytesAt, byteAt, List.getD_eq_getElem?_getD, h₂]

/-- The media as a store of the journal's four objects. -/
def journalOverlay (journal : TransactionJournal) : Store.Overlay Nat UInt8 Obj (List UInt8) where
  covers o := InRange (objectOffset journal o) (objectSize o)
  read o img := bytesAt img (objectOffset journal o) (objectSize o)
  read_congr := by
    intro o f g h
    exact bytesAt_congr h
  disjoint := by
    rintro (i | i) (k | k) a ⟨h₁, h₂⟩ ⟨h₃, h₄⟩ <;>
      cases i <;> cases k <;>
      simp only [objectOffset, objectSize, recordBytes, selectorBytes, Bool.toNat_true,
        Bool.toNat_false] at h₁ h₂ h₃ h₄ <;>
      first | rfl | omega

/-- The journal's objects as the media shows them. -/
abbrev journalView (journal : TransactionJournal) (w : World) : Store Obj (List UInt8) :=
  (w.media journal.provider.device).view (journalOverlay journal)

/-- An address of the journal's own objects. -/
def InJournal (journal : TransactionJournal) (address : Nat) : Prop :=
  ∃ o, (journalOverlay journal).covers o address

/-- What `journalIsValid` says about the place of the objects. -/
structure Sited (journal : TransactionJournal) : Prop where
  placed : Storage.Placed journal.layout
  room : minimumJournalBytes.toNat ≤ (journalRegion journal.layout).length.toNat

theorem journalIsValid_sited {journal : TransactionJournal} (h : journalIsValid journal = true) :
    Sited journal := by
  simp only [journalIsValid, Bool.and_eq_true, Storage.layoutIdentityEncode_isOk,
    decide_eq_true_eq] at h
  obtain ⟨⟨⟨⟨⟨⟨⟨⟨⟨⟨⟨⟨-, hlay⟩, -⟩, -⟩, hroom⟩, -⟩, -⟩, -⟩, -⟩, -⟩, -⟩, -⟩, -⟩ := h
  exact ⟨Storage.layoutIsStructurallyValid_placed hlay, UInt64.le_iff_toNat_le.mp hroom⟩

section Sited

variable {journal : TransactionJournal} (h : Sited journal)
include h

theorem Sited.inRegion {address : Nat} (ha : InJournal journal address) :
    (journalRegion journal.layout).Contains address := by
  obtain ⟨o, hlow, hhigh⟩ := ha
  have hroom : 3072 ≤ (journalRegion journal.layout).length.toNat := h.room
  rcases o with (i | i) <;> cases i <;>
    simp only [objectOffset, objectSize, recordBytes, selectorBytes, Bool.toNat_true,
      Bool.toNat_false] at hlow hhigh <;>
    exact ⟨by omega, by omega⟩

/-- The journal's objects are outside every other region. -/
theorem Sited.outside {i : Nat} (hi : i < 11) (hne : i ≠ 9) {address : Nat}
    (ha : journal.layout.regions[i].Contains address) : ¬ InJournal journal address := by
  intro hj
  exact h.placed.disjoint hi (by omega) hne ha (h.inRegion hj)

theorem Sited.end_lt : (journalRegion journal.layout).offset.toNat + 3072 < 2 ^ 64 := by
  have hroom : 3072 ≤ (journalRegion journal.layout).length.toNat := h.room
  have hend : (journalRegion journal.layout).offset.toNat +
    (journalRegion journal.layout).length.toNat ≤ _ := h.placed.bounded 9 (by omega)
  have hcap := journal.layout.mediaCapacityBytes.toNat_lt
  omega

theorem Sited.recordOffset (slot : Bool) :
    (recordOffset journal (slotNumber slot)).toNat = objectOffset journal (.record slot) := by
  have hend := h.end_lt
  cases slot with
  | false => simp [Transaction.recordOffset, slotNumber, objectOffset]
  | true =>
      simp only [Transaction.recordOffset, slotNumber, objectOffset, recordBytes, if_true,
        UInt64.toNat_add, Bool.toNat_true]
      change (_ + 1024) % _ = _
      omega

theorem Sited.selectorOffset (slot : Bool) :
    (selectorOffset journal (slotNumber slot)).toNat = objectOffset journal (.selector slot) := by
  have hend := h.end_lt
  cases slot with
  | false =>
      simp only [Transaction.selectorOffset, slotNumber, objectOffset, UInt64.toNat_add,
        Bool.toNat_false]
      change ((_ + 2048) % _ + 0) % _ = _ + 2 * 1024 + 0 * 512
      omega
  | true =>
      simp only [Transaction.selectorOffset, slotNumber, objectOffset, UInt64.toNat_add,
        Bool.toNat_true]
      change ((_ + 2048) % _ + 512) % _ = _ + 2 * 1024 + 1 * 512
      omega

end Sited

/-! ### Where slots lie -/

section Slots

variable {journal : TransactionJournal} {slot other : UInt32} {a : Nat}

theorem slot_not_inJournal (h : Sited journal)
    (ha : (Storage.slotRegion journal.layout slot).Contains a) : ¬ InJournal journal a := by
  unfold Storage.slotRegion at ha
  split at ha
  · exact h.outside (by omega) (by omega) ha
  · exact h.outside (by omega) (by omega) ha

/-- Two slots share no address. -/
theorem slot_disjoint (h : Sited journal) (hs : slot < Storage.slotCount)
    (ho : other < Storage.slotCount) (hne : slot ≠ other)
    (ha : (Storage.slotRegion journal.layout slot).Contains a) :
    ¬ (Storage.slotRegion journal.layout other).Contains a := by
  have hs' : slot.toNat < 2 := UInt32.lt_iff_toNat_lt.mp hs
  have ho' : other.toNat < 2 := UInt32.lt_iff_toNat_lt.mp ho
  have hne' : slot.toNat ≠ other.toNat := fun he => hne (UInt32.toNat_inj.mp he)
  unfold Storage.slotRegion at ha ⊢
  by_cases hzero : slot = 0
  · have hother : other ≠ 0 := fun he => hne (hzero.trans he.symm)
    rw [if_pos hzero] at ha
    rw [if_neg hother]
    exact h.placed.disjoint (by omega) (by omega) (by omega) ha
  · have hslot : slot.toNat ≠ 0 := fun he => hzero (UInt32.toNat_inj.mp he)
    have hother : other = 0 := UInt32.toNat_inj.mp (show other.toNat = 0 by omega)
    rw [if_neg hzero] at ha
    rw [if_pos hother]
    exact h.placed.disjoint (by omega) (by omega) (by omega) ha

end Slots

end Transaction

end Ribon
