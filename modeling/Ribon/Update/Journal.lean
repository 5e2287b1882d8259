/-
The update journal as a two-slot journal.

`openImage` is what opening computes from the four objects, without a device.
It finds a snapshot exactly where the two-slot theory finds a selected state, so
what that theory says of commits and power cuts is said of the journal.
-/
import Ribon.Update.Geometry

namespace Ribon.Transaction

open Wire Crash Crash.TwoSlot

/-- How the update journal decodes and compares its objects. -/
def scheme : Scheme (List UInt8) TransactionRecordView TransactionSelectorView where
  decodeRecord := recordDecode
  decodeSelector := selectorDecode
  generation selector := selector.generation.toNat
  slot selector := selector.recordSlot != 0
  names selector record :=
    record.generation = selector.generation ∧
      record.predecessorGeneration = selector.predecessorGeneration ∧
      record.recordDigest = selector.recordDigest ∧
      record.predecessorDigest = selector.predecessorDigest
  rival _ _ := False

/-- The snapshot of a selected state. -/
def snapshotOf (k : Bool) (selector : TransactionSelectorView) (record : TransactionRecordView) :
    TransactionSnapshot :=
  { record with
    selectedRecordSlot := selector.recordSlot
    selectedSelectorSlot := slotNumber k
    journalGeneration := record.generation }

/-- What opening makes of the four objects. -/
def openObjects (minimumGeneration : UInt64) (objects : Obj → List UInt8) :
    Except TransactionStatus TransactionSnapshot := do
  let (slot, selector) ← selectNewest minimumGeneration (objects (.selector false))
    (objects (.selector true))
  checkSelected slot selector (objects (.record (scheme.slot selector)))

/-- What opening the journal answers on an image of its objects. -/
def openImage (journal : TransactionJournal) (objects : Obj → List UInt8) :
    Except TransactionStatus TransactionSnapshot :=
  if journalIsValid journal then openObjects journal.minimumGeneration objects
  else .error .invalidArgument

/-! ### Opening finds the selected state -/

variable {selector : TransactionSelectorView}

/-- A selector that decodes names one of the two record slots. -/
theorem selectorDecode_slot {bytes : List UInt8} (h : selectorDecode bytes = some selector) :
    selector.recordSlot = slotNumber (scheme.slot selector) := by
  have hlt := (selectorDecode_eq_some.mp h).selectable.slot
  have hcases : selector.recordSlot = 0 ∨ selector.recordSlot = 1 := by
    have : selector.recordSlot.toNat < 2 := UInt32.lt_iff_toNat_lt.mp hlt
    rcases Nat.lt_or_ge selector.recordSlot.toNat 1 with h0 | h1
    · exact Or.inl (UInt32.toNat_inj.mp (show _ = 0 by omega))
    · exact Or.inr (UInt32.toNat_inj.mp (show _ = 1 by omega))
  rcases hcases with h0 | h1
  · rw [show scheme.slot selector = (selector.recordSlot != 0) from rfl, h0]
    rfl
  · rw [show scheme.slot selector = (selector.recordSlot != 0) from rfl, h1]
    rfl

variable {objects : Obj → List UInt8}

/-- The selector that counts is the one with the larger generation. -/
theorem newestSelector_eq_ok {slot : UInt32} :
    newestSelector (objects (.selector false)) (objects (.selector true)) =
        .ok (slot, selector) ↔
      ∃ k, slot = slotNumber k ∧ selectorDecode (objects (.selector k)) = some selector ∧
        ∀ other, selectorDecode (objects (.selector (!k))) = some other →
          other.generation.toNat < selector.generation.toNat := by
  unfold newestSelector
  rw [Bool.exists_bool, Bool.not_false, Bool.not_true]
  cases h0 : selectorDecode (objects (.selector false)) with
  | none =>
      cases h1 : selectorDecode (objects (.selector true)) with
      | none =>
          dsimp only
          split <;> simp
      | some selector1 =>
          simp only [Except.ok.injEq, Prod.mk.injEq, Option.some.injEq, reduceCtorEq, false_and,
            and_false, false_or, false_imp_iff, implies_true, and_true]
          exact and_congr_left fun _ => eq_comm
  | some selector0 =>
      cases h1 : selectorDecode (objects (.selector true)) with
      | none =>
          simp only [Except.ok.injEq, Prod.mk.injEq, Option.some.injEq, reduceCtorEq, false_and,
            and_false, or_false, false_imp_iff, implies_true, and_true]
          exact and_congr_left fun _ => eq_comm
      | some selector1 =>
          simp only [Option.some.injEq, forall_eq']
          by_cases heq : selector0.generation = selector1.generation
          · -- equal generations: the code refuses, and neither one is newer
            rw [if_pos (by simpa using heq)]
            simp only [reduceCtorEq, false_iff, not_or, not_and, Nat.not_lt]
            constructor
            · rintro - rfl
              rw [heq]
            · rintro - rfl
              rw [heq]
          rw [if_neg (by simpa using heq)]
          split
          · next hlt =>
            have hlt' := UInt64.lt_iff_toNat_lt.mp hlt
            constructor
            · intro h
              cases h
              exact Or.inr ⟨rfl, rfl, hlt'⟩
            · rintro (⟨-, rfl, hgt⟩ | ⟨rfl, rfl, -⟩)
              · omega
              · rfl
          · next hlt =>
            have hne : selector0.generation.toNat ≠ selector1.generation.toNat := fun h =>
              heq (UInt64.toNat_inj.mp h)
            have hge := UInt64.le_iff_toNat_le.mp (UInt64.not_lt.mp hlt)
            constructor
            · intro h
              cases h
              exact Or.inl ⟨rfl, rfl, by omega⟩
            · rintro (⟨rfl, rfl, -⟩ | ⟨-, rfl, hgt⟩)
              · rfl
              · omega

variable {snapshot : TransactionSnapshot}

/-- The record a selector names is checked field by field. -/
theorem checkSelected_eq_ok {slot : UInt32} {bytes : List UInt8} :
    checkSelected slot selector bytes = .ok snapshot ↔
      ∃ record, recordDecode bytes = some record ∧ scheme.names selector record ∧
        snapshot = { snapshotOf false selector record with selectedSelectorSlot := slot } := by
  unfold checkSelected
  cases hrec : recordDecode bytes with
  | none => simp
  | some record =>
      simp only [refuse_bind_eq_ok, pure_eq_ok, Option.some.injEq, exists_eq_left', scheme,
        snapshotOf, Bool.or_eq_false_iff, bne_eq_false_iff_eq, Bool.not_eq_false',
        Digest.equal_iff, and_assoc]
      constructor
      · rintro ⟨h₁, h₂, h₃, h₄, rfl⟩
        exact ⟨h₁, h₂, h₃, h₄, rfl⟩
      · rintro ⟨h₁, h₂, h₃, h₄, rfl⟩
        exact ⟨h₁, h₂, h₃, h₄, rfl⟩

/-- **Opening finds a snapshot exactly where a state is selected.** -/
theorem openObjects_eq_ok {minimumGeneration : UInt64} :
    openObjects minimumGeneration objects = .ok snapshot ↔
      ∃ k selector record, Selected scheme objects k selector record ∧
        minimumGeneration ≤ selector.generation ∧ snapshot = snapshotOf k selector record := by
  unfold openObjects selectNewest
  simp only [bind_eq_ok, refuse_eq_ok, pure_eq_ok, exists_const, Prod.exists, decide_eq_false_iff_not,
    UInt64.not_lt]
  constructor
  · rintro ⟨slot, selector, ⟨slot', selector', hnewest, hmin, hsame⟩, hcheck⟩
    cases hsame
    obtain ⟨k, rfl, hselector, hother⟩ := newestSelector_eq_ok.mp hnewest
    obtain ⟨record, hrec, hnames, rfl⟩ := checkSelected_eq_ok.mp hcheck
    exact ⟨k, selector, record, ⟨hselector, hother, hrec, hnames, fun _ _ h => h⟩, hmin, rfl⟩
  · rintro ⟨k, selector, record, h, hmin, rfl⟩
    refine ⟨slotNumber k, selector, ⟨_, _, newestSelector_eq_ok.mpr ⟨k, rfl, h.selector, h.newest⟩,
      hmin, rfl⟩, checkSelected_eq_ok.mpr ⟨record, h.record, h.names, rfl⟩⟩

variable {journal : TransactionJournal}

theorem openImage_eq_ok :
    openImage journal objects = .ok snapshot ↔
      journalIsValid journal = true ∧ ∃ k selector record,
        Selected scheme objects k selector record ∧
        journal.minimumGeneration ≤ selector.generation ∧
        snapshot = snapshotOf k selector record := by
  unfold openImage
  split
  · next hvalid =>
    rw [openObjects_eq_ok]
    exact ⟨fun h => ⟨hvalid, h⟩, fun h => h.2⟩
  · next hvalid =>
    simp [hvalid]

/-- A snapshot carries valid metadata. -/
theorem openImage_valid (h : openImage journal objects = .ok snapshot) :
    Storage.metadataIsValid snapshot.metadata = true := by
  obtain ⟨-, k, selector, record, hselected, -, rfl⟩ := openImage_eq_ok.mp h
  exact (recordDecode_eq_some.mp hselected.record).recordable.valid

/-- The generation of a journal is the generation of its metadata, and its record has a name. -/
theorem openImage_named (h : openImage journal objects = .ok snapshot) :
    snapshot.metadata.metadataGeneration = snapshot.journalGeneration ∧
      snapshot.recordDigest.isZero = false := by
  obtain ⟨-, k, selector, record, hselected, -, rfl⟩ := openImage_eq_ok.mp h
  refine ⟨(recordDecode_eq_some.mp hselected.record).recordable.same.symm, ?_⟩
  show record.recordDigest.isZero = false
  rw [hselected.names.2.2.1]
  exact (selectorDecode_eq_some.mp hselected.selector).selectable.digest

theorem newestSelector_uninitialized {bytes0 bytes1 : List UInt8}
    (h : newestSelector bytes0 bytes1 = .error .uninitialized) :
    selectorDecode bytes0 = none ∧ selectorDecode bytes1 = none := by
  unfold newestSelector at h
  split at h
  case h_1 h0 h1 => exact ⟨h0, h1⟩
  case h_2 => cases h
  case h_3 => cases h
  case h_4 =>
    split at h
    · cases h
    · split at h <;> cases h

theorem checkSelected_error {slot : UInt32} {bytes : List UInt8} {e : TransactionStatus}
    (h : checkSelected slot selector bytes = .error e) :
    e = .corrupt := by
  unfold checkSelected at h
  split at h
  · cases h
    rfl
  simp only [bind_eq_error, refuse_eq_error] at h
  rcases h with h | h
  · exact h.2.symm
  · obtain ⟨u, -, h⟩ := h
    cases h

/-- A journal that counts as uninitialized has no selector. -/
theorem selectorDecode_of_uninitialized (h : openImage journal objects = .error .uninitialized)
    (k : Bool) :
    selectorDecode (objects (.selector k)) = none := by
  unfold openImage at h
  split at h
  · simp only [openObjects, selectNewest, bind_eq_error, refuse_eq_error] at h
    rcases h with (hnewest | ⟨found, -, h⟩) | ⟨found, -, h⟩
    · obtain ⟨h0, h1⟩ := newestSelector_uninitialized hnewest
      cases k with
      | false => exact h0
      | true => exact h1
    · -- a selector that counts fails as a replay only
      rcases h with h | ⟨u, -, h⟩
      · cases h.2
      · cases h
    · cases checkSelected_error h
  · cases h

/-! ### What a commit writes

`current` is none for the first commit of a journal. -/

section Plan

variable (current : Option TransactionSnapshot) (metadata : SlotMetadata) (target : UInt32)

def generationAfter : UInt64 := (current.map (·.journalGeneration + 1)).getD 1
def predecessorAfter : UInt64 := (current.map (·.journalGeneration)).getD 0
def predecessorDigestAfter : Digest := (current.map (·.recordDigest)).getD Digest.zero

/-- The record slot that the current selector does not name. -/
def recordBit : Bool := (current.map (·.selectedRecordSlot == 0)).getD false

/-- The selector slot that is not the current one. -/
def selectorBit : Bool := (current.map (·.selectedSelectorSlot == 0)).getD false

/-- The name of the next record. -/
def nextRecordDigest : Digest :=
  recordDigestOf metadata target (generationAfter current) (predecessorAfter current)
    (predecessorDigestAfter current)

def nextRecord : TransactionRecordView :=
  recordViewOf metadata target (generationAfter current) (predecessorAfter current)
    (predecessorDigestAfter current)

def nextSelector : TransactionSelectorView where
  recordSlot := slotNumber (recordBit current)
  generation := generationAfter current
  predecessorGeneration := predecessorAfter current
  recordDigest := nextRecordDigest current metadata target
  predecessorDigest := predecessorDigestAfter current

/-- **The exact successor of a snapshot** under a commit of some metadata. -/
def successor : TransactionSnapshot :=
  snapshotOf (selectorBit current) (nextSelector current metadata target)
    (nextRecord current metadata target)

/-- What a commit writes and where. -/
def planAfter : CommitPlan where
  generation := generationAfter current
  predecessorGeneration := predecessorAfter current
  predecessorDigest := predecessorDigestAfter current
  recordSlot := slotNumber (recordBit current)
  selectorSlot := slotNumber (selectorBit current)
  record := recordWire metadata target (generationAfter current) (predecessorAfter current)
    (predecessorDigestAfter current)
  selector := selectorWire (nextSelector current metadata target)

/-- The commit has everything it needs, and writes are going to happen. -/
structure Committable : Prop where
  /-- The generation does not wrap. -/
  room : ∀ snapshot ∈ current, snapshot.journalGeneration ≠ u64Max
  recordable : Recordable metadata target (generationAfter current) (predecessorAfter current)
    (predecessorDigestAfter current)
  selectable : Selectable (nextSelector current metadata target)

/-- The slots of a snapshot are slot numbers. -/
structure Slotted (snapshot : TransactionSnapshot) : Prop where
  record : ∃ i, snapshot.selectedRecordSlot = slotNumber i
  selector : ∃ k, snapshot.selectedSelectorSlot = slotNumber k

variable {current metadata target}

theorem sub_slotNumber (i : Bool) : (1 : UInt32) - slotNumber i = slotNumber (!i) := by
  cases i <;> decide

theorem slotNumber_beq_zero (i : Bool) : (slotNumber i == 0) = !i := by
  cases i <;> decide

section Planned

variable (hslots : ∀ snapshot ∈ current, Slotted snapshot)
include hslots

theorem commitPosition_eq_ok {position : UInt64 × UInt64 × Digest × UInt32 × UInt32} :
    commitPosition current metadata = .ok position ↔
      ((∀ snapshot ∈ current, snapshot.journalGeneration ≠ u64Max) ∧
        generationAfter current = metadata.metadataGeneration) ∧
      (generationAfter current, predecessorAfter current, predecessorDigestAfter current,
        slotNumber (recordBit current), slotNumber (selectorBit current)) = position := by
  cases current with
  | none =>
      simp only [commitPosition, refuse_bind_eq_ok, pure_eq_ok, bne_eq_false_iff_eq, Option.mem_def,
        reduceCtorEq, false_imp_iff, implies_true, true_and]
      rw [eq_comm (a := metadata.metadataGeneration)]
      rfl
  | some snapshot =>
      obtain ⟨⟨i, hi⟩, k, hk⟩ := hslots snapshot rfl
      simp only [commitPosition, refuse_bind_eq_ok, pure_eq_ok, Bool.or_eq_false_iff,
        beq_eq_false_iff_ne, bne_eq_false_iff_eq, Option.mem_def, Option.some.injEq, forall_eq',
        generationAfter, predecessorAfter, predecessorDigestAfter, recordBit, selectorBit,
        Option.map_some, Option.getD_some, hi, hk, sub_slotNumber, slotNumber_beq_zero]
      rw [eq_comm (a := metadata.metadataGeneration)]

/-- **A commit is planned as the successor of what it found, or refused before anything is
written.** -/
theorem commitPlan_eq_ok {plan : CommitPlan} : commitPlan current metadata target = .ok plan ↔
    Committable current metadata target ∧ plan = planAfter current metadata target := by
  simp only [commitPlan, bind_eq_ok, commitPosition_eq_ok hslots]
  constructor
  · rintro ⟨_, ⟨⟨hroom, -⟩, rfl⟩, h⟩
    split at h
    · cases h
    next record hrec =>
    obtain ⟨hrecordable, rfl⟩ := recordEncode_eq_some.mp hrec
    rw [recordWire_name] at h
    split at h
    · cases h
    next selector hselector =>
    obtain ⟨hselectable, rfl⟩ := selectorEncode_eq_some.mp hselector
    rw [pure_eq_ok] at h
    exact ⟨⟨hroom, hrecordable, hselectable⟩, h.symm⟩
  · rintro ⟨c, rfl⟩
    refine ⟨_, ⟨⟨c.room, c.recordable.same⟩, rfl⟩, ?_⟩
    rw [recordEncode_eq_some.mpr ⟨c.recordable, rfl⟩]
    dsimp only
    rw [recordWire_name, ← nextRecordDigest, selectorEncode_eq_some.mpr ⟨c.selectable, rfl⟩]
    rfl

end Planned

theorem Committable.recordDecode (c : Committable current metadata target) :
    recordDecode (planAfter current metadata target).record =
      some (nextRecord current metadata target) :=
  recordDecode_recordWire c.recordable

theorem Committable.selectorDecode (c : Committable current metadata target) :
    selectorDecode (planAfter current metadata target).selector =
      some (nextSelector current metadata target) :=
  selectorDecode_selectorWire c.selectable

end Plan

/-! ### Writing one object of the journal -/

section Objects

variable {journal : TransactionJournal} {m : Media} {o : Obj} {data : List UInt8}

theorem objectSize_pos (o : Obj) : 0 < objectSize o := by
  cases o <;> simp [objectSize, recordBytes, selectorBytes]

/-- Writing an object's bytes at its place writes the object and no other. -/
theorem view_writeObject_cached (hlen : data.length = objectSize o) (o' : Obj) :
    ((m.writeBytes (objectOffset journal o) data).view (journalOverlay journal)).cached o' =
      if o' = o then data else (m.view (journalOverlay journal)).cached o' := by
  by_cases h : o' = o
  · subst h
    rw [if_pos rfl]
    refine (Store.view_write_cached_self fun a ha => ?_).trans ?_
    · rw [hlen]
      exact ha
    · show bytesAt (fun a => byteAt data (a - objectOffset journal o')) _ (objectSize o') = data
      rw [← hlen]
      exact bytesAt_data
  · rw [if_neg h]
    refine Store.view_write_cached_of_disjoint fun a ha hcov => h ?_
    rw [hlen] at ha
    exact (journalOverlay journal).disjoint o' o a hcov ha

theorem view_writeObject_dirty (hlen : data.length = objectSize o) (o' : Obj) :
    ((m.writeBytes (objectOffset journal o) data).view (journalOverlay journal)).dirty o' ↔
      o' = o ∨ (m.view (journalOverlay journal)).dirty o' := by
  by_cases h : o' = o
  · subst h
    refine ⟨fun _ => Or.inl rfl, fun _ => ⟨objectOffset journal o', ⟨Nat.le_refl _, ?_⟩, Or.inl ?_⟩⟩
    · have := objectSize_pos o'
      omega
    · have := objectSize_pos o'
      exact ⟨Nat.le_refl _, by omega⟩
  · rw [or_iff_right h]
    refine Store.view_write_dirty_of_disjoint fun a ha hcov => h ?_
    rw [hlen] at ha
    exact (journalOverlay journal).disjoint o' o a hcov ha

end Objects

/-! ### The stages of a commit -/

/-- Nothing of the journal is in the cache, and it opens with this snapshot. -/
structure Settled (journal : TransactionJournal) (m : Media) (snapshot : TransactionSnapshot) :
    Prop where
  clean : ∀ o, ¬ (m.view (journalOverlay journal)).dirty o
  opens : openImage journal (m.view (journalOverlay journal)).durable = .ok snapshot

section Settled

variable {m : Media} (h : Settled journal m snapshot)
include h

theorem Settled.cached_eq :
    (m.view (journalOverlay journal)).cached = (m.view (journalOverlay journal)).durable :=
  funext fun o => (m.view (journalOverlay journal)).coherent o (h.clean o)

/-- A power cut leaves a settled journal as it is. -/
theorem Settled.crash {img : Obj → List UInt8}
    (hcrash : (m.view (journalOverlay journal)).CrashTo scheme.Rejects img) :
    openImage journal img = .ok snapshot := by
  have : img = (m.view (journalOverlay journal)).durable :=
    funext fun o => hcrash.of_clean (h.clean o)
  rw [this]
  exact h.opens

theorem Settled.slotted : Slotted snapshot := by
  obtain ⟨-, k, selector, record, hsel, -, rfl⟩ := openImage_eq_ok.mp h.opens
  exact ⟨⟨_, selectorDecode_slot hsel.selector⟩, k, rfl⟩

end Settled

section Stages

variable (journal : TransactionJournal) (m : Media) (current : Option TransactionSnapshot)
  (metadata : SlotMetadata) (target : UInt32)

/-- The record is in the cache. -/
def recordWritten : Media :=
  m.writeBytes (objectOffset journal (.record (recordBit current)))
    (planAfter current metadata target).record

/-- The record is on the media and the selector in the cache. -/
def selectorWritten : Media :=
  Media.writeBytes (recordWritten journal m current metadata target).flush
    (objectOffset journal (.selector (selectorBit current)))
    (planAfter current metadata target).selector

/-- Both are on the media. -/
def committed : Media := (selectorWritten journal m current metadata target).flush

variable {journal m current metadata target}

/-- The two-slot view of a commit over a settled journal. -/
theorem Settled.twoSlot {snapshot : TransactionSnapshot} (h : Settled journal m snapshot)
    (c : Committable (some snapshot) metadata target) :
    ∃ k selector record,
      Selected scheme (m.view (journalOverlay journal)).durable k selector record ∧
      snapshot = snapshotOf k selector record ∧
      recordBit (some snapshot) = (!scheme.slot selector) ∧
      selectorBit (some snapshot) = (!k) ∧
      journal.minimumGeneration ≤ (nextSelector (some snapshot) metadata target).generation ∧
      Successor scheme selector record (planAfter (some snapshot) metadata target).record
        (planAfter (some snapshot) metadata target).selector
        (nextSelector (some snapshot) metadata target) (nextRecord (some snapshot) metadata target) := by
  obtain ⟨-, k, selector, record, hsel, hmin, rfl⟩ := openImage_eq_ok.mp h.opens
  have hslot := selectorDecode_slot hsel.selector
  have hbit : recordBit (some (snapshotOf k selector record)) = (!scheme.slot selector) := by
    simp only [recordBit, snapshotOf, Option.map_some, Option.getD_some]
    rw [hslot, slotNumber_beq_zero]
  have hroom : record.generation ≠ u64Max := c.room _ rfl
  have hgen : record.generation = selector.generation := hsel.names.1
  have hnewer : selector.generation.toNat <
      (nextSelector (some (snapshotOf k selector record)) metadata target).generation.toNat := by
    show _ < (record.generation + 1).toNat
    rw [hgen] at hroom ⊢
    have hlt : selector.generation.toNat ≠ 2 ^ 64 - 1 := fun hmax =>
      hroom (UInt64.toNat_inj.mp hmax)
    have := selector.generation.toNat_lt
    rw [UInt64.toNat_add]
    show _ < (_ + 1) % 2 ^ 64
    omega
  refine ⟨k, selector, record, hsel, rfl, hbit, ?_, ?_, ?_⟩
  · simp only [selectorBit, snapshotOf, Option.map_some, Option.getD_some, slotNumber_beq_zero]
  · have := UInt64.le_iff_toNat_le.mp hmin
    exact UInt64.le_iff_toNat_le.mpr (by omega)
  · refine ⟨c.recordDecode, ?_, ?_, hnewer, ⟨rfl, rfl, rfl, rfl⟩, fun h => h, fun h => h⟩
    · intro other hother
      have := c.selectorDecode
      exact Option.some.inj (hother.symm.trans this)
    · show (slotNumber (recordBit (some (snapshotOf k selector record))) != 0) = _
      rw [hbit]
      cases scheme.slot selector <;> decide

theorem length_planRecord :
    (planAfter current metadata target).record.length =
      objectSize (.record (recordBit current)) :=
  length_recordWire

theorem length_planSelector :
    (planAfter current metadata target).selector.length =
      objectSize (.selector (selectorBit current)) :=
  length_selectorWire

/-- Writing the record puts it into its slot and leaves the other objects. -/
theorem recordWritten_cached (o : Obj) :
    ((recordWritten journal m current metadata target).view (journalOverlay journal)).cached o =
      if o = .record (recordBit current) then (planAfter current metadata target).record
      else (m.view (journalOverlay journal)).cached o :=
  view_writeObject_cached length_planRecord o

theorem selectorWritten_cached (o : Obj) :
    ((selectorWritten journal m current metadata target).view (journalOverlay journal)).cached o =
      if o = .selector (selectorBit current) then (planAfter current metadata target).selector
      else ((recordWritten journal m current metadata target).view
        (journalOverlay journal)).cached o :=
  view_writeObject_cached length_planSelector o

/-- Only the selector is in the cache while the selector is written. -/
theorem selectorWritten_dirty (o : Obj) :
    ((selectorWritten journal m current metadata target).view (journalOverlay journal)).dirty o ↔
      o = .selector (selectorBit current) := by
  refine (view_writeObject_dirty length_planSelector o).trans ?_
  rw [Store.view_flush]
  exact or_iff_left fun h => h

/-- The record in its slot leaves the same state selected, since that is read from other objects. -/
theorem Settled.recordWritten_selected {snapshot : TransactionSnapshot}
    (h : Settled journal m snapshot) {k : Bool} {selector selector' : TransactionSelectorView}
    {record record' : TransactionRecordView}
    (hsel : Selected scheme (m.view (journalOverlay journal)).durable k selector record)
    (hbit : recordBit (some snapshot) = (!scheme.slot selector))
    (hsucc : Successor scheme selector record (planAfter (some snapshot) metadata target).record
      (planAfter (some snapshot) metadata target).selector selector' record') :
    Selected scheme ((recordWritten journal m (some snapshot) metadata target).view
      (journalOverlay journal)).cached k selector record := by
  refine hsucc.selected_record hsel ?_ ?_ ?_
  · intro j
    refine (recordWritten_cached _).trans ?_
    rw [if_neg (by simp), h.cached_eq]
  · refine (recordWritten_cached _).trans ?_
    rw [hbit, if_neg (by simp), h.cached_eq]
  · rw [← hbit]
    exact (recordWritten_cached _).trans (if_pos rfl)

section Commit

variable {snapshot : TransactionSnapshot} (h : Settled journal m snapshot)
  (c : Committable (some snapshot) metadata target)
include h c

/-- **A power cut before the record is flushed leaves the old snapshot.** -/
theorem Settled.recordWritten_crash {img : Obj → List UInt8}
    (hcrash : ((recordWritten journal m (some snapshot) metadata target).view
      (journalOverlay journal)).CrashTo scheme.Rejects img) :
    openImage journal img = .ok snapshot := by
  obtain ⟨hvalid, -⟩ := openImage_eq_ok.mp h.opens
  obtain ⟨k, selector, record, hsel, hsnap, hbit, -, -, hsucc⟩ := h.twoSlot c
  obtain ⟨-, k', selector', record', hsel', hmin, hsnap'⟩ := openImage_eq_ok.mp h.opens
  obtain ⟨rfl, rfl, rfl⟩ := hsel.unique hsel'
  have hdur : Selected scheme ((recordWritten journal m (some snapshot) metadata target).view
      (journalOverlay journal)).durable k selector record := hsel
  refine openImage_eq_ok.mpr ⟨hvalid, k, selector, record, ?_, hmin, hsnap⟩
  refine hsucc.crash_record hdur ?_ ?_ hcrash
  · intro o hdirty
    rcases (view_writeObject_dirty length_planRecord o).mp hdirty with rfl | hold
    · rw [hbit]
    · exact absurd hold (h.clean o)
  · rw [← hbit]
    exact (recordWritten_cached _).trans (if_pos rfl)

/-- With the record flushed the old snapshot is still the one that counts. -/
theorem Settled.recordFlushed :
    Settled journal (recordWritten journal m (some snapshot) metadata target).flush snapshot := by
  refine ⟨fun o hdirty => ?_, ?_⟩
  · rw [Store.view_flush] at hdirty
    exact hdirty
  · refine h.recordWritten_crash c fun o => ?_
    rw [Store.view_flush]
    by_cases hd : ((recordWritten journal m (some snapshot) metadata target).view
        (journalOverlay journal)).dirty o
    · exact Or.inr ⟨hd, Or.inl rfl⟩
    · exact Or.inl (Store.coherent _ o hd)

/-- **A power cut before the selector is flushed leaves the old snapshot or its successor.** -/
theorem Settled.selectorWritten_crash {img : Obj → List UInt8}
    (hcrash : ((selectorWritten journal m (some snapshot) metadata target).view
      (journalOverlay journal)).CrashTo scheme.Rejects img) :
    openImage journal img = .ok snapshot ∨
      openImage journal img = .ok (successor (some snapshot) metadata target) := by
  obtain ⟨hvalid, -⟩ := openImage_eq_ok.mp h.opens
  obtain ⟨k, selector, record, hsel, hsnap, hbit, hbit', hnewmin, hsucc⟩ := h.twoSlot c
  obtain ⟨-, k', selector', record', hsel', hmin, -⟩ := openImage_eq_ok.mp h.opens
  obtain ⟨rfl, rfl, rfl⟩ := hsel.unique hsel'
  have hstill : Selected scheme ((selectorWritten journal m (some snapshot) metadata target).view
      (journalOverlay journal)).durable k selector record := h.recordWritten_selected hsel hbit hsucc
  have hrec : ((selectorWritten journal m (some snapshot) metadata target).view
      (journalOverlay journal)).durable (.record (!scheme.slot selector)) =
      (planAfter (some snapshot) metadata target).record := by
    rw [← hbit]
    exact (recordWritten_cached _).trans (if_pos rfl)
  have hdirty : ∀ o, ((selectorWritten journal m (some snapshot) metadata target).view
      (journalOverlay journal)).dirty o → o = .selector (!k) := by
    intro o hd
    rw [(selectorWritten_dirty o).mp hd, hbit']
  have hcached : ((selectorWritten journal m (some snapshot) metadata target).view
      (journalOverlay journal)).cached (.selector (!k)) =
      (planAfter (some snapshot) metadata target).selector := by
    rw [← hbit']
    exact (selectorWritten_cached _).trans (if_pos rfl)
  rcases hsucc.crash_selector hstill hrec hdirty hcached hcrash with hold | hnew
  · exact Or.inl (openImage_eq_ok.mpr ⟨hvalid, k, selector, record, hold, hmin, hsnap⟩)
  · refine Or.inr (openImage_eq_ok.mpr ⟨hvalid, !k, _, _, hnew, hnewmin, ?_⟩)
    unfold successor
    rw [hbit']

/-- **A finished commit leaves its successor.** -/
theorem Settled.afterCommit :
    Settled journal (committed journal m (some snapshot) metadata target)
      (successor (some snapshot) metadata target) := by
  obtain ⟨hvalid, -⟩ := openImage_eq_ok.mp h.opens
  obtain ⟨k, selector, record, hsel, -, hbit, hbit', hnewmin, hsucc⟩ := h.twoSlot c
  have hstill := h.recordWritten_selected hsel hbit hsucc
  refine ⟨fun o hdirty => ?_, openImage_eq_ok.mpr
    ⟨hvalid, !k, _, nextRecord (some snapshot) metadata target, ?_, hnewmin, ?_⟩⟩
  · rw [committed, Store.view_flush] at hdirty
    exact hdirty
  · refine hsucc.selected_selector hstill ?_ ?_ ?_ ?_
    · rw [← hbit]
      exact (recordWritten_cached _).trans (if_pos rfl)
    · refine (selectorWritten_cached _).trans (if_neg ?_)
      rw [hbit']
      simp
    · intro j
      exact (selectorWritten_cached _).trans (if_neg (by simp))
    · rw [← hbit']
      rw [show ((committed journal m (some snapshot) metadata target).view
        (journalOverlay journal)).durable (.selector (selectorBit (some snapshot))) =
          (planAfter (some snapshot) metadata target).selector from
        (selectorWritten_cached _).trans (if_pos rfl)]
      exact c.selectorDecode
  · unfold successor
    rw [hbit']

end Commit

theorem committed_clean (o : Obj) :
    ¬ ((committed journal m current metadata target).view (journalOverlay journal)).dirty o := by
  intro hdirty
  rw [committed, Store.view_flush] at hdirty
  exact hdirty

variable (c : Committable none metadata target)
  (hblank : ∀ k, selectorDecode ((m.view (journalOverlay journal)).cached (.selector k)) = none)
include c hblank

/-- The first commit of a blank journal is selected. -/
theorem committed_selected :
    Selected scheme ((committed journal m none metadata target).view
      (journalOverlay journal)).durable false (nextSelector none metadata target)
      (nextRecord none metadata target) := by
  have hcached : ∀ o, ((committed journal m none metadata target).view
      (journalOverlay journal)).durable o =
        if o = .selector false then (planAfter none metadata target).selector
        else if o = .record false then (planAfter none metadata target).record
        else (m.view (journalOverlay journal)).cached o := by
    intro o
    refine (selectorWritten_cached o).trans ?_
    rw [recordWritten_cached]
    rfl
  refine ⟨?_, ?_, ?_, ⟨rfl, rfl, rfl, rfl⟩, fun _ _ h => h⟩
  · rw [hcached, if_pos rfl]
    exact c.selectorDecode
  · intro other hother
    rw [hcached, if_neg (by decide), if_neg (by decide)] at hother
    rw [show scheme.decodeSelector _ = none from hblank (!false)] at hother
    cases hother
  · have hslot : scheme.slot (nextSelector none metadata target) = false := rfl
    rw [hslot, hcached, if_neg (by decide), if_pos rfl]
    exact c.recordDecode

/-- **What opening finds behind the first commit**, unless the caller's floor is above it. -/
theorem committed_opens :
    ∀ snapshot, openImage journal ((committed journal m none metadata target).view
      (journalOverlay journal)).durable = .ok snapshot →
      snapshot = successor none metadata target := by
  intro snapshot hopen
  obtain ⟨-, k, selector, record, hsel, -, rfl⟩ := openImage_eq_ok.mp hopen
  obtain ⟨rfl, rfl, rfl⟩ := (committed_selected c hblank).unique hsel
  rfl

end Stages

end Ribon.Transaction
