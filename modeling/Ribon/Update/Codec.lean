/-
What the update journal writes it can read back.

Three objects nest here.  The slot metadata is a wire of its own, with a digest
and a checksum.  A record carries that wire, and a selector names a record by
its digest.  Each encoder patches fields into zeros from the front to the back,
so a field is read through the later patches and then found where it was
written, and a reserved range is read through all of them.

The metadata comes back with its digest filled in, since that field is not part
of what is encoded.
-/
import Ribon.Update.Transaction

namespace Ribon

open Wire

theorem reservedZero_iff {r : Reserved} : reservedZero r = true ↔ r = Reserved.none := by
  constructor
  · intro h
    refine Vector.ext fun i hi => ?_
    have hall : ∀ (i : Nat) (hi : i < 4), r[i] = 0 := by simpa [reservedZero] using h
    rw [hall i hi, Reserved.none, Vector.getElem_replicate]
  · rintro rfl
    exact reservedZero_none

theorem SlotState.code_ofCode {value : UInt32} {state : SlotState}
    (h : SlotState.ofCode value = some state) : state.code = value := by
  unfold SlotState.ofCode at h
  split_ifs at h with h0 h1 h2 h3 h4 h5 <;> cases h <;> exact Eq.symm ‹_›

namespace Storage

@[simp] theorem length_metadataMagic : metadataMagic.length = 32 := by decide +kernel

/-! ### Slot metadata -/

@[simp] theorem length_metadataRow (output : List UInt8) (row : Nat) (entry : SlotEntry) :
    (metadataRow output row entry).length = output.length := by
  simp only [metadataRow, length_patch]

@[simp] theorem length_metadataBody (metadata : SlotMetadata) :
    (metadataBody metadata).length = 512 := by
  simp only [metadataBody, length_metadataRow, length_patch, List.length_replicate, metadataBytes]

/-- The metadata as it is read back: its digest is that of the wire. -/
def withWireDigest (metadata : SlotMetadata) : SlotMetadata :=
  { metadata with wireDigest := sha256 (metadataBody metadata) metadataBodyBytes }

variable {metadata : SlotMetadata}

/-- The parts of valid metadata that its wire does not carry. -/
theorem metadataIsValid_fixed (h : metadataIsValid metadata = true) :
    metadata.size = metadataSizeOf ∧ metadata.abiVersion = abiVersion ∧ metadata.flags = 0 ∧
      metadata.reserved = Reserved.none ∧ (metadata.slot 0).reserved = Reserved.none ∧
      (metadata.slot 1).reserved = Reserved.none := by
  simp only [metadataIsValid, slotEntryIsValid, Bool.and_eq_true, beq_iff_eq, reservedZero_iff] at h
  obtain ⟨⟨⟨⟨⟨⟨⟨⟨⟨⟨⟨hsize, habi⟩, hflags⟩, -⟩, -⟩, -⟩, -⟩, -⟩, hresv⟩, hA⟩, hB⟩, -⟩ := h
  exact ⟨hsize, habi, hflags, hresv, hA.1.2, hB.1.2⟩

/-- The whole wire of valid metadata. -/
def metadataWire (metadata : SlotMetadata) : List UInt8 :=
  let body := metadataBody metadata
  let sealed := patch body metadataDigestOffset (sha256 body metadataBodyBytes).1
  patch sealed metadataChecksumOffset (storeU32 (crc32c sealed metadataChecksumOffset))

theorem metadataEncode_eq_ok {wire : List UInt8} :
    metadataEncode metadata = .ok wire ↔
      metadataIsValid metadata = true ∧ wire = metadataWire metadata := by
  rw [eq_comm (a := wire)]
  simp only [metadataEncode, refuse_bind_eq_ok, pure_eq_ok, Bool.not_eq_false', metadataWire]

@[simp] theorem length_metadataWire (metadata : SlotMetadata) :
    (metadataWire metadata).length = 512 := by
  simp only [metadataWire, length_patch, length_metadataBody]

/-- What the reader finds in the row of an entry. -/
structure EntryRead (row : List UInt8) (entry : SlotEntry) : Prop where
  slotId : loadU32 row = entry.slotId
  state : loadU32 (row.drop 4) = entry.state.code
  generation : loadU64 (row.drop 8) = entry.metadataGeneration
  imageGeneration : loadU64 (row.drop 16) = entry.imageGeneration
  manifestDigest : Digest.read (row.drop 24) = entry.manifestDigest
  imageSetDigest : Digest.read (row.drop 56) = entry.imageSetDigest
  layoutDigest : Digest.read (row.drop 88) = entry.layoutDigest
  attempts : loadU32 (row.drop 120) = entry.bootAttempts
  flags : loadU32 (row.drop 124) = entry.flags
  zero : bytesZero (row.drop 128) 32 = true

theorem openEntry_eq_ok {row : List UInt8} {entry : SlotEntry} :
    openEntry row = .ok entry ↔ EntryRead row entry ∧ entry.reserved = Reserved.none := by
  unfold openEntry
  constructor
  · intro h
    cases hstate : SlotState.ofCode (loadU32 (row.drop 4)) with
    | none =>
        rw [hstate] at h
        cases h
    | some state =>
        rw [hstate] at h
        simp only [bind_eq_ok, refuse_eq_ok, pure_eq_ok, exists_const] at h
        obtain ⟨_, hsame, hzero, rfl⟩ := h
        cases hsame
        exact ⟨⟨rfl, (SlotState.code_ofCode hstate).symm, rfl, rfl, rfl, rfl, rfl, rfl, rfl,
          by simpa using hzero⟩, rfl⟩
  · rintro ⟨h, hresv⟩
    rw [h.state, SlotState.ofCode_code, h.zero]
    simp only [readEntry, h.slotId, h.generation, h.imageGeneration, h.manifestDigest,
      h.imageSetDigest, h.layoutDigest, h.attempts, h.flags, ← hresv]
    rfl

/-- What the reader finds in the body of metadata: everything but its digest. -/
structure BodyRead (bytes : List UInt8) (metadata : SlotMetadata) : Prop where
  length : bytes.length = 512
  magic : bytesEqual bytes metadataMagic 32 = true
  version : loadU16 (bytes.drop 32) = 1
  header : loadU16 (bytes.drop 34) = 64
  total : loadU32 (bytes.drop 36) = 512
  generation : loadU64 (bytes.drop 40) = metadata.metadataGeneration
  activeSlot : loadU32 (bytes.drop 48) = metadata.activeSlot
  pendingSlot : loadU32 (bytes.drop 52) = metadata.pendingSlot
  slotCount : loadU32 (bytes.drop 56) = metadata.slotCount
  pad : loadU32 (bytes.drop 60) = 0
  slotA : EntryRead (bytes.drop 64) metadata.slots[0]
  slotB : EntryRead (bytes.drop 224) metadata.slots[1]

/-- What seals the body. -/
structure Sealed (bytes : List UInt8) : Prop where
  digest : sha256 bytes 384 = Digest.read (bytes.drop 384)
  checksum : loadU32 (bytes.drop 416) = crc32c bytes 416
  zero : bytesZero (bytes.drop 420) 92 = true

/-- **Metadata is opened from the bytes of valid metadata, with their digest.** -/
theorem metadataOpen_eq_ok {bytes : List UInt8} :
    metadataOpen bytes = .ok metadata ↔ BodyRead bytes metadata ∧ Sealed bytes ∧
      metadata.wireDigest = sha256 bytes 384 ∧ metadataIsValid metadata = true := by
  simp only [metadataOpen, bind_eq_ok, refuse_eq_ok, pure_eq_ok, exists_const, openEntry_eq_ok,
    Bool.or_eq_false_iff, bne_eq_false_iff_eq, Bool.not_eq_false', Digest.equal_iff]
  constructor
  · rintro ⟨⟨⟨⟨⟨⟨⟨hlen, hmagic⟩, hver⟩, hhdr⟩, htotal⟩, hpad⟩, hzero⟩,
      ⟨hdig, hchecksum⟩, slotA, ⟨hslotA, -⟩, slotB, ⟨hslotB, -⟩, hvalid, rfl⟩
    exact ⟨⟨hlen, hmagic, hver, hhdr, htotal, rfl, rfl, rfl, rfl, hpad, hslotA, hslotB⟩,
      ⟨hdig, hchecksum, hzero⟩, rfl, hvalid⟩
  · rintro ⟨body, sealed, hdig, hvalid⟩
    obtain ⟨hsize, habi, hflags, hresv, hA, hB⟩ := metadataIsValid_fixed hvalid
    have hslots : #v[metadata.slots[0], metadata.slots[1]] = metadata.slots := by
      refine Vector.ext fun i hi => ?_
      interval_cases i <;> rfl
    have hmeta : SlotMetadata.mk metadataSizeOf abiVersion 0 (loadU32 (bytes.drop 48))
        (loadU32 (bytes.drop 52)) (loadU32 (bytes.drop 56)) (loadU64 (bytes.drop 40))
        #v[metadata.slots[0], metadata.slots[1]] (sha256 bytes 384) Reserved.none = metadata := by
      rw [body.activeSlot, body.pendingSlot, body.slotCount, body.generation, hslots, ← hdig,
        ← hsize, ← habi, ← hflags, ← hresv]
    refine ⟨⟨⟨⟨⟨⟨⟨body.length, body.magic⟩, body.version⟩, body.header⟩, body.total⟩, body.pad⟩,
      sealed.zero⟩, ⟨sealed.digest, sealed.checksum⟩, _, ⟨body.slotA, hA⟩, _, ⟨body.slotB, hB⟩,
      ?_, hmeta⟩
    exact (congrArg metadataIsValid hmeta).trans hvalid

section Read

variable (metadata : SlotMetadata)

attribute [local simp] metadataWire metadataBody metadataRow metadataHeaderBytes metadataSlotBytes
  metadataBytes metadataDigestOffset metadataChecksumOffset metadataBodyBytes

theorem bodyRead_metadataWire : BodyRead (metadataWire metadata) (withWireDigest metadata) := by
  constructor
  case slotA => constructor <;> simp [-List.reduceReplicate, withWireDigest]
  case slotB => constructor <;> simp [-List.reduceReplicate, withWireDigest]
  all_goals simp [-List.reduceReplicate, withWireDigest]

theorem sealed_metadataWire : Sealed (metadataWire metadata) := by
  constructor <;> simp [-List.reduceReplicate]

/-- **Valid metadata is read back from its wire**, with the digest of the wire. -/
theorem metadataOpen_metadataWire (h : metadataIsValid metadata = true) :
    metadataOpen (metadataWire metadata) = .ok (withWireDigest metadata) := by
  refine metadataOpen_eq_ok.mpr ⟨bodyRead_metadataWire metadata, sealed_metadataWire metadata, ?_, h⟩
  simp [-List.reduceReplicate, withWireDigest]

end Read

end Storage

namespace Transaction

@[simp] theorem length_recordMagic : recordMagic.length = 32 := by decide +kernel
@[simp] theorem length_selectorMagic : selectorMagic.length = 32 := by decide +kernel

/-! ### Records -/

section Record

variable (metadata : SlotMetadata) (targetSlot : UInt32)
  (generation predecessorGeneration : UInt64) (predecessorDigest : Digest)

/-- The record up to its digest, for metadata that has a wire. -/
def recordOf : List UInt8 :=
  recordBody metadata (Storage.metadataWire metadata) targetSlot generation predecessorGeneration
    predecessorDigest

/-- The digest of a record, which is its name. -/
def recordDigestOf : Digest :=
  sha256 (recordOf metadata targetSlot generation predecessorGeneration predecessorDigest)
    recordDigestOffset

/-- The whole record. -/
def recordWire : List UInt8 :=
  let output := recordOf metadata targetSlot generation predecessorGeneration predecessorDigest
  let output := patch output recordDigestOffset
    (recordDigestOf metadata targetSlot generation predecessorGeneration predecessorDigest).1
  patch output recordChecksumOffset (storeU32 (crc32c output recordChecksumOffset))

/-- What may be written as a record. -/
structure Recordable : Prop where
  target : targetSlot < Storage.slotCount
  positive : generation ≠ 0
  same : generation = metadata.metadataGeneration
  valid : Storage.metadataIsValid metadata = true
  predecessor : predecessorIsValid generation predecessorGeneration predecessorDigest = true

variable {metadata targetSlot generation predecessorGeneration predecessorDigest}

theorem recordEncode_eq_some {bytes : List UInt8} :
    recordEncode metadata targetSlot generation predecessorGeneration predecessorDigest =
        some bytes ↔
      Recordable metadata targetSlot generation predecessorGeneration predecessorDigest ∧
        bytes = recordWire metadata targetSlot generation predecessorGeneration
          predecessorDigest := by
  unfold recordEncode
  constructor
  · intro h
    split at h
    · cases h
    next hbad =>
    simp only [Bool.or_eq_true, decide_eq_true_eq, beq_iff_eq, bne_iff_ne, ne_eq, not_or,
      not_not, UInt32.not_le] at hbad
    obtain ⟨⟨htgt, hpos⟩, hsame⟩ := hbad
    cases hwire : Storage.metadataEncode metadata with
    | error e => rw [hwire] at h; cases h
    | ok wire =>
        obtain ⟨hvalid, rfl⟩ := Storage.metadataEncode_eq_ok.mp hwire
        rw [hwire] at h
        by_cases hpred : predecessorIsValid generation predecessorGeneration predecessorDigest
        · simp only [hpred, Bool.not_true, Bool.false_eq_true, if_false] at h
          exact ⟨⟨htgt, hpos, hsame, hvalid, hpred⟩, (Option.some.inj h).symm⟩
        · simp only [hpred, Bool.not_false, if_true] at h
          cases h
  · rintro ⟨ok, rfl⟩
    have hgood : ¬ (Storage.slotCount ≤ targetSlot || generation == 0 ||
        generation != metadata.metadataGeneration) = true := by
      simp only [Bool.or_eq_true, decide_eq_true_eq, beq_iff_eq, bne_iff_ne, ne_eq, not_or,
        not_not, UInt32.not_le]
      exact ⟨⟨ok.target, ok.positive⟩, ok.same⟩
    rw [if_neg hgood, Storage.metadataEncode_eq_ok.mpr ⟨ok.valid, rfl⟩]
    simp only [ok.predecessor, Bool.not_true, Bool.false_eq_true, if_false]
    rfl

@[simp] theorem length_recordWire :
    (recordWire metadata targetSlot generation predecessorGeneration predecessorDigest).length =
      1024 := by
  simp only [recordWire, recordOf, recordBody, length_patch, List.length_replicate, recordBytes]

/-- What the reader finds in the bytes of a record. -/
structure RecordRead (bytes : List UInt8) (view : TransactionRecordView) : Prop where
  magic : bytesEqual bytes recordMagic 32 = true
  version : loadU16 (bytes.drop 32) = 1
  header : loadU16 (bytes.drop 34) = 240
  total : loadU32 (bytes.drop 36) = 1024
  phase : loadU32 (bytes.drop 40) = 1
  target : loadU32 (bytes.drop 44) = view.targetSlot
  state : loadU32 (bytes.drop 48) = view.targetState.code
  flags : loadU32 (bytes.drop 52) = 0
  generation : loadU64 (bytes.drop 56) = view.generation
  predecessor : loadU64 (bytes.drop 64) = view.predecessorGeneration
  predecessorDigest : Digest.read (bytes.drop 72) = view.predecessorDigest
  metadataDigest : Digest.read (bytes.drop 104) = sha256 ((bytes.drop 240).take 512) 512
  manifestDigest : Digest.read (bytes.drop 136) =
    (view.metadata.slot view.targetSlot).manifestDigest
  imageSetDigest : Digest.read (bytes.drop 168) =
    (view.metadata.slot view.targetSlot).imageSetDigest
  layoutDigest : Digest.read (bytes.drop 200) = (view.metadata.slot view.targetSlot).layoutDigest
  pad : bytesZero (bytes.drop 232) 8 = true
  metadata : Storage.metadataOpen ((bytes.drop 240).take 512) = .ok view.metadata
  digest : sha256 bytes 752 = Digest.read (bytes.drop 752)
  name : Digest.read (bytes.drop 752) = view.recordDigest
  checksum : loadU32 (bytes.drop 784) = crc32c bytes 784
  zero : bytesZero (bytes.drop 788) 236 = true
  recordable : Recordable view.metadata view.targetSlot view.generation view.predecessorGeneration
    view.predecessorDigest
  entry : (view.metadata.slot view.targetSlot).state = view.targetState

theorem recordDecode_eq_some {bytes : List UInt8} {view : TransactionRecordView} :
    recordDecode bytes = some view ↔ RecordRead bytes view := by
  unfold recordDecode
  constructor
  · intro h
    split at h
    · cases h
    rename_i hshape
    split at h
    · cases h
    rename_i hdig
    dsimp only at h
    split at h
    case h_2 => cases h
    rename_i metadata state hmeta hstate
    split at h
    · cases h
    rename_i hwire
    split at h
    case isFalse => cases h
    rename_i hmatches
    cases h
    simp only [Bool.not_eq_true', Bool.not_eq_false, recordShapeIsValid, recordMatchesMetadata,
      Bool.and_eq_true, beq_iff_eq, bne_iff_ne, decide_eq_true_eq, Digest.equal_iff]
      at hshape hdig hwire hmatches
    obtain ⟨⟨⟨⟨⟨⟨⟨⟨⟨⟨⟨hmagic, hver⟩, hhdr⟩, htotal⟩, hphase⟩, htgt⟩, -⟩, hflags⟩,
      hpos⟩, hpad⟩, hzero⟩, hchecksum⟩ := hshape
    obtain ⟨⟨⟨⟨⟨hsame, hentry⟩, hman⟩, himage⟩, hlay⟩, hpredecessor⟩ := hmatches
    exact ⟨hmagic, hver, hhdr, htotal, hphase, rfl, (SlotState.code_ofCode hstate).symm,
      hflags, rfl, rfl, rfl, hwire.symm, hman.symm, himage.symm, hlay.symm, hpad, hmeta,
      hdig, rfl, hchecksum, hzero, ⟨htgt, hpos, hsame.symm,
        (Storage.metadataOpen_eq_ok.mp hmeta).2.2.2, hpredecessor⟩, hentry⟩
  · intro h
    have hshape : recordShapeIsValid bytes = true := by
      simp [recordShapeIsValid, h.magic, h.version, h.header, h.total, h.phase, h.target, h.state,
        h.flags, h.generation, h.pad, h.zero, h.checksum, h.recordable.target,
        h.recordable.positive, recordHeaderBytes, recordBytes, recordChecksumOffset]
    have hview : recordView bytes view.targetState view.metadata = view := by
      simp only [recordView, h.target, h.generation, h.predecessor, h.predecessorDigest, h.name,
        recordDigestOffset]
    have hmatches : recordMatchesMetadata bytes view = true := by
      simp [recordMatchesMetadata, h.entry, h.manifestDigest, h.imageSetDigest, h.layoutDigest,
        ← h.recordable.same, h.recordable.predecessor]
    simp [hshape, h.digest, h.metadata, h.state, h.metadataDigest, hview, hmatches,
      recordDigestOffset, recordMetadataOffset, Storage.metadataBytes]

variable (metadata targetSlot generation predecessorGeneration predecessorDigest) in
/-- The view of a record, as it is read back. -/
def recordViewOf : TransactionRecordView where
  targetSlot := targetSlot
  targetState := (metadata.slot targetSlot).state
  generation := generation
  predecessorGeneration := predecessorGeneration
  predecessorDigest := predecessorDigest
  recordDigest := recordDigestOf metadata targetSlot generation predecessorGeneration
    predecessorDigest
  metadata := Storage.withWireDigest metadata

section Read

attribute [local simp] recordWire recordOf recordBody recordBytes recordMetadataOffset
  recordDigestOffset recordChecksumOffset recordHeaderBytes

/-- The digest that a record carries is its name. -/
theorem recordWire_name :
    Digest.read ((recordWire metadata targetSlot generation predecessorGeneration
      predecessorDigest).drop recordDigestOffset) =
        recordDigestOf metadata targetSlot generation predecessorGeneration predecessorDigest := by
  simp [-List.reduceReplicate]

theorem recordRead_recordWire
    (ok : Recordable metadata targetSlot generation predecessorGeneration predecessorDigest) :
    RecordRead (recordWire metadata targetSlot generation predecessorGeneration predecessorDigest)
      (recordViewOf metadata targetSlot generation predecessorGeneration predecessorDigest) := by
  have hopen := Storage.metadataOpen_metadataWire metadata ok.valid
  constructor
  case recordable => exact ⟨ok.target, ok.positive, ok.same, ok.valid, ok.predecessor⟩
  case entry => rfl
  case name => exact recordWire_name
  all_goals
    simp [-List.reduceReplicate, recordViewOf, recordDigestOf, Storage.metadataBytes, hopen]
  all_goals rfl

end Read

/-- **A record is read back as it was written.** -/
theorem recordDecode_recordWire
    (ok : Recordable metadata targetSlot generation predecessorGeneration predecessorDigest) :
    recordDecode (recordWire metadata targetSlot generation predecessorGeneration
        predecessorDigest) =
      some (recordViewOf metadata targetSlot generation predecessorGeneration
        predecessorDigest) :=
  recordDecode_eq_some.mpr (recordRead_recordWire ok)

end Record

/-! ### Selectors -/

section Selector

/-- The whole selector. -/
def selectorWire (view : TransactionSelectorView) : List UInt8 :=
  let output := selectorBody view.recordSlot view.generation view.predecessorGeneration
    view.recordDigest view.predecessorDigest
  let output := patch output selectorDigestOffset (sha256 output selectorDigestOffset).1
  patch output selectorChecksumOffset (storeU32 (crc32c output selectorChecksumOffset))

/-- What may be written as a selector. -/
structure Selectable (view : TransactionSelectorView) : Prop where
  slot : view.recordSlot < recordSlots
  positive : view.generation ≠ 0
  digest : view.recordDigest.isZero = false

variable {view : TransactionSelectorView}

theorem selectorEncode_eq_some {recordSlot : UInt32} {generation predecessorGeneration : UInt64}
    {recordDigest predecessorDigest : Digest} {bytes : List UInt8} :
    selectorEncode recordSlot generation predecessorGeneration recordDigest predecessorDigest =
        some bytes ↔
      Selectable ⟨recordSlot, generation, predecessorGeneration, recordDigest,
        predecessorDigest⟩ ∧
      bytes = selectorWire ⟨recordSlot, generation, predecessorGeneration, recordDigest,
        predecessorDigest⟩ := by
  unfold selectorEncode
  constructor
  · intro h
    split at h
    · cases h
    next hbad =>
    simp only [Bool.or_eq_true, decide_eq_true_eq, beq_iff_eq, not_or, UInt32.not_le,
      Bool.not_eq_true] at hbad
    exact ⟨⟨hbad.1.1, hbad.1.2, hbad.2⟩, (Option.some.inj h).symm⟩
  · rintro ⟨⟨hslot, hpos, hdig⟩, rfl⟩
    have hgood : ¬ (recordSlots ≤ recordSlot || generation == 0 || recordDigest.isZero) = true := by
      simp only [Bool.or_eq_true, decide_eq_true_eq, beq_iff_eq, not_or, UInt32.not_le,
        Bool.not_eq_true]
      exact ⟨⟨hslot, hpos⟩, hdig⟩
    rw [if_neg hgood]
    rfl

@[simp] theorem length_selectorWire : (selectorWire view).length = 512 := by
  simp only [selectorWire, selectorBody, length_patch, List.length_replicate, selectorBytes]

/-- What the reader finds in the bytes of a selector. -/
structure SelectorRead (bytes : List UInt8) (view : TransactionSelectorView) : Prop where
  magic : bytesEqual bytes selectorMagic 32 = true
  version : loadU16 (bytes.drop 32) = 1
  header : loadU16 (bytes.drop 34) = 128
  total : loadU32 (bytes.drop 36) = 512
  slot : loadU32 (bytes.drop 40) = view.recordSlot
  flags : loadU32 (bytes.drop 44) = 0
  generation : loadU64 (bytes.drop 48) = view.generation
  recordDigest : Digest.read (bytes.drop 56) = view.recordDigest
  predecessor : loadU64 (bytes.drop 88) = view.predecessorGeneration
  predecessorDigest : Digest.read (bytes.drop 96) = view.predecessorDigest
  digest : sha256 bytes 128 = Digest.read (bytes.drop 128)
  checksum : loadU32 (bytes.drop 160) = crc32c bytes 160
  zero : bytesZero (bytes.drop 164) 348 = true
  selectable : Selectable view

theorem selectorDecode_eq_some {bytes : List UInt8} :
    selectorDecode bytes = some view ↔ SelectorRead bytes view := by
  unfold selectorDecode
  constructor
  · intro h
    split at h
    · cases h
    rename_i hshape
    split at h
    · cases h
    rename_i hdig
    cases h
    simp only [Bool.not_eq_true', Bool.not_eq_false, Bool.and_eq_true, beq_iff_eq, bne_iff_ne,
      decide_eq_true_eq, Digest.equal_iff] at hshape hdig
    obtain ⟨⟨⟨⟨⟨⟨⟨⟨⟨hmagic, hver⟩, hhdr⟩, htotal⟩, hslot⟩, hflags⟩, hpos⟩, hnamed⟩,
      hzero⟩, hchecksum⟩ := hshape
    exact ⟨hmagic, hver, hhdr, htotal, rfl, hflags, rfl, rfl, rfl, rfl, hdig, hchecksum,
      hzero, hslot, hpos, hnamed⟩
  · intro h
    simp [h.magic, h.version, h.header, h.total, h.slot, h.flags, h.generation, h.recordDigest,
      h.predecessor, h.predecessorDigest, h.digest, h.checksum, h.zero, h.selectable.slot,
      h.selectable.positive, h.selectable.digest, selectorBytes, selectorDigestOffset,
      selectorChecksumOffset]

/-- **A selector is read back as it was written.** -/
theorem selectorDecode_selectorWire (ok : Selectable view) :
    selectorDecode (selectorWire view) = some view := by
  rw [selectorDecode_eq_some]
  constructor
  case selectable => exact ok
  all_goals
    simp [-List.reduceReplicate, selectorWire, selectorBody, selectorBytes, selectorDigestOffset,
      selectorChecksumOffset]

end Selector

end Transaction

end Ribon
