/-
Each protected-state object has one image.

A record and a selector are 160 bytes with the same frame: sixteen bytes of magic, the
format, the size, and at the end a checksum over everything before it and twelve zero
bytes.  The readers look at every byte of the frame and of the fields, so an image is known
from the value that was read.
-/
import Ribon.Security.ProtectedState

namespace Ribon

open Wire

namespace ProtectedKind

theorem code_ofCode {value : UInt32} {kind : ProtectedKind} (h : ofCode value = some kind) :
    kind.code = value := by
  unfold ofCode at h
  split at h
  · next hone =>
    cases h
    exact hone.symm
  · split at h
    · next htwo =>
      cases h
      exact htwo.symm
    · cases h

end ProtectedKind

namespace ProtectedState

@[simp] theorem length_recordMagic : recordMagic.length = 15 := by decide +kernel
@[simp] theorem length_selectorMagic : selectorMagic.length = 15 := by decide +kernel

/-! ### The frame -/

section Frame

variable {magic as bs : List UInt8}

/-- The header of an object holds nothing but its kind. -/
theorem take_header (hmagic : magic.length = 15) (ha : as.length = recordBytes)
    (hb : bs.length = recordBytes) (hha : headerIsValid magic as = true)
    (hhb : headerIsValid magic bs = true) : as.take 24 = bs.take 24 := by
  have hlb : bs.length = 160 := hb
  simp only [headerIsValid, Bool.and_eq_true, beq_iff_eq] at hha hhb
  obtain ⟨⟨⟨⟨⟨⟨a0, a15⟩, a16⟩, a17⟩, a18⟩, a19⟩, a20⟩ := hha
  obtain ⟨⟨⟨⟨⟨⟨b0, b15⟩, b16⟩, b17⟩, b18⟩, b19⟩, b20⟩ := hhb
  have h0 : as.take 15 = bs.take 15 := by
    rw [take_of_bytesEqual (by omega) hmagic a0, take_of_bytesEqual (by omega) hmagic b0]
  have h1 := take_byte h0 a15 b15
  have h2 := take_byte h1 a16 b16
  have h3 := take_byte h2 a17 b17
  have h4 := take_byte h3 a18 b18
  have h5 := take_byte h4 a19 b19
  exact take_u32 h5 a20 b20

/-- After the body nothing is left to choose. -/
theorem eq_of_checksum (ha : as.length = recordBytes) (hb : bs.length = recordBytes)
    (h : as.take checksumOffset = bs.take checksumOffset) (hca : checksumIsValid as = true)
    (hcb : checksumIsValid bs = true) : as = bs := by
  have hlb : bs.length = 160 := hb
  simp only [checksumIsValid, checksumOffset, Bool.and_eq_true, beq_iff_eq] at h hca hcb
  have h1 := take_checksum h hca.1 hcb.1
  have h2 := take_zero (n := 12) h1 hca.2 hcb.2
  rwa [List.take_of_length_le (by omega), List.take_of_length_le (by omega)] at h2

theorem headerIsValid_patch {data : List UInt8} {off : Nat} (h : 24 ≤ off) :
    headerIsValid magic (patch bs off data) = headerIsValid magic bs := by
  have htake : (patch bs off data).take 24 = bs.take 24 := take_patch_before h
  simp (disch := omega) only [headerIsValid, bytesEqual_patch_before, loadU32_patch_before,
    byteAt_eq_of_take htake]

theorem headerIsValid_record : headerIsValid recordMagic (wireHeader recordMagic) = true := by
  decide +kernel

theorem headerIsValid_selector :
    headerIsValid selectorMagic (wireHeader selectorMagic) = true := by
  decide +kernel

@[simp] theorem length_wireHeader : (wireHeader magic).length = 160 := by
  simp only [wireHeader, length_patch, List.length_replicate, recordBytes]

/-- Behind the header an object starts as zeros. -/
theorem drop_wireHeader (hmagic : magic.length = 15) {n : Nat} (h : 24 ≤ n) :
    (wireHeader magic).drop n = List.replicate (160 - n) 0 := by
  simp (disch := first | omega | (simp only [hmagic, length_storeU32, List.length_singleton]; omega))
    only [wireHeader, recordBytes, drop_patch_after, List.drop_replicate]

/-- A sealed object has a valid checksum. -/
theorem checksumIsValid_sealChecksum (hlen : bs.length = 160)
    (htail : bytesZero (bs.drop 148) 12 = true) : checksumIsValid (sealChecksum bs) = true := by
  simp only [checksumIsValid, sealChecksum, checksumOffset, Bool.and_eq_true, beq_iff_eq]
  constructor
  · rw [loadU32_patch_self (by omega), crc32c_patch_at (Nat.le_refl 144)]
  · rw [drop_patch_after (by rw [length_storeU32])]
    exact htail

end Frame

/-! ### Records -/

/-- What the reader of records finds in the bytes that it accepts. -/
structure RecordRead (bytes : List UInt8) (record : ProtectedRecord) : Prop where
  header : headerIsValid recordMagic bytes = true
  format : loadU32 (bytes.drop 24) = 1
  kind : loadU32 (bytes.drop 28) = record.kind.code
  generation : loadU64 (bytes.drop 32) = record.generation
  floor : loadU64 (bytes.drop 40) = record.confirmedFloor
  pending : loadU64 (bytes.drop 48) = record.pendingSequence
  attempts : loadU32 (bytes.drop 56) = record.attempts
  pad : loadU32 (bytes.drop 60) = 0
  domain : Digest.read (bytes.drop 64) = record.domain
  binding : Digest.read (bytes.drop 96) = record.binding
  attempt : loadU64 (bytes.drop 128) = record.attemptSequence
  tail : loadU64 (bytes.drop 136) = 0
  checksum : checksumIsValid bytes = true
  consistent : recordIsConsistent record = true

variable {record : ProtectedRecord}

theorem recordDecode_eq_some {bytes : List UInt8} :
    recordDecode bytes = some record ↔ RecordRead bytes record := by
  unfold recordDecode
  constructor
  · intro h
    split at h
    · cases h
    rename_i hframe
    simp only [Bool.not_eq_true', Bool.not_eq_false, Bool.and_eq_true, beq_iff_eq] at hframe
    obtain ⟨⟨⟨⟨hhdr, hformat⟩, hpad⟩, htail⟩, hchecksum⟩ := hframe
    split at h
    · cases h
    rename_i kind hkind
    dsimp only at h
    split at h
    · rename_i hconsistent
      cases h
      exact ⟨hhdr, hformat, (ProtectedKind.code_ofCode hkind).symm, rfl, rfl, rfl, rfl, hpad,
        rfl, rfl, rfl, htail, hchecksum, hconsistent⟩
    · cases h
  · intro h
    rw [if_neg (by simp [h.header, h.format, h.pad, h.tail, h.checksum]), h.kind,
      ProtectedKind.ofCode_code]
    simp only [h.generation, h.floor, h.pending, h.attempts, h.domain, h.binding, h.attempt]
    exact if_pos h.consistent

/-- A record is written so that it can be read. -/
theorem recordRead_recordEncode (h : recordIsConsistent record = true) :
    RecordRead (recordEncode record) record := by
  refine ⟨?_, ?_, ?_, ?_, ?_, ?_, ?_, ?_, ?_, ?_, ?_, ?_, ?_, h⟩
  case refine_1 =>
    simp (disch := first | omega | (unfold checksumOffset; omega))
      only [recordEncode, sealChecksum, headerIsValid_patch, headerIsValid_record]
  case refine_13 =>
    refine checksumIsValid_sealChecksum ?_ ?_ <;>
      simp [-List.reduceReplicate, drop_wireHeader length_recordMagic]
  all_goals
    simp [-List.reduceReplicate, recordEncode, sealChecksum, checksumOffset,
      drop_wireHeader length_recordMagic]

@[simp] theorem length_recordEncode (record : ProtectedRecord) :
    (recordEncode record).length = recordBytes := by
  simp only [recordEncode, sealChecksum, length_patch, length_wireHeader, recordBytes]

/-- Two images of one record are the same. -/
theorem RecordRead.unique {as bs : List UInt8} (ha : as.length = recordBytes)
    (hb : bs.length = recordBytes) (a : RecordRead as record) (b : RecordRead bs record) :
    as = bs := by
  have hlb : bs.length = 160 := hb
  have h0 := take_header length_recordMagic ha hb a.header b.header
  have h1 := take_u32 h0 a.format b.format
  have h2 := take_u32 h1 a.kind b.kind
  have h3 := take_u64 h2 a.generation b.generation
  have h4 := take_u64 h3 a.floor b.floor
  have h5 := take_u64 h4 a.pending b.pending
  have h6 := take_u32 h5 a.attempts b.attempts
  have h7 := take_u32 h6 a.pad b.pad
  have h8 := Digest.take_read h7 a.domain b.domain
  have h9 := Digest.take_read h8 a.binding b.binding
  have h10 := take_u64 h9 a.attempt b.attempt
  have h11 := take_u64 h10 a.tail b.tail
  exact eq_of_checksum ha hb h11 a.checksum b.checksum

/-- **A protected record has one image.** -/
theorem record_oneImage : Canonical recordBytes (fun record => recordIsConsistent record = true)
    (fun record => some (recordEncode record)) recordDecode := by
  refine Canonical.of_injective ?_ ?_ ?_
  · intro record hvalid
    exact ⟨_, rfl, length_recordEncode record,
      recordDecode_eq_some.mpr (recordRead_recordEncode hvalid)⟩
  · intro bytes record _ hread
    exact (recordDecode_eq_some.mp hread).consistent
  · intro left right record hleft hright hreadLeft hreadRight
    exact (recordDecode_eq_some.mp hreadLeft).unique hleft hright
      (recordDecode_eq_some.mp hreadRight)

/-! ### Selectors -/

/-- What may be written as a selector. -/
structure Selectable (selector : ProtectedSelector) : Prop where
  slot : selector.slot < recordSlots
  positive : selector.generation ≠ 0
  domain : selector.domain.isZero = false
  recordDigest : selector.recordDigest.isZero = false

/-- What the reader of selectors finds in the bytes that it accepts. -/
structure SelectorRead (bytes : List UInt8) (selector : ProtectedSelector) : Prop where
  header : headerIsValid selectorMagic bytes = true
  slot : loadU32 (bytes.drop 24) = selector.slot
  pad : loadU32 (bytes.drop 28) = 0
  generation : loadU64 (bytes.drop 32) = selector.generation
  domain : Digest.read (bytes.drop 40) = selector.domain
  recordDigest : Digest.read (bytes.drop 72) = selector.recordDigest
  tail : bytesZero (bytes.drop 104) 40 = true
  checksum : checksumIsValid bytes = true
  selectable : Selectable selector

variable {selector : ProtectedSelector}

theorem selectorDecode_eq_some {bytes : List UInt8} :
    selectorDecode bytes = some selector ↔ SelectorRead bytes selector := by
  unfold selectorDecode
  dsimp only
  constructor
  · intro h
    split at h
    · rename_i hfields
      simp only [Bool.and_eq_true, Bool.not_eq_true', beq_iff_eq, bne_iff_ne,
        decide_eq_true_eq] at hfields
      obtain ⟨⟨⟨⟨⟨⟨⟨hhdr, hslot⟩, hpad⟩, hpos⟩, hdomain⟩, hdig⟩, htail⟩, hchecksum⟩ :=
        hfields
      cases h
      exact ⟨hhdr, rfl, hpad, rfl, rfl, rfl, htail, hchecksum,
        ⟨hslot, hpos, hdomain, hdig⟩⟩
    · cases h
  · intro h
    have htail : bytesZero (bytes.drop 104) (checksumOffset - 104) = true := h.tail
    rw [h.slot, h.generation, h.domain, h.recordDigest, if_pos]
    simp [h.header, h.pad, htail, h.checksum, h.selectable.slot, h.selectable.positive,
      h.selectable.domain, h.selectable.recordDigest]

/-- A selector is written so that it can be read. -/
theorem selectorRead_selectorEncode (h : Selectable selector) :
    SelectorRead (selectorEncode selector) selector := by
  refine ⟨?_, ?_, ?_, ?_, ?_, ?_, ?_, ?_, h⟩
  case refine_1 =>
    simp (disch := first | omega | (unfold checksumOffset; omega))
      only [selectorEncode, sealChecksum, headerIsValid_patch, headerIsValid_selector]
  case refine_8 =>
    refine checksumIsValid_sealChecksum ?_ ?_ <;>
      simp [-List.reduceReplicate, drop_wireHeader length_selectorMagic]
  all_goals
    simp [-List.reduceReplicate, selectorEncode, sealChecksum, checksumOffset,
      drop_wireHeader length_selectorMagic]

@[simp] theorem length_selectorEncode (selector : ProtectedSelector) :
    (selectorEncode selector).length = selectorBytes := by
  simp only [selectorEncode, sealChecksum, length_patch, length_wireHeader, selectorBytes]

/-- Two images of one selector are the same. -/
theorem SelectorRead.unique {as bs : List UInt8} (ha : as.length = selectorBytes)
    (hb : bs.length = selectorBytes) (a : SelectorRead as selector) (b : SelectorRead bs selector) :
    as = bs := by
  have hlb : bs.length = 160 := hb
  have h0 := take_header length_selectorMagic ha hb a.header b.header
  have h1 := take_u32 h0 a.slot b.slot
  have h2 := take_u32 h1 a.pad b.pad
  have h3 := take_u64 h2 a.generation b.generation
  have h4 := Digest.take_read h3 a.domain b.domain
  have h5 := Digest.take_read h4 a.recordDigest b.recordDigest
  have h6 := take_zero h5 a.tail b.tail
  exact eq_of_checksum ha hb h6 a.checksum b.checksum

/-- **A protected selector has one image.** -/
theorem selector_oneImage : Canonical selectorBytes Selectable
    (fun selector => some (selectorEncode selector)) selectorDecode := by
  refine Canonical.of_injective ?_ ?_ ?_
  · intro selector hvalid
    exact ⟨_, rfl, length_selectorEncode selector,
      selectorDecode_eq_some.mpr (selectorRead_selectorEncode hvalid)⟩
  · intro bytes selector _ hread
    exact (selectorDecode_eq_some.mp hread).selectable
  · intro left right selector hleft hright hreadLeft hreadRight
    exact (selectorDecode_eq_some.mp hreadLeft).unique hleft hright
      (selectorDecode_eq_some.mp hreadRight)

end ProtectedState

end Ribon
