/-
Each object of the update journal has one image.

The readers of slot metadata, records and selectors look at every byte: a fixed value, a
field of the value, a zero, the digest of what is before it, or the checksum.  A record
embeds the image of its metadata and repeats parts of it, and the repeated parts are
compared.  So the bytes are known from the value that was read.

What is read is what was written up to one field.  Metadata carries the digest of its own
body in memory; neither the validity check nor the writer looks at it, and the reader
fills it in.
-/
import Ribon.Security.ProtectedCodec
import Ribon.Update.Lifecycle

namespace Ribon

open Wire Storage

namespace Storage

/-! ### Slot metadata -/

/-- A row holds nothing but its entry. -/
theorem EntryRead.take_row {as bs : List UInt8} {o : Nat} {entry : SlotEntry}
    (a : EntryRead (as.drop o) entry) (b : EntryRead (bs.drop o) entry)
    (ha : o + 160 ≤ as.length) (hb : o + 160 ≤ bs.length) (h : as.take o = bs.take o) :
    as.take (o + 160) = bs.take (o + 160) := by
  obtain ⟨a0, a4, a8, a16, a24, a56, a88, a120, a124, a128⟩ := a
  obtain ⟨b0, b4, b8, b16, b24, b56, b88, b120, b124, b128⟩ := b
  simp only [List.drop_drop] at *
  have h1 := take_u32 h a0 b0
  have h2 := take_u32 h1 a4 b4
  have h3 := take_u64 h2 a8 b8
  have h4 := take_u64 h3 a16 b16
  have h5 := Digest.take_read h4 a24 b24
  have h6 := Digest.take_read h5 a56 b56
  have h7 := Digest.take_read h6 a88 b88
  have h8 := take_u32 h7 a120 b120
  have h9 := take_u32 h8 a124 b124
  have h10 := take_zero (n := 32) h9 a128 b128
  exact h10

variable {metadata : SlotMetadata}

/-- Metadata that agrees up to its digest has one body. -/
theorem BodyRead.take_body {as bs : List UInt8} {digest : Digest} (a : BodyRead as metadata)
    (b : BodyRead bs { metadata with wireDigest := digest }) : 
    as.take 384 = bs.take 384 := by
  have hla := a.length
  have hlb := b.length
  have h0 : as.take 32 = bs.take 32 := by
    rw [take_of_bytesEqual (by omega) length_metadataMagic a.magic,
      take_of_bytesEqual (by omega) length_metadataMagic b.magic]
  have h1 := take_u16 h0 a.version b.version
  have h2 := take_u16 h1 a.header b.header
  have h3 := take_u32 h2 a.total b.total
  have h4 := take_u64 h3 a.generation b.generation
  have h5 := take_u32 h4 a.activeSlot b.activeSlot
  have h6 := take_u32 h5 a.pendingSlot b.pendingSlot
  have h7 := take_u32 h6 a.slotCount b.slotCount
  have h8 := take_u32 h7 a.pad b.pad
  have h9 := a.slotA.take_row b.slotA (by omega) (by omega) h8
  exact a.slotB.take_row b.slotB (by omega) (by omega) h9

/-- A body has one image. -/
theorem Sealed.unique {as bs : List UInt8} (ha : as.length = 512) (hb : bs.length = 512)
    (h : as.take 384 = bs.take 384) (a : Sealed as) (b : Sealed bs) : as = bs := by
  have h1 := Digest.take_sealed h a.digest b.digest
  have h2 := take_checksum h1 a.checksum b.checksum
  have h3 := take_zero h2 a.zero b.zero
  rwa [List.take_of_length_le (by omega), List.take_of_length_le (by omega)] at h3

/-- Valid metadata that carries the digest of its own body. -/
structure Digested (metadata : SlotMetadata) : Prop where
  valid : metadataIsValid metadata = true
  digest : metadata.wireDigest = sha256 (metadataBody metadata) metadataBodyBytes

theorem Digested.withWireDigest_eq (h : Digested metadata) :
    withWireDigest metadata = metadata := by
  unfold withWireDigest
  rw [← h.digest]

/-- **What opens as metadata is the wire of it**, and its digest is that of its body. -/
theorem metadataOpen_wire {bytes : List UInt8} (h : metadataOpen bytes = .ok metadata) :
    bytes = metadataWire metadata ∧ Digested metadata := by
  obtain ⟨hbody, hsealed, hdig, hvalid⟩ := metadataOpen_eq_ok.mp h
  have hwire := bodyRead_metadataWire metadata
  have htake := hbody.take_body hwire
  refine ⟨hsealed.unique hbody.length hwire.length htake (sealed_metadataWire metadata), hvalid, ?_⟩
  rw [hdig, sha256_congr htake]
  exact (metadataOpen_eq_ok.mp (metadataOpen_metadataWire metadata hvalid)).2.2.1.symm

/-- **Digested slot metadata has one image.** -/
theorem metadata_oneImage : Canonical metadataBytes Digested
    (fun metadata => (metadataEncode metadata).toOption)
    (fun bytes => (metadataOpen bytes).toOption) := by
  refine Canonical.of_injective ?_ ?_ ?_
  · intro metadata hdigested
    refine ⟨metadataWire metadata, ?_, length_metadataWire metadata, ?_⟩
    · simp only [metadataEncode_eq_ok.mpr ⟨hdigested.valid, rfl⟩, Except.toOption]
    · simp only [metadataOpen_metadataWire metadata hdigested.valid, hdigested.withWireDigest_eq,
        Except.toOption]
  · intro bytes metadata _ hread
    exact (metadataOpen_wire (toOption_eq_some.mp hread)).2
  · intro left right metadata _ _ hleft hright
    rw [(metadataOpen_wire (toOption_eq_some.mp hleft)).1,
      (metadataOpen_wire (toOption_eq_some.mp hright)).1]

end Storage

namespace Transaction

/-! ### Records -/

/-- A record as the writer takes it. -/
def viewEncode (view : TransactionRecordView) : Option (List UInt8) :=
  recordEncode view.metadata view.targetSlot view.generation view.predecessorGeneration
    view.predecessorDigest

/-- A view whose derived parts are those of what it derives them from. -/
structure Recorded (view : TransactionRecordView) : Prop where
  recordable : Recordable view.metadata view.targetSlot view.generation view.predecessorGeneration
    view.predecessorDigest
  state : view.targetState = (view.metadata.slot view.targetSlot).state
  digest : view.recordDigest = recordDigestOf view.metadata view.targetSlot view.generation
    view.predecessorGeneration view.predecessorDigest
  metadata : Storage.Digested view.metadata

variable {view : TransactionRecordView}

theorem Recorded.recordViewOf_eq (h : Recorded view) :
    recordViewOf view.metadata view.targetSlot view.generation view.predecessorGeneration
      view.predecessorDigest = view := by
  unfold recordViewOf
  rw [h.metadata.withWireDigest_eq, ← h.state, ← h.digest]

/-- Two images of one record are the same, whatever name the views give to it. -/
theorem RecordRead.unique {as bs : List UInt8} {name : Digest} (ha : as.length = 1024)
    (hb : bs.length = 1024) (a : RecordRead as view)
    (b : RecordRead bs { view with recordDigest := name }) : as = bs := by
  have hmeta : (as.drop 240).take 512 = (bs.drop 240).take 512 := by
    rw [(metadataOpen_wire a.metadata).1, (metadataOpen_wire b.metadata).1]
  have hdig : Digest.read (as.drop 104) = Digest.read (bs.drop 104) := by
    rw [a.metadataDigest, b.metadataDigest, hmeta]
  have h0 : as.take 32 = bs.take 32 := by
    rw [take_of_bytesEqual (by omega) length_recordMagic a.magic,
      take_of_bytesEqual (by omega) length_recordMagic b.magic]
  have h1 := take_u16 h0 a.version b.version
  have h2 := take_u16 h1 a.header b.header
  have h3 := take_u32 h2 a.total b.total
  have h4 := take_u32 h3 a.phase b.phase
  have h5 := take_u32 h4 a.target b.target
  have h6 := take_u32 h5 a.state b.state
  have h7 := take_u32 h6 a.flags b.flags
  have h8 := take_u64 h7 a.generation b.generation
  have h9 := take_u64 h8 a.predecessor b.predecessor
  have h10 := Digest.take_read h9 a.predecessorDigest b.predecessorDigest
  have h11 := Digest.take_read h10 hdig rfl
  have h12 := Digest.take_read h11 a.manifestDigest b.manifestDigest
  have h13 := Digest.take_read h12 a.imageSetDigest b.imageSetDigest
  have h14 := Digest.take_read h13 a.layoutDigest b.layoutDigest
  have h15 := take_zero h14 a.pad b.pad
  have h16 := take_field h15 hmeta
  have h17 := Digest.take_sealed h16 a.digest b.digest
  have h18 := take_checksum h17 a.checksum b.checksum
  have h19 := take_zero h18 a.zero b.zero
  rwa [List.take_of_length_le (by omega), List.take_of_length_le (by omega)] at h19

/-- **What is decoded as a record is the wire of it**, and every derived part is right. -/
theorem recordDecode_wire {bytes : List UInt8} (hlen : bytes.length = recordBytes)
    (h : recordDecode bytes = some view) :
    bytes = recordWire view.metadata view.targetSlot view.generation view.predecessorGeneration
        view.predecessorDigest ∧ Recorded view := by
  have hread := recordDecode_eq_some.mp h
  have hdigested := (metadataOpen_wire hread.metadata).2
  -- the view of the wire differs from the view that was read in the name at most
  obtain ⟨name, hview⟩ : ∃ name, recordViewOf view.metadata view.targetSlot view.generation
      view.predecessorGeneration view.predecessorDigest = { view with recordDigest := name } := by
    unfold recordViewOf
    rw [hdigested.withWireDigest_eq, hread.entry]
    exact ⟨_, rfl⟩
  have hback := recordRead_recordWire hread.recordable
  rw [hview] at hback
  have hwire := hread.unique hlen length_recordWire hback
  refine ⟨hwire, hread.recordable, hread.entry.symm, ?_, hdigested⟩
  rw [← hread.name, hwire]
  exact recordWire_name

/-- **A journal record has one image.** -/
theorem record_oneImage : Canonical recordBytes Recorded viewEncode recordDecode := by
  refine Canonical.of_injective ?_ ?_ ?_
  · intro view hrecorded
    refine ⟨_, recordEncode_eq_some.mpr ⟨hrecorded.recordable, rfl⟩, length_recordWire, ?_⟩
    rw [recordDecode_recordWire hrecorded.recordable, hrecorded.recordViewOf_eq]
  · intro bytes view hlen hread
    exact (recordDecode_wire hlen hread).2
  · intro left right view hleft hright hreadLeft hreadRight
    rw [(recordDecode_wire hleft hreadLeft).1, (recordDecode_wire hright hreadRight).1]

/-! ### Selectors -/

/-- A selector as the writer takes it. -/
def viewSelector (view : TransactionSelectorView) : Option (List UInt8) :=
  selectorEncode view.recordSlot view.generation view.predecessorGeneration view.recordDigest
    view.predecessorDigest

/-- Two images of one selector are the same. -/
theorem SelectorRead.unique {as bs : List UInt8} {view : TransactionSelectorView}
    (ha : as.length = 512) (hb : bs.length = 512) (a : SelectorRead as view)
    (b : SelectorRead bs view) : as = bs := by
  have h0 : as.take 32 = bs.take 32 := by
    rw [take_of_bytesEqual (by omega) length_selectorMagic a.magic,
      take_of_bytesEqual (by omega) length_selectorMagic b.magic]
  have h1 := take_u16 h0 a.version b.version
  have h2 := take_u16 h1 a.header b.header
  have h3 := take_u32 h2 a.total b.total
  have h4 := take_u32 h3 a.slot b.slot
  have h5 := take_u32 h4 a.flags b.flags
  have h6 := take_u64 h5 a.generation b.generation
  have h7 := Digest.take_read h6 a.recordDigest b.recordDigest
  have h8 := take_u64 h7 a.predecessor b.predecessor
  have h9 := Digest.take_read h8 a.predecessorDigest b.predecessorDigest
  have h10 := Digest.take_sealed h9 a.digest b.digest
  have h11 := take_checksum h10 a.checksum b.checksum
  have h12 := take_zero h11 a.zero b.zero
  rwa [List.take_of_length_le (by omega), List.take_of_length_le (by omega)] at h12

/-- **A journal selector has one image.** -/
theorem selector_oneImage : Canonical selectorBytes Selectable viewSelector selectorDecode := by
  refine Canonical.of_injective ?_ ?_ ?_
  · intro view hselectable
    exact ⟨_, selectorEncode_eq_some.mpr ⟨hselectable, rfl⟩, length_selectorWire,
      selectorDecode_selectorWire hselectable⟩
  · intro bytes view _ hread
    exact (selectorDecode_eq_some.mp hread).selectable
  · intro left right view hleft hright hreadLeft hreadRight
    exact (selectorDecode_eq_some.mp hreadLeft).unique hleft hright
      (selectorDecode_eq_some.mp hreadRight)

end Transaction

/-! ### All durable objects -/

/-- **Every durable object has one image.**

Each codec reads back what it writes, writes what it reads, and no other bytes of the size
are read as the same value.  A writer that is handed metadata with some other digest than
that of its body writes the same image, and what comes back carries the right one. -/
theorem durable_objects_oneImage :
    (Canonical metadataBytes Storage.Digested
        (fun metadata => (metadataEncode metadata).toOption)
        (fun bytes => (metadataOpen bytes).toOption) ∧
      Canonical Transaction.recordBytes Transaction.Recorded Transaction.viewEncode
        Transaction.recordDecode ∧
      Canonical Transaction.selectorBytes Transaction.Selectable Transaction.viewSelector
        Transaction.selectorDecode ∧
      Canonical ProtectedState.recordBytes
        (fun record => ProtectedState.recordIsConsistent record = true)
        (fun record => some (ProtectedState.recordEncode record)) ProtectedState.recordDecode ∧
      Canonical ProtectedState.selectorBytes ProtectedState.Selectable
        (fun selector => some (ProtectedState.selectorEncode selector))
        ProtectedState.selectorDecode) ∧
    (∀ metadata, metadataIsValid metadata = true →
      ∃ bytes, metadataEncode metadata = .ok bytes ∧
        metadataOpen bytes = .ok (withWireDigest metadata)) ∧
    (∀ metadata targetSlot generation predecessorGeneration predecessorDigest,
      Transaction.Recordable metadata targetSlot generation predecessorGeneration
        predecessorDigest →
      ∃ bytes, Transaction.recordEncode metadata targetSlot generation predecessorGeneration
          predecessorDigest = some bytes ∧
        Transaction.recordDecode bytes = some (Transaction.recordViewOf metadata targetSlot
          generation predecessorGeneration predecessorDigest)) := by
  refine ⟨⟨metadata_oneImage, Transaction.record_oneImage, Transaction.selector_oneImage,
    ProtectedState.record_oneImage, ProtectedState.selector_oneImage⟩, ?_, ?_⟩
  · intro metadata hvalid
    exact ⟨_, metadataEncode_eq_ok.mpr ⟨hvalid, rfl⟩,
      metadataOpen_metadataWire metadata hvalid⟩
  · intro metadata targetSlot generation predecessorGeneration predecessorDigest hrecordable
    exact ⟨_, Transaction.recordEncode_eq_some.mpr ⟨hrecordable, rfl⟩,
      Transaction.recordDecode_recordWire hrecordable⟩

/-- Metadata that was never written carries no digest, and comes back with one. -/
theorem metadata_digest_filled :
    let metadata := Storage.Lifecycle.Bench.metadata
    metadataIsValid metadata = true ∧
      ∃ bytes, metadataEncode metadata = .ok bytes ∧
        metadataOpen bytes ≠ .ok metadata := by
  have hvalid : metadataIsValid Storage.Lifecycle.Bench.metadata = true := by decide
  refine ⟨hvalid, _, metadataEncode_eq_ok.mpr ⟨hvalid, rfl⟩, ?_⟩
  rw [metadataOpen_metadataWire _ hvalid]
  intro hsame
  have hdig := congrArg SlotMetadata.wireDigest (Except.ok.inj hsame)
  have hzero : (sha256 (metadataBody Storage.Lifecycle.Bench.metadata)
      metadataBodyBytes).isZero = false := by decide +kernel
  have hcache : (sha256 (metadataBody Storage.Lifecycle.Bench.metadata)
      metadataBodyBytes) = Digest.zero := hdig
  rw [hcache, Digest.isZero_zero] at hzero
  cases hzero

end Ribon
