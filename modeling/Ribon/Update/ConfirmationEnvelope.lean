/-
The envelope of a health receipt has one encoding, and so has a boot attempt.

An envelope is a header of 256 bytes, three ids, the health payload and a signature, one
right behind the other.  Its header says where each begins.  The reader looks at every byte
of the header and knows the sizes before it cuts the rest, so what it accepts is what the
writer writes of what it read.

The reader also refuses a health digest of zeros, which the formats of this repository use
for a digest that is not there.  The writer computes that digest and does not look at it.
So a confirmation is valid here if the writer takes it and its payload has a digest.

The binding of an attempt hashes its fields in a fixed order, the ids last and their sizes
before them.
-/
import Ribon.Update.Confirmation
import Ribon.Update.Codec

namespace Ribon

open Wire

/-- What the writer of an envelope is given. -/
structure EnvelopeSource where
  size : UInt32
  abiVersion : UInt32
  flags : UInt32
  slotId : UInt32
  protocolMajor : UInt32
  protocolMinor : UInt32
  policyVersion : UInt32
  reserved0 : UInt32
  imageGeneration : UInt64
  manifestSequence : UInt64
  attemptSequence : UInt64
  productId : View
  protocolId : View
  keyId : View
  healthPayload : View
  manifestDigest : Digest
  nonce : Digest
  signature : { bytes : List UInt8 // bytes.length = Confirmation.signatureBytes }
  reserved : Reserved
  deriving DecidableEq

theorem Digest.isZero_read {bs : List UInt8} (h : 32 ≤ bs.length) :
    (Digest.read bs).isZero = bytesZero bs 32 := by
  rw [Digest.isZero, Digest.val_read h, bytesZero_take]

namespace Confirmation

def envelopeSourceSizeOf : UInt32 := 280

/-! ### The writer -/

/-- What the writer checks of its source. -/
def sourceIsValid (source : EnvelopeSource) : Bool :=
  source.size == envelopeSourceSizeOf && source.abiVersion == abiVersion && source.flags == 0 &&
  source.reserved0 == 0 && decide (source.slotId < Storage.slotCount) &&
  source.protocolMajor != 0 && source.policyVersion != 0 && source.imageGeneration != 0 &&
  source.manifestSequence != 0 && source.attemptSequence != 0 &&
  idIsValid source.productId maxProductIdBytes && idIsValid source.protocolId maxProtocolIdBytes &&
  idIsValid source.keyId maxKeyIdBytes && !source.healthPayload.isNull &&
  source.healthPayload.size != 0 && decide (source.healthPayload.size ≤ maxHealthBytes) &&
  !source.manifestDigest.isZero && !source.nonce.isZero && reservedZero source.reserved

/-- Where the fields behind the header begin, and where the last one ends. -/
structure EnvelopeOffsets where
  protocol : Nat
  key : Nat
  health : Nat
  signature : Nat
  total : Nat

def envelopeOffsets (source : EnvelopeSource) : EnvelopeOffsets :=
  let protocolOffset := headerBytes + source.productId.size
  let keyOffset := protocolOffset + source.protocolId.size
  let healthOffset := keyOffset + source.keyId.size
  let signatureOffset := healthOffset + source.healthPayload.size
  { protocol := protocolOffset
    key := keyOffset
    health := healthOffset
    signature := signatureOffset
    total := signatureOffset + signatureBytes }

/-- The header, written into a buffer. -/
def writeHeader (source : EnvelopeSource) (output : List UInt8) : List UInt8 :=
  let offsets := envelopeOffsets source
  let output := patch output 0 envelopeMagic
  let output := patch output 32 (storeU16 1)
  let output := patch output 34 (storeU16 0)
  let output := patch output 36 (storeU32 (UInt32.ofNat headerBytes))
  let output := patch output 40 (storeU32 (UInt32.ofNat offsets.total))
  let output := patch output 44 (storeU32 source.slotId)
  let output := patch output 48 (storeU32 source.protocolMajor)
  let output := patch output 52 (storeU32 source.protocolMinor)
  let output := patch output 56 (storeU32 source.policyVersion)
  let output := patch output 64 (storeU64 source.imageGeneration)
  let output := patch output 72 (storeU64 source.manifestSequence)
  let output := patch output 80 (storeU64 source.attemptSequence)
  let output := patch output 88 (storeU16 (UInt16.ofNat source.productId.size))
  let output := patch output 90 (storeU16 (UInt16.ofNat source.protocolId.size))
  let output := patch output 92 (storeU16 (UInt16.ofNat source.keyId.size))
  let output := patch output 96 (storeU32 (UInt32.ofNat source.healthPayload.size))
  let output := patch output 100 (storeU32 (UInt32.ofNat headerBytes))
  let output := patch output 104 (storeU32 (UInt32.ofNat offsets.protocol))
  let output := patch output 108 (storeU32 (UInt32.ofNat offsets.key))
  let output := patch output 112 (storeU32 (UInt32.ofNat offsets.health))
  let output := patch output 116 (storeU32 (UInt32.ofNat offsets.signature))
  let output := patch output 120 (storeU32 (UInt32.ofNat signatureBytes))
  let output := patch output 128 source.manifestDigest.1
  let output := patch output 160 source.nonce.1
  patch output 192 (sha256 source.healthPayload.data source.healthPayload.size).1

/-- Write an envelope into a buffer of the given capacity. -/
def envelopeEncode (source : EnvelopeSource) (capacity : Nat) :
    Except ConfirmationStatus (List UInt8) := do
  let offsets := envelopeOffsets source
  -- no sum overflows behind the bounds of the ids, and what fits the wire fits its 32-bit fields
  refuse (!sourceIsValid source || decide (capacity < offsets.total) ||
    decide (maxWireBytes < offsets.total)) .invalidArgument
  let output := writeHeader source (List.replicate offsets.total 0)
  let output := patch output headerBytes source.productId.data
  let output := patch output offsets.protocol source.protocolId.data
  let output := patch output offsets.key source.keyId.data
  let output := patch output offsets.health source.healthPayload.data
  return patch output offsets.signature source.signature.1

@[simp] theorem length_envelopeMagic : envelopeMagic.length = 32 := by decide +kernel

theorem idIsValid_iff {id : View} {maximum : Nat} :
    idIsValid id maximum = true ↔
      ∃ data, id = .mem data ∧ 0 < data.length ∧ data.length ≤ maximum ∧
        data.all (· != 0) = true := by
  cases id with
  | null size => simp [idIsValid, View.isNull]
  | mem data =>
      change (data.length != 0 && decide (data.length ≤ maximum) && data.all (· != 0)) = true ↔ _
      simp only [Bool.and_eq_true, bne_iff_ne, decide_eq_true_eq, View.mem.injEq, exists_eq_left',
        Nat.pos_iff_ne_zero, and_assoc]

theorem idIsValid_data {id : View} {maximum : Nat} (h : idIsValid id maximum = true) :
    idIsValid (.mem id.data) maximum = true := by
  obtain ⟨data, rfl, -⟩ := idIsValid_iff.mp h
  exact h

/-- What makes a confirmation valid. -/
structure Confirmable (source : EnvelopeSource) : Prop where
  accepted : sourceIsValid source = true
  digest : (sha256 source.healthPayload.data source.healthPayload.size).isZero = false

/-- What the writer's checks say. -/
@[mk_iff] structure SourceValid (source : EnvelopeSource) : Prop where
  size : source.size = envelopeSourceSizeOf
  abi : source.abiVersion = abiVersion
  flags : source.flags = 0
  reserved0 : source.reserved0 = 0
  slot : source.slotId < Storage.slotCount
  major : source.protocolMajor ≠ 0
  policy : source.policyVersion ≠ 0
  image : source.imageGeneration ≠ 0
  sequence : source.manifestSequence ≠ 0
  attempt : source.attemptSequence ≠ 0
  product : idIsValid source.productId maxProductIdBytes = true
  protocol : idIsValid source.protocolId maxProtocolIdBytes = true
  key : idIsValid source.keyId maxKeyIdBytes = true
  health : ∃ data, source.healthPayload = .mem data ∧ 0 < data.length ∧
    data.length ≤ maxHealthBytes
  manifest : source.manifestDigest.isZero = false
  nonce : source.nonce.isZero = false
  reserved : source.reserved = Reserved.none

theorem payloadIsValid_iff {payload : View} :
    (payload.isNull = false ∧ payload.size ≠ 0 ∧ payload.size ≤ maxHealthBytes) ↔
      ∃ data, payload = .mem data ∧ 0 < data.length ∧ data.length ≤ maxHealthBytes := by
  cases payload with
  | null size => simp [View.isNull]
  | mem data => simp [View.isNull, View.size, Nat.pos_iff_ne_zero]

variable {source : EnvelopeSource}

theorem sourceIsValid_iff :
    sourceIsValid source = true ↔ SourceValid source := by
  simp only [sourceIsValid, Bool.and_eq_true, beq_iff_eq, bne_iff_ne, Bool.not_eq_true',
    decide_eq_true_eq, reservedZero_iff, sourceValid_iff, ← payloadIsValid_iff]
  exact iff_of_eq (by ac_rfl)

section SourceValid

variable {source : EnvelopeSource} (h : SourceValid source)

include h

/-- No part of a valid source is missing. -/
theorem SourceValid.present :
    source.productId.size = source.productId.data.length ∧
      source.protocolId.size = source.protocolId.data.length ∧
      source.keyId.size = source.keyId.data.length ∧
      source.healthPayload.size = source.healthPayload.data.length := by
  obtain ⟨product, hprod, -⟩ := idIsValid_iff.mp h.product
  obtain ⟨protocol, hproto, -⟩ := idIsValid_iff.mp h.protocol
  obtain ⟨key, hkey, -⟩ := idIsValid_iff.mp h.key
  obtain ⟨health, hhealth, -⟩ := h.health
  rw [hprod, hproto, hkey, hhealth]
  exact ⟨rfl, rfl, rfl, rfl⟩

/-- The writer's bounds on the sizes. -/
theorem SourceValid.sizes :
    source.productId.size ≤ 128 ∧ source.protocolId.size ≤ 64 ∧ source.keyId.size ≤ 64 ∧
      source.healthPayload.size ≤ 1024 ∧ 0 < source.productId.size ∧ 0 < source.protocolId.size ∧
      0 < source.keyId.size ∧ 0 < source.healthPayload.size := by
  obtain ⟨product, hprod, hp0, hp1, -⟩ := idIsValid_iff.mp h.product
  obtain ⟨protocol, hproto, hq0, hq1, -⟩ := idIsValid_iff.mp h.protocol
  obtain ⟨key, hkey, hk0, hk1, -⟩ := idIsValid_iff.mp h.key
  obtain ⟨health, hhealth, hh0, hh1⟩ := h.health
  rw [hprod, hproto, hkey, hhealth]
  exact ⟨hp1, hq1, hk1, hh1, hp0, hq0, hk0, hh0⟩

end SourceValid

/-! ### What the bytes say -/

/-- What there is to find in the bytes of an envelope. -/
structure EnvelopeRead (bytes : List UInt8) (source : EnvelopeSource) : Prop where
  length : bytes.length = (envelopeOffsets source).total
  magic : bytesEqual bytes envelopeMagic 32 = true
  major : loadU16 (bytes.drop 32) = 1
  minor : loadU16 (bytes.drop 34) = 0
  header : loadU32 (bytes.drop 36) = UInt32.ofNat headerBytes
  total : loadU32 (bytes.drop 40) = UInt32.ofNat (envelopeOffsets source).total
  slot : loadU32 (bytes.drop 44) = source.slotId
  protocolMajor : loadU32 (bytes.drop 48) = source.protocolMajor
  protocolMinor : loadU32 (bytes.drop 52) = source.protocolMinor
  policy : loadU32 (bytes.drop 56) = source.policyVersion
  pad60 : loadU32 (bytes.drop 60) = 0
  image : loadU64 (bytes.drop 64) = source.imageGeneration
  sequence : loadU64 (bytes.drop 72) = source.manifestSequence
  attempt : loadU64 (bytes.drop 80) = source.attemptSequence
  productSize : loadU16 (bytes.drop 88) = UInt16.ofNat source.productId.size
  protocolSize : loadU16 (bytes.drop 90) = UInt16.ofNat source.protocolId.size
  keySize : loadU16 (bytes.drop 92) = UInt16.ofNat source.keyId.size
  pad94 : loadU16 (bytes.drop 94) = 0
  healthSize : loadU32 (bytes.drop 96) = UInt32.ofNat source.healthPayload.size
  productOffset : loadU32 (bytes.drop 100) = UInt32.ofNat headerBytes
  protocolOffset : loadU32 (bytes.drop 104) = UInt32.ofNat (envelopeOffsets source).protocol
  keyOffset : loadU32 (bytes.drop 108) = UInt32.ofNat (envelopeOffsets source).key
  healthOffset : loadU32 (bytes.drop 112) = UInt32.ofNat (envelopeOffsets source).health
  signatureOffset : loadU32 (bytes.drop 116) = UInt32.ofNat (envelopeOffsets source).signature
  signatureSize : loadU32 (bytes.drop 120) = UInt32.ofNat signatureBytes
  pad124 : loadU32 (bytes.drop 124) = 0
  manifest : Digest.read (bytes.drop 128) = source.manifestDigest
  nonce : Digest.read (bytes.drop 160) = source.nonce
  healthDigest : Digest.read (bytes.drop 192) =
    sha256 source.healthPayload.data source.healthPayload.size
  tail : bytesZero (bytes.drop 224) 32 = true
  product : field bytes headerBytes source.productId.size = source.productId.data
  protocol : field bytes (envelopeOffsets source).protocol source.protocolId.size =
    source.protocolId.data
  key : field bytes (envelopeOffsets source).key source.keyId.size = source.keyId.data
  health : field bytes (envelopeOffsets source).health source.healthPayload.size =
    source.healthPayload.data
  signature : field bytes (envelopeOffsets source).signature signatureBytes = source.signature.1

variable {as bs : List UInt8}

/-- **An envelope says everything about its bytes.** -/
theorem EnvelopeRead.unique (a : EnvelopeRead as source) (b : EnvelopeRead bs source) :
    as = bs := by
  have hlong : 256 ≤ (envelopeOffsets source).total := by
    simp only [envelopeOffsets, headerBytes]
    omega
  have hla := a.length
  have hlb := b.length
  have h0 : as.take 32 = bs.take 32 := by
    rw [take_of_bytesEqual (by omega) length_envelopeMagic a.magic,
      take_of_bytesEqual (by omega) length_envelopeMagic b.magic]
  have h1 := take_u16 h0 a.major b.major
  have h2 := take_u16 h1 a.minor b.minor
  have h3 := take_u32 h2 a.header b.header
  have h4 := take_u32 h3 a.total b.total
  have h5 := take_u32 h4 a.slot b.slot
  have h6 := take_u32 h5 a.protocolMajor b.protocolMajor
  have h7 := take_u32 h6 a.protocolMinor b.protocolMinor
  have h8 := take_u32 h7 a.policy b.policy
  have h9 := take_u32 h8 a.pad60 b.pad60
  have h10 := take_u64 h9 a.image b.image
  have h11 := take_u64 h10 a.sequence b.sequence
  have h12 := take_u64 h11 a.attempt b.attempt
  have h13 := take_u16 h12 a.productSize b.productSize
  have h14 := take_u16 h13 a.protocolSize b.protocolSize
  have h15 := take_u16 h14 a.keySize b.keySize
  have h16 := take_u16 h15 a.pad94 b.pad94
  have h17 := take_u32 h16 a.healthSize b.healthSize
  have h18 := take_u32 h17 a.productOffset b.productOffset
  have h19 := take_u32 h18 a.protocolOffset b.protocolOffset
  have h20 := take_u32 h19 a.keyOffset b.keyOffset
  have h21 := take_u32 h20 a.healthOffset b.healthOffset
  have h22 := take_u32 h21 a.signatureOffset b.signatureOffset
  have h23 := take_u32 h22 a.signatureSize b.signatureSize
  have h24 := take_u32 h23 a.pad124 b.pad124
  have h25 := Digest.take_read h24 a.manifest b.manifest
  have h26 := Digest.take_read h25 a.nonce b.nonce
  have h27 := Digest.take_read h26 a.healthDigest b.healthDigest
  have h28 : as.take headerBytes = bs.take headerBytes :=
    take_zero h27 a.tail b.tail
  -- behind the header every field begins where the one before it ends
  have h29 := take_field h28 (a.product.trans b.product.symm)
  have h30 := take_field h29 (a.protocol.trans b.protocol.symm)
  have h31 := take_field h30 (a.key.trans b.key.symm)
  have h32 := take_field h31 (a.health.trans b.health.symm)
  have h33 := take_field h32 (a.signature.trans b.signature.symm)
  have htotal : headerBytes + source.productId.size + source.protocolId.size + source.keyId.size +
      source.healthPayload.size + signatureBytes = (envelopeOffsets source).total := rfl
  rwa [htotal, List.take_of_length_le (by omega), List.take_of_length_le (by omega)] at h33

/-! ### What the reader returns -/

/-- A confirmation as the reader returns it: the source's own fields, the digest of the payload,
and the part of the bytes that the signature covers. -/
def confirmationView (source : EnvelopeSource) (bytes : List UInt8) : EnvelopeView :=
  { source with
    productId := source.productId.data
    protocolId := source.protocolId.data
    keyId := source.keyId.data
    healthPayload := source.healthPayload.data
    signature := source.signature.1
    authenticatedMessage := bytes.take (envelopeOffsets source).signature
    healthPayloadDigest := sha256 source.healthPayload.data source.healthPayload.size }

variable {bytes : List UInt8}

variable (h : EnvelopeRead bytes source)
include h

theorem EnvelopeRead.envelopeSizes_eq (valid : SourceValid source) :
    envelopeSizes bytes = ⟨source.productId.size, source.protocolId.size, source.keyId.size,
      source.healthPayload.size⟩ := by
  have hsizes := valid.sizes
  unfold envelopeSizes
  rw [h.productSize, h.protocolSize, h.keySize, h.healthSize, UInt16.toNat_ofNat',
    UInt16.toNat_ofNat', UInt16.toNat_ofNat', UInt32.toNat_ofNat', Nat.mod_eq_of_lt (by omega),
    Nat.mod_eq_of_lt (by omega), Nat.mod_eq_of_lt (by omega), Nat.mod_eq_of_lt (by omega)]

theorem EnvelopeRead.envelopeView_eq :
    envelopeView bytes ⟨source.productId.size, source.protocolId.size, source.keyId.size,
      source.healthPayload.size⟩ = confirmationView source bytes := by
  unfold envelopeView confirmationView
  rw [← h.slot, ← h.protocolMajor, ← h.protocolMinor, ← h.policy, ← h.image, ← h.sequence,
    ← h.attempt, ← h.product, ← h.protocol, ← h.key, ← h.signature, ← h.manifest, ← h.nonce,
    ← h.healthDigest, ← h.health]
  rfl

/-- The bytes of a valid confirmation are opened as it. -/
theorem EnvelopeRead.opens (hconfirmable : Confirmable source) :
    envelopeOpen (.mem bytes) = .ok (confirmationView source bytes) := by
  have valid := sourceIsValid_iff.mp hconfirmable.accepted
  have hsizes := valid.sizes
  have hlen : bytes.length = 256 + source.productId.size + source.protocolId.size +
      source.keyId.size + source.healthPayload.size + 64 := h.length
  have hword : ∀ n, n ≤ bytes.length → (UInt32.ofNat n).toNat = n := by
    intro n hn
    rw [UInt32.toNat_ofNat', Nat.mod_eq_of_lt (by omega)]
  have hzero : ∀ o, o + 32 ≤ 256 → (Digest.read (bytes.drop o)).isZero = false →
      bytesZero (bytes.drop o) 32 = false := by
    intro o ho hread
    rwa [Digest.isZero_read (by rw [List.length_drop]; omega)] at hread
  simp only [envelopeOpen, bind_eq_ok, refuse_eq_ok, pure_eq_ok, exists_const,
    h.envelopeSizes_eq valid, h.envelopeView_eq, Bool.or_eq_false_iff, decide_eq_false_iff_not,
    Bool.not_eq_false', Bool.and_eq_true, and_true, Digest.equal_iff]
  refine ⟨⟨?_, ?_⟩, ⟨?_, ?_⟩, ⟨⟨?_, ?_⟩, ?_⟩, rfl⟩
  · simp only [headerBytes]
    omega
  · simp only [maxWireBytes]
    omega
  · simp only [envelopeHeaderIsValid, Bool.and_eq_true, beq_iff_eq, bne_iff_ne, Bool.not_eq_true',
      decide_eq_true_eq, h.total, hword _ (Nat.le_of_eq h.length.symm), h.slot, h.protocolMajor,
      h.policy, h.image, h.sequence, h.attempt]
    exact ⟨⟨⟨⟨⟨⟨⟨⟨⟨⟨⟨⟨⟨⟨⟨⟨⟨h.magic, h.major⟩, h.minor⟩, h.header⟩, h.length.symm⟩, valid.slot⟩,
      valid.major⟩, valid.policy⟩, h.pad60⟩, valid.image⟩, valid.sequence⟩, valid.attempt⟩, h.pad94⟩,
      h.pad124⟩, hzero 128 (by omega) (h.manifest ▸ valid.manifest)⟩,
      hzero 160 (by omega) (h.nonce ▸ valid.nonce)⟩,
      hzero 192 (by omega) (h.healthDigest ▸ hconfirmable.digest)⟩, h.tail⟩
  · simp only [envelopeFieldsAreValid, Bool.and_eq_true, beq_iff_eq, bne_iff_ne,
      decide_eq_true_eq, h.signatureSize, h.productOffset, h.protocolOffset, h.keyOffset,
      h.healthOffset, h.signatureOffset]
    simp only [envelopeOffsets, headerBytes, signatureBytes, maxProductIdBytes, maxProtocolIdBytes,
      maxKeyIdBytes, maxHealthBytes]
    rw [hword _ (by omega), hword _ (by omega), hword _ (by omega), hword _ (by omega),
      hword _ (by omega), hword _ (by omega)]
    omega
  · exact idIsValid_data valid.product
  · exact idIsValid_data valid.protocol
  · exact idIsValid_data valid.key

omit h

/-- The source that an opened envelope was written from. -/
def sourceOf (view : EnvelopeView) (h : view.signature.length = signatureBytes) :
    EnvelopeSource :=
  { view with
    size := envelopeSourceSizeOf
    abiVersion := abiVersion
    flags := 0
    reserved0 := 0
    productId := .mem view.productId
    protocolId := .mem view.protocolId
    keyId := .mem view.keyId
    healthPayload := .mem view.healthPayload
    signature := ⟨view.signature, h⟩
    reserved := Reserved.none }

theorem length_field {offset size : Nat} (h : offset + size ≤ bytes.length) :
    (field bytes offset size).length = size := by
  rw [field, List.length_take, List.length_drop]
  omega

theorem eq_ofNat_of_toNat {word : UInt32} {n : Nat} (h : word.toNat = n) :
    word = UInt32.ofNat n := by
  rw [← h, UInt32.ofNat_toNat]

/-- What opens is a valid confirmation. -/
theorem envelopeOpen_read {view : EnvelopeView} (h : envelopeOpen (.mem bytes) = .ok view) :
    ∃ source, Confirmable source ∧ EnvelopeRead bytes source ∧
      view = confirmationView source bytes := by
  unfold envelopeOpen at h
  simp only [bind_eq_ok, refuse_eq_ok, pure_eq_ok, exists_const] at h
  obtain ⟨hsize, hchecks, hids, hhealth, rfl⟩ := h
  simp only [Bool.or_eq_false_iff, decide_eq_false_iff_not, Bool.not_eq_false', Bool.and_eq_true,
    envelopeHeaderIsValid, envelopeFieldsAreValid, beq_iff_eq, bne_iff_ne, Bool.not_eq_true',
    decide_eq_true_eq, Digest.equal_iff] at hsize hchecks hids hhealth
  obtain ⟨⟨⟨⟨⟨⟨⟨⟨⟨⟨⟨⟨⟨⟨⟨⟨⟨⟨hmagic, hmajor⟩, hminor⟩, hhdr⟩, htotal⟩, hslot⟩, hprotocolMajor⟩,
    hpolicy⟩, hpad60⟩, himage⟩, hsequence⟩, hatt⟩, hpad94⟩, hpad124⟩, hman⟩, hnonce⟩, hdig⟩,
    htail⟩, ⟨⟨⟨⟨⟨⟨⟨⟨⟨⟨⟨⟨⟨⟨-, -⟩, -⟩, -⟩, -⟩, -⟩, hpay⟩, hpayloadMost⟩, hsgn⟩, hproductOffset⟩,
    hprotocolOffset⟩, hkeyOffset⟩, hhealthOffset⟩, hsignatureOffset⟩, hend⟩⟩ := hchecks
  obtain ⟨⟨hprod, hproto⟩, hkey⟩ := hids
  have hproductSize : loadU16 (bytes.drop 88) = UInt16.ofNat (envelopeSizes bytes).product :=
    UInt16.ofNat_toNat.symm
  have hprotocolSize : loadU16 (bytes.drop 90) = UInt16.ofNat (envelopeSizes bytes).protocol :=
    UInt16.ofNat_toNat.symm
  have hkeySize : loadU16 (bytes.drop 92) = UInt16.ofNat (envelopeSizes bytes).key :=
    UInt16.ofNat_toNat.symm
  have hhealthSize : loadU32 (bytes.drop 96) = UInt32.ofNat (envelopeSizes bytes).health :=
    UInt32.ofNat_toNat.symm
  generalize envelopeSizes bytes = sizes at *
  obtain ⟨p, q, k, n⟩ := sizes
  dsimp only at *
  have hlong : 256 + p + q + k + n + 64 = bytes.length := hend
  -- the fields have the sizes that the header says
  have lp : (field bytes headerBytes p).length = p :=
    length_field (by simp only [headerBytes]; omega)
  have lq : (field bytes (headerBytes + p) q).length = q :=
    length_field (by simp only [headerBytes]; omega)
  have lk : (field bytes (headerBytes + p + q) k).length = k :=
    length_field (by simp only [headerBytes]; omega)
  have ln : (field bytes (headerBytes + p + q + k) n).length = n :=
    length_field (by simp only [headerBytes]; omega)
  have ls : (envelopeView bytes ⟨p, q, k, n⟩).signature.length = signatureBytes :=
    length_field (by simp only [headerBytes, signatureBytes]; omega)
  have hoffsets : envelopeOffsets (sourceOf _ ls) =
      ⟨headerBytes + p, headerBytes + p + q, headerBytes + p + q + k,
        headerBytes + p + q + k + n, headerBytes + p + q + k + n + signatureBytes⟩ := by
    simp only [envelopeOffsets, sourceOf, envelopeView, View.size, lp, lq, lk, ln]
  have hp : (sourceOf _ ls).productId.size = p := lp
  have hq : (sourceOf _ ls).protocolId.size = q := lq
  have hk : (sourceOf _ ls).keyId.size = k := lk
  have hn : (sourceOf _ ls).healthPayload.size = n := ln
  have hread : EnvelopeRead bytes (sourceOf _ ls) := by
    constructor <;> try simp only [hoffsets, hp, hq, hk, hn]
    case total => exact eq_ofNat_of_toNat (htotal.trans hend.symm)
    case productOffset => exact eq_ofNat_of_toNat hproductOffset
    case protocolOffset => exact eq_ofNat_of_toNat hprotocolOffset
    case keyOffset => exact eq_ofNat_of_toNat hkeyOffset
    case healthOffset => exact eq_ofNat_of_toNat hhealthOffset
    case signatureOffset => exact eq_ofNat_of_toNat hsignatureOffset
    case signatureSize => exact eq_ofNat_of_toNat hsgn
    case length => exact hend.symm
    case healthDigest => exact hhealth.symm
    all_goals first | with_reducible assumption | rfl
  have hnz : ∀ o, o + 32 ≤ 256 → bytesZero (bytes.drop o) 32 = false →
      (Digest.read (bytes.drop o)).isZero = false := by
    intro o ho hzero
    rwa [Digest.isZero_read (by rw [List.length_drop]; omega)]
  have hvalid : SourceValid (sourceOf _ ls) := by
    refine ⟨rfl, rfl, rfl, rfl, hslot, hprotocolMajor, hpolicy, himage, hsequence, hatt,
      hprod, hproto, hkey, ⟨_, rfl, ?_, ?_⟩, hnz 128 (by omega) hman,
      hnz 160 (by omega) hnonce, rfl⟩
    · rw [show (envelopeView bytes ⟨p, q, k, n⟩).healthPayload.length = n from ln]
      omega
    · rw [show (envelopeView bytes ⟨p, q, k, n⟩).healthPayload.length = n from ln]
      exact hpayloadMost
  refine ⟨sourceOf _ ls, ⟨sourceIsValid_iff.mpr hvalid, ?_⟩, hread, ?_⟩
  · rw [← hread.healthDigest]
    exact hnz 192 (by omega) hdig
  · have hview := hread.envelopeView_eq
    rwa [hp, hq, hk, hn] at hview

/-! ### What the writer writes -/

/-- The fields behind the header. -/
def envelopeParts (source : EnvelopeSource) : List (List UInt8) :=
  [source.productId.data, source.protocolId.data, source.keyId.data, source.healthPayload.data,
    source.signature.1]

/-- The whole envelope. -/
def envelopeWire (source : EnvelopeSource) : List UInt8 :=
  writeHeader source (List.replicate 256 0) ++ (envelopeParts source).flatten

@[simp] theorem length_writeHeader (source : EnvelopeSource) (output : List UInt8) :
    (writeHeader source output).length = output.length := by
  simp only [writeHeader, length_patch]

/-- Writing the header touches nothing behind it. -/
theorem writeHeader_append (source : EnvelopeSource) (rest : List UInt8) :
    writeHeader source (List.replicate 256 0 ++ rest) =
      writeHeader source (List.replicate 256 0) ++ rest := by
  unfold writeHeader
  simp (disch := (simp only [length_patch, Digest.length_val, length_storeU16, length_storeU32,
    length_storeU64, length_envelopeMagic, List.length_replicate]; omega)) only [patch_append]

theorem field_of_split {front piece rest : List UInt8} {offset size : Nat}
    (h : bytes = front ++ (piece ++ rest)) (hfront : front.length = offset)
    (hpiece : piece.length = size) : field bytes offset size = piece := by
  subst h hfront hpiece
  rw [field, List.drop_left, List.take_left]

section Written

variable {source : EnvelopeSource} (valid : SourceValid source)

include valid

theorem length_envelopeParts :
    256 + (envelopeParts source).flatten.length = (envelopeOffsets source).total := by
  obtain ⟨hp, hq, hk, hn⟩ := valid.present
  simp only [envelopeParts, List.flatten_cons, List.flatten_nil, List.length_append,
    List.length_nil, envelopeOffsets, hp, hq, hk, hn, source.signature.2, headerBytes]
  omega

/-- The pieces that the writer lays down make up the whole envelope. -/
theorem patch_envelopeWire :
    let offsets := envelopeOffsets source
    let output := writeHeader source (List.replicate offsets.total 0)
    let output := patch output headerBytes source.productId.data
    let output := patch output offsets.protocol source.protocolId.data
    let output := patch output offsets.key source.keyId.data
    let output := patch output offsets.health source.healthPayload.data
    patch output offsets.signature source.signature.1 = envelopeWire source := by
  obtain ⟨hp, hq, hk, hn⟩ := valid.present
  have hhdr : (writeHeader source (List.replicate 256 0)).length = 256 := by
    rw [length_writeHeader, List.length_replicate]
  have hwrite := @foldl_appendAt (writeHeader source (List.replicate 256 0))
    (List.replicate (envelopeParts source).flatten.length 0) (envelopeParts source)
    (by rw [List.length_replicate])
  rw [← writeHeader_append, List.replicate_append_replicate, length_envelopeParts valid, hhdr,
    List.drop_eq_nil_of_le (by rw [List.length_replicate]), List.append_nil] at hwrite
  have hbytes := congrArg Prod.fst hwrite
  simp only [envelopeParts, List.foldl_cons, List.foldl_nil, appendAt, ← hp, ← hq, ← hk, ← hn]
    at hbytes
  exact hbytes

theorem envelopeEncode_eq_ok {capacity : Nat} {bytes : List UInt8} :
    envelopeEncode source capacity = .ok bytes ↔
      (envelopeOffsets source).total ≤ capacity ∧ bytes = envelopeWire source := by
  have hmost : (envelopeOffsets source).total ≤ maxWireBytes := by
    have hsizes := valid.sizes
    simp only [envelopeOffsets, headerBytes, signatureBytes, maxWireBytes]
    omega
  have hwire := patch_envelopeWire valid
  simp only [envelopeEncode, refuse_bind_eq_ok, pure_eq_ok, hwire, sourceIsValid_iff.mpr valid,
    Bool.not_true, Bool.false_or, Bool.or_eq_false_iff, decide_eq_false_iff_not, Nat.not_lt, hmost,
    and_true, eq_comm (a := bytes)]

/-- **The writer's bytes say what the source says.** -/
theorem envelopeRead_envelopeWire : EnvelopeRead (envelopeWire source) source := by
  obtain ⟨hp, hq, hk, hn⟩ := valid.present
  have hhdr : (writeHeader source (List.replicate 256 0)).length = 256 := by
    rw [length_writeHeader, List.length_replicate]
  have hsplit0 : envelopeWire source =
      _ ++ (_ ++ (_ ++ (_ ++ (_ ++ (source.signature.1 ++ []))))) := rfl
  have hsplit1 := hsplit0.trans (List.append_assoc ..).symm
  have hsplit2 := hsplit1.trans (List.append_assoc ..).symm
  have hsplit3 := hsplit2.trans (List.append_assoc ..).symm
  have hsplit4 := hsplit3.trans (List.append_assoc ..).symm
  constructor
  case length =>
    rw [envelopeWire, List.length_append, hhdr]
    exact length_envelopeParts valid
  case magic =>
    rw [envelopeWire, bytesEqual_append (by omega)]
    simp [-List.reduceReplicate, writeHeader]
  case product => exact field_of_split hsplit0 hhdr hp.symm
  case protocol =>
    refine field_of_split hsplit1 ?_ hq.symm
    rw [List.length_append, hhdr, ← hp]
    rfl
  case key =>
    refine field_of_split hsplit2 ?_ hk.symm
    rw [List.length_append, List.length_append, hhdr, ← hp, ← hq]
    rfl
  case health =>
    refine field_of_split hsplit3 ?_ hn.symm
    rw [List.length_append, List.length_append, List.length_append, hhdr, ← hp, ← hq, ← hk]
    rfl
  case signature =>
    refine field_of_split hsplit4 ?_ source.signature.2
    rw [List.length_append, List.length_append, List.length_append, List.length_append, hhdr,
      ← hp, ← hq, ← hk, ← hn]
    rfl
  all_goals
    unfold envelopeWire
    simp (disch := omega) only [loadU16_append, loadU32_append, loadU64_append, bytesZero_append,
      Digest.read_append]
    simp [-List.reduceReplicate, writeHeader]

end Written

/-- The reader returns all that the writer was given. -/
theorem SourceValid.sourceOf_eq (valid : SourceValid source) (bytes : List UInt8) :
    sourceOf (confirmationView source bytes) source.signature.2 = source := by
  obtain ⟨product, hprod, -⟩ := idIsValid_iff.mp valid.product
  obtain ⟨protocol, hproto, -⟩ := idIsValid_iff.mp valid.protocol
  obtain ⟨key, hkey, -⟩ := idIsValid_iff.mp valid.key
  obtain ⟨health, hhealth, -⟩ := valid.health
  have hsize := valid.size
  have habi := valid.abi
  have hflags := valid.flags
  have hreserved0 := valid.reserved0
  have hresv := valid.reserved
  cases source
  subst hprod hproto hkey hhealth hsize habi hflags hreserved0 hresv
  rfl

/-- **The reader accepts what the writer writes of a valid confirmation**, and nothing else. -/
theorem envelopeOpen_iff {view : EnvelopeView} :
    envelopeOpen (.mem bytes) = .ok view ↔
      ∃ source capacity, Confirmable source ∧ envelopeEncode source capacity = .ok bytes ∧
        view = confirmationView source bytes := by
  constructor
  · intro h
    obtain ⟨source, hconfirmable, hread, rfl⟩ := envelopeOpen_read h
    have valid := sourceIsValid_iff.mp hconfirmable.accepted
    refine ⟨source, bytes.length, hconfirmable, ?_, rfl⟩
    rw [envelopeEncode_eq_ok valid]
    exact ⟨Nat.le_of_eq hread.length.symm, hread.unique (envelopeRead_envelopeWire valid)⟩
  · rintro ⟨source, capacity, hconfirmable, hencode, rfl⟩
    have valid := sourceIsValid_iff.mp hconfirmable.accepted
    obtain ⟨-, rfl⟩ := (envelopeEncode_eq_ok valid).mp hencode
    exact (envelopeRead_envelopeWire valid).opens hconfirmable

/-- No two valid confirmations are written as the same bytes. -/
theorem envelopeEncode_injective {left right : EnvelopeSource} {capacity room : Nat}
    (hleft : Confirmable left) (hright : Confirmable right)
    (hencode : envelopeEncode left capacity = .ok bytes)
    (hencode' : envelopeEncode right room = .ok bytes) : left = right := by
  have validLeft := sourceIsValid_iff.mp hleft.accepted
  have validRight := sourceIsValid_iff.mp hright.accepted
  have hopen := envelopeOpen_iff.mpr ⟨left, capacity, hleft, hencode, rfl⟩
  have hopen' := envelopeOpen_iff.mpr ⟨right, room, hright, hencode', rfl⟩
  have hview : confirmationView left bytes = confirmationView right bytes := by
    rw [hopen] at hopen'
    exact Except.ok.inj hopen'
  rw [← validLeft.sourceOf_eq bytes, ← validRight.sourceOf_eq bytes]
  simp only [hview]

/-! ### The binding of an attempt -/

def bindingBufferBytes : Nat := 512

/-- The pieces of the binding, in the order in which they are stored. -/
def bindingPieces (identity : BootAttemptIdentity) (nonce : Digest) (attemptSequence : UInt64) :
    List (List UInt8) :=
  [bindingDomain, storeU32 abiVersion, storeU32 identity.mode.code.toUInt32,
    storeU32 identity.slotId, storeU32 identity.protocolMajor, storeU32 identity.protocolMinor,
    storeU32 identity.policyVersion, storeU64 identity.imageGeneration,
    storeU64 identity.manifestSequence, storeU64 attemptSequence,
    storeU32 (UInt32.ofNat identity.productId.size),
    storeU32 (UInt32.ofNat identity.protocolId.size), identity.manifestDigest.1,
    identity.productDigest.1, identity.rollbackDomainDigest.1, nonce.1, identity.productId.data,
    identity.protocolId.data]

/-- The buffer of the binding after the last store, and the offset that was reached. -/
def bindingCursor (identity : BootAttemptIdentity) (nonce : Digest) (attemptSequence : UInt64) :
    List UInt8 × Nat :=
  (bindingPieces identity nonce attemptSequence).foldl appendAt
    (List.replicate bindingBufferBytes 0, 0)

/-- The bytes that the binding hashes. -/
def bindingPreimage (identity : BootAttemptIdentity) (nonce : Digest) (attemptSequence : UInt64) :
    List UInt8 :=
  let cursor := bindingCursor identity nonce attemptSequence
  cursor.1.take cursor.2

@[simp] theorem length_bindingDomain : bindingDomain.length = 32 := by decide +kernel

theorem flatten_bindingPieces (identity : BootAttemptIdentity) (nonce : Digest)
    (attemptSequence : UInt64) :
    (bindingPieces identity nonce attemptSequence).flatten =
      bindingBytes identity nonce attemptSequence := by
  simp only [bindingPieces, bindingBytes, List.flatten_cons, List.flatten_nil, List.append_nil,
    List.append_assoc]

variable {identity : BootAttemptIdentity}

theorem length_bindingBytes {nonce : Digest} {attemptSequence : UInt64} :
    (bindingBytes identity nonce attemptSequence).length =
      216 + identity.productId.data.length + identity.protocolId.data.length := by
  simp only [bindingBytes, List.length_append, length_storeU32, length_storeU64,
    Digest.length_val, length_bindingDomain]

/-- What the binding asks of an identity. -/
structure IdentityValid (identity : BootAttemptIdentity) : Prop where
  size : identity.size = identitySizeOf
  abi : identity.abiVersion = abiVersion
  flags : identity.flags = 0
  product : idIsValid identity.productId maxProductIdBytes = true
  protocol : idIsValid identity.protocolId maxProtocolIdBytes = true
  reserved : identity.reserved = Reserved.none

theorem identityValid_of_bindingDigest {nonce digest : Digest} {attemptSequence : UInt64}
    (h : bindingDigest identity nonce attemptSequence = .ok digest) :
    IdentityValid identity ∧ digest = sha256 (bindingBytes identity nonce attemptSequence)
      (bindingBytes identity nonce attemptSequence).length := by
  simp only [bindingDigest, refuse_bind_eq_ok, pure_eq_ok, Bool.or_eq_false_iff,
    Bool.not_eq_false'] at h
  obtain ⟨⟨⟨hvalid, -⟩, -⟩, rfl⟩ := h
  simp only [identityIsValid, Bool.and_eq_true, beq_iff_eq, reservedZero_iff] at hvalid
  obtain ⟨⟨⟨⟨⟨⟨⟨⟨⟨⟨⟨⟨⟨⟨hsize, habi⟩, -⟩, -⟩, -⟩, -⟩, hflags⟩, -⟩, -⟩, hprod⟩, hproto⟩, -⟩, -⟩,
    -⟩, hresv⟩ := hvalid
  exact ⟨⟨hsize, habi, hflags, hprod, hproto, hresv⟩, rfl⟩

/-- The pieces fit the buffer, whatever the ids are. -/
theorem IdentityValid.cursor_eq (valid : IdentityValid identity) (nonce : Digest)
    (attemptSequence : UInt64) :
    let bytes := bindingBytes identity nonce attemptSequence
    bytes.length ≤ bindingBufferBytes ∧
      bindingCursor identity nonce attemptSequence =
        (bytes ++ List.replicate (bindingBufferBytes - bytes.length) 0, bytes.length) := by
  dsimp only
  obtain ⟨product, hprod, -, hp, -⟩ := idIsValid_iff.mp valid.product
  obtain ⟨protocol, hproto, -, hq, -⟩ := idIsValid_iff.mp valid.protocol
  have hfits : (bindingBytes identity nonce attemptSequence).length ≤ bindingBufferBytes := by
    rw [length_bindingBytes, hprod, hproto]
    simp only [View.data, maxProductIdBytes, maxProtocolIdBytes, bindingBufferBytes] at *
    omega
  refine ⟨hfits, ?_⟩
  have hwrite := @foldl_appendAt [] (List.replicate bindingBufferBytes 0)
    (bindingPieces identity nonce attemptSequence)
    (by rw [flatten_bindingPieces, List.length_replicate]; exact hfits)
  rw [flatten_bindingPieces, List.drop_replicate] at hwrite
  simpa [bindingCursor] using hwrite

theorem storeU32_append_inj {a b : UInt32} :
    storeU32 a ++ as = storeU32 b ++ bs ↔ a = b ∧ as = bs := by
  refine ⟨fun h => ?_, by rintro ⟨rfl, rfl⟩; rfl⟩
  obtain ⟨hword, hrest⟩ := List.append_inj h (by simp only [length_storeU32])
  exact ⟨by rw [← loadU32_storeU32 a, hword, loadU32_storeU32], hrest⟩

theorem storeU64_append_inj {a b : UInt64} :
    storeU64 a ++ as = storeU64 b ++ bs ↔ a = b ∧ as = bs := by
  refine ⟨fun h => ?_, by rintro ⟨rfl, rfl⟩; rfl⟩
  obtain ⟨hword, hrest⟩ := List.append_inj h (by simp only [length_storeU64])
  exact ⟨by rw [← loadU64_storeU64 a, hword, loadU64_storeU64], hrest⟩

theorem digest_append_inj {a b : Digest} :
    a.1 ++ as = b.1 ++ bs ↔ a = b ∧ as = bs := by
  refine ⟨fun h => ?_, by rintro ⟨rfl, rfl⟩; rfl⟩
  obtain ⟨hdig, hrest⟩ := List.append_inj h (by simp only [Digest.length_val])
  exact ⟨Subtype.ext hdig, hrest⟩

theorem mode_of_code {left right : KeyPolicyMode}
    (h : left.code.toUInt32 = right.code.toUInt32) : left = right := by
  cases left <;> cases right <;> first | rfl | exact absurd h (by decide)

/-- **The bytes of a binding say what was bound.** -/
theorem bindingBytes_injective {left right : BootAttemptIdentity} {nonce other : Digest}
    {attempt sequence : UInt64} (hleft : IdentityValid left) (hright : IdentityValid right)
    (h : bindingBytes left nonce attempt = bindingBytes right other sequence) :
    left = right ∧ nonce = other ∧ attempt = sequence := by
  obtain ⟨product, hprod, -, hp, -⟩ := idIsValid_iff.mp hleft.product
  obtain ⟨protocol, hproto, -⟩ := idIsValid_iff.mp hleft.protocol
  obtain ⟨product', hprod', -, hp', -⟩ := idIsValid_iff.mp hright.product
  obtain ⟨protocol', hproto', -⟩ := idIsValid_iff.mp hright.protocol
  -- every piece before the ids has a fixed size
  simp only [bindingBytes, List.append_assoc, List.append_cancel_left_eq, storeU32_append_inj,
    storeU64_append_inj, digest_append_inj] at h
  obtain ⟨hmode, hslot, hmajor, hminor, hpolicy, himage, hsequence, hatt, hsize, -, hman,
    hproductDigest, hdomain, hnonce, h⟩ := h
  -- and the ids are cut by the size of the first
  have hcut : product.length = product'.length := by
    have hwords := congrArg UInt32.toNat hsize
    rw [hprod, hprod', UInt32.toNat_ofNat', UInt32.toNat_ofNat'] at hwords
    simp only [View.size, maxProductIdBytes] at hwords hp hp'
    omega
  rw [hprod, hprod', hproto, hproto'] at h
  obtain ⟨rfl, rfl⟩ : product = product' ∧ protocol = protocol' := List.append_inj h hcut
  refine ⟨?_, hnonce, hatt⟩
  obtain ⟨hsizes, habi, hflags, -, -, hresv⟩ := hleft
  obtain ⟨hsizes', habi', hflags', -, -, hresv'⟩ := hright
  have hmodes := mode_of_code hmode
  cases left
  cases right
  simp_all

/-- **The encodings of confirmations and of attempts are injective.** -/
theorem confirmation_encodings :
    (∀ bytes view, envelopeOpen (.mem bytes) = .ok view ↔
      ∃ source capacity, Confirmable source ∧ envelopeEncode source capacity = .ok bytes ∧
        view = confirmationView source bytes) ∧
    (∀ left right capacity room bytes, Confirmable left → Confirmable right →
      envelopeEncode left capacity = .ok bytes → envelopeEncode right room = .ok bytes →
      left = right) ∧
    (∀ identity nonce attempt digest, bindingDigest identity nonce attempt = .ok digest →
      (bindingCursor identity nonce attempt).2 ≤ bindingBufferBytes ∧
        digest = sha256 (bindingCursor identity nonce attempt).1
          (bindingCursor identity nonce attempt).2) ∧
    (∀ left right nonce other attempt sequence digest digest',
      bindingDigest left nonce attempt = .ok digest →
      bindingDigest right other sequence = .ok digest' →
      bindingPreimage left nonce attempt = bindingPreimage right other sequence →
      left = right ∧ nonce = other ∧ attempt = sequence) := by
  refine ⟨?_, ?_, ?_, ?_⟩
  · intro bytes view
    exact envelopeOpen_iff
  · intro left right capacity room bytes hleft hright hencode hencode'
    exact envelopeEncode_injective hleft hright hencode hencode'
  · intro identity nonce attempt digest h
    obtain ⟨valid, rfl⟩ := identityValid_of_bindingDigest h
    obtain ⟨hfits, hcursor⟩ := valid.cursor_eq nonce attempt
    have htake : (bindingBytes identity nonce attempt).take
        (bindingBytes identity nonce attempt).length =
          (bindingCursor identity nonce attempt).1.take
            (bindingBytes identity nonce attempt).length := by
      rw [hcursor, List.take_left, List.take_length]
    have hoff : (bindingCursor identity nonce attempt).2 =
        (bindingBytes identity nonce attempt).length := by rw [hcursor]
    rw [hoff]
    exact ⟨hfits, sha256_congr htake⟩
  · intro left right nonce other attempt sequence digest digest' h h' hsame
    obtain ⟨valid, -⟩ := identityValid_of_bindingDigest h
    obtain ⟨valid', -⟩ := identityValid_of_bindingDigest h'
    simp only [bindingPreimage, (valid.cursor_eq nonce attempt).2,
      (valid'.cursor_eq other sequence).2, List.take_left] at hsame
    exact bindingBytes_injective valid valid' hsame

end Confirmation

end Ribon
