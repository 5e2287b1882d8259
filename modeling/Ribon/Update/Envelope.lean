/-
Signature envelopes.

An envelope is a header of 160 bytes, the id of a key and a signature.  Its
reader looks at every byte, so an envelope too has one encoding.  But it does
not see the manifest: it takes any size, mode and digests, and the writer only
makes envelopes for manifests that open.
-/
import Ribon.Update.Canonical

namespace Ribon.Manifest

open Wire

/-! ### What the writer makes -/

/-- What an envelope has to satisfy to be opened. -/
structure EnvelopeValid (envelope : SignatureEnvelopeView) : Prop where
  keyId : keyIdIsValid envelope.keyId = true
  signature : envelope.signature.length = 64
  manifestSize : envelope.manifestSize ≠ 0
  mode : envelope.mode ≠ .invalid
  manifestDigest : envelope.manifestDigest.isZero = false
  signedMessageDigest : envelope.signedMessageDigest.isZero = false

/-- The header of an envelope, written into a buffer. -/
def envelopeHeader (envelope : SignatureEnvelopeView) (output : List UInt8) : List UInt8 :=
  let signatureOffset := 160 + envelope.keyId.length
  let output := patch output 0 envelopeMagic
  let output := patch output 32 (storeU16 1)
  let output := patch output 34 (storeU16 0)
  let output := patch output 36 (storeU32 160)
  let output := patch output 40 (storeU64 (UInt64.ofNat (signatureOffset +
    envelope.signature.length)))
  let output := patch output 48 (storeU64 envelope.manifestSize)
  let output := patch output 56 (storeU16 1)
  let output := patch output 58 (storeU16 1)
  let output := patch output 60 (storeU16 5)
  let output := patch output 62 (storeU16 envelope.mode.code)
  let output := patch output 64 (storeU16 (UInt16.ofNat envelope.keyId.length))
  let output := patch output 66 (storeU16 (UInt16.ofNat envelope.signature.length))
  let output := patch output 72 (storeU64 160)
  let output := patch output 80 (storeU64 (UInt64.ofNat signatureOffset))
  let output := patch output 88 envelope.manifestDigest.1
  patch output 120 envelope.signedMessageDigest.1

/-- The whole envelope. -/
def envelopeWire (envelope : SignatureEnvelopeView) : List UInt8 :=
  envelopeHeader envelope (List.replicate 160 0) ++ (envelope.keyId ++ envelope.signature)

variable (envelope : SignatureEnvelopeView)
include envelope

@[simp] theorem length_envelopeHeader (output : List UInt8) :
    (envelopeHeader envelope output).length = output.length := by
  simp only [envelopeHeader, length_patch]

theorem length_header : (envelopeHeader envelope (List.replicate 160 0)).length = 160 := by
  rw [length_envelopeHeader, List.length_replicate]

/-- Writing the header touches nothing behind it. -/
theorem envelopeHeader_append (rest : List UInt8) :
    envelopeHeader envelope (List.replicate 160 0 ++ rest) =
      envelopeHeader envelope (List.replicate 160 0) ++ rest := by
  unfold envelopeHeader
  simp (disch := (simp only [length_patch, Digest.length_val, length_storeU16, length_storeU32,
    length_storeU64, length_envelopeMagic, List.length_replicate]; omega)) only [patch_append]

/-- The header, the key id and the signature, written one after the other. -/
theorem patch_envelope :
    patch (patch (envelopeHeader envelope (List.replicate
      (160 + envelope.keyId.length + envelope.signature.length) 0)) 160 envelope.keyId)
      (160 + envelope.keyId.length) envelope.signature = envelopeWire envelope := by
  have hhdr := length_header envelope
  rw [← List.replicate_append_replicate, ← List.replicate_append_replicate, List.append_assoc,
    envelopeHeader_append]
  unfold envelopeWire
  generalize envelopeHeader envelope (List.replicate 160 0) = header at hhdr ⊢
  have hkey := @patch_append_whole header (List.replicate envelope.keyId.length 0) envelope.keyId
    (List.length_replicate ..).symm
  have hsig := @patch_append_whole (header ++ envelope.keyId)
    (List.replicate envelope.signature.length 0) envelope.signature (List.length_replicate ..).symm
  rw [hhdr] at hkey
  rw [List.length_append, hhdr] at hsig
  rw [← List.append_assoc, patch_append, hkey, hsig, List.append_assoc]
  rw [List.length_append, hhdr, List.length_replicate]

omit envelope

/-! ### Reading what was written -/

/-- What the reader finds in the header of an envelope. -/
structure EnvelopeRead (bytes : List UInt8) (envelope : SignatureEnvelopeView) : Prop where
  magic : bytesEqual bytes envelopeMagic 32 = true
  major : loadU16 (bytes.drop 32) = 1
  minor : loadU16 (bytes.drop 34) = 0
  header : loadU32 (bytes.drop 36) = 160
  total : loadU64 (bytes.drop 40) = UInt64.ofNat (160 + envelope.keyId.length +
    envelope.signature.length)
  manifestSize : loadU64 (bytes.drop 48) = envelope.manifestSize
  hash : loadU16 (bytes.drop 56) = 1
  algorithm : loadU16 (bytes.drop 58) = 1
  usage : loadU16 (bytes.drop 60) = 5
  mode : loadU16 (bytes.drop 62) = envelope.mode.code
  keyIdSize : loadU16 (bytes.drop 64) = UInt16.ofNat envelope.keyId.length
  signatureSize : loadU16 (bytes.drop 66) = UInt16.ofNat envelope.signature.length
  pad : loadU32 (bytes.drop 68) = 0
  keyOffset : loadU64 (bytes.drop 72) = 160
  signatureOffset : loadU64 (bytes.drop 80) = UInt64.ofNat (160 + envelope.keyId.length)
  manifestDigest : Digest.read (bytes.drop 88) = envelope.manifestDigest
  signedMessageDigest : Digest.read (bytes.drop 120) = envelope.signedMessageDigest
  tail : bytesZero (bytes.drop 152) 8 = true

theorem envelopeRead_header (envelope : SignatureEnvelopeView) :
    EnvelopeRead (envelopeHeader envelope (List.replicate 160 0)) envelope := by
  constructor <;> simp [-List.reduceReplicate, envelopeHeader]

variable {envelope : SignatureEnvelopeView}

theorem EnvelopeRead.append {front : List UInt8} (h : EnvelopeRead front envelope)
    (hlen : front.length = 160) (rest : List UInt8) :
    EnvelopeRead (front ++ rest) envelope := by
  obtain ⟨a0, a1, a2, a3, a4, a5, a6, a7, a8, a9, a10, a11, a12, a13, a14, a15, a16, a17⟩ := h
  constructor
  case magic => rwa [bytesEqual_append (by omega)]
  case tail => rwa [bytesZero_append (by omega)]
  all_goals
    simp (disch := omega) only [loadU16_append, loadU32_append, loadU64_append, Digest.read_append]
    assumption

theorem keyIdIsValid_length {keyId : List UInt8} (h : keyIdIsValid keyId = true) :
    0 < keyId.length ∧ keyId.length ≤ 64 := by
  simp only [keyIdIsValid, Bool.and_eq_true, bne_iff_ne, decide_eq_true_eq] at h
  have hmax : keyIdMaxBytes = 64 := rfl
  omega

variable {bytes : List UInt8}

/-- The reader takes the header, and behind it the key id and the signature. -/
theorem envelopeOpen_iff :
    envelopeOpen (.mem bytes) = .ok envelope ↔
      EnvelopeRead bytes envelope ∧ EnvelopeValid envelope ∧
        bytes.drop 160 = envelope.keyId ++ envelope.signature := by
  have hsize : (View.mem bytes).size = bytes.length := rfl
  have hdata : (View.mem bytes).data = bytes := rfl
  have hnull : (View.mem bytes).isNull = false := rfl
  simp only [envelopeOpen, bind_eq_ok, refuse_eq_ok, Unique.exists_iff, pure_eq_ok, hsize, hdata,
    hnull, true_and, Bool.or_eq_false_iff, bne_eq_false_iff_eq, Bool.not_eq_false',
    beq_eq_false_iff_ne, decide_eq_false_iff_not, Nat.not_lt]
  have hhdr : envelopeHeaderBytes = 160 := rfl
  have hsig : ed25519SignatureBytes.toNat = 64 := rfl
  have hmax : keyIdMaxBytes = 64 := rfl
  rw [hhdr, hsig, hmax]
  constructor
  · rintro ⟨⟨⟨hmin, hmost⟩, hmagic⟩, ⟨hmajor, hminor⟩, ⟨⟨⟨⟨⟨⟨hbytes, htotal⟩, hman⟩, husage⟩,
      hmode⟩, hpad⟩, htail⟩, ⟨hhash, halgorithm⟩, ⟨⟨⟨⟨⟨⟨⟨⟨hempty, hlong⟩, hsgn⟩, hkeyOffset⟩,
      hoff⟩, hend⟩, hkey⟩, hdig⟩, hmsg⟩, rfl⟩
    have hsgn' : loadU16 (bytes.drop 66) = 64 := by
      have h64 := congrArg UInt64.toNat hsgn
      rw [UInt16.toNat_toUInt64] at h64
      exact UInt16.toNat_inj.mp h64
    rw [hkeyOffset] at hoff hkey ⊢
    have hstart : (loadU64 (bytes.drop 80)).toNat = 160 + (loadU16 (bytes.drop 64)).toNat := by
      have hsum := congrArg UInt64.toNat hoff
      rw [UInt64.toNat_add, UInt16.toNat_toUInt64] at hsum
      rw [hsum]
      show (160 + _) % 2 ^ 64 = _
      omega
    have hlen : bytes.length = 160 + (loadU16 (bytes.drop 64)).toNat + 64 := by
      have hsum := congrArg UInt64.toNat hend
      rw [hsgn, UInt64.toNat_add, hstart, UInt64.toNat_ofNat'] at hsum
      change (160 + _ + 64) % 2 ^ 64 = _ at hsum
      omega
    rw [hsgn', hstart]
    change EnvelopeRead bytes ⟨(bytes.drop 160).take _, (bytes.drop _).take 64, _, _, _, _⟩ ∧
      EnvelopeValid ⟨(bytes.drop 160).take _, (bytes.drop _).take 64, _, _, _, _⟩ ∧ _
    have hkeyLength : ((bytes.drop 160).take (loadU16 (bytes.drop 64)).toNat).length =
        (loadU16 (bytes.drop 64)).toNat := by
      rw [List.length_take, List.length_drop]
      omega
    have hsignedLength :
        ((bytes.drop (160 + (loadU16 (bytes.drop 64)).toNat)).take 64).length = 64 := by
      rw [List.length_take, List.length_drop]
      omega
    have hmode' : KeyPolicyMode.ofCode (loadU16 (bytes.drop 62)) ≠ .invalid := by
      simpa [modeIsValid] using hmode
    refine ⟨⟨hmagic, hmajor, hminor, hbytes, ?_, rfl, hhash, halgorithm, husage,
      (mode_code_ofCode hmode').symm, ?_, ?_, hpad, hkeyOffset, ?_, rfl, rfl, htail⟩,
      ⟨hkey, hsignedLength, hman, hmode', hdig, hmsg⟩, ?_⟩
    · rw [hkeyLength, hsignedLength, ← hlen]
      exact htotal
    · rw [hkeyLength, UInt16.ofNat_toNat]
    · rw [hsignedLength]
      exact hsgn'
    · rw [hkeyLength, ← hstart, UInt64.ofNat_toNat]
    · show bytes.drop 160 = (bytes.drop 160).take _ ++ (bytes.drop (160 + _)).take 64
      rw [List.take_of_length_le (i := 64), ← List.drop_drop, List.take_append_drop]
      rw [List.length_drop]
      omega
  · rintro ⟨read, valid, hbehind⟩
    obtain ⟨hpos, hmost⟩ := keyIdIsValid_length valid.keyId
    have hsignatureSize := read.signatureSize
    have htotal := read.total
    have hlen := congrArg List.length hbehind
    rw [valid.signature] at hsignatureSize htotal
    rw [List.length_append, List.length_drop, valid.signature] at hlen
    have hlen : bytes.length = 160 + envelope.keyId.length + 64 := by omega
    have hkeySize : (loadU16 (bytes.drop 64)).toNat = envelope.keyId.length := by
      rw [read.keyIdSize, UInt16.toNat_ofNat']
      omega
    have hstart : (loadU64 (bytes.drop 80)).toNat = 160 + envelope.keyId.length := by
      rw [read.signatureOffset, UInt64.toNat_ofNat']
      omega
    have hkeyOffset : (loadU64 (bytes.drop 72)).toNat = 160 := by
      rw [read.keyOffset]
      rfl
    rw [hkeySize, hkeyOffset, hbehind, List.take_left, read.manifestSize, read.mode,
      mode_ofCode_code, read.manifestDigest, read.signedMessageDigest, hlen]
    refine ⟨⟨⟨by omega, by omega⟩, read.magic⟩, ⟨read.major, read.minor⟩, ⟨⟨⟨⟨⟨⟨read.header,
      htotal⟩, valid.manifestSize⟩, read.usage⟩, ?_⟩, read.pad⟩, read.tail⟩,
      ⟨read.hash, read.algorithm⟩, ⟨⟨⟨⟨⟨⟨⟨⟨?_, hmost⟩, ?_⟩, read.keyOffset⟩, ?_⟩, ?_⟩, valid.keyId⟩,
      valid.manifestDigest⟩, valid.signedMessageDigest⟩, ?_⟩
    · simpa [modeIsValid] using valid.mode
    · intro hzero
      rw [hzero] at hkeySize
      exact hpos.ne hkeySize
    · rw [hsignatureSize]
      rfl
    · refine UInt64.toNat_inj.mp ?_
      rw [hstart, UInt64.toNat_add, UInt16.toNat_toUInt64, hkeySize, hkeyOffset]
      omega
    · refine UInt64.toNat_inj.mp ?_
      rw [UInt64.toNat_add, hstart, hsignatureSize, UInt64.toNat_ofNat']
      rfl
    · have hsgn := List.take_of_length_le valid.signature.le
      rw [hstart, hsignatureSize, ← List.drop_drop, hbehind, List.drop_left]
      exact congrArg (SignatureEnvelopeView.mk envelope.keyId · _ _ _ _) hsgn

/-! ### One encoding -/

/-- The header that the reader accepts is the encoding of what it read. -/
theorem take_envelopeHeader (a : EnvelopeRead bytes envelope) (hlong : 160 ≤ bytes.length) :
    bytes.take 160 = envelopeHeader envelope (List.replicate 160 0) := by
  have b := envelopeRead_header envelope
  have hwire := length_header envelope
  generalize envelopeHeader envelope (List.replicate 160 0) = wire at *
  -- field after field, the header and its encoding agree
  have h1 : bytes.take 32 = wire.take 32 := by
    rw [take_of_bytesEqual (by omega) length_envelopeMagic a.magic,
      take_of_bytesEqual (by omega) length_envelopeMagic b.magic]
  have h2 := take_u16 h1 a.major b.major
  have h3 := take_u16 h2 a.minor b.minor
  have h4 := take_u32 h3 a.header b.header
  have h5 := take_u64 h4 a.total b.total
  have h6 := take_u64 h5 a.manifestSize b.manifestSize
  have h7 := take_u16 h6 a.hash b.hash
  have h8 := take_u16 h7 a.algorithm b.algorithm
  have h9 := take_u16 h8 a.usage b.usage
  have h10 := take_u16 h9 a.mode b.mode
  have h11 := take_u16 h10 a.keyIdSize b.keyIdSize
  have h12 := take_u16 h11 a.signatureSize b.signatureSize
  have h13 := take_u32 h12 a.pad b.pad
  have h14 := take_u64 h13 a.keyOffset b.keyOffset
  have h15 := take_u64 h14 a.signatureOffset b.signatureOffset
  have h16 := Digest.take_read h15 a.manifestDigest b.manifestDigest
  have h17 := Digest.take_read h16 a.signedMessageDigest b.signedMessageDigest
  have h18 := take_zero h17 a.tail b.tail
  rw [h18, List.take_of_length_le (by omega)]

/-- **An envelope that opens is the encoding of what was read**, and every valid one opens. -/
theorem envelopeOpen_eq_ok :
    envelopeOpen (.mem bytes) = .ok envelope ↔
      EnvelopeValid envelope ∧ bytes = envelopeWire envelope := by
  rw [envelopeOpen_iff]
  constructor
  · rintro ⟨read, valid, hbehind⟩
    have hlen := congrArg List.length hbehind
    rw [List.length_append, List.length_drop, valid.signature] at hlen
    refine ⟨valid, ?_⟩
    rw [envelopeWire, ← take_envelopeHeader read (by omega), ← hbehind, List.take_append_drop]
  · rintro ⟨valid, rfl⟩
    have hhdr := length_header envelope
    exact ⟨(envelopeRead_header envelope).append hhdr _, valid, List.drop_left' hhdr⟩

/-- The envelope that an input is written as, for a manifest that opened. -/
def envelopeFor (input : SignatureEnvelopeInput) (view : ManifestView) (message : List UInt8) :
    SignatureEnvelopeView where
  keyId := input.keyId.data
  signature := input.signature.data
  manifestSize := UInt64.ofNat input.manifest.size
  mode := view.mode
  manifestDigest := sha256 input.manifest.data input.manifest.size
  signedMessageDigest := sha256 message signedMessageBytes

/-- What the writer of an envelope makes, and when. -/
theorem envelopeEncode_eq_ok {input : SignatureEnvelopeInput} {capacity : Option Nat}
    (h : envelopeEncode input capacity = .ok bytes) :
    ∃ view message, manifestOpen input.manifest = .ok view ∧
      signedMessage view input.keyId.data = .ok message ∧
      keyIdIsValid input.keyId.data = true ∧ input.signature.data.length = 64 ∧
      bytes = envelopeWire (envelopeFor input view message) := by
  simp only [envelopeEncode, bind_eq_ok, refuse_eq_ok, Unique.exists_iff, pure_eq_ok,
    mapStatus_eq_ok, Bool.or_eq_false_iff, bne_eq_false_iff_eq, Bool.not_eq_false'] at h
  obtain ⟨⟨⟨⟨⟨⟨⟨⟨⟨-, -⟩, -⟩, -⟩, hsig⟩, hsize⟩, hkey⟩, hkeyId⟩, -⟩, view, hview, message,
    hmsg, -, hbytes⟩ := h
  have hdata : ∀ v : View, v.isNull = false → v.size = v.data.length := by
    intro v hv
    cases v with
    | null n => cases hv
    | mem data => rfl
  rw [hdata _ hkey, hdata _ hsig] at hbytes
  have hlen : input.signature.data.length = 64 := by
    rw [← hdata _ hsig, hsize]
    rfl
  refine ⟨view, message, hview, hmsg, hkeyId, hlen, ?_⟩
  rw [← patch_envelope, ← hbytes]
  rfl

/-- The size of a manifest that opens. -/
theorem manifestOpen_size {manifest : View} {view : ManifestView}
    (h : manifestOpen manifest = .ok view) : 704 ≤ manifest.size ∧ manifest.size ≤ 3584 := by
  cases manifest with
  | null size => cases (manifestOpen_eq_ok h).1
  | mem bytes =>
      obtain ⟨-, -, hempty, hmany, -, -, hsize⟩ := manifestOpen_iff.mp h
      have hpos : view.componentCount.toNat ≠ 0 := fun hzero => hempty (UInt32.toNat_inj.mp hzero)
      have hlen : (View.mem bytes).size = 512 + view.componentCount.toNat * 192 := hsize
      have hmax : maxComponents = 16 := rfl
      omega

/-- An envelope that was written opens, unless a digest is zero. -/
theorem envelopeValid_for {input : SignatureEnvelopeInput} {view : ManifestView}
    {message : List UInt8} (hview : manifestOpen input.manifest = .ok view)
    (hkey : keyIdIsValid input.keyId.data = true) (hsig : input.signature.data.length = 64)
    (hdig : (envelopeFor input view message).manifestDigest.isZero = false)
    (hmsg : (envelopeFor input view message).signedMessageDigest.isZero = false) :
    EnvelopeValid (envelopeFor input view message) := by
  obtain ⟨hmin, hmax⟩ := manifestOpen_size hview
  refine ⟨hkey, hsig, ?_, ?_, hdig, hmsg⟩
  · intro hzero
    have hnat := congrArg UInt64.toNat hzero
    change (UInt64.ofNat input.manifest.size).toNat = 0 at hnat
    rw [UInt64.toNat_ofNat'] at hnat
    omega
  · cases hman : input.manifest with
    | null size =>
        rw [hman] at hview
        cases (manifestOpen_eq_ok hview).1
    | mem bytes =>
        rw [hman] at hview
        obtain ⟨-, valid, -⟩ := manifestOpen_iff.mp hview
        show view.mode ≠ .invalid
        simpa [modeIsValid] using valid.mode

/-- What two manifests have to share to be the same manifest. -/
def SameManifest (left right : ManifestView) : Prop :=
  { left with bytes := [] } = { right with bytes := [] } ∧
    ∀ index, componentAt left index = componentAt right index

/-- Two byte strings are never opened as the same manifest. -/
theorem bytes_eq_of_sameManifest {other : List UInt8} {view otherView : ManifestView}
    (h : manifestOpen (.mem bytes) = .ok view) (hother : manifestOpen (.mem other) = .ok otherView)
    (hsame : SameManifest view otherView) : bytes = other := by
  obtain ⟨hhdr, hcomps⟩ := hsame
  obtain ⟨rfl, hview⟩ := manifestOpen_view h
  obtain ⟨rfl, hotherView⟩ := manifestOpen_view hother
  have hcount : view.componentCount = otherView.componentCount := by
    have hfield := congrArg ManifestView.componentCount hhdr
    exact hfield
  have htable : componentsOf view.bytes view.componentCount.toNat =
      componentsOf otherView.bytes otherView.componentCount.toNat := by
    rw [← hcount]
    refine List.map_congr_left fun index hindex => ?_
    have hlt := List.mem_range.mp hindex
    have hrow := hcomps index
    rw [componentAt_eq hview, componentAt_eq hotherView, if_pos hlt, if_pos (hcount ▸ hlt)] at hrow
    rw [Except.ok.inj hrow]
  have hinput : inputOf view = inputOf otherView := by
    have hrest : { inputOf view with components := none } =
        { inputOf otherView with components := none } :=
      congrArg (fun v : ManifestView => { inputOf v with components := none }) hhdr
    have hsplit : ∀ v : ManifestView, inputOf v =
        { { inputOf v with components := none } with
          components := some (componentsOf v.bytes v.componentCount.toNat) } := fun _ => rfl
    rw [hsplit view, hsplit otherView, hrest, htable]
  rw [← (manifestWire_inputOf h).2, ← (manifestWire_inputOf hother).2, hinput]

/-- **Manifests are canonical.**  The reader opens exactly what the writer makes of some valid
input, and gives that input back; different bytes are never the same manifest; and what it opens
obeys the rules of the writer.  Envelopes are canonical too, but tied to a manifest only by the
writer. -/
theorem manifest_canonical (bytes : List UInt8) :
    ((∃ view, manifestOpen (.mem bytes) = .ok view) ↔
      ∃ input capacity, manifestEncode input capacity = .ok bytes) ∧
    (∀ input capacity, manifestEncode input capacity = .ok bytes →
      inputValidate input = .ok () ∧ manifestOpen (.mem bytes) = .ok (viewFor input) ∧
      ∀ index, componentAt (viewFor input) index =
        match (input.components.getD [])[index]? with
        | some component => .ok (componentView component)
        | none => .error .invalidArgument) ∧
    (∀ view other otherView, manifestOpen (.mem bytes) = .ok view →
      manifestOpen (.mem other) = .ok otherView → SameManifest view otherView → bytes = other) ∧
    (∀ view i j left right, manifestOpen (.mem bytes) = .ok view →
      componentAt view i = .ok left → componentAt view j = .ok right →
      left.installOrder = UInt32.ofNat i ∧ (i ≠ j → Separate left right)) ∧
    (∀ envelope, envelopeOpen (.mem bytes) = .ok envelope ↔
      EnvelopeValid envelope ∧ bytes = envelopeWire envelope) ∧
    (∀ input capacity, envelopeEncode input capacity = .ok bytes →
      ∃ view message, manifestOpen input.manifest = .ok view ∧
        signedMessage view input.keyId.data = .ok message ∧
        bytes = envelopeWire (envelopeFor input view message) ∧
        ((envelopeFor input view message).manifestDigest.isZero = false →
          (envelopeFor input view message).signedMessageDigest.isZero = false →
          envelopeOpen (.mem bytes) = .ok (envelopeFor input view message))) := by
  refine ⟨⟨?_, ?_⟩, ?_, ?_, ?_, fun envelope => envelopeOpen_eq_ok, ?_⟩
  · rintro ⟨view, hview⟩
    obtain ⟨hvalid, hwire⟩ := manifestWire_inputOf hview
    refine ⟨inputOf view, some bytes.length, manifestEncode_eq_ok.mpr ⟨hvalid, hwire.symm, _, rfl,
      ?_⟩⟩
    rw [← length_manifestWire, hwire]
  · rintro ⟨input, capacity, hencode⟩
    obtain ⟨hvalid, rfl, -⟩ := manifestEncode_eq_ok.mp hencode
    exact ⟨_, manifestOpen_manifestWire hvalid⟩
  · intro input capacity hencode
    obtain ⟨hvalid, rfl, -⟩ := manifestEncode_eq_ok.mp hencode
    have hopen := manifestOpen_manifestWire hvalid
    refine ⟨hvalid, hopen, fun index => ?_⟩
    obtain ⟨-, -, -, hmany, hloop⟩ := inputValidate_iff.mp hvalid
    have hrows := rowsAre_manifestWire (flags_of_inputComponentsAreValid hloop)
    rw [componentAt_eq hopen, viewFor_count hmany]
    cases hcomp : (input.components.getD [])[index]? with
    | none => rw [if_neg (Nat.not_lt.mpr (List.getElem?_eq_none_iff.mp hcomp))]
    | some component =>
        rw [if_pos (List.getElem?_eq_some_iff.mp hcomp).1]
        exact congrArg Except.ok (hrows index component hcomp).1
  · intro view other otherView hview hother hsame
    exact bytes_eq_of_sameManifest hview hother hsame
  · intro view i j left right hview hleft hright
    exact components_separate hview hleft hright
  · intro input capacity hencode
    obtain ⟨view, message, hview, hmsg, hkey, hsig, hbytes⟩ :=
      envelopeEncode_eq_ok hencode
    refine ⟨view, message, hview, hmsg, hbytes, fun hdig hsgn => ?_⟩
    exact envelopeOpen_eq_ok.mpr ⟨envelopeValid_for hview hkey hsig hdig hsgn, hbytes⟩

/-- An envelope for a manifest of one byte, which no manifest is. -/
def looseEnvelope : SignatureEnvelopeView where
  keyId := [1]
  signature := List.replicate 64 2
  manifestSize := 1
  mode := .normal
  manifestDigest := ⟨List.replicate 32 3, by simp⟩
  signedMessageDigest := ⟨List.replicate 32 4, by simp⟩

/-- The reader takes an envelope that no manifest has. -/
theorem looseEnvelope_opens :
    envelopeOpen (.mem (envelopeWire looseEnvelope)) = .ok looseEnvelope ∧
      ∀ input capacity, envelopeEncode input capacity ≠ .ok (envelopeWire looseEnvelope) := by
  have valid : EnvelopeValid looseEnvelope := by
    refine ⟨by decide, by decide, by decide, by decide, by decide +kernel, by decide +kernel⟩
  refine ⟨envelopeOpen_eq_ok.mpr ⟨valid, rfl⟩, fun input capacity hencode => ?_⟩
  obtain ⟨view, message, hview, -, -, -, hbytes⟩ := envelopeEncode_eq_ok hencode
  have hsize : ∀ envelope : SignatureEnvelopeView,
      loadU64 ((envelopeWire envelope).drop 48) = envelope.manifestSize := by
    intro envelope
    exact ((envelopeRead_header envelope).append (length_header envelope) _).manifestSize
  have hsame := congrArg (fun bytes : List UInt8 => loadU64 (bytes.drop 48)) hbytes
  simp only [hsize] at hsame
  obtain ⟨hmin, hmax⟩ := manifestOpen_size hview
  have hnat := congrArg UInt64.toNat hsame
  change 1 = (UInt64.ofNat input.manifest.size).toNat at hnat
  rw [UInt64.toNat_ofNat'] at hnat
  omega

end Ribon.Manifest
