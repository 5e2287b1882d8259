/-
Authorized manifests.

What `manifestAuthorize` accepts, as one condition: the manifest and its envelope
open and belong together, the product expects the manifest, and the key policy
lets the key sign it.
-/
import Ribon.Security.Delegation
import Ribon.Update.Envelope

namespace Ribon.Manifest

open Wire

/-- The bytes that the signature is over, for a manifest that opened. -/
def messageOf (view : ManifestView) (keyId : List UInt8) : List UInt8 :=
  let message := List.replicate signedMessageBytes 0
  let message := patch message 0 messageMagic
  let message := patch message 32 (storeU16 1)
  let message := patch message 34 (storeU16 0)
  let message := patch message 36 (storeU16 1)
  let message := patch message 38 (storeU16 0)
  let message := patch message 40 (storeU16 1)
  let message := patch message 42 (storeU16 1)
  let message := patch message 44 (storeU16 view.mode.code)
  let message := patch message 46 (storeU16 KeyPolicyUsage.updateManifest.code)
  let message := patch message 56 (storeU64 view.rollbackSequence)
  let message := patch message 64 (storeU64 (UInt64.ofNat view.byteSize))
  let message := patch message 72 (storeU64 view.bundleGeneration)
  let message := patch message 80 (storeU64 view.predecessorGeneration)
  let message := patch message 88 (storeU64 view.creationPolicyVersion)
  let message := patch message 96 (sha256 view.bytes view.byteSize).1
  let message := patch message 128 view.productDigest.1
  let message := patch message 160 view.schemaDigest.1
  let message := patch message 192 view.rollbackDomainDigest.1
  patch message 224 (sha256 keyId keyId.length).1

theorem signedMessage_eq {view : ManifestView} {keyId : List UInt8}
    (hopen : manifestOpen (.mem view.bytes) = .ok view) (hkey : keyIdIsValid keyId = true) :
    signedMessage view keyId = .ok (messageOf view keyId) := by
  unfold signedMessage
  rw [hkey, hopen]
  rfl

/-- The verification that the key policy is asked for. -/
def verificationFor (authorization : ManifestAuthorization) (provider : SignatureProvider)
    (view : ManifestView) (envelope : SignatureEnvelopeView) (message : List UInt8) :
    KeyPolicySignatureVerification where
  size := KeyPolicy.verificationSizeOf
  abiVersion := KeyPolicy.abiVersion
  flags := 0
  reserved0 := 0
  policy := some (policyRequest view envelope)
  provider := some provider
  message := .mem message
  signature := .mem envelope.signature
  workspace := authorization.workspace
  workspaceSize := authorization.workspaceSize
  reserved := Reserved.none

/-- A manifest with its envelope, under a key policy, for a product. -/
structure Authorized (authorization : ManifestAuthorization) (keyPolicy : KeyPolicyStore)
    (provider : SignatureProvider) (expectation : ManifestExpectation)
    (envelope : SignatureEnvelopeView) (view : ManifestView) (decision : KeyPolicyDecision) :
    Prop where
  native : authorization.size = authorizationSizeOf ∧ authorization.abiVersion = abiVersion ∧
    authorization.flags = 0 ∧ authorization.reserved0 = 0 ∧
    reservedZero authorization.reserved = true
  keyPolicy_eq : authorization.keyPolicy = some keyPolicy
  provider_eq : authorization.signatureProvider = some provider
  expectation_eq : authorization.expectation = some expectation
  expectation_valid : expectationIsValid expectation = true
  opens : manifestOpen authorization.manifest = .ok view
  expected : matchesExpectation view expectation = .ok ()
  envelope_opens : envelopeOpen authorization.signatureEnvelope = .ok envelope
  mode : envelope.mode = view.mode
  manifestSize : envelope.manifestSize.toNat = view.byteSize
  manifestDigest : envelope.manifestDigest = sha256 view.bytes view.byteSize
  signedMessageDigest : envelope.signedMessageDigest =
    sha256 (messageOf view envelope.keyId) signedMessageBytes
  signed : KeyPolicy.verify keyPolicy (verificationFor authorization provider view envelope
    (messageOf view envelope.keyId)) = .ok decision

/-- **What is authorized**: a manifest that opens, bound by an envelope that opens, expected by the
product and signed by a key that the policy lets sign it. -/
theorem manifestAuthorize_eq_ok {authorization : ManifestAuthorization} {view : ManifestView}
    {decision : KeyPolicyDecision} :
    manifestAuthorize authorization = .ok (view, decision) ↔
      ∃ keyPolicy provider expectation envelope,
        Authorized authorization keyPolicy provider expectation envelope view decision := by
  constructor
  · intro h
    unfold manifestAuthorize at h
    split at h
    · rename_i keyPolicy provider expectation hkeyPolicy hprov hexpectation
      simp only [bind_eq_ok, refuse_eq_ok, pure_eq_ok, mapStatus_eq_ok, exists_const,
        Bool.or_eq_false_iff, bne_eq_false_iff_eq, Bool.not_eq_false', Prod.mk.injEq,
        Digest.equal_iff] at h
      obtain ⟨⟨⟨⟨⟨⟨hsize, habi⟩, hflags⟩, hreserved0⟩, hvalid⟩, hresv⟩, view, hopens, _, hexp,
        envelope, henv, ⟨hmode, hmanifestSize⟩, hdig, message, hmsg, hsgn, _, hverify,
        rfl, rfl⟩ := h
      have hkey : keyIdIsValid envelope.keyId = true := by
        simp only [signedMessage, bind_eq_ok, refuse_eq_ok, exists_const, Bool.not_eq_false'] at hmsg
        exact hmsg.1
      obtain rfl : messageOf view envelope.keyId = message :=
        Except.ok.inj ((signedMessage_eq (manifestOpen_bytes hopens) hkey).symm.trans hmsg)
      exact ⟨keyPolicy, provider, expectation, envelope, ⟨hsize, habi, hflags, hreserved0, hresv⟩,
        hkeyPolicy, hprov, hexpectation, hvalid, hopens, hexp, henv, hmode,
        hmanifestSize, hdig.symm, hsgn.symm, hverify⟩
    · cases h
  · rintro ⟨keyPolicy, provider, expectation, envelope, authorized⟩
    obtain ⟨hsize, habi, hflags, hreserved0, hresv⟩ := authorized.native
    have hkey : keyIdIsValid envelope.keyId = true := by
      have hopens := authorized.envelope_opens
      cases hbytes : authorization.signatureEnvelope with
      | null size =>
          rw [hbytes] at hopens
          cases hopens
      | mem bytes =>
          rw [hbytes] at hopens
          exact (envelopeOpen_eq_ok.mp hopens).1.keyId
    have hmsg := signedMessage_eq (manifestOpen_bytes authorized.opens) hkey
    unfold manifestAuthorize
    rw [authorized.keyPolicy_eq, authorized.provider_eq, authorized.expectation_eq]
    simp only [bind_eq_ok, refuse_eq_ok, pure_eq_ok, mapStatus_eq_ok, exists_const,
      Bool.or_eq_false_iff, bne_eq_false_iff_eq, Bool.not_eq_false', Prod.mk.injEq,
      Digest.equal_iff]
    exact ⟨⟨⟨⟨⟨⟨hsize, habi⟩, hflags⟩, hreserved0⟩, authorized.expectation_valid⟩, hresv⟩, view,
      authorized.opens, (), authorized.expected, envelope, authorized.envelope_opens,
      ⟨authorized.mode, authorized.manifestSize⟩, authorized.manifestDigest.symm, _, hmsg,
      authorized.signedMessageDigest.symm, decision, authorized.signed, rfl, rfl⟩

/-! ### A small update

One kernel of sixteen bytes, signed by the key that the small store delegates to. -/

namespace Bench

def digestOf (byte : UInt8) : Digest := ⟨List.replicate 32 byte, List.length_replicate⟩

/-- The kernel. -/
def image : List UInt8 := [1, 2, 3, 4, 5, 6, 7, 8, 9, 10, 11, 12, 13, 14, 15, 16]

def component : ManifestComponent where
  size := componentSizeOf
  abiVersion := abiVersion
  flags := 0
  installOrder := 0
  role := .kernel
  destinationClass := .kernelSlot
  imageFormat := .raw
  reserved0 := 0
  bundleOffset := 0
  exactSize := 16
  maximumSize := 16
  logicalIdDigest := digestOf 1
  contentDigest := Sha256.Words.digest ⟨0x5dfbabee, 0xdf318bf3, 0x3c0927c4, 0x3d7630f5,
    0x1b82f351, 0x74030135, 0x4fa3d7fc, 0x51f0132e⟩
  destinationIdDigest := digestOf 2
  entryContractDigest := digestOf 3
  reserved := Reserved.none

def input : ManifestInput where
  size := inputSizeOf
  abiVersion := abiVersion
  flags := 0
  mode := .normal
  bundleGeneration := 2
  predecessorGeneration := 1
  rollbackSequence := 5
  creationPolicyVersion := 1
  protocolMajor := 1
  protocolMinor := 0
  minimumHardwareRevision := 1
  maximumHardwareRevision := 1
  schemaDigest := digestOf 5
  productDigest := KeyPolicy.Bench.productDigest
  architectureDigest := digestOf 6
  platformDigest := digestOf 7
  environmentDigest := digestOf 8
  protocolDigest := digestOf 9
  rollbackDomainDigest := KeyPolicy.Bench.domainDigest
  components := some [component]
  reserved0 := 0
  reserved := Reserved.none

/-- The manifest of the update. -/
def view : ManifestView := viewFor input

def envelope : SignatureEnvelopeView where
  keyId := [0x6c, 0x65, 0x61, 0x66]
  signature := List.replicate 64 0x33
  manifestSize := 704
  mode := .normal
  manifestDigest := Sha256.Words.digest ⟨0x176f9386, 0x92a3560a, 0x837f276f, 0xa3cd5ef6,
    0x9aac7524, 0xd029a78f, 0xc5b52305, 0x52767751⟩
  signedMessageDigest := Sha256.Words.digest ⟨0xa1a019b0, 0xe87be749, 0xe34b0521, 0x8d83a789,
    0xd5762af7, 0xdb0dcbbe, 0x3953883a, 0x60a428e2⟩

def expectation : ManifestExpectation where
  size := expectationSizeOf
  abiVersion := abiVersion
  flags := 0
  mode := .normal
  protocolMajor := 1
  protocolMinor := 0
  hardwareRevision := 1
  schemaDigest := digestOf 5
  productDigest := KeyPolicy.Bench.productDigest
  architectureDigest := digestOf 6
  platformDigest := digestOf 7
  environmentDigest := digestOf 8
  protocolDigest := digestOf 9
  rollbackDomainDigest := KeyPolicy.Bench.domainDigest
  reserved := Reserved.none

/-- A provider whose callback takes every signature. -/
def signatureProvider : SignatureProvider where
  magic := signatureProviderMagic
  size := SignatureProvider.sizeOf
  abiVersion := signatureProviderAbiVersion
  providerClass := .fixture
  algorithm := .ed25519
  flags := 0
  id := some [1]
  publicKeyBytes := ed25519PublicKeyBytes
  signatureBytes := ed25519SignatureBytes
  workspaceBytes := 0
  workspaceAlignment := 1
  verify := some fun _ => 0
  reserved := Reserved.none

def authorization : ManifestAuthorization where
  size := authorizationSizeOf
  abiVersion := abiVersion
  flags := 0
  reserved0 := 0
  manifest := .mem (manifestWire input)
  signatureEnvelope := .mem (envelopeWire envelope)
  expectation := some expectation
  keyPolicy := some KeyPolicy.Bench.store
  signatureProvider := some signatureProvider
  workspace := 0
  workspaceSize := 0
  reserved := Reserved.none

theorem manifestDigest_eq : sha256 view.bytes view.byteSize = envelope.manifestDigest := by
  have hsize : view.byteSize = 704 := length_manifestWire input
  rw [hsize]
  simp only [sha256_eq]
  exact congrArg Sha256.Words.digest (by decide +kernel)

theorem messageDigest_eq : sha256 (messageOf view envelope.keyId) signedMessageBytes =
    envelope.signedMessageDigest := by
  simp only [messageOf]
  rw [manifestDigest_eq]
  simp only [sha256_eq]
  exact congrArg Sha256.Words.digest (by decide +kernel)

theorem input_valid : inputValidate input = .ok () := by
  decide +kernel

theorem view_opens : manifestOpen (.mem (manifestWire input)) = .ok view :=
  manifestOpen_manifestWire input_valid

/-- The key policy lets the key sign the update. -/
theorem signed : ∃ decision, KeyPolicy.verify KeyPolicy.Bench.store
    (verificationFor authorization signatureProvider view envelope
      (messageOf view envelope.keyId)) = .ok decision := by
  obtain ⟨decision, hdecision, hindex⟩ : ∃ decision,
      KeyPolicy.authorize KeyPolicy.Bench.store (policyRequest view envelope) = .ok decision ∧
        decision.recordIndex = 0 := by
    exact ⟨_, (KeyPolicy.authorize_eq_ok KeyPolicy.Bench.store_valid).mpr ⟨by decide +kernel,
      (KeyPolicy.Bench.delegated 0).1, 0, KeyPolicy.Bench.leaf, _, rfl, rfl, KeyPolicy.Bench.chain,
      KeyPolicy.Bench.permits 0, rfl⟩, rfl⟩
  refine ⟨decision, ?_⟩
  unfold KeyPolicy.verify verificationFor
  dsimp only
  rw [hdecision]
  simp only [bind_eq_ok, refuse_eq_ok, exists_const]
  refine ⟨by rfl, decision, rfl, ?_⟩
  rw [hindex]
  rfl

/-- **The update is authorized.** -/
theorem authorized : ∃ decision, manifestAuthorize authorization = .ok (view, decision) := by
  obtain ⟨decision, hsgn⟩ := signed
  refine ⟨decision, manifestAuthorize_eq_ok.mpr ⟨_, _, _, envelope, ⟨rfl, rfl, rfl, rfl, by decide⟩, rfl,
    rfl, rfl, by decide +kernel, view_opens, by decide +kernel, ?_, rfl, ?_, manifestDigest_eq.symm,
    messageDigest_eq.symm, hsgn⟩⟩
  · exact envelopeOpen_eq_ok.mpr ⟨⟨by decide, by decide, by decide, by decide, by decide +kernel,
      by decide +kernel⟩, rfl⟩
  · exact (length_manifestWire input).symm

end Bench

end Ribon.Manifest
