/-
A prepared program is what was authorized and verified.

The claim is about four moments.  The artifact is authorized; the caller then does what
it likes with everything but the authorized workspace; the program is prepared; and the
caller then does what it likes with everything but the prepared workspace.  In the last
state, the byte string that the program executes is one that the authority granted and
both verifier stages accepted, its helpers are the ones the receipt names, and its
table of types holds the ownerships that the verifier used.

Nothing is assumed of the hash: the copies are the same bytes because they are copied,
and the digests say so again.
-/
import Ribon.Ribos.Prepared

namespace Ribon.Ribos

open Wire Memo

/-! ### The reader -/

theorem sha256_of_length_le {bytes : List UInt8} {size : Nat} (h : bytes.length ≤ size) :
    sha256 bytes size = hashOf bytes := by
  unfold hashOf sha256
  rw [List.take_of_length_le h, List.take_length]

variable {view : ArtifactView}

theorem payload_of_openPayload {artifact : List UInt8} {envelope : Envelope}
    (h : openPayload artifact envelope = .ok view) :
    view.payload = envelope.payload ∧ view.artifactHash = envelope.artifactHash := by
  simp only [openPayload, bind_eq_ok, refuse_eq_ok, demand_eq_ok, pure_eq_ok, exists_const] at h
  obtain ⟨-, -, -, -, -, -, -, -, -, -, -, -, -, -, -, -, rfl⟩ := h
  exact ⟨rfl, rfl⟩

/-- The size of an artifact that opens, and the hash in its view. -/
theorem artifactOpen_spec {artifact : List UInt8} (h : artifactOpen artifact = .ok view) :
    envelopeBytes ≤ artifact.length ∧ artifact.length ≤ artifactMaxBytes ∧
      view.artifactHash = hashOf (view.payload.of artifact) := by
  simp only [artifactOpen, bind_eq_ok, refuse_eq_ok, demand_eq_ok, exists_const,
    Bool.or_eq_false_iff, decide_eq_false_iff_not, Bool.not_eq_eq_eq_not, Bool.not_false] at h
  obtain ⟨⟨⟨hlow, hhigh⟩, -⟩, -, -, algorithm, -, -, -, -, -, -, -, -, -, -, -, hhash, hpay⟩ := h
  obtain ⟨hspan, hview⟩ := payload_of_openPayload hpay
  refine ⟨by omega, by omega, ?_⟩
  rw [hview, hspan, ← Digest.equal_iff.mp hhash]
  exact sha256_of_length_le (by rw [List.length_take]; omega)

/-! ### What is promised -/

/-- The transition of a helper and its parameter, as the schema of the helper calls for them. -/
def CallsFor (schema : ProductSchema) (helper : SchemaHelper) (transition parameter : UInt32) :
    Prop :=
  if helper.isTerminal then
    if helper.hasTransition then
      transition = transitionTerminalConsume ∧ parameter = helper.transitionParameter
    else transition = transitionNone ∧ parameter = invalidId
  else if helper.hasTransition then
    transition = (if helper.resultType = text "Unit" then transitionConsume else transitionReplace) ∧
      parameter = helper.transitionParameter
  else
    (transition = if ∃ type ∈ schemaFindType schema helper.resultType, type.ownership ≠ .copy then
      transitionCreate else transitionNone) ∧ parameter = invalidId

/-- A descriptor agrees with the helper of the schema that has its stable id. -/
structure Agrees (schema : ProductSchema) (helper : SchemaHelper) (execution : HelperExecution) :
    Prop where
  capabilities : execution.requiredCapabilities = helper.capabilities
  transition : CallsFor schema helper execution.handleTransition execution.transitionParameter
  terminal : helper.isTerminal = true ↔ execution.effect = effectTerminal

/-- The limits of a program lie between what it was found to need and what it declares. -/
structure Encloses (limits : VmLimits) (view : ArtifactView) (report : VerifierReport) : Prop where
  instructions : report.recomputedInstructionUpperBound ≤ limits.maximumInstructions
  declaredInstructions : limits.maximumInstructions ≤ view.instructionBudget
  helperCalls : report.recomputedHelperUpperBound ≤ limits.maximumHelperCalls
  declaredHelperCalls : limits.maximumHelperCalls ≤ view.helperBudget
  stackBytes : report.recomputedStackBytes ≤ limits.maximumStackBytes
  callDepth : report.recomputedCallDepth ≤ limits.maximumCallDepth

/-- The authority granted the receipt, which names the payload of the bytes and the schema. -/
structure Granted (authorizer : Authorizer) (raw bytes : List UInt8) (receipt : Receipt) : Prop where
  decision : ∃ authorize request answer, authorizer.authorize = some authorize ∧
    request.artifact = raw ∧ authorize request = answer ∧ answer.status = 0 ∧
    answer.receipt = receipt ∧ bytes = patch raw 0 answer.written ∧
    request.artifactHash = receipt.artifactHash ∧ request.schemaDigest = receipt.schemaDigest
  granted : receipt.decision = authorizationGranted
  floor : receipt.rollbackFloor ≤ receipt.manifestSequence

/-- What holds of the program in a memory, with the schema that it was prepared with. -/
structure Sealed (authorizer : Authorizer) (raw : List UInt8) (passes : Passes)
    (schema : ProductSchema) (limits : VmLimits) (memory : Memory) : Prop where
  granted : Granted authorizer raw memory.executed memory.prepared.object.authorization
  opened : artifactOpen memory.executed = .ok memory.prepared.object.view
  payload : memory.prepared.object.authorization.artifactHash =
    hashOf (memory.prepared.object.view.payload.of memory.executed)
  schemaDigest : schemaComputeIdentity schema =
    some memory.prepared.object.authorization.schemaDigest
  stage1 : ∃ size result, verifyArtifact passes false memory.executed schema size = .ok result
  /-- The second stage accepted, was given the ownerships that the table keeps, and for all types. -/
  stage2 : ∃ size asked,
    verifyArtifact passes true memory.executed schema size =
      .ok (memory.prepared.object.report, asked) ∧
    (∀ entry ∈ asked, entry.2 = storedOwnership memory.prepared.typeSemantics entry.1) ∧
    ∀ id, id < sectionCount memory.prepared.object.view.sections .types →
      ∃ ownership, storedOwnership memory.prepared.typeSemantics id = some ownership ∧
        (id, some ownership) ∈ asked
  helperDigest : helperContractComputeIdentity memory.prepared.object.helperContract
    (memory.bindingsAt memory.prepared.object.bindingPlace) =
      .ok memory.prepared.object.authorization.helperExecutionDigest
  helpers : ∀ binding ∈ memory.bindingsAt memory.prepared.object.bindingPlace,
    ∃ helper, schemaHelperById schema binding.execution.stableId = some helper ∧
      Agrees schema helper binding.execution
  imports : ∃ imports, findSection memory.prepared.object.view.sections .helperImports =
    some imports ∧ ∀ index, index < imports.count →
      importIsBound memory.executed imports
        (memory.bindingsAt memory.prepared.object.bindingPlace) index = true
  effective : memory.prepared.object.limits = limits
  enclosed : Encloses limits memory.prepared.object.view memory.prepared.object.report
  /-- The check before each use accepts the program. -/
  valid : preparedProgramValidate memory = .ok ()

/-! ### What the checks give -/

theorem callsFor_of_expected {schema : ProductSchema} {helper : SchemaHelper} :
    CallsFor schema helper (expectedTransition schema helper)
      (if expectedTransition schema helper == transitionConsume ||
          expectedTransition schema helper == transitionReplace ||
          expectedTransition schema helper == transitionTerminalConsume then
        helper.transitionParameter
      else invalidId) := by
  by_cases hterm : helper.isTerminal <;> by_cases htrans : helper.hasTransition
  · simp [CallsFor, expectedTransition, hterm, htrans]
  · simp [CallsFor, expectedTransition, hterm, htrans, transitionNone, transitionConsume,
      transitionReplace, transitionTerminalConsume]
  · by_cases hunit : helper.resultType = text "Unit" <;>
      simp [CallsFor, expectedTransition, hterm, htrans, hunit]
  · cases hres : schemaFindType schema helper.resultType with
    | none =>
      simp [CallsFor, expectedTransition, hterm, htrans, hres, transitionNone,
        transitionConsume, transitionReplace, transitionTerminalConsume]
    | some type =>
      by_cases hcopy : type.ownership = .copy <;>
        simp [CallsFor, expectedTransition, hterm, htrans, hres, hcopy, transitionNone,
          transitionConsume, transitionReplace, transitionTerminalConsume, transitionCreate]

theorem agrees_of_validateBinding {schema : ProductSchema} {execution : HelperExecution}
    (h : validateBinding schema execution = .ok ()) :
    ∃ helper, schemaHelperById schema execution.stableId = some helper ∧
      Agrees schema helper execution := by
  simp only [validateBinding, bind_eq_ok, refuse_eq_ok, demand_eq_ok, exists_const,
    Bool.or_eq_false_iff, bne_eq_false_iff_eq] at h
  obtain ⟨helper, hhelper, hcapabilities, -, ⟨htrans, hparameter⟩, hterm⟩ := h
  refine ⟨helper, hhelper, hcapabilities, ?_, ?_⟩
  · rw [htrans, hparameter]
    exact callsFor_of_expected
  · rw [hterm, beq_iff_eq]

theorem encloses_of_validateLimits {limits : VmLimits} {report : VerifierReport}
    (h : validateLimits limits view report = .ok ()) :
    Encloses limits view report := by
  simp only [validateLimits, bind_eq_ok, refuse_eq_ok, Bool.or_eq_false_iff,
    decide_eq_false_iff_not, UInt64.not_lt, UInt32.not_lt] at h
  obtain ⟨-, -, ⟨⟨⟨⟨h1, h2⟩, h3⟩, h4⟩, h5⟩, h6⟩ := h
  exact ⟨h1, h2, h3, h4, h5, h6⟩

/-- What a receipt that passes its check says about the artifact of a view. -/
theorem receipt_of_validate {receipt : Receipt} (h : receiptValidate receipt view = .ok ()) :
    receipt.decision = authorizationGranted ∧ receipt.rollbackFloor ≤ receipt.manifestSequence ∧
      receipt.artifactHash = view.artifactHash ∧ receipt.schemaDigest = view.schemaDigest := by
  simp only [receiptValidate, bind_eq_ok, refuse_eq_ok, exists_const, Bool.or_eq_false_iff,
    bne_eq_false_iff_eq, decide_eq_false_iff_not, UInt64.not_lt, Bool.not_eq_eq_eq_not,
    Bool.not_false, Digest.equal_iff] at h
  obtain ⟨-, -, -, ⟨⟨⟨⟨hdecision, -⟩, hfloor⟩, -⟩, -⟩, ⟨hhash, hschema⟩, -⟩ := h
  exact ⟨hdecision, hfloor, hhash, hschema⟩

/-! ### The authorized artifact -/

/-- What holds of the authorized workspace. -/
structure Authorized (authorizer : Authorizer) (raw : List UInt8)
    (workspace : AuthorizedWorkspace) : Prop where
  granted : Granted authorizer raw workspace.copy workspace.object.receipt
  opened : artifactOpen workspace.copy = .ok workspace.object.view
  receipt : receiptValidate workspace.object.receipt workspace.object.view = .ok ()
  place : workspace.object.artifact = some .authorizedCopy
  size : workspace.object.artifactSize = workspace.copy.length
  receiptDigest : workspace.object.receiptDigest = receiptIdentity workspace.object.receipt

theorem authorized_of_authorize {authorizer : Authorizer} {workspace : Workspace}
    {before after : Memory} (h : authorizeArtifact authorizer workspace before = .ok after) :
    Authorized authorizer before.rawArtifact after.authorized := by
  simp only [authorizeArtifact, authorizerValidate, bind_eq_ok, refuse_eq_ok, demand_eq_ok,
    mapStatus_eq_ok, pure_eq_ok, exists_const, Bool.or_eq_false_iff, bne_eq_false_iff_eq,
    Bool.not_eq_eq_eq_not, Bool.not_false, Digest.equal_iff] at h
  obtain ⟨authorize, ⟨-, -, -, hcallback⟩, required, -, -, -, view, hview, hstatus, viewAfter,
    hviewAfter, ⟨hhash, hschema⟩, ⟨⟩, hrcpt, rfl⟩ := h
  obtain ⟨hdecision, hfloor, hreceiptHash, hreceiptSchema⟩ := receipt_of_validate hrcpt
  refine ⟨⟨?_, hdecision, hfloor⟩, hviewAfter, hrcpt, rfl, rfl, rfl⟩
  exact ⟨authorize, authorizationRequest before.rawArtifact view, _, hcallback, rfl, rfl, hstatus,
    rfl, rfl, hhash.symm.trans hreceiptHash.symm, hschema.symm.trans hreceiptSchema.symm⟩

/-- The check of the seal gives back the copy. -/
theorem Authorized.artifact_eq {authorizer : Authorizer} {raw artifact : List UInt8}
    {memory : Memory} (h : Authorized authorizer raw memory.authorized)
    (hvalid : authorizedArtifactValidate memory = .ok artifact) :
    artifact = memory.authorized.copy := by
  simp only [authorizedArtifactValidate, bind_eq_ok, refuse_eq_ok, demand_eq_ok, mapStatus_eq_ok,
    pure_eq_ok, exists_const] at hvalid
  obtain ⟨-, place, hplace, -, view, hview, -, -, -, rfl⟩ := hvalid
  cases h.place.symm.trans hplace
  rw [h.size]
  exact List.take_length

/-! ### The prepared program -/

theorem typeSemantics_of_prepared {artifact : List UInt8} {schema : ProductSchema} {count : Nat}
    {semantics : List TypeSemantics}
    (h : preparedTypeSemantics artifact view schema count = some semantics) :
    ∃ types shapes, findSection view.sections .types = some types ∧
      findSection view.sections .shapes = some shapes ∧ count = types.count ∧
      buildTypeSemantics ⟨artifact, types, shapes, schema⟩ = some semantics := by
  simp only [preparedTypeSemantics, Option.bind_eq_bind, Option.bind_eq_some_iff] at h
  obtain ⟨types, htypes, shapes, hshapes, h⟩ := h
  split at h
  · next hcount => exact ⟨types, shapes, htypes, hshapes, hcount, h⟩
  · cases h

/-- The second stage was given what the table keeps. -/
theorem asked_of_prepared {passes : Passes} {artifact : List UInt8} {schema : ProductSchema}
    {size count : Nat} {semantics : List TypeSemantics}
    {result : VerifierReport × List (Nat × Option Ownership)}
    (hview : artifactOpen artifact = .ok view)
    (hstage : verifyArtifact passes true artifact schema size = .ok result)
    (hsem : preparedTypeSemantics artifact view schema count = some semantics) :
    (∀ entry ∈ result.2, entry.2 = storedOwnership semantics entry.1) ∧
      ∀ id, id < sectionCount view.sections .types →
        ∃ ownership, storedOwnership semantics id = some ownership ∧
          (id, some ownership) ∈ result.2 := by
  obtain ⟨types, shapes, htypes, hshapes, -, hbuild⟩ := typeSemantics_of_prepared hsem
  obtain ⟨view', tables, hview', htabs, -, hasked⟩ := asked_eq_stored hstage
  cases hview.symm.trans hview'
  have heq : tables = ⟨artifact, types, shapes, schema⟩ := by
    simp only [bindSections, htypes, hshapes, Option.bind_eq_bind, Option.bind_some] at htabs
    split at htabs
    · exact (Option.some.inj htabs).symm
    · cases htabs
  subst heq
  obtain ⟨hanswers, hall⟩ := hasked semantics hbuild
  refine ⟨hanswers, ?_⟩
  intro id hid
  have hcount : id < types.count := by simpa [sectionCount, htypes] using hid
  obtain ⟨ownership, -, hstored, -⟩ := yields_of_build hbuild hcount
  refine ⟨ownership, hstored, ?_⟩
  rw [← hstored]
  exact hall rfl id hcount

/-- A program that was prepared from an authorized artifact is sealed, whatever happens later to
the memory around its workspace. -/
theorem sealed_of_prepare {authorizer : Authorizer} {raw : List UInt8} {passes : Passes}
    {limits : VmLimits} {workspace : Workspace} {before after later : Memory}
    (hauth : Authorized authorizer raw before.authorized)
    (h : prepareProgram passes limits workspace before = .ok after)
    (hlater : later.prepared = after.prepared) :
    Sealed authorizer raw passes before.schema limits later := by
  simp only [prepareProgram, bind_eq_ok, refuse_eq_ok, demand_eq_ok, mapStatus_eq_ok, pure_eq_ok,
    exists_const, Bool.or_eq_false_iff, Bool.not_eq_eq_eq_not, Bool.not_false, Digest.equal_iff] at h
  obtain ⟨artifact, hart, schemaDigest, hschema, ⟨hviewSchema, hreceiptSchema⟩, required, -, -,
    -, types, htypes, verifierSize, -, view, hview, hbytes, first, hstage1, ⟨report, asked⟩,
    hstage2, -, -, -, semantics, hsem, helperDigest, hhelper, ⟨hdeclared, hreceiptHelper⟩,
    ⟨⟩, hbinds, copied, hcopied, hcopiedEq, ⟨⟩, hlimits, rfl⟩ := h
  obtain ⟨raw', schema', contract', bindings', authorized', prepared'⟩ := later
  cases hlater
  cases hauth.artifact_eq hart
  cases hview.symm.trans hauth.opened
  subst hcopiedEq
  have hrcpt := receipt_of_validate hauth.receipt
  simp only [validateHelperSchema, bind_eq_ok, refuse_eq_ok, demand_eq_ok,
    Bool.not_eq_eq_eq_not, Bool.not_false, List.all_eq_true, List.mem_range] at hbinds
  obtain ⟨⟨⟩, hagree, imports, himports, hbound⟩ := hbinds
  have hasked := asked_of_prepared hview hstage2 hsem
  refine
    { granted := hauth.granted
      opened := hview
      payload := hrcpt.2.2.1.trans (artifactOpen_spec hview).2.2
      schemaDigest := hschema.trans (congrArg some hreceiptSchema)
      stage1 := ⟨verifierSize, first, hstage1⟩
      stage2 := ⟨verifierSize, asked, hstage2, hasked⟩
      helperDigest := hcopied.trans (congrArg Except.ok hreceiptHelper)
      helpers := ?_
      imports := ⟨imports, himports, hbound⟩
      effective := rfl
      enclosed := encloses_of_validateLimits hlimits
      valid := ?_ }
  · intro binding hbind
    exact agrees_of_validateBinding (forM_eq_ok.mp hagree binding hbind)
  · obtain ⟨types', shapes, htypes', -, hcount, hbuild⟩ := typeSemantics_of_prepared hsem
    have hlen : semantics.length = types'.count := length_of_build hbuild
    have hsize := (artifactOpen_spec hview).1
    simp only [preparedProgramValidate, bind_eq_ok, refuse_eq_ok, demand_eq_ok, mapStatus_eq_ok,
      exists_const, Bool.or_eq_false_iff, Bool.not_eq_eq_eq_not, Bool.not_false, Digest.equal_iff]
    refine ⟨by simp, .preparedCopy, rfl, by simpa using hsize, before.authorized.object.view, ?_⟩
    simp only [Memory.bytesAt, Memory.bindingsAt, List.take_length]
    refine ⟨hview, ⟨⟨trivial, hviewSchema.symm⟩, hrcpt.2.2.1.symm⟩, types, htypes, by simp, (),
      hauth.receipt, hauth.receiptDigest.symm, helperDigest, hcopied,
      ⟨⟨rfl, hdeclared⟩, hreceiptHelper⟩, (), hlimits, ?_⟩
    rw [List.take_of_length_le (by omega)]

/-- The program in the prepared workspace is what was authorized and verified.  Between the two
calls the caller may change everything but the authorized workspace, and after them everything
but the prepared one. -/
theorem prepared_is_authorized {authorizer : Authorizer} {passes : Passes} {limits : VmLimits}
    {authorizedMemory preparedMemory : Workspace} {received authorized before after later : Memory}
    (hauthorize : authorizeArtifact authorizer authorizedMemory received = .ok authorized)
    (hkept : before.authorized = authorized.authorized)
    (hprepare : prepareProgram passes limits preparedMemory before = .ok after)
    (hlater : later.prepared = after.prepared) :
    Sealed authorizer received.rawArtifact passes before.schema limits later := by
  have hauth := authorized_of_authorize hauthorize
  rw [← hkept] at hauth
  exact sealed_of_prepare hauth hprepare hlater

/-! ### An artifact that is authorized and prepared -/

namespace Bench

def schemaDigest : Digest := Sha256.digestOf
  ⟨0xf7f9d4ce, 0x29e9b415, 0x90ec3af2, 0x79addaaf, 0xa7563a2c, 0x525ac0a2, 0x9843fa35, 0x33dc8779⟩

/-- A schema with a context, a linear action, an error and one helper. -/
def schema : ProductSchema where
  formatMajor := 1
  formatMinor := 1
  productId := text "p"
  policyContextType := text "C"
  policyActionType := text "A"
  policyErrorType := text "E"
  types := [⟨1, .fact, text "C", .copy⟩, ⟨2, .value, text "A", .linear⟩,
    ⟨3, .enumeration, text "E", .copy⟩]
  members := []
  helpers := [⟨1, text "h", 1, text "bool", none, [], 0, 0⟩]
  handoffFields := []

def typeRow (id : UInt32) (kind : UInt16) (left right : UInt32) (name : String) : List UInt8 :=
  storeU32 id ++ storeU16 kind ++ [0, 0] ++ storeU32 left ++ storeU32 right ++
    List.replicate 40 0 ++ storeU32 (UInt32.ofNat (text name).length) ++ paddedText name 68

def sectionRow (kind : SectionKind) (offset count : Nat) : List UInt8 :=
  storeU16 kind.wire ++ storeU16 0 ++ storeU32 (UInt32.ofNat kind.expectedRowSize) ++
    storeU64 (UInt64.ofNat offset) ++ storeU64 (UInt64.ofNat (count * kind.expectedRowSize)) ++
    storeU32 (UInt32.ofNat count) ++ storeU32 0

def payloadHeader : List UInt8 :=
  payloadMagic ++ storeU16 1 ++ storeU16 0 ++ storeU16 1 ++ storeU16 0 ++ storeU32 160 ++
    storeU32 1 ++ storeU32 13 ++ storeU32 0 ++ storeU32 0 ++ storeU32 0 ++ storeU32 1 ++
    storeU32 1 ++ storeU64 10 ++ storeU64 1 ++ storeU64 10 ++ storeU64 1 ++ storeU64 64 ++
    storeU32 1 ++ storeU32 0 ++ schemaDigest.1 ++ storeU64 160 ++ storeU64 416 ++ storeU64 1080 ++
    storeU64 0

/-- The types are the action, the error and the result of both. -/
def payload : List UInt8 :=
  payloadHeader ++ sectionRow .types 576 3 ++ sectionRow .shapes 960 0 ++
    sectionRow .constants 960 0 ++ sectionRow .constantBytes 960 0 ++
    sectionRow .functions 960 1 ++ sectionRow .blocks 1064 0 ++ sectionRow .loops 1064 0 ++
    sectionRow .slots 1064 0 ++ sectionRow .instructions 1064 0 ++ sectionRow .operands 1064 0 ++
    sectionRow .helperImports 1064 1 ++ sectionRow .helperBounds 1080 0 ++
    sectionRow .sourceMaps 1080 0 ++ typeRow 0 7 0 0 "A" ++ typeRow 1 7 0 0 "E" ++
    typeRow 2 13 0 1 "" ++ List.replicate 104 0 ++ storeU32 1 ++ storeU32 1 ++ List.replicate 8 0

def artifact : List UInt8 :=
  envelopeMagic ++ storeU16 1 ++ storeU16 0 ++ storeU32 128 ++ storeU32 0 ++ storeU16 1 ++
    storeU16 0 ++ storeU64 128 ++ storeU64 1080 ++ storeU64 1208 ++ storeU32 0 ++ storeU32 0 ++
    storeU64 1208 ++ storeU64 1208 ++ ((hashOf payload).1 ++ (List.replicate 24 0 ++ payload))

def sections : List SectionView :=
  [⟨.types, 128, 3, ⟨704, 384⟩⟩, ⟨.shapes, 32, 0, ⟨1088, 0⟩⟩, ⟨.constants, 32, 0, ⟨1088, 0⟩⟩,
    ⟨.constantBytes, 1, 0, ⟨1088, 0⟩⟩, ⟨.functions, 104, 1, ⟨1088, 104⟩⟩,
    ⟨.blocks, 32, 0, ⟨1192, 0⟩⟩, ⟨.loops, 32, 0, ⟨1192, 0⟩⟩, ⟨.slots, 32, 0, ⟨1192, 0⟩⟩,
    ⟨.instructions, 48, 0, ⟨1192, 0⟩⟩, ⟨.operands, 4, 0, ⟨1192, 0⟩⟩,
    ⟨.helperImports, 16, 1, ⟨1192, 16⟩⟩, ⟨.helperBounds, 16, 0, ⟨1208, 0⟩⟩,
    ⟨.sourceMaps, 40, 0, ⟨1208, 0⟩⟩]

/-- The fields of the envelope, apart from the hash of the payload. -/
theorem artifact_fields : artifact.length = 1208 ∧ payload.length = 1080 ∧
    envelopeMagic.length = 8 ∧
    bytesEqual artifact envelopeMagic 8 = true ∧ loadU16 (artifact.drop 8) = 1 ∧
    loadU16 (artifact.drop 10) = 0 ∧ loadU32 (artifact.drop 12) = 128 ∧
    loadU32 (artifact.drop 16) = 0 ∧ loadU16 (artifact.drop 20) = 1 ∧
    loadU16 (artifact.drop 22) = 0 ∧ loadU64 (artifact.drop 24) = 128 ∧
    loadU64 (artifact.drop 32) = 1080 ∧ loadU64 (artifact.drop 40) = 1208 ∧
    loadU32 (artifact.drop 48) = 0 ∧ loadU32 (artifact.drop 52) = 0 ∧
    loadU64 (artifact.drop 56) = 1208 ∧ loadU64 (artifact.drop 64) = 1208 ∧
    bytesZero (artifact.drop 104) 24 = true := by
  decide +kernel

theorem artifact_hash : Digest.read (artifact.drop 72) = hashOf payload := by
  refine Digest.read_eq ?_
  rw [artifact, List.drop_left' (by simp [artifact_fields.2.2.1]), List.take_left' (Digest.length_val _)]

/-- What the payload opens to; the hash in the envelope is not looked at here. -/
theorem payload_opens : (openPayload artifact
      ⟨1, 0, 0, .none, hashOf payload, ⟨128, 1080⟩, ⟨1208, 0⟩, ⟨1208, 0⟩⟩).toOption.map (fun view =>
        (view.schemaDigest, view.sections, view.instructionBudget, view.helperBudget,
          view.envelopeFlags)) =
    some (schemaDigest, sections, 10, 10, 0) := by
  decide +kernel

/-- The view of the artifact. -/
structure Opened (view : ArtifactView) : Prop where
  opens : artifactOpen artifact = .ok view
  schema : view.schemaDigest = schemaDigest
  sections : view.sections = sections
  instructions : view.instructionBudget = 10
  helpers : view.helperBudget = 10
  flags : view.envelopeFlags = 0

theorem artifact_opens : ∃ view, Opened view := by
  obtain ⟨view, hview, hfields⟩ := Option.map_eq_some_iff.mp payload_opens
  simp only [Prod.mk.injEq] at hfields
  obtain ⟨hschema, hsections, hinstructions, hhelpers, hflags⟩ := hfields
  refine ⟨view, ?_, hschema, hsections, hinstructions, hhelpers, hflags⟩
  obtain ⟨hlen, hpayloadLength, -, hmagic, h8, h10, h12, h16, h20, h22, h24, h32, h40, h48, h52, h56,
    h64, hresv⟩ := artifact_fields
  have hpay : (artifact.drop 128).take 1080 = payload := by
    rw [artifact, ← List.append_assoc, ← List.append_assoc,
      List.drop_left' (by rw [List.length_append, List.length_append, Digest.length_val]; simp [artifact_fields.2.2.1])]
    exact List.take_of_length_le hpayloadLength.le
  simp only [artifactOpen, bind_eq_ok, refuse_eq_ok, demand_eq_ok, exists_const, hlen, hmagic, h8,
    h10, h12, h16, h20, h22, h24, h32, h40, h48, h52, h56, h64, hresv, artifact_hash]
  refine ⟨by decide, by decide, by decide, .none, by decide, by decide, 1208,
    by decide, by decide, 1208, by decide, by decide, 1208, by decide, by decide, ?_,
    toOption_eq_some.mp hview⟩
  rw [show (1080 : UInt64).toNat = 1080 from rfl, show (128 : UInt64).toNat = 128 from rfl, hpay,
    sha256_of_length_le hpayloadLength.le, Digest.equal_self]
  rfl

def execution : HelperExecution where
  size := executionSizeOf
  contractMajor := 1
  contractMinor := 0
  stableId := 1
  flags := 0
  requiredCapabilities := 1
  effect := effectPure
  executionMode := executionSynchronous
  durability := 0
  handleTransition := transitionNone
  transitionParameter := invalidId
  reserved0 := 0
  allowedModeMask := 1
  allowedPhaseMask := 1
  maximumInputBytes := 0
  maximumOutputBytes := 1
  maximumOperations := 1
  maximumPolls := 0
  maximumDurationNs := 1
  reserved := Reserved.none

def bindings : List HelperBinding := [⟨execution, 4096⟩]

def helperDigest : Digest := Sha256.digestOf
  ⟨0x2e549628, 0x795562d8, 0xfc17885c, 0x871bee73, 0xb1195771, 0x07e1c5ba, 0xe47e6552, 0x6c6038d0⟩

def contract : HelperContract := ⟨contractSizeOf, 1, 0, 0, 1, helperDigest, Reserved.none⟩

def limits : VmLimits where
  size := limitsSizeOf
  runtimeAbiMajor := 1
  runtimeAbiMinor := 0
  flags := 0
  reserved0 := 0
  maximumInstructions := 10
  maximumHelperCalls := 10
  maximumStackBytes := 64
  maximumArenaBytes := 64
  maximumInputBytes := 0
  maximumOutputBytes := 0
  maximumOperations := 10
  maximumPolls := 0
  maximumExecutionDurationNs := 1
  maximumHelperDurationNs := 1
  maximumCallDepth := 1
  maximumHandles := 0
  maximumTraceRecords := 0
  reserved1 := 0
  reserved := Reserved.none

def receipt (artifactHash schemaDigest : Digest) : Receipt where
  size := receiptSizeOf
  authorizationMajor := 1
  authorizationMinor := 0
  flags := 0
  decision := authorizationGranted
  authorityGeneration := 1
  manifestSequence := 5
  rollbackFloor := 4
  artifactHash := artifactHash
  schemaDigest := schemaDigest
  helperExecutionDigest := helperDigest
  keyIdentityDigest := Digest.zero
  policyIdentityDigest := placeholderDigest
  reserved := Reserved.none

/-- An authority that grants what it is shown. -/
def authorizer : Authorizer where
  size := authorizerSizeOf
  authorizationMajor := 1
  authorizationMinor := 0
  flags := 0
  reserved0 := 0
  authorize := some fun request => ⟨0, receipt request.artifactHash request.schemaDigest, []⟩
  reserved := Reserved.none

def report : VerifierReport := ⟨0, 1, 64, 1, 1, 1⟩

/-- Passes that ask for the ownership of the last type and accept. -/
def passes : Passes where
  measureWorkspace _ _ := some 7
  structural _ _ _ := .call 2 fun _ => .done (.ok report)
  entryTypes _ _ _ := .ok ()
  semantic _ _ _ report := .done (.ok report)

def received : Memory := ⟨artifact, schema, contract, bindings, default, default⟩

def room : Workspace := ⟨true, 8192⟩

/-- The memory after the authorization, with the view that the artifact opens to. -/
def authorized (view : ArtifactView) : Memory :=
  { received with
    authorized :=
      { copy := artifact
        object :=
          { magic := authorizedMagic
            major := authorizationMajor
            minor := authorizationMinor
            state := stateReady
            artifact := some .authorizedCopy
            artifactSize := artifact.length
            view := view
            receipt := receipt view.artifactHash view.schemaDigest
            artifactBytesDigest := hashOf artifact
            receiptDigest := receiptIdentity (receipt view.artifactHash view.schemaDigest) } } }

def tables : TypeTables :=
  ⟨artifact, ⟨.types, 128, 3, ⟨704, 384⟩⟩, ⟨.shapes, 32, 0, ⟨1088, 0⟩⟩, schema⟩

section Opened

variable {view : ArtifactView} (h : Opened view)
include h

theorem types_found : findSection view.sections .types = some tables.types := by
  rw [h.sections]
  rfl

theorem verifier_measured : verifierWorkspaceSize passes artifact = some 7 := by
  rw [verifierWorkspaceSize, h.opens]
  rfl

theorem receipt_valid :
    receiptValidate (receipt view.artifactHash view.schemaDigest) view = .ok () := by
  have hhelper : helperDigest.isZero = false := by decide
  have hpolicy : placeholderDigest.isZero = false := by decide
  simp [receiptValidate, receipt, hhelper, hpolicy, h.flags, authorizationMajor, authorizationMinor]

theorem artifact_authorized :
    authorizeArtifact authorizer room received = .ok (authorized view) := by
  have hrequired : authorizedWorkspaceSize artifact.length = .ok 2200 := by
    rw [artifact_fields.1]
    rfl
  simp only [authorizeArtifact, bind_eq_ok, refuse_eq_ok, mapStatus_eq_ok, pure_eq_ok, exists_const]
  refine ⟨_, rfl, 2200, hrequired, rfl, by decide, view, h.opens, rfl, view, ?_,
    by simp [authorizationRequest], (), receipt_valid h, ?_⟩
  · rw [patch_zero_nil]
    exact h.opens
  · rw [patch_zero_nil]
    rfl

theorem sealed_checked :
    authorizedArtifactValidate (authorized view) = .ok artifact := by
  simp only [authorizedArtifactValidate, bind_eq_ok, refuse_eq_ok, demand_eq_ok, mapStatus_eq_ok,
    pure_eq_ok, exists_const]
  have htake : ((authorized view).bytesAt .authorizedCopy).take
      (authorized view).authorized.object.artifactSize = artifact := List.take_length
  refine ⟨by rfl, .authorizedCopy, rfl, ?_, view, ?_, (), receipt_valid h, ?_, htake⟩
  · show (decide (artifact.length < envelopeBytes) || decide (artifact.length > artifactMaxBytes)) =
      false
    rw [artifact_fields.1]
    rfl
  · rw [htake]
    exact h.opens
  · rw [htake]
    simp [authorized]

omit h

/-- The action and the result are linear, the error is copied. -/
def typeSemantics : List TypeSemantics :=
  [⟨.linear, some .value⟩, ⟨.copy, some .enumeration⟩, ⟨.linear, none⟩]

theorem identities : schemaComputeIdentity schema = some schemaDigest ∧
    (helperContractComputeIdentity contract bindings).toOption = some helperDigest ∧
    (helperContractValidate contract bindings).toOption = some () ∧
    buildTypeSemantics tables = some typeSemantics := by
  decide +kernel

theorem schema_identity : schemaComputeIdentity schema = some schemaDigest := identities.1

theorem contract_identity : helperContractComputeIdentity contract bindings = .ok helperDigest :=
  toOption_eq_some.mp identities.2.1

/-- The program of the second stage; the first one ends after its only question. -/
theorem stage_accepts (stage2 : Bool) (view : ArtifactView) :
    ((stagePasses passes stage2 artifact view schema 3).run (ownershipMachine tables)
      ownershipStart).1 = .ok report := by
  refine toOption_eq_some.mp ?_
  cases stage2
  · rfl
  · have hprogram : stagePasses passes true artifact view schema 3 =
        Pass.andThen (.call 2 fun _ => .done (.ok report)) fun report =>
          Pass.andThen (ownershipPass (List.range 3)) fun _ => .done (.ok report) := rfl
    rw [hprogram]
    decide +kernel

include h

theorem verifier_accepts (stage2 : Bool) :
    ∃ asked, verifyArtifact passes stage2 artifact schema 7 = .ok (report, asked) := by
  have htabs : bindSections artifact view schema = some tables := by
    rw [bindSections, h.sections]
    rfl
  simp only [verifyArtifact, bind_eq_ok, refuse_eq_ok, demand_eq_ok, mapStatus_eq_ok, pure_eq_ok,
    exists_const]
  exact ⟨_, view, h.opens, 7, rfl, rfl, by rw [schemaValidate_of_identity schema_identity]; rfl,
    schemaDigest, schema_identity, by simp [h.schema], tables, htabs, report,
    stage_accepts stage2 view, rfl⟩

theorem workspace_required : preparedWorkspaceSize passes (authorized view) = .ok 2783 := by
  have hcontract : helperContractValidate contract bindings = .ok () :=
    toOption_eq_some.mp identities.2.2.1
  simp only [preparedWorkspaceSize, bind_eq_ok, demand_eq_ok]
  exact ⟨artifact, sealed_checked h, (), hcontract, tables.types, types_found h, 144, rfl, 6, rfl,
    7, verifier_measured h, 1416, rfl, 2624, by rw [artifact_fields.1]; rfl, 2768, rfl, 2774, rfl, rfl⟩

theorem artifact_prepared :
    ∃ after, prepareProgram passes limits room (authorized view) = .ok after := by
  have hsem : preparedTypeSemantics artifact view schema 3 = some typeSemantics := by
    rw [preparedTypeSemantics, h.sections]
    exact identities.2.2.2
  have hhelperSchema : validateHelperSchema schema bindings artifact view = .ok () := by
    rw [validateHelperSchema, h.sections]
    exact toOption_eq_some.mp (by decide +kernel)
  have hlimits : validateLimits limits view report = .ok () := by
    rw [validateLimits, h.instructions, h.helpers]
    rfl
  obtain ⟨asked1, hstage1⟩ := verifier_accepts h false
  obtain ⟨asked2, hstage2⟩ := verifier_accepts h true
  simp only [prepareProgram, bind_eq_ok, refuse_eq_ok, demand_eq_ok, mapStatus_eq_ok, pure_eq_ok,
    exists_const]
  refine ⟨_, artifact, sealed_checked h, schemaDigest, schema_identity, ?_, 2783,
    workspace_required h, rfl, by decide, tables.types, types_found h, 7, verifier_measured h,
    view, h.opens, ?_, (report, asked1), hstage1, (report, asked2), hstage2, schemaDigest,
    schema_identity, by simp, typeSemantics, hsem, helperDigest, contract_identity, ?_, (),
    hhelperSchema, helperDigest, contract_identity, by simp, (), hlimits, rfl⟩
  · simp [authorized, receipt, h.schema]
  · simp [authorized]
  · simp [authorized, received, contract, receipt]

end Opened

/-- An artifact is authorized and prepared; its program is sealed. -/
theorem program_sealed : ∃ memory, Sealed authorizer artifact passes schema limits memory := by
  obtain ⟨view, h⟩ := artifact_opens
  obtain ⟨after, hprepare⟩ := artifact_prepared h
  exact ⟨after, prepared_is_authorized (artifact_authorized h) rfl hprepare rfl⟩

end Bench

end Ribon.Ribos
