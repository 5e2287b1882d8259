/-
What a key policy means: delegation.

A record is delegated by the record its issuer id names, and so on up to a root.
A key may sign for a request if the record of the key and every record above it
permit the request.  This says nothing of tables, of their order or of how far a
walk may go.

A store that passes validation has its records and its domains sorted, and from
every record a chain of at most two edges up to a root.  That is what makes the
code, which walks and looks things up, compute exactly this meaning.
-/
import Mathlib.Data.Nat.Bitwise
import Ribon.Security.Evaluation
import Ribon.Security.KeyPolicy
import Ribon.Wire.Sorted

namespace Ribon.KeyPolicy

open Wire

/-! ### The meaning -/

/-- The mode that a policy usage is for; the other usages are for every mode. -/
def onlyMode : KeyPolicyUsage → Option KeyPolicyMode
  | .policyNormal => some .normal
  | .policyRecovery => some .recovery
  | .policyProvisioning => some .provisioning
  | .policyDiagnostic => some .diagnostic
  | _ => none

/-- A policy is signed in the mode it is for. -/
def ModeFits (request : KeyPolicyRequest) : Prop :=
  ∀ mode ∈ onlyMode request.usage, request.mode = mode

/-- The domains of a record. -/
def domains (record : KeyPolicyRecord) : List Digest := record.rollbackDomainDigests.getD []

/-- One record permits a request. -/
structure Permits (record : KeyPolicyRecord) (request : KeyPolicyRequest) : Prop where
  alive : record.lifecycle ≠ .revoked
  mode : record.modeMask.toNat.testBit (request.mode.code.toNat - 1) = true
  usage : record.usageMask.toNat.testBit (request.usage.code.toNat - 1) = true
  window : record.minimumSequence ≤ request.sequence ∧ request.sequence ≤ record.maximumSequence
  product : record.productDigest = request.productDigest
  domain : request.rollbackDomainDigest ∈ domains record

/-- `chain` leads from a record over its issuers to a root. -/
inductive IssuerChain (records : List KeyPolicyRecord) :
    KeyPolicyRecord → List KeyPolicyRecord → Prop
  | root {record : KeyPolicyRecord} (h : KeyPolicyRecord.isRoot record = true) :
      IssuerChain records record [record]
  | delegated {record issuer : KeyPolicyRecord} {above : List KeyPolicyRecord}
      (h : KeyPolicyRecord.isRoot record = false) (hissuer : issuer ∈ records)
      (hnamed : issuer.keyId.data = record.issuerKeyId.data)
      (habove : IssuerChain records issuer above) : IssuerChain records record (record :: above)

/-- The record with the requested key and everything above it permit the request. -/
def Delegated (records : List KeyPolicyRecord) (request : KeyPolicyRequest) : Prop :=
  ∃ leaf ∈ records, leaf.keyId.data = request.keyId.data ∧
    ∃ chain, IssuerChain records leaf chain ∧ ∀ record ∈ chain, Permits record request

/-! ### The order of ids -/

/-- Two bytes compare in one of three ways. -/
theorem byte_trichotomy (l r : UInt8) :
    (l < r ∧ ¬ r < l ∧ l ≠ r) ∨ l = r ∨ (r < l ∧ ¬ l < r ∧ l ≠ r) := by
  simp only [UInt8.lt_iff_toNat_lt, ne_eq, ← UInt8.toNat_inj]
  omega

/-- Ids compare in the order of lists. -/
theorem idCompare_eq (left right : List UInt8) :
    idCompare left right = compareOfLessAndEq left right := by
  induction left generalizing right with
  | nil => cases right <;> simp [idCompare, compareOfLessAndEq]
  | cons l left ih =>
      cases right with
      | nil => simp [idCompare, compareOfLessAndEq]
      | cons r right =>
          unfold idCompare compareOfLessAndEq
          simp only [ih, compareOfLessAndEq, List.cons_lt_cons_iff]
          rcases byte_trichotomy l r with ⟨h, -, -⟩ | rfl | ⟨h, hn, hne⟩
          · simp [h]
          · simp
          · simp [h, hn, hne]

theorem idCompare_eq_iff {left right : List UInt8} : idCompare left right = .eq ↔ left = right := by
  rw [idCompare_eq, compareOfLessAndEq_eq_eq List.le_refl List.not_le]

theorem idCompare_lt_iff {left right : List UInt8} : idCompare left right = .lt ↔ left < right := by
  rw [idCompare_eq, compareOfLessAndEq_eq_lt]

theorem idCompare_gt_iff {left right : List UInt8} : idCompare left right = .gt ↔ right < left := by
  rw [idCompare_eq, compareOfLessAndEq_eq_gt List.le_antisymm List.le_total List.not_le]
/-- A table whose keys rise is sorted for every key. -/
theorem sortedFor_of_rising {α : Type} {k : α → List UInt8} {table : List α}
    (h : table.Pairwise fun a b => k a < k b) (wanted : List UInt8) :
    SortedFor (fun entry => idCompare (k entry) wanted) table := by
  refine h.imp fun {a b} hab hstop => ?_
  have hwanted : wanted ≤ k a := by
    refine List.not_lt.mp fun hlt => hstop ?_
    exact idCompare_lt_iff.mpr hlt
  exact idCompare_gt_iff.mpr (List.lt_of_le_of_lt hwanted hab)

/-! ### What validation establishes -/

/-- The records of a store that passed validation. -/
structure WellFormed (records : List KeyPolicyRecord) : Prop where
  rising : records.Pairwise fun a b => a.keyId.data < b.keyId.data
  domainsRise : ∀ record ∈ records, (domains record).Pairwise fun a b => a.1 < b.1
  reaches : ∀ record ∈ records, ∃ index,
    issuerDepth records maxDelegationEdges index record = some record.delegationDepth.toNat

theorem domainsAreSorted_rising {table : List Digest} (h : domainsAreSorted table = true) :
    table.Pairwise fun a b => a.1 < b.1 := by
  have hchain : table.IsChain fun a b => a.1 < b.1 := by
    induction table with
    | nil => exact .nil
    | cons domain rest ih =>
        cases rest with
        | nil => exact .singleton _
        | cons next rest =>
            simp only [domainsAreSorted, Bool.and_eq_true, beq_iff_eq] at h
            exact .cons_cons (idCompare_lt_iff.mp h.1.2) (ih h.2)
  exact List.isChain_iff_pairwise.mp hchain

/-- The first loop leaves every record in shape and the keys rising. -/
theorem recordsAreValid_chain {before rest : List KeyPolicyRecord}
    (h : recordsAreValid before rest = true) :
    (∀ record ∈ rest, recordShapeIsValid record = true) ∧
      (before.getLast?.toList ++ rest).IsChain fun a b => a.keyId.data < b.keyId.data := by
  induction rest generalizing before with
  | nil =>
      refine ⟨by simp, ?_⟩
      cases before.getLast? with
      | none => exact .nil
      | some last => exact .singleton _
  | cons record rest ih =>
      simp only [recordsAreValid, Bool.and_eq_true] at h
      obtain ⟨⟨⟨hshape, horder⟩, -⟩, hrest⟩ := h
      obtain ⟨hshapes, hchain⟩ := ih hrest
      rw [List.getLast?_concat] at hchain
      refine ⟨List.forall_mem_cons.mpr ⟨hshape, hshapes⟩, ?_⟩
      cases hlast : before.getLast? with
      | none => exact hchain
      | some previous =>
          rw [hlast] at horder
          exact .cons_cons (idCompare_lt_iff.mp (by simpa using horder)) hchain

theorem recordShape_domainsRise {record : KeyPolicyRecord}
    (h : recordShapeIsValid record = true) : (domains record).Pairwise fun a b => a.1 < b.1 := by
  simp only [recordShapeIsValid, Bool.and_eq_true] at h
  exact domainsAreSorted_rising h.2

/-- **Validation establishes what authorization relies on.** -/
theorem wellFormed_of_storeValidate {store : KeyPolicyStore} (h : storeValidate store = true) :
    WellFormed (store.records.getD []) := by
  simp only [storeValidate, storeStructureIsValid, Bool.and_eq_true] at h
  obtain ⟨⟨⟨⟨-, hrecs⟩, hchains⟩, -⟩, -⟩ := h
  obtain ⟨hshapes, hchain⟩ := recordsAreValid_chain hrecs
  refine ⟨List.isChain_iff_pairwise.mp hchain, ?_, ?_⟩
  · intro record hrec
    exact recordShape_domainsRise (hshapes record hrec)
  · intro record hrec
    obtain ⟨index, hindex⟩ := List.mem_iff_getElem?.mp hrec
    refine ⟨index, ?_⟩
    have hall := List.all_eq_true.mp hchains (record, index)
      (List.mk_mem_zipIdx_iff_getElem?.mpr hindex)
    simpa using hall

section Lookups

variable {records : List KeyPolicyRecord}

theorem findRecordFrom_eq (records : List KeyPolicyRecord) (index : Nat) (keyId : List UInt8) :
    findRecordFrom records index keyId =
      searchFrom (fun record => idCompare record.keyId.data keyId) records index := by
  induction records generalizing index with
  | nil => rfl
  | cons record rest ih =>
      cases horder : idCompare record.keyId.data keyId <;>
        simp only [findRecordFrom, searchFrom, horder, ih]

theorem tableHasDomain_eq (table : List Digest) (domain : Digest) (index : Nat) :
    tableHasDomain table domain =
      (searchFrom (fun entry : Digest => idCompare entry.1 domain.1) table index).isSome := by
  induction table generalizing index with
  | nil => rfl
  | cons entry rest ih =>
      simp only [tableHasDomain, searchFrom, ih (index + 1)]
      cases idCompare entry.1 domain.1 <;> rfl

/-- **The record lookup answers like an exhaustive search.** -/
theorem WellFormed.findRecord_eq (w : WellFormed records) (keyId : View) :
    findRecord records keyId =
      (records.zipIdx.find? fun p => p.1.keyId.data == keyId.data).map fun p => (p.2, p.1) := by
  have hsame : (fun p : KeyPolicyRecord × Nat => p.1.keyId.data == keyId.data) =
      fun p => idCompare p.1.keyId.data keyId.data == .eq := by
    funext p
    rw [Bool.eq_iff_iff, beq_iff_eq, beq_iff_eq, idCompare_eq_iff]
  unfold findRecord
  rw [findRecordFrom_eq, searchFrom_eq_find? (sortedFor_of_rising w.rising _), hsame]

variable {record : KeyPolicyRecord}

variable (w : WellFormed records)
include w

theorem WellFormed.findRecord_eq_some {keyId : View} {index : Nat} :
    findRecord records keyId = some (index, record) ↔
      records[index]? = some record ∧ record.keyId.data = keyId.data := by
  unfold findRecord
  rw [findRecordFrom_eq, searchFrom_eq_some (sortedFor_of_rising w.rising _)]
  simp [idCompare_eq_iff]

/-- A record is found by its key. -/
theorem WellFormed.findRecord_of_mem {keyId : View} (h : record ∈ records)
    (hkey : record.keyId.data = keyId.data) :
    ∃ index, findRecord records keyId = some (index, record) := by
  obtain ⟨index, hindex⟩ := List.mem_iff_getElem?.mp h
  exact ⟨index, w.findRecord_eq_some.mpr ⟨hindex, hkey⟩⟩

/-- Two records of a store never share a key. -/
theorem WellFormed.eq_of_key {a b : KeyPolicyRecord} (ha : a ∈ records) (hb : b ∈ records)
    (hkey : a.keyId.data = b.keyId.data) : a = b := by
  obtain ⟨i, hi⟩ := w.findRecord_of_mem ha hkey
  obtain ⟨j, hj⟩ := w.findRecord_of_mem hb (rfl : b.keyId.data = b.keyId.data)
  have hsame := Option.some.inj (hi.symm.trans hj)
  exact congrArg Prod.snd hsame

/-- **The domain lookup answers like an exhaustive search.** -/
theorem WellFormed.recordHasDomain_iff (h : record ∈ records) {domain : Digest} :
    recordHasDomain record domain = true ↔ domain ∈ domains record := by
  have hsorted := sortedFor_of_rising (w.domainsRise record h) domain.1
  change tableHasDomain (domains record) domain = true ↔ _
  rw [tableHasDomain_eq _ _ 0, searchFrom_isSome hsorted]
  simp only [idCompare_eq_iff]
  constructor
  · rintro ⟨entry, hentry, hsame⟩
    exact Subtype.ext hsame ▸ hentry
  · intro hdomain
    exact ⟨domain, hdomain, rfl⟩

end Lookups

/-! ### Chains -/

section Chains

variable {records : List KeyPolicyRecord}

variable {record : KeyPolicyRecord}

/-- A record whose depth was counted has a chain of that many edges. -/
theorem WellFormed.chain_of_issuerDepth (w : WellFormed records) {left index depth : Nat}
    (h : issuerDepth records left index record = some depth) :
    depth ≤ left ∧ ∃ chain, IssuerChain records record chain ∧ chain.length = depth + 1 := by
  induction left generalizing index depth record with
  | zero =>
      unfold issuerDepth at h
      split at h
      · next hroot =>
        cases h
        exact ⟨le_rfl, [record], .root hroot, rfl⟩
      · cases h
  | succ left ih =>
      unfold issuerDepth at h
      split at h
      · next hroot =>
        cases h
        exact ⟨Nat.zero_le _, [record], .root hroot, rfl⟩
      · next hroot =>
        dsimp only at h
        cases hfound : findRecord records record.issuerKeyId with
        | none =>
            rw [hfound] at h
            cases h
        | some found =>
            rw [hfound] at h
            dsimp only at h
            split at h
            · cases h
            · obtain ⟨above, hdepth, rfl⟩ := Option.map_eq_some_iff.mp h
              obtain ⟨hle, chain, hchain, hlen⟩ := ih hdepth
              obtain ⟨hindex, hkey⟩ := w.findRecord_eq_some.mp hfound
              refine ⟨by omega, record :: chain, ?_, by simp [hlen]⟩
              exact .delegated (by simpa using hroot) (List.mem_of_getElem? hindex) hkey hchain

variable {chain : List KeyPolicyRecord}

/-- There is only one chain from a record. -/
theorem WellFormed.chain_unique (w : WellFormed records) {other : List KeyPolicyRecord}
    (h : IssuerChain records record chain) (h' : IssuerChain records record other) :
    chain = other := by
  induction h generalizing other with
  | root hroot =>
      cases h' with
      | root => rfl
      | delegated hnot =>
          rw [hroot] at hnot
          cases hnot
  | delegated hnot hissuer hnamed _ ih =>
      cases h' with
      | root hroot =>
          rw [hroot] at hnot
          cases hnot
      | delegated _ hissuer' hnamed' habove' =>
          obtain rfl := w.eq_of_key hissuer hissuer' (hnamed.trans hnamed'.symm)
          rw [ih habove']

/-- **Every chain of a valid store ends at a root within the edge limit.** -/
theorem WellFormed.chain_exists (w : WellFormed records) (h : record ∈ records) :
    ∃ chain, IssuerChain records record chain ∧ chain.length ≤ maxDelegationEdges + 1 := by
  obtain ⟨index, hindex⟩ := w.reaches record h
  obtain ⟨hle, chain, hchain, hlen⟩ := w.chain_of_issuerDepth hindex
  exact ⟨chain, hchain, by omega⟩

theorem IssuerChain.mem (h : IssuerChain records record chain) (hrec : record ∈ records) :
    ∀ other ∈ chain, other ∈ records := by
  induction h with
  | root => exact List.forall_mem_singleton.mpr hrec
  | delegated _ hissuer _ _ ih => exact List.forall_mem_cons.mpr ⟨hrec, ih hissuer⟩

/-- **The walk goes along the chain**, and never runs out of edges or issuers. -/
theorem WellFormed.authorizeChain_eq (w : WellFormed records) (request : KeyPolicyRequest)
    {left : Nat} (h : IssuerChain records record chain) (hlen : chain.length ≤ left + 1) :
    authorizeChain records request left record =
      if chain.all (recordAllowsRequest · request) then .ok (chain.length - 1)
      else .error .keyPolicy := by
  induction h generalizing left with
  | @root record hroot =>
      unfold authorizeChain
      by_cases hallows : recordAllowsRequest record request = true
      · simp [hallows, hroot]
      · simp [hallows]
  | @delegated record issuer above hnot hissuer hnamed habove ih =>
      have hpos : 0 < above.length := by
        cases habove <;> simp
      rw [List.length_cons] at hlen ⊢
      obtain ⟨left, rfl⟩ : ∃ n, left = n + 1 := ⟨left - 1, by omega⟩
      obtain ⟨index, hfound⟩ := w.findRecord_of_mem hissuer hnamed
      unfold authorizeChain
      by_cases hallows : recordAllowsRequest record request = true
      · simp only [hallows, hnot, Bool.not_true, Bool.false_eq_true, if_false, hfound,
          List.all_cons, Bool.true_and, ih (by omega : above.length ≤ left + 1)]
        split
        · exact congrArg Except.ok (Nat.succ_pred_eq_of_pos hpos)
        · rfl
      · simp [hallows]

end Chains

/-! ### Authorization -/

section Authorization

variable {store : KeyPolicyStore} {records : List KeyPolicyRecord} {request : KeyPolicyRequest}

/-- Testing a mask with one bit set. -/
theorem and_two_pow_ne_zero (mask k : Nat) : mask &&& 2 ^ k ≠ 0 ↔ mask.testBit k = true := by
  rw [Nat.and_two_pow]
  cases mask.testBit k <;> simp

theorem modeBit_iff {mask : UInt32} {mode : KeyPolicyMode} (h : mode ≠ .invalid) :
    (mask &&& (1 <<< (mode.code.toUInt32 - 1))) ≠ 0 ↔
      mask.toNat.testBit (mode.code.toNat - 1) = true := by
  have hbit : ((1 : UInt32) <<< (mode.code.toUInt32 - 1)).toNat = 2 ^ (mode.code.toNat - 1) := by
    cases mode with
    | invalid => exact absurd rfl h
    | _ => rfl
  rw [← and_two_pow_ne_zero, ← hbit, ← UInt32.toNat_and, ne_eq, ne_eq, ← UInt32.toNat_inj]
  rfl

theorem usageBit_iff {mask : UInt64} {usage : KeyPolicyUsage} (h : usage ≠ .invalid) :
    (mask &&& (1 <<< (usage.code.toUInt64 - 1))) ≠ 0 ↔
      mask.toNat.testBit (usage.code.toNat - 1) = true := by
  have hbit : ((1 : UInt64) <<< (usage.code.toUInt64 - 1)).toNat = 2 ^ (usage.code.toNat - 1) := by
    cases usage with
    | invalid => exact absurd rfl h
    | _ => rfl
  rw [← and_two_pow_ne_zero, ← hbit, ← UInt64.toNat_and, ne_eq, ne_eq, ← UInt64.toNat_inj]
  rfl

theorem requestIsValid_kinds (h : requestIsValid request = true) :
    request.mode ≠ .invalid ∧ request.usage ≠ .invalid := by
  simp only [requestIsValid, Bool.and_eq_true, bne_iff_ne] at h
  tauto

/-- What the code checks of one record is what the record means. -/
theorem WellFormed.recordAllowsRequest_iff (w : WellFormed records) {record : KeyPolicyRecord}
    (hrec : record ∈ records) (hvalid : requestIsValid request = true) :
    recordAllowsRequest record request = true ↔ Permits record request := by
  obtain ⟨hmode, husage⟩ := requestIsValid_kinds hvalid
  simp only [recordAllowsRequest, Bool.and_eq_true, bne_iff_ne, decide_eq_true_eq,
    Digest.equal_iff, w.recordHasDomain_iff hrec, modeBit_iff hmode, usageBit_iff husage]
  constructor
  · rintro ⟨⟨⟨⟨⟨⟨hlive, hm⟩, hu⟩, hmin⟩, hmax⟩, hprod⟩, hdomain⟩
    exact ⟨hlive, hm, hu, ⟨hmin, hmax⟩, hprod, hdomain⟩
  · intro h
    exact ⟨⟨⟨⟨⟨⟨h.alive, h.mode⟩, h.usage⟩, h.window.1⟩, h.window.2⟩, h.product⟩, h.domain⟩

/-- The check of mode against usage. -/
theorem modeFits_iff (hvalid : requestIsValid request = true) :
    (decide (request.usage.code ≤ KeyPolicyUsage.policyDiagnostic.code) &&
      request.mode.code != request.usage.code) = false ↔ ModeFits request := by
  obtain ⟨hmode, husage⟩ := requestIsValid_kinds hvalid
  unfold ModeFits
  generalize request.mode = mode at *
  generalize request.usage = usage at *
  cases usage with
  | invalid => exact absurd rfl husage
  | _ => cases mode <;> first | exact absurd rfl hmode | decide +revert

/-- What authorization decides, and what it returns. -/
theorem authorize_eq_ok (hstore : storeValidate store = true) {decision : KeyPolicyDecision} :
    authorize store request = .ok decision ↔
      requestIsValid request = true ∧ ModeFits request ∧
      ∃ index leaf chain, (store.records.getD [])[index]? = some leaf ∧
        leaf.keyId.data = request.keyId.data ∧
        IssuerChain (store.records.getD []) leaf chain ∧
        (∀ record ∈ chain, Permits record request) ∧
        decision = {
          recordIndex := index
          delegationDepth := chain.length - 1
          trustStoreGeneration := store.generation
          keyIdentityDigest := leaf.keyIdentityDigest
          trustStoreDigest := store.canonicalDigest } := by
  have w := wellFormed_of_storeValidate hstore
  simp only [authorize, bind_eq_ok, refuse_eq_ok, pure_eq_ok, exists_const, Prod.exists, hstore,
    Bool.not_true, true_and, Bool.not_eq_false']
  refine and_congr_right fun hvalid => ?_
  rw [modeFits_iff hvalid]
  refine and_congr_right fun hmode => ?_
  have hlookup : ∀ index leaf, lookup (store.records.getD []) request.keyId = .ok (index, leaf) ↔
      (store.records.getD [])[index]? = some leaf ∧ leaf.keyId.data = request.keyId.data := by
    intro index leaf
    rw [← w.findRecord_eq_some]
    unfold lookup
    cases findRecord (store.records.getD []) request.keyId <;> simp
  simp only [hlookup]
  constructor
  · rintro ⟨index, leaf, ⟨hindex, hkey⟩, hprod, hdomain, depth, hwalk, rfl⟩
    obtain ⟨chain, hchain, hlen⟩ := w.chain_exists (List.mem_of_getElem? hindex)
    rw [w.authorizeChain_eq request hchain hlen] at hwalk
    split at hwalk
    next hall =>
      refine ⟨index, leaf, chain, hindex, hkey, hchain, ?_, ?_⟩
      · intro record hrec
        have hmem := hchain.mem (List.mem_of_getElem? hindex) record hrec
        exact (w.recordAllowsRequest_iff hmem hvalid).mp (List.all_eq_true.mp hall record hrec)
      · rw [Except.ok.inj hwalk]
    next => cases hwalk
  · rintro ⟨index, leaf, chain, hindex, hkey, hchain, hall, rfl⟩
    have hmem := List.mem_of_getElem? hindex
    have hleaf : Permits leaf request := hall leaf (by cases hchain <;> simp)
    obtain ⟨short, hshort, hlen⟩ := w.chain_exists hmem
    obtain rfl := w.chain_unique hchain hshort
    refine ⟨index, leaf, ⟨hindex, hkey⟩, ?_, ?_, chain.length - 1, ?_, rfl⟩
    · exact Digest.equal_iff.mpr hleaf.product
    · exact (w.recordHasDomain_iff hmem).mpr hleaf.domain
    · rw [w.authorizeChain_eq request hchain hlen, if_pos]
      refine List.all_eq_true.mpr fun record hrec => ?_
      exact (w.recordAllowsRequest_iff (hchain.mem hmem record hrec) hvalid).mpr
        (hall record hrec)

/-- **Authorization is exactly delegation.**  The walk it makes ends at a root, and its lookups,
which stop early, answer like exhaustive searches. -/
theorem authorize_iff_delegated (store : KeyPolicyStore) (hstore : storeValidate store = true) :
    (∀ request, (∃ decision, authorize store request = .ok decision) ↔
      requestIsValid request = true ∧ ModeFits request ∧
        Delegated (store.records.getD []) request) ∧
    (∀ record ∈ store.records.getD [],
      (∃! chain, IssuerChain (store.records.getD []) record chain) ∧
      (∀ chain, IssuerChain (store.records.getD []) record chain →
        chain.length ≤ maxDelegationEdges + 1) ∧
      ∀ request, authorizeChain (store.records.getD []) request maxDelegationEdges record ≠
        .error .invalidStore) ∧
    (∀ keyId, findRecord (store.records.getD []) keyId =
      ((store.records.getD []).zipIdx.find? fun p => p.1.keyId.data == keyId.data).map
        fun p => (p.2, p.1)) ∧
    ∀ record ∈ store.records.getD [], ∀ domain,
      recordHasDomain record domain = (domains record).any (· == domain) := by
  have w := wellFormed_of_storeValidate hstore
  refine ⟨fun request => ?_, fun record hrec => ?_, w.findRecord_eq, ?_⟩
  · simp only [authorize_eq_ok hstore]
    constructor
    · rintro ⟨decision, hvalid, hmode, index, leaf, chain, hindex, hkey, hchain, hall, -⟩
      exact ⟨hvalid, hmode, leaf, List.mem_of_getElem? hindex, hkey, chain, hchain, hall⟩
    · rintro ⟨hvalid, hmode, leaf, hleaf, hkey, chain, hchain, hall⟩
      obtain ⟨index, hindex⟩ := List.mem_iff_getElem?.mp hleaf
      exact ⟨_, hvalid, hmode, index, leaf, chain, hindex, hkey, hchain, hall, rfl⟩
  · obtain ⟨chain, hchain, hlen⟩ := w.chain_exists hrec
    refine ⟨⟨chain, hchain, fun other hother => w.chain_unique hother hchain⟩, ?_, ?_⟩
    · intro other hother
      rw [w.chain_unique hother hchain]
      exact hlen
    · intro request
      rw [w.authorizeChain_eq request hchain hlen]
      split <;> nofun
  · intro record hrec domain
    rw [Bool.eq_iff_iff, w.recordHasDomain_iff hrec]
    simp

end Authorization

/-! ### A small store

One root and one key that it delegates to. -/

namespace Bench

def productDigest : Digest := ⟨List.replicate 32 3, rfl⟩
def domainDigest : Digest := ⟨List.replicate 32 4, rfl⟩

/-- The key that signs updates and confirmations. -/
def leaf : KeyPolicyRecord where
  size := recordSizeOf
  abiVersion := abiVersion
  flags := 0
  algorithm := .ed25519
  lifecycle := .active
  modeMask := 0x0f
  usageMask := 0x50
  keyId := .mem [0x6c, 0x65, 0x61, 0x66]
  publicKey := ⟨List.replicate 32 0x11, by simp⟩
  keyIdentityDigest := Sha256.Words.digest ⟨0x02d449a3, 0x1fbb267c, 0x8f352e99, 0x68a79e3e,
    0x5fc95c1b, 0xbeaa502f, 0xd6454ebd, 0xe5a4bedc⟩
  productDigest := productDigest
  rollbackDomainDigests := some [domainDigest]
  delegationDepth := 1
  issuerKeyId := .mem [0x72, 0x6f, 0x6f, 0x74]
  minimumSequence := 1
  maximumSequence := 1000
  reserved := Reserved.none

def root : KeyPolicyRecord where
  size := recordSizeOf
  abiVersion := abiVersion
  flags := recordRoot
  algorithm := .ed25519
  lifecycle := .active
  modeMask := 0x0f
  usageMask := 0x7f
  keyId := .mem [0x72, 0x6f, 0x6f, 0x74]
  publicKey := ⟨List.replicate 32 0x22, by simp⟩
  keyIdentityDigest := Sha256.Words.digest ⟨0x9f72ea0c, 0xf49536e3, 0xc66c787f, 0x705186df,
    0x9a437808, 0x3753ae95, 0x36d65b3a, 0xd7fcddc4⟩
  productDigest := productDigest
  rollbackDomainDigests := some [domainDigest]
  delegationDepth := 0
  issuerKeyId := .null 0
  minimumSequence := 0
  maximumSequence := u64Max
  reserved := Reserved.none

def store : KeyPolicyStore where
  magic := storeMagic
  size := storeSizeOf
  abiVersion := abiVersion
  flags := 0
  id := .mem [0x73, 0x74, 0x6f, 0x72, 0x65]
  generation := 1
  records := some [leaf, root]
  reserved0 := 0
  canonicalDigest := Sha256.Words.digest ⟨0xc687a02d, 0xdd290a69, 0xbb954e80, 0x6d4a2aa4,
    0xb55f7515, 0xa0f379bb, 0x03936d18, 0xd943cd26⟩
  reserved := Reserved.none

/-- A request to sign update number 5, with its flags as given. -/
def request (flags : UInt32) : KeyPolicyRequest where
  size := requestSizeOf
  abiVersion := abiVersion
  mode := .normal
  usage := .updateManifest
  flags := flags
  reserved0 := 0
  keyId := .mem [0x6c, 0x65, 0x61, 0x66]
  productDigest := productDigest
  rollbackDomainDigest := domainDigest
  sequence := 5
  reserved := Reserved.none

theorem store_valid : storeValidate store = true := by
  simp only [storeValidate, storeStructureIsValid, storeDigest, store, Option.getD_some,
    recordsAreValid, recordShapeIsValid, List.flatMap_cons, List.flatMap_nil, recordBytes, sha256_eq]
  decide +kernel

theorem permits (flags : UInt32) : ∀ record ∈ [leaf, root], Permits record (request flags) := by
  intro record hrec
  rcases List.mem_pair.mp hrec with rfl | rfl
  · refine ⟨by decide, ?_, ?_, ?_, rfl, List.mem_singleton_self _⟩ <;> simp only [leaf, request] <;>
      decide
  · refine ⟨by decide, ?_, ?_, ?_, rfl, List.mem_singleton_self _⟩ <;> simp only [root, request] <;>
      decide

theorem chain : IssuerChain (store.records.getD []) leaf [leaf, root] :=
  .delegated rfl (List.mem_cons_of_mem _ List.mem_cons_self) rfl (.root rfl)

/-- The key is delegated by the root, whatever the flags of the request. -/
theorem delegated (flags : UInt32) :
    ModeFits (request flags) ∧ Delegated (store.records.getD []) (request flags) := by
  exact ⟨fun mode hmode => absurd hmode (by simp [request, onlyMode]), leaf, List.mem_cons_self, rfl,
    [leaf, root], chain, permits flags⟩

/-- A well-formed request for the key is authorized. -/
theorem authorize_iff_delegated_store : storeValidate store = true ∧
    ∃ decision, authorize store (request 0) = .ok decision := by
  refine ⟨store_valid, ((authorize_iff_delegated store store_valid).1 (request 0)).mpr ?_⟩
  exact ⟨by decide +kernel, delegated 0⟩

/-- A request that sets a flag is refused, although the key may sign for everything it asks. -/
theorem flagged_request_refused : storeValidate store = true ∧ ModeFits (request 1) ∧
    Delegated (store.records.getD []) (request 1) ∧
    authorize store (request 1) = .error .invalidArgument := by
  refine ⟨store_valid, (delegated 1).1, (delegated 1).2, ?_⟩
  have hmalformed : requestIsValid (request 1) = false := by decide +kernel
  unfold authorize
  rw [store_valid, hmalformed]
  rfl

end Bench

end Ribon.KeyPolicy
