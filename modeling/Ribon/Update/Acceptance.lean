/-
What a confirmation has to show before a slot is promoted.

`accept` reads both journals and asks the key policy and the protocol; only then
does it write.  `Accepts` collects what it has found out by that time.  Without it
the run ends in an error and the machine is as it was, wherever the run is
stopped.  A receipt for a slot that both journals have promoted already changes
nothing either.
-/
import Ribon.Update.ConfirmationEnvelope
import Ribon.Update.Convergence

namespace Ribon

open Wire Crash

/-- The command reads one of the two kinds of media. -/
def Cmd.Reads : Cmd → Prop
  | .read .. | .protectedRead .. => True
  | _ => False

theorem Cmd.Reads.still (c : Cmd) (h : c.Reads) (w : World) : machine.effect c w = w := by
  cases c with
  | read device offset size => rfl
  | protectedRead device key size => rfl
  | _ => exact h.elim

/-- Opening the protected journal reads, whatever it reads. -/
theorem ProtectedState.protectedOpen_emits (journal : ProtectedJournal) :
    Act.emits Cmd.Reads (fun _ => True) (protectedOpen journal) := by
  have hread : ∀ {A : Type} {f : List UInt8 → Act ProtectedStatus A} (object : ProtectedObject)
      (slot : UInt32) (size : Nat), (∀ bytes, Act.emits Cmd.Reads (fun _ => True) (f bytes)) →
      Act.emits Cmd.Reads (fun _ => True) (providerRead journal object slot size >>= f) := by
    intro A f object slot size hf
    refine Act.emits_bind (Q := fun _ => True) ?_ (fun bytes _ => hf bytes) fun _ _ => trivial
    refine Act.emits_bind_command trivial fun transfer => ?_
    exact Act.emits_bind_ofExcept (fun _ _ => trivial) fun _ _ => Act.emits_pure trivial
  refine Act.emits_bind_ofExcept (fun _ _ => trivial) fun _ _ => ?_
  refine hread _ _ _ fun selector0 => hread _ _ _ fun record0 => ?_
  exact hread _ _ _ fun selector1 => hread _ _ _ fun record1 => trivial

theorem Transaction.transactionOpen_reads (journal : TransactionJournal) :
    Act.emits Cmd.Reads (fun _ => True) (transactionOpen journal) := by
  refine Prog.emits.mono (transactionOpen_emits journal) ?_ fun _ h => h
  intro c h
  cases c with
  | read device offset size => trivial
  | _ => exact h.elim

/-- A key that the policy verifies with is one it authorizes, and its signature is good. -/
theorem KeyPolicy.verify_eq_ok {store : KeyPolicyStore} {decision : KeyPolicyDecision}
    {verification : KeyPolicySignatureVerification} {policy : KeyPolicyRequest}
    {provider : SignatureProvider} (hpolicy : verification.policy = some policy)
    (hprov : verification.provider = some provider)
    (h : verify store verification = .ok decision) :
    authorize store policy = .ok decision ∧
      ∃ record, (store.records.getD [])[decision.recordIndex]? = some record ∧
        signatureVerify provider (signatureRequest record verification) =
          SignatureStatus.ok.code := by
  simp only [verify, hpolicy, hprov, bind_eq_ok, refuse_eq_ok, exists_const] at h
  obtain ⟨-, found, hauth, h⟩ := h
  split at h
  · cases h
  · rename_i record hrec
    simp only [bind_eq_ok, refuse_eq_ok, pure_eq_ok, exists_const, bne_eq_false_iff_eq] at h
    obtain ⟨-, -, hstatus, rfl⟩ := h
    exact ⟨hauth, record, hrec, hstatus⟩

namespace Confirmation

/-- What an acceptance has found in the envelope, in the two journals and with its callbacks. -/
structure Accepts (request : AcceptRequest) (w : World) (view : EnvelopeView) (binding : Digest)
    (update : TransactionSnapshot) (current : ProtectedSnapshot) : Prop where
  /-- The envelope is what the encoder writes of a valid confirmation. -/
  canonical : ∃ bytes source capacity, request.envelope = .mem bytes ∧ Confirmable source ∧
    envelopeEncode source capacity = .ok bytes ∧ view = confirmationView source bytes
  identity : viewMatchesIdentity view request.identity = true
  protocol : protocolMatchesIdentity request.protocol request.identity = true
  bound : bindingDigest request.identity view.nonce view.attemptSequence = .ok binding
  updateOpens : (Transaction.transactionOpen request.updateJournal).exec machine w = (.ok update, w)
  slot : updateWasConfirmed update request.identity = true ∨
    pendingIdentityMatches update request.identity = true
  protectedOpens : (ProtectedState.protectedOpen request.protectedJournal).exec machine w =
    (.ok current, w)
  attempt : attemptIsCurrent current view binding request.identity = true
  /-- The key may confirm boots of this product, and it signed the bytes in front of the
  signature. -/
  signed : ∃ decision record,
    KeyPolicy.authorize request.keyPolicy (policyRequest request view) = .ok decision ∧
    (request.keyPolicy.records.getD [])[decision.recordIndex]? = some record ∧
    signatureVerify request.signatureProvider
      (KeyPolicy.signatureRequest record (signatureCheck request view)) = SignatureStatus.ok.code
  healthy : request.protocol.validateBootHealth
    { bytes := view.healthPayload, digest := view.healthPayloadDigest } = 0

variable {request : AcceptRequest} {w : World} {view : EnvelopeView} {binding : Digest}
  {update : TransactionSnapshot} {current : ProtectedSnapshot}

theorem acceptEnvelope_eq_ok (h : acceptEnvelope request = .ok (view, binding)) :
    envelopeOpen request.envelope = .ok view ∧ viewMatchesIdentity view request.identity = true ∧
      protocolMatchesIdentity request.protocol request.identity = true ∧
      bindingDigest request.identity view.nonce view.attemptSequence = .ok binding := by
  simp only [acceptEnvelope, bind_eq_ok, refuse_eq_ok, pure_eq_ok, mapStatus_eq_ok, exists_const,
    Bool.or_eq_false_iff, Bool.not_eq_false', Prod.mk.injEq] at h
  obtain ⟨-, opened, hopen, ⟨hid, hproto⟩, digest, hdig, rfl, rfl⟩ := h
  exact ⟨hopen, hid, hproto, hdig⟩

theorem acceptReceipt_eq_ok (h : acceptReceipt request view = .ok ()) :
    (∃ decision, KeyPolicy.verify request.keyPolicy (signatureCheck request view) = .ok decision) ∧
      request.protocol.validateBootHealth
        { bytes := view.healthPayload, digest := view.healthPayloadDigest } = 0 := by
  simp only [acceptReceipt, bind_eq_ok, refuse_eq_ok, mapStatus_eq_ok, bne_eq_false_iff_eq] at h
  obtain ⟨decision, hverify, hhealth⟩ := h
  exact ⟨⟨decision, hverify⟩, hhealth⟩

/-- **Without all of it nothing happens**: the run fails and the machine stays as it was. -/
theorem accept_refused
    (h : ∀ view binding update current, ¬Accepts request w view binding update current) :
    Act.wpc machine (· = w) (fun r t => (∃ e, r = .error e) ∧ t = w) (accept request) w := by
  refine Act.wpc_bind_ofExcept rfl (fun e _ => ⟨⟨e, rfl⟩, rfl⟩) ?_
  rintro ⟨view, binding⟩ henv
  refine Act.wpc_bind_still (Transaction.transactionOpen_reads _) Cmd.Reads.still
    (fun e => ⟨⟨e, rfl⟩, rfl⟩) fun update hupdate => ?_
  refine Act.wpc_bind_refuseIf rfl (fun _ => ⟨⟨_, rfl⟩, rfl⟩) fun hslot => ?_
  refine Act.wpc_bind_still (ProtectedState.protectedOpen_emits _) Cmd.Reads.still
    (fun e => ⟨⟨e, rfl⟩, rfl⟩) fun current hcur => ?_
  refine Act.wpc_bind_refuseIf rfl (fun _ => ⟨⟨_, rfl⟩, rfl⟩) fun hatt => ?_
  refine Act.wpc_bind_ofExcept rfl (fun e _ => ⟨⟨e, rfl⟩, rfl⟩) fun _ hrcpt => ?_
  -- here everything has been checked
  obtain ⟨hopen, hid, hproto, hbind⟩ := acceptEnvelope_eq_ok henv
  obtain ⟨⟨decision, hverify⟩, hhealth⟩ := acceptReceipt_eq_ok hrcpt
  obtain ⟨hauth, record, hrec, hsig⟩ := KeyPolicy.verify_eq_ok rfl rfl hverify
  refine absurd ?_ (h view binding update current)
  refine {
    canonical := ?_, identity := hid, protocol := hproto, bound := hbind,
    updateOpens := hupdate, slot := ?_, protectedOpens := hcur, attempt := by simpa using hatt,
    signed := ⟨decision, record, hauth, hrec, hsig⟩, healthy := hhealth }
  · cases henv : request.envelope with
    | null size =>
        rw [henv] at hopen
        cases hopen
    | mem bytes =>
        rw [henv] at hopen
        obtain ⟨source, capacity, hsrc⟩ := envelopeOpen_iff.mp hopen
        exact ⟨bytes, source, capacity, rfl, hsrc⟩
  · by_cases hwas : updateWasConfirmed update request.identity = true
    · exact Or.inl hwas
    · exact Or.inr (by simpa [hwas] using hslot)

/-- The protected journal has confirmed this attempt: it is opened, and nothing is written. -/
theorem confirmBound_again
    (hcur : (ProtectedState.protectedOpen request.protectedJournal).exec machine w =
      (.ok current, w)) (hkind : current.kind = .confirmed)
    (hatt : attemptIsCurrent current view binding request.identity = true) :
    Act.wpc machine (· = w) (fun _ t => t = w)
      (ProtectedState.confirmBound request.protectedJournal request.identity.manifestSequence
        binding view.attemptSequence) w := by
  refine Act.wpc_bind_refuseIf rfl (fun _ => rfl) fun _ => ?_
  refine Act.wpc_bind (Prog.emits.still (ProtectedState.protectedOpen_emits _) Cmd.Reads.still w)
    ?_ fun _ _ ht _ => ht
  rintro found t rfl ⟨-, hfound⟩
  obtain rfl : current = found :=
    Except.ok.inj (congrArg Prod.fst (hcur.symm.trans hfound))
  have hrule : ProtectedState.confirmBoundRule request.identity.manifestSequence binding
      view.attemptSequence current = .ok none := by
    simp only [attemptIsCurrent, hkind, Bool.and_eq_true, beq_iff_eq] at hatt
    simp_all [ProtectedState.confirmBoundRule]
  rw [hrule]
  exact ⟨rfl, rfl⟩

/-- **A receipt for what both journals have promoted** writes nothing and is a duplicate. -/
theorem accept_again
    (hupdate : (Transaction.transactionOpen request.updateJournal).exec machine w = (.ok update, w))
    (hcur : (ProtectedState.protectedOpen request.protectedJournal).exec machine w =
      (.ok current, w))
    (hwas : updateWasConfirmed update request.identity = true) (hkind : current.kind = .confirmed) :
    Act.wpc machine (· = w) (fun r t => t = w ∧ ∀ receipt, r = .ok receipt →
      receipt.duplicate = true) (accept request) w := by
  refine Act.wpc_bind_ofExcept rfl (fun e _ => ⟨rfl, nofun⟩) ?_
  rintro ⟨view, binding⟩ -
  refine Act.wpc_bind_still (Transaction.transactionOpen_reads _) Cmd.Reads.still
    (fun e => ⟨rfl, nofun⟩) fun found hfound => ?_
  obtain rfl : update = found := Except.ok.inj (congrArg Prod.fst (hupdate.symm.trans hfound))
  refine Act.wpc_bind_refuseIf rfl (fun _ => ⟨rfl, nofun⟩) fun _ => ?_
  refine Act.wpc_bind_still (ProtectedState.protectedOpen_emits _) Cmd.Reads.still
    (fun e => ⟨rfl, nofun⟩) fun found hfound => ?_
  obtain rfl : current = found := Except.ok.inj (congrArg Prod.fst (hcur.symm.trans hfound))
  refine Act.wpc_bind_refuseIf rfl (fun _ => ⟨rfl, nofun⟩) fun hatt => ?_
  refine Act.wpc_bind_ofExcept rfl (fun e _ => ⟨rfl, nofun⟩) fun _ _ => ?_
  have hagain := confirmBound_again hcur hkind (by simpa using hatt)
  refine Act.wpc_bind_mapError hagain ?_ fun _ _ ht => ⟨ht, nofun⟩
  rintro confirmed t rfl -
  refine Act.wpc_bind_mapError (Q := fun _ s => s = t) ?_ ?_ fun _ _ ht => ⟨ht, nofun⟩
  · refine Act.wpc_bind_refuseIf rfl (fun _ => rfl) fun _ => ?_
    refine Act.wpc_bind (Prog.emits.still (Transaction.transactionOpen_reads _) Cmd.Reads.still t)
      ?_ fun _ _ ht _ => ht
    rintro found s rfl ⟨-, hfound⟩
    obtain rfl : update = found := Except.ok.inj (congrArg Prod.fst (hupdate.symm.trans hfound))
    rw [if_pos (show Transaction.confirmedAlready (confirmRequest request) update = true from hwas)]
    exact ⟨rfl, rfl⟩
  · rintro result s rfl -
    refine Act.wpc_pure rfl ⟨rfl, ?_⟩
    rintro receipt ⟨⟩
    simp [hwas]

/-- **A slot is promoted only on a receipt that passes every check.**  Whatever the envelope, the
request, the journals and the callbacks are, an acceptance that lacks one of them fails, and both
journals are as they were wherever it is stopped.  So they are where both had promoted the slot
before, and the receipt then says so. -/
theorem accept_fail_closed (request : AcceptRequest) (w : World) :
    ((∃ view binding update current, Accepts request w view binding update current) ∨
      (∃ e, ((accept request).exec machine w).1 = .error e) ∧
        ((accept request).exec machine w).2 = w ∧ ∀ n, (accept request).cut machine n w = w) ∧
    ∀ update current,
      (Transaction.transactionOpen request.updateJournal).exec machine w = (.ok update, w) →
      (ProtectedState.protectedOpen request.protectedJournal).exec machine w = (.ok current, w) →
      updateWasConfirmed update request.identity = true → current.kind = .confirmed →
      ((accept request).exec machine w).2 = w ∧ (∀ n, (accept request).cut machine n w = w) ∧
        ∀ receipt, ((accept request).exec machine w).1 = .ok receipt →
          receipt.duplicate = true := by
  refine ⟨?_, ?_⟩
  · by_cases h : ∃ view binding update current, Accepts request w view binding update current
    · exact Or.inl h
    · simp only [not_exists] at h
      have hrun := accept_refused h
      exact Or.inr ⟨hrun.post.1, hrun.post.2, hrun.inv⟩
  · intro update current hupdate hcur hwas hkind
    have hrun := accept_again hupdate hcur hwas hkind
    exact ⟨hrun.post.1, hrun.inv, hrun.post.2⟩

end Confirmation

end Ribon
