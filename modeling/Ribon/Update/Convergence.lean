/-
Retrying an install until it succeeds.

An install makes three commits.  Whatever cuts it short, some first part of them
is on the media, and the next run of the same request finds out which and goes on
from there.  So a run that succeeds in the end leaves the journal exactly three
generations on, however often it was cut before, and nothing but the inactive slot
and the journal is ever touched.
-/
import Ribon.Update.Consistency

namespace Ribon.Transaction

open Wire Crash Crash.TwoSlot Installer

/-- Any number of runs of one install, each cut at some command. -/
inductive CutRuns (request : TransactionalInstallRequest) (w : World) : World → Prop
  | none : CutRuns request w w
  | cut {u t : World} (runs : CutRuns request w u) (observer : ObserverState) (n : Nat)
      (power : PowerCut request.journal
        (Act.cut machine n (installTransactionally request) { u with observer := observer }) t) :
      CutRuns request w t

/-- The entry names the manifest that the request is authorized for, and its layout. -/
structure Named (request : TransactionalInstallRequest) (manifest : ManifestView)
    (entry : SlotEntry) : Prop where
  authorized : ∃ decision,
    Manifest.manifestAuthorize request.install.authorization = .ok (manifest, decision)
  imageGeneration : entry.imageGeneration = manifest.bundleGeneration
  manifestDigest : entry.manifestDigest = sha256 manifest.bytes manifest.byteSize
  imageSetDigest : imageSetIdentity manifest = .ok entry.imageSetDigest
  layoutDigest : ∃ layout, request.install.layout = some layout ∧
    entry.layoutDigest = layout.identityDigest

/-- Some commits on from a snapshot, with the same active slot and the same entry in it. -/
structure Advanced (start S : TransactionSnapshot) (steps : Nat) : Prop where
  generation : S.journalGeneration.toNat = start.journalGeneration.toNat + steps
  active : S.metadata.activeSlot = start.metadata.activeSlot
  kept : S.metadata.slot start.metadata.activeSlot = start.metadata.slot start.metadata.activeSlot

/-- The entry of the slot that is installed. -/
abbrev targetEntry (request : TransactionalInstallRequest) (S : TransactionSnapshot) : SlotEntry :=
  S.metadata.slot request.install.targetSlot

/-- How many commits of an install an entry is the work of. -/
inductive Made (request : TransactionalInstallRequest) (entry : SlotEntry) : Nat → Prop
  | fresh (state : entry.state ∈ [SlotState.empty, .bad, .confirmed]) : Made request entry 0
  | staged {manifest : ManifestView} (state : entry.state = .staging)
      (named : Named request manifest entry) : Made request entry 1
  | verified {manifest : ManifestView} (state : entry.state = .verified)
      (named : Named request manifest entry) : Made request entry 2
  | pending {manifest : ManifestView} (state : entry.state = .pending)
      (named : Named request manifest entry)
      (attempts : entry.bootAttempts = request.pendingAttempts) : Made request entry 3

/-- How far an install has come from where it started. -/
def Progress (request : TransactionalInstallRequest) (start S : TransactionSnapshot) : Prop :=
  ∃ steps, Advanced start S steps ∧ Made request (targetEntry request S) steps

/-! ### One commit -/

section Steps

variable {request : TransactionalInstallRequest} {start S : TransactionSnapshot} {w : World}
  {metadata : SlotMetadata} {target : UInt32} {manifest : ManifestView}

/-- In valid metadata the active slot is one of the slots, and it is confirmed. -/
theorem activeSlot_valid {metadata : SlotMetadata} (h : Storage.metadataIsValid metadata = true) :
    metadata.activeSlot < Storage.slotCount ∧
      (metadata.slot metadata.activeSlot).state = .confirmed := by
  simp only [Storage.metadataIsValid, Bool.and_eq_true, decide_eq_true_eq, beq_iff_eq] at h
  exact ⟨h.1.1.1.1.1.1.2, h.1.1.1.1.2⟩

/-- No commit of an install confirms a slot. -/
theorem InstallStep.edge (h : InstallStep request w S metadata target) : ∃ transition,
    Storage.Transitioned S.metadata transition metadata ∧ transition.nextState ≠ .confirmed := by
  cases h with
  | stage prepared fresh => exact ⟨_, prepared_stages prepared fresh, nofun⟩
  | verify staging parts_eq installed =>
      exact ⟨_, (installed_resumed staging parts_eq installed).2, nofun⟩
  | pend verified transition =>
      exact ⟨_, Storage.metadataTransition_eq_ok (mapStatus_eq_ok.mp transition), nofun⟩

theorem InstallStep.activeSlot (h : InstallStep request w S metadata target) :
    metadata.activeSlot = S.metadata.activeSlot := by
  obtain ⟨transition, htrans, hnext⟩ := h.edge
  rw [htrans.activeSlot, if_neg hnext]

/-- A commit of an install is one step further. -/
theorem Advanced.next {steps : Nat} (h : Advanced start S steps)
    (hstep : InstallStep request w S metadata target) (c : Committable (some S) metadata target) :
    Advanced start (successor (some S) metadata target) (steps + 1) where
  generation := by
    rw [c.successor_generation, h.generation]
    omega
  active := hstep.activeSlot.trans h.active
  kept := by
    obtain ⟨transition, htrans, -⟩ := hstep.edge
    rw [← h.kept, ← h.active]
    exact htrans.slot_other (activeSlot_valid htrans.valid).1 (Ne.symm htrans.inactive)

/-- The entry of an edge under the identity of a prepared manifest. -/
theorem named_of_transition {parts : Installer.Parts} {plan : InstallPlan} {next : SlotState}
    (prepared : Installer.Prepared (installAgainst request S) parts manifest plan)
    (htrans : Storage.Transitioned S.metadata (transitionTo next
      request.install.targetSlot manifest.bundleGeneration plan.manifestDigest plan.imageSetDigest
      parts.layout.identityDigest) metadata) :
    Named request manifest (metadata.slot request.install.targetSlot) := by
  obtain ⟨-, -, hgen, hman, hset, hlay⟩ := htrans.entry
  obtain ⟨-, -, hlay', -⟩ := installAgainst_parts prepared.parts_eq
  refine ⟨prepared.authorized, hgen, hman.trans prepared.manifestDigest, ?_,
    parts.layout, hlay', hlay⟩
  rw [show (metadata.slot request.install.targetSlot).imageSetDigest = plan.imageSetDigest from hset]
  exact prepared.imageSetDigest

/-- An entry that keeps its identity names what it named. -/
theorem Named.keeps {entry entry' : SlotEntry} (h : Named request manifest entry)
    (hsame : entry'.imageGeneration = entry.imageGeneration ∧
      entry'.manifestDigest = entry.manifestDigest ∧
      entry'.imageSetDigest = entry.imageSetDigest ∧ entry'.layoutDigest = entry.layoutDigest) :
    Named request manifest entry' := by
  obtain ⟨hgen, hman, hset, hlay⟩ := hsame
  obtain ⟨layout, hreq, hdig⟩ := h.layoutDigest
  refine ⟨h.authorized, hgen.trans h.imageGeneration, hman.trans h.manifestDigest, ?_,
    layout, hreq, hlay.trans hdig⟩
  rw [hset]
  exact h.imageSetDigest

/-- **Each commit of the install is the next one of the three.** -/
theorem Progress.step (h : Progress request start S)
    (hstep : InstallStep request w S metadata target) (c : Committable (some S) metadata target) :
    Progress request start (successor (some S) metadata target) := by
  obtain ⟨steps, advanced, made⟩ := h
  refine ⟨steps + 1, advanced.next hstep c, ?_⟩
  cases hstep with
  | stage prepared fresh =>
      have htrans := prepared_stages prepared fresh
      rw [prepared_state prepared] at fresh
      cases made with
      | fresh =>
          have named := named_of_transition prepared htrans
          exact .staged htrans.entry.1 named
      | staged state | verified state | pending state => simp [state] at fresh
  | verify staging parts_eq installed =>
      obtain ⟨prepared, htrans⟩ := installed_resumed staging parts_eq installed
      cases made with
      | staged =>
          have named := named_of_transition prepared htrans
          exact .verified htrans.entry.1 named
      | fresh state | verified state | pending state => simp [staging] at state
  | pend verified transition =>
      have htrans := Storage.metadataTransition_eq_ok (mapStatus_eq_ok.mp transition)
      cases made with
      | verified _ named =>
          exact .pending htrans.entry.1 (named.keeps (htrans.keeps_identity nofun)) htrans.entry.2.1
      | fresh state | staged state | pending state => simp [verified] at state

end Steps

/-! ### A run that finds the slot pending -/

section Again

variable {request : TransactionalInstallRequest} {S S' : TransactionSnapshot} {t u : World}
  {parts : Installer.Parts} {manifest : ManifestView} {plan : InstallPlan}

/-- Opening the journal reads, whatever it reads. -/
theorem transactionOpen_emits (journal : TransactionJournal) :
    Act.emits Cmd.IsRead (fun _ => True) (transactionOpen journal) := by
  have hread : ∀ {A : Type} {f : List UInt8 → Act TransactionStatus A} (offset : UInt64)
      (size : Nat), (∀ bytes, Act.emits Cmd.IsRead (fun _ => True) (f bytes)) →
      Act.emits Cmd.IsRead (fun _ => True) (providerReadExact journal offset size >>= f) := by
    intro A f offset size hf
    refine Act.emits_bind (Q := fun _ => True) ?_ (fun bytes _ => hf bytes) fun _ _ => trivial
    refine Act.emits_bind_command trivial fun transfer => ?_
    refine Act.emits_bind_refuseIf (fun _ => trivial) fun _ => ?_
    exact Act.emits_bind_refuseIf (fun _ => trivial) fun _ => Act.emits_pure trivial
  refine Act.emits_bind_refuseIf (fun _ => trivial) fun _ => ?_
  refine hread _ _ fun bytes0 => hread _ _ fun bytes1 => ?_
  refine Act.emits_bind_ofExcept (fun _ _ => trivial) fun found _ => ?_
  exact hread _ _ fun bytes => trivial

/-- Opening a journal at rest finds its snapshot, by reading. -/
theorem Settled.ran_open {journal : TransactionJournal}
    (h : Settled journal (t.media journal.provider.device) S) :
    ∃ l, Act.Ran machine (transactionOpen journal) t l S t ∧ ∀ c ∈ l, c.IsRead := by
  have hopen : Act.wpc machine (fun _ => True) (fun r t' => r = .ok S ∧ t' = t)
      (transactionOpen journal) t := by
    refine transactionOpen_wpc trivial ⟨?_, rfl⟩
    rw [show (journalView journal t).cached = _ from h.cached_eq]
    exact h.opens
  have hran : Act.Ran machine (transactionOpen journal) t
      (Act.trace machine (transactionOpen journal) t) S t :=
    ⟨Prod.ext hopen.post.1 hopen.post.2, rfl⟩
  exact ⟨_, hran, hran.emitted (transactionOpen_emits journal)⟩

/-- The metadata is the one part of a request that a retry finds changed. -/
theorem openRequest_again (h : openRequest (installAgainst request S) = .ok parts) :
    openRequest (installAgainst request S') =
      .ok { parts with currentMetadata := S'.metadata } := by
  obtain ⟨hbundle, hprov, hlay, -, hvalid⟩ := openRequest_eq_ok h
  have hparts : requestParts (installAgainst request S') =
      some { parts with currentMetadata := S'.metadata } := by
    unfold requestParts
    rw [show (installAgainst request S').bundle = _ from hbundle,
      show (installAgainst request S').provider = _ from hprov,
      show (installAgainst request S').layout = _ from hlay]
    rfl
  unfold openRequest
  rw [hparts]
  exact if_pos hvalid

/-- A request that was prepared once is prepared again where its slot is installed under its name. -/
theorem installPrepare_again
    (prepared : Installer.Prepared (installAgainst request S) parts manifest plan)
    (hactive : S'.metadata.activeSlot ≠ request.install.targetSlot)
    (hstate : (S'.metadata.slot request.install.targetSlot).state ∈
      [SlotState.staging, .verified, .pending])
    (hnamed : Named request manifest (S'.metadata.slot request.install.targetSlot)) :
    ∃ plan', installPrepare (installAgainst request S') = .ok plan' ∧
      plan'.resumeState = (S'.metadata.slot request.install.targetSlot).state := by
  obtain ⟨decision, hauth⟩ := prepared.authorized
  obtain ⟨layout, hlay, hdig⟩ := hnamed.layoutDigest
  have hsame : layout = parts.layout :=
    Option.some.inj (hlay.symm.trans (installAgainst_parts prepared.parts_eq).2.2.1)
  have hmatch : entryMatchesPlan (S'.metadata.slot request.install.targetSlot)
      manifest.bundleGeneration (sha256 manifest.bytes manifest.byteSize)
      (S'.metadata.slot request.install.targetSlot).imageSetDigest
      parts.layout.identityDigest = true := by
    simp [entryMatchesPlan, hnamed.imageGeneration, hnamed.manifestDigest, hdig, hsame]
  have hstag : stagingMetadataFor S'.metadata request.install.targetSlot
      manifest.bundleGeneration (sha256 manifest.bytes manifest.byteSize)
      (S'.metadata.slot request.install.targetSlot).imageSetDigest
      parts.layout.identityDigest = .ok S'.metadata := by
    unfold stagingMetadataFor
    simp only [List.mem_cons, List.not_mem_nil, or_false] at hstate
    rcases hstate with hstate | hstate | hstate <;> (rw [hstate]; exact if_pos hmatch)
  refine ⟨⟨(S'.metadata.slot request.install.targetSlot).state, request.install.targetSlot,
    manifest.componentCount, sha256 manifest.bytes manifest.byteSize,
    (S'.metadata.slot request.install.targetSlot).imageSetDigest, S'.metadata⟩, ?_, rfl⟩
  unfold installPrepare
  simp only [bind_eq_ok, refuse_eq_ok, mapStatus_eq_ok, pure_eq_ok, exists_const, Prod.exists]
  exact ⟨_, openRequest_again prepared.parts_eq, manifest, decision, hauth,
    by simpa using prepared.accepted, beq_eq_false_iff_ne.mpr hactive, _, hnamed.imageSetDigest, _,
    hstag, rfl⟩

/-- An install that succeeds has been prepared for the snapshot it found. -/
theorem prepared_of_ran {l : List Cmd} {result : TransactionalInstallResult}
    (h : Act.Ran machine (installTransactionally request) u l result t) :
    installRequestIsValid request = true ∧ ∃ S parts manifest plan,
      Prepared (installAgainst request S) parts manifest plan := by
  obtain ⟨_, _, _, _, hvalid, h, _⟩ := Act.ran_bind.mp h
  obtain ⟨_, _, S, _, _, h, _⟩ := Act.ran_bind.mp h
  obtain ⟨_, _, plan, _, hplan, _, _⟩ := Act.ran_bind.mp h
  obtain ⟨-, hvalid, -⟩ := Act.ran_refuseIf.mp hvalid
  obtain ⟨-, hplan, -⟩ := Act.ran_ofExcept.mp hplan
  obtain ⟨parts, manifest, prepared⟩ := installPrepare_eq_ok (mapStatus_eq_ok.mp hplan)
  exact ⟨by simpa using hvalid, S, parts, manifest, plan, prepared⟩

/-- **A run that finds the slot pending under its name returns and only reads.** -/
theorem ran_again (hvalid : installRequestIsValid request = true)
    (prepared : Prepared (installAgainst request S) parts manifest plan)
    (hsettled : Settled request.journal (t.media request.journal.provider.device) S')
    (hactive : S'.metadata.activeSlot ≠ request.install.targetSlot)
    (hstate : (targetEntry request S').state = .pending)
    (hnamed : Named request manifest (targetEntry request S')) :
    ∃ l result, Act.Ran machine (installTransactionally request) t l result t ∧
      ∀ c ∈ l, c.IsRead := by
  obtain ⟨l, hopen, hreads⟩ := hsettled.ran_open
  obtain ⟨plan', hplan, hpend⟩ :=
    installPrepare_again prepared hactive (by rw [hstate]; simp) hnamed
  rw [hstate] at hpend
  have hran : Act.Ran machine (installTransactionally request) t ([] ++ (l ++ ([] ++ [])))
      ⟨plan'.resumeState, request.install.targetSlot, plan'.componentCount, 0, 0, S'⟩ t := by
    refine Act.ran_bind.mpr ⟨[], _, (), t, Act.ran_refuseIf.mpr ⟨rfl, by simp [hvalid], rfl⟩, ?_, rfl⟩
    refine Act.ran_bind.mpr ⟨l, _, S', t, hopen, ?_, rfl⟩
    refine Act.ran_bind.mpr ⟨[], [], plan', t,
      Act.ran_ofExcept.mpr ⟨rfl, by rw [hplan]; rfl, rfl⟩, ?_, rfl⟩
    rw [if_pos (by simpa using hpend)]
    exact Act.ran_pure.mpr ⟨rfl, rfl, rfl⟩
  refine ⟨_, _, hran, ?_⟩
  simpa using hreads

end Again

/-! ### Whole runs -/

section Runs

variable (request : TransactionalInstallRequest) (start : TransactionSnapshot) (w₀ : World)
  (P : TransactionSnapshot → Prop)

/-- What an install may touch: the journal, and the slots that are not active. -/
def Touchable (a : Nat) : Prop :=
  InJournal request.journal a ∨ ∃ slot < Storage.slotCount, slot ≠ start.metadata.activeSlot ∧
    (Storage.slotRegion request.journal.layout slot).Contains a

/-- What was at rest in `w₀` and may not be touched is at rest and the same. -/
def Kept (t : World) : Prop :=
  ∀ a, ¬ Touchable request start a → ¬ (w₀.media request.journal.provider.device).dirty a →
    ¬ (t.media request.journal.provider.device).dirty a ∧
      (t.media request.journal.provider.device).durable a =
        (w₀.media request.journal.provider.device).durable a

/-- What a property of snapshots has to satisfy to hold all along an install. -/
structure Along : Prop where
  active : ∀ {S}, P S → S.metadata.activeSlot = start.metadata.activeSlot
  next : ∀ {S w metadata target}, P S → InstallStep request w S metadata target →
    Committable (some S) metadata target → P (successor (some S) metadata target)

/-- The journal is at rest on the way from `start`. -/
structure Underway (S : TransactionSnapshot) (t : World) : Prop where
  settled : Settled request.journal (t.media request.journal.provider.device) S
  holds : P S
  kept : Kept request start w₀ t

/-- Wherever power fails from here, the journal is found on the way from `start`. -/
structure Resumable (t : World) : Prop where
  opens : ∀ img, (journalView request.journal t).CrashTo scheme.Rejects img →
    ∃ S, openImage request.journal img = .ok S ∧ P S
  kept : Kept request start w₀ t

variable {request start w₀ P} {S : TransactionSnapshot} {w u t t' : World}
  {observer : ObserverState}

theorem Kept.within {R : Nat → Prop} (h : Kept request start w₀ w)
    (hwithin : Store.Within R (w.media request.journal.provider.device)
      (t.media request.journal.provider.device)) (hR : ∀ a, R a → Touchable request start a) :
    Kept request start w₀ t := by
  intro a haway hrest
  obtain ⟨hclean, hsame⟩ := h a haway hrest
  have hout : ¬ R a := mt (hR a) haway
  exact ⟨fun hdirty => hclean (hwithin.dirty a hout hdirty),
    (hwithin.durable a hout hclean).trans hsame⟩

/-- **The way of an install survives its moves.** -/
theorem Along.upheld (along : Along request start P) :
    Upheld request.journal (InstallStep request) (Resumable request start w₀ P)
      (Underway request start w₀ P) where
  settled h := h.settled
  rest h := ⟨fun img himg => ⟨_, h.settled.crash himg, h.holds⟩, h.kept⟩
  stage := by
    intro S w t metadata target h hstep c hstage
    refine ⟨fun img himg => ?_, h.kept.within hstage.within fun _ => .inl⟩
    rcases hstage.crash h.settled c himg with hold | hnew
    · exact ⟨S, hold, h.holds⟩
    · exact ⟨_, hnew, along.next h.holds hstep c⟩
  commit := by
    intro S w t metadata target h hstep c ht
    refine ⟨?_, along.next h.holds hstep c, h.kept.within ?_ fun _ => .inl⟩
    · rw [ht.media]
      exact h.settled.afterCommit c
    · rw [ht.media]
      exact committed_within _
  payload := by
    intro S w t target h _ hinact htgt ht
    refine ⟨h.settled.within ht.within, h.holds, h.kept.within ht.within fun a ha => .inr ?_⟩
    exact ⟨target, htgt, fun he => hinact ((along.active h.holds).trans he.symm), ha⟩

/-- A start behind a power cut finds the journal on its way. -/
theorem Resumable.recovered (h : Resumable request start w₀ P t)
    (hpower : PowerCut request.journal t t') : ∃ S, Underway request start w₀ P S t' := by
  obtain ⟨img, hbytes, hobjs, hmedia⟩ := hpower.media
  obtain ⟨S, hopen, hholds⟩ := h.opens _ hobjs
  refine ⟨S, ⟨?_, ?_⟩, hholds, fun a haway hrest => ⟨hpower.clean a, ?_⟩⟩
  · intro o hdirty
    obtain ⟨a, -, ha⟩ := hdirty
    exact hpower.clean a ha
  · rw [hmedia]
    exact hopen
  · obtain ⟨hclean, hsame⟩ := h.kept a haway hrest
    rw [hmedia]
    exact (hbytes.of_clean hclean).trans hsame

variable (along : Along request start P)
  (hsettled : Settled request.journal (w₀.media request.journal.provider.device) start)
  (hprov : request.install.provider = some request.journal.provider)
  (hlay : request.install.layout = some request.journal.layout) (runs : CutRuns request w₀ u)
include hsettled hprov hlay runs

include along in
/-- **However often the install is cut, the journal is on its way.** -/
theorem CutRuns.underway (hstart : P start) (observer : ObserverState) :
    ∃ S, Underway request start w₀ P S { u with observer := observer } := by
  induction runs generalizing observer with
  | none => exact ⟨start, hsettled, hstart, fun a _ hrest => ⟨hrest, rfl⟩⟩
  | cut _ earlier n power ih =>
      obtain ⟨S, hS⟩ := ih earlier
      have hcut := (installTransactionally_wpc along.upheld hS hprov hlay).inv n
      obtain ⟨S', hS'⟩ := hcut.recovered power
      exact ⟨S', hS'.settled, hS'.holds, hS'.kept⟩

/-- **Nothing else is touched.**  Cut any number of runs of an install over the journal's own layout
and provider, and stop the next one at any command.  Outside the inactive slot and the objects of
the journal, every byte that was at rest is at rest and what it was. -/
theorem install_frame (observer : ObserverState) (n : Nat) : Kept request start w₀
    (Act.cut machine n (installTransactionally request) { u with observer := observer }) := by
  have along : Along request start fun S => S.metadata.activeSlot = start.metadata.activeSlot :=
    ⟨id, fun same hstep _ => hstep.activeSlot.trans same⟩
  obtain ⟨S, hS⟩ := runs.underway along hsettled hprov hlay rfl observer
  exact ((installTransactionally_wpc along.upheld hS hprov hlay).inv n).kept

/-- **Retries converge.**  Start from a journal at rest that shows the target slot empty, bad or
confirmed.  Cut any number of runs of an install over the journal's own layout and provider, each at
any command, and let the next run succeed.  Then the journal is exactly three generations on, with
the target slot pending under the name of the manifest and with the attempts of the request.  The
active slot and its entry are as they were.  Another run returns and only reads. -/
theorem install_converges {result : TransactionalInstallResult}
    (hfresh : (targetEntry request start).state ∈ [SlotState.empty, .bad, .confirmed])
    (hlast : Act.exec machine (installTransactionally request) { u with observer := observer } =
      (.ok result, t)) :
    Settled request.journal (t.media request.journal.provider.device) result.snapshot ∧
      Advanced start result.snapshot 3 ∧
      (targetEntry request result.snapshot).state = .pending ∧
      (∃ manifest, Named request manifest (targetEntry request result.snapshot)) ∧
      (targetEntry request result.snapshot).bootAttempts = request.pendingAttempts ∧
      Kept request start w₀ t ∧
      ∀ observer', ∃ l result', Act.Ran machine (installTransactionally request)
        { t with observer := observer' } l result' { t with observer := observer' } ∧
        ∀ c ∈ l, c.IsRead := by
  have along : Along request start (Progress request start) :=
    ⟨fun ⟨_, advanced, _⟩ => advanced.active, Progress.step⟩
  obtain ⟨S, hS⟩ := runs.underway along hsettled hprov hlay ⟨0, ⟨rfl, rfl, rfl⟩, .fresh hfresh⟩
    observer
  have hran := Act.ran_of_exec hlast
  obtain ⟨S', hS', hsnap, hstate⟩ := hran.post
    (installTransactionally_wpc along.upheld hS hprov hlay)
  obtain ⟨hvalid, S₁, parts, manifest', plan, prepared⟩ := prepared_of_ran hran
  rw [hsnap]
  obtain ⟨steps, advanced, made⟩ := hS'.holds
  cases made with
  | fresh state | staged state | verified state => simp [hstate] at state
  | @pending manifest _ named attempts =>
      refine ⟨hS'.settled, advanced, hstate, ⟨manifest, named⟩, attempts, hS'.kept,
        fun observer' => ?_⟩
      -- the manifest is the one the request is authorized for, so it is the same in every run
      obtain ⟨decision, hauth⟩ := named.authorized
      obtain ⟨decision', hauth'⟩ := prepared.authorized
      cases hauth.symm.trans hauth'
      have hinact : S'.metadata.activeSlot ≠ request.install.targetSlot := by
        intro he
        have hconf := (activeSlot_valid (openImage_valid hS'.settled.opens)).2
        rw [he, hstate] at hconf
        cases hconf
      exact ran_again (t := { t with observer := observer' }) hvalid prepared hS'.settled hinact
        hstate named

end Runs

end Ribon.Transaction
