/-
What planning a boot leaves behind, whatever the callbacks answer.

Planning asks the timer, the protocol and the architecture, and nobody whose answer
lasts: it reads no source, writes no metadata and closes nothing.  `Planned` says
what a plan is made of, `Refused` what a failed call has changed.
-/
import Ribon.Boot.Transaction

namespace Ribon.Boot

open Crash

/-- Callbacks with an effect outside of the transaction. -/
def Callback.lasts : Callback → Bool
  | .read .. => true
  | .metadataWrite _ => true
  | .flush _ => true
  | .quiesce => true
  | .launch .. => true
  | .transferPrepared _ => true
  | _ => false

def Callback.isRead : Callback → Bool
  | .read .. => true
  | _ => false

def Callback.isLaunch : Callback → Bool
  | .launch .. => true
  | _ => false

def Callback.isTransfer : Callback → Bool
  | .transferPrepared _ => true
  | _ => false

/-- A callback that only informs. -/
abbrev Quiet (callback : Callback) : Prop := callback.lasts = false

/-- A failed call: the transaction is over and has used up no more than before. -/
structure Refused (start : BootTransaction) (failure : Failure) : Prop where
  stage : failure.transaction.stage = .failed
  core : failure.transaction.core.product = start.core.product
  output : failure.transaction.consumedOutputBytes = start.consumedOutputBytes

theorem refused_fail (start transaction : BootTransaction)
    (hcore : transaction.core.product = start.core.product)
    (hout : transaction.consumedOutputBytes = start.consumedOutputBytes) (stage : BootStage)
    (reason : BootFailureReason) (provider : Option (List UInt8)) (status : BootStatus) :
    Refused start (fail transaction stage reason provider status) :=
  ⟨rfl, hcore, hout⟩

variable {start : BootTransaction}

theorem Refused.congr {other : BootTransaction} {failure : Failure} (h : Refused other failure)
    (hcore : other.core.product = start.core.product)
    (hout : other.consumedOutputBytes = start.consumedOutputBytes) : Refused start failure :=
  ⟨h.stage, h.core.trans hcore, h.output.trans hout⟩

/-- How a step ends: with a result of which `P` holds, or with a failed call. -/
def Ends {A : Type} (start : BootTransaction) (P : A → Prop) : Except Failure A → Prop
  | .ok a => P a
  | .error failure => Refused start failure

section Emits

variable {E A B : Type} {G : Callback → Prop} {Q : Except E A → Prop}

theorem emits_bind_ask {callback : Callback} {f : Answer callback → Crash.Act Callback Answer E A}
    (hcallback : G callback) (h : ∀ answer, Act.emits G Q (f answer)) :
    Act.emits G Q (ask callback >>= f) :=
  Act.emits_bind_command hcallback h

theorem emits_bind_demand {value : Option B} {failure : E} {f : B → Crash.Act Callback Answer E A}
    (hnone : Q (.error failure)) (hsome : ∀ b, value = some b → Act.emits G Q (f b)) :
    Act.emits G Q (Act.ofExcept (demand value failure) >>= f) := by
  cases value with
  | none => exact hnone
  | some b => exact hsome b rfl

theorem mapError_ends {start : BootTransaction} {x : Crash.Act Callback Answer BootStatus A}
    {f : BootStatus → Failure} (hx : Act.emits G (fun _ => True) x)
    (hf : ∀ status, Refused start (f status)) :
    Act.emits G (Ends start fun _ => True) (Act.mapError f x) :=
  Act.emits_mapError hx (fun _ _ => trivial) fun status _ => hf status

end Emits

section Ends

variable {A B : Type} {start : BootTransaction} {P : A → Prop} {failure : Failure}

theorem ends_bind_refuse {bad : Bool} {f : Unit → Except Failure A}
    (hbad : Refused start failure) (hgood : bad = false → Ends start P (f ())) :
    Ends start P (refuse bad failure >>= f) := by
  cases bad with
  | true => exact hbad
  | false => exact hgood rfl

theorem ends_bind_demand {value : Option B} {f : B → Except Failure A}
    (hnone : Refused start failure) (hsome : ∀ b, value = some b → Ends start P (f b)) :
    Ends start P (demand value failure >>= f) := by
  cases value with
  | none => exact hnone
  | some b => exact hsome b rfl

theorem ends_bind_mapStatus {E : Type} {x : Except E B} {f : B → Except Failure A}
    (herror : Refused start failure) (hok : ∀ b, x = .ok b → Ends start P (f b)) :
    Ends start P (mapStatus (fun _ => failure) x >>= f) := by
  cases x with
  | error e => exact herror
  | ok b => exact hok b rfl

end Ends

/-! ### The steps of planning -/

theorem deadlineBegin_quiet (transaction : BootTransaction) (requestedMs : UInt64) :
    Act.emits Quiet (fun _ => True) (deadlineBegin transaction requestedMs) := by
  refine Act.emits_bind_refuseIf (fun _ => trivial) fun _ => ?_
  refine emits_bind_demand trivial fun frequency _ => ?_
  refine emits_bind_ask rfl fun answer => ?_
  exact emits_bind_demand trivial fun start _ => Act.emits_pure trivial

theorem deadlineEnd_quiet (deadline : Deadline) :
    Act.emits Quiet (fun _ => True) (deadlineEnd deadline) := by
  refine emits_bind_ask rfl fun answer => ?_
  refine emits_bind_demand trivial fun now _ => ?_
  unfold Act.refuseIf
  split
  · exact Act.emits_throw trivial
  · exact Act.emits_pure trivial

theorem tablePagesOf_quiet (transaction : BootTransaction) :
    Act.emits Quiet (fun result => ∃ pages, result = .ok pages) (tablePagesOf transaction) := by
  unfold tablePagesOf
  cases transaction.arch.directHighPageTablePages with
  | true => exact ⟨rfl, fun pages => ⟨pages, rfl⟩⟩
  | false => exact Act.emits_pure ⟨0, rfl⟩

/-- The transition is all that this step adds to the plan. -/
structure Transitioned (candidate plan : BootPlan) : Prop where
  flags : plan.environmentFlags = candidate.environmentFlags
  modules : plan.bootModuleCount = candidate.bootModuleCount
  layout : plan.kernelDirectLoadPlan = candidate.kernelDirectLoadPlan
  handoff : plan.handoffArtifactSize = candidate.handoffArtifactSize

theorem prepareTransition_quiet (transaction : BootTransaction) (candidate : BootPlan) :
    Act.emits Quiet (Ends transaction (Transitioned candidate))
      (prepareTransition transaction candidate) := by
  have hfail := refused_fail transaction transaction rfl rfl
  unfold prepareTransition
  dsimp only
  split
  · exact Act.emits_pure ⟨rfl, rfl, rfl, rfl⟩
  · refine Act.emits_bind (tablePagesOf_quiet transaction) ?_ ?_
    rotate_left
    · rintro failure ⟨_, hfalse⟩
      cases hfalse
    intro tablePages _
    refine Act.emits_bind_refuseIf (fun _ => hfail _ _ _ _) fun _ => ?_
    refine emits_bind_ask rfl fun answer => ?_
    refine emits_bind_demand (hfail _ _ _ _) fun entry _ => ?_
    refine Act.emits_bind_refuseIf (fun _ => hfail _ _ _ _) fun _ => ?_
    exact Act.emits_pure ⟨rfl, rfl, rfl, rfl⟩

/-- The handoff of this step: the caller's artifact and its size in the plan, which still
fits the output budget. -/
structure HandedOver (start : BootTransaction) (candidate : BootPlan)
    (result : BootTransaction × BootPlan) : Prop where
  same : result.1 = { start with
    input := { start.input with handoffArtifact := result.1.input.handoffArtifact } }
  flags : result.2.environmentFlags = candidate.environmentFlags
  modules : result.2.bootModuleCount = candidate.bootModuleCount
  layout : result.2.kernelDirectLoadPlan = candidate.kernelDirectLoadPlan
  budget : result.2.handoffArtifactSize = candidate.handoffArtifactSize ∨
    start.consumedOutputBytes.toNat + result.2.handoffArtifactSize.toNat ≤
      start.core.product.limits.maxHandoffBytes.toNat

theorem budget_of_checks {limit size consumed : UInt64} (hsize : ¬limit < size)
    (hleft : ¬limit - size < consumed) : consumed.toNat + size.toNat ≤ limit.toNat := by
  have hnat := UInt64.le_iff_toNat_le.mp (UInt64.not_lt.mp hsize)
  rw [UInt64.lt_iff_toNat_lt, toNat_sub_of_le] at hleft
  omega

theorem prepareHandoff_quiet (transaction : BootTransaction) (candidate : BootPlan) :
    Act.emits Quiet (Ends transaction (HandedOver transaction candidate))
      (prepareHandoff transaction candidate) := by
  have hfail := refused_fail transaction transaction rfl rfl
  unfold prepareHandoff
  split
  · exact Act.emits_pure ⟨rfl, rfl, rfl, rfl, .inl rfl⟩
  · refine emits_bind_ask rfl fun answer => ?_
    match answer with
    | .error .outOfCapacity => exact Act.emits_throw (hfail _ _ _ _)
    | .error .other => exact Act.emits_throw (hfail _ _ _ _)
    | .ok artifact =>
      refine Act.emits_bind_refuseIf (fun _ => hfail _ _ _ _) fun hchecks => ?_
      simp only [Bool.or_eq_false_iff, decide_eq_false_iff_not] at hchecks
      exact Act.emits_pure ⟨rfl, rfl, rfl, rfl, .inr (budget_of_checks hchecks.1.1 hchecks.2)⟩

/-- The terminal requirement is all that this step adds to the transaction. -/
structure Sealed (start t : BootTransaction) : Prop where
  same : t = { start with terminalRequest := t.terminalRequest, preparedEntry := t.preparedEntry }
  kind : t.terminalRequest.kind = start.protocol.terminalExecution

theorem prepareTerminal_quiet (transaction : BootTransaction) (candidate : BootPlan) :
    Act.emits Quiet (Ends transaction (Sealed transaction))
      (prepareTerminal transaction candidate) := by
  have hfail := refused_fail transaction (withoutTerminal transaction) rfl rfl
  unfold prepareTerminal
  refine emits_bind_ask rfl fun answer => ?_
  refine emits_bind_demand (hfail _ _ _ _) fun request _ => ?_
  refine Act.emits_bind_refuseIf (fun _ => hfail _ _ _ _) fun hreq => ?_
  have hkind : request.kind = transaction.protocol.terminalExecution := by
    simp only [Bool.or_eq_false_iff, bne_eq_false_iff_eq] at hreq
    exact hreq.2
  split
  · exact Act.emits_pure ⟨rfl, hkind⟩
  · refine emits_bind_ask rfl fun answer => ?_
    refine emits_bind_demand (hfail _ _ _ _) fun entry _ => ?_
    split
    · exact Act.emits_pure ⟨rfl, hkind⟩
    · refine Act.emits_bind_refuseIf (fun _ => hfail _ _ _ _) fun _ => ?_
      exact Act.emits_pure ⟨rfl, hkind⟩

/-! ### Planning -/

/-- The transaction without what planning writes. -/
def unplanned (t : BootTransaction) : BootTransaction :=
  { t with
    stage := .capture
    input := { t.input with handoffArtifact := none }
    plan := default
    terminalRequest := default
    preparedEntry := default
    consumedOutputBytes := 0 }

/-- A transaction with a plan: what it keeps of the one before, what the plan says of the
environment and the image, and what it costs. -/
structure Planned (start t : BootTransaction) : Prop where
  stage : t.stage = .prepareProtocol
  same : unplanned t = unplanned start
  core : t.core = start.core
  protocol : t.protocol = start.protocol
  environment : t.environment = start.environment
  components : t.consumedComponents = start.consumedComponents
  retries : t.consumedRetries = start.consumedRetries
  layout : t.input.directLoadPlan = start.input.directLoadPlan
  planFlags : t.plan.environmentFlags = start.environment.flags
  planModules : t.plan.bootModuleCount = start.environment.moduleCount
  planLayout : t.plan.kernelDirectLoadPlan = start.input.directLoadPlan
  kind : t.terminalRequest.kind = start.protocol.terminalExecution
  output : start.consumedOutputBytes ≤ start.core.product.limits.maxHandoffBytes →
    t.consumedOutputBytes ≤ start.core.product.limits.maxHandoffBytes

theorem le_of_budget {consumed size limit : UInt64} (h : consumed ≤ limit)
    (hsize : size = 0 ∨ consumed.toNat + size.toNat ≤ limit.toNat) : consumed + size ≤ limit := by
  obtain rfl | hsum := hsize
  · simpa using h
  · have hlimit := limit.toNat_lt
    rw [UInt64.le_iff_toNat_le, UInt64.toNat_add, Nat.mod_eq_of_lt (by omega)]
    exact hsum

theorem prepareProtocolPlan_quiet (transaction : BootTransaction) :
    Act.emits Quiet (Ends transaction (Planned transaction))
      (prepareProtocolPlan transaction) := by
  refine Act.emits_bind (mapError_ends (deadlineBegin_quiet _ _) fun status =>
    refused_fail transaction transaction rfl rfl _ _ _ _) ?_ fun _ h => h
  intro deadline _
  refine Act.emits_bind (prepareTransition_quiet _ _) ?_ fun _ h => h
  intro plan hplan
  refine Act.emits_bind (prepareHandoff_quiet _ _) ?_ fun _ h => h
  intro ⟨handed, candidate⟩ hhanded
  have hsame : handed = { transaction with
      input := { transaction.input with handoffArtifact := handed.input.handoffArtifact } } :=
    hhanded.same
  have hcore : handed.core.product = transaction.core.product := by rw [hsame]
  have hout : handed.consumedOutputBytes = transaction.consumedOutputBytes := by rw [hsame]
  refine Act.emits_bind (mapError_ends (deadlineEnd_quiet _) fun status =>
    refused_fail transaction handed hcore hout _ _ _ _) ?_ fun _ h => h
  intro _ _
  refine Act.emits_bind (prepareTerminal_quiet _ _) ?_ fun failure h => h.congr hcore hout
  intro t ht
  have hsize : candidate.handoffArtifactSize = 0 ∨
      transaction.consumedOutputBytes.toNat + candidate.handoffArtifactSize.toNat ≤
        transaction.core.product.limits.maxHandoffBytes.toNat := by
    obtain hzero | hbudget := hhanded.budget
    · exact .inl (hzero.trans hplan.handoff)
    · exact .inr hbudget
  refine Act.emits_pure ?_
  have hkind := ht.kind
  rw [ht.same, hsame]
  rw [hsame] at hkind
  exact {
    stage := rfl
    same := rfl
    core := rfl
    protocol := rfl
    environment := rfl
    components := rfl
    retries := rfl
    layout := rfl
    planFlags := hhanded.flags.trans hplan.flags
    planModules := hhanded.modules.trans hplan.modules
    planLayout := hhanded.layout.trans hplan.layout
    kind := hkind
    output := fun h => le_of_budget h hsize }

/-! ### Preparing -/

/-- A transaction whose input is frozen: the environment is one that the protocol admits. -/
structure Captured (start : BootTransaction) (input : BootTransactionInput)
    (t : BootTransaction) : Prop where
  stage : start.stage = .capture
  fits : inputFits start.protocol input = true
  admitted : environmentIsAdmitted start t.environment = true
  given : input.environment = some t.environment
  layout : t.input.directLoadPlan = input.directLoadPlan
  product : t.core.product = start.core.product
  protocol : t.protocol = start.protocol
  output : t.consumedOutputBytes = start.consumedOutputBytes

theorem capture_ends (transaction : BootTransaction) (arena : Arena)
    (input : BootTransactionInput) :
    Ends transaction (Captured transaction input) (capture transaction arena input) := by
  refine ends_bind_refuse ⟨rfl, rfl, rfl⟩ fun hinput => ?_
  refine ends_bind_refuse ⟨rfl, rfl, rfl⟩ fun _ => ?_
  refine ends_bind_demand ⟨rfl, rfl, rfl⟩ fun environment henv => ?_
  refine ends_bind_refuse ⟨rfl, rfl, rfl⟩ fun hadm => ?_
  refine ends_bind_demand ⟨rfl, rfl, rfl⟩ fun destination _ => ?_
  refine ends_bind_mapStatus ⟨rfl, rfl, rfl⟩ fun normalized _ => ?_
  refine ends_bind_demand ⟨rfl, rfl, rfl⟩ fun source _ => ?_
  refine ends_bind_refuse ⟨rfl, rfl, rfl⟩ fun _ => ?_
  refine ends_bind_refuse ⟨rfl, rfl, rfl⟩ fun _ => ?_
  simp only [Bool.not_eq_false', inputIsComplete, Bool.and_eq_true, beq_iff_eq] at hinput
  simp only [Bool.not_eq_false'] at hadm
  exact {
    stage := by tauto
    fits := by tauto
    admitted := hadm
    given := henv
    layout := rfl
    product := rfl
    protocol := rfl
    output := rfl }

variable {log : List (Entry Callback Answer)}

/-- The read loop reads and does nothing else, at most once more than it has retries. -/
theorem readSource_logs {transaction : BootTransaction} {deadline : UInt64} {retries : Nat}
    {result : Except Failure (BootTransaction × List UInt8)}
    (h : (readSource transaction deadline retries).Logs log result) :
    (∀ entry ∈ log, entry.1.isRead = true) ∧ log.length ≤ retries + 1 ∧
      Ends transaction (fun pair => pair.1 =
        { transaction with consumedRetries := pair.1.consumedRetries }) result := by
  induction retries generalizing transaction log with
  | zero =>
    obtain ⟨answer, rest, rfl, hrest⟩ := h
    cases answer with
    | none =>
      obtain ⟨rfl, rfl⟩ := hrest
      exact ⟨by simp [Callback.isRead], by simp, rfl, rfl, rfl⟩
    | some bytes =>
      obtain ⟨rfl, rfl⟩ := hrest
      exact ⟨by simp [Callback.isRead], by simp, rfl⟩
  | succ retries ih =>
    obtain ⟨answer, rest, rfl, hrest⟩ := h
    cases answer with
    | none =>
      obtain ⟨hreads, hlen, hends⟩ := ih hrest
      refine ⟨List.forall_mem_cons.mpr ⟨rfl, hreads⟩, by simpa using hlen, ?_⟩
      cases result with
      | ok pair => exact hends
      | error failure => exact ⟨hends.stage, hends.core, hends.output⟩
    | some bytes =>
      obtain ⟨rfl, rfl⟩ := hrest
      exact ⟨by simp [Callback.isRead], by simp, rfl⟩

/-- A transaction with its image.  A direct entry has a load plan, whose segments fit beside
the modules; a managed image counts as one component. -/
structure Loaded (start t : BootTransaction) : Prop where
  core : t.core = start.core
  protocol : t.protocol = start.protocol
  environment : t.environment = start.environment
  output : t.consumedOutputBytes = start.consumedOutputBytes
  direct : start.protocol.terminalExecution = .directEntry → ∃ plan,
    t.input.directLoadPlan = some plan ∧
      componentsFit start.core.product.limits plan.segmentCount start.environment.moduleCount =
        true ∧
      t.consumedComponents = (plan.segmentCount + start.environment.moduleCount).toUInt32
  managed : start.protocol.terminalExecution ≠ .directEntry →
    t.input.directLoadPlan = start.input.directLoadPlan ∧
      t.consumedComponents = (1 + start.environment.moduleCount).toUInt32

theorem placeDirectLoad_quiet (start transaction : BootTransaction) (image : ValidatedImage)
    (plan : DirectLoadPlan) {failure : Failure} (hfailure : Refused start failure) :
    Act.emits Quiet (Ends start fun _ => True)
      (placeDirectLoad transaction image plan failure) := by
  refine Act.emits_bind_ofExcept ?_ fun placed _ => ?_
  · intro error herror
    cases happly : applyRelocatablePlacement transaction.core.services plan with
    | ok placed =>
      rw [happly] at herror
      cases herror
    | error status =>
      rw [happly] at herror
      cases herror
      exact hfailure
  · refine emits_bind_ask rfl fun answer => ?_
    match answer with
    | none => exact hfailure
    | some plan => exact trivial

theorem loadImage_quiet (transaction : BootTransaction) :
    Act.emits Quiet (Ends transaction (Loaded transaction)) (loadImage transaction) := by
  have hfail := refused_fail transaction transaction rfl rfl
  unfold loadImage
  refine emits_bind_ask rfl fun answer => ?_
  refine emits_bind_demand (hfail _ _ _ _) fun found _ => ?_
  refine Act.emits_bind_refuseIf (fun _ => hfail _ _ _ _) fun _ => ?_
  split
  next hdir =>
    refine Act.emits_bind (placeDirectLoad_quiet transaction _ _ _ (hfail _ _ _ _)) ?_
      fun _ h => h
    intro plan _
    refine Act.emits_bind_refuseIf (fun _ => ⟨rfl, rfl, rfl⟩) fun hfit => ?_
    refine Act.emits_pure ⟨rfl, rfl, rfl, rfl, fun _ => ⟨plan, rfl, ?_, rfl⟩, ?_⟩
    · simpa using hfit
    · intro hmanaged
      exact absurd hdir hmanaged
  next hmanaged =>
    refine Act.emits_bind_refuseIf (fun _ => hfail _ _ _ _) fun _ => ?_
    refine Act.emits_pure ⟨rfl, rfl, rfl, rfl, ?_, fun _ => ⟨rfl, rfl⟩⟩
    intro hdir
    exact absurd hdir hmanaged

/-- A prepared transaction, against the one it started from. -/
structure Prepared (start : BootTransaction) (input : BootTransactionInput)
    (t : BootTransaction) : Prop where
  fresh : start.stage = .capture
  stage : t.stage = .prepareProtocol
  product : t.core.product = start.core.product
  protocol : t.protocol = start.protocol
  kind : t.terminalRequest.kind = start.protocol.terminalExecution
  output : start.consumedOutputBytes ≤ start.core.product.limits.maxHandoffBytes →
    t.consumedOutputBytes ≤ start.core.product.limits.maxHandoffBytes
  given : input.environment = some t.environment
  admitted : environmentIsAdmitted start t.environment = true
  planFlags : t.plan.environmentFlags = t.environment.flags
  planModules : t.plan.bootModuleCount = t.environment.moduleCount
  planLayout : t.plan.kernelDirectLoadPlan = t.input.directLoadPlan
  direct : start.protocol.terminalExecution = .directEntry → ∃ plan,
    t.input.directLoadPlan = some plan ∧
      componentsFit start.core.product.limits plan.segmentCount t.environment.moduleCount = true ∧
      t.consumedComponents = (plan.segmentCount + t.environment.moduleCount).toUInt32
  managed : start.protocol.terminalExecution = .firmwareManagedImage →
    t.input.directLoadPlan = none ∧
      t.consumedComponents = (1 + t.environment.moduleCount).toUInt32

variable {input : BootTransactionInput}

theorem prepareImage_quiet {read : BootTransaction} (hread : Captured start input read)
    (deadline : Deadline) (bytes : List UInt8) :
    Act.emits Quiet (Ends start (Prepared start input)) (prepareImage read deadline bytes) := by
  unfold prepareImage
  refine Act.emits_bind (mapError_ends (deadlineEnd_quiet _) fun status =>
    ⟨rfl, hread.product, hread.output⟩) ?_ fun _ h => h
  intro _ _
  refine Act.emits_bind (loadImage_quiet _) ?_ fun failure h =>
    h.congr hread.product hread.output
  intro loaded hloaded
  have hprod : loaded.core.product = start.core.product := by
    rw [hloaded.core]
    exact hread.product
  have hout : loaded.consumedOutputBytes = start.consumedOutputBytes :=
    hloaded.output.trans hread.output
  have hproto : loaded.protocol = start.protocol := hloaded.protocol.trans hread.protocol
  refine (prepareProtocolPlan_quiet loaded).mono (fun _ h => h) fun result hres => ?_
  cases result with
  | error failure => exact Refused.congr hres hprod hout
  | ok t =>
    have hplanned : Planned loaded t := hres
    have henv : t.environment = read.environment :=
      hplanned.environment.trans hloaded.environment
    exact {
      fresh := hread.stage
      stage := hplanned.stage
      product := by rw [hplanned.core, hprod]
      protocol := hplanned.protocol.trans hproto
      kind := by rw [hplanned.kind, hproto]
      output := by
        intro hstart
        rw [← hprod, ← hout] at hstart
        rw [← hprod]
        exact hplanned.output hstart
      given := by rw [henv, hread.given]
      admitted := by rw [henv, hread.admitted]
      planFlags := by rw [hplanned.planFlags, hplanned.environment]
      planModules := by rw [hplanned.planModules, hplanned.environment]
      planLayout := by rw [hplanned.planLayout, hplanned.layout]
      direct := by
        intro hdir
        rw [hplanned.layout, hplanned.components, henv, ← hread.product]
        exact hloaded.direct (hread.protocol ▸ hdir)
      managed := by
        intro hmanaged
        have hnot : start.protocol.terminalExecution ≠ .directEntry := by
          rw [hmanaged]
          nofun
        have hplan : input.directLoadPlan = none := by
          have hfits := hread.fits
          simp only [inputFits, hmanaged, Bool.and_eq_true, Option.isNone_iff_eq_none] at hfits
          exact hfits.1.1.1
        obtain ⟨hlay, hcomps⟩ := hloaded.managed (hread.protocol ▸ hnot)
        rw [hplanned.layout, hplanned.components, henv, hlay, hcomps]
        exact ⟨hread.layout.trans hplan, rfl⟩ }

theorem count_reads_quiet (h : ∀ entry ∈ log, Quiet entry.1) :
    log.countP (fun entry => entry.1.isRead) = 0 := by
  rw [List.countP_eq_zero]
  intro entry hentry hread
  have hquiet : entry.1.lasts = false := h entry hentry
  cases hcallback : entry.1 <;> simp [hcallback, Callback.isRead, Callback.lasts] at hread hquiet

/-- **Preparing.**  It reads the source at most once more than the product allows retries,
and everything else it asks is quiet. -/
theorem prepare_logs {arena : Arena} {result : Except Failure BootTransaction}
    (h : (prepare start arena input).Logs log result) :
    (∀ entry ∈ log, entry.1.isRead = true ∨ Quiet entry.1) ∧
      log.countP (fun entry => entry.1.isRead) ≤
        start.core.product.limits.maxRetries.toNat + 1 ∧
      (start.stage ≠ .capture → log = []) ∧ Ends start (Prepared start input) result := by
  have hcap := capture_ends start arena input
  unfold prepare at h
  cases hfrozen : capture start arena input with
  | error failure =>
    rw [hfrozen] at h hcap
    obtain ⟨rfl, rfl⟩ := h
    exact ⟨by simp, by simp, fun _ => rfl, hcap⟩
  | ok frozen =>
    rw [hfrozen] at h hcap
    have hfrozen : Captured start input frozen := hcap
    have hstage : start.stage ≠ .capture → log = [] := fun hstage => absurd hfrozen.stage hstage
    have hrefused : ∀ stage reason provider status,
        Refused start (fail frozen stage reason provider status) :=
      refused_fail start frozen hfrozen.product hfrozen.output
    obtain ⟨_, h, _⟩ | ⟨_, log', a, rfl, hpure, h⟩ := Act.logs_bind.mp h
    · exact absurd (Act.logs_ofExcept.mp h).2 nofun
    obtain ⟨rfl, ha⟩ := Act.logs_ofExcept.mp hpure
    cases ha
    rw [List.nil_append] at hstage ⊢
    obtain ⟨_, rfl, rfl⟩ | ⟨_, h⟩ := Act.logs_bind_refuseIf.mp h
    · exact ⟨by simp, by simp, hstage, hrefused _ _ _ _⟩
    have hbegin := mapError_ends (deadlineBegin_quiet frozen frozen.bootSource.deadlineMs)
      fun _ => hrefused .loadImage .timeout (some frozen.bootSource.id) .timeout
    obtain ⟨failure, hasked, rfl⟩ | ⟨asked, log', deadline, rfl, hasked, hloop⟩ :=
      Act.logs_bind.mp h
    · obtain ⟨hquiet, hends⟩ := hbegin.logs hasked
      exact ⟨fun entry hentry => .inr (hquiet entry hentry),
        by rw [count_reads_quiet hquiet]; omega, hstage, hends⟩
    have hasked := (hbegin.logs hasked).1
    obtain ⟨failure, hread, rfl⟩ | ⟨reads, tail, pair, rfl, hread, htail⟩ :=
      Act.logs_bind.mp hloop
    · obtain ⟨hreads, hlen, hends⟩ := readSource_logs hread
      refine ⟨?_, ?_, hstage, Refused.congr hends hfrozen.product hfrozen.output⟩
      · exact List.forall_mem_append.mpr
          ⟨fun entry hentry => .inr (hasked entry hentry),
            fun entry hentry => .inl (hreads entry hentry)⟩
      · have hcount := log'.countP_le_length (p := fun entry => entry.1.isRead)
        rw [List.countP_append, count_reads_quiet hasked, ← hfrozen.product]
        omega
    obtain ⟨hreads, hlen, hends⟩ := readSource_logs hread
    have hcaptured : Captured start input pair.1 := by
      rw [show pair.1 = _ from hends]
      exact ⟨hfrozen.stage, hfrozen.fits, hfrozen.admitted, hfrozen.given, hfrozen.layout,
        hfrozen.product, hfrozen.protocol, hfrozen.output⟩
    obtain ⟨hquiet, hends⟩ := (prepareImage_quiet hcaptured deadline pair.2).logs htail
    refine ⟨?_, ?_, hstage, hends⟩
    · simp only [List.forall_mem_append]
      exact ⟨fun entry hentry => .inr (hasked entry hentry),
        fun entry hentry => .inl (hreads entry hentry),
        fun entry hentry => .inr (hquiet entry hentry)⟩
    · have hcount := reads.countP_le_length (p := fun entry => entry.1.isRead)
      rw [List.countP_append, List.countP_append, count_reads_quiet hasked,
        count_reads_quiet hquiet, ← hfrozen.product]
      omega

/-- A prepare that goes through, from the frozen input to the plan. -/
theorem prepare_ok {u : BootTransaction} {arena : Arena}
    (h : (prepare start arena input).Logs log (.ok u)) :
    ∃ frozen retries bytes loaded before loading planning,
      capture start arena input = .ok frozen ∧ log = before ++ (loading ++ planning) ∧
      (loadImage { frozen with
        consumedRetries := retries
        consumedInputBytes := frozen.consumedInputBytes + frozen.input.sourceSize
        payload := ⟨bytes, frozen.input.sourceSize, frozen.input.sourceName⟩ }).Logs loading
          (.ok loaded) ∧
      (prepareProtocolPlan loaded).Logs planning (.ok u) := by
  simp only [prepare, prepareImage, Act.logs_bind_ok, Act.logs_ofExcept_ok,
    Act.logs_refuseIf_ok] at h
  obtain ⟨_, _, frozen, rfl, ⟨rfl, hfrozen⟩, _, _, _, rfl, ⟨rfl, -⟩, log₁, _, deadline, rfl, -, reads,
    _, ⟨read, bytes⟩, rfl, hread, log₂, _, _, rfl, -, loading, planning, loaded, rfl, hloading,
    hplanning⟩ := h
  have hread : read = { frozen with consumedRetries := read.consumedRetries } :=
    (readSource_logs hread).2.2
  rw [hread] at hloading
  exact ⟨frozen, _, bytes, loaded, log₁ ++ (reads ++ log₂), loading, planning, hfrozen, by simp,
    hloading, hplanning⟩

end Ribon.Boot
