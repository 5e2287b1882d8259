/-
The order of a boot, over every sequence of calls and every answer.

A transaction is driven by calls in any order.  As long as no call has failed, the
calls so far are a prepare, a commit, refreshes and a quiesce, or the beginning of
such a sequence; a call that fails ends the transaction, and from then on nothing is
called out any more.  The order of transfer and launch, the bound on the reads and
the output budget are read off that.
-/
import Ribon.Boot.Planning

namespace Ribon.Boot

open Crash

/-- The calls that come back. -/
inductive Call where
  | prepare (arena : Arena) (input : BootTransactionInput)
  | commitAttempt
  | refreshAfterCommit (environment : BootEnvironment)
  | quiesceEnvironment
  | executeTerminal

def perform : Call → BootTransaction → Step BootTransaction
  | .prepare arena input, transaction => prepare transaction arena input
  | .commitAttempt, transaction => commitAttempt transaction
  | .refreshAfterCommit environment, transaction => refreshAfterCommit transaction environment
  | .quiesceEnvironment, transaction => quiesceEnvironment transaction
  | .executeTerminal, transaction => executeTerminal transaction

/-- The transaction that a call leaves, whether it failed or not. -/
def leaves : Except Failure BootTransaction → BootTransaction
  | .ok transaction => transaction
  | .error failure => failure.transaction

/-- A call that came back: on what, with which callbacks and answers, and how. -/
structure Event where
  call : Call
  before : BootTransaction
  log : List (Entry Callback Answer)
  result : Except Failure BootTransaction

namespace Event

def after (event : Event) : BootTransaction := leaves event.result

def Ok (event : Event) : Prop := ∃ transaction, event.result = .ok transaction

def Calls (event : Event) (P : Callback → Prop) : Prop := ∃ entry ∈ event.log, P entry.1

def IsPrepare (event : Event) : Prop := event.Ok ∧ ∃ arena input, event.call = .prepare arena input

/-- A record was written, and after that a flush was done; both reported OK. -/
def Durable (log : List (Entry Callback Answer)) : Prop :=
  ∃ record deadline first second third,
    log = first ++ ⟨.metadataWrite record, true⟩ :: second ++ ⟨.flush deadline, true⟩ :: third

def IsCommit (event : Event) : Prop :=
  event.Ok ∧ event.call = .commitAttempt ∧ Durable event.log

def IsRefresh (event : Event) : Prop :=
  event.Ok ∧ ∃ environment, event.call = .refreshAfterCommit environment

def IsQuiesce (event : Event) : Prop := event.Ok ∧ event.call = .quiesceEnvironment

end Event

/-- The calls made on a transaction, the last one last, and what they leave. -/
inductive Run (start : BootTransaction) : List Event → BootTransaction → Prop
  | start : Run start [] start
  | call {events : List Event} {t : BootTransaction} (call : Call)
      {log : List (Entry Callback Answer)} {result : Except Failure BootTransaction}
      (hrun : Run start events t) (hlog : (perform call t).Logs log result) :
      Run start (events ++ [⟨call, t, log, result⟩]) (leaves result)

/-! ### One call -/

section Calls

variable {t : BootTransaction} {log : List (Entry Callback Answer)}
  {result : Except Failure BootTransaction}

variable {callback : Callback}

theorem logs_bind_ask {E A : Type} {f : Answer callback → Crash.Act Callback Answer E A}
    {log : List (Entry Callback Answer)} {result : Except E A} :
    Act.Logs (ask callback >>= f) log result ↔
      ∃ answer rest, log = ⟨callback, answer⟩ :: rest ∧ Act.Logs (f answer) rest result :=
  Iff.rfl

/-- A call whose first check fails calls nobody. -/
theorem logs_refused {E A : Type} {bad : Bool} {e : E} {f : Unit → Crash.Act Callback Answer E A}
    {result : Except E A} (h : (Act.refuseIf bad e >>= f).Logs log result) (hbad : bad = true) :
    log = [] := by
  subst hbad
  obtain ⟨_, hlog, _⟩ | ⟨⟨⟩, _⟩ := Act.logs_bind_refuseIf.mp h
  exact hlog

/-- What a refresh makes: the plan of the new environment. -/
def Refreshed (t : BootTransaction) (environment : BootEnvironment) (u : BootTransaction) : Prop :=
  t.stage = .commitAttempt ∧ t.terminalRequest.kind = .directEntry ∧
    ∃ normalized planned, u = { planned with stage := .commitAttempt } ∧
      Planned { t with
        environment := environment
        input := { t.input with normalizedMemoryMap := some normalized } } planned

theorem refreshAfterCommit_quiet (t : BootTransaction) (environment : BootEnvironment) :
    Act.emits Quiet (Ends t (Refreshed t environment)) (refreshAfterCommit t environment) := by
  refine Act.emits_bind_refuseIf (fun _ => ⟨rfl, rfl, rfl⟩) fun hchecks => ?_
  simp only [Bool.or_eq_false_iff, bne_eq_false_iff_eq] at hchecks
  refine emits_bind_demand ⟨rfl, rfl, rfl⟩ fun destination _ => ?_
  refine Act.emits_bind_ofExcept ?_ fun normalized _ => ?_
  · intro failure hfailure
    cases hnormalize : memoryMapNormalize environment.memoryMap destination with
    | ok normalized =>
      rw [hnormalize] at hfailure
      cases hfailure
    | error status =>
      rw [hnormalize] at hfailure
      cases hfailure
      exact ⟨rfl, rfl, rfl⟩
  · refine Act.emits_bind (prepareProtocolPlan_quiet _) ?_ fun failure h => h.congr rfl rfl
    intro planned hplan
    exact Act.emits_pure ⟨hchecks.1.1.1, hchecks.1.1.2, normalized, planned, rfl, hplan⟩

/-- Callbacks of a commit: neither a read nor a launch nor a transfer. -/
def Commits (callback : Callback) : Prop :=
  callback.isRead = false ∧ callback.isLaunch = false ∧ callback.isTransfer = false

theorem Quiet.commits (h : Quiet callback) : Commits callback := by
  cases callback <;> first | exact ⟨rfl, rfl, rfl⟩ | cases h

theorem quiet_of_read_or_quiet (h : callback.isRead = true ∨ Quiet callback) :
    callback.isLaunch = false ∧ callback.isTransfer = false := by
  cases callback <;> simp [Quiet, Callback.isRead, Callback.isLaunch, Callback.isTransfer,
    Callback.lasts] at h ⊢

theorem commitAttempt_emits (t : BootTransaction) :
    Act.emits Commits (Ends t fun u => t.stage = .prepareProtocol ∧
      u = { t with stage := .commitAttempt }) (commitAttempt t) := by
  have hfail := refused_fail t t rfl rfl
  have hbegin := (mapError_ends (deadlineBegin_quiet t t.metadata.deadlineMs)
    fun _ => hfail .commitAttempt .commit (some t.metadata.id) .providerFailure)
  refine Act.emits_bind_refuseIf (fun _ => hfail _ _ _ _) fun hstage => ?_
  refine Act.emits_bind_refuseIf (fun _ => hfail _ _ _ _) fun _ => ?_
  refine Act.emits_bind (hbegin.mono (fun _ h => h.commits) fun _ h => h) ?_ fun _ h => h
  intro deadline _
  refine emits_bind_ask ⟨rfl, rfl, rfl⟩ fun written => ?_
  refine Act.emits_bind_refuseIf (fun _ => hfail _ _ _ _) fun _ => ?_
  refine emits_bind_ask ⟨rfl, rfl, rfl⟩ fun flushed => ?_
  refine Act.emits_bind_refuseIf (fun _ => hfail _ _ _ _) fun _ => ?_
  refine Act.emits_bind ((mapError_ends (deadlineEnd_quiet deadline)
    fun _ => hfail .commitAttempt .commit (some t.metadata.id) .providerFailure).mono
      (fun _ h => h.commits) fun _ h => h) ?_ fun _ h => h
  intro _ _
  exact Act.emits_pure ⟨by simpa using hstage, rfl⟩

/-- A commit that succeeds has written its record and then flushed it. -/
theorem commitAttempt_durable {u : BootTransaction} (h : (commitAttempt t).Logs log (.ok u)) :
    Event.Durable log := by
  obtain ⟨log₁, _, _, rfl, -, h₁⟩ := Act.logs_bind_ok.mp h
  obtain ⟨log₂, _, _, rfl, -, h₂⟩ := Act.logs_bind_ok.mp h₁
  obtain ⟨log₃, _, deadline, rfl, -, h₃⟩ := Act.logs_bind_ok.mp h₂
  obtain ⟨written, _, rfl, h₄⟩ := logs_bind_ask.mp h₃
  obtain ⟨log₄, _, _, rfl, hwritten, h₅⟩ := Act.logs_bind_ok.mp h₄
  obtain ⟨flushed, _, rfl, h₆⟩ := logs_bind_ask.mp h₅
  obtain ⟨log₅, third, _, rfl, hflushed, -⟩ := Act.logs_bind_ok.mp h₆
  have hwritten : written = true :=
    Eq.mp (Bool.not_eq_false' written) (Act.logs_refuseIf_ok.mp hwritten).2
  have hflushed : flushed = true :=
    Eq.mp (Bool.not_eq_false' flushed) (Act.logs_refuseIf_ok.mp hflushed).2
  refine ⟨attemptRecord t, deadline.absoluteTicks, log₁ ++ (log₂ ++ log₃), log₄, log₅ ++ third, ?_⟩
  rw [hwritten, hflushed]
  simp

/-- Closing the environment is all that this call does outside. -/
theorem quiesceEnvironment_emits (t : BootTransaction) :
    Act.emits (fun callback => callback = .quiesce) (Ends t fun u => t.stage = .commitAttempt ∧
      u = { t with stage := .quiesceEnvironment }) (quiesceEnvironment t) := by
  have hfail := refused_fail t t rfl rfl
  refine Act.emits_bind_refuseIf (fun _ => hfail _ _ _ _) fun hstage => ?_
  refine Act.emits_bind_refuseIf (fun _ => hfail _ _ _ _) fun _ => ?_
  refine Act.emits_bind_refuseIf (fun _ => hfail _ _ _ _) fun _ => ?_
  refine emits_bind_ask rfl fun closed => ?_
  refine Act.emits_bind_refuseIf (fun _ => hfail _ _ _ _) fun _ => ?_
  exact Act.emits_pure ⟨by simpa using hstage, rfl⟩

/-- A launch that comes back has failed; it was the only one, for a managed image. -/
theorem executeTerminal_logs (h : (executeTerminal t).Logs log result) :
    Ends t (fun _ => False) result ∧ (log = [] ∨ (t.stage = .commitAttempt ∧
      t.terminalRequest.kind = .firmwareManagedImage ∧
        ∃ answer, log = [⟨.launch t.validatedImage t.terminalRequest.managedImage, answer⟩])) := by
  obtain ⟨_, rfl, rfl⟩ | ⟨hchecks, h⟩ := Act.logs_bind_refuseIf.mp h
  · exact ⟨⟨rfl, rfl, rfl⟩, .inl rfl⟩
  obtain ⟨_, rfl, rfl⟩ | ⟨_, h⟩ := Act.logs_bind_refuseIf.mp h
  · exact ⟨⟨rfl, rfl, rfl⟩, .inl rfl⟩
  obtain ⟨answer, rest, rfl, hrest⟩ := logs_bind_ask.mp h
  obtain ⟨rfl, rfl⟩ := Act.logs_throw.mp hrest
  simp only [Bool.or_eq_false_iff, bne_eq_false_iff_eq] at hchecks
  exact ⟨⟨rfl, rfl, rfl⟩, .inr ⟨hchecks.1.1, hchecks.1.2, answer, rfl⟩⟩

/-- Control is only given away after the environment was closed. -/
theorem transfer_logs {log : List (Entry Callback Answer)} (h : (transfer t).Logs log ()) :
    (∀ entry ∈ log, entry.1 = .halt ∨ entry.1 = .transferPrepared t.preparedEntry) ∧
      (∀ entry ∈ log, entry.1.lasts = true → t.stage = .quiesceEnvironment) := by
  unfold transfer at h
  split at h
  · obtain ⟨_, _, rfl, rfl, _⟩ := h
    exact ⟨by simp, by simp [Callback.lasts]⟩
  next hchecks =>
    simp only [Bool.or_eq_true, bne_iff_ne, ne_eq, not_or, not_not] at hchecks
    obtain ⟨_, _, rfl, _, _, rfl, rfl, _⟩ := h
    exact ⟨by simp, fun _ _ _ => hchecks.1.1⟩

/-- The calls that succeed, each from its stage to the next. -/
inductive Advance : Call → List (Entry Callback Answer) → BootStage → BootStage → Prop
  | prepare (arena : Arena) (input : BootTransactionInput) (log : List (Entry Callback Answer)) :
      Advance (.prepare arena input) log .capture .prepareProtocol
  | commitAttempt {log : List (Entry Callback Answer)} (h : Event.Durable log) :
      Advance .commitAttempt log .prepareProtocol .commitAttempt
  | refreshAfterCommit (environment : BootEnvironment) (log : List (Entry Callback Answer)) :
      Advance (.refreshAfterCommit environment) log .commitAttempt .commitAttempt
  | quiesceEnvironment (log : List (Entry Callback Answer)) :
      Advance .quiesceEnvironment log .commitAttempt .quiesceEnvironment

/-- The product stays, and the output budget is kept. -/
structure Within (t u : BootTransaction) : Prop where
  product : u.core.product = t.core.product
  output : t.consumedOutputBytes ≤ t.core.product.limits.maxHandoffBytes →
    u.consumedOutputBytes ≤ t.core.product.limits.maxHandoffBytes

theorem Refused.within {failure : Failure} (h : Refused t failure) :
    Within t failure.transaction := by
  refine ⟨h.core, ?_⟩
  rw [h.output]
  exact id

variable {call : Call} (h : (perform call t).Logs log result)
include h

/-- **One call.**  It goes one stage further, or it ends the transaction. -/
theorem perform_ends : Ends t (fun u => Advance call log t.stage u.stage ∧ Within t u) result := by
  cases result with
  | error failure =>
    cases call with
    | prepare arena input => exact (prepare_logs h).2.2.2
    | commitAttempt => exact ((commitAttempt_emits t).logs h).2
    | refreshAfterCommit environment => exact ((refreshAfterCommit_quiet t environment).logs h).2
    | quiesceEnvironment => exact ((quiesceEnvironment_emits t).logs h).2
    | executeTerminal => exact (executeTerminal_logs h).1
  | ok u =>
    show Advance call log t.stage u.stage ∧ Within t u
    cases call with
    | prepare arena input =>
      have hprep : Prepared t input u := (prepare_logs h).2.2.2
      rw [hprep.fresh, hprep.stage]
      exact ⟨.prepare arena input log, hprep.product, hprep.output⟩
    | commitAttempt =>
      obtain ⟨hstage, rfl⟩ := ((commitAttempt_emits t).logs h).2
      rw [hstage]
      exact ⟨.commitAttempt (commitAttempt_durable h), rfl, id⟩
    | refreshAfterCommit environment =>
      obtain ⟨hstage, _, normalized, planned, rfl, hplan⟩ :=
        ((refreshAfterCommit_quiet t environment).logs h).2
      rw [hstage]
      exact ⟨.refreshAfterCommit environment log, by rw [hplan.core], hplan.output⟩
    | quiesceEnvironment =>
      obtain ⟨hstage, rfl⟩ := ((quiesceEnvironment_emits t).logs h).2
      rw [hstage]
      exact ⟨.quiesceEnvironment log, rfl, id⟩
    | executeTerminal => exact (executeTerminal_logs h).1.elim

theorem perform_within : Within t (leaves result) := by
  have hends := perform_ends h
  cases result with
  | error failure => exact Refused.within hends
  | ok u => exact hends.2

/-- **After a failure.**  A call on a failed transaction fails and calls nobody. -/
theorem perform_failed (hfailed : t.stage = .failed) :
    log = [] ∧ ∃ failure, result = .error failure := by
  have hends := perform_ends h
  constructor
  · cases call with
    | prepare arena input => exact (prepare_logs h).2.2.1 (by rw [hfailed]; nofun)
    | commitAttempt | refreshAfterCommit environment | quiesceEnvironment =>
        exact logs_refused h (by simp [hfailed])
    | executeTerminal =>
      obtain hlog | ⟨hstage, _⟩ := (executeTerminal_logs h).2
      · exact hlog
      · rw [hfailed] at hstage
        cases hstage
  · cases result with
    | error failure => exact ⟨failure, rfl⟩
    | ok u =>
      have hadvance := hends.1
      rw [hfailed] at hadvance
      cases hadvance

/-- **What a call calls out.**  A prepare reads, from the first stage only; one call launches, at
most once, after the commit and for a managed image; and nobody else does either. -/
theorem perform_calls :
    (∀ entry ∈ log, Commits entry.1) ∨
      (log.countP (fun entry => entry.1.isRead) ≤ t.core.product.limits.maxRetries.toNat + 1 ∧
        (t.stage ≠ .capture → log = []) ∧
        ∀ entry ∈ log, entry.1.isLaunch = false ∧ entry.1.isTransfer = false) ∨
      (call = .executeTerminal ∧ t.stage = .commitAttempt ∧
        t.terminalRequest.kind = .firmwareManagedImage ∧
        ∃ answer, log = [⟨.launch t.validatedImage t.terminalRequest.managedImage, answer⟩]) := by
  cases call with
  | prepare arena input =>
    obtain ⟨hquiet, hcount, hsilent, _⟩ := prepare_logs h
    exact .inr (.inl ⟨hcount, hsilent, fun entry hentry =>
      quiet_of_read_or_quiet (hquiet entry hentry)⟩)
  | commitAttempt => exact .inl ((commitAttempt_emits t).logs h).1
  | refreshAfterCommit environment =>
    have hquiet := ((refreshAfterCommit_quiet t environment).logs h).1
    exact .inl fun entry hentry => (hquiet entry hentry).commits
  | quiesceEnvironment =>
    refine .inl fun entry hentry => ?_
    rw [((quiesceEnvironment_emits t).logs h).1 entry hentry]
    exact ⟨rfl, rfl, rfl⟩
  | executeTerminal =>
    obtain rfl | hlaunch := (executeTerminal_logs h).2
    · exact .inl (by simp)
    · exact .inr (.inr ⟨rfl, hlaunch⟩)

theorem perform_reads :
    log.countP (fun entry => entry.1.isRead) ≤ t.core.product.limits.maxRetries.toNat + 1 ∧
      (t.stage ≠ .capture → log.countP (fun entry => entry.1.isRead) = 0) := by
  obtain hcommits | ⟨hcount, hsilent, -⟩ | ⟨-, -, -, answer, rfl⟩ := perform_calls h
  · have hzero : log.countP (fun entry => entry.1.isRead) = 0 := by
      rw [List.countP_eq_zero]
      intro entry hentry
      simp [(hcommits entry hentry).1]
    exact ⟨by omega, fun _ => hzero⟩
  · refine ⟨hcount, fun hstage => ?_⟩
    rw [hsilent hstage]
    rfl
  · exact ⟨Nat.zero_le _, fun _ => rfl⟩

theorem perform_launches :
    (∀ entry ∈ log, entry.1.isTransfer = false) ∧
      ((∀ entry ∈ log, entry.1.isLaunch = false) ∨
        (log.length = 1 ∧ call = .executeTerminal ∧ t.stage = .commitAttempt ∧
          t.terminalRequest.kind = .firmwareManagedImage)) := by
  obtain hcommits | ⟨-, -, hquiet⟩ | ⟨hcall, hstage, hkind, answer, rfl⟩ := perform_calls h
  · exact ⟨fun entry hentry => (hcommits entry hentry).2.2,
      .inl fun entry hentry => (hcommits entry hentry).2.1⟩
  · exact ⟨fun entry hentry => (hquiet entry hentry).2,
      .inl fun entry hentry => (hquiet entry hentry).1⟩
  · exact ⟨by simp [Callback.isTransfer], .inr ⟨rfl, hcall, hstage, hkind⟩⟩

end Calls

/-! ### Runs -/

/-- The calls of a transaction that has not failed, with the stage they have led to. -/
inductive Advancing : List Event → BootStage → Prop
  | capture : Advancing [] .capture
  | prepared {p : Event} (hp : p.IsPrepare) : Advancing [p] .prepareProtocol
  | committed {p c : Event} {rs : List Event} (hp : p.IsPrepare) (hc : c.IsCommit)
      (hrs : ∀ r ∈ rs, r.IsRefresh) : Advancing (p :: c :: rs) .commitAttempt
  | quiesced {p c q : Event} {rs : List Event} (hp : p.IsPrepare) (hc : c.IsCommit)
      (hrs : ∀ r ∈ rs, r.IsRefresh) (hq : q.IsQuiesce) :
      Advancing (p :: c :: (rs ++ [q])) .quiesceEnvironment

/-- The calls of a transaction that has failed: the first failure came at some stage, and
nothing is called out after it. -/
structure Over (events : List Event) (before : List Event) (failed : Event)
    (later : List Event) : Prop where
  split : events = before ++ failed :: later
  advancing : Advancing before failed.before.stage
  failure : ¬failed.Ok
  silent : ∀ event ∈ later, ¬event.Ok ∧ event.log = []

theorem Advancing.ok {events : List Event} {stage : BootStage} (h : Advancing events stage) :
    ∀ event ∈ events, event.Ok := by
  cases h with
  | capture => simp
  | prepared hp => simpa using hp.1
  | committed hp hc hrs =>
    simp only [List.forall_mem_cons]
    exact ⟨hp.1, hc.1, fun r hr => (hrs r hr).1⟩
  | quiesced hp hc hrs hq =>
    simp only [List.forall_mem_cons, List.forall_mem_append]
    exact ⟨hp.1, hc.1, fun r hr => (hrs r hr).1, hq.1, by simp⟩

/-- One more call that succeeds. -/
theorem Advancing.snoc {events : List Event} {t u : BootTransaction} {call : Call}
    {log : List (Entry Callback Answer)} (h : Advancing events t.stage)
    (hcall : Advance call log t.stage u.stage) :
    Advancing (events ++ [⟨call, t, log, .ok u⟩]) u.stage := by
  generalize hfrom : t.stage = stage at h hcall
  generalize hto : u.stage = next at hcall ⊢
  cases hcall with
  | prepare arena input log =>
    cases h
    exact .prepared ⟨⟨u, rfl⟩, arena, input, rfl⟩
  | commitAttempt hdur =>
    cases h with
    | prepared hp => exact .committed hp ⟨⟨u, rfl⟩, rfl, hdur⟩ (by simp)
  | refreshAfterCommit environment log =>
    cases h with
    | committed hp hc hrs =>
      exact .committed hp hc (List.forall_mem_append.mpr
        ⟨hrs, List.forall_mem_singleton.mpr ⟨⟨u, rfl⟩, environment, rfl⟩⟩)
  | quiesceEnvironment log =>
    cases h with
    | committed hp hc hrs => exact .quiesced hp hc hrs ⟨⟨u, rfl⟩, rfl⟩

section Runs

variable {start t : BootTransaction} {events : List Event}

variable (h : Run start events t)
include h

/-- **A run.**  It is advancing, or it is over. -/
theorem Run.progress (hstart : start.stage = .capture) :
    Advancing events t.stage ∨
      (t.stage = .failed ∧ ∃ before failed later, Over events before failed later) := by
  induction h with
  | start =>
    rw [hstart]
    exact .inl .capture
  | @call events t call log result hrun hlog ih =>
    obtain hadv | ⟨hfailed, before, failed, later, hover⟩ := ih
    · have hends := perform_ends hlog
      cases result with
      | ok u => exact .inl (hadv.snoc hends.1)
      | error failure =>
        refine .inr ⟨Refused.stage hends, events, _, [], rfl, hadv, ?_, by simp⟩
        rintro ⟨u, hu⟩
        cases hu
    · obtain ⟨hsilent, failure, rfl⟩ := perform_failed hlog hfailed
      refine .inr ⟨Refused.stage (perform_ends hlog), before, failed,
        later ++ [⟨call, t, log, .error failure⟩], ?_, hover.advancing, hover.failure, ?_⟩
      · rw [hover.split]
        simp
      · refine List.forall_mem_append.mpr ⟨hover.silent, List.forall_mem_singleton.mpr ⟨?_, hsilent⟩⟩
        rintro ⟨u, hu⟩
        cases hu

theorem Run.valid :
    ∀ event ∈ events, (perform event.call event.before).Logs event.log event.result := by
  induction h with
  | start => simp
  | call call hrun hlog ih =>
    exact List.forall_mem_append.mpr ⟨ih, List.forall_mem_singleton.mpr hlog⟩

/-- The product never changes, and the output budget is kept by every call. -/
theorem Run.within
    (hstart : start.consumedOutputBytes ≤ start.core.product.limits.maxHandoffBytes) :
    (t.core.product = start.core.product ∧
      t.consumedOutputBytes ≤ start.core.product.limits.maxHandoffBytes) ∧
      ∀ event ∈ events, event.before.core.product = start.core.product ∧
        event.after.consumedOutputBytes ≤ start.core.product.limits.maxHandoffBytes := by
  induction h with
  | start => exact ⟨⟨rfl, hstart⟩, by simp⟩
  | call call hrun hlog ih =>
    obtain ⟨⟨hprod, hout⟩, hevents⟩ := ih
    have hwithin := perform_within hlog
    have hnext := hwithin.output (by rw [hprod]; exact hout)
    rw [hprod] at hnext
    exact ⟨⟨hwithin.product.trans hprod, hnext⟩,
      List.forall_mem_append.mpr ⟨hevents, List.forall_mem_singleton.mpr ⟨hprod, hnext⟩⟩⟩

/-- Only the first call starts from the first stage. -/
theorem Run.first :
    (events ≠ [] → t.stage ≠ .capture) ∧ ∀ event ∈ events.tail, event.before.stage ≠ .capture := by
  induction h with
  | start => simp
  | @call events t call log result hrun hlog ih =>
    have hends := perform_ends hlog
    constructor
    · intro _ hstage
      cases result with
      | error failure =>
        have hfailed : failure.transaction.stage = .failed := Refused.stage hends
        rw [show failure.transaction.stage = .capture from hstage] at hfailed
        cases hfailed
      | ok u =>
        have hadvance := hends.1
        rw [show u.stage = .capture from hstage] at hadvance
        generalize t.stage = stage at hadvance
        cases hadvance
    · cases events with
      | nil => simp
      | cons first rest =>
        exact List.forall_mem_append.mpr ⟨ih.2, List.forall_mem_singleton.mpr (ih.1 (by simp))⟩

/-- What came before a call of a run is a run up to it. -/
theorem Run.before {before after : List Event} {event : Event}
    (hsplit : events = before ++ event :: after) : Run start before event.before := by
  induction h generalizing after with
  | start => simp at hsplit
  | call call hrun hlog ih =>
    obtain rfl | ⟨rest, last, rfl⟩ := after.eq_nil_or_concat
    · obtain ⟨rfl, hevent⟩ := List.append_inj' hsplit rfl
      cases hevent
      exact hrun
    · rw [List.concat_eq_append, ← List.cons_append, ← List.append_assoc] at hsplit
      obtain ⟨hevents, _⟩ := List.append_inj' hsplit rfl
      exact ih hevents

omit h

/-- A failed call of a run is the first failure or comes after it. -/
theorem Over.later {before after first later : List Event} {event failed : Event}
    (h : Over events first failed later) (hsplit : events = before ++ event :: after)
    (hevent : ¬event.Ok) : ∀ e ∈ after, e.log = [] := by
  have hsame := hsplit.symm.trans h.split
  obtain ⟨as, hfirst, htail⟩ | ⟨bs, hbefore, htail⟩ := List.append_eq_append_iff.mp hsame
  · cases as with
    | nil =>
      cases htail
      exact fun e he => (h.silent e he).2
    | cons a as =>
      cases htail
      exact absurd (h.advancing.ok event (by simp [hfirst])) hevent
  · cases bs with
    | nil =>
      cases htail
      exact fun e he => (h.silent e he).2
    | cons b bs =>
      cases htail
      exact fun e he => (h.silent e (by simp [he])).2

/-- A call that launches fails. -/
theorem Run.launch_fails (h : Run start events t) {event : Event} (hevent : event ∈ events)
    (hok : event.Ok) : event.log.countP (fun entry => entry.1.isLaunch) = 0 := by
  rw [List.countP_eq_zero]
  intro entry hentry hlaunch
  obtain ⟨u, hu⟩ := hok
  have hlog := h.valid event hevent
  obtain hnone | ⟨_, hcall, _⟩ := (perform_launches hlog).2
  · rw [hnone entry hentry] at hlaunch
    cases hlaunch
  · have hends := perform_ends hlog
    rw [hu, hcall] at hends
    have hadvance := hends.1
    generalize event.before.stage = stage at hadvance
    generalize u.stage = next at hadvance
    cases hadvance

theorem countP_flatMap_eq_zero {events : List Event} {P : Entry Callback Answer → Bool}
    (h : ∀ event ∈ events, event.log.countP P = 0) :
    (events.flatMap Event.log).countP P = 0 := by
  rw [List.countP_eq_zero]
  intro entry hentry
  obtain ⟨event, hevent, hlog⟩ := List.mem_flatMap.mp hentry
  exact List.countP_eq_zero.mp (h event hevent) entry hlog

theorem Run.launches (h : Run start events t) (hstart : start.stage = .capture) :
    (events.flatMap Event.log).countP (fun entry => entry.1.isLaunch) ≤ 1 := by
  obtain hadv | ⟨_, before, failed, later, hover⟩ := h.progress hstart
  · rw [countP_flatMap_eq_zero]
    · omega
    intro event hevent
    exact h.launch_fails hevent (hadv.ok event hevent)
  · have hbefore : (before.flatMap Event.log).countP (fun entry => entry.1.isLaunch) = 0 := by
      apply countP_flatMap_eq_zero
      intro event hevent
      exact h.launch_fails (by rw [hover.split]; simp [hevent]) (hover.advancing.ok event hevent)
    have hlater : (later.flatMap Event.log).countP (fun entry => entry.1.isLaunch) = 0 := by
      apply countP_flatMap_eq_zero
      intro event hevent
      rw [(hover.silent event hevent).2]
      rfl
    have hfailed : failed.log.countP (fun entry => entry.1.isLaunch) ≤ 1 := by
      obtain hnone | ⟨hlen, _⟩ :=
        (perform_launches (h.valid failed (by rw [hover.split]; simp))).2
      · rw [List.countP_eq_zero.mpr (by simpa using hnone)]
        omega
      · rw [← hlen]
        exact List.countP_le_length
    rw [hover.split, List.flatMap_append, List.flatMap_cons, List.countP_append,
      List.countP_append, hbefore, hlater]
    omega

theorem Run.reads (h : Run start events t)
    (hstart : start.consumedOutputBytes ≤ start.core.product.limits.maxHandoffBytes) :
    (events.flatMap Event.log).countP (fun entry => entry.1.isRead) ≤
      start.core.product.limits.maxRetries.toNat + 1 := by
  cases hevents : events with
  | nil => simp
  | cons first rest =>
    have hfirst : first ∈ events := by simp [hevents]
    have hreads := (perform_reads (h.valid first hfirst)).1
    rw [((h.within hstart).2 first hfirst).1] at hreads
    have hrest : (rest.flatMap Event.log).countP (fun entry => entry.1.isRead) = 0 := by
      apply countP_flatMap_eq_zero
      intro event hevent
      refine (perform_reads (h.valid event (by simp [hevents, hevent]))).2 ?_
      exact h.first.2 event (by simpa [hevents] using hevent)
    rw [List.flatMap_cons, List.countP_append, hrest]
    omega

end Runs

/-! ### The order -/

/-- The calls that lead to a durable attempt: a prepare, a commit and refreshes, all OK. -/
def Attempted (events : List Event) : Prop :=
  ∃ p c rs, events = p :: c :: rs ∧ p.IsPrepare ∧ c.IsCommit ∧ ∀ r ∈ rs, r.IsRefresh

/-- What holds of the calls made on a transaction, and of a transfer that follows them. -/
structure BootOrder (start : BootTransaction) (events : List Event) (t : BootTransaction) :
    Prop where
  /-- Control is given away after an attempt and a quiesce that are OK, and no other calls. -/
  transfer : ∀ log, (transfer t).Logs log () → (∃ entry ∈ log, entry.1.isTransfer = true) →
    ∃ attempt q, events = attempt ++ [q] ∧ Attempted attempt ∧ q.IsQuiesce
  /-- No other call gives control away. -/
  held : ∀ event ∈ events, ¬event.Calls fun callback => callback.isTransfer = true
  /-- A launch follows an attempt, for a managed image. -/
  launch : ∀ before event after, events = before ++ event :: after →
    (event.Calls fun callback => callback.isLaunch = true) →
    Attempted before ∧ event.before.terminalRequest.kind = .firmwareManagedImage
  launchOnce : (events.flatMap Event.log).countP (fun entry => entry.1.isLaunch) ≤ 1
  /-- After a failure nothing with an effect is called any more, nor by a transfer. -/
  failed : ∀ before event after, events = before ++ event :: after → ¬event.Ok →
    (∀ later ∈ after, ¬later.Calls fun callback => callback.lasts = true) ∧
      ∀ log, (Boot.transfer t).Logs log () → ∀ entry ∈ log, entry.1.lasts = false
  reads : (events.flatMap Event.log).countP (fun entry => entry.1.isRead) ≤
    start.core.product.limits.maxRetries.toNat + 1
  output : start.consumedOutputBytes ≤ start.core.product.limits.maxHandoffBytes ∧
    ∀ event ∈ events,
      event.after.consumedOutputBytes ≤ start.core.product.limits.maxHandoffBytes

theorem transactionInitialize_fresh {core : CoreContext} {arch : Located ArchOps}
    {protocol : Located BootProtocol} {imageFormat : Located ImageFormatOps}
    {start : BootTransaction}
    (h : transactionInitialize core arch protocol imageFormat = .ok start) :
    start.stage = .capture ∧ start.consumedOutputBytes = 0 := by
  simp only [transactionInitialize, bind_eq_ok, refuse_eq_ok, demand_eq_ok, pure_eq_ok,
    exists_const] at h
  obtain ⟨_, _, _, _, _, _, _, _, _, _, rfl⟩ := h
  exact ⟨rfl, rfl⟩

/-- Every run of calls on an initialized transaction keeps the order of a boot, whatever the
calls are given and whatever the callbacks answer. -/
theorem boot_order {core : CoreContext} {arch : Located ArchOps}
    {protocol : Located BootProtocol} {imageFormat : Located ImageFormatOps}
    {start t : BootTransaction} {events : List Event}
    (hstart : transactionInitialize core arch protocol imageFormat = .ok start)
    (hrun : Run start events t) : BootOrder start events t := by
  obtain ⟨hfresh, hzero⟩ := transactionInitialize_fresh hstart
  have hout : start.consumedOutputBytes ≤ start.core.product.limits.maxHandoffBytes := by
    rw [hzero]
    exact UInt64.le_iff_toNat_le.mpr (Nat.zero_le _)
  have hprogress := hrun.progress hfresh
  refine ⟨?_, ?_, ?_, hrun.launches hfresh, ?_, hrun.reads hout, hout, ?_⟩
  · rintro log hlog ⟨entry, hentry, htransfer⟩
    have hlasts : entry.1.lasts = true := by
      cases hcallback : entry.1 <;> simp [hcallback, Callback.isTransfer, Callback.lasts]
        at htransfer ⊢
    have hstage := (transfer_logs hlog).2 entry hentry hlasts
    obtain hadv | ⟨hfailed, _⟩ := hprogress
    · rw [hstage] at hadv
      cases hadv with
      | quiesced hp hc hrs hq => exact ⟨_, _, rfl, ⟨_, _, _, rfl, hp, hc, hrs⟩, hq⟩
    · rw [hstage] at hfailed
      cases hfailed
  · rintro event hevent ⟨entry, hentry, htransfer⟩
    rw [(perform_launches (hrun.valid event hevent)).1 entry hentry] at htransfer
    cases htransfer
  · rintro before event after hsplit ⟨entry, hentry, hlaunch⟩
    have hevent : event ∈ events := by simp [hsplit]
    obtain hnone | ⟨_, _, hstage, hkind⟩ := (perform_launches (hrun.valid event hevent)).2
    · rw [hnone entry hentry] at hlaunch
      cases hlaunch
    · refine ⟨?_, hkind⟩
      obtain hadv | ⟨hfailed, _⟩ := (hrun.before hsplit).progress hfresh
      · rw [hstage] at hadv
        cases hadv with
        | committed hp hc hrs => exact ⟨_, _, _, rfl, hp, hc, hrs⟩
      · rw [hstage] at hfailed
        cases hfailed
  · intro before event after hsplit hfailure
    obtain hadv | ⟨hfailed, first, failed, later, hover⟩ := hprogress
    · exact absurd (hadv.ok event (by simp [hsplit])) hfailure
    · constructor
      · rintro e he ⟨entry, hentry, _⟩
        rw [hover.later hsplit hfailure e he] at hentry
        cases hentry
      · intro log hlog entry hentry
        cases hlasts : entry.1.lasts with
        | false => rfl
        | true =>
          have hstage := (transfer_logs hlog).2 entry hentry hlasts
          rw [hfailed] at hstage
          cases hstage
  · intro event hevent
    exact ((hrun.within hout).2 event hevent).2

/-! ### A boot on the host -/

namespace Bench

def arch : ArchOps where
  size := Arch.opsSizeOf
  abiVersion := Arch.opsAbiVersion
  capabilities := Arch.capValidateDirectLoad ||| Arch.capEntryBridge ||| Arch.capHalt
  descriptor := {
    size := Arch.descriptorSizeOf
    abiVersion := Arch.opsAbiVersion
    id := .x86_64
    canonicalName := some "x86_64".toUTF8.toList
    wordBits := 64
    virtualAddressBits := 48
    elfMachine := 62
    peCoffMachine := 0x8664
    pageSize := 4096 }
  validateDirectLoad := true
  cacheSync := false
  normalizePrivilege := false
  directHighPageTablePages := false
  prepareDirectHighEntry := false
  prepareEntry := true
  transferPrepared := true
  halt := true
  reset := false
  monotonicCounter := false

/-- A protocol that expects a memory map and takes no modules. -/
def protocol : BootProtocol where
  size := BootProtocol.sizeOf
  abiVersion := 1
  id := some "protocol".toUTF8.toList
  kernelPath := true
  terminalExecution := .directEntry
  expectations := BootProtocol.expectMemoryMap
  supportedModes := 15
  handoffFormat := true
  handoffMajor := 1
  ops := some {
    size := BootProtocol.opsSizeOf
    abiVersion := BootProtocol.opsAbiVersion
    matchManifest := true
    validateComponents := true
    selectImageFormats := some 2
    prepareHandoff := true
    prepareTerminal := true
    validateBootHealth := some fun _ => 0 }

def imageFormat : ImageFormatOps where
  size := imageFormatOpsSizeOf
  abiVersion := imageFormatOpsAbiVersion
  format := .elf64
  executionSupport := imageExecutionDirectEntry
  analyze := true

def service (kind : ServiceKind) (id : String) (operations : ServiceOperations) :
    ServiceDescriptor := CoreContext.Bench.service kind id operations

def start : BootTransaction where
  size := transactionSizeOf
  abiVersion := coreAbiVersion
  stage := .capture
  core := CoreContext.Bench.context CoreContext.Bench.directory
  arch := arch
  protocol := protocol
  imageFormat := imageFormat
  bootSource := service .bootSource "source" (.bootSource 24 serviceAbiVersion true)
  timer := service .monotonicTimer "timer" (.monotonicTimer 32 serviceAbiVersion 1000 true)
  metadata :=
    service .persistentMetadata "metadata" (.persistentMetadata 32 serviceAbiVersion true true)
  flush := service .storageFlush "flush" (.storageFlush 24 serviceAbiVersion true)
  quiesce := some
    (service .environmentQuiesce "quiesce" (.environmentQuiesce 24 serviceAbiVersion true))
  terminalLauncher := none
  environment := default
  source := default
  input := default
  payload := default
  validatedImage := default
  plan := default
  terminalRequest := default
  preparedEntry := default
  receipt := default
  consumedInputBytes := 0
  consumedOutputBytes := 0
  consumedComponents := 0
  consumedRetries := 0

theorem initialized : transactionInitialize (CoreContext.Bench.context CoreContext.Bench.directory)
    ⟨0x1000, arch⟩ ⟨0x4000, protocol⟩ ⟨0x2000, imageFormat⟩ = .ok start := by
  simp only [transactionInitialize, bind_eq_ok, refuse_eq_ok, demand_eq_ok, pure_eq_ok,
    exists_const]
  exact ⟨by decide +kernel, start.bootSource, by decide +kernel, start.timer, by decide +kernel,
    start.metadata, by decide +kernel, start.flush, by decide +kernel, by decide +kernel, rfl⟩

def environment : BootEnvironment where
  size := BootEnvironment.sizeOf
  abiVersion := coreAbiVersion
  kind := .host
  architecture := .x86_64
  memoryMap := [⟨0x100000, 0x100000, .usable, 0⟩]
  deviceTreeAddress := 0
  deviceTreeSize := 0
  framebufferAddress := 0
  bootMedia := .none
  bootModules := []
  commandLine := ⟨none, 0⟩
  flags := bootEnvHasMemoryMap

def input : BootTransactionInput where
  environment := some environment
  normalizedMemoryMap := some ⟨true, [], 4⟩
  source := some ⟨.file, 1, 4096, 0⟩
  sourceOffset := 0
  sourceSize := 16
  payloadBuffer := true
  payloadBufferCapacity := 4096
  sourceName := some "kernel".toUTF8.toList
  validatedImage := true
  directLoadPlan := some default
  handoffBuffer := true
  handoffBufferCapacity := 64
  handoffArtifact := some default
  transitionBuffer := false
  transitionBufferPhysicalAddress := 0
  transitionBufferCapacity := 0

def image : ValidatedImage where
  size := validatedImageSizeOf
  abiVersion := validatedImageAbiVersion
  format := .elf64
  machine := 62
  reserved := 0
  executionSupport := imageExecutionDirectEntry
  imageSize := 16
  validationReceipt := 0

def layout : DirectLoadPlan := { (default : DirectLoadPlan) with
  entryPoint := 0x100000
  segments := [default] }

def request : TerminalRequest where
  size := TerminalRequest.sizeOf
  abiVersion := TerminalRequest.currentAbiVersion
  kind := .directEntry
  reserved := 0
  directEntry := { (default : EntryInvocation) with
    size := Arch.entryInvocationSizeOf
    abiVersion := Arch.entryInvocationAbiVersion
    entryAddress := 0x100000 }
  managedImage := default

/-- Callbacks that do their work; the handoff takes so many bytes. -/
def willing (handoff : UInt64) : Machine Callback Answer Unit where
  answer
    | .now, _ => some (0 : UInt64)
    | .read .., _ => some (List.replicate 16 (0 : UInt8))
    | .analyze .., _ => some (image, layout)
    | .validateDirectLoad _ plan, _ => some plan
    | .directHighPageTablePages _, _ => (0 : UInt64)
    | .prepareDirectHighEntry .., _ => (none : Option (UInt64 × UInt64))
    | .prepareHandoff .., _ => Except.ok (⟨handoff, 1, 1⟩ : HandoffArtifact)
    | .prepareTerminal .., _ => some request
    | .prepareEntry invocation, _ => some ⟨invocation, 0⟩
    | .metadataWrite _, _ => true
    | .flush _, _ => true
    | .quiesce, _ => true
    | .launch .., _ => (⟨.other, 0, 0, false⟩ : LaunchAnswer)
    | .transferPrepared _, _ => ()
    | .halt, _ => ()
  effect _ _ := ()

/-- What a call leaves when everybody is willing. -/
def called (handoff : UInt64) (call : Call) (t : BootTransaction) : BootTransaction :=
  leaves ((perform call t).exec (willing handoff) ()).1

def event (handoff : UInt64) (call : Call) (t : BootTransaction) : Event :=
  ⟨call, t, Prog.record (willing handoff) (perform call t).run (),
    ((perform call t).exec (willing handoff) ()).1⟩

theorem called_run {events : List Event} {t : BootTransaction} (h : Run start events t)
    (handoff : UInt64) (call : Call) :
    Run start (events ++ [event handoff call t]) (called handoff call t) :=
  .call call h (Prog.logs_record (willing handoff) (perform call t).run ())

def prepared (handoff : UInt64) : BootTransaction :=
  called handoff (.prepare CoreContext.Bench.arena input) start

def committed (handoff : UInt64) : BootTransaction :=
  called handoff .commitAttempt (prepared handoff)

def closed : BootTransaction := called 40 .quiesceEnvironment (committed 40)

def committedEvents (handoff : UInt64) : List Event :=
  [event handoff (.prepare CoreContext.Bench.arena input) start,
    event handoff .commitAttempt (prepared handoff)]

theorem committed_run (handoff : UInt64) :
    Run start (committedEvents handoff) (committed handoff) :=
  called_run (called_run .start handoff (.prepare CoreContext.Bench.arena input)) handoff
    .commitAttempt

theorem closed_run :
    Run start (committedEvents 40 ++ [event 40 .quiesceEnvironment (committed 40)]) closed :=
  called_run (committed_run 40) 40 .quiesceEnvironment

theorem closed_stage : closed.stage = .quiesceEnvironment := by decide +kernel

/-- A boot that comes to its transfer. -/
theorem boot_order_closed : ∃ events, Run start events closed ∧
    closed.stage = .quiesceEnvironment ∧ BootOrder start events closed :=
  ⟨_, closed_run, closed_stage, boot_order initialized closed_run⟩

end Bench

end Ribon.Boot
