/-
Plans that are made again after the commit.

Preparing admits an environment before it makes a plan of it, and counts the
components of the plan.  A refresh makes the plan again, of another environment, with
the rest of the transaction as it was.  Two questions are asked of the plans: whether
the rules of preparing hold of each of them, and whether a refresh that is given
nothing new goes through.
-/
import Ribon.Boot.Order

namespace Ribon.Boot

open Crash

/-! ### What a refresh does not touch -/

/-- The transaction without what a refresh writes. -/
def undated (t : BootTransaction) : BootTransaction :=
  { unplanned t with
    environment := default
    input := { t.input with
      handoffArtifact := none
      normalizedMemoryMap := t.input.normalizedMemoryMap.map fun map =>
        { map with regions := [] } } }

variable {t u : BootTransaction}

theorem undated_of_unplanned (h : unplanned t = unplanned u) :
    undated t = undated u := by
  have hundated : ∀ t, undated t = undated (unplanned t) := fun _ => rfl
  rw [hundated t, h, ← hundated u]

/-! ### Planning again -/

/-- Two transactions that differ in what planning writes only. -/
theorem eq_of_unplanned {r : BootTransaction} (h : unplanned t = unplanned r) :
    r = { t with
      stage := r.stage
      input := { t.input with handoffArtifact := r.input.handoffArtifact }
      plan := r.plan
      terminalRequest := r.terminalRequest
      preparedEntry := r.preparedEntry
      consumedOutputBytes := r.consumedOutputBytes } := by
  have hadd : ∀ t : BootTransaction, t = { unplanned t with
      stage := t.stage
      input := { (unplanned t).input with handoffArtifact := t.input.handoffArtifact }
      plan := t.plan
      terminalRequest := t.terminalRequest
      preparedEntry := t.preparedEntry
      consumedOutputBytes := t.consumedOutputBytes } := fun _ => rfl
  rw [hadd r, ← h]
  rfl

section Replay

variable {t r : BootTransaction}

theorem follows_demand {A : Type} (value : Option A) (e e' : Failure) :
    Act.Follows Eq (Act.ofExcept (demand value e) : Step A) (Act.ofExcept (demand value e')) := by
  cases value with
  | none =>
    intro log a h
    cases (Act.logs_ofExcept.mp h).2
  | some b => exact Act.follows_refl _

theorem prepareTransition_follows (h : unplanned t = unplanned r) (candidate : BootPlan) :
    Act.Follows Eq (prepareTransition t candidate) (prepareTransition r candidate) := by
  rw [eq_of_unplanned h]
  unfold prepareTransition
  by_cases hpresent : (!transitionPresent t.input) = true
  · have hpresent' : (!transitionPresent { t.input with
        handoffArtifact := r.input.handoffArtifact }) = true := hpresent
    rw [if_pos hpresent, if_pos hpresent']
    exact Act.follows_refl _
  · have hpresent' : ¬(!transitionPresent { t.input with
        handoffArtifact := r.input.handoffArtifact }) = true := hpresent
    rw [if_neg hpresent, if_neg hpresent']
    refine Act.follows_bind (Act.follows_refl (tablePagesOf t)) ?_
    rintro tablePages _ rfl
    refine Act.follows_bind (Act.follows_refuseIf _ _ _) ?_
    rintro _ _ rfl
    refine Act.follows_bind (Act.follows_refl _) ?_
    rintro answer _ rfl
    refine Act.follows_bind (follows_demand answer _ _) ?_
    rintro entry _ rfl
    refine Act.follows_bind (Act.follows_refuseIf _ _ _) ?_
    rintro _ _ rfl
    exact Act.follows_refl _

/-- The artifact of the handoff is the one that a terminal requirement is made of. -/
theorem prepareTerminal_follows (h : unplanned t = unplanned r)
    (hart : t.input.handoffArtifact = r.input.handoffArtifact) (candidate : BootPlan) :
    Act.Follows (fun _ _ => True) (prepareTerminal t candidate) (prepareTerminal r candidate) := by
  have hr := eq_of_unplanned h
  rw [← hart] at hr
  rw [hr]
  refine Act.follows_bind (Act.follows_refl _) ?_
  rintro answer _ rfl
  refine Act.follows_bind (follows_demand answer _ _) ?_
  rintro request _ rfl
  refine Act.follows_bind (Act.follows_refuseIf _ _ _) ?_
  rintro _ _ rfl
  by_cases hkind : (request.kind != .directEntry) = true
  · rw [if_pos hkind, if_pos hkind]
    exact Act.follows_pure trivial
  · rw [if_neg hkind, if_neg hkind]
    refine Act.follows_bind (Act.follows_refl _) ?_
    rintro answer _ rfl
    refine Act.follows_bind (follows_demand answer _ _) ?_
    rintro entry _ rfl
    by_cases htransl : (request.directEntry.translation != .directHighBridge) = true
    · rw [if_pos htransl, if_pos htransl]
      exact Act.follows_pure trivial
    · rw [if_neg htransl, if_neg htransl]
      refine Act.follows_bind (Act.follows_refuseIf _ _ _) ?_
      rintro _ _ rfl
      exact Act.follows_pure trivial

/-- There is room for that much more output. -/
def Fits (t : BootTransaction) (size : UInt64) : Prop :=
  t.consumedOutputBytes.toNat + size.toNat ≤ t.core.product.limits.maxHandoffBytes.toNat

theorem exceeds_iff (consumed : UInt64) {limit size : UInt64} (hsize : ¬limit < size) :
    limit - size < consumed ↔ ¬consumed.toNat + size.toNat ≤ limit.toNat := by
  have hnat := UInt64.le_iff_toNat_le.mp (UInt64.not_lt.mp hsize)
  rw [UInt64.lt_iff_toNat_lt, toNat_sub_of_le]
  omega

variable (h : unplanned t = unplanned r) (hdir : t.protocol.terminalExecution = .directEntry)
include h hdir

/-- The same handoff again: it goes through where there is room for it. -/
theorem prepareHandoff_replay {t' : BootTransaction} {candidate plan : BootPlan}
    {log : List (Entry Callback Answer)}
    (hlog : (prepareHandoff t candidate).Logs log (.ok (t', plan))) :
    (Fits r plan.handoffArtifactSize → ∃ r', unplanned t' = unplanned r' ∧
      t'.input.handoffArtifact = r'.input.handoffArtifact ∧
      (prepareHandoff r candidate).Logs log (.ok (r', plan))) ∧
    (¬Fits r plan.handoffArtifactSize → ∃ failure,
      (prepareHandoff r candidate).Logs log (.error failure)) := by
  have hr := eq_of_unplanned h
  have hkind : ¬(t.protocol.terminalExecution != .directEntry) = true := by simp [hdir]
  have hkind' : ¬(r.protocol.terminalExecution != .directEntry) = true := by
    rw [hr]
    exact hkind
  unfold prepareHandoff at hlog ⊢
  rw [if_neg hkind] at hlog
  rw [if_neg hkind']
  obtain ⟨answer, rest, rfl, hrest⟩ := logs_bind_ask.mp hlog
  match answer with
  | .error .outOfCapacity | .error .other => cases (Act.logs_throw.mp hrest).2
  | .ok artifact =>
    obtain ⟨_, _, hno⟩ | ⟨hchecks, hpure⟩ := Act.logs_bind_refuseIf.mp hrest
    · cases hno
    obtain ⟨rfl, hres⟩ := Act.logs_pure.mp hpure
    cases hres
    simp only [Bool.or_eq_false_iff, decide_eq_false_iff_not] at hchecks
    have hlimit : r.core.product.limits.maxHandoffBytes =
        t.core.product.limits.maxHandoffBytes := by rw [hr]
    have hcap : r.input.handoffBufferCapacity = t.input.handoffBufferCapacity := by rw [hr]
    have hexceeds := exceeds_iff r.consumedOutputBytes hchecks.1.1
    constructor
    · intro hfits
      refine ⟨{ r with input := { r.input with handoffArtifact := some artifact } }, ?_, rfl, ?_⟩
      · rw [hr]
        rfl
      · refine logs_bind_ask.mpr ⟨.ok artifact, [], ?_, ?_⟩
        · rw [hr]
          rfl
        refine Act.logs_bind_refuseIf.mpr (.inr ⟨?_, Act.logs_pure.mpr ⟨rfl, rfl⟩⟩)
        rw [hlimit, hcap]
        simp only [Bool.or_eq_false_iff, decide_eq_false_iff_not]
        refine ⟨hchecks.1, ?_⟩
        rw [hexceeds, not_not]
        rw [← hlimit]
        exact hfits
    · intro hfits
      refine ⟨_, logs_bind_ask.mpr ⟨.ok artifact, [], ?_,
        Act.logs_bind_refuseIf.mpr (.inl ⟨?_, rfl, rfl⟩)⟩⟩
      · rw [hr]
        rfl
      rw [hlimit]
      simp only [Bool.or_eq_true, decide_eq_true_eq]
      refine .inr (hexceeds.mpr ?_)
      rw [← hlimit]
      exact hfits

/-- **Planning again with the same answers.**  It goes through where there is room for the
handoff, and stops at the handoff otherwise. -/
theorem prepareProtocolPlan_replay {u : BootTransaction} {log : List (Entry Callback Answer)}
    (hlog : (prepareProtocolPlan t).Logs log (.ok u)) :
    (Fits r u.plan.handoffArtifactSize → ∃ u', (prepareProtocolPlan r).Logs log (.ok u')) ∧
    (¬Fits r u.plan.handoffArtifactSize → ∃ short failure, short <+: log ∧
      (prepareProtocolPlan r).Logs short (.error failure)) := by
  have hr := eq_of_unplanned h
  have hbegin : deadlineBegin r r.core.product.limits.operationDeadlineMs =
      deadlineBegin t t.core.product.limits.operationDeadlineMs := by
    rw [hr]
    rfl
  have hcandidate : candidatePlan r = candidatePlan t := by
    rw [hr]
    rfl
  unfold prepareProtocolPlan at hlog ⊢
  rw [hbegin, hcandidate]
  simp only [Act.logs_bind_ok, Act.logs_pure_ok] at hlog ⊢
  obtain ⟨log₁, _, deadline, rfl, h₁, log₂, _, plan, rfl, h₂, log₃, _, ⟨handed, plan'⟩, rfl, h₃,
    log₄, _, ended, rfl, h₄, log₅, _, last, rfl, h₅, rfl, rfl⟩ := hlog
  obtain ⟨_, rfl, h₁⟩ := Act.follows_mapError (Act.follows_refl _) _ _ h₁
  obtain ⟨_, rfl, h₂⟩ := prepareTransition_follows h _ _ _ h₂
  obtain ⟨hroom, hfull⟩ := prepareHandoff_replay h hdir h₃
  constructor
  · intro hfits
    obtain ⟨handed', hsame, hart, h₃⟩ := hroom hfits
    obtain ⟨_, rfl, h₄⟩ := Act.follows_mapError (Act.follows_refl _) _ _ h₄
    obtain ⟨last', _, h₅⟩ := prepareTerminal_follows hsame hart _ _ _ h₅
    exact ⟨_, _, _, _, rfl, h₁, _, _, _, rfl, h₂, _, _, _, rfl, h₃, _, _, _, rfl, h₄, _, _, _, rfl,
      h₅, rfl, rfl⟩
  · intro hfits
    obtain ⟨failure, h₃⟩ := hfull hfits
    refine ⟨log₁ ++ (log₂ ++ log₃), failure, ⟨log₄ ++ (log₅ ++ []), by simp⟩, ?_⟩
    exact Act.logs_bind.mpr (.inr ⟨_, _, _, rfl, h₁, Act.logs_bind.mpr (.inr
      ⟨_, _, _, rfl, h₂, Act.logs_bind.mpr (.inl ⟨_, h₃, rfl⟩)⟩)⟩)

end Replay

/-! ### The environment of a prepared transaction -/

/-- The environment of a transaction is valid, for its architecture, and its memory map has
been normalized into the caller's array. -/
structure Settled (t : BootTransaction) : Prop where
  valid : t.environment.isValid = true
  architecture : t.environment.architecture = t.arch.descriptor.id
  normalized : ∃ destination normalized, t.input.normalizedMemoryMap = some normalized ∧
    memoryMapNormalize t.environment.memoryMap destination = .ok normalized

theorem Settled.congr (h : Settled t) (harch : u.arch = t.arch)
    (henv : u.environment = t.environment)
    (hmap : u.input.normalizedMemoryMap = t.input.normalizedMemoryMap) : Settled u := by
  refine ⟨?_, ?_, ?_⟩
  · rw [henv]
    exact h.valid
  · rw [henv, harch]
    exact h.architecture
  · rw [henv, hmap]
    exact h.normalized

/-- Two transactions that differ in what planning writes have one environment. -/
theorem Settled.of_unplanned (h : Settled t) (hsame : unplanned t = unplanned u) : Settled u := by
  have hu := eq_of_unplanned hsame
  refine h.congr ?_ ?_ ?_
  · rw [hu]
  · rw [hu]
  · rw [hu]

variable {input : BootTransactionInput}

theorem capture_settled {start : BootTransaction} {arena : Arena}
    (h : capture start arena input = .ok t) : Settled t := by
  simp only [capture, bind_eq_ok, refuse_eq_ok, demand_eq_ok, mapStatus_eq_ok, pure_eq_ok,
    exists_const] at h
  obtain ⟨_, _, environment, _, hadm, destination, _, normalized, hnorm, source, _, _,
    _, rfl⟩ := h
  simp only [Bool.not_eq_false', environmentIsAdmitted, Bool.and_eq_true, beq_iff_eq]
    at hadm
  exact ⟨hadm.1.1.1, hadm.1.1.2, destination, normalized, rfl, hnorm⟩

theorem loadImage_settled (h : Settled t) :
    Act.emits Quiet (Ends t Settled) (loadImage t) := by
  have hfail := refused_fail t t rfl rfl
  unfold loadImage
  refine emits_bind_ask rfl fun answer => ?_
  refine emits_bind_demand (hfail _ _ _ _) fun found _ => ?_
  refine Act.emits_bind_refuseIf (fun _ => hfail _ _ _ _) fun _ => ?_
  split
  · refine Act.emits_bind (placeDirectLoad_quiet t _ _ _ (hfail _ _ _ _)) ?_ fun _ h => h
    intro plan _
    refine Act.emits_bind_refuseIf (fun _ => ⟨rfl, rfl, rfl⟩) fun _ => Act.emits_pure ?_
    exact h.congr rfl rfl rfl
  · refine Act.emits_bind_refuseIf (fun _ => hfail _ _ _ _) fun _ => Act.emits_pure ?_
    exact h.congr rfl rfl rfl

/-- The last part of a prepare is planning, for a settled environment. -/
theorem prepare_planning {start : BootTransaction} {arena : Arena}
    {log : List (Entry Callback Answer)} (h : (prepare start arena input).Logs log (.ok t)) :
    ∃ loaded before planning, log = before ++ planning ∧
      (prepareProtocolPlan loaded).Logs planning (.ok t) ∧ Settled loaded := by
  obtain ⟨frozen, retries, bytes, loaded, before, loading, planning, hfrozen, rfl, hloading,
    hplanning⟩ := prepare_ok h
  refine ⟨loaded, before ++ loading, planning, by simp, hplanning, ?_⟩
  refine ((loadImage_settled ?_).logs hloading).2
  exact (capture_settled hfrozen).congr rfl rfl rfl

/-! ### A refresh -/

/-- The result does not depend on what the caller's array held. -/
theorem memoryMapNormalize_again {source : List MemoryRegion}
    {destination other normalized : MutableMemoryMap}
    (hsame : { destination with regions := [] } = { other with regions := [] })
    (h : memoryMapNormalize source destination = .ok normalized) :
    memoryMapNormalize source other = .ok normalized := by
  obtain ⟨storage', regions', capacity'⟩ := other
  cases hsame
  exact h

theorem memoryMapNormalize_array {source : List MemoryRegion}
    {destination normalized : MutableMemoryMap}
    (h : memoryMapNormalize source destination = .ok normalized) :
    { normalized with regions := [] } = { destination with regions := [] } := by
  simp only [memoryMapNormalize, bind_eq_ok, refuse_eq_ok, pure_eq_ok, exists_const] at h
  obtain ⟨_, sorted, _, merged, _, rfl⟩ := h
  rfl

/-- The transaction that a refresh plans for. -/
def dated (t : BootTransaction) (environment : BootEnvironment) (normalized : MutableMemoryMap) :
    BootTransaction :=
  { t with
    environment := environment
    input := { t.input with normalizedMemoryMap := some normalized } }

section Refresh

variable {t u : BootTransaction} {environment : BootEnvironment}
  {log : List (Entry Callback Answer)}

theorem refreshAfterCommit_ok (h : (refreshAfterCommit t environment).Logs log (.ok u)) :
    t.terminalRequest.kind = .directEntry ∧ ∃ destination normalized planned,
      t.input.normalizedMemoryMap = some destination ∧
      memoryMapNormalize environment.memoryMap destination = .ok normalized ∧
      u = { planned with stage := .commitAttempt } ∧
      Planned (dated t environment normalized) planned := by
  simp only [refreshAfterCommit, Act.logs_bind_ok, Act.logs_refuseIf_ok, Act.logs_ofExcept_ok,
    Act.logs_pure_ok, demand_eq_ok, mapStatus_eq_ok, Bool.or_eq_false_iff, bne_eq_false_iff_eq] at h
  obtain ⟨_, _, _, rfl, ⟨rfl, hchecks⟩, _, _, destination, rfl, ⟨rfl, hdst⟩, _, _, normalized,
    rfl, ⟨rfl, hnorm⟩, planning, _, planned, rfl, hplanning, -, rfl⟩ := h
  exact ⟨hchecks.1.1.2, destination, normalized, planned, hdst, hnorm, rfl,
    ((prepareProtocolPlan_quiet _).logs hplanning).2⟩

/-- A refresh whose checks pass comes to planning, and ends as planning does. -/
theorem refreshAfterCommit_logs_of {destination normalized : MutableMemoryMap}
    {result : Except Failure BootTransaction} (hstage : t.stage = .commitAttempt)
    (hkind : t.terminalRequest.kind = .directEntry) (hvalid : environment.isValid = true)
    (harch : environment.architecture = t.arch.descriptor.id)
    (hdst : t.input.normalizedMemoryMap = some destination)
    (hnorm : memoryMapNormalize environment.memoryMap destination = .ok normalized)
    (h : (prepareProtocolPlan (dated t environment normalized)).Logs log result) :
    ∃ result', (refreshAfterCommit t environment).Logs log result' ∧
      ((∃ v, result' = .ok v) ↔ ∃ v, result = .ok v) := by
  have hchecks : (t.stage != .commitAttempt || t.terminalRequest.kind != .directEntry ||
      !environment.isValid || environment.architecture != t.arch.descriptor.id) = false := by
    simp [hstage, hkind, hvalid, harch]
  have hlog : ∀ result', (prepareProtocolPlan (dated t environment normalized) >>=
      fun planned => (pure { planned with stage := .commitAttempt } : Step BootTransaction)).Logs
        log result' → (refreshAfterCommit t environment).Logs log result' := by
    intro result' hres
    refine Act.logs_bind_refuseIf.mpr (.inr ⟨hchecks, ?_⟩)
    refine Act.logs_bind.mpr (.inr ⟨[], log, destination, rfl,
      Act.logs_ofExcept.mpr ⟨rfl, by rw [hdst]; rfl⟩, ?_⟩)
    exact Act.logs_bind.mpr (.inr ⟨[], log, normalized, rfl,
      Act.logs_ofExcept.mpr ⟨rfl, by rw [hnorm]; rfl⟩, hres⟩)
  cases result with
  | error failure =>
    exact ⟨.error failure, hlog _ (Act.logs_bind.mpr (.inl ⟨failure, h, rfl⟩)), .rfl⟩
  | ok v =>
    refine ⟨.ok { v with stage := .commitAttempt }, hlog _ (Act.logs_bind.mpr (.inr
      ⟨log, [], v, by simp, h, Act.logs_pure.mpr ⟨rfl, rfl⟩⟩)), ?_⟩
    exact ⟨fun _ => ⟨v, rfl⟩, fun _ => ⟨_, rfl⟩⟩

end Refresh

/-! ### The plans of a run -/

/-- The environment that a call is given. -/
def Call.environment : Call → Option BootEnvironment
  | .prepare _ input => input.environment
  | .refreshAfterCommit environment => some environment
  | _ => none

/-- The environment that the last plan was built from. -/
def builtFrom (events : List Event) : Option BootEnvironment :=
  events.foldl (fun last event => event.call.environment.or last) none

theorem builtFrom_snoc (events : List Event) (event : Event) :
    builtFrom (events ++ [event]) = event.call.environment.or (builtFrom events) := by
  simp [builtFrom]

/-- A transaction with a plan, against the prepared one: nothing has changed except for what
the last plan, of the last environment, has changed. -/
structure Dated (prepared t : BootTransaction) : Prop where
  same : undated t = undated prepared
  flags : t.plan.environmentFlags = t.environment.flags
  modules : t.plan.bootModuleCount = t.environment.moduleCount
  layout : t.plan.kernelDirectLoadPlan = t.input.directLoadPlan
  kind : t.terminalRequest.kind = t.protocol.terminalExecution
  managed : t.protocol.terminalExecution ≠ .directEntry → t.environment = prepared.environment

theorem Planned.dated {start planned : BootTransaction} (h : Planned start planned) :
    Dated start planned where
  same := undated_of_unplanned h.same
  flags := by rw [h.planFlags, h.environment]
  modules := by rw [h.planModules, h.environment]
  layout := by rw [h.planLayout, h.layout]
  kind := by rw [h.kind, h.protocol]
  managed := fun _ => h.environment

theorem perform_dated {prepared : BootTransaction} {call : Call}
    {log : List (Entry Callback Answer)} (h : (perform call t).Logs log (.ok u))
    (hstage : t.stage ≠ .capture) (hdated : Dated prepared t) :
    Dated prepared u ∧ call.environment.or (some t.environment) = some u.environment := by
  cases call with
  | prepare arena input =>
    have hprep : Prepared t input u := (prepare_logs h).2.2.2
    exact absurd hprep.fresh hstage
  | commitAttempt =>
    obtain ⟨_, rfl⟩ := ((commitAttempt_emits t).logs h).2
    exact ⟨⟨hdated.same, hdated.flags, hdated.modules, hdated.layout, hdated.kind,
      hdated.managed⟩, rfl⟩
  | refreshAfterCommit environment =>
    obtain ⟨hkind, destination, normalized, planned, hdst, hnorm, rfl, hplanned⟩ :=
      refreshAfterCommit_ok h
    have hnew := hplanned.dated
    refine ⟨⟨?_, hnew.flags, hnew.modules, hnew.layout, hnew.kind, ?_⟩, ?_⟩
    · have hundated : undated (Boot.dated t environment normalized) = undated t := by
        simp only [undated, unplanned, Boot.dated, Option.map_some, hdst,
          memoryMapNormalize_array hnorm]
      exact hnew.same.trans (hundated.trans hdated.same)
    · intro hmanaged
      rw [show _ = t.protocol from hplanned.protocol, ← hdated.kind] at hmanaged
      exact absurd hkind hmanaged
    · exact congrArg some hplanned.environment.symm
  | quiesceEnvironment =>
    obtain ⟨_, rfl⟩ := ((quiesceEnvironment_emits t).logs h).2
    exact ⟨⟨hdated.same, hdated.flags, hdated.modules, hdated.layout, hdated.kind,
      hdated.managed⟩, rfl⟩
  | executeTerminal => exact (executeTerminal_logs h).1.elim

theorem Prepared.dated {start : BootTransaction} (h : Prepared start input u) : Dated u u where
  same := rfl
  flags := h.planFlags
  modules := h.planModules
  layout := h.planLayout
  kind := by rw [h.kind, h.protocol]
  managed := fun _ => rfl

theorem Run.eq_of_nil {start : BootTransaction} {events : List Event} (h : Run start events t)
    (hevents : events = []) : t = start := by
  cases h with
  | start => rfl
  | call call hrun hlog => simp at hevents

/-- **A run with a plan.**  It begins with a prepare, and the plan is that of the last
environment. -/
theorem Run.dated {start : BootTransaction} {events : List Event} (h : Run start events t)
    (hstart : start.stage = .capture) (hevents : events ≠ []) (hstage : t.stage ≠ .failed) :
    ∃ p rest arena input u, events = p :: rest ∧ p = ⟨.prepare arena input, start, p.log, .ok u⟩ ∧
      Dated u t ∧ builtFrom events = some t.environment := by
  induction h with
  | start => exact absurd rfl hevents
  | @call events t call log result hrun hlog ih =>
    have hends := perform_ends hlog
    cases result with
    | error failure => exact absurd (Refused.stage hends) hstage
    | ok u =>
      by_cases hfirst : events = []
      · obtain rfl := hrun.eq_of_nil hfirst
        have hadv := hends.1
        rw [hstart] at hadv
        generalize hnext : u.stage = next at hadv
        cases hadv with
        | prepare arena input log =>
          have hprep : Prepared t input u := (prepare_logs hlog).2.2.2
          refine ⟨_, [], arena, input, u, by rw [hfirst]; rfl, rfl, hprep.dated, ?_⟩
          simp [hfirst, builtFrom, Call.environment, hprep.given, leaves]
      · have hfailed : t.stage ≠ .failed := by
          intro hfailed
          obtain ⟨_, failure, hfailure⟩ := perform_failed hlog hfailed
          cases hfailure
        obtain ⟨p, rest, arena, input, v, rfl, hp, hdated, hbuilt⟩ := ih hfirst hfailed
        obtain ⟨hdated, henv⟩ := perform_dated hlog (hrun.first.1 hfirst) hdated
        refine ⟨p, rest ++ [_], arena, input, v, rfl, hp, hdated, ?_⟩
        rw [builtFrom_snoc, hbuilt]
        exact henv

/-! ### Admission -/

/-- The stages from which a commit, a quiesce and a transfer act on the plan. -/
def Acts (t : BootTransaction) : Prop :=
  t.stage = .prepareProtocol ∨ t.stage = .commitAttempt ∨ t.stage = .quiesceEnvironment

/-- The rules of preparing, for the plan of a transaction and the environment it was built
from. -/
structure Admitted (t : BootTransaction) (environment : BootEnvironment) : Prop where
  built : t.plan.bootModuleCount = environment.moduleCount ∧
    t.plan.environmentFlags = environment.flags
  modules : environment.moduleCount ≠ 0 →
    t.protocol.hasExpectation BootProtocol.allowBootModules = true
  memoryMap : t.protocol.hasExpectation BootProtocol.expectMemoryMap = true →
    environment.has bootEnvHasMemoryMap = true
  bound : t.plan.segmentCount + environment.moduleCount ≤
    t.core.product.limits.maxComponents.toNat
  counted : t.consumedComponents.toNat =
    t.plan.segmentCount + environment.moduleCount

/-- A refresh with this environment, in which the callbacks answer as they did when the
prepare `p` planned, returns OK. -/
def Repeats (p : Event) (environment : BootEnvironment) (t : BootTransaction) : Prop :=
  ∀ before planning loaded log result, p.log = before ++ planning →
    (prepareProtocolPlan loaded).Logs planning p.result → log <+: planning →
    (refreshAfterCommit t environment).Logs log result → ∃ u, result = .ok u

/-- Every plan that is acted on is admitted, and nothing new is nothing to refuse. -/
structure KeepsAdmission (events : List Event) (t : BootTransaction) : Prop where
  admitted : Acts t → ∀ environment, builtFrom events = some environment → Admitted t environment
  repeated : t.stage = .commitAttempt → ∀ p rest environment, events = p :: rest →
    p.call.environment = some environment → Repeats p environment t

/-- The environment of the last plan meets the rules of preparing by itself and has as many
modules as the first one, the entry is a direct one, and there is room for the first handoff
once more. -/
structure RefreshesAlike (events : List Event) (t : BootTransaction) : Prop where
  direct : Acts t → t.protocol.terminalExecution = .directEntry
  complies : Acts t → ∀ p rest first environment, events = p :: rest →
    p.call.environment = some first → builtFrom events = some environment →
    (environment.moduleCount ≠ 0 →
      t.protocol.hasExpectation BootProtocol.allowBootModules = true) ∧
    (t.protocol.hasExpectation BootProtocol.expectMemoryMap = true →
      environment.has bootEnvHasMemoryMap = true) ∧
    environment.moduleCount = first.moduleCount
  room : t.stage = .commitAttempt → ∀ p rest, events = p :: rest →
    Fits t p.after.plan.handoffArtifactSize

/-- What a prepared transaction has counted. -/
theorem Prepared.counted {start : BootTransaction} (h : Prepared start input u)
    (hdir : start.protocol.terminalExecution = .directEntry) :
    u.plan.segmentCount + u.environment.moduleCount ≤
        start.core.product.limits.maxComponents.toNat ∧
      u.consumedComponents.toNat =
        u.plan.segmentCount + u.environment.moduleCount := by
  obtain ⟨plan, hplan, hfit, hcomps⟩ := h.direct hdir
  have hsegs : u.plan.segmentCount = plan.segmentCount := by
    rw [BootPlan.segmentCount, h.planLayout, hplan]
    rfl
  simp only [componentsFit, Bool.and_eq_true, decide_eq_true_eq] at hfit
  have hbound := start.core.product.limits.maxComponents.toNat_lt
  rw [hsegs, hcomps]
  constructor
  · omega
  · rw [Nat.toUInt32_eq, UInt32.toNat_ofNat']
    exact Nat.mod_eq_of_lt (by omega)

theorem Prepared.miscounted {start : BootTransaction} (h : Prepared start input u)
    (hmanaged : start.protocol.terminalExecution = .firmwareManagedImage) :
    u.consumedComponents.toNat ≠ u.plan.segmentCount + u.environment.moduleCount := by
  obtain ⟨hplan, hcomps⟩ := h.managed hmanaged
  have hsegs : u.plan.segmentCount = 0 := by
    rw [BootPlan.segmentCount, h.planLayout, hplan]
    rfl
  rw [hsegs, hcomps, Nat.toUInt32_eq, UInt32.toNat_ofNat']
  omega

section Admission

variable {start u t : BootTransaction} {input : BootTransactionInput}

theorem Dated.protocol (h : Dated u t) : t.protocol = u.protocol :=
  (congrArg BootTransaction.protocol h.same :)

theorem Dated.segmentCount_eq (hdated : Dated u t)
    (hlay : u.plan.kernelDirectLoadPlan = u.input.directLoadPlan) :
    t.plan.segmentCount = u.plan.segmentCount := by
  have hinput : t.input.directLoadPlan = u.input.directLoadPlan :=
    (congrArg (fun t => t.input.directLoadPlan) hdated.same :)
  rw [BootPlan.segmentCount, BootPlan.segmentCount, hdated.layout, hlay, hinput]

/-- The rules hold of the last plan exactly if its environment keeps them and has as many
modules as were counted. -/
theorem admitted_iff (hprep : Prepared start input u) (hdated : Dated u t)
    (hknown : start.protocol.terminalExecution ≠ .unknown) :
    Admitted t t.environment ↔ t.protocol.terminalExecution = .directEntry ∧
      (t.environment.moduleCount ≠ 0 →
        t.protocol.hasExpectation BootProtocol.allowBootModules = true) ∧
      (t.protocol.hasExpectation BootProtocol.expectMemoryMap = true →
        t.environment.has bootEnvHasMemoryMap = true) ∧
      t.environment.moduleCount = u.environment.moduleCount := by
  have hproto := hdated.protocol
  have hcomps : t.consumedComponents = u.consumedComponents :=
    (congrArg BootTransaction.consumedComponents hdated.same :)
  have hsegs := hdated.segmentCount_eq hprep.planLayout
  have hkind : t.protocol.terminalExecution = start.protocol.terminalExecution := by
    rw [hproto, hprep.protocol]
  have hlimits : t.core.product.limits = start.core.product.limits := by
    rw [← hprep.product]
    exact (congrArg (fun t => t.core.product.limits) hdated.same :)
  by_cases hdir : start.protocol.terminalExecution = .directEntry
  · obtain ⟨hbound, hcounted⟩ := hprep.counted hdir
    constructor
    · intro h
      refine ⟨hkind.trans hdir, h.modules, h.memoryMap, ?_⟩
      have hcount := h.counted
      rw [hcomps, hcounted, hsegs] at hcount
      omega
    · rintro ⟨_, hmodules, hmap, hcount⟩
      refine ⟨⟨hdated.modules, hdated.flags⟩, hmodules, hmap, ?_, ?_⟩
      · rw [hsegs, hcount, hlimits]
        exact hbound
      · rw [hsegs, hcount, hcomps]
        exact hcounted
  · have hmanaged : start.protocol.terminalExecution = .firmwareManagedImage := by
      cases hexec : start.protocol.terminalExecution with
      | unknown => exact absurd hexec hknown
      | directEntry => exact absurd hexec hdir
      | firmwareManagedImage => rfl
    constructor
    · intro h
      -- A managed image counts as a component, but is no segment of a plan.
      have hcount := h.counted
      rw [hcomps, hsegs] at hcount
      rw [hdated.managed (by rw [hkind]; exact hdir)] at hcount
      exact absurd hcount (hprep.miscounted hmanaged)
    · rintro ⟨h, _⟩
      exact absurd (hkind.symm.trans h) hdir

variable {normalized : MutableMemoryMap}

variable (h : Dated u t) (hmap : u.input.normalizedMemoryMap = some normalized)
include h hmap

theorem Dated.normalizedMemoryMap :
    ∃ destination, t.input.normalizedMemoryMap = some destination ∧
      { normalized with regions := [] } = { destination with regions := [] } := by
  have hsame : t.input.normalizedMemoryMap.map (fun map => { map with regions := [] }) =
      u.input.normalizedMemoryMap.map fun map => { map with regions := [] } :=
    (congrArg (fun t => t.input.normalizedMemoryMap) h.same :)
  rw [hmap, Option.map_some] at hsame
  obtain ⟨destination, hdst, harray⟩ := Option.map_eq_some_iff.mp hsame
  exact ⟨destination, hdst, harray.symm⟩

/-- With the environment of the prepare, a refresh plans for the same transaction again. -/
theorem Dated.unplanned_dated :
    unplanned (Boot.dated t u.environment normalized) = unplanned u := by
  have hadd : ∀ v : BootTransaction, unplanned (Boot.dated v u.environment normalized) =
      { undated v with
        environment := u.environment
        input := { (undated v).input with normalizedMemoryMap := some normalized } } :=
    fun _ => rfl
  rw [hadd t, h.same, ← hmap]
  rfl

omit h hmap

theorem Settled.refresh {result : Except Failure BootTransaction}
    {log : List (Entry Callback Answer)} (h : Settled u) (hdated : Dated u t)
    (hstage : t.stage = .commitAttempt) (hdir : t.protocol.terminalExecution = .directEntry)
    (hmap : u.input.normalizedMemoryMap = some normalized)
    (hlog : (prepareProtocolPlan (Boot.dated t u.environment normalized)).Logs log result) :
    ∃ result', (refreshAfterCommit t u.environment).Logs log result' ∧
      ((∃ v, result' = .ok v) ↔ ∃ v, result = .ok v) := by
  obtain ⟨source, normalized', hmap', hnorm⟩ := h.normalized
  cases hmap.symm.trans hmap'
  obtain ⟨destination, hdst, harray⟩ := hdated.normalizedMemoryMap hmap
  have harch : t.arch = u.arch := (congrArg BootTransaction.arch hdated.same :)
  refine refreshAfterCommit_logs_of hstage (hdated.kind.trans hdir) h.valid ?_ hdst
    (memoryMapNormalize_again ?_ hnorm) hlog
  · rw [harch]
    exact h.architecture
  · exact (memoryMapNormalize_array hnorm).symm.trans harray

/-- A refresh with nothing new goes through exactly if the entry is a direct one and there is
room for the handoff once more. -/
theorem repeats_iff {p : Event} {arena : Arena}
    (hp : p = ⟨.prepare arena input, start, p.log, .ok u⟩)
    (hprepare : (prepare start arena input).Logs p.log (.ok u)) (hdated : Dated u t)
    (hstage : t.stage = .commitAttempt) :
    Repeats p u.environment t ↔ t.protocol.terminalExecution = .directEntry ∧
      Fits t u.plan.handoffArtifactSize := by
  have hres : p.result = .ok u := by rw [hp]
  obtain ⟨loaded, before, planning, hsplit, hplanning, hloaded⟩ := prepare_planning hprepare
  have hplanned : Planned loaded u := ((prepareProtocolPlan_quiet loaded).logs hplanning).2
  have hsettled : Settled u := hloaded.of_unplanned hplanned.same.symm
  obtain ⟨_, normalized, hmap, _⟩ := hsettled.normalized
  have hagain := hdated.unplanned_dated hmap
  -- what is planned again is a plan of the same protocol
  have hdirect {loaded : BootTransaction} (hplanned : Planned loaded u)
      (hdir : t.protocol.terminalExecution = .directEntry) :
      loaded.protocol.terminalExecution = .directEntry := by
    rwa [← hplanned.protocol, ← hdated.protocol]
  constructor
  · intro hrepeats
    by_cases hdir : t.protocol.terminalExecution = .directEntry
    · refine ⟨hdir, ?_⟩
      by_contra hfull
      obtain ⟨short, failure, hshort, hlog⟩ := (prepareProtocolPlan_replay
        (hplanned.same.symm.trans hagain.symm) (hdirect hplanned hdir) hplanning).2 hfull
      obtain ⟨result, hrefresh, hok⟩ := hsettled.refresh hdated hstage hdir hmap hlog
      obtain ⟨v, hv⟩ := hok.mp (hrepeats before planning loaded short result hsplit
        (by rw [hres]; exact hplanning) hshort hrefresh)
      cases hv
    · -- A managed image is refused by the first check.
      have hchecks : (t.stage != .commitAttempt || t.terminalRequest.kind != .directEntry ||
          !u.environment.isValid || u.environment.architecture != t.arch.descriptor.id) =
            true := by
        simp [hdated.kind, hdir]
      obtain ⟨v, hv⟩ := hrepeats before planning loaded [] _ hsplit
        (by rw [hres]; exact hplanning) List.nil_prefix
        (Act.logs_bind_refuseIf.mpr (.inl ⟨hchecks, rfl, rfl⟩))
      cases hv
  · rintro ⟨hdir, hfits⟩ before' planning' loaded' log result hsplit' hplan' hprefix hlog
    rw [hres] at hplan'
    have hplanned' : Planned loaded' u := ((prepareProtocolPlan_quiet loaded').logs hplan').2
    obtain ⟨v, hv⟩ := (prepareProtocolPlan_replay (hplanned'.same.symm.trans hagain.symm)
      (hdirect hplanned' hdir) hplan').1 hfits
    obtain ⟨result', hrefresh, hok⟩ := hsettled.refresh hdated hstage hdir hmap hv
    obtain ⟨_, rfl⟩ := Prog.logs_unique hlog hrefresh hprefix List.prefix_rfl
    exact hok.mpr ⟨v, rfl⟩

end Admission

theorem transactionInitialize_known {core : CoreContext} {arch : Located ArchOps}
    {protocol : Located BootProtocol} {imageFormat : Located ImageFormatOps}
    {start : BootTransaction}
    (h : transactionInitialize core arch protocol imageFormat = .ok start) :
    start.protocol.terminalExecution ≠ .unknown := by
  simp only [transactionInitialize, bind_eq_ok, refuse_eq_ok, demand_eq_ok, pure_eq_ok,
    exists_const] at h
  obtain ⟨hchecks, _, _, _, _, _, _, _, _, _, rfl⟩ := h
  simp only [Bool.or_eq_false_iff, Bool.not_eq_false'] at hchecks
  have hvalid : protocol.value.isValid = true := by tauto
  unfold BootProtocol.isValid at hvalid
  split at hvalid
  · cases hvalid
  · simp only [Bool.and_eq_true, bne_iff_ne] at hvalid
    exact hvalid.1.1.1.1.2

/-- **Admission along a run.**  Every plan that is acted on is admitted, and a refresh with
nothing new goes through, exactly if the refreshes have changed nothing that preparing has
checked or counted. -/
theorem keepsAdmission_iff {core : CoreContext} {arch : Located ArchOps}
    {protocol : Located BootProtocol} {imageFormat : Located ImageFormatOps}
    {start t : BootTransaction} {events : List Event}
    (hstart : transactionInitialize core arch protocol imageFormat = .ok start)
    (hrun : Run start events t) : KeepsAdmission events t ↔ RefreshesAlike events t := by
  have hfresh := (transactionInitialize_fresh hstart).1
  by_cases hacts : Acts t
  · have hfailed : t.stage ≠ .failed := by
      intro hfailed
      simp [Acts, hfailed] at hacts
    have hevents : events ≠ [] := by
      intro hnil
      simp [Acts, hrun.eq_of_nil hnil, hfresh] at hacts
    obtain ⟨p, rest, arena, input, u, rfl, hp, hdated, hbuilt⟩ := hrun.dated hfresh hevents hfailed
    have hlog : (prepare start arena input).Logs p.log (.ok u) := by
      have hvalid := hrun.valid p (by simp)
      rw [hp] at hvalid
      exact hvalid
    have hprep : Prepared start input u := (prepare_logs hlog).2.2.2
    have hfirst : p.call.environment = some u.environment := by
      rw [hp]
      exact hprep.given
    have hafter : p.after = u := by
      rw [hp]
      rfl
    have hadm := admitted_iff hprep hdated (transactionInitialize_known hstart)
    have hrepeats := repeats_iff hp hlog hdated
    constructor
    · intro h
      have hrules := hadm.mp (h.admitted hacts t.environment hbuilt)
      refine ⟨fun _ => hrules.1, ?_, ?_⟩
      · intro _ p' rest' first environment hsplit hfirst' hbuilt'
        cases hsplit
        cases hfirst.symm.trans hfirst'
        cases hbuilt.symm.trans hbuilt'
        exact hrules.2
      · intro hstage p' rest' hsplit
        cases hsplit
        rw [hafter]
        exact ((hrepeats hstage).mp (h.repeated hstage p rest _ rfl hfirst)).2
    · intro h
      refine ⟨?_, ?_⟩
      · intro _ environment hbuilt'
        cases hbuilt.symm.trans hbuilt'
        exact hadm.mpr ⟨h.direct hacts, h.complies hacts p rest _ _ rfl hfirst hbuilt⟩
      · intro hstage p' rest' environment hsplit hfirst'
        cases hsplit
        cases hfirst.symm.trans hfirst'
        refine (hrepeats hstage).mpr ⟨h.direct hacts, ?_⟩
        have hroom := h.room hstage p rest rfl
        rwa [hafter] at hroom
  · have hstage : t.stage ≠ .commitAttempt := fun hstage => hacts (.inr (.inl hstage))
    constructor
    · intro _
      exact ⟨fun h => absurd h hacts, fun h => absurd h hacts, fun h => absurd h hstage⟩
    · intro _
      exact ⟨fun h => absurd h hacts, fun h => absurd h hstage⟩

namespace Bench

/-- A boot without a refresh keeps the rules. -/
theorem keepsAdmission_closed : ∃ events, Run start events closed ∧
    builtFrom events = some environment ∧ Acts closed ∧ KeepsAdmission events closed := by
  refine ⟨_, closed_run, rfl, .inr (.inr closed_stage),
    (keepsAdmission_iff initialized closed_run).mpr ⟨?_, ?_, ?_⟩⟩
  · intro _
    decide +kernel
  · intro _ p rest first last hsplit hfirst hlast
    cases hsplit
    cases hfirst
    cases hlast
    decide +kernel
  · intro hstage
    rw [closed_stage] at hstage
    cases hstage

/-- An environment with a module, which the protocol does not take. -/
def modular : BootEnvironment := { environment with
  bootModules := [⟨0x110000, 16, .auxiliary⟩]
  flags := bootEnvHasMemoryMap ||| bootEnvHasBootModules }

def refreshed : BootTransaction := called 16 (.refreshAfterCommit modular) (committed 16)

theorem refreshed_run : Run start
    (committedEvents 16 ++ [event 16 (.refreshAfterCommit modular) (committed 16)]) refreshed :=
  called_run (committed_run 16) 16 (.refreshAfterCommit modular)

theorem refreshed_stage : refreshed.stage = .commitAttempt := by decide +kernel

/-- A refresh takes an environment that preparing refuses. -/
theorem refreshed_unadmitted : ∃ events, Run start events refreshed ∧
    refreshed.stage = .commitAttempt ∧ builtFrom events = some modular ∧
    environmentIsAdmitted start modular = false ∧ ¬KeepsAdmission events refreshed := by
  refine ⟨_, refreshed_run, refreshed_stage, rfl, by decide +kernel, ?_⟩
  intro h
  have hmodules := (h.admitted (.inr (.inl refreshed_stage)) modular rfl).modules (by decide)
  exact absurd hmodules (by decide +kernel)

end Bench

end Ribon.Boot
