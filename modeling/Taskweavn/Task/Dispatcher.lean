import Taskweavn.Task.Executor

/-!
# The background dispatcher

`FixedRouteExecutionDispatcher` runs the executor in a worker thread
(`taskweavn/task/execution.py`).  `request_dispatch` queues a session, unless it
is queued already or being drained.  The worker takes a session from the queue,
marks it as running, ticks until a tick does not complete a task or the bound on
ticks is reached, and then clears the mark.

`step` is the transition system: requests, the moves of the worker, and bus
operations of other actors that can make a task eligible, each of which owes a
request for its session.  Beside the state of the program a `DispatchState`
remembers which sessions owe a request, which had a request accepted, and what
their last ticks returned.

The dispatcher can leave work behind in two ways.  A drain that reaches its bound
stops with work left; and a request that comes after the last tick of a drain and
before the mark is cleared is answered `already_running`, and nothing comes of it.
`noWorkLeft_of_inTime` proves that there is no third way.
-/

namespace Taskweavn

open Lib Py

inductive ExecutionDispatchRequestStatus
  | queued
  | alreadyPending
  | alreadyRunning
  | disabled
  | healthError
  | closed
deriving DecidableEq, Repr

/-- `ExecutionDispatchRequestResult.accepted` -/
def ExecutionDispatchRequestStatus.accepted : ExecutionDispatchRequestStatus → Bool
  | queued | alreadyPending | alreadyRunning => true
  | disabled | healthError | closed => false

/-- The worker thread: not started or ended, waiting for a session, about to tick,
done with its ticks and about to clear the mark, or ending with an exception. -/
inductive Worker
  | absent
  | waiting
  | draining (sessionId : String) (ticksLeft : ℕ)
  | finishing (sessionId : String) (raised : Bool)
  | dying
deriving DecidableEq

/-- The session with the running mark. -/
def Worker.running : Worker → Option String
  | draining s _ | finishing s _ => some s
  | absent | waiting | dying => none

structure FixedRouteExecutionDispatcher where
  hasAgent : Bool := true
  defaultAgentId : String := "default_agent"
  hasStore : Bool := false
  maxTicksPerTrigger : ℕ := 10
  enabled : Bool := true
  pendingSessions : List String := []
  worker : Worker := .absent
  closed : Bool := false
deriving DecidableEq

namespace FixedRouteExecutionDispatcher

/-- `_ensure_worker_locked` -/
def ensureWorker (d : FixedRouteExecutionDispatcher) : FixedRouteExecutionDispatcher :=
  if d.worker = .absent then { d with worker := .waiting } else d

def requestDispatch (d : FixedRouteExecutionDispatcher) (sessionId : String) :
    ExecutionDispatchRequestStatus × FixedRouteExecutionDispatcher :=
  if d.closed then (.closed, d)
  else if d.enabled = false then (.disabled, d)
  else if d.hasAgent = false then (.healthError, d)
  else if sessionId ∈ d.pendingSessions then (.alreadyPending, d)
  else if d.worker.running = some sessionId then (.alreadyRunning, d)
  else (.queued, ensureWorker { d with pendingSessions := d.pendingSessions ++ [sessionId] })

def stop (d : FixedRouteExecutionDispatcher) : FixedRouteExecutionDispatcher :=
  { d with closed := true, pendingSessions := [] }

/-- The worker after a tick of the drain loop; `none` is a tick that raised. -/
def afterTick (sessionId : String) (ticksLeft : ℕ) : Option TaskExecutionTickStatus → Worker
  | some .completed =>
    if ticksLeft ≤ 1 then .finishing sessionId false else .draining sessionId (ticksLeft - 1)
  | some _ => .finishing sessionId false
  | none => .finishing sessionId true

end FixedRouteExecutionDispatcher

/-- The dispatcher and the bus, and what has been seen of them. -/
structure DispatchState where
  bus : InMemoryTaskBus := {}
  dispatcher : FixedRouteExecutionDispatcher
  owed : List String := []
  accepted : List String := []
  lastTick : Dict String (Option TaskExecutionTickStatus) := Dict.empty

/-- A bus operation that can make a task eligible: publish, retry, resume. -/
def BusOp.reopening : BusOp → Bool
  | .publish .. => true
  | .transition _ _ tr => tr.reopens
  | _ => false

/-- The agent's own calls during a tick: it lets its task wait. -/
def BusOp.waits (sessionId : String) : BusOp → Bool
  | .transition s _ (.waitForUser _) | .transition s _ (.waitForConfirmation _) => s == sessionId
  | _ => false

inductive DispatchAction
  | requestDispatch (sessionId : String)
  | operate (call : BusCall)
  | pop
  | tick (agent : TaskDomain → AgentOutcome) (during : List BusCall) (claimEnv closeEnv : CallEnv)
  | clear
  | exit
  | stop

namespace DispatchState

/-- `request_dispatch`; from here on the session owes no request. -/
def request (st : DispatchState) (sessionId : String) : DispatchState :=
  let (status, d) := st.dispatcher.requestDispatch sessionId
  { st with
    dispatcher := d
    owed := st.owed.filter (· ≠ sessionId)
    accepted := if status.accepted then sessionId :: st.accepted else st.accepted }

/-- A bus operation; when it succeeds it owes a request. -/
def operate (st : DispatchState) (call : BusCall) : DispatchState :=
  let (out, bus) := TaskBus.step st.bus call
  { st with
    bus := bus
    owed := if out.isOk then call.op.session :: st.owed else st.owed }

/-- The executor that `_drain_session` builds for a tick. -/
def executor (st : DispatchState) (sessionId : String) (agent : TaskDomain → AgentOutcome) :
    FixedRouteTaskExecutor where
  sessionId := sessionId
  defaultAgentId := st.dispatcher.defaultAgentId
  defaultAgent := if st.dispatcher.hasAgent then some agent else none
  hasStore := st.dispatcher.hasStore

/-- One round of the loop in `_drain_session`. -/
def drainTick (st : DispatchState) (sessionId : String) (ticksLeft : ℕ)
    (agent : TaskDomain → AgentOutcome) (i : Interference) : DispatchState :=
  let (out, bus) := (st.executor sessionId agent).tick st.bus i
  let status := out.toOption.map TaskExecutionTickResult.status
  { st with
    bus := bus
    dispatcher :=
      { st.dispatcher with
        worker := FixedRouteExecutionDispatcher.afterTick sessionId ticksLeft status }
    lastTick := st.lastTick.set sessionId status }

/-- One step of the system; `none` where the action is not possible. -/
def step (st : DispatchState) : DispatchAction → Option DispatchState
  | .requestDispatch sessionId => some (st.request sessionId)
  | .operate call => if call.op.reopening then some (st.operate call) else none
  | .pop =>
    match st.dispatcher.worker, st.dispatcher.pendingSessions, st.dispatcher.closed with
    | .waiting, sessionId :: rest, false =>
      some { st with
        dispatcher :=
          { st.dispatcher with
            pendingSessions := rest
            worker := .draining sessionId (max 1 st.dispatcher.maxTicksPerTrigger) } }
    | _, _, _ => none
  | .tick agent during claimEnv closeEnv =>
    match st.dispatcher.worker with
    | .draining sessionId ticksLeft =>
      if during.all (fun c => c.op.waits sessionId) then
        some (st.drainTick sessionId ticksLeft agent { during, claimEnv, closeEnv })
      else none
    | _ => none
  | .clear =>
    match st.dispatcher.worker with
    | .finishing _ raised =>
      some { st with
        dispatcher := { st.dispatcher with worker := if raised then .dying else .waiting } }
    | _ => none
  | .exit =>
    if st.dispatcher.worker = .dying ∨
        (st.dispatcher.worker = .waiting ∧ st.dispatcher.closed = true) then
      some { st with dispatcher := { st.dispatcher with worker := .absent } }
    else none
  | .stop => some { st with dispatcher := st.dispatcher.stop }

end DispatchState

/-! ### Eligible work -/

namespace InMemoryTaskBus

/-- A pending task with no parent or a finished one. -/
def Eligible (bus : InMemoryTaskBus) (s : String) (t : TaskDomain) : Prop :=
  t.status = .pending ∧
    ∀ p, t.parentId = some p → ∃ u, bus.get s p = some u ∧ u.status = .done

def HasEligible (bus : InMemoryTaskBus) (s : String) : Prop :=
  ∃ i t, bus.get s i = some t ∧ bus.Eligible s t

/-- Beside the task `x` no task of the session can run, also when `x` is done. -/
def OnlyOne (bus : InMemoryTaskBus) (s x : String) : Prop :=
  ∀ i t, bus.get s i = some t → t.status = .pending →
    bus.Eligible s t ∨ t.parentId = some x → i = x

end InMemoryTaskBus

namespace DispatchState

/-- The last tick of a session returned `completed` or `idle`. -/
def WellTicked (st : DispatchState) (s : String) : Prop :=
  st.lastTick.get? s = some (some .completed) ∨ st.lastTick.get? s = some (some .idle)

/-- The property: an open, enabled dispatcher with an agent that is through with
a session, whose requests were accepted and made and whose last tick returned
`completed` or `idle`, has left no eligible task. -/
def NoWorkLeft (st : DispatchState) : Prop :=
  st.dispatcher.closed = false → st.dispatcher.enabled = true → st.dispatcher.hasAgent = true →
  ∀ s, s ∉ st.dispatcher.pendingSessions → st.dispatcher.worker.running ≠ some s →
    s ∈ st.accepted → s ∉ st.owed → st.WellTicked s → ¬st.bus.HasEligible s

/-- No request comes too late for a drain that is over, while there is work; and
the last tick of a drain that its bound allows does not leave the agent's success
with further work. -/
def InTime (st : DispatchState) : DispatchAction → Prop
  | .requestDispatch s =>
    (∃ raised, st.dispatcher.worker = .finishing s raised) → st.WellTicked s →
      ¬st.bus.HasEligible s
  | .tick agent during claimEnv closeEnv =>
    ∀ s claimed bus', st.dispatcher.worker = .draining s 1 →
      (st.executor s agent).claim st.bus { during, claimEnv, closeEnv } =
        (.ok (.inr claimed), bus') →
      (agent claimed).succeeds = true → st.bus.OnlyOne s claimed.taskId
  | _ => True

end DispatchState

/-! ### What a tick does to the eligible tasks -/

theorem BusOp.session_of_waits {op : BusOp} {s : String} (h : op.waits s = true) :
    op.session = s := by
  cases op with
  | transition s' i tr =>
    cases tr with
    | waitForUser _ => exact beq_iff_eq.mp h
    | waitForConfirmation _ => exact beq_iff_eq.mp h
    | _ => cases h
  | _ => cases h

namespace InMemoryTaskBus

variable {bus bus' : InMemoryTaskBus} {s : String}

theorem HasEligible.of_get_eq (h : bus.HasEligible s) (hget : ∀ i, bus'.get s i = bus.get s i) :
    bus'.HasEligible s := by
  obtain ⟨i, t, ht, hp, hparent⟩ := h
  refine ⟨i, t, (hget i).trans ht, hp, ?_⟩
  intro p hpar
  obtain ⟨u, hu, hd⟩ := hparent p hpar
  exact ⟨u, (hget p).trans hu, hd⟩

theorem eligibleAmong_of_eligible (hb : bus.Keyed) {t : TaskDomain} (h : bus.Eligible s t) :
    eligibleAmong (bus.listForSession s) t = true := by
  obtain ⟨hp, hparent⟩ := h
  have hlookup := get?_taskById hb (f := id) (fun _ => rfl) s
  rw [List.map_id] at hlookup
  simp only [eligibleAmong, hp, beq_self_eq_true, Bool.true_and]
  cases hpar : t.parentId with
  | none => rfl
  | some p =>
    obtain ⟨u, hu, hd⟩ := hparent p hpar
    simp only [hlookup p, hu, Option.map_some, id_eq, hd, beq_self_eq_true]

theorem not_hasEligible_of_find? (hb : bus.Keyed)
    (h : (bus.listForSession s).find? (eligibleAmong (bus.listForSession s)) = none) :
    ¬bus.HasEligible s := by
  rintro ⟨i, t, ht, hel⟩
  have hk : t.key = (s, i) := hb _ t ht
  have hm : t ∈ bus.listForSession s :=
    mem_listForSession.mpr ⟨Dict.mem_values.mpr ⟨_, ht⟩, congrArg Prod.fst hk⟩
  exact List.find?_eq_none.mp h t hm (eligibleAmong_of_eligible hb hel)

/-- From `bus` to `bus'`, the task `x` is worked on: tasks that are pending were
so before and are not `x`, and tasks that are done were so before or are `x`. -/
def WorksOn (s x : String) (bus bus' : InMemoryTaskBus) : Prop :=
  ∀ i t, bus'.get s i = some t →
    (t.status = .pending → bus.get s i = some t ∧ i ≠ x) ∧
    (t.status = .done → bus.get s i = some t ∨ i = x)

theorem OnlyOne.not_hasEligible {x : String} (h : bus.OnlyOne s x) (hw : WorksOn s x bus bus') :
    ¬bus'.HasEligible s := by
  rintro ⟨i, t, ht, hp, hparent⟩
  obtain ⟨hg, hne⟩ := (hw i t ht).1 hp
  refine hne (h i t hg hp ?_)
  by_cases hx : t.parentId = some x
  · exact .inr hx
  · refine .inl ⟨hp, ?_⟩
    intro p hpar
    obtain ⟨u, hu, hd⟩ := hparent p hpar
    rcases (hw p u hu).2 hd with hu' | rfl
    · exact ⟨u, hu', hd⟩
    · exact absurd hpar hx

theorem WorksOn.claim (hb : bus.Keyed) {capability agentId : String} {env : CallEnv}
    {claimed : TaskDomain}
    (h : TaskBus.step bus ⟨.claimNext s capability agentId, env⟩ =
      (.ok (.optional (some claimed)), bus')) : WorksOn s claimed.taskId bus bus' := by
  obtain ⟨_, _, _, hstored, hrunning, hsession⟩ := claim_reply hb
    (c := ⟨.claimNext s capability agentId, env⟩) rfl (congrArg Prod.fst h)
  rw [TaskDomain.key, hsession] at hstored
  have hcases := changed_cases hb ⟨.claimNext s capability agentId, env⟩
  rw [h] at hstored hcases
  intro i t ht
  rcases hcases (s, i) with hsame | ⟨t', ht', hch⟩
  · refine ⟨fun hp => ⟨hsame.symm.trans ht, ?_⟩, fun _ => .inl (hsame.symm.trans ht)⟩
    rintro rfl
    have hrun : t.status = .running :=
      (congrArg TaskDomain.status (Option.some.inj (ht.symm.trans hstored))).trans hrunning
    rw [hp] at hrun
    cases hrun
  · obtain rfl : t = t' := Option.some.inj (ht.symm.trans ht')
    have hrun : t.status = .running := by
      cases hch with
      | claimed u _ _ _ _ _ _ _ he => rw [he]; rfl
    refine ⟨?_, ?_⟩ <;> intro hs <;> rw [hs] at hrun <;> cases hrun

theorem WorksOn.step {bus₀ : InMemoryTaskBus} {x : String} {c : BusCall} (hb : bus.Keyed)
    (hw : WorksOn s x bus₀ bus)
    (hc : c.op.waits s = true ∨ ∃ ref, c.op = .transition s x (.complete ref)) :
    WorksOn s x bus₀ (TaskBus.step bus c).2 := by
  intro i t ht
  rcases changed_cases hb c (s, i) with hsame | ⟨t', ht', hch⟩
  · exact hw i t (hsame.symm.trans ht)
  · obtain rfl : t = t' := Option.some.inj (ht.symm.trans ht')
    generalize (TaskBus.step bus c).1 = reply at hch
    cases hch with
    | published _ hop => simp [hop, BusOp.waits] at hc
    | claimed _ _ _ hop => simp [hop, BusOp.waits] at hc
    | recovered _ _ _ hop => simp [hop, BusOp.waits] at hc
    | moved u tr hop _ _ he =>
      rw [hop] at hc
      obtain ⟨_, rfl, _, rfl⟩ | ⟨_, rfl, _⟩ | ⟨_, _, _, _, rfl⟩ |
        ⟨_, rfl | rfl, _⟩ | ⟨_, rfl, _⟩ | ⟨_, rfl, _⟩ | ⟨_, _, _, rfl, _⟩ :=
        Transition.updated_cases he
      · have hx : i = x := by simpa [BusOp.waits] using hc
        refine ⟨?_, fun _ => .inr hx⟩
        intro h
        cases h
      · simp [BusOp.waits] at hc
      · refine ⟨?_, ?_⟩ <;> intro h <;> cases h
      · simp [BusOp.waits] at hc
      · simp [BusOp.waits] at hc
      · simp [BusOp.waits] at hc
      · simp [BusOp.waits] at hc
      · simp [BusOp.waits] at hc

theorem WorksOn.run {bus₀ : InMemoryTaskBus} {x : String} {calls : List BusCall} (hb : bus.Keyed)
    (hw : WorksOn s x bus₀ bus)
    (hc : ∀ c ∈ calls, c.op.waits s = true ∨ ∃ ref, c.op = .transition s x (.complete ref)) :
    WorksOn s x bus₀ (TaskBus.run bus calls) := by
  have hinv : (TaskBus.run bus calls).Keyed ∧ WorksOn s x bus₀ (TaskBus.run bus calls) :=
    final_invariant (I := fun b : InMemoryTaskBus => b.Keyed ∧ WorksOn s x bus₀ b)
      (fun b c h hc => ⟨keyed_step h.1 c, h.2.step h.1 hc⟩) calls bus ⟨hb, hw⟩ hc
  exact hinv.2

end InMemoryTaskBus

namespace DispatchState

variable {st st' : DispatchState} {s : String}

theorem drainTick_own {n : ℕ} {agent : TaskDomain → AgentOutcome} {i : Interference}
    (hb : st.bus.Keyed) (hearly : i.early = []) (hduring : ∀ c ∈ i.during, c.op.waits s = true)
    (hlast : n = 1 → ∀ claimed bus',
      (st.executor s agent).claim st.bus i = (.ok (.inr claimed), bus') →
      (agent claimed).succeeds = true → st.bus.OnlyOne s claimed.taskId)
    (hn : 1 ≤ n) (hw : (st.drainTick s n agent i).WellTicked s) :
    (∃ m, (st.drainTick s n agent i).dispatcher.worker = .draining s m) ∨
      ¬(st.drainTick s n agent i).bus.HasEligible s := by
  have hlastTick : (st.drainTick s n agent i).lastTick.get? s =
      some (((st.executor s agent).tick st.bus i).1.toOption.map TaskExecutionTickResult.status) :=
    Dict.get?_set_self _ _ _
  have hworker : (st.drainTick s n agent i).dispatcher.worker =
      FixedRouteExecutionDispatcher.afterTick s n
        (((st.executor s agent).tick st.bus i).1.toOption.map TaskExecutionTickResult.status) := rfl
  have hbus : (st.drainTick s n agent i).bus = ((st.executor s agent).tick st.bus i).2 := rfl
  rw [WellTicked, hlastTick] at hw
  rw [hworker, hbus]
  cases hout : ((st.executor s agent).tick st.bus i).1 with
  | error e =>
    rw [hout] at hw
    simp [Except.toOption] at hw
  | ok r =>
    rw [hout] at hw
    simp only [Except.toOption, Option.map_some, Option.some.injEq] at hw ⊢
    rcases hw with hr | hr
    · rw [hr]
      by_cases h1 : n = 1
      · -- the bound is reached: the claimed task was the only one that could run
        right
        obtain ⟨agent', claimed, bus', hagent, hcl, hsession, hsucc, ref, hrun⟩ :=
          FixedRouteTaskExecutor.tick_completed hb hout hr
        obtain rfl : agent = agent' := by
          have : (if st.dispatcher.hasAgent then some agent else none) = some agent' := hagent
          split at this
          · exact Option.some.inj this
          · cases this
        obtain ⟨capability, hstep⟩ := FixedRouteTaskExecutor.claim_step hcl
        rw [hearly] at hstep
        have hb' : bus'.Keyed := by
          have := InMemoryTaskBus.keyed_step hb
            ⟨.claimNext (st.executor s agent).sessionId capability
              (st.executor s agent).defaultAgentId, i.claimEnv⟩
          rwa [show TaskBus.step st.bus _ = _ from hstep] at this
        have hworks : InMemoryTaskBus.WorksOn s claimed.taskId st.bus bus' :=
          InMemoryTaskBus.WorksOn.claim hb hstep
        rw [hrun]
        refine (hlast h1 claimed bus' hcl hsucc).not_hasEligible (hworks.run hb' ?_)
        intro c hc
        rcases List.mem_append.mp hc with hc | hc
        · exact .inl (hduring c hc)
        · rw [List.mem_singleton.mp hc]
          exact .inr ⟨ref, by rw [hsession]; rfl⟩
      · left
        refine ⟨n - 1, ?_⟩
        rw [FixedRouteExecutionDispatcher.afterTick, if_neg (by omega)]
    · right
      obtain ⟨hsame, hnone⟩ := FixedRouteTaskExecutor.tick_idle hout hr
      rw [hsame]
      exact InMemoryTaskBus.not_hasEligible_of_find? hb hnone

theorem get_drainTick_of_ne {s' : String} {n : ℕ} {agent : TaskDomain → AgentOutcome}
    {i : Interference} (hb : st.bus.Keyed) (hearly : i.early = []) (hlate : i.late = [])
    (hduring : ∀ c ∈ i.during, c.op.waits s = true) (hne : s ≠ s') (x : String) :
    (st.drainTick s n agent i).bus.get s' x = st.bus.get s' x := by
  obtain ⟨calls, hrun, hcalls⟩ := FixedRouteTaskExecutor.tick_run (st.executor s agent) hb i
  have hbus : (st.drainTick s n agent i).bus = TaskBus.run st.bus calls := hrun
  rw [hbus]
  refine InMemoryTaskBus.get_run_of_ne hb calls ?_ x
  intro c hc
  rcases hcalls c hc with h | h | h | h
  · rw [hearly] at h
    cases h
  · rw [BusOp.session_of_waits (hduring c h)]
    exact hne
  · rw [hlate] at h
    cases h
  · rw [h]
    exact hne

/-! ### The invariant -/

/-- Work in a session that was well served is on its way: a request is owed, the
session is queued, or the worker will tick again. -/
structure Inv (st : DispatchState) : Prop where
  keyed : st.bus.Keyed
  ticks : ∀ s n, st.dispatcher.worker = .draining s n → 1 ≤ n
  work : st.dispatcher.closed = false → st.dispatcher.enabled = true →
    st.dispatcher.hasAgent = true → ∀ s, st.bus.HasEligible s → s ∈ st.accepted →
    st.WellTicked s →
    s ∈ st.owed ∨ s ∈ st.dispatcher.pendingSessions ∨ ∃ n, st.dispatcher.worker = .draining s n

theorem Inv.noWorkLeft (h : st.Inv) : st.NoWorkLeft := by
  intro hopen hen hag s hpend hrun hacc howed hwt hel
  rcases h.work hopen hen hag s hel hacc hwt with h | h | ⟨n, h⟩
  · exact howed h
  · exact hpend h
  · rw [h] at hrun
    exact hrun rfl

theorem requestDispatch_cases {d : FixedRouteExecutionDispatcher} (hopen : d.closed = false)
    (hen : d.enabled = true) (hag : d.hasAgent = true) (s : String) :
    (d.requestDispatch s).2 = d ∧
      (s ∈ d.pendingSessions ∨ d.worker.running = some s) ∨
    (d.requestDispatch s).2.pendingSessions = d.pendingSessions ++ [s] ∧
      ∀ s' n, (d.requestDispatch s).2.worker = .draining s' n ↔ d.worker = .draining s' n := by
  unfold FixedRouteExecutionDispatcher.requestDispatch
  simp only [hopen, hen, hag, Bool.false_eq_true, Bool.true_eq_false, if_false]
  by_cases hp : s ∈ d.pendingSessions
  · rw [if_pos hp]
    exact .inl ⟨rfl, .inl hp⟩
  · rw [if_neg hp]
    by_cases hr : d.worker.running = some s
    · rw [if_pos hr]
      exact .inl ⟨rfl, .inr hr⟩
    · rw [if_neg hr]
      right
      unfold FixedRouteExecutionDispatcher.ensureWorker
      by_cases hw : d.worker = .absent
      · simp [hw]
      · simp [hw]

/-- A request that changes the dispatcher changes it only when it is open and can
work. -/
theorem requestDispatch_worker {d : FixedRouteExecutionDispatcher} {s s' : String} {n : ℕ}
    (h : (d.requestDispatch s).2.worker = .draining s' n) : d.worker = .draining s' n := by
  unfold FixedRouteExecutionDispatcher.requestDispatch at h
  repeat' split at h
  all_goals try exact h
  unfold FixedRouteExecutionDispatcher.ensureWorker at h
  split at h
  · cases h
  · exact h

theorem requestDispatch_config (d : FixedRouteExecutionDispatcher) (s : String) :
    (d.requestDispatch s).2.closed = d.closed ∧ (d.requestDispatch s).2.enabled = d.enabled ∧
      (d.requestDispatch s).2.hasAgent = d.hasAgent := by
  unfold FixedRouteExecutionDispatcher.requestDispatch FixedRouteExecutionDispatcher.ensureWorker
  repeat' split
  all_goals exact ⟨rfl, rfl, rfl⟩

theorem inv_request (h : st.Inv) (s : String) (hok : st.InTime (.requestDispatch s)) :
    (st.request s).Inv := by
  obtain ⟨hc1, hc2, hc3⟩ := requestDispatch_config st.dispatcher s
  refine ⟨h.keyed, fun s' n hw => h.ticks s' n (requestDispatch_worker hw), ?_⟩
  intro hopen hen hag s' hel hacc hwt
  have hopen' : st.dispatcher.closed = false := hc1.symm.trans hopen
  have hen' : st.dispatcher.enabled = true := hc2.symm.trans hen
  have hag' : st.dispatcher.hasAgent = true := hc3.symm.trans hag
  have hcases := requestDispatch_cases hopen' hen' hag' s
  have hwt' : st.WellTicked s' := hwt
  have hdisp : (st.request s).dispatcher = (st.dispatcher.requestDispatch s).2 := rfl
  rw [hdisp]
  by_cases hs : s' = s
  · -- the session of the request is queued, or being drained
    subst hs
    rcases hcases with ⟨hsame, hp | hr⟩ | ⟨hp, _⟩
    · rw [hsame]
      exact .inr (.inl hp)
    · rw [hsame]
      cases hw : st.dispatcher.worker with
      | draining x n =>
        rw [hw] at hr
        obtain rfl : x = s' := Option.some.inj hr
        exact .inr (.inr ⟨n, rfl⟩)
      | finishing x raised =>
        rw [hw] at hr
        obtain rfl : x = s' := Option.some.inj hr
        exact absurd hel (hok ⟨raised, hw⟩ hwt')
      | absent => rw [hw] at hr; cases hr
      | waiting => rw [hw] at hr; cases hr
      | dying => rw [hw] at hr; cases hr
    · rw [hp]
      exact .inr (.inl (by simp))
  · have hacc' : s' ∈ st.accepted := by
      have : s' ∈ if (st.dispatcher.requestDispatch s).1.accepted = true then s :: st.accepted
          else st.accepted := hacc
      split at this
      · exact (List.mem_cons.mp this).resolve_left hs
      · exact this
    have hkeep : s' ∈ st.owed → s' ∈ (st.request s).owed := by
      intro ho
      exact List.mem_filter.mpr ⟨ho, by simpa using hs⟩
    rcases h.work hopen' hen' hag' s' hel hacc' hwt' with ho | hp | ⟨n, hw⟩
    · exact .inl (hkeep ho)
    · rcases hcases with ⟨hsame, _⟩ | ⟨hp', _⟩
      · rw [hsame]
        exact .inr (.inl hp)
      · rw [hp']
        exact .inr (.inl (List.mem_append_left _ hp))
    · rcases hcases with ⟨hsame, _⟩ | ⟨_, hw'⟩
      · rw [hsame]
        exact .inr (.inr ⟨n, hw⟩)
      · exact .inr (.inr ⟨n, (hw' s' n).mpr hw⟩)

theorem inv_operate (h : st.Inv) (call : BusCall) : (st.operate call).Inv := by
  refine ⟨InMemoryTaskBus.keyed_step h.keyed call, h.ticks, ?_⟩
  intro hopen hen hag s hel hacc hwt
  have howed : (st.operate call).owed =
      if (TaskBus.step st.bus call).1.isOk then call.op.session :: st.owed else st.owed := rfl
  have hsub : s ∈ st.owed → s ∈ (st.operate call).owed := by
    intro ho
    rw [howed]
    split
    · exact List.mem_cons_of_mem _ ho
    · exact ho
  by_cases hnew : call.op.session = s ∧ (TaskBus.step st.bus call).1.isOk = true
  · left
    rw [howed, if_pos hnew.2, hnew.1]
    exact List.mem_cons_self
  · -- the call has left the session alone
    have hget : ∀ i, st.bus.get s i = (st.operate call).bus.get s i := by
      intro i
      rcases InMemoryTaskBus.changed_cases h.keyed call (s, i) with hsame | ⟨t', _, hch⟩
      · exact hsame.symm
      · have hok : (TaskBus.step st.bus call).1.isOk = true := by
          generalize (TaskBus.step st.bus call).1 = reply at hch
          cases hch <;> rfl
        exact absurd ⟨hch.session_eq, hok⟩ hnew
    rcases h.work hopen hen hag s (hel.of_get_eq hget) hacc hwt with ho | hrest
    · exact .inl (hsub ho)
    · exact .inr hrest

theorem inv_drainTick {n : ℕ} {agent : TaskDomain → AgentOutcome} {i : Interference}
    (h : st.Inv) (hwork : st.dispatcher.worker = .draining s n) (hearly : i.early = [])
    (hlate : i.late = []) (hduring : ∀ c ∈ i.during, c.op.waits s = true)
    (hlast : n = 1 → ∀ claimed bus',
      (st.executor s agent).claim st.bus i = (.ok (.inr claimed), bus') →
      (agent claimed).succeeds = true → st.bus.OnlyOne s claimed.taskId) :
    (st.drainTick s n agent i).Inv := by
  refine ⟨?_, ?_, ?_⟩
  · obtain ⟨calls, hrun, _⟩ := FixedRouteTaskExecutor.tick_run (st.executor s agent) h.keyed i
    have hbus : (st.drainTick s n agent i).bus = TaskBus.run st.bus calls := hrun
    rw [hbus]
    exact InMemoryTaskBus.keyed_run h.keyed calls
  · intro s' m hw
    have hafter : FixedRouteExecutionDispatcher.afterTick s n
        (((st.executor s agent).tick st.bus i).1.toOption.map TaskExecutionTickResult.status) =
        .draining s' m := hw
    unfold FixedRouteExecutionDispatcher.afterTick at hafter
    split at hafter
    · split at hafter
      · cases hafter
      · cases hafter
        omega
    · cases hafter
    · cases hafter
  · intro hopen hen hag s' hel hacc hwt
    by_cases hs : s = s'
    · subst hs
      rcases drainTick_own h.keyed hearly hduring hlast (h.ticks s n hwork) hwt with hm | hno
      · exact .inr (.inr hm)
      · exact absurd hel hno
    · have hget : ∀ x, st.bus.get s' x = (st.drainTick s n agent i).bus.get s' x := by
        intro x
        exact (get_drainTick_of_ne h.keyed hearly hlate hduring hs x).symm
      have hwt' : st.WellTicked s' := by
        have hl : (st.drainTick s n agent i).lastTick.get? s' = st.lastTick.get? s' :=
          Dict.get?_set_ne _ _ hs
        rwa [WellTicked, hl] at hwt
      rcases h.work hopen hen hag s' (hel.of_get_eq hget) hacc hwt' with ho | hp | ⟨m, hw⟩
      · exact .inl ho
      · exact .inr (.inl hp)
      · rw [hwork] at hw
        cases hw
        exact absurd rfl hs

theorem Inv.of_worker {w : Worker} (h : st.Inv) (hnew : ∀ s n, w ≠ .draining s n)
    (hold : ∀ s n, st.dispatcher.worker ≠ .draining s n) :
    Inv { st with dispatcher := { st.dispatcher with worker := w } } := by
  refine ⟨h.keyed, fun s n hd => absurd hd (hnew s n), ?_⟩
  intro hopen hen hag s hel hacc hwt
  rcases h.work hopen hen hag s hel hacc hwt with ho | hp | ⟨n, hd⟩
  · exact .inl ho
  · exact .inr (.inl hp)
  · exact absurd hd (hold s n)

/-- **One step keeps the invariant**, if it is taken in time. -/
theorem inv_step {a : DispatchAction} (h : st.Inv) (hok : st.InTime a)
    (hstep : st.step a = some st') : st'.Inv := by
  cases a with
  | requestDispatch s =>
    obtain rfl := Option.some.inj hstep
    exact inv_request h s hok
  | operate call =>
    simp only [step] at hstep
    split at hstep
    · obtain rfl := Option.some.inj hstep
      exact inv_operate h call
    · cases hstep
  | pop =>
    simp only [step] at hstep
    split at hstep
    · rename_i x rest hw hpend hopen
      obtain rfl := Option.some.inj hstep
      refine ⟨h.keyed, ?_, ?_⟩
      · intro s n hd
        obtain ⟨rfl, rfl⟩ := Worker.draining.inj hd
        exact le_max_left _ _
      · intro _ hen hag s hel hacc hwt
        rcases h.work hopen hen hag s hel hacc hwt with ho | hp | ⟨n, hd⟩
        · exact .inl ho
        · rw [hpend] at hp
          rcases List.mem_cons.mp hp with rfl | hp
          · exact .inr (.inr ⟨_, rfl⟩)
          · exact .inr (.inl hp)
        · rw [hw] at hd
          cases hd
    · cases hstep
  | tick agent during claimEnv closeEnv =>
    simp only [step] at hstep
    split at hstep
    · rename_i s n hw
      split at hstep
      · rename_i hduring
        obtain rfl := Option.some.inj hstep
        refine inv_drainTick h hw rfl rfl (fun c hc => List.all_eq_true.mp hduring c hc) ?_
        rintro rfl claimed bus' hcl hsucc
        exact hok s claimed bus' hw hcl hsucc
      · cases hstep
    · cases hstep
  | clear =>
    simp only [step] at hstep
    split at hstep
    · rename_i s raised hw
      obtain rfl := Option.some.inj hstep
      refine h.of_worker (fun s n hd => ?_) (fun s n hd => ?_)
      · cases raised <;> cases hd
      · rw [hw] at hd
        cases hd
    · cases hstep
  | exit =>
    simp only [step] at hstep
    split at hstep
    · rename_i hw
      obtain rfl := Option.some.inj hstep
      refine h.of_worker (fun s n hd => by cases hd) (fun s n hd => ?_)
      rw [hd] at hw
      rcases hw with hw | ⟨hw, _⟩ <;> cases hw
    · cases hstep
  | stop =>
    obtain rfl := Option.some.inj hstep
    exact ⟨h.keyed, h.ticks, fun hopen => by cases hopen⟩

/-- **The dispatcher leaves no eligible work behind**, in any run of any
configuration in which the requests and the bounds are in time. -/
theorem noWorkLeft_of_inTime (d : FixedRouteExecutionDispatcher) (hd : d.worker = .absent)
    (actions : List DispatchAction)
    (htime : Along step InTime { dispatcher := d } actions)
    (hrun : execAll step { dispatcher := d } actions = some st) : st.NoWorkLeft := by
  have hinit : Inv { dispatcher := d } := by
    refine ⟨InMemoryTaskBus.keyed_empty, ?_, ?_⟩
    · intro s n hw
      rw [hd] at hw
      cases hw
    · intro _ _ _ s hel hacc
      cases hacc
  exact (execAll_invariant (fun _ _ _ h hok hs => inv_step h hok hs) actions _ st hinit htime
    hrun).noWorkLeft

/-! ### A drain, and a late request -/

/-- The agent succeeds at once. -/
def succeedingTick : DispatchAction := .tick (fun _ => .result {}) [] .sample .sample

def publishAction (taskId : String) (valid : (TaskDomain.sample "s" taskId).Valid) :
    DispatchAction :=
  .operate ⟨.publish (.sample "s" taskId) valid, .sample⟩

/-- A task is published, and its session is drained. -/
def drained : List DispatchAction :=
  [publishAction "a" TaskDomain.valid_sample, .requestDispatch "s", .pop, succeedingTick,
    succeedingTick]

def start : DispatchState := { dispatcher := {} }

theorem noWorkLeft_drained :
    ∃ st, execAll step start (drained ++ [.clear]) = some st ∧
      Along step InTime start (drained ++ [.clear]) ∧ "s" ∈ st.accepted ∧
      st.WellTicked "s" ∧ st.NoWorkLeft := by
  have hsome : (execAll step start (drained ++ [.clear])).isSome = true := by decide +kernel
  obtain ⟨st, hst⟩ := Option.isSome_iff_exists.mp hsome
  have hacc : (execAll step start (drained ++ [.clear])).all (fun st => "s" ∈ st.accepted) =
      true := by decide +kernel
  have hwt : (execAll step start (drained ++ [.clear])).all
      (fun st => st.lastTick.get? "s" = some (some .idle)) = true := by decide +kernel
  have htime : Along step InTime start (drained ++ [.clear]) := by
    refine ⟨trivial, ?_⟩
    intro st1 h1
    obtain rfl := Option.some.inj h1
    refine ⟨?_, ?_⟩
    · rintro ⟨_, hw⟩
      cases hw
    intro st2 h2
    obtain rfl := Option.some.inj h2
    refine ⟨trivial, ?_⟩
    intro st3 h3
    obtain rfl := Option.some.inj h3
    refine ⟨?_, ?_⟩
    · intro s _ _ hw
      cases hw
    intro st4 h4
    obtain rfl := Option.some.inj h4
    refine ⟨?_, ?_⟩
    · intro s _ _ hw
      have hnine : Worker.draining "s" 9 = .draining s 1 := Eq.trans (by decide +kernel) hw
      cases hnine
    intro st5 h5
    exact ⟨trivial, fun _ _ => trivial⟩
  rw [hst] at hacc hwt
  have hwt' : st.WellTicked "s" := .inr (by simpa using hwt)
  exact ⟨st, hst, htime, by simpa using hacc, hwt', noWorkLeft_of_inTime {} rfl _ htime hst⟩

/-- The task `b` of the session `s` is left behind. -/
def leavesB (st : DispatchState) : Bool :=
  !st.dispatcher.closed && st.dispatcher.enabled && st.dispatcher.hasAgent &&
    decide ("s" ∉ st.dispatcher.pendingSessions) && st.dispatcher.worker.running != some "s" &&
    decide ("s" ∈ st.accepted) && decide ("s" ∉ st.owed) &&
    (st.lastTick.get? "s" == some (some .completed) || st.lastTick.get? "s" == some (some .idle)) &&
    st.bus.get "s" "b" == some (.sample "s" "b")

theorem not_noWorkLeft_of_leavesB (h : st.leavesB = true) : ¬st.NoWorkLeft := by
  simp only [leavesB, Bool.and_eq_true, Bool.or_eq_true, Bool.not_eq_true', decide_eq_true_eq,
    beq_iff_eq, bne_iff_ne] at h
  obtain ⟨⟨⟨⟨⟨⟨⟨⟨hopen, hen⟩, hag⟩, hpend⟩, hrun⟩, hacc⟩, howed⟩, hwt⟩, hb⟩ := h
  intro hno
  refine hno hopen hen hag "s" hpend hrun hacc howed hwt ⟨"b", _, hb, rfl, ?_⟩
  intro p hp
  cases hp

/-- Two tasks are published, and the bound of the drain is one tick. -/
def bounded : List DispatchAction :=
  [publishAction "a" TaskDomain.valid_sample, publishAction "b" (by decide), .requestDispatch "s",
    .pop, succeedingTick, .clear]

theorem bounded_leaves_work :
    ∃ st, execAll step { dispatcher := { maxTicksPerTrigger := 1 } } bounded = some st ∧
      ¬st.NoWorkLeft := by
  have h : (execAll step { dispatcher := { maxTicksPerTrigger := 1 } } bounded).any leavesB =
      true := by decide +kernel
  obtain ⟨st, hst, hleft⟩ := (Option.any_eq_true _ _).mp h
  exact ⟨st, hst, not_noWorkLeft_of_leavesB hleft⟩

/-- A second task is published when its session has had its last tick: the request for it is
answered `already_running`. -/
def lateRequest : List DispatchAction :=
  drained ++ [publishAction "b" (by decide), .requestDispatch "s", .clear]

theorem lateRequest_leaves_work :
    ∃ st, execAll step start lateRequest = some st ∧ ¬st.NoWorkLeft := by
  have h : (execAll step start lateRequest).any leavesB = true := by decide +kernel
  obtain ⟨st, hst, hleft⟩ := (Option.any_eq_true _ _).mp h
  exact ⟨st, hst, not_noWorkLeft_of_leavesB hleft⟩

end DispatchState

end Taskweavn
