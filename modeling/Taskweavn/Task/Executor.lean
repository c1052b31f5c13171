import Taskweavn.Task.Bus

/-!
# The fixed-route executor

`FixedRouteTaskExecutor.tick` selects the next eligible task of a session, claims
it, runs the resident agent, and closes the task through the bus
(`taskweavn/task/execution.py`).  The agent may run for a long time, and other
actors use the bus meanwhile.  `Interference` is what they do: calls before the
claim, calls while the agent runs, and calls between the look at a waiting task
and its failure.

The result summary store and the message stream are written on the way.  What
the store holds has no influence on the outcome, so only its presence is
modelled; the message stream is left out.
-/

namespace Taskweavn

open Lib Py

inductive TaskExecutionTickStatus
  | idle
  | completed
  | failed
  | waitingForUser
  | claimNotAvailable
  | healthError
deriving DecidableEq, Repr

structure TaskExecutionTickResult where
  status : TaskExecutionTickStatus
  sessionId : String
  claimedTaskId : Option String := none
  completedTaskId : Option String := none
  failedTaskId : Option String := none
  skippedReason : Option String := none
  resultRef : Option String := none
  errorRef : Option String := none
deriving DecidableEq

/-- The agent's result for one claimed task. -/
structure TaskRunResult where
  resultRef : Option String := none
  errorRef : Option String := none
  waitingForUser : Bool := false
deriving DecidableEq

def TaskRunResult.ok (r : TaskRunResult) : Bool := r.errorRef == none && !r.waitingForUser

/-- What a run of the agent ends with: an exception, given by the name of its
type, or a result. -/
inductive AgentOutcome
  | exception (typeName : String)
  | result (r : TaskRunResult)
deriving DecidableEq

def AgentOutcome.succeeds : AgentOutcome → Bool
  | exception _ => false
  | result r => r.ok

/-- What `tick` may raise: an error of the bus, or the validation error of a
summary with an empty id. -/
inductive TickError
  | bus (error : BusError)
  | summary (error : ValidationError)
deriving DecidableEq

/-- What other actors do during a tick, and the environments of its own calls. -/
structure Interference where
  early : List BusCall := []
  during : List BusCall := []
  late : List BusCall := []
  claimEnv : CallEnv
  closeEnv : CallEnv

/-- A task is eligible when it is pending and has no parent, or a finished one
among the listed tasks. -/
def eligibleAmong (tasks : List TaskDomain) (t : TaskDomain) : Bool :=
  t.status == .pending &&
    match t.parentId with
    | none => true
    | some parentId =>
      match (Dict.ofList (tasks.map (fun t => (t.taskId, t)))).get? parentId with
      | none => false
      | some parent => parent.status == .done

def selectNextEligiblePendingTask {B : Type} [TaskBus B] (bus : B) (sessionId : String) :
    Except BusError (Option TaskDomain) :=
  (TaskBus.listForSession bus sessionId).map (fun tasks => tasks.find? (eligibleAmong tasks))

def storeExecutionExceptionSummary (hasStore : Bool) (t : TaskDomain) (typeName : String) :
    String :=
  if hasStore then
    "agent_execution_failed:" ++ t.sessionId ++ ":" ++ t.taskId ++ ":" ++ typeName
  else "agent_execution_failed: " ++ typeName

/-- `_ensure_result_ref_readable`; no stored summary has an empty id, so an empty
reference leads to the construction of one. -/
def ensureResultRefReadable (hasStore : Bool) (t : TaskDomain) :
    Option String → Except TickError (Option String)
  | none =>
    .ok (if hasStore then some ("task_result:" ++ t.sessionId ++ ":" ++ t.taskId ++ ":completed")
      else none)
  | some ref =>
    if hasStore ∧ ref = "" then .error (.summary (.field "summary_id")) else .ok (some ref)

/-- `(run_result.error_ref or "").strip() or "agent_execution_failed"` -/
def runErrorRef (errorRef : Option String) : String :=
  let ref := strip (errorRef.getD "")
  if ref = "" then "agent_execution_failed" else ref

structure FixedRouteTaskExecutor where
  sessionId : String
  defaultAgentId : String := "default_agent"
  defaultAgent : Option (TaskDomain → AgentOutcome)
  hasStore : Bool := false

namespace FixedRouteTaskExecutor

section

variable {B : Type} [TaskBus B]

/-- The part of `tick` up to the claim: a result without a claim, or the claimed
task. -/
def claim (ex : FixedRouteTaskExecutor) (bus : B) (i : Interference) :
    Except TickError (TaskExecutionTickResult ⊕ TaskDomain) × B :=
  match selectNextEligiblePendingTask bus ex.sessionId with
  | .error e => (.error (.bus e), bus)
  | .ok none =>
    (.ok (.inl
      { status := .idle, sessionId := ex.sessionId
        skippedReason := some "no_eligible_task" }), bus)
  | .ok (some candidate) =>
    match TaskBus.claimNext (TaskBus.run bus i.early) ex.sessionId candidate.requiredCapability
        ex.defaultAgentId i.claimEnv with
    | (.error e, bus) => (.error (.bus e), bus)
    | (.ok none, bus) =>
      (.ok (.inl
        { status := .claimNotAvailable, sessionId := ex.sessionId,
          skippedReason := some "claim_not_available" }), bus)
    | (.ok (some claimed), bus) => (.ok (.inr claimed), bus)

def closeFailed (ex : FixedRouteTaskExecutor) (claimed : TaskDomain) (errorRef : String) (bus : B)
    (env : CallEnv) : Except TickError TaskExecutionTickResult × B :=
  match TaskBus.transition bus claimed.sessionId claimed.taskId (.fail errorRef) env with
  | (.error e, bus) => (.error (.bus e), bus)
  | (.ok failed, bus) =>
    (.ok
      { status := .failed, sessionId := ex.sessionId, claimedTaskId := some claimed.taskId,
        failedTaskId := some failed.taskId, errorRef := failed.errorRef }, bus)

def closeCompleted (ex : FixedRouteTaskExecutor) (claimed : TaskDomain) (resultRef : Option String)
    (bus : B) (env : CallEnv) : Except TickError TaskExecutionTickResult × B :=
  match ensureResultRefReadable ex.hasStore claimed resultRef with
  | .error e => (.error e, bus)
  | .ok ref =>
    match TaskBus.transition bus claimed.sessionId claimed.taskId (.complete ref) env with
    | (.error e, bus) => (.error (.bus e), bus)
    | (.ok completed, bus) =>
      (.ok
        { status := .completed, sessionId := ex.sessionId, claimedTaskId := some claimed.taskId,
          completedTaskId := some completed.taskId, resultRef := completed.resultRef }, bus)

/-- The agent says that it waits for the user. -/
def closeWaiting (ex : FixedRouteTaskExecutor) (claimed : TaskDomain) (bus : B) (i : Interference) :
    Except TickError TaskExecutionTickResult × B :=
  let errorRef := "agent_loop_waiting_without_task_state"
  let failedWithoutState : TaskExecutionTickResult :=
    { status := .failed, sessionId := ex.sessionId, claimedTaskId := some claimed.taskId,
      skippedReason := some "waiting_without_task_state", errorRef := some errorRef }
  match TaskBus.get bus claimed.sessionId claimed.taskId with
  | .error e => (.error (.bus e), bus)
  | .ok none => (.ok failedWithoutState, bus)
  | .ok (some waiting) =>
    if waiting.status = .waitingForUser then
      (.ok
        { status := .waitingForUser, sessionId := ex.sessionId,
          claimedTaskId := some claimed.taskId,
          skippedReason :=
            if waiting.waitingForAskId = none ∨ waiting.waitingForAskId = some "" then
              waiting.waitingForConfirmationId
            else waiting.waitingForAskId }, bus)
    else if waiting.status = .running ∨ waiting.status = .waitingForUser then
      ex.closeFailed claimed errorRef (TaskBus.run bus i.late) i.closeEnv
    else (.ok failedWithoutState, bus)

/-- The part of `tick` after the run of the agent. -/
def close (ex : FixedRouteTaskExecutor) (claimed : TaskDomain) (outcome : AgentOutcome) (bus : B)
    (i : Interference) : Except TickError TaskExecutionTickResult × B :=
  match outcome with
  | .exception typeName =>
    ex.closeFailed claimed (storeExecutionExceptionSummary ex.hasStore claimed typeName) bus
      i.closeEnv
  | .result r =>
    if r.waitingForUser then ex.closeWaiting claimed bus i
    else if r.ok then ex.closeCompleted claimed r.resultRef bus i.closeEnv
    else ex.closeFailed claimed (runErrorRef r.errorRef) bus i.closeEnv

def tick (ex : FixedRouteTaskExecutor) (bus : B) (i : Interference) :
    Except TickError TaskExecutionTickResult × B :=
  match ex.defaultAgent with
  | none =>
    (.ok
      { status := .healthError, sessionId := ex.sessionId,
        skippedReason := some "default_agent_unavailable",
        errorRef := some "default_agent_unavailable" }, bus)
  | some agent =>
    match ex.claim bus i with
    | (.error e, bus) => (.error e, bus)
    | (.ok (.inl r), bus) => (.ok r, bus)
    | (.ok (.inr claimed), bus) =>
      ex.close claimed (agent claimed) (TaskBus.run bus i.during) i

end

/-! ### Claiming -/

section

variable {ex : FixedRouteTaskExecutor} {bus bus' : InMemoryTaskBus} {claimed t : TaskDomain}
  {i : Interference} {r : TaskExecutionTickResult}

theorem selectNext_eq (bus : InMemoryTaskBus) (sessionId : String) :
    selectNextEligiblePendingTask bus sessionId = .ok ((bus.listForSession sessionId).find?
      (eligibleAmong (bus.listForSession sessionId))) := rfl

theorem claim_step (h : ex.claim bus i = (.ok (.inr claimed), bus')) :
    ∃ capability, TaskBus.step (TaskBus.run bus i.early)
      ⟨.claimNext ex.sessionId capability ex.defaultAgentId, i.claimEnv⟩ =
        (.ok (.optional (some claimed)), bus') := by
  unfold claim at h
  rw [selectNext_eq] at h
  cases hc : (bus.listForSession ex.sessionId).find?
      (eligibleAmong (bus.listForSession ex.sessionId)) with
  | none =>
    rw [hc] at h
    cases h
  | some candidate =>
    rw [hc] at h
    refine ⟨candidate.requiredCapability, ?_⟩
    simp only [TaskBus.step]
    rcases hcl : TaskBus.claimNext (TaskBus.run bus i.early) ex.sessionId
      candidate.requiredCapability ex.defaultAgentId i.claimEnv with ⟨_ | _ | _, b⟩
    · simp only [hcl] at h
      cases h
    · simp only [hcl] at h
      cases h
    · simp only [hcl] at h
      cases h
      rfl

theorem claim_session (hb : bus.Keyed) (h : ex.claim bus i = (.ok (.inr claimed), bus')) :
    claimed.sessionId = ex.sessionId := by
  obtain ⟨_, hstep⟩ := claim_step h
  obtain ⟨_, _, _, _, _, hsession⟩ := InMemoryTaskBus.claim_reply
    (InMemoryTaskBus.keyed_run hb i.early) rfl (congrArg Prod.fst hstep)
  exact hsession

/-! ### A tick is a run of the bus -/

theorem closeFailed_run (ex : FixedRouteTaskExecutor) (bus : InMemoryTaskBus)
    (claimed : TaskDomain) (errorRef : String) (env : CallEnv) :
    (ex.closeFailed claimed errorRef bus env).2 =
      TaskBus.run bus [⟨.transition claimed.sessionId claimed.taskId (.fail errorRef), env⟩] := by
  rw [TaskBus.run_transition, closeFailed]
  rcases TaskBus.transition bus claimed.sessionId claimed.taskId (.fail errorRef) env with
    ⟨_ | _, _⟩ <;> rfl

theorem closeCompleted_run (ex : FixedRouteTaskExecutor) (bus : InMemoryTaskBus)
    (claimed : TaskDomain) (resultRef : Option String) (env : CallEnv) :
    (∃ e, ex.closeCompleted claimed resultRef bus env = (.error e, bus)) ∨
    ∃ ref, (ex.closeCompleted claimed resultRef bus env).2 =
      TaskBus.run bus [⟨.transition claimed.sessionId claimed.taskId (.complete ref), env⟩] := by
  unfold closeCompleted
  cases ensureResultRefReadable ex.hasStore claimed resultRef with
  | error e => exact .inl ⟨e, rfl⟩
  | ok ref =>
    refine .inr ⟨ref, ?_⟩
    rw [TaskBus.run_transition]
    simp only
    rcases TaskBus.transition bus claimed.sessionId claimed.taskId (.complete ref) env with
      ⟨_ | _, _⟩ <;> rfl

/-- The bus after the closing: a run of the late calls and calls for the claimed
task. -/
theorem close_run (ex : FixedRouteTaskExecutor) (bus : InMemoryTaskBus) (claimed : TaskDomain)
    (outcome : AgentOutcome) (i : Interference) :
    ∃ calls, (ex.close claimed outcome bus i).2 = TaskBus.run bus calls ∧
      ∀ c ∈ calls, c ∈ i.late ∨ c.op.session = claimed.sessionId := by
  have hfailed : ∀ (b : InMemoryTaskBus) errorRef,
      ∃ calls, (ex.closeFailed claimed errorRef b i.closeEnv).2 = TaskBus.run b calls ∧
        ∀ c ∈ calls, c ∈ i.late ∨ c.op.session = claimed.sessionId := by
    intro b errorRef
    refine ⟨_, closeFailed_run ex b claimed errorRef i.closeEnv, ?_⟩
    intro c hc
    rw [List.mem_singleton.mp hc]
    exact .inr rfl
  have hstay : ∃ calls, bus = TaskBus.run bus calls ∧
      ∀ c ∈ calls, c ∈ i.late ∨ c.op.session = claimed.sessionId := ⟨[], rfl, by simp⟩
  cases outcome with
  | exception typeName => exact hfailed bus _
  | result r =>
    simp only [close]
    by_cases hw : r.waitingForUser = true
    · rw [if_pos hw]
      unfold closeWaiting
      simp only
      split
      · exact hstay
      · exact hstay
      · split
        · exact hstay
        · split
          · obtain ⟨calls, hrun, hcalls⟩ := hfailed (TaskBus.run bus i.late)
              "agent_loop_waiting_without_task_state"
            refine ⟨i.late ++ calls, by rw [TaskBus.run_append]; exact hrun, ?_⟩
            intro c hc
            rcases List.mem_append.mp hc with hc | hc
            · exact .inl hc
            · exact hcalls c hc
          · exact hstay
    · rw [if_neg hw]
      by_cases hok : r.ok = true
      · rw [if_pos hok]
        rcases closeCompleted_run ex bus claimed r.resultRef i.closeEnv with ⟨e, h⟩ | ⟨ref, h⟩
        · rw [h]
          exact hstay
        · refine ⟨_, h, ?_⟩
          intro c hc
          rw [List.mem_singleton.mp hc]
          exact .inr rfl
      · rw [if_neg hok]
        exact hfailed bus _

theorem claim_run (ex : FixedRouteTaskExecutor) (bus : InMemoryTaskBus) (i : Interference) :
    ∃ calls, (ex.claim bus i).2 = TaskBus.run bus calls ∧
      ∀ c ∈ calls, c ∈ i.early ∨ c.op.session = ex.sessionId := by
  unfold claim
  rw [selectNext_eq]
  cases (bus.listForSession ex.sessionId).find?
      (eligibleAmong (bus.listForSession ex.sessionId)) with
  | none => exact ⟨[], rfl, by simp⟩
  | some candidate =>
    refine ⟨i.early ++
      [⟨.claimNext ex.sessionId candidate.requiredCapability ex.defaultAgentId, i.claimEnv⟩],
      ?_, ?_⟩
    · rw [TaskBus.run_append, TaskBus.run_claimNext]
      simp only
      rcases TaskBus.claimNext (TaskBus.run bus i.early) ex.sessionId
        candidate.requiredCapability ex.defaultAgentId i.claimEnv with ⟨_ | _ | _, _⟩ <;> rfl
    · intro c hc
      rcases List.mem_append.mp hc with hc | hc
      · exact .inl hc
      · rw [List.mem_singleton.mp hc]
        exact .inr rfl

/-- **A tick is a run of the bus**: the calls of the others, and calls for the
executor's session. -/
theorem tick_run (ex : FixedRouteTaskExecutor) (hb : bus.Keyed) (i : Interference) :
    ∃ calls, (ex.tick bus i).2 = TaskBus.run bus calls ∧
      ∀ c ∈ calls, c ∈ i.early ∨ c ∈ i.during ∨ c ∈ i.late ∨ c.op.session = ex.sessionId := by
  have hweaken : ∀ calls : List BusCall,
      (∀ c ∈ calls, c ∈ i.early ∨ c.op.session = ex.sessionId) →
      ∀ c ∈ calls, c ∈ i.early ∨ c ∈ i.during ∨ c ∈ i.late ∨ c.op.session = ex.sessionId := by
    intro calls h c hc
    rcases h c hc with h | h
    · exact .inl h
    · exact .inr (.inr (.inr h))
  unfold tick
  cases ex.defaultAgent with
  | none => exact ⟨[], rfl, by simp⟩
  | some agent =>
    obtain ⟨calls, hrun, hcalls⟩ := claim_run ex bus i
    rcases hcl : ex.claim bus i with ⟨e | r | claimed, bus'⟩
    · rw [hcl] at hrun
      dsimp only
      exact ⟨calls, hrun, hweaken calls hcalls⟩
    · rw [hcl] at hrun
      dsimp only
      exact ⟨calls, hrun, hweaken calls hcalls⟩
    · rw [hcl] at hrun
      dsimp only
      obtain ⟨calls', hrun', hcalls'⟩ := close_run ex (TaskBus.run bus' i.during) claimed
        (agent claimed) i
      refine ⟨calls ++ (i.during ++ calls'), ?_, ?_⟩
      · have hbus : bus' = TaskBus.run bus calls := hrun
        rw [TaskBus.run_append, TaskBus.run_append, ← hbus]
        exact hrun'
      · intro c hc
        rcases List.mem_append.mp hc with hc | hc
        · exact hweaken calls hcalls c hc
        · rcases List.mem_append.mp hc with hc | hc
          · exact .inr (.inl hc)
          · rcases hcalls' c hc with h | h
            · exact .inr (.inr (.inl h))
            · exact .inr (.inr (.inr (h.trans (claim_session hb hcl))))

/-! ### What a tick has done -/

/-- A claim that yields no task: nothing is eligible and nothing was done, or
the claim was not available. -/
theorem claim_inl (h : ex.claim bus i = (.ok (.inl r), bus')) :
    (r.status = .idle ∧ bus' = bus ∧
      (bus.listForSession ex.sessionId).find?
        (eligibleAmong (bus.listForSession ex.sessionId)) = none) ∨
    r.status = .claimNotAvailable := by
  unfold claim at h
  rw [selectNext_eq] at h
  cases hc : (bus.listForSession ex.sessionId).find?
      (eligibleAmong (bus.listForSession ex.sessionId)) with
  | none =>
    rw [hc] at h
    cases h
    exact .inl ⟨rfl, rfl, rfl⟩
  | some candidate =>
    rw [hc] at h
    rcases hcl : TaskBus.claimNext (TaskBus.run bus i.early) ex.sessionId
      candidate.requiredCapability ex.defaultAgentId i.claimEnv with ⟨_ | _ | _, b⟩
    · simp only [hcl] at h
      cases h
    · simp only [hcl] at h
      cases h
      exact .inr rfl
    · simp only [hcl] at h
      cases h

theorem status_closeFailed {errorRef : String} {env : CallEnv}
    (h : (ex.closeFailed claimed errorRef bus env).1 = .ok r) : r.status = .failed := by
  unfold closeFailed at h
  split at h
  · cases h
  · cases h
    rfl

theorem status_closeWaiting (h : (ex.closeWaiting claimed bus i).1 = .ok r) :
    r.status = .failed ∨ r.status = .waitingForUser := by
  unfold closeWaiting at h
  simp only at h
  split at h
  · cases h
  · cases h
    exact .inl rfl
  · split at h
    · cases h
      exact .inr rfl
    · split at h
      · exact .inl (status_closeFailed h)
      · cases h
        exact .inl rfl

/-- A closing reports `completed` only for an agent that succeeded, and only
after the call that completed the task. -/
theorem close_cases {outcome : AgentOutcome} (h : (ex.close claimed outcome bus i).1 = .ok r) :
    r.status = .failed ∨ r.status = .waitingForUser ∨
    (r.status = .completed ∧ outcome.succeeds = true ∧
      ∃ ref, (ex.close claimed outcome bus i).2 = TaskBus.run bus
        [⟨.transition claimed.sessionId claimed.taskId (.complete ref), i.closeEnv⟩]) := by
  cases outcome with
  | exception typeName => exact .inl (status_closeFailed h)
  | result res =>
    simp only [close] at h ⊢
    by_cases hw : res.waitingForUser = true
    · rw [if_pos hw] at h
      rcases status_closeWaiting h with h | h
      · exact .inl h
      · exact .inr (.inl h)
    · rw [if_neg hw] at h ⊢
      by_cases hok : res.ok = true
      · rw [if_pos hok] at h ⊢
        refine .inr (.inr ⟨?_, hok, ?_⟩)
        · unfold closeCompleted at h
          split at h
          · cases h
          · split at h
            · cases h
            · cases h
              rfl
        · rcases closeCompleted_run ex bus claimed res.resultRef i.closeEnv with ⟨e, he⟩ | hrun
          · rw [he] at h
            cases h
          · exact hrun
      · rw [if_neg hok] at h
        exact .inl (status_closeFailed h)

/-- A tick that reports `completed` has claimed a task, let the agent succeed at
it, and completed it. -/
theorem tick_completed (hb : bus.Keyed) (h : (ex.tick bus i).1 = .ok r)
    (hr : r.status = .completed) :
    ∃ agent claimed bus', ex.defaultAgent = some agent ∧
      ex.claim bus i = (.ok (.inr claimed), bus') ∧ claimed.sessionId = ex.sessionId ∧
      (agent claimed).succeeds = true ∧
      ∃ ref, (ex.tick bus i).2 = TaskBus.run bus' (i.during ++
        [⟨.transition claimed.sessionId claimed.taskId (.complete ref), i.closeEnv⟩]) := by
  unfold tick at h ⊢
  cases hagent : ex.defaultAgent with
  | none =>
    rw [hagent] at h
    cases h
    cases hr
  | some agent =>
    rw [hagent] at h
    rcases hcl : ex.claim bus i with ⟨e | r' | claimed, bus'⟩
    · simp only [hcl] at h
      cases h
    · simp only [hcl] at h
      cases h
      rcases claim_inl hcl with ⟨h, _⟩ | h
      · rw [h] at hr
        cases hr
      · rw [h] at hr
        cases hr
    · simp only [hcl] at h ⊢
      rcases close_cases h with h | h | ⟨_, hs, ref, hrun⟩
      · rw [h] at hr
        cases hr
      · rw [h] at hr
        cases hr
      · refine ⟨agent, claimed, bus', rfl, rfl, claim_session hb hcl, hs, ref, ?_⟩
        rw [TaskBus.run_append]
        exact hrun

theorem tick_idle (h : (ex.tick bus i).1 = .ok r) (hr : r.status = .idle) :
    (ex.tick bus i).2 = bus ∧
      (bus.listForSession ex.sessionId).find?
        (eligibleAmong (bus.listForSession ex.sessionId)) = none := by
  unfold tick at h ⊢
  cases hagent : ex.defaultAgent with
  | none =>
    rw [hagent] at h
    cases h
    cases hr
  | some agent =>
    rw [hagent] at h
    rcases hcl : ex.claim bus i with ⟨e | r' | claimed, bus'⟩
    · simp only [hcl] at h
      cases h
    · simp only [hcl] at h ⊢
      cases h
      rcases claim_inl hcl with ⟨_, hidle⟩ | h
      · exact hidle
      · rw [h] at hr
        cases hr
    · simp only [hcl] at h
      rcases close_cases h with h | h | ⟨h, _⟩ <;> rw [h] at hr <;> cases hr

end

/-! ### A task that is skipped meanwhile -/

/-- The agent finishes its work; the user has skipped the task meanwhile. -/
def skippedMeanwhile : FixedRouteTaskExecutor × Interference :=
  (⟨"s", "default_agent", some (fun _ => .result { resultRef := some "result" }), false⟩,
   { during := [⟨.transition "s" "a" (.skip "not needed"), .sample⟩]
     claimEnv := .sample
     closeEnv := .sample })

def publishedRun : List BusCall :=
  [⟨.publish (.sample "s" "a") TaskDomain.valid_sample, .sample⟩]

end FixedRouteTaskExecutor

end Taskweavn
