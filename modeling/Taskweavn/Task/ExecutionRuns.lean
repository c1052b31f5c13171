import Taskweavn.Task.BusForest
import Taskweavn.Task.BusGating
import Taskweavn.Task.Dispatcher

/-!
# Execution over whole runs

Executors tick on a bus that others call between the ticks and during them
(`taskweavn/task/execution.py`).  A tick is a run of the bus, and so is a step of the dispatcher.

* `completed_once`: a task that a tick has completed stays as it is, and no later tick claims it.
* `dispatched_in_order`: the dispatcher drains a session once at a time, on a bus that stays a
  forest in which children wait for their parents.
-/

namespace Taskweavn

open Lib Py InMemoryTaskBus

theorem InMemoryTaskBus.done_run {bus : InMemoryTaskBus} {k : String × String} {t : TaskDomain}
    (hb : bus.Keyed) (h : bus.tasks.get? k = some t) (hd : t.status = .done)
    (calls : List BusCall) : (TaskBus.run bus calls).tasks.get? k = some t :=
  (final_invariant (A := fun _ => True)
    (I := fun b : InMemoryTaskBus => b.Keyed ∧ b.tasks.get? k = some t)
    (fun _ c h _ => ⟨keyed_step h.1 c, done_step h.1 c h.2 hd⟩) calls bus ⟨hb, h⟩ (by simp)).2

namespace FixedRouteTaskExecutor

variable {ex : FixedRouteTaskExecutor} {bus bus' : InMemoryTaskBus} {claimed : TaskDomain}
  {outcome : AgentOutcome} {i : Interference} {r : TaskExecutionTickResult}

theorem get_complete {s x : String} {ref : Option String} {env : CallEnv} {t : TaskDomain}
    (h : TaskBus.transition bus s x (.complete ref) env = (.ok t, bus')) :
    bus'.get s x = some t ∧ t.status = .done := by
  rcases bus.transition_cases s x (.complete ref) env with ⟨e, he⟩ | ⟨_, _, -, -, hupd, ht⟩
  · cases he.symm.trans h
  · cases ht.symm.trans h
    obtain ⟨-, rfl⟩ := ite_raise_eq_ok.mp hupd
    exact ⟨Dict.get?_set_self _ _ _, rfl⟩

/-- A closing names the claimed task, and reports it as completed only when it is done. -/
theorem close_reports (h : ex.close claimed outcome bus i = (.ok r, bus')) :
    r.sessionId = ex.sessionId ∧ r.claimedTaskId = some claimed.taskId ∧ (r.status = .completed →
      ∃ t, bus'.get claimed.sessionId claimed.taskId = some t ∧ t.status = .done) := by
  unfold close closeWaiting closeCompleted closeFailed at h
  grind [→ get_complete]

/-- A tick names no task, or one that was pending when it claimed it. -/
theorem tick_reports (hb : bus.Keyed) (h : ex.tick bus i = (.ok r, bus')) :
    (r.claimedTaskId = none ∧ r.status ≠ .completed) ∨ ∃ x, r.claimedTaskId = some x ∧
      (∃ u, (TaskBus.run bus i.early).get r.sessionId x = some u ∧ u.status = .pending) ∧
      (r.status = .completed → ∃ t, bus'.get r.sessionId x = some t ∧ t.status = .done) := by
  unfold tick at h
  cases hagent : ex.defaultAgent with
  | none =>
    rw [hagent] at h
    cases h
    exact .inl ⟨rfl, fun h => by cases h⟩
  | some agent =>
    rw [hagent] at h
    rcases hcl : ex.claim bus i with ⟨e | r' | claimed, bus₁⟩ <;> simp only [hcl] at h
    · cases h
    · cases h
      unfold claim at hcl
      grind
    · obtain ⟨hsession, hid, hdone⟩ := close_reports h
      obtain ⟨_, hstep⟩ := claim_step hcl
      obtain ⟨u, hu, hp, -, -, hs⟩ := claim_reply
        (keyed_run hb i.early) rfl (congrArg Prod.fst hstep)
      rw [TaskDomain.key, hs, ← hsession] at hu
      rw [hs, ← hsession] at hdone
      exact .inr ⟨claimed.taskId, hid, ⟨u, hu, hp⟩, hdone⟩

/-- **A task is completed once.**  What a tick reports as completed is done and stays as it is,
whatever others do; every call that would move it is refused, and no later tick claims it. -/
theorem completed_once (pre later : List BusCall)
    (h : ex.tick (TaskBus.run InMemoryTaskBus.empty pre) i = (.ok r, bus))
    (hr : r.status = .completed) :
    ∃ x t, r.claimedTaskId = some x ∧ t.status = .done ∧ bus.get r.sessionId x = some t ∧
      (TaskBus.run bus later).get r.sessionId x = some t ∧
      (∀ tr env, ∃ e, ((TaskBus.run bus later).transition r.sessionId x tr env).1 = .error e) ∧
      ∀ ex' i' r' bus', tick ex' (TaskBus.run bus later) i' = (.ok r', bus') →
        r'.sessionId = r.sessionId → r'.claimedTaskId ≠ some x := by
  have hb := keyed_run keyed_empty pre
  obtain ⟨-, hne⟩ | ⟨x, hx, -, hdone⟩ := tick_reports hb h
  · exact absurd hr hne
  obtain ⟨t, ht, hd⟩ := hdone hr
  have hafter : bus.Keyed := by
    obtain ⟨calls, hrun, -⟩ := ex.tick_run hb i
    rw [h] at hrun
    exact (show bus = _ from hrun) ▸ keyed_run hb calls
  have hstays := done_run hafter ht hd
  refine ⟨x, t, hx, hd, ht, hstays later, fun tr env => ?_, fun ex' i' r' bus' h' hsame hx' => ?_⟩
  · rcases (TaskBus.run bus later).transition_cases r.sessionId x tr env with
      ⟨e, he⟩ | ⟨u, _, hu, -, hupd, -⟩
    · exact ⟨e, congrArg Prod.fst he⟩
    · cases hu.symm.trans (hstays later)
      exact absurd hd (TaskDomain.not_done_of_updated hupd)
  · obtain ⟨hnone, -⟩ | ⟨x', hx'', ⟨u, hu, hp⟩, -⟩ :=
      tick_reports (keyed_run hafter later) h'
    · cases hx'.symm.trans hnone
    · cases hx''.symm.trans hx'
      rw [hsame, ← TaskBus.run_append] at hu
      cases hu.symm.trans (hstays _)
      cases hd.symm.trans hp

theorem completed_once_published : ∃ r bus x t, skippedMeanwhile.1.tick
      (TaskBus.run InMemoryTaskBus.empty publishedRun) { skippedMeanwhile.2 with during := [] } =
      (.ok r, bus) ∧ r.claimedTaskId = some x ∧ t.status = .done ∧ bus.get r.sessionId x = some t ∧
    (TaskBus.run bus publishedRun).get r.sessionId x = some t := by
  have h : skippedMeanwhile.1.tick (TaskBus.run InMemoryTaskBus.empty publishedRun)
      { skippedMeanwhile.2 with during := [] } =
      (.ok ⟨.completed, "s", some "a", some "a", none, none, some "result", none⟩, _) :=
    Prod.ext (by decide +kernel) rfl
  obtain ⟨x, t, hx, hd, ht, hlater, -⟩ := completed_once publishedRun publishedRun h rfl
  exact ⟨_, _, x, t, h, hx, hd, ht, hlater⟩

end FixedRouteTaskExecutor

namespace DispatchState

variable {d : FixedRouteExecutionDispatcher} {st st' : DispatchState}

/-- The states that a dispatcher comes to while others call the bus, also during its ticks. -/
inductive Reached (d : FixedRouteExecutionDispatcher) : DispatchState → Prop
  | start : Reached d { dispatcher := d }
  | action {st st' : DispatchState} {a : DispatchAction} (h : Reached d st)
      (hstep : st.step a = some st') : Reached d st'
  | call {st : DispatchState} (h : Reached d st) (c : BusCall) :
      Reached d { st with bus := (TaskBus.step st.bus c).2 }
  | tick {st : DispatchState} {s : String} {n : ℕ} (h : Reached d st)
      (hw : st.dispatcher.worker = .draining s n) (agent : TaskDomain → AgentOutcome)
      (i : Interference) : Reached d (st.drainTick s n agent i)

structure Orderly (st : DispatchState) : Prop where
  bus : ∃ calls, st.bus = TaskBus.run .empty calls
  nodup : st.dispatcher.pendingSessions.Nodup
  single : ∀ s, st.dispatcher.worker.running = some s → s ∉ st.dispatcher.pendingSessions

theorem running_afterTick (s : String) (n : ℕ) (status : Option TaskExecutionTickStatus) :
    (FixedRouteExecutionDispatcher.afterTick s n status).running = some s := by
  unfold FixedRouteExecutionDispatcher.afterTick
  grind [Worker.running]

theorem bus_after (h : ∃ calls, st.bus = TaskBus.run .empty calls) (calls' : List BusCall) :
    ∃ calls, TaskBus.run st.bus calls' = TaskBus.run InMemoryTaskBus.empty calls := by
  obtain ⟨calls, h⟩ := h
  exact ⟨calls ++ calls', by rw [TaskBus.run_append, h]⟩

theorem orderly_drainTick {s : String} {n : ℕ} (h : st.Orderly)
    (hw : st.dispatcher.worker = .draining s n) (agent : TaskDomain → AgentOutcome)
    (i : Interference) : (st.drainTick s n agent i).Orderly := by
  refine ⟨?_, h.nodup, fun s' hs' => h.single s' ?_⟩
  · obtain ⟨calls, hbus⟩ := h.bus
    obtain ⟨calls', hrun, -⟩ := (st.executor s agent).tick_run
      (hbus ▸ keyed_run keyed_empty calls) i
    obtain ⟨_, hall⟩ := bus_after h.bus calls'
    exact ⟨_, hrun.trans hall⟩
  · rw [hw, ← hs', drainTick, running_afterTick]
    rfl

theorem orderly_step {a : DispatchAction} (h : st.Orderly) (hstep : st.step a = some st') :
    st'.Orderly := by
  cases a with
  | operate c =>
    obtain ⟨-, ⟨⟩⟩ := Option.ite_none_right_eq_some.mp hstep
    exact ⟨bus_after h.bus [c], h.nodup, h.single⟩
  | tick agent during claimEnv closeEnv =>
    simp only [step] at hstep
    split at hstep
    · next hw =>
      obtain ⟨-, ⟨⟩⟩ := Option.ite_none_right_eq_some.mp hstep
      exact orderly_drainTick h hw agent _
    · cases hstep
  | _ =>
    -- the bus is left alone
    obtain ⟨hbus, hnodup, hsingle⟩ := h
    simp only [step] at hstep
    refine ⟨?_, ?_, ?_⟩ <;>
      grind [request, FixedRouteExecutionDispatcher.requestDispatch,
        FixedRouteExecutionDispatcher.ensureWorker, FixedRouteExecutionDispatcher.stop,
        Worker.running]

theorem Reached.orderly (hd : d.worker = .absent) (hp : d.pendingSessions = [])
    (h : Reached d st) : st.Orderly := by
  induction h with
  | start => exact ⟨⟨[], rfl⟩, hp ▸ List.nodup_nil, fun s hs => (by cases hd ▸ hs)⟩
  | action _ hstep ih => exact orderly_step ih hstep
  | call _ c ih => exact ⟨bus_after ih.bus [c], ih.nodup, ih.single⟩
  | tick _ hw agent i ih => exact orderly_drainTick ih hw agent i

/-- **The dispatcher drains a session once at a time**, and what it, the agents and the others do
to the bus leaves each session a forest in which a started task has a finished parent. -/
theorem dispatched_in_order (hd : d.worker = .absent) (hp : d.pendingSessions = [])
    (h : Reached d st) : st.dispatcher.pendingSessions.Nodup ∧
    (∀ s, st.dispatcher.worker.running = some s → s ∉ st.dispatcher.pendingSessions) ∧
    ∀ s, Listed s (st.bus.listForSession s) ∧
      ∀ t ∈ st.bus.listForSession s, t.status.Started → ∀ p, t.parentId = some p →
        ∃ u ∈ st.bus.listForSession s, u.taskId = p ∧ u.status = .done := by
  obtain ⟨⟨calls, hbus⟩, hnodup, hsingle⟩ := h.orderly hd hp
  refine ⟨hnodup, hsingle, fun s => ?_⟩
  rw [hbus]
  refine ⟨listed calls s, fun t ht hstarted p hparent => ?_⟩
  obtain ⟨hb, hgated⟩ := inv_gated_run (B := InMemoryTaskBus) calls
  obtain ⟨hv, hs⟩ := mem_listForSession.mp ht
  obtain ⟨u, hu, -, hdone⟩ :=
    hgated.parent t.key t (get?_of_mem_values hb hv) p hparent
  have hkey := hb _ u hu
  exact ⟨u, mem_listForSession.mpr
    ⟨Dict.mem_values.mpr ⟨_, hu⟩, (congrArg Prod.fst hkey).trans hs⟩, congrArg Prod.snd hkey,
    Option.some.inj (hdone _ rfl hstarted)⟩

def childTask : TaskDomain :=
  { TaskDomain.sample "s" "b" with parentId := some "a", rootId := "a" }

/-- A parent and a child are published and a request comes; the worker takes the session, and its
first tick completes the parent, while its second one leaves the child waiting. -/
def parentAndChild : Option DispatchState :=
  execAll step start
    [.operate ⟨.publish (.sample "s" "a") TaskDomain.valid_sample, .sample⟩,
      .operate ⟨.publish childTask (by decide), .sample⟩, .requestDispatch "s", .pop,
      .tick (fun _ => .result {}) [] .sample .sample,
      .tick (fun _ => .result { waitingForUser := true })
        [⟨.transition "s" "b" (.waitForUser "ask"), .sample⟩] .sample .sample]

theorem reached_execAll : ∀ (actions : List DispatchAction) {st st' : DispatchState},
    Reached d st → execAll step st actions = some st' → Reached d st' := by
  intro actions
  induction actions with
  | nil =>
    intro st st' h hrun
    cases hrun
    exact h
  | cons a rest ih =>
    intro st st' h hrun
    obtain ⟨mid, hstep, hrest⟩ := Option.bind_eq_some_iff.mp hrun
    exact ih (.action h hstep) hrest

theorem dispatched_in_order_drained : ∃ st, parentAndChild = some st ∧
    (st.bus.listForSession "s").map (fun t => (t.taskId, t.parentId, t.status)) =
      [("a", none, .done), ("b", some "a", .waitingForUser)] ∧
    st.dispatcher.worker.running = some "s" ∧ "s" ∉ st.dispatcher.pendingSessions ∧
    ∀ t ∈ st.bus.listForSession "s", t.status.Started → ∀ p, t.parentId = some p →
      ∃ u ∈ st.bus.listForSession "s", u.taskId = p ∧ u.status = .done := by
  have hsome : parentAndChild.isSome = true := by decide +kernel
  obtain ⟨st, hst⟩ := Option.isSome_iff_exists.mp hsome
  have hshown : parentAndChild.map (fun st => ((st.bus.listForSession "s").map
      (fun t => (t.taskId, t.parentId, t.status)), st.dispatcher.worker.running)) =
      some ([("a", none, .done), ("b", some "a", .waitingForUser)], some "s") := by
    decide +kernel
  rw [hst] at hshown
  obtain ⟨hlist, hrunning⟩ := Prod.mk.inj (Option.some.inj hshown)
  obtain ⟨-, hsingle, hforest⟩ := dispatched_in_order rfl rfl (reached_execAll _ .start hst)
  exact ⟨st, hst, hlist, hrunning, hsingle "s" hrunning, (hforest "s").2⟩

end DispatchState

end Taskweavn
