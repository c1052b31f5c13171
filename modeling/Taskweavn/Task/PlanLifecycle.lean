import Taskweavn.Task.PlanStore

/-!
# From tasks back to plans

`PlanTaskNodeLifecycleSync.sync_task` of `taskweavn/task/plan_lifecycle.py` takes a task,
looks for the node that it was published for, and writes into the node how the task stands.
Then it reads the plan and its nodes again and writes the status that follows from the
nodes.  Node and plan are written in transactions of their own.

A node is found by its reference only (`findNode_some`), so a node without one is never
touched (`syncTask_cases`).
-/

namespace Taskweavn

open Lib Py

def executionFromTask (task : TaskDomain) : PlanTaskNodeExecutionStatus :=
  match task.status with
  | .pending => .pending
  | .running => .running
  | .waitingForUser => .waitingForUser
  | .done => .done
  | .failed => .failed

def nodeFromTask (node : PlanTaskNode) (task : TaskDomain) : PlanTaskNode :=
  let execution := executionFromTask task
  { node with
    execution := execution
    resultRef := if execution = .done then task.resultRef else none
    errorRef := if execution = .failed then task.errorRef else none }

def planStatusFromNodes (plan : Plan) (nodes : List PlanTaskNode) : PlanStatus :=
  if plan.status = .cancelled ∨ plan.status = .archived then plan.status
  else if nodes = [] then plan.status
  else if nodes.any (fun n => n.execution == .failed) then .failed
  else if nodes.all (fun n => n.execution == .done) then .awaitingAcceptance
  else if nodes.any (fun n => n.execution == .pending || n.execution == .running ||
      n.execution == .waitingForUser) then .running
  else plan.status

namespace SqlitePlanStore

/-- `_candidate_plans`: the active plan, and then the others from the newest on. -/
def candidatePlans (store : SqlitePlanStore) (sessionId : String) : List Plan :=
  match store.getActivePlan sessionId with
  | none => (store.listPlans sessionId).reverse
  | some active =>
    active :: ((store.listPlans sessionId).filter (fun p => p.planId != active.planId)).reverse

def findNode (store : SqlitePlanStore) (sessionId taskId : String) : Option (Plan × PlanTaskNode) :=
  (store.candidatePlans sessionId).findSome? (fun plan =>
    ((store.nodesOf sessionId plan.planId).find?
      (fun n => n.publishedRef == some (.published taskId))).map (fun n => (plan, n)))

def syncPlanStatus (store : SqlitePlanStore) (sessionId planId : String) (now : DateTime) :
    Except PlanStoreError Unit × SqlitePlanStore :=
  match store.getPlan sessionId planId with
  | none => (.ok (), store)
  | some plan =>
    let status := planStatusFromNodes plan (store.nodesOf sessionId planId)
    if status = plan.status then (.ok (), store)
    else
      match store.savePlan { plan with status := status } plan.version now with
      | (.error e, store) => (.error e, store)
      | (.ok _, store) => (.ok (), store)

def saveChanged (store : SqlitePlanStore) (updated node : PlanTaskNode) (now : DateTime) :
    Except PlanStoreError PlanTaskNode × SqlitePlanStore :=
  if updated = node then (.ok node, store) else store.saveTaskNode updated node.version now

/-- `sync_task`; the clocks are those of its two writes. -/
def syncTask (store : SqlitePlanStore) (task : TaskDomain) (nodeNow planNow : DateTime) :
    Except PlanStoreError (Option PlanTaskNode) × SqlitePlanStore :=
  match store.findNode task.sessionId task.taskId with
  | none => (.ok none, store)
  | some (plan, node) =>
    match store.saveChanged (nodeFromTask node task) node nodeNow with
    | (.error e, store) => (.error e, store)
    | (.ok saved, store) =>
      match store.syncPlanStatus plan.sessionId plan.planId planNow with
      | (.error e, store) => (.error e, store)
      | (.ok _, store) => (.ok (some saved), store)

variable {store store' : SqlitePlanStore} {s p i : String} {plan : Plan} {n : PlanTaskNode}

/-! ### The node of a task -/

theorem getPlan_of_mem_values (h : plan ∈ store.plans.values) (hs : plan.sessionId = s) :
    store.getPlan s plan.planId = some plan := by
  obtain ⟨k, hk⟩ := Dict.mem_values.mp h
  have hkey := (store.plans_ok k plan hk).1
  rw [← hkey] at hk
  rw [← hs]
  exact hk

theorem mem_listPlans : plan ∈ store.listPlans s ↔ store.getPlan s plan.planId = some plan := by
  rw [listPlans, mem_sortOn, List.mem_filter]
  constructor
  · rintro ⟨hmem, hs⟩
    exact getPlan_of_mem_values hmem (beq_iff_eq.mp hs)
  · intro h
    refine ⟨Dict.mem_values.mpr ⟨_, h⟩, ?_⟩
    rw [beq_iff_eq]
    exact (plan_key_of_get h).1

theorem getPlan_of_active (h : store.getActivePlan s = some plan) :
    store.getPlan s plan.planId = some plan := by
  have hmem := List.mem_of_getLast? h
  rw [mem_sortOn, List.mem_filter] at hmem
  obtain ⟨hmem, hp⟩ := hmem
  simp only [Bool.and_eq_true, beq_iff_eq] at hp
  exact getPlan_of_mem_values hmem hp.1.1

theorem mem_candidatePlans :
    plan ∈ store.candidatePlans s ↔ store.getPlan s plan.planId = some plan := by
  unfold candidatePlans
  cases hactive : store.getActivePlan s with
  | none => rw [List.mem_reverse, mem_listPlans]
  | some active =>
    simp only [List.mem_cons, List.mem_reverse, List.mem_filter, mem_listPlans, bne_iff_ne]
    constructor
    · rintro (rfl | ⟨h, -⟩)
      · exact getPlan_of_active hactive
      · exact h
    · intro h
      by_cases hid : plan.planId = active.planId
      · left
        rw [hid, getPlan_of_active hactive] at h
        exact (Option.some.inj h).symm
      · exact .inr ⟨h, hid⟩

/-- **The node that is found** has a reference to the task. -/
theorem findNode_some (h : store.findNode s i = some (plan, n)) :
    store.getPlan s plan.planId = some plan ∧ n ∈ store.nodesOf s plan.planId ∧
      n.publishedRef = some (.published i) := by
  obtain ⟨q, hq, hfound⟩ := List.exists_of_findSome?_eq_some h
  obtain ⟨m, hm, heq⟩ := Option.map_eq_some_iff.mp hfound
  cases heq
  have href := List.find?_some hm
  rw [beq_iff_eq] at href
  exact ⟨mem_candidatePlans.mp hq, List.mem_of_find?_eq_some hm, href⟩

theorem findNode_isSome (h : store.getTaskNode s n.taskNodeId = some n)
    (href : n.publishedRef = some (.published i)) : (store.findNode s i).isSome = true := by
  obtain ⟨hs, -⟩ := key_of_get h
  obtain ⟨q, hq⟩ := Option.isSome_iff_exists.mp (store.nodes_ok _ _ h).2.2
  have hq' : store.getPlan s n.planId = some q := by rw [← hs]; exact hq
  obtain ⟨-, hid⟩ := plan_key_of_get hq'
  rw [findNode, List.findSome?_isSome_iff]
  refine ⟨q, ?_, ?_⟩
  · rw [mem_candidatePlans, hid]
    exact hq'
  · rw [Option.isSome_map, List.find?_isSome]
    refine ⟨n, ?_, beq_iff_eq.mpr href⟩
    rw [hid]
    exact mem_nodesOf.mpr ⟨h, hs, rfl⟩

/-! ### What is written -/

theorem saveChanged_cases (hn : store.getTaskNode n.sessionId n.taskNodeId = some n)
    (task : TaskDomain) (now : DateTime) :
    (∃ e, store.saveChanged (nodeFromTask n task) n now = (.error e, store)) ∨
    (nodeFromTask n task = n ∧ store.saveChanged (nodeFromTask n task) n now = (.ok n, store)) ∨
    ∃ h hp hi, store.saveChanged (nodeFromTask n task) n now =
      (.ok ((nodeFromTask n task).copied n now),
        store.putNode ((nodeFromTask n task).copied n now) h hp hi) := by
  unfold saveChanged
  split
  · next heq => exact .inr (.inl ⟨heq, rfl⟩)
  · rcases store.saveTaskNode_cases (nodeFromTask n task) n.version now with
      ⟨e, he⟩ | ⟨current, hv, hp, hi, hcur, -, hok⟩
    · exact .inl ⟨e, he⟩
    · obtain rfl : n = current := Option.some.inj (hn.symm.trans hcur)
      exact .inr (.inr ⟨hv, hp, hi, hok⟩)

theorem getTaskNode_syncPlanStatus (store : SqlitePlanStore) (s p : String) (now : DateTime)
    (s' i : String) :
    (store.syncPlanStatus s p now).2.getTaskNode s' i = store.getTaskNode s' i := by
  unfold syncPlanStatus
  split
  · rfl
  · next plan _ =>
    simp only
    split
    · rfl
    · rcases store.savePlan_cases
          { plan with status := planStatusFromNodes plan (store.nodesOf s p) } plan.version now with
        ⟨e, he⟩ | ⟨current, h, -, -, hok⟩
      · rw [he]
      · rw [hok]
        exact getTaskNode_putPlan h

/-- **A sync inverted**: the rows of other nodes stay as they are. -/
theorem syncTask_cases (store : SqlitePlanStore) (task : TaskDomain) (nodeNow planNow : DateTime)
    (s i : String) :
    (store.syncTask task nodeNow planNow).2.getTaskNode s i = store.getTaskNode s i ∨
    ∃ n, store.getTaskNode s i = some n ∧ n.publishedRef = some (.published task.taskId) ∧
      (store.syncTask task nodeNow planNow).2.getTaskNode s i =
        some ((nodeFromTask n task).copied n nodeNow) := by
  unfold syncTask
  cases hfind : store.findNode task.sessionId task.taskId with
  | none => exact .inl rfl
  | some found =>
    obtain ⟨plan, n⟩ := found
    obtain ⟨-, hmem, href⟩ := findNode_some hfind
    obtain ⟨hget, hs, -⟩ := mem_nodesOf.mp hmem
    rw [← hs] at hget
    -- what the first write leaves, the second one leaves too
    have hstatus : ∀ (st : SqlitePlanStore) (saved : PlanTaskNode),
        (match st.syncPlanStatus plan.sessionId plan.planId planNow with
          | (.error e, st) => ((.error e : Except PlanStoreError (Option PlanTaskNode)), st)
          | (.ok _, st) => (.ok (some saved), st)).2.getTaskNode s i = st.getTaskNode s i := by
      intro st saved
      rw [← getTaskNode_syncPlanStatus st plan.sessionId plan.planId planNow s i]
      rcases st.syncPlanStatus plan.sessionId plan.planId planNow with ⟨_ | _, _⟩ <;> rfl
    simp only
    rcases saveChanged_cases hget task nodeNow with ⟨e, he⟩ | ⟨-, hok⟩ | ⟨h, hp, hi, hok⟩
    · rw [he]
      exact .inl rfl
    · rw [hok]
      exact .inl (hstatus _ _)
    · rw [hok]
      simp only [hstatus]
      rw [getTaskNode_putNode]
      by_cases hkey : n.key = (s, i)
      · right
        refine ⟨n, ?_, href, if_pos hkey⟩
        rw [← show n.sessionId = s from congrArg Prod.fst hkey,
          ← show n.taskNodeId = i from congrArg Prod.snd hkey]
        exact hget
      · left
        rw [if_neg]
        exact hkey

end SqlitePlanStore

end Taskweavn
