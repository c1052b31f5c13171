import Taskweavn.Contract.Models
import Taskweavn.Task.PlanStore

/-!
# Commands on task nodes

`UiGatewayContractTaskNodeCommandHandler` of
`taskweavn/contract_revision/tasknode_commands.py`.  A node is created in a plan that
can be edited, and one that asks for execution brings its own plan when there is none.
A node is never deleted: `delete_task_node` marks it as cancelled, when nothing of it
has been executed.

The fresh ids and the readings of the clock are the input of a command.  What a command
raises it raises before it writes, so there is no outcome then and the store is as it
was.

`createTaskNode_cases` and its two companions say what the commands do to a store;
nothing after them looks into the commands again.
-/

namespace Taskweavn

open Lib Py

/-- Where the ids and the times of new rows come from. -/
structure TaskNodeInput where
  planId : String
  taskNodeId : String
  planCreatedAt : DateTime
  planUpdatedAt : DateTime
  nodeCreatedAt : DateTime
  nodeUpdatedAt : DateTime
  /-- The clock of the store. -/
  now : DateTime

structure ContractTaskNodeCommandOutcome where
  accepted : Bool
  /-- There is none here when it is the text of an exception. -/
  message : Option String
  status : ContractCommandStatus := .accepted
  commandResponse : Option CommandResponse := none
  reasonCode : Option String := none
  planId : Option String := none
  taskNode : Option PlanTaskNode := none

/-- `_EDITABLE_PLAN_STATUSES` -/
def PlanStatus.editable : PlanStatus → Bool
  | .draft => true
  | .reviewing => true
  | .approved => true
  | _ => false

def PlanStatus.toText : PlanStatus → String
  | .draft => "draft"
  | .reviewing => "reviewing"
  | .approved => "approved"
  | .published => "published"
  | .running => "running"
  | .finalizing => "finalizing"
  | .awaitingAcceptance => "awaiting_acceptance"
  | .accepted => "accepted"
  | .followUpNeeded => "follow_up_needed"
  | .failed => "failed"
  | .cancelled => "cancelled"
  | .archived => "archived"

/-- `_failure_from_exception`; there is nothing when the exception is not caught. -/
def failureFromException : PlanStoreError → Option ContractTaskNodeCommandOutcome
  | .stale _ _ _ =>
    some { accepted := false, message := none, status := .conflict,
           reasonCode := some "version_conflict" }
  | .planNotFound _ | .nodeNotFound _ =>
    some { accepted := false, message := none, status := .rejected,
           reasonCode := some "target_not_found" }
  | .planExists _ | .integrity | .alreadyArchived _ =>
    some { accepted := false, message := none, status := .rejected,
           reasonCode := some "command_rejected" }
  | .sessionMismatch | .planMismatch | .duplicateId | .duplicateIndex | .unknownDependency _
  | .validation =>
    some { accepted := false, message := none, status := .rejected,
           reasonCode := some "invalid_payload" }
  | .overflow => none

/-! ### The new node -/

/-- The first number from `candidate` on that is not used. -/
def firstFree (used : List String) : (fuel candidate : ℕ) → ℕ
  | 0, candidate => candidate
  | fuel + 1, candidate =>
    if candidate.repr ∈ used then firstFree used fuel (candidate + 1) else candidate

/-- `_next_task_index`; there are no more used numbers than nodes. -/
def nextTaskIndex (nodes : List PlanTaskNode) : String :=
  (firstFree (nodes.map PlanTaskNode.taskIndex) nodes.length 1).repr

def nextOrderIndex (nodes : List PlanTaskNode) (afterTaskNodeId : Option String) :
    Except PlanStoreError ℕ :=
  match afterTaskNodeId with
  | some i =>
    match nodes.find? (fun n => n.taskNodeId == i) with
    | some n => .ok (n.orderIndex + 1)
    | none => .error .validation
  | none => .ok (if nodes = [] then 0 else (nodes.map PlanTaskNode.orderIndex).foldl max 0 + 1)

def titleFromIntent (intent : String) : String :=
  let normalized := joinWords intent
  if normalized.length ≤ 80 then normalized
  else String.ofList (normalized.toList.take 79) ++ "..."

/-- `x or y` for texts -/
def textOr (o : Option String) (s : String) : String :=
  match o with
  | none => s
  | some t => if t = "" then s else t

def nodeForCreatePayload (request : ContractCommandRequest) (payload : CreateTaskNodePayload)
    (plan : Plan) (existingNodes : List PlanTaskNode) (readiness : PlanTaskNodeReadiness)
    (input : TaskNodeInput) : Except PlanStoreError PlanTaskNode :=
  match nextOrderIndex existingNodes payload.afterTaskNodeId with
  | .error e => .error e
  | .ok orderIndex =>
    let node : PlanTaskNode :=
      { taskNodeId := input.taskNodeId
        planId := plan.planId
        sessionId := request.sessionId
        taskIndex := nextTaskIndex existingNodes
        orderIndex := orderIndex
        title := payload.title
        intent := payload.intent
        summary := textOr payload.summary payload.intent
        instructions := payload.instructions
        requiredCapability := some (textOr payload.requiredCapability "general")
        dependsOn := payload.dependsOn
        constraints := payload.constraints
        acceptanceCriteria := payload.acceptanceCriteria
        readiness := readiness
        createdAt := input.nodeCreatedAt
        updatedAt := input.nodeUpdatedAt }
    if node.Valid then .ok node else .error .validation

def nodeForExecutionPayload (request : ContractCommandRequest)
    (payload : CreateExecutionTaskPayload) (plan : Plan) (existingNodes : List PlanTaskNode)
    (input : TaskNodeInput) : Except PlanStoreError PlanTaskNode :=
  let title := textOr payload.title (titleFromIntent payload.intent)
  let summary := some (textOr payload.summary payload.intent)
  let capability := some (textOr payload.requiredCapability "general")
  if h : createFieldsOk title payload.intent summary capability none = true then
    nodeForCreatePayload request
      { title := title
        intent := payload.intent
        summary := summary
        instructions := payload.instructions
        requiredCapability := capability
        constraints := payload.constraints
        acceptanceCriteria :=
          if payload.acceptanceCriteria = [] then ["Complete the requested workspace change."]
          else payload.acceptanceCriteria
        afterTaskNodeId := none
        fields_ok := h }
      plan existingNodes .approved input
  else .error .validation

def newExecutionPlan (request : ContractCommandRequest) (payload : CreateExecutionTaskPayload)
    (input : TaskNodeInput) : Plan where
  planId := input.planId
  sessionId := request.sessionId
  title := textOr payload.title (titleFromIntent payload.intent)
  objective := payload.intent
  summary := textOr payload.summary payload.intent
  status := .approved
  createdBy := "runtime_input_router"
  createdAt := input.planCreatedAt
  updatedAt := input.planUpdatedAt

namespace SqlitePlanStore

/-! ### The commands -/

/-- `_target_editable_plan`; the new plan is the one for a command that may bring its
own. -/
def targetEditablePlan (store : SqlitePlanStore) (request : ContractCommandRequest)
    (newPlan : Option Plan) : Except ContractTaskNodeCommandOutcome Plan :=
  match request.planId with
  | some planId =>
    match store.getPlan request.sessionId planId with
    | none =>
      .error { accepted := false, status := .rejected,
               message := some "Plan target was not found.",
               reasonCode := some "target_not_found" }
    | some plan =>
      if plan.status.editable then .ok plan
      else
        .error { accepted := false, status := .rejected,
                 message := some ("Plan status '" ++ plan.status.toText ++ "' cannot be edited."),
                 reasonCode := some "invalid_plan_state", planId := some plan.planId }
  | none =>
    let refused (active : Option Plan) : Except ContractTaskNodeCommandOutcome Plan :=
      match newPlan with
      | some plan => .ok plan
      | none =>
        .error { accepted := false, status := .rejected,
                 message := some "No editable Plan is available.",
                 reasonCode :=
                   some (if active.isNone then "target_not_found" else "invalid_plan_state"),
                 planId := active.map Plan.planId }
    match store.getActivePlan request.sessionId with
    | some plan => if plan.status.editable then .ok plan else refused (some plan)
    | none => refused none

/-- The outcome of a write; nothing when it raises. -/
def outcomeOf (message : String) (planId : String)
    (written : Except PlanStoreError PlanTaskNode × SqlitePlanStore) :
    Option ContractTaskNodeCommandOutcome × SqlitePlanStore :=
  match written with
  | (.ok saved, store) =>
    (some { accepted := true, message := some message, planId := some planId,
            taskNode := some saved }, store)
  | (.error e, store) => (failureFromException e, store)

def createTaskNode (store : SqlitePlanStore) (request : ContractCommandRequest)
    (payload : CreateTaskNodePayload) (input : TaskNodeInput) :
    Option ContractTaskNodeCommandOutcome × SqlitePlanStore :=
  match store.targetEditablePlan request none with
  | .error o => (some o, store)
  | .ok plan =>
    match store.listTaskNodes request.sessionId plan.planId with
    | .error e => (failureFromException e, store)
    | .ok nodes =>
      match nodeForCreatePayload request payload plan nodes .draft input with
      | .error e => (failureFromException e, store)
      | .ok node =>
        outcomeOf "TaskNode was created." plan.planId
          (store.addTaskNode node request.expectedVersion input.now)

def deleteBlockReason (node : PlanTaskNode) : Option String :=
  if node.readiness = .published ∨ node.publishedRef ≠ none then some "task_already_published"
  else if node.execution ≠ .notStarted ∧ node.execution ≠ .unknown then
    some "task_has_execution_evidence"
  else if node.resultRef ≠ none ∨ node.errorRef ≠ none ∨ node.fileSummaryRef ≠ none ∨
      node.auditRef ≠ none then
    some "task_has_execution_evidence"
  else none

/-- The mark of a removed node. -/
def cancelledNode (node : PlanTaskNode) : PlanTaskNode :=
  { node with readiness := .cancelled, execution := .cancelled }

def deleteTaskNode (store : SqlitePlanStore) (request : ContractCommandRequest)
    (now : DateTime) : Option ContractTaskNodeCommandOutcome × SqlitePlanStore :=
  match request.taskNodeId with
  | none =>
    (some { accepted := false, status := .rejected, message := some "TaskNode target is missing.",
            reasonCode := some "target_not_found" }, store)
  | some taskNodeId =>
    match store.getTaskNode request.sessionId taskNodeId with
    | none =>
      (some { accepted := false, status := .rejected,
              message := some "TaskNode target was not found.",
              reasonCode := some "target_not_found" }, store)
    | some node =>
      if node.readiness = .cancelled ∨ node.execution = .cancelled then
        (some { accepted := true, status := .noop,
                message := some "TaskNode is already cancelled.", planId := some node.planId,
                taskNode := some node }, store)
      else
        match deleteBlockReason node with
        | some reason =>
          (some { accepted := false, status := .rejected,
                  message := some "TaskNode has execution evidence and cannot be removed.",
                  reasonCode := some reason, planId := some node.planId,
                  taskNode := some node }, store)
        | none =>
          -- an expected version of `0` would be none at all
          outcomeOf "TaskNode was cancelled." node.planId
            (store.saveTaskNode (cancelledNode node)
              (request.expectedVersion.filter (· ≠ 0) |>.getD node.version) now)

/-- The plan is written with the node when it is new. -/
def createExecutionTask (store : SqlitePlanStore) (request : ContractCommandRequest)
    (payload : CreateExecutionTaskPayload) (input : TaskNodeInput) :
    Option ContractTaskNodeCommandOutcome × SqlitePlanStore :=
  match store.targetEditablePlan request (some (newExecutionPlan request payload input)) with
  | .error o => (some o, store)
  | .ok plan =>
    if hplan : plan.Valid then
      match store.getPlan request.sessionId plan.planId with
      | some _ =>
        match nodeForExecutionPayload request payload plan
            (store.nodesOf request.sessionId plan.planId) input with
        | .error _ => (none, store)
        | .ok node =>
          outcomeOf "Execution TaskNode was created." plan.planId
            (store.addTaskNode node request.expectedVersion input.now)
      | none =>
        match nodeForExecutionPayload request payload plan [] input with
        | .error _ => (none, store)
        | .ok node =>
          match store.createPlan plan hplan [node] with
          | (.ok _, store) =>
            outcomeOf "Execution TaskNode was created." plan.planId (.ok node, store)
          | (.error e, store) => (failureFromException e, store)
    else (none, store)

end SqlitePlanStore

/-! ### What the commands do -/

theorem firstFree_mem {used : List String} : ∀ {fuel candidate : ℕ},
    (firstFree used fuel candidate).repr ∈ used →
    ∀ i ≤ fuel, (candidate + i).repr ∈ used := by
  intro fuel
  induction fuel with
  | zero =>
    intro candidate h i hi
    rwa [Nat.le_zero.mp hi]
  | succ fuel ih =>
    intro candidate h i hi
    rw [firstFree] at h
    split at h
    · next hc =>
      cases i with
      | zero => exact hc
      | succ i =>
        have := ih h i (by omega)
        rwa [show candidate + (i + 1) = candidate + 1 + i by omega]
    · next hc => exact absurd h hc

/-- **The task index of a new node is free.** -/
theorem nextTaskIndex_free (nodes : List PlanTaskNode) :
    nextTaskIndex nodes ∉ nodes.map PlanTaskNode.taskIndex := by
  intro h
  have hall := firstFree_mem h
  -- one number more than there are nodes
  have hsub : (List.range (nodes.length + 1)).map (fun i => (1 + i).repr) ⊆
      nodes.map PlanTaskNode.taskIndex := by
    intro s hs
    obtain ⟨i, hi, rfl⟩ := List.mem_map.mp hs
    exact hall i (by have := List.mem_range.mp hi; omega)
  have hnodup : ((List.range (nodes.length + 1)).map (fun i => (1 + i).repr)).Nodup := by
    refine List.Nodup.map ?_ List.nodup_range
    intro i j hij
    have hdigits : Nat.toDigits 10 (1 + i) = Nat.toDigits 10 (1 + j) := by
      rw [← Nat.toList_repr, ← Nat.toList_repr]
      exact congrArg String.toList hij
    have heq := congrArg (Nat.ofDigitChars 10 · 0) hdigits
    simp only [Nat.ofDigitChars_ten_toDigits] at heq
    omega
  have hlen := (hnodup.subperm hsub).length_le
  simp only [List.length_map, List.length_range] at hlen
  omega

theorem nodeForCreatePayload_ok {request : ContractCommandRequest}
    {payload : CreateTaskNodePayload} {plan : Plan} {nodes : List PlanTaskNode}
    {readiness : PlanTaskNodeReadiness} {input : TaskNodeInput} {node : PlanTaskNode}
    (h : nodeForCreatePayload request payload plan nodes readiness input = .ok node) :
    node.sessionId = request.sessionId ∧ node.planId = plan.planId ∧
      node.taskNodeId = input.taskNodeId ∧ node.readiness = readiness ∧
      node.execution = .notStarted ∧ node.publishedRef = none ∧ node.Valid := by
  unfold nodeForCreatePayload at h
  split at h
  · cases h
  · simp only at h
    split at h
    · next hv =>
      cases h
      exact ⟨rfl, rfl, rfl, rfl, rfl, rfl, hv⟩
    · cases h

theorem nodeForExecutionPayload_ok {request : ContractCommandRequest}
    {payload : CreateExecutionTaskPayload} {plan : Plan} {nodes : List PlanTaskNode}
    {input : TaskNodeInput} {node : PlanTaskNode}
    (h : nodeForExecutionPayload request payload plan nodes input = .ok node) :
    node.sessionId = request.sessionId ∧ node.planId = plan.planId ∧
      node.taskNodeId = input.taskNodeId ∧ node.readiness = .approved ∧
      node.execution = .notStarted ∧ node.publishedRef = none ∧ node.Valid := by
  unfold nodeForExecutionPayload at h
  simp only at h
  split at h
  · exact nodeForCreatePayload_ok h
  · cases h

theorem not_accepted_failure {e : PlanStoreError} {o : ContractTaskNodeCommandOutcome}
    (h : failureFromException e = some o) : o.accepted = false := by
  cases e <;> cases h <;> rfl

namespace SqlitePlanStore

theorem not_accepted_target {store : SqlitePlanStore} {request : ContractCommandRequest}
    {newPlan : Option Plan} {o : ContractTaskNodeCommandOutcome}
    (h : store.targetEditablePlan request newPlan = .error o) : o.accepted = false := by
  unfold targetEditablePlan at h
  split at h
  · split at h
    · cases h
      rfl
    · split at h <;> cases h
      rfl
  · simp only at h
    repeat' split at h
    all_goals cases h <;> rfl

def written (message planId : String) (node : PlanTaskNode) : ContractTaskNodeCommandOutcome :=
  { accepted := true, message := some message, planId := some planId, taskNode := some node }

structure Added (store : SqlitePlanStore) (node : PlanTaskNode) (now : DateTime)
    (store' : SqlitePlanStore) : Prop where
  fresh : store.getTaskNode node.sessionId node.taskNodeId = none
  node_valid : node.Valid
  nodes : ∀ s i, store'.getTaskNode s i = if node.key = (s, i) then some node
    else store.getTaskNode s i
  plans : ∃ plan, store.getPlan node.sessionId node.planId = some plan ∧
    ∀ s p, store'.getPlan s p = if plan.key = (s, p)
      then some { plan with version := plan.version + 1, updatedAt := now }
      else store.getPlan s p

structure Created (store : SqlitePlanStore) (plan : Plan) (node : PlanTaskNode)
    (store' : SqlitePlanStore) : Prop where
  fresh : store.getTaskNode node.sessionId node.taskNodeId = none
  node_valid : node.Valid
  fresh_plan : store.getPlan plan.sessionId plan.planId = none
  session_eq : node.sessionId = plan.sessionId
  plan_eq : node.planId = plan.planId
  nodes : ∀ s i, store'.getTaskNode s i = if node.key = (s, i) then some node
    else store.getTaskNode s i
  plans : ∀ s p, store'.getPlan s p = if plan.key = (s, p) then some plan else store.getPlan s p

variable {store store' : SqlitePlanStore} {request : ContractCommandRequest}
  {out : Option ContractTaskNodeCommandOutcome} {input : TaskNodeInput}

theorem added_of_addTaskNode {node saved : PlanTaskNode} {v : Option ℕ} {now : DateTime}
    (h : store.addTaskNode node v now = (.ok saved, store')) :
    saved = node ∧ store.Added node now store' := by
  rcases store.addTaskNode_cases node v now with ⟨e, he⟩ | ⟨plan, hn, hp, hi, hv, hplan, hfree, heq⟩
  · rw [he] at h
    cases h
  · rw [heq] at h
    cases h
    refine ⟨rfl, hfree, hn, fun s i => ?_, plan, hplan, fun s p => ?_⟩
    · rw [getTaskNode_putPlan, getTaskNode_putNode]
    · exact Dict.get?_set _ _ _ _

theorem created_of_createPlan {plan saved : Plan} {hplan : plan.Valid} {node : PlanTaskNode}
    (h : store.createPlan plan hplan [node] = (.ok saved, store')) :
    store.Created plan node store' := by
  rcases store.createPlan_cases plan hplan node with ⟨e, he⟩ |
    ⟨hn, hp, hi, hnew, hs, hpl, hfree, heq⟩
  · rw [he] at h
    cases h
  · rw [heq] at h
    cases h
    refine ⟨hfree, hn, hnew, hs, hpl, fun s i => ?_, fun s p => ?_⟩
    · rw [getTaskNode_putNode, getTaskNode_putPlan]
    · rw [getPlan_putNode]
      exact Dict.get?_set _ _ _ _

theorem outcomeOf_add_cases {message planId : String} {node : PlanTaskNode} {v : Option ℕ}
    {now : DateTime}
    (h : outcomeOf message planId (store.addTaskNode node v now) = (out, store')) :
    (store' = store ∧ ∀ o, out = some o → o.accepted = false) ∨
    (out = some (written message planId node) ∧ store.Added node now store') := by
  cases hadd : store.addTaskNode node v now with
  | mk r st =>
    rw [hadd] at h
    cases r with
    | error e =>
      cases h
      rcases store.addTaskNode_cases node v now with ⟨e', he'⟩ | ⟨_, _, _, _, _, _, _, heq⟩
      · rw [hadd] at he'
        cases he'
        exact .inl ⟨rfl, fun o ho => not_accepted_failure ho⟩
      · rw [hadd] at heq
        cases heq
    | ok saved =>
      obtain ⟨rfl, hadded⟩ := added_of_addTaskNode hadd
      cases h
      exact .inr ⟨rfl, hadded⟩

/-- **A creation of a node inverted.** -/
theorem createTaskNode_cases {payload : CreateTaskNodePayload}
    (h : store.createTaskNode request payload input = (out, store')) :
    (store' = store ∧ ∀ o, out = some o → o.accepted = false) ∨
    ∃ node, out = some (written "TaskNode was created." node.planId node) ∧
      node.sessionId = request.sessionId ∧ node.taskNodeId = input.taskNodeId ∧
      node.readiness = .draft ∧ node.execution = .notStarted ∧ node.publishedRef = none ∧
      store.Added node input.now store' := by
  unfold createTaskNode at h
  split at h
  · next ho =>
    cases h
    exact .inl ⟨rfl, fun o heq => by cases heq; exact not_accepted_target ho⟩
  · split at h
    · cases h
      exact .inl ⟨rfl, fun o heq => not_accepted_failure heq⟩
    · split at h
      · cases h
        exact .inl ⟨rfl, fun o heq => not_accepted_failure heq⟩
      · next hnode =>
        obtain ⟨hs, hp, hi, hr, hx, href, _⟩ := nodeForCreatePayload_ok hnode
        rw [← hp] at h
        rcases outcomeOf_add_cases h with hsame | ⟨hout, hadded⟩
        · exact .inl hsame
        · exact .inr ⟨_, hout, hs, hi, hr, hx, href, hadded⟩

/-- **A creation of execution work inverted.** -/
theorem createExecutionTask_cases {payload : CreateExecutionTaskPayload}
    (h : store.createExecutionTask request payload input = (out, store')) :
    (store' = store ∧ ∀ o, out = some o → o.accepted = false) ∨
    ∃ node, out = some (written "Execution TaskNode was created." node.planId node) ∧
      node.sessionId = request.sessionId ∧ node.taskNodeId = input.taskNodeId ∧
      node.readiness = .approved ∧ node.execution = .notStarted ∧ node.publishedRef = none ∧
      (store.Added node input.now store' ∨ ∃ plan, store.Created plan node store') := by
  unfold createExecutionTask at h
  split at h
  · next ho =>
    cases h
    exact .inl ⟨rfl, fun o heq => by cases heq; exact not_accepted_target ho⟩
  · split at h
    · next hplan =>
      split at h
      · split at h
        · cases h
          exact .inl ⟨rfl, fun o heq => by cases heq⟩
        · next hnode =>
          obtain ⟨hs, hp, hi, hr, hx, href, _⟩ := nodeForExecutionPayload_ok hnode
          rw [← hp] at h
          rcases outcomeOf_add_cases h with hsame | ⟨hout, hadded⟩
          · exact .inl hsame
          · exact .inr ⟨_, hout, hs, hi, hr, hx, href, .inl hadded⟩
      · split at h
        · cases h
          exact .inl ⟨rfl, fun o heq => by cases heq⟩
        · next node hnode =>
          obtain ⟨hs, hp, hi, hr, hx, href, _⟩ := nodeForExecutionPayload_ok hnode
          split at h
          · next hcreate =>
            cases h
            rw [← hp]
            exact .inr ⟨_, rfl, hs, hi, hr, hx, href, .inr ⟨_, created_of_createPlan hcreate⟩⟩
          · next st hcreate =>
            cases h
            rcases store.createPlan_cases _ hplan node with ⟨e, he⟩ | ⟨_, _, _, _, _, _, _, heq⟩
            · rw [he] at hcreate
              cases hcreate
              exact .inl ⟨rfl, fun o heq => not_accepted_failure heq⟩
            · rw [heq] at hcreate
              cases hcreate
    · cases h
      exact .inl ⟨rfl, fun o heq => by cases heq⟩

/-- **A removal of a node inverted**: the node was not published, and it is marked. -/
theorem deleteTaskNode_cases {now : DateTime}
    (h : store.deleteTaskNode request now = (out, store')) :
    (store' = store ∧ ∀ o, out = some o → o.accepted = true → o.status = .noop ∧
      ∃ node, o.taskNode = some node ∧
        store.getTaskNode request.sessionId node.taskNodeId = some node ∧
        request.taskNodeId = some node.taskNodeId ∧
        (node.readiness = .cancelled ∨ node.execution = .cancelled)) ∨
    ∃ node hn hp hi, store.getTaskNode request.sessionId node.taskNodeId = some node ∧
      request.taskNodeId = some node.taskNodeId ∧ deleteBlockReason node = none ∧
      out = some (written "TaskNode was cancelled." node.planId
        ((cancelledNode node).copied node now)) ∧
      store' = store.putNode ((cancelledNode node).copied node now) hn hp hi := by
  unfold deleteTaskNode at h
  split at h
  · cases h
    exact .inl ⟨rfl, fun o heq hacc => by cases heq; cases hacc⟩
  · next taskNodeId hreq =>
    split at h
    · cases h
      exact .inl ⟨rfl, fun o heq hacc => by cases heq; cases hacc⟩
    · next node hnode =>
      obtain ⟨hs, hid⟩ := key_of_get hnode
      split at h
      · next hc =>
        cases h
        refine .inl ⟨rfl, fun o heq _ => ?_⟩
        cases heq
        exact ⟨rfl, node, rfl, hid ▸ hnode, by rw [hreq, hid], hc⟩
      · split at h
        · cases h
          exact .inl ⟨rfl, fun o heq hacc => by cases heq; cases hacc⟩
        · next hblock =>
          rcases store.saveTaskNode_cases (cancelledNode node)
              (request.expectedVersion.filter (· ≠ 0) |>.getD node.version) now with
            ⟨e, he⟩ | ⟨current, hn, hp, hi, hcur, _, heq⟩
          · rw [he] at h
            cases h
            refine .inl ⟨rfl, fun o heq hacc => ?_⟩
            rw [not_accepted_failure heq] at hacc
            cases hacc
          · have hcn : node = current := by
              have hcur' : store.getTaskNode node.sessionId node.taskNodeId = some current := hcur
              rw [hs, hid, hnode] at hcur'
              exact Option.some.inj hcur'
            subst hcn
            rw [heq] at h
            cases h
            exact .inr ⟨node, hn, hp, hi, hid ▸ hnode, by rw [hreq, hid], hblock, rfl, rfl⟩

end SqlitePlanStore

end Taskweavn
