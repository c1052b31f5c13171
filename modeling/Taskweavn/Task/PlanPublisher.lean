import Taskweavn.Task.PlanStore
import Taskweavn.Task.PublisherReplay

/-!
# Publishing a plan

`DefaultPlanPublisher.publish_plan` publishes the nodes of a plan as tasks, one for
each node, and then writes the reference of its task into every node and the new
status into the plan (`taskweavn/task/plan_publisher.py`).  The tasks and the plan
are in two databases, and every write is a transaction of its own.

Each collaborator may raise.  `PlanFault` says which call does, so that a call of
`publishPlan` can stop between any two of its writes.

The nodes of a plan have no tree structure here: each becomes a root of the
request.
-/

namespace Taskweavn

open Lib Py

/-! ### Commands and results -/

structure PublishPlanCommand where
  commandId : String
  sessionId : String
  planId : String
  publisher : PublisherRef := { kind := .collaborator, actorId := some "collaborator" }
  expectedPlanVersion : Option ℕ := none
  idempotencyKey : String
  publishOptions : TaskPublishOptions := {}
  fields_ok : (Codec.text.accepts commandId && Codec.text.accepts sessionId &&
    Codec.text.accepts planId && publisher.fieldsOk && Codec.text.accepts idempotencyKey &&
    optText.accepts publishOptions.sourceLabel) = true

structure PlanTaskPublishMapping where
  sessionId : String
  planId : String
  taskNodeId : String
  taskIndex : String
  taskId : String
  publishCommandId : String
deriving DecidableEq

inductive PlanSkipReason
  /-- plan has no TaskNodes -/
  | noNodes
  /-- plan status … cannot be published -/
  | status (status : PlanStatus)
  /-- plan is partially published -/
  | partiallyPublished
  /-- the reason of the task publisher, or: task publisher skipped plan publish -/
  | publisher (reason : Option PublishReason)
deriving DecidableEq

structure PublishPlanResult where
  commandId : String
  requestId : String
  sessionId : String
  planId : String
  publishedTaskIds : List String := []
  rootTaskIds : List String := []
  mappings : List PlanTaskPublishMapping := []
  skipped : Bool := false
  reason : Option PlanSkipReason := none
deriving DecidableEq

def PublishPlanResult.accepted (r : PublishPlanResult) : Bool := !r.skipped

inductive PlanPublishError
  | store (error : PlanStoreError)
  | bus (error : BusError)
  /-- a request that its constructor refuses -/
  | validation
  /-- a collaborator has raised -/
  | collaborator
deriving DecidableEq

/-- The call of a collaborator that raises. -/
inductive PlanFault
  /-- `task_publisher.publish`, after it has stored the tasks -/
  | publisher
  /-- `save_task_node` for the `n`-th node -/
  | node (n : ℕ)
  /-- `save_plan` -/
  | plan
deriving DecidableEq

/-- What a call reads from outside. -/
structure PlanPublishEnv where
  publish : PublishEnv
  nodeClock : ℕ → DateTime
  planClock : DateTime
  fault : Option PlanFault := none

/-! ### The request -/

/-- `_normalized_node` -/
def PlanTaskNode.normalized (n : PlanTaskNode) : NormalizedTaskNode where
  nodeId := n.taskNodeId
  title := n.title
  intent := n.intent
  summary := some n.summary
  instructions := if n.instructions = "" then none else some n.instructions
  acceptanceCriteria := n.acceptanceCriteria
  requiredCapability := (n.requiredCapability.filter (· ≠ "")).getD "general"
  metadata := Dict.ofList
    [("plan_id", .str n.planId),
     ("task_node_id", .str n.taskNodeId),
     ("task_index", .str n.taskIndex),
     ("depends_on", DefaultTaskPublisher.textTuple n.dependsOn),
     ("constraints", DefaultTaskPublisher.textTuple n.constraints)]

/-- `_ordered_nodes` -/
def orderedPlanNodes (nodes : List PlanTaskNode) : List PlanTaskNode :=
  sortOn PlanTaskNode.planOrder nodes

/-- What the constructors of the request check. -/
def PlanRequestOk (command : PublishPlanCommand) (plan : Plan) (roots : List NormalizedTaskNode) :
    Prop :=
  roots ≠ [] ∧ (NormalizedTaskNode.collectAll roots).all NormalizedTaskNode.fieldsOk = true ∧
    optText.accepts (some plan.planId) = true ∧ (validateTree [] roots).isOk = true ∧
    (Codec.text.accepts command.commandId && Codec.text.accepts command.sessionId &&
      command.publisher.fieldsOk && optText.accepts command.publishOptions.sourceLabel &&
      optText.accepts (some command.idempotencyKey)) = true

instance (command : PublishPlanCommand) (plan : Plan) (roots : List NormalizedTaskNode) :
    Decidable (PlanRequestOk command plan roots) := by
  unfold PlanRequestOk
  infer_instance

def planTree (command : PublishPlanCommand) (plan : Plan) (roots : List NormalizedTaskNode)
    (h : PlanRequestOk command plan roots) : NormalizedTaskTree where
  rootNodes := roots
  source := command.publisher
  sourceRef := some plan.planId
  metadata := Dict.ofList
    [("plan_id", .str plan.planId),
     ("plan_title", .str plan.title),
     ("source_raw_task_id", optText.dump plan.sourceRawTaskId),
     ("source_draft_tree_id", optText.dump plan.sourceDraftTreeId)]
  nonempty := h.1
  nodes_ok := h.2.1
  source_ok := by
    have := h.2.2.2.2
    simp only [Bool.and_eq_true] at this
    exact ⟨this.1.1.2, h.2.2.1⟩
  valid := h.2.2.2.1

/-- `_publish_request` -/
def planRequest (command : PublishPlanCommand) (plan : Plan) (roots : List NormalizedTaskNode)
    (h : PlanRequestOk command plan roots) : PublishRequest where
  requestId := command.commandId
  sessionId := command.sessionId
  publisher := command.publisher
  source :=
    { sourceType := .plan
      sourceId := some plan.planId
      metadata := Dict.ofList [("plan_version", .int plan.version)] }
  taskTree := some (planTree command plan roots h)
  options := command.publishOptions
  idempotencyKey := some command.idempotencyKey
  fields_ok := by
    have h' := h.2.2.2.2
    have hid := h.2.2.1
    simp only [Bool.and_eq_true] at h' ⊢
    simp only [h', hid, TaskDomain.accepts_optText_none, and_self]
  has_input := .inl rfl
  same_source := by
    intro tree htree
    cases htree
    rfl

/-! ### The publisher -/

/-- `_node_task_ids`; the publisher writes texts. -/
def nodeTaskIds (result : PublishResult) : Except PlanPublishError (Dict String String) :=
  match result.metadata.get? "node_task_ids" with
  | none => .ok Dict.empty
  | some (.dict items) =>
    .ok (Dict.ofList (items.map (fun e => (e.1, match e.2 with | .str s => s | _ => ""))))
  | some _ => .error .validation

def mappingsFromResult (command : PublishPlanCommand) (nodes : List PlanTaskNode)
    (ids : Dict String String) : List PlanTaskPublishMapping :=
  (orderedPlanNodes nodes).map (fun n =>
    { sessionId := command.sessionId
      planId := command.planId
      taskNodeId := n.taskNodeId
      taskIndex := n.taskIndex
      taskId := (ids.get? n.taskNodeId).getD ""
      publishCommandId := command.commandId })

def existingLineage (command : PublishPlanCommand) (nodes : List PlanTaskNode) :
    Option PublishPlanResult :=
  if nodes = [] ∨ ¬nodes.all (fun n => n.publishedRef.isSome) then none
  else
    let mappings := (orderedPlanNodes nodes).map (fun n =>
      ({ sessionId := command.sessionId
         planId := command.planId
         taskNodeId := n.taskNodeId
         taskIndex := n.taskIndex
         taskId := (n.publishedRef.map TaskRef.id).getD ""
         publishCommandId := command.commandId } : PlanTaskPublishMapping))
    let taskIds := mappings.map PlanTaskPublishMapping.taskId
    some
      { commandId := command.commandId
        requestId := command.commandId
        sessionId := command.sessionId
        planId := command.planId
        publishedTaskIds := taskIds
        rootTaskIds := taskIds
        mappings := mappings }

namespace DefaultPlanPublisher

def skipped (command : PublishPlanCommand) (planId : String) (reason : PlanSkipReason) :
    PublishPlanResult where
  commandId := command.commandId
  requestId := command.commandId
  sessionId := command.sessionId
  planId := planId
  skipped := true
  reason := some reason

def requirePlan (store : SqlitePlanStore) (command : PublishPlanCommand) :
    Except PlanStoreError Plan :=
  match store.getPlan command.sessionId command.planId with
  | none => .error (.planNotFound command.planId)
  | some plan =>
    match SqlitePlanStore.checkExpected plan.version command.expectedPlanVersion command.planId with
    | .error e => .error e
    | .ok _ => .ok plan

/-- What `_save_published_node` writes. -/
def publishedNode (n : PlanTaskNode) (taskId : String) : PlanTaskNode :=
  { n with
    publishedRef := some (.published taskId)
    readiness := .published
    execution := .pending
    resultRef := none
    errorRef := none }

/-- `_save_published_node` for one node after the other, the `i`-th first. -/
def savePublishedNodes (env : PlanPublishEnv) : (i : ℕ) → SqlitePlanStore →
    List (PlanTaskNode × String) → Except PlanPublishError Unit × SqlitePlanStore
  | _, store, [] => (.ok (), store)
  | i, store, (n, taskId) :: rest =>
    if n.publishedRef = some (.published taskId) ∧ n.readiness = .published ∧
        n.execution = .pending then
      savePublishedNodes env (i + 1) store rest
    else if env.fault = some (.node i) then (.error .collaborator, store)
    else
      match store.saveTaskNode (publishedNode n taskId) n.version (env.nodeClock i) with
      | (.error e, store) => (.error (.store e), store)
      | (.ok _, store) => savePublishedNodes env (i + 1) store rest

def savePublishedPlan (env : PlanPublishEnv) (store : SqlitePlanStore) (plan : Plan) :
    Except PlanPublishError Unit × SqlitePlanStore :=
  if env.fault = some .plan then (.error .collaborator, store)
  else
    match store.savePlan { plan with status := .published } plan.version env.planClock with
    | (.error e, store) => (.error (.store e), store)
    | (.ok _, store) => (.ok (), store)

/-- The part after the task publisher has accepted. -/
def finish (store : SqlitePlanStore) (command : PublishPlanCommand) (plan : Plan)
    (nodes : List PlanTaskNode) (result : PublishResult) (env : PlanPublishEnv) :
    Except PlanPublishError PublishPlanResult × SqlitePlanStore :=
  match nodeTaskIds result with
  | .error e => (.error e, store)
  | .ok ids =>
    match savePublishedNodes env 0 store
        (nodes.map (fun n => (n, (ids.get? n.taskNodeId).getD ""))) with
    | (.error e, store) => (.error e, store)
    | (.ok _, store) =>
      match savePublishedPlan env store plan with
      | (.error e, store) => (.error e, store)
      | (.ok _, store) =>
        (.ok
          { commandId := command.commandId
            requestId := result.requestId
            sessionId := command.sessionId
            planId := command.planId
            publishedTaskIds := result.publishedTaskIds
            rootTaskIds := result.rootTaskIds
            mappings := mappingsFromResult command nodes ids }, store)

variable {B : Type} [TaskBus B]

/-- The part of `publish_plan` for a plan whose nodes are not published. -/
def publishNodes (U : Uuid5) (bus : B) (store : SqlitePlanStore) (command : PublishPlanCommand)
    (plan : Plan) (nodes : List PlanTaskNode) (env : PlanPublishEnv) :
    Except PlanPublishError PublishPlanResult × B × SqlitePlanStore :=
  if h : PlanRequestOk command plan ((orderedPlanNodes nodes).map PlanTaskNode.normalized) then
    match DefaultTaskPublisher.publish U bus (planRequest command plan _ h) env.publish with
    | (.error e, bus) => (.error (.bus e), bus, store)
    | (.ok result, bus) =>
      if result.skipped then
        (.ok
          { commandId := command.commandId
            requestId := result.requestId
            sessionId := command.sessionId
            planId := command.planId
            skipped := true
            reason := some (.publisher result.reason) }, bus, store)
      else if env.fault = some .publisher then (.error .collaborator, bus, store)
      else
        let (out, store) := finish store command plan nodes result env
        (out, bus, store)
  else (.error .validation, bus, store)

def publishPlan (U : Uuid5) (bus : B) (store : SqlitePlanStore) (command : PublishPlanCommand)
    (env : PlanPublishEnv) : Except PlanPublishError PublishPlanResult × B × SqlitePlanStore :=
  match requirePlan store command with
  | .error e => (.error (.store e), bus, store)
  | .ok plan =>
    let nodes := store.nodesOf command.sessionId command.planId
    if nodes = [] then (.ok (skipped command plan.planId .noNodes), bus, store)
    else if plan.status = .cancelled ∨ plan.status = .archived then
      (.ok (skipped command plan.planId (.status plan.status)), bus, store)
    else
      match existingLineage command nodes with
      | some result =>
        if plan.status = .published then (.ok result, bus, store)
        else
          match savePublishedPlan env store plan with
          | (.error e, store) => (.error e, bus, store)
          | (.ok _, store) => (.ok result, bus, store)
      | none =>
        if nodes.any (fun n => n.publishedRef.isSome) then
          (.ok (skipped command plan.planId .partiallyPublished), bus, store)
        else publishNodes U bus store command plan nodes env

/-! ### The nodes of a request -/

end DefaultPlanPublisher

theorem collectAll_normalized (l : List PlanTaskNode) :
    NormalizedTaskNode.collectAll (l.map PlanTaskNode.normalized) =
      l.map PlanTaskNode.normalized := by
  induction l with
  | nil => rfl
  | cons n l ih =>
    rw [List.map_cons, NormalizedTaskNode.collectAll, ih, NormalizedTaskNode.collectNodes_eq]
    rfl

def PublishPlanCommand.taskId (U : Uuid5) (command : PublishPlanCommand) (taskNodeId : String) :
    String :=
  U.hex
    { sessionId := command.sessionId
      publisherKind := command.publisher.kind
      idempotencyKey := command.idempotencyKey
      sourceNodeId := taskNodeId }

section

variable {U : Uuid5} {command : PublishPlanCommand} {plan : Plan} {nodes : List PlanTaskNode}
  {h : PlanRequestOk command plan ((orderedPlanNodes nodes).map PlanTaskNode.normalized)}
  {n : PlanTaskNode}

theorem iterNodes_planTree : (planTree command plan _ h).iterNodes =
    (orderedPlanNodes nodes).map PlanTaskNode.normalized :=
  collectAll_normalized _

theorem mem_iterNodes_planTree (hn : n ∈ nodes) :
    n.normalized ∈ (planTree command plan _ h).iterNodes := by
  rw [iterNodes_planTree]
  exact List.mem_map_of_mem (mem_sortOn.mpr hn)

theorem get?_taskIds_planRequest (env : PublishEnv) (hn : n ∈ nodes) :
    ((planRequest command plan _ h).taskIdsForRequest U (planTree command plan _ h) env).get?
      n.taskNodeId = some (command.taskId U n.taskNodeId) :=
  (PublishRequest.get?_taskIdsForRequest rfl (mem_iterNodes_planTree hn) :
    ((planRequest command plan _ h).taskIdsForRequest U (planTree command plan _ h) env).get?
      n.normalized.nodeId = _)

theorem nodeTaskIds_of_textDict {result : PublishResult} {d : Dict String String}
    (hd : result.metadata.get? "node_task_ids" = some (DefaultTaskPublisher.textDict d)) :
    nodeTaskIds result = .ok d := by
  simp only [nodeTaskIds, hd, DefaultTaskPublisher.textDict, List.map_map]
  refine congrArg Except.ok ?_
  rw [show (fun e : String × PyValue => (e.1, match e.2 with | .str s => s | _ => "")) ∘
    (fun e : String × String => (e.1, PyValue.str e.2)) = id from rfl, List.map_id,
    Dict.ofList_entries]

end

namespace DefaultPlanPublisher

section

variable {store store' : SqlitePlanStore} {env : PlanPublishEnv}

def Wrote (store' : SqlitePlanStore) (n : PlanTaskNode) (taskId : String) : Prop :=
  ∃ now, store'.getTaskNode n.sessionId n.taskNodeId = some ((publishedNode n taskId).copied n now)

/-- **The nodes that are saved.**  The nodes were read from the store, and are not
published.  A part of them is written, and the rest of the store stays. -/
theorem savePublishedNodes_cases : ∀ (l : List (PlanTaskNode × String)) (i : ℕ)
    {store store' : SqlitePlanStore} {out : Except PlanPublishError Unit},
    (∀ x ∈ l, store.getTaskNode x.1.sessionId x.1.taskNodeId = some x.1) →
    (l.map (fun x => x.1.key)).Nodup → (∀ x ∈ l, x.1.publishedRef = none) →
    savePublishedNodes env i store l = (out, store') →
    ∃ l₁ l₂, l = l₁ ++ l₂ ∧ (l₁ = [] → store' = store) ∧ store'.plans = store.plans ∧
      (∀ x ∈ l₁, Wrote store' x.1 x.2) ∧
      (∀ s t, (∀ x ∈ l₁, x.1.key ≠ (s, t)) → store'.getTaskNode s t = store.getTaskNode s t) ∧
      (out = .ok () → l₂ = []) ∧
      (out = .error .collaborator → l₂ ≠ [] ∧ env.fault = some (.node (i + l₁.length))) := by
  intro l
  induction l with
  | nil =>
    intro i store store' out _ _ _ hsave
    cases hsave
    exact ⟨[], [], rfl, fun _ => rfl, rfl, by simp, fun _ _ _ => rfl, fun _ => rfl, by simp⟩
  | cons x rest ih =>
    obtain ⟨n, taskId⟩ := x
    intro i store store' out hget hnodup hnone hsave
    have hn := hget (n, taskId) List.mem_cons_self
    have hnn : n.publishedRef = none := hnone (n, taskId) List.mem_cons_self
    rw [savePublishedNodes, if_neg (by simp [hnn])] at hsave
    by_cases hf : env.fault = some (.node i)
    · rw [if_pos hf] at hsave
      cases hsave
      exact ⟨[], (n, taskId) :: rest, rfl, fun _ => rfl, rfl, by simp, fun _ _ _ => rfl, by simp,
        fun _ => ⟨by simp, hf⟩⟩
    · rw [if_neg hf] at hsave
      rcases SqlitePlanStore.saveTaskNode_cases store (publishedNode n taskId) n.version
        (env.nodeClock i) with ⟨e, he⟩ | ⟨current, hv, hp, hi, hcur, _, hok⟩
      · rw [he] at hsave
        cases hsave
        exact ⟨[], (n, taskId) :: rest, rfl, fun _ => rfl, rfl, by simp, fun _ _ _ => rfl, by simp,
          by simp⟩
      · obtain rfl : n = current := Option.some.inj (hn.symm.trans hcur)
        rw [hok] at hsave
        simp only at hsave
        obtain ⟨hnotin, hnodup'⟩ := List.nodup_cons.mp hnodup
        have hkey : ((publishedNode n taskId).copied n (env.nodeClock i)).key = n.key := rfl
        -- the other nodes are still there as they were read
        have hget' : ∀ x ∈ rest, (store.putNode _ hv hp hi).getTaskNode x.1.sessionId
            x.1.taskNodeId = some x.1 := by
          intro x hx
          rw [SqlitePlanStore.getTaskNode_putNode, hkey, if_neg]
          · exact hget x (List.mem_cons_of_mem _ hx)
          · intro heq
            exact hnotin (List.mem_map.mpr ⟨x, hx, heq.symm⟩)
        obtain ⟨l₁, l₂, hsplit, _, hplans, hwrote, hrest, hdone, hfault⟩ := ih (i + 1) hget' hnodup'
          (fun x hx => hnone x (List.mem_cons_of_mem _ hx)) hsave
        refine ⟨(n, taskId) :: l₁, l₂, by rw [hsplit, List.cons_append], by simp, hplans, ?_, ?_,
          hdone, ?_⟩
        · intro x hx
          rcases List.mem_cons.mp hx with rfl | hx
          · refine ⟨env.nodeClock i, ?_⟩
            rw [hrest _ _ ?_, SqlitePlanStore.getTaskNode_putNode, hkey]
            · exact if_pos rfl
            · intro y hy heq
              have : y ∈ rest := by rw [hsplit]; exact List.mem_append_left _ hy
              exact hnotin (List.mem_map.mpr ⟨y, this, heq⟩)
          · exact hwrote x hx
        · intro s t hne
          rw [hrest s t (fun y hy => hne y (List.mem_cons_of_mem _ hy)),
            SqlitePlanStore.getTaskNode_putNode, hkey, if_neg (hne (n, taskId) List.mem_cons_self)]
        · intro herr
          obtain ⟨hne, hfn⟩ := hfault herr
          refine ⟨hne, ?_⟩
          rw [hfn, List.length_cons]
          congr 2
          omega

theorem valid_publishedNode {n : PlanTaskNode} (h : n.Valid) {taskId : String} (hid : taskId ≠ "")
    {now : DateTime} (hnow : n.createdAt ≤ now) :
    ((publishedNode n taskId).copied n now).Valid := by
  obtain ⟨hf, _, _, hd⟩ := h
  refine ⟨?_, Nat.le_add_left 1 _, hnow, hd⟩
  simp only [PlanTaskNode.fieldsOk, Bool.and_eq_true] at hf ⊢
  have hid' : Codec.text.accepts taskId = true := decide_eq_true hid
  simp only [PlanTaskNode.copied, publishedNode, hf, hid', TaskDomain.accepts_optText_none,
    Option.all_some, TaskRef.published, and_self]

theorem savePublishedNodes_ok : ∀ (l : List (PlanTaskNode × String)) (i : ℕ)
    {store : SqlitePlanStore},
    (∀ x ∈ l, store.getTaskNode x.1.sessionId x.1.taskNodeId = some x.1) →
    (l.map (fun x => x.1.key)).Nodup → (∀ x ∈ l, x.2 ≠ "") →
    (∀ x ∈ l, ∀ j, x.1.createdAt ≤ env.nodeClock j) → (∀ j, env.fault ≠ some (.node j)) →
    (savePublishedNodes env i store l).1 = .ok () := by
  intro l
  induction l with
  | nil => intros; rfl
  | cons x rest ih =>
    obtain ⟨n, taskId⟩ := x
    intro i store hget hnodup hids hclock hfault
    have hn := hget (n, taskId) List.mem_cons_self
    obtain ⟨hnotin, hnodup'⟩ := List.nodup_cons.mp hnodup
    have hrest : ∀ {store₁ : SqlitePlanStore},
        (∀ x ∈ rest, store₁.getTaskNode x.1.sessionId x.1.taskNodeId = some x.1) →
        (savePublishedNodes env (i + 1) store₁ rest).1 = .ok () := fun h =>
      ih (i + 1) h hnodup' (fun x hx => hids x (List.mem_cons_of_mem _ hx))
        (fun x hx => hclock x (List.mem_cons_of_mem _ hx)) hfault
    rw [savePublishedNodes]
    split
    · exact hrest (fun x hx => hget x (List.mem_cons_of_mem _ hx))
    · rw [if_neg (hfault i)]
      have hv := valid_publishedNode (store.nodes_ok _ _ hn).2.1
        (hids (n, taskId) List.mem_cons_self) (hclock (n, taskId) List.mem_cons_self i)
      obtain ⟨h, hp, hi, hok⟩ := SqlitePlanStore.saveTaskNode_ok (n := publishedNode n taskId) hn
        rfl rfl hv
      rw [hok]
      refine hrest ?_
      intro x hx
      rw [SqlitePlanStore.getTaskNode_putNode, if_neg]
      · exact hget x (List.mem_cons_of_mem _ hx)
      · intro heq
        exact hnotin (List.mem_map.mpr ⟨x, hx, heq.symm⟩)

theorem pairs_ok (store : SqlitePlanStore) {s p : String} (f : String → String) :
    (∀ x ∈ (store.nodesOf s p).map (fun n => (n, f n.taskNodeId)),
      store.getTaskNode x.1.sessionId x.1.taskNodeId = some x.1) ∧
    (((store.nodesOf s p).map (fun n => (n, f n.taskNodeId))).map (fun x => x.1.key)).Nodup := by
  constructor
  · intro x hx
    obtain ⟨n, hn, rfl⟩ := List.mem_map.mp hx
    obtain ⟨hget, hs, _⟩ := SqlitePlanStore.mem_nodesOf.mp hn
    rw [← hs] at hget
    exact hget
  · rw [List.map_map]
    have hids := store.nodup_nodesOf (s := s) (p := p)
    refine List.Nodup.of_map Prod.snd ?_
    rw [List.map_map]
    exact hids

/-- **The plan after its nodes were saved**, or some of them. -/
theorem nodesOf_saved {s p : String} {f : String → String} {out : Except PlanPublishError Unit}
    (hnone : ∀ n ∈ store.nodesOf s p, n.publishedRef = none)
    (hsave : savePublishedNodes env 0 store
      ((store.nodesOf s p).map (fun n => (n, f n.taskNodeId))) = (out, store')) :
    store'.plans = store.plans ∧
    (∀ n' ∈ store'.nodesOf s p, ∃ n ∈ store.nodesOf s p, n'.taskNodeId = n.taskNodeId ∧
      (n' = n ∨ ∃ now, n' = (publishedNode n (f n.taskNodeId)).copied n now)) ∧
    (∀ n ∈ store.nodesOf s p, ∃ n' ∈ store'.nodesOf s p, n'.taskNodeId = n.taskNodeId) ∧
    (out = .ok () → ∀ n' ∈ store'.nodesOf s p, ∃ n ∈ store.nodesOf s p, ∃ now,
      n' = (publishedNode n (f n.taskNodeId)).copied n now) ∧
    (out = .error .collaborator → ∃ k, env.fault = some (.node k) ∧ (k = 0 → store' = store) ∧
      (∃ n' ∈ store'.nodesOf s p, n'.publishedRef = none) ∧
      (k ≠ 0 → ∃ n' ∈ store'.nodesOf s p, n'.publishedRef ≠ none)) := by
  obtain ⟨hget, hnodup⟩ := pairs_ok store (s := s) (p := p) f
  obtain ⟨l₁, l₂, hsplit, hnil, hplans, hwrote, hrest, hdone, hfault⟩ :=
    savePublishedNodes_cases _ 0 hget hnodup (by
      intro x hx
      obtain ⟨n, hn, rfl⟩ := List.mem_map.mp hx
      exact hnone n hn) hsave
  have hpair : ∀ x, x ∈ l₁ ∨ x ∈ l₂ → x.1 ∈ store.nodesOf s p ∧ x.2 = f x.1.taskNodeId := by
    intro x hx
    have hx' : x ∈ (store.nodesOf s p).map (fun n => (n, f n.taskNodeId)) := by
      rw [hsplit]
      exact List.mem_append.mpr hx
    obtain ⟨n, hn, rfl⟩ := List.mem_map.mp hx'
    exact ⟨hn, rfl⟩
  have hin : ∀ n ∈ store.nodesOf s p, (n, f n.taskNodeId) ∈ l₁ ∨ (n, f n.taskNodeId) ∈ l₂ := by
    intro n hn
    rw [← List.mem_append, ← hsplit]
    exact List.mem_map.mpr ⟨n, hn, rfl⟩
  have hkeyOf : ∀ n ∈ store.nodesOf s p, n.key = (s, n.taskNodeId) := fun n hn => by
    rw [PlanTaskNode.key, (SqlitePlanStore.mem_nodesOf.mp hn).2.1]
  -- a node that was written is found in the plan
  have hnew : ∀ x ∈ l₁, ∃ now, (publishedNode x.1 x.2).copied x.1 now ∈ store'.nodesOf s p := by
    intro x hx
    obtain ⟨now, hnow⟩ := hwrote x hx
    obtain ⟨_, hs, hp⟩ := SqlitePlanStore.mem_nodesOf.mp (hpair x (.inl hx)).1
    rw [hs] at hnow
    exact ⟨now, SqlitePlanStore.mem_nodesOf.mpr ⟨hnow, hs, hp⟩⟩
  -- and the others as they were
  have hold : ∀ n ∈ store.nodesOf s p, (∀ x ∈ l₁, x.1.key ≠ n.key) → n ∈ store'.nodesOf s p := by
    intro n hn hne
    obtain ⟨hgetn, hs, hp⟩ := SqlitePlanStore.mem_nodesOf.mp hn
    refine SqlitePlanStore.mem_nodesOf.mpr ⟨?_, hs, hp⟩
    rw [hkeyOf n hn] at hne
    rw [hrest s n.taskNodeId hne, hgetn]
  have hback : ∀ n' ∈ store'.nodesOf s p,
      (∃ x ∈ l₁, ∃ now, n' = (publishedNode x.1 x.2).copied x.1 now ∧
        n'.taskNodeId = x.1.taskNodeId) ∨
      (n' ∈ store.nodesOf s p ∧ ∀ x ∈ l₁, x.1.key ≠ n'.key) := by
    intro n' hn'
    obtain ⟨hgetn, hs, hp⟩ := SqlitePlanStore.mem_nodesOf.mp hn'
    by_cases hex : ∃ x ∈ l₁, x.1.key = (s, n'.taskNodeId)
    · obtain ⟨x, hx, hkey⟩ := hex
      obtain ⟨now, hnow⟩ := hwrote x hx
      rw [show x.1.sessionId = s from congrArg Prod.fst hkey,
        show x.1.taskNodeId = n'.taskNodeId from congrArg Prod.snd hkey] at hnow
      exact .inl ⟨x, hx, now, Option.some.inj (hgetn.symm.trans hnow),
        (congrArg Prod.snd hkey).symm⟩
    · right
      have hne : ∀ x ∈ l₁, x.1.key ≠ (s, n'.taskNodeId) := fun x hx hk => hex ⟨x, hx, hk⟩
      refine ⟨SqlitePlanStore.mem_nodesOf.mpr ⟨?_, hs, hp⟩, ?_⟩
      · rw [← hrest s n'.taskNodeId hne, hgetn]
      · rw [PlanTaskNode.key, hs]
        exact hne
  refine ⟨hplans, ?_, ?_, ?_, ?_⟩
  · intro n' hn'
    rcases hback n' hn' with ⟨x, hx, now, heq, hid⟩ | ⟨hmem, _⟩
    · obtain ⟨hmem, hx2⟩ := hpair x (.inl hx)
      exact ⟨x.1, hmem, hid, .inr ⟨now, by rw [← hx2]; exact heq⟩⟩
    · exact ⟨n', hmem, rfl, .inl rfl⟩
  · intro n hn
    by_cases hex : ∃ x ∈ l₁, x.1.key = n.key
    · obtain ⟨x, hx, hkey⟩ := hex
      obtain ⟨now, hmem⟩ := hnew x hx
      exact ⟨_, hmem, congrArg Prod.snd hkey⟩
    · exact ⟨n, hold n hn (fun x hx hk => hex ⟨x, hx, hk⟩), rfl⟩
  · intro hok n' hn'
    rcases hback n' hn' with ⟨x, hx, now, heq, _⟩ | ⟨hmem, hne⟩
    · obtain ⟨hmem, hx2⟩ := hpair x (.inl hx)
      exact ⟨x.1, hmem, now, by rw [← hx2]; exact heq⟩
    · rcases hin n' hmem with hl | hl
      · exact absurd rfl (hne _ hl)
      · rw [hdone hok] at hl
        cases hl
  · intro herr
    obtain ⟨hne, hf⟩ := hfault herr
    rw [Nat.zero_add] at hf
    refine ⟨l₁.length, hf, fun h0 => hnil (List.length_eq_zero_iff.mp h0), ?_, ?_⟩
    · obtain ⟨x, hx⟩ := List.exists_mem_of_ne_nil l₂ hne
      obtain ⟨hmem, _⟩ := hpair x (.inr hx)
      refine ⟨x.1, hold x.1 hmem ?_, hnone x.1 hmem⟩
      intro y hy hkey
      rw [hsplit, List.map_append, List.nodup_append] at hnodup
      exact hnodup.2.2 _ (List.mem_map_of_mem hy) _ (List.mem_map_of_mem hx) hkey
    · intro h0
      obtain ⟨x, hx⟩ := List.exists_mem_of_ne_nil l₁ (fun hnil' => h0 (by rw [hnil']; rfl))
      obtain ⟨now, hmem⟩ := hnew x hx
      refine ⟨_, hmem, ?_⟩
      intro hnone'
      cases hnone'

end

end DefaultPlanPublisher

end Taskweavn
