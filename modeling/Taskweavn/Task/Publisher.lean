import Taskweavn.Task.BusShadow
import Taskweavn.Task.NormalizedTree

/-!
# The task publisher

`DefaultTaskPublisher` turns a tree of normalized task nodes into published tasks
and stores them on the bus, a task for each node, parents first
(`taskweavn/task/publisher.py`).  With an idempotency key the ids of the tasks are
a hash of the session, the publisher kind, the key and the node, so that a second
request finds the tasks of the first: they are compared with what the request
would publish, and nothing is written.

The hash is `uuid5` of an encoded payload.  `Uuid5` is this composite, and is
injective.  The clock and the fresh ids of a call come with its `PublishEnv`.

The records of a request are validated when they are built and frozen, so
`NormalizedTaskTree` and `PublishRequest` carry what their validators check.
-/

namespace Taskweavn

open Lib Py

/-! ### Requests and results -/

structure PublishRequest where
  requestId : String
  sessionId : String
  publisher : PublisherRef
  source : PublishSource := {}
  taskTree : Option NormalizedTaskTree := none
  naturalLanguageInput : Option String := none
  options : TaskPublishOptions := {}
  idempotencyKey : Option String := none
  fields_ok : (Codec.text.accepts requestId && Codec.text.accepts sessionId &&
    publisher.fieldsOk && optText.accepts source.sourceId &&
    optText.accepts naturalLanguageInput && optText.accepts options.sourceLabel &&
    optText.accepts idempotencyKey) = true
  has_input : taskTree.isSome ∨ naturalLanguageInput.isSome
  same_source : ∀ tree, taskTree = some tree → tree.source = publisher

inductive PreviewError
  /-- natural-language publish requires authoring before TaskBus publish -/
  | naturalLanguage
  /-- normalized tree source must match request publisher -/
  | sourceMismatch
  /-- node … has empty intent -/
  | emptyIntent (nodeId : String)
  /-- node … has empty required_capability -/
  | emptyCapability (nodeId : String)
deriving DecidableEq

/-- Why a request was skipped. -/
inductive PublishReason
  | preview (errors : List PreviewError)
  /-- dry run -/
  | dryRun
  /-- incomplete idempotent publish -/
  | incomplete
  /-- idempotent publish target already exists with different task payload -/
  | differentPayload
  /-- idempotency conflict -/
  | conflict
  /-- pipeline expansion failed -/
  | expansion
deriving DecidableEq

structure PublishResult where
  requestId : String
  sessionId : String
  publisher : PublisherRef
  publishedTaskIds : List String := []
  rootTaskIds : List String := []
  skipped : Bool := false
  reason : Option PublishReason := none
  idempotencyKey : Option String := none
  metadata : Dict String PyValue := Dict.empty
deriving DecidableEq

def PublishResult.accepted (r : PublishResult) : Bool := !r.skipped

/-! ### Ids and tasks -/

/-- What the id of a task is computed from. -/
structure IdPayload where
  sessionId : String
  publisherKind : PublisherKind
  idempotencyKey : String
  sourceNodeId : String
deriving DecidableEq

/-- `uuid5(NAMESPACE_URL, "taskweavn.publish:" + encoded).hex`, as a function of
the payload that is encoded. -/
structure Uuid5 where
  hex : IdPayload → String
  injective : Function.Injective hex
  ne_empty : ∀ p, hex p ≠ ""

/-- What a publish call reads from outside: `_utcnow()` and `_new_id()` for each
node in turn, and the clock at its end. -/
structure PublishEnv where
  clock : ℕ → DateTime
  newId : ℕ → String
  newId_ne : ∀ n, newId n ≠ ""
  now : DateTime

namespace PublishRequest

variable (U : Uuid5)

def idempotentTaskId (request : PublishRequest) (key : String) (node : NormalizedTaskNode) :
    String :=
  U.hex
    { sessionId := request.sessionId
      publisherKind := request.publisher.kind
      idempotencyKey := key
      sourceNodeId := node.nodeId }

def taskIdsForRequest (request : PublishRequest) (tree : NormalizedTaskTree) (env : PublishEnv) :
    Dict String String :=
  match request.idempotencyKey with
  | none => Dict.ofList (tree.iterNodes.zipIdx.map (fun (node, n) => (node.nodeId, env.newId n)))
  | some key =>
    Dict.ofList (tree.iterNodes.map
      (fun node => (node.nodeId, request.idempotentTaskId U key node)))

/-- The publisher's own items of the dispatch metadata. -/
def baseMetadata (request : PublishRequest) (tree : NormalizedTaskTree)
    (node : NormalizedTaskNode) : List (String × PyValue) :=
  [("publish_request_id", .str request.requestId),
   ("publish_idempotency_key", optText.dump request.idempotencyKey),
   ("publisher_kind", .str request.publisher.kind.toText),
   ("publisher_actor_id", optText.dump request.publisher.actorId),
   ("publisher_name", optText.dump request.publisher.name),
   ("source_type", .str request.source.sourceType.toText),
   ("source_id", optText.dump request.source.sourceId),
   ("source_metadata", .dict request.source.metadata.entries),
   ("source_ref", optText.dump tree.sourceRef),
   ("source_node_id", .str node.nodeId),
   ("title", .str node.title)]

/-- `_dispatch_constraints`; the metadata of the tree and of the node may
overwrite any item. -/
def dispatchConstraints (request : PublishRequest) (tree : NormalizedTaskTree)
    (node : NormalizedTaskNode) : TaskDispatchConstraints where
  preferredAgentId := node.agentRef
  requiredCapabilities := [node.requiredCapability]
  metadata := Dict.ofList
    (request.baseMetadata tree node ++ (tree.metadata.entries ++ node.metadata.entries))

/-- The task of a node, the `n`-th to be built. -/
def taskForNode (request : PublishRequest) (tree : NormalizedTaskTree)
    (nodeTaskIds rootByNode : Dict String String) (env : PublishEnv) (node : NormalizedTaskNode)
    (n : ℕ) : TaskDomain where
  taskId := (nodeTaskIds.get? node.nodeId).getD ""
  sessionId := request.sessionId
  parentId := node.parentId.map (fun parentId => (nodeTaskIds.get? parentId).getD "")
  rootId := (nodeTaskIds.get? ((rootByNode.get? node.nodeId).getD "")).getD ""
  orderIndex := tree.orderIndex node
  intent := node.intent
  summary := node.summary
  instructions := node.instructions
  acceptanceCriteria := node.acceptanceCriteria
  requiredCapability := node.requiredCapability
  dispatchConstraints := some (request.dispatchConstraints tree node)
  createdBy := request.publisher.label
  createdAt := env.clock n

def tasksForRequest (request : PublishRequest) (tree : NormalizedTaskTree)
    (nodeTaskIds rootByNode : Dict String String) (env : PublishEnv) : List TaskDomain :=
  tree.iterNodes.zipIdx.map
    (fun (node, n) => request.taskForNode tree nodeTaskIds rootByNode env node n)

end PublishRequest

/-! ### Comparing tasks -/

def stableMetadata (metadata : Dict String PyValue) : List (String × PyValue) :=
  metadata.entries.filter (fun e => e.1 ≠ "publish_request_id")

def dispatchConstraintsMatch : (existing expected : Option TaskDispatchConstraints) → Bool
  | some existing, some expected =>
    existing.requiredAgentId == expected.requiredAgentId &&
      existing.preferredAgentId == expected.preferredAgentId &&
      existing.requiredCapabilities == expected.requiredCapabilities &&
      (PyValue.dict (stableMetadata existing.metadata)).pyEq
        (.dict (stableMetadata expected.metadata))
  | none, none => true
  | _, _ => false

def taskMatchesExpected (existing expected : TaskDomain) : Bool :=
  existing.sessionId == expected.sessionId && existing.parentId == expected.parentId &&
    existing.rootId == expected.rootId && existing.orderIndex == expected.orderIndex &&
    existing.intent == expected.intent && existing.summary == expected.summary &&
    existing.instructions == expected.instructions &&
    existing.acceptanceCriteria == expected.acceptanceCriteria &&
    existing.requiredCapability == expected.requiredCapability &&
    existing.createdBy == expected.createdBy &&
    dispatchConstraintsMatch existing.dispatchConstraints expected.dispatchConstraints

/-! ### The publisher -/

namespace DefaultTaskPublisher

def validateRequestTree (request : PublishRequest) (tree : NormalizedTaskTree) :
    List PreviewError :=
  (if tree.source ≠ request.publisher then [.sourceMismatch] else []) ++
    tree.iterNodes.flatMap (fun node =>
      (if isBlank node.intent then [.emptyIntent node.nodeId] else []) ++
        (if isBlank node.requiredCapability then [.emptyCapability node.nodeId] else []))

/-- The errors of `preview`, which is valid when there are none. -/
def preview (request : PublishRequest) : List PreviewError :=
  match request.taskTree with
  | none => [.naturalLanguage]
  | some tree => validateRequestTree request tree

def skippedResult (request : PublishRequest) (reason : PublishReason)
    (metadata : Dict String PyValue) : PublishResult where
  requestId := request.requestId
  sessionId := request.sessionId
  publisher := request.publisher
  skipped := true
  reason := some reason
  idempotencyKey := request.idempotencyKey
  metadata := metadata

def textDict (d : Dict String String) : PyValue :=
  .dict (d.entries.map (fun e => (e.1, .str e.2)))

def textTuple (l : List String) : PyValue := .tuple (l.map .str)

section

variable {B : Type} [TaskBus B]

/-- The tasks of the bus under the ids of a request. -/
def existingTasks (bus : B) (sessionId : String) : List TaskDomain →
    Except BusError (List (String × Option TaskDomain))
  | [] => .ok []
  | task :: rest =>
    match TaskBus.get bus sessionId task.taskId with
    | .error e => .error e
    | .ok found =>
      match existingTasks bus sessionId rest with
      | .error e => .error e
      | .ok others => .ok ((task.taskId, found) :: others)

/-- The result of a request whose tasks are there already. -/
def replayedResult (request : PublishRequest) (tasks : List TaskDomain)
    (nodeTaskIds : Dict String String) (rootTaskIds : List String) (env : PublishEnv) :
    PublishResult where
  requestId := request.requestId
  sessionId := request.sessionId
  publisher := request.publisher
  publishedTaskIds := tasks.map TaskDomain.taskId
  rootTaskIds := rootTaskIds
  idempotencyKey := request.idempotencyKey
  metadata := Dict.ofList
    [("node_task_ids", textDict nodeTaskIds),
     ("source_type", .str request.source.sourceType.toText),
     ("idempotent_existing_tasks", .bool true),
     ("replayed_at", .str env.now.isoformat)]

def resultFromExistingIdempotentTasks (bus : B) (request : PublishRequest)
    (tasks : List TaskDomain) (nodeTaskIds : Dict String String) (rootTaskIds : List String)
    (env : PublishEnv) : Except BusError (Option PublishResult) :=
  match existingTasks bus request.sessionId tasks with
  | .error e => .error e
  | .ok found =>
    let existing : Dict String TaskDomain :=
      Dict.ofList ((Dict.ofList found).entries.filterMap (fun e => e.2.map (fun t => (e.1, t))))
    let common : List (String × PyValue) :=
      [("node_task_ids", textDict nodeTaskIds),
       ("source_type", .str request.source.sourceType.toText)]
    if existing.entries.isEmpty then .ok none
    else if existing.entries.length ≠ tasks.length then
      let missing := (tasks.map TaskDomain.taskId).filter (fun i => (existing.get? i).isNone)
      .ok (some (skippedResult request .incomplete (Dict.ofList (common ++
        [("existing_task_ids", textTuple existing.keys),
         ("missing_task_ids", textTuple missing),
         ("skip_idempotency_record", .bool true)]))))
    else
      let mismatched := (tasks.filter (fun task =>
        !((existing.get? task.taskId).any (fun t => taskMatchesExpected t task)))).map
          TaskDomain.taskId
      if mismatched ≠ [] then
        .ok (some (skippedResult request .differentPayload (Dict.ofList (common ++
          [("mismatched_task_ids", textTuple mismatched),
           ("skip_idempotency_record", .bool true)]))))
      else
        .ok (some (replayedResult request tasks nodeTaskIds rootTaskIds env))

/-- `[self._task_bus.publish(task) for task in tasks]` -/
def publishAll (bus : B) : List TaskDomain → Except BusError (List TaskDomain) × B
  | [] => (.ok [], bus)
  | task :: rest =>
    match TaskBus.publish bus task with
    | (.error e, bus) => (.error e, bus)
    | (.ok published, bus) =>
      match publishAll bus rest with
      | (.error e, bus) => (.error e, bus)
      | (.ok others, bus) => (.ok (published :: others), bus)

def publishedResult (request : PublishRequest) (published : List TaskDomain)
    (nodeTaskIds : Dict String String) (rootTaskIds : List String) (env : PublishEnv) :
    PublishResult where
  requestId := request.requestId
  sessionId := request.sessionId
  publisher := request.publisher
  publishedTaskIds := published.map TaskDomain.taskId
  rootTaskIds := rootTaskIds
  idempotencyKey := request.idempotencyKey
  metadata := Dict.ofList
    [("node_task_ids", textDict nodeTaskIds),
     ("source_type", .str request.source.sourceType.toText),
     ("published_at", .str env.now.isoformat)]

/-- What a request asks for: its tasks, the ids of its nodes, and its roots. -/
def wanted (U : Uuid5) (request : PublishRequest) (tree : NormalizedTaskTree) (env : PublishEnv) :
    List TaskDomain × Dict String String × List String :=
  let nodeTaskIds := request.taskIdsForRequest U tree env
  (request.tasksForRequest tree nodeTaskIds tree.rootByNode env, nodeTaskIds,
    tree.rootNodes.map (fun root => (nodeTaskIds.get? root.nodeId).getD ""))

def publish (U : Uuid5) (bus : B) (request : PublishRequest) (env : PublishEnv) :
    Except BusError PublishResult × B :=
  if preview request ≠ [] then
    (.ok (skippedResult request (.preview (preview request)) Dict.empty), bus)
  else if request.options.dryRun then (.ok (skippedResult request .dryRun Dict.empty), bus)
  else
    match request.taskTree with
    | none => (.ok (skippedResult request (.preview (preview request)) Dict.empty), bus)
    | some tree =>
      let (tasks, nodeTaskIds, rootTaskIds) := wanted U request tree env
      let existing :=
        if request.idempotencyKey.isSome then
          resultFromExistingIdempotentTasks bus request tasks nodeTaskIds rootTaskIds env
        else .ok none
      match existing with
      | .error e => (.error e, bus)
      | .ok (some result) => (.ok result, bus)
      | .ok none =>
        match publishAll bus tasks with
        | (.error e, bus) => (.error e, bus)
        | (.ok published, bus) =>
          (.ok (publishedResult request published nodeTaskIds rootTaskIds env), bus)

end

/-! ### The tasks of a request -/

end DefaultTaskPublisher

namespace PublisherRef

theorem label_ne_empty {p : PublisherRef} : p.label ≠ "" := by
  unfold label
  cases ha : p.actorId.filter (· ≠ "") with
  | some a => exact (by simpa using Option.filter_eq_some_iff.mp ha : _ ∧ a ≠ "").2
  | none =>
    cases hn : p.name.filter (· ≠ "") with
    | some n => exact (by simpa using Option.filter_eq_some_iff.mp hn : _ ∧ n ≠ "").2
    | none => cases p.kind <;> decide

end PublisherRef

namespace PublishRequest

variable {U : Uuid5} {request : PublishRequest} {tree : NormalizedTaskTree} {env : PublishEnv}

theorem get?_taskIdsForRequest {key : String} (hkey : request.idempotencyKey = some key)
    {node : NormalizedTaskNode} (h : node ∈ tree.iterNodes) :
    (request.taskIdsForRequest U tree env).get? node.nodeId =
      some (request.idempotentTaskId U key node) := by
  simp only [taskIdsForRequest, hkey]
  rw [Dict.get?_ofList]
  · exact List.mem_map.mpr ⟨node, h, rfl⟩
  · simpa [Function.comp_def] using tree.ids_nodup

theorem get?_freshTaskIds (U : Uuid5) (hkey : request.idempotencyKey = none) {n : ℕ}
    {node : NormalizedTaskNode} (h : tree.iterNodes[n]? = some node) :
    (request.taskIdsForRequest U tree env).get? node.nodeId = some (env.newId n) := by
  simp only [taskIdsForRequest, hkey]
  rw [Dict.get?_ofList]
  · exact List.mem_map.mpr ⟨(node, n), List.mem_zipIdx_iff_getElem?.mpr h, rfl⟩
  · have : (tree.iterNodes.zipIdx.map (fun x => (x.1.nodeId, env.newId x.2))).map Prod.fst =
        tree.iterNodes.map NormalizedTaskNode.nodeId := by
      rw [List.map_map, ← List.zipIdx_map_fst 0 tree.iterNodes, List.map_map]
      simp [Function.comp_def]
    rw [this]
    exact tree.ids_nodup

theorem exists_taskId (U : Uuid5) (request : PublishRequest) (env : PublishEnv)
    {node : NormalizedTaskNode} (h : node ∈ tree.iterNodes) :
    ∃ i, (request.taskIdsForRequest U tree env).get? node.nodeId = some i ∧ i ≠ "" := by
  cases hkey : request.idempotencyKey with
  | some key => exact ⟨_, get?_taskIdsForRequest hkey h, U.ne_empty _⟩
  | none =>
    obtain ⟨n, hn⟩ := List.getElem?_of_mem h
    exact ⟨env.newId n, get?_freshTaskIds U hkey hn, env.newId_ne n⟩

theorem valid_taskForNode {node : NormalizedTaskNode} (h : node ∈ tree.iterNodes) (n : ℕ) :
    (request.taskForNode tree (request.taskIdsForRequest U tree env) tree.rootByNode env node
      n).Valid := by
  obtain ⟨i, hi, hine⟩ := exists_taskId U request env h
  obtain ⟨root, hroot, hmem⟩ := tree.exists_root h
  obtain ⟨r, hr, hrne⟩ := exists_taskId U request env
    (tree.root_mem hroot)
  have hby := tree.get?_rootByNode hroot hmem
  have hnode := List.all_eq_true.mp tree.nodes_ok node h
  simp only [NormalizedTaskNode.fieldsOk, Bool.and_eq_true] at hnode
  have hsession : Codec.text.accepts request.sessionId = true := by
    have := request.fields_ok
    simp only [Bool.and_eq_true] at this
    simp only [this]
  have hparent : optText.accepts (node.parentId.map
      (fun p => ((request.taskIdsForRequest U tree env).get? p).getD "")) = true := by
    rcases tree.parent_cases h with ⟨_, hp⟩ | ⟨p, hp, _, hpar⟩
    · rw [hp]
      rfl
    · obtain ⟨j, hj, hjne⟩ := exists_taskId U request env hp
      rw [hpar, Option.map_some, hj]
      exact TaskDomain.accepts_optText_some.mpr hjne
  refine ⟨?_, ?_, ⟨rfl, rfl, rfl⟩⟩
  · simp only [TaskDomain.fieldsOk, taskForNode, hi, hby, hr, Option.getD_some, hnode, hsession,
      hparent, Bool.and_eq_true, TaskDomain.accepts_optText_none, and_true]
    refine ⟨⟨⟨decide_eq_true hine, decide_eq_true hrne⟩, ?_⟩,
      decide_eq_true PublisherRef.label_ne_empty⟩
    simp [constraintsField, Codec.optional, TaskDispatchConstraints.fieldsOk, dispatchConstraints,
      hnode, TaskDomain.accepts_optText_none]
  · -- a node without a parent is the root of its own tree
    intro hp
    have hnone : node.parentId = none := Option.map_eq_none_iff.mp hp
    rcases tree.parent_cases h with ⟨hnodeRoot, _⟩ | ⟨p, _, _, hpar⟩
    · have hself : node ∈ node.collectNodes := by
        rw [NormalizedTaskNode.collectNodes_eq]
        exact List.mem_cons_self
      have hby' := tree.get?_rootByNode hnodeRoot hself
      simp only [taskForNode, hby', Option.getD_some]
    · rw [hnone] at hpar
      cases hpar

theorem mem_tasksForRequest {ids roots : Dict String String} {t : TaskDomain} :
    t ∈ request.tasksForRequest tree ids roots env ↔
      ∃ node n, tree.iterNodes[n]? = some node ∧
        t = request.taskForNode tree ids roots env node n := by
  rw [tasksForRequest, List.mem_map]
  constructor
  · rintro ⟨⟨node, n⟩, hmem, rfl⟩
    exact ⟨node, n, List.mem_zipIdx_iff_getElem?.mp hmem, rfl⟩
  · rintro ⟨node, n, hget, rfl⟩
    exact ⟨(node, n), List.mem_zipIdx_iff_getElem?.mpr hget, rfl⟩

end PublishRequest

namespace DefaultTaskPublisher

section

open ShadowedBus

variable {B : Type} [ShadowedBus B] {b : B} {m : InMemoryTaskBus}

theorem get_publish {u : TaskDomain} (hb : m.Keyed) (t : TaskDomain) (ht : t.Valid) {s i : String}
    (h : m.get s i = some u) : (m.publish t).2.get s i = some u := by
  rcases InMemoryTaskBus.changed_cases hb ⟨.publish t ht, .sample⟩ (s, i) with hsame | ⟨t', _, hch⟩
  · exact hsame.trans h
  · generalize (TaskBus.step m ⟨.publish t ht, .sample⟩).1 = reply at hch
    cases hch with
    | published _ _ _ absent =>
      rw [show m.tasks.get? (s, i) = some u from h] at absent
      cases absent
    | claimed _ _ _ hop => cases hop
    | moved _ _ hop => cases hop
    | recovered _ _ _ hop => cases hop

theorem get_publish_absent {t : TaskDomain} {s i : String} (hm : m.get s i = none)
    (hne : (t.sessionId, t.taskId) ≠ (s, i)) : (m.publish t).2.get s i = none := by
  unfold InMemoryTaskBus.publish
  split
  · exact hm
  · exact (Dict.get?_set_ne _ _ hne).trans hm

theorem publish_refused_shadow (h : Shadow m b) {t : TaskDomain} {e : BusError} (ht : t.Valid)
    (herr : (TaskBus.publish b t).1 = .error e) : Shadow m (TaskBus.publish b t).2 := by
  have hstep : TaskBus.step b ⟨.publish t ht, .sample⟩ =
      (TaskBus.publish b t).map (Except.map .task) id := rfl
  rcases step_shadow h ⟨.publish t ht, .sample⟩ with ⟨e', he⟩ | ⟨hnext, hagree⟩
  · have hbus : (TaskBus.publish b t).2 = b := congrArg Prod.snd (hstep.symm.trans he)
    rw [hbus]
    exact h
  · have hm : (m.publish t).2 = m := by
      unfold InMemoryTaskBus.publish
      cases hc : publishCheck (fun s i => .ok (m.get s i)) t with
      | error e => rfl
      | ok u =>
        -- the shadow accepts the task, so the bus would have accepted it too
        have hok : (TaskBus.step m ⟨.publish t ht, .sample⟩).1 = .ok (.task t) := by
          show Except.map Reply.task (InMemoryTaskBus.publish m t).1 = _
          rw [InMemoryTaskBus.publish, hc]
          rfl
        rw [hok, hstep] at hagree
        simp only [Prod.map, herr] at hagree
        cases hagree
    have hnext' : Shadow (m.publish t).2 (TaskBus.publish b t).2 := hnext
    rwa [hm] at hnext'

theorem publish_shadow (h : Shadow m b) {t u : TaskDomain} (ht : t.Valid)
    (hok : (TaskBus.publish b t).1 = .ok u) :
    u = t ∧ Shadow (m.publish t).2 (TaskBus.publish b t).2 ∧
      m.get t.sessionId t.taskId = none ∧
      (m.publish t).2.get t.sessionId t.taskId = some t := by
  refine ⟨publish_reply hok, ?_⟩
  have hstep : TaskBus.step b ⟨.publish t ht, .sample⟩ =
      (TaskBus.publish b t).map (Except.map .task) id := rfl
  rcases step_shadow h ⟨.publish t ht, .sample⟩ with ⟨e, he⟩ | ⟨hnext, hagree⟩
  · rw [hstep] at he
    have := congrArg Prod.fst he
    simp only [Prod.map, hok, Except.map] at this
    cases this
  · refine ⟨hnext, ?_⟩
    have hm : (m.publish t).1.isOk = true := by
      have : (TaskBus.step m ⟨.publish t ht, .sample⟩).1.isOk = true := by
        rw [← hagree, hstep]
        simp only [Prod.map, hok]
        rfl
      cases hp : (m.publish t).1 with
      | error e =>
        have herr : (TaskBus.step m ⟨.publish t ht, .sample⟩).1 = .error e := by
          show Except.map Reply.task (m.publish t).1 = _
          rw [hp]
          rfl
        rw [herr] at this
        cases this
      | ok u => rfl
    unfold InMemoryTaskBus.publish at hm ⊢
    cases hc : publishCheck (fun s i => .ok (m.get s i)) t with
    | error e =>
      rw [hc] at hm
      cases hm
    | ok _ => exact ⟨(publishCheck_eq_ok hc).2.1, Dict.get?_set_self _ _ _⟩

/-- **All tasks of a request that went through are stored**, as they were
published. -/
theorem publishAll_ok : ∀ (tasks : List TaskDomain) {b : B} {m : InMemoryTaskBus}
    {out : List TaskDomain}, Shadow m b → (∀ t ∈ tasks, t.Valid) →
    (publishAll b tasks).1 = .ok out →
    out = tasks ∧ ∃ m', Shadow m' (publishAll b tasks).2 ∧
      (∀ s i u, m.get s i = some u → m'.get s i = some u) ∧
      ∀ t ∈ tasks, m'.get t.sessionId t.taskId = some t := by
  intro tasks
  induction tasks with
  | nil =>
    intro b m out h _ hok
    cases hok
    exact ⟨rfl, m, h, fun _ _ _ hu => hu, by simp⟩
  | cons t rest ih =>
    intro b m out h hv hok
    have ht := hv t List.mem_cons_self
    rcases hp : TaskBus.publish b t with ⟨_ | u, b₁⟩
    · simp only [publishAll, hp] at hok
      cases hok
    · obtain ⟨rfl, hsh, _, hget⟩ := publish_shadow h ht (congrArg Prod.fst hp)
      rw [hp] at hsh
      rcases hrest : publishAll b₁ rest with ⟨_ | others, b₂⟩
      · simp only [publishAll, hp, hrest] at hok
        cases hok
      · simp only [publishAll, hp, hrest] at hok ⊢
        cases hok
        obtain ⟨rfl, m', hm', hkeep, hall⟩ := ih hsh
          (fun t' ht' => hv t' (List.mem_cons_of_mem _ ht')) (congrArg Prod.fst hrest)
        rw [hrest] at hm'
        refine ⟨rfl, m', hm', ?_, ?_⟩
        · intro s i u hu
          exact hkeep s i u (get_publish (keyed h) _ ht hu)
        · intro t' ht'
          rcases List.mem_cons.mp ht' with rfl | ht'
          · exact hkeep _ _ _ hget
          · exact hall t' ht'

end

end DefaultTaskPublisher

/-! ### A concrete hash and a concrete request -/

namespace Uuid5

/-- A text behind its length. -/
def frame (s : String) : List Char := List.replicate s.length 'x' ++ '.' :: s.toList

theorem replicate_append_inj {n n' : ℕ} {l l' : List Char}
    (h : List.replicate n 'x' ++ '.' :: l = List.replicate n' 'x' ++ '.' :: l') :
    n = n' ∧ l = l' := by
  induction n generalizing n' with
  | zero =>
    cases n' with
    | zero => simpa using h
    | succ n' => simp [List.replicate_succ] at h
  | succ n ih =>
    cases n' with
    | zero => simp [List.replicate_succ] at h
    | succ n' =>
      have h' : List.replicate n 'x' ++ '.' :: l = List.replicate n' 'x' ++ '.' :: l' := by
        simpa [List.replicate_succ] using h
      obtain ⟨hn, hl⟩ := ih h'
      exact ⟨congrArg Nat.succ hn, hl⟩

theorem frame_append_inj {s s' : String} {l l' : List Char} (h : frame s ++ l = frame s' ++ l') :
    s = s' ∧ l = l' := by
  simp only [frame, List.append_assoc, List.cons_append] at h
  obtain ⟨hlen, hrest⟩ := replicate_append_inj h
  have hl : s.toList.length =
    s'.toList.length := by rw [String.length_toList, String.length_toList, hlen]
  obtain ⟨hs, hr⟩ := List.append_inj hrest hl
  exact ⟨String.toList_injective hs, hr⟩

def encode (p : IdPayload) : String :=
  String.ofList ('x' :: (frame p.sessionId ++ (frame p.publisherKind.toText ++
    (frame p.idempotencyKey ++ (frame p.sourceNodeId ++ [])))))

theorem encode_injective : Function.Injective encode := by
  rintro ⟨s, k, i, n⟩ ⟨s', k', i', n'⟩ h
  have hl := congrArg String.toList h
  simp only [encode, String.toList_ofList, List.cons.injEq, true_and] at hl
  obtain ⟨hs, hl₁⟩ := frame_append_inj hl
  obtain ⟨hk, hl₂⟩ := frame_append_inj hl₁
  obtain ⟨hi, hl₃⟩ := frame_append_inj hl₂
  obtain ⟨hn, _⟩ := frame_append_inj hl₃
  have hkind : k = k' := by
    cases k <;> cases k' <;> first | rfl | (exact absurd hk (by decide))
  rw [hs, hkind, hi, hn]

/-- The ids of two payloads. -/
def sampleHex (p : IdPayload) : String :=
  if p = ⟨"s", .collaborator, "k", "a"⟩ then "c0061e9ea07e5f4b956b8ee5ec04bd70"
  else if p = ⟨"s", .collaborator, "k", "b"⟩ then "8209de3db1755a50987967d8820cfdeb"
  else encode p

theorem sampleHex_cases (p : IdPayload) :
    (p = ⟨"s", .collaborator, "k", "a"⟩ ∧ sampleHex p = "c0061e9ea07e5f4b956b8ee5ec04bd70") ∨
    (p = ⟨"s", .collaborator, "k", "b"⟩ ∧ sampleHex p = "8209de3db1755a50987967d8820cfdeb") ∨
    sampleHex p = encode p := by
  unfold sampleHex
  split
  · next h => exact .inl ⟨h, rfl⟩
  · split
    · next h => exact .inr (.inl ⟨h, rfl⟩)
    · exact .inr (.inr rfl)

theorem encode_ne {p : IdPayload} {s : String} (h : s.toList.head? ≠ some 'x') : encode p ≠ s := by
  rintro rfl
  exact h (by simp [encode])

/-- Real ids for the nodes `a` and `b`, and an injective encoding elsewhere. -/
def sample : Uuid5 where
  hex := sampleHex
  injective := by
    intro p q h
    rcases sampleHex_cases p with ⟨hpp, hp⟩ | ⟨hpp, hp⟩ | hp <;>
      rcases sampleHex_cases q with ⟨hqq, hq⟩ | ⟨hqq, hq⟩ | hq <;> rw [hp, hq] at h
    · rw [hpp, hqq]
    · exact absurd h (by decide)
    · exact absurd h.symm (encode_ne (by decide))
    · exact absurd h (by decide)
    · rw [hpp, hqq]
    · exact absurd h.symm (encode_ne (by decide))
    · exact absurd h (encode_ne (by decide))
    · exact absurd h (encode_ne (by decide))
    · exact encode_injective h
  ne_empty := by
    intro p
    rcases sampleHex_cases p with ⟨rfl, hp⟩ | ⟨rfl, hp⟩ | hp <;> rw [hp]
    · decide
    · decide
    · exact encode_ne (by decide)

end Uuid5

def PublishEnv.sample : PublishEnv where
  clock _ := .noon
  newId n := String.ofList ('6' :: List.replicate n 'f')
  newId_ne n := by
    intro h
    have := congrArg String.toList h
    simp at this
  now := .afterNoon

namespace PublishRequest

theorem sample_source_ok :
    ({ kind := .collaborator, actorId := some "collaborator" } : PublisherRef).fieldsOk = true ∧
      optText.accepts none = true := ⟨rfl, rfl⟩

/-- The collaborator publishes one node, with some metadata. -/
def sampleTree (metadata : Dict String PyValue) : NormalizedTaskTree where
  rootNodes :=
    [{ nodeId := "a", title := "title", intent := "intent", requiredCapability := "general",
       metadata := metadata }]
  source := { kind := .collaborator, actorId := some "collaborator" }
  nonempty := by simp
  nodes_ok := rfl
  source_ok := sample_source_ok
  valid := rfl

def sample (metadata : Dict String PyValue) : PublishRequest where
  requestId := "request"
  sessionId := "s"
  publisher := { kind := .collaborator, actorId := some "collaborator" }
  taskTree := some (sampleTree metadata)
  idempotencyKey := some "k"
  fields_ok := rfl
  has_input := .inl rfl
  same_source := by
    intro tree h
    cases h
    rfl

end PublishRequest

end Taskweavn
