import Taskweavn.Task.NewTasks

/-!
# A tree is published exactly

Ids, roots, places and parents of the tasks come from separate walks over the tree, and the
bus then takes the tasks one by one: it refuses a child before its parent, and a child with
another root (`taskweavn/task/publisher.py`, `taskweavn/task/bus.py`).

* `publishAll_appends`: tasks with new ids, parents first, come to the end of the bus.
* `standsFor_taskForNode`: the task of a node has the node's parent, root and place.
* `publish_exact`: a request that may be published and is no dry run brings one task for each
  node, in the order of the walk, when its ids are new.
-/

namespace Taskweavn

open Lib Py

namespace NormalizedTaskTree

open NormalizedTaskNode

variable (tree : NormalizedTaskTree)

theorem eq_of_nodeId {m n : NormalizedTaskNode} (hm : m ∈ tree.iterNodes)
    (hn : n ∈ tree.iterNodes) (h : m.nodeId = n.nodeId) : m = n :=
  List.inj_on_of_nodup_map tree.ids_nodup hm hn h

theorem child_mem {m p : NormalizedTaskNode} (hp : p ∈ tree.iterNodes) (hm : m ∈ p.children) :
    m ∈ tree.iterNodes :=
  child_mem_all hm _ hp

theorem getElem?_findIdx? {siblings : List NormalizedTaskNode} {m : NormalizedTaskNode}
    (hsub : ∀ n ∈ siblings, n ∈ tree.iterNodes) (hm : m ∈ siblings) :
    siblings[(siblings.findIdx? (fun n => n.nodeId == m.nodeId)).getD 0]? = some m := by
  cases hfind : siblings.findIdx? (fun n => n.nodeId == m.nodeId) with
  | none =>
    have hnone := List.findIdx?_eq_none_iff.mp hfind m hm
    rw [beq_self_eq_true] at hnone
    cases hnone
  | some i =>
    obtain ⟨hlt, hid, -⟩ := List.findIdx?_eq_some_iff_getElem.mp hfind
    have hmem : siblings[i] ∈ siblings := List.getElem_mem hlt
    have heq := tree.eq_of_nodeId (hsub _ hmem) (hsub m hm) (beq_iff_eq.mp hid)
    rw [Option.getD_some, List.getElem?_eq_getElem hlt, heq]

theorem getElem?_orderIndex_root {m : NormalizedTaskNode} (hm : m ∈ tree.rootNodes)
    (hnone : m.parentId = none) : tree.rootNodes[tree.orderIndex m]? = some m := by
  have hplace := tree.getElem?_findIdx? (fun n hn => tree.root_mem hn) hm
  rw [orderIndex, hnone]
  exact hplace

theorem getElem?_orderIndex_child {m p : NormalizedTaskNode} (hp : p ∈ tree.iterNodes)
    (hm : m ∈ p.children) (hparent : m.parentId = some p.nodeId) :
    p.children[tree.orderIndex m]? = some m := by
  have hplace := tree.getElem?_findIdx? (fun n hn => tree.child_mem hp hn) hm
  have hfind : tree.iterNodes.find? (fun n => n.nodeId == p.nodeId) = some p := by
    cases hf : tree.iterNodes.find? (fun n => n.nodeId == p.nodeId) with
    | none =>
      have hnone := List.find?_eq_none.mp hf p hp
      exact absurd (beq_self_eq_true p.nodeId) hnone
    | some q =>
      have hq := List.mem_of_find?_eq_some hf
      have hid : q.nodeId = p.nodeId := by simpa using List.find?_some hf
      rw [tree.eq_of_nodeId hq hp hid]
  rw [orderIndex, hparent]
  simp only [hfind]
  exact hplace

end NormalizedTaskTree

/-- The task `t` stands for the node `m` of the tree, under the ids of the nodes. -/
structure StandsFor (request : PublishRequest) (tree : NormalizedTaskTree)
    (ids : Dict String String) (m : NormalizedTaskNode) (t : TaskDomain) : Prop where
  valid : t.Valid
  pending : t.status = .pending
  session : t.sessionId = request.sessionId
  id : ids.get? m.nodeId = some t.taskId
  /-- A root is at its place among the roots, and has no parent. -/
  root_place : m.parentId = none →
    tree.rootNodes[t.orderIndex]? = some m ∧ t.parentId = none ∧ t.rootId = t.taskId
  /-- A child is at its place among the children of its parent. -/
  child_place : ∀ p, m.parentId = some p → ∃ parent ∈ tree.iterNodes, parent.nodeId = p ∧
    parent.children[t.orderIndex]? = some m ∧ t.parentId = ids.get? p ∧ t.parentId.isSome
  root : ∃ root ∈ tree.rootNodes, m ∈ root.collectNodes ∧ ids.get? root.nodeId = some t.rootId
  intent : t.intent = m.intent
  summary : t.summary = m.summary
  instructions : t.instructions = m.instructions
  criteria : t.acceptanceCriteria = m.acceptanceCriteria
  capability : t.requiredCapability = m.requiredCapability
  agent : t.dispatchConstraints.map TaskDispatchConstraints.preferredAgentId = some m.agentRef
  author : t.createdBy = request.publisher.label

namespace PublishRequest

variable {U : Uuid5} {request : PublishRequest} {tree : NormalizedTaskTree} {env : PublishEnv}

theorem keys_taskIdsForRequest :
    (request.taskIdsForRequest U tree env).keys =
      tree.iterNodes.map NormalizedTaskNode.nodeId := by
  have hids := tree.ids_nodup
  rw [taskIdsForRequest]
  cases request.idempotencyKey with
  | none =>
    have hkeys : (tree.iterNodes.zipIdx.map (fun x => (x.1.nodeId, env.newId x.2))).map Prod.fst =
        tree.iterNodes.map NormalizedTaskNode.nodeId := by
      rw [List.map_map, ← List.zipIdx_map_fst 0 tree.iterNodes, List.map_map]
      simp [Function.comp_def]
    dsimp only
    rw [Dict.keys, Dict.entries_ofList (by rw [hkeys]; exact hids), hkeys]
  | some key =>
    have hkeys : (tree.iterNodes.map (fun node =>
        (node.nodeId, request.idempotentTaskId U key node))).map Prod.fst =
        tree.iterNodes.map NormalizedTaskNode.nodeId := by
      rw [List.map_map]
      rfl
    dsimp only
    rw [Dict.keys, Dict.entries_ofList (by rw [hkeys]; exact hids), hkeys]

theorem map_taskId_tasksForRequest (roots : Dict String String) :
    (request.tasksForRequest tree (request.taskIdsForRequest U tree env) roots env).map
      TaskDomain.taskId = (request.taskIdsForRequest U tree env).values := by
  rw [Dict.values_eq_map_keys _ "", keys_taskIdsForRequest, List.map_map, tasksForRequest,
    List.map_map]
  conv_rhs => rw [← List.zipIdx_map_fst 0 tree.iterNodes, List.map_map]
  rfl

/-- **The task of a node** stands for it. -/
theorem standsFor_taskForNode {m : NormalizedTaskNode} (hm : m ∈ tree.iterNodes) (n : ℕ) :
    StandsFor request tree (request.taskIdsForRequest U tree env) m
      (request.taskForNode tree
      (request.taskIdsForRequest U tree env) tree.rootByNode env m n) := by
  obtain ⟨i, hi, -⟩ := exists_taskId U request env hm
  obtain ⟨root, hroot, hbelow⟩ := tree.exists_root hm
  obtain ⟨r, hr, -⟩ := exists_taskId U request env (tree.root_mem hroot)
  have hby := tree.get?_rootByNode hroot hbelow
  refine {
    valid := valid_taskForNode hm n
    pending := rfl
    session := rfl
    id := by rw [hi, taskForNode, hi]; rfl
    root_place := ?_
    child_place := ?_
    root := ⟨root, hroot, hbelow, by rw [hr, taskForNode, hby, Option.getD_some, hr]; rfl⟩
    intent := rfl
    summary := rfl
    instructions := rfl
    criteria := rfl
    capability := rfl
    agent := rfl
    author := rfl }
  · intro hnone
    rcases tree.parent_cases hm with ⟨hmroot, -⟩ | ⟨p, -, -, hparent⟩
    · have hself : m ∈ m.collectNodes := by
        rw [NormalizedTaskNode.collectNodes_eq]
        exact List.mem_cons_self
      refine ⟨tree.getElem?_orderIndex_root hmroot hnone, ?_, ?_⟩
      · simp only [taskForNode, hnone, Option.map_none]
      · simp only [taskForNode, tree.get?_rootByNode hmroot hself, Option.getD_some]
    · rw [hnone] at hparent
      cases hparent
  · intro p hp
    rcases tree.parent_cases hm with ⟨-, hnone⟩ | ⟨parent, hparent, hchild, hlink⟩
    · rw [hp] at hnone
      cases hnone
    · rw [hp, Option.some.injEq] at hlink
      subst hlink
      obtain ⟨j, hj, -⟩ := exists_taskId U request env hparent
      refine ⟨parent, hparent, rfl, tree.getElem?_orderIndex_child hparent hchild hp, ?_, ?_⟩
      · simp only [taskForNode, hp, Option.map_some, hj, Option.getD_some]
      · simp only [taskForNode, hp, Option.map_some, Option.isSome_some]

theorem forall₂_tasksForRequest :
    List.Forall₂ (StandsFor request tree (request.taskIdsForRequest U tree env)) tree.iterNodes
      (request.tasksForRequest tree
      (request.taskIdsForRequest U tree env) tree.rootByNode env) := by
  rw [tasksForRequest]
  have hnodes : tree.iterNodes = tree.iterNodes.zipIdx.map Prod.fst :=
    (List.zipIdx_map_fst 0 _).symm
  conv_lhs => rw [hnodes]
  rw [List.forall₂_map_left_iff, List.forall₂_map_right_iff, List.forall₂_same]
  rintro ⟨m, n⟩ hmem
  exact standsFor_taskForNode (List.mem_of_getElem? (List.mem_zipIdx_iff_getElem?.mp hmem)) n

end PublishRequest

namespace DefaultTaskPublisher

/-! ### The bus takes the tasks one by one -/

/-- **Tasks with new ids, parents first, come to the end of the bus.**  The roots that are
`known` are those of the tasks that are there already. -/
theorem publishAll_appends (sessionId : String) : ∀ (tasks : List TaskDomain)
    {bus : InMemoryTaskBus} {known : Set (String × String)},
    (∀ t ∈ tasks, t.status = .pending ∧ t.sessionId = sessionId ∧
      bus.get sessionId t.taskId = none) → (tasks.map TaskDomain.taskId).Nodup →
    ParentsFirst known (links taskLink taskParent tasks) →
    (∀ k ∈ known, ∃ u, bus.get sessionId k.1 = some u ∧ u.rootId = k.2) →
    (publishAll bus tasks).1 = .ok tasks ∧ (publishAll bus tasks).2.tasks.entries =
      bus.tasks.entries ++ tasks.map (fun t => (t.key, t)) := by
  intro tasks
  induction tasks with
  | nil =>
    intro bus known _ _ _ _
    exact ⟨rfl, (List.append_nil _).symm⟩
  | cons t rest ih =>
    intro bus known hnew hnodup hfirst hknown
    obtain ⟨hpending, hsession, habsent⟩ := hnew t List.mem_cons_self
    have hkey : t.key = (sessionId, t.taskId) := by rw [TaskDomain.key, hsession]
    have hnone : bus.tasks.get? t.key = none := by
      rw [hkey]
      exact habsent
    have hcheck : publishCheck (fun s i => .ok (bus.get s i)) t = .ok () := by
      refine publishCheck_ok hpending (congrArg Except.ok hnone) fun p hp => ?_
      have hlink : taskParent t = some (p, t.rootId) := by simp [taskParent, hp]
      obtain ⟨u, hu, hroot⟩ := hknown (p, t.rootId) (hfirst.1 _ hlink)
      rw [hsession]
      exact ⟨u, congrArg Except.ok hu, hroot⟩
    have hpublish : TaskBus.publish bus t = (.ok t, (bus.publish t).2) := by
      show bus.publish t = _
      rw [InMemoryTaskBus.publish, hcheck]
    have htasks : (bus.publish t).2.tasks = bus.tasks.set t.key t := by
      rw [InMemoryTaskBus.publish, hcheck]
    rw [List.map_cons, List.nodup_cons] at hnodup
    -- every other task of the session reads as before
    have hget : ∀ i, i ≠ t.taskId → (bus.publish t).2.get sessionId i = bus.get sessionId i := by
      intro i hi
      rw [InMemoryTaskBus.get, htasks, hkey]
      exact Dict.get?_set_ne _ _ fun heq => hi (congrArg Prod.snd heq).symm
    have hself : (bus.publish t).2.get sessionId t.taskId = some t := by
      rw [InMemoryTaskBus.get, htasks, hkey]
      exact Dict.get?_set_self _ _ _
    have hrest : ∀ u ∈ rest, u.status = .pending ∧ u.sessionId = sessionId ∧
        (bus.publish t).2.get sessionId u.taskId = none := by
      intro u hu
      obtain ⟨hup, hus, hua⟩ := hnew u (List.mem_cons_of_mem t hu)
      refine ⟨hup, hus, ?_⟩
      rw [hget u.taskId fun heq => hnodup.1 (heq ▸ List.mem_map_of_mem hu)]
      exact hua
    have hstored : ∀ k ∈ insert (taskLink t) known,
        ∃ u, (bus.publish t).2.get sessionId k.1 = some u ∧ u.rootId = k.2 := by
      intro k hk
      rcases Set.mem_insert_iff.mp hk with rfl | hk
      · exact ⟨t, hself, rfl⟩
      · obtain ⟨u, hu, hroot⟩ := hknown k hk
        by_cases hi : k.1 = t.taskId
        · rw [hi, habsent] at hu
          cases hu
        · exact ⟨u, (hget k.1 hi).trans hu, hroot⟩
    obtain ⟨hok, hentries⟩ := ih hrest hnodup.2 hfirst.2 hstored
    simp only [publishAll, hpublish]
    rcases hall : publishAll (bus.publish t).2 rest with ⟨out, bus'⟩
    rw [hall] at hok hentries
    obtain rfl : out = .ok rest := hok
    refine ⟨rfl, ?_⟩
    rw [hentries, htasks, Dict.entries_set_of_none hnone, List.map_cons, List.append_assoc]
    rfl

section

variable {U : Uuid5} {request : PublishRequest} {tree : NormalizedTaskTree} {env : PublishEnv}

theorem publish_unstored {bus : InMemoryTaskBus} (htree : request.taskTree = some tree)
    (hpreview : preview request = []) (hdry : request.options.dryRun = false)
    (hnodup : ((wanted U request tree env).1.map TaskDomain.taskId).Nodup)
    (habsent : ∀ t ∈ (wanted U request tree env).1, bus.get request.sessionId t.taskId = none) :
    publish U bus request env =
      match publishAll bus (wanted U request tree env).1 with
      | (.error e, b') => (.error e, b')
      | (.ok published, b') =>
        (.ok (publishedResult request published (wanted U request tree env).2.1
          (wanted U request tree env).2.2 env), b') := by
  cases hkey : request.idempotencyKey with
  | none =>
    rw [publish_unkeyed htree hkey hdry env hpreview]
    rcases publishAll bus (wanted U request tree env).1 with ⟨_ | _, _⟩ <;> rfl
  | some key =>
    have hexisting : resultFromExistingIdempotentTasks bus request (wanted U request tree env).1
        (wanted U request tree env).2.1 (wanted U request tree env).2.2 env = .ok none :=
      resultFromExisting_absent _ _ env hnodup fun t ht => congrArg Except.ok (habsent t ht)
    rw [publish_eq hpreview hdry htree hkey, hexisting]
    rcases publishAll bus (wanted U request tree env).1 with ⟨_ | _, _⟩ <;> rfl

end

end DefaultTaskPublisher

/-- What a request does that is published exactly: it brings one task for each node, in the
order of the walk, behind the tasks that are there. -/
structure PublishesExactly (U : Uuid5) (bus : InMemoryTaskBus) (request : PublishRequest)
    (tree : NormalizedTaskTree) (env : PublishEnv) (result : PublishResult)
    (tasks : List TaskDomain) : Prop where
  answer : (DefaultTaskPublisher.publish U bus request env).1 = .ok result
  bus_extended : (DefaultTaskPublisher.publish U bus request env).2.tasks.entries =
    bus.tasks.entries ++ tasks.map (fun t => (t.key, t))
  one_each : List.Forall₂ (StandsFor request tree (request.taskIdsForRequest U tree env))
    tree.iterNodes tasks
  distinct : (tasks.map TaskDomain.taskId).Nodup
  accepted : result.accepted = true
  published : result.publishedTaskIds = tasks.map TaskDomain.taskId
  roots : result.rootTaskIds.map some =
    tree.rootNodes.map (fun root => (request.taskIdsForRequest U tree env).get? root.nodeId)

open DefaultTaskPublisher in
/-- **A tree is published exactly.**  A request that passes the preview and is no dry run is
never refused, when the ids of its tasks are distinct and new to the bus. -/
theorem publish_exact (U : Uuid5) (bus : InMemoryTaskBus) (request : PublishRequest)
    (tree : NormalizedTaskTree) (env : PublishEnv) (htree : request.taskTree = some tree)
    (hpreview : preview request = []) (hdry : request.options.dryRun = false)
    (hdistinct : (request.taskIdsForRequest U tree env).values.Nodup)
    (hfresh : ∀ i ∈ (request.taskIdsForRequest U tree env).values,
      bus.get request.sessionId i = none) :
    ∃ result tasks, PublishesExactly U bus request tree env result tasks := by
  have hids : (wanted U request tree env).1.map TaskDomain.taskId =
      (request.taskIdsForRequest U tree env).values :=
    PublishRequest.map_taskId_tasksForRequest tree.rootByNode
  have hnodup : ((wanted U request tree env).1.map TaskDomain.taskId).Nodup := by
    rw [hids]
    exact hdistinct
  have habsent : ∀ t ∈ (wanted U request tree env).1,
      bus.get request.sessionId t.taskId = none := by
    intro t ht
    exact hfresh _ (hids ▸ List.mem_map_of_mem ht)
  have hnew : ∀ t ∈ (wanted U request tree env).1, t.status = .pending ∧
      t.sessionId = request.sessionId ∧ bus.get request.sessionId t.taskId = none := by
    intro t ht
    obtain ⟨node, hnode, n, rfl⟩ := mem_wanted ht
    exact ⟨rfl, rfl, habsent _ ht⟩
  obtain ⟨hok, hentries⟩ := publishAll_appends request.sessionId (wanted U request tree env).1 hnew
    hnodup (parentsFirst_wanted tree) (fun k hk => by cases hk)
  have hpublish := publish_unstored htree hpreview hdry hnodup habsent
  rcases hall : publishAll bus (wanted U request tree env).1 with ⟨out, bus'⟩
  rw [hall] at hok hentries hpublish
  obtain rfl : out = .ok (wanted U request tree env).1 := hok
  refine ⟨_, (wanted U request tree env).1, {
    answer := congrArg Prod.fst hpublish
    bus_extended := by rw [hpublish]; exact hentries
    one_each := PublishRequest.forall₂_tasksForRequest
    distinct := hnodup
    accepted := rfl
    published := rfl
    roots := ?_ }⟩
  rw [publishedResult, wanted, List.map_map]
  refine List.map_congr_left fun root hroot => ?_
  obtain ⟨i, hi, -⟩ := PublishRequest.exists_taskId U request env (tree.root_mem hroot)
  rw [Function.comp_apply, hi]
  rfl

namespace PublishRequest

def plainNode (nodeId : String) (parentId : Option String) (children : List NormalizedTaskNode) :
    NormalizedTaskNode where
  nodeId := nodeId
  parentId := parentId
  title := "title"
  intent := "intent"
  requiredCapability := "general"
  children := children

/-- Two roots; the first one has two children, and the second of these has a child. -/
def nestedTree : NormalizedTaskTree where
  rootNodes :=
    [plainNode "a" none
      [plainNode "b" (some "a") [], plainNode "c" (some "a") [plainNode "d" (some "c") []]],
     plainNode "e" none []]
  source := { kind := .collaborator, actorId := some "collaborator" }
  nonempty := List.cons_ne_nil _ _
  nodes_ok := rfl
  source_ok := sample_source_ok
  valid := rfl

def nested : PublishRequest :=
  { sample Dict.empty with
    taskTree := some nestedTree
    fields_ok := rfl
    has_input := .inl rfl
    same_source := fun _ h => Option.some.inj h ▸ rfl }

end PublishRequest

/-- A bus with a task of the same session. -/
def busWithTask : InMemoryTaskBus :=
  (TaskBus.step InMemoryTaskBus.empty ⟨.publish (.sample "s" "z") (by decide), .sample⟩).2

/-- A nested tree, published on a bus with another task. -/
theorem publish_exact_sample : busWithTask.tasks.keys = [("s", "z")] ∧
    (PublishRequest.nestedTree.iterNodes.map fun n =>
      (n.nodeId, n.parentId, PublishRequest.nestedTree.orderIndex n)) =
      [("a", none, 0), ("b", some "a", 0), ("c", some "a", 1), ("d", some "c", 0), ("e", none, 1)] ∧
    ∃ result tasks, PublishesExactly .sample busWithTask PublishRequest.nested
      PublishRequest.nestedTree .sample result tasks :=
  ⟨by decide, by decide,
    publish_exact .sample _ _ _ _ rfl (by decide) rfl (by decide +kernel) (by decide +kernel)⟩

def PublishRequest.tryOut : PublishRequest :=
  { PublishRequest.sample Dict.empty with
    options := { dryRun := true }
    fields_ok := rfl }

/-- A dry run passes the preview, and publishes nothing. -/
theorem tryOut_not_published :
    DefaultTaskPublisher.preview PublishRequest.tryOut = [] ∧
      (PublishRequest.tryOut.taskIdsForRequest .sample (PublishRequest.sampleTree Dict.empty)
        .sample).values.Nodup ∧
      (∀ i, InMemoryTaskBus.empty.get PublishRequest.tryOut.sessionId i = none) ∧
      ¬∃ result tasks, PublishesExactly .sample InMemoryTaskBus.empty PublishRequest.tryOut
        (PublishRequest.sampleTree Dict.empty) .sample result tasks := by
  refine ⟨by decide, by decide, fun _ => rfl, ?_⟩
  rintro ⟨result, tasks, h⟩
  have hanswer := h.answer
  have haccepted := h.accepted
  cases hanswer
  cases haccepted

end Taskweavn
