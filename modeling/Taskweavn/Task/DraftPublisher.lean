import Taskweavn.Task.DraftForest
import Taskweavn.Task.PlanPublisher

/-!
# Publishing a draft tree

`publish_draft_tree` lists the nodes of a tree, builds normalized nodes from the roots
down, publishes them, and gives a mapping for every node that was listed
(`taskweavn/task/publisher.py`).  The walk goes through the children by their parents'
ids, and is as deep as the forest is; `endless` stands for a walk that does not come to an
end.  The task id of a node is looked up in a dictionary, where a node that the walk has
not come to is a `KeyError`.

`normalizedRoots_ok` says that the walk comes to every node of a forest once.
-/

namespace Taskweavn

open Lib Py

inductive DraftPublishError
  | store (error : DraftStoreError)
  /-- maximum recursion depth exceeded -/
  | endless
  /-- can't compare offset-naive and offset-aware datetimes -/
  | notComparable
  /-- a record that its constructor refuses -/
  | validation
  | bus (error : BusError)
  /-- `KeyError` -/
  | missingKey (draftTaskId : String)
deriving DecidableEq

structure TaskPublishResult where
  rootTaskIds : List String := []
  mappings : List DraftToPublishedMapping := []
  rejectedTaskIds : List String := []
deriving DecidableEq

/-- What a call reads from outside: the id of the request, and the clock for each mapping. -/
structure DraftPublishEnv extends PublishEnv where
  requestId : String
  requestId_ne : requestId ≠ ""
  publishedAt : ℕ → DateTime

/-! ### Normalized nodes -/

def siblingKey (node : DraftTaskNode) : ℕ ×ₗ ℤ ×ₗ String :=
  toLex (node.1.orderIndex, toLex (node.1.createdAt.instant, node.1.draftTaskId))

/-- `sorted`, where the creation times of siblings can be compared. -/
def sortSiblings (nodes : List DraftTaskNode) : Except DraftPublishError (List DraftTaskNode) :=
  if ∃ a ∈ nodes, ∃ b ∈ nodes,
      a.1.orderIndex = b.1.orderIndex ∧ ¬a.1.createdAt.Comparable b.1.createdAt then
    .error .notComparable
  else .ok (sortOn siblingKey nodes)

/-- `children.get(draft_task_id, ())` -/
def draftChildren (nodes : List DraftTaskNode) (draftTaskId : String) : List DraftTaskNode :=
  nodes.filter fun node => node.1.parentDraftTaskId = some draftTaskId

def normalizedNode (node : DraftTaskNode) (children : List NormalizedTaskNode) :
    NormalizedTaskNode where
  nodeId := node.1.draftTaskId
  parentId := node.1.parentDraftTaskId
  title := node.1.title
  intent := node.1.intent
  summary := node.1.summary
  instructions := node.1.instructions
  acceptanceCriteria := node.1.acceptanceCriteria
  requiredCapability := node.1.requiredCapability
  children := children
  metadata := Dict.ofList
    [("draft_task_id", .str node.1.draftTaskId), ("draft_tree_id", .str node.1.draftTreeId)]

/-- `_normalized_from_draft`, to a depth. -/
def normalizedFromDraft (nodes : List DraftTaskNode) :
    ℕ → DraftTaskNode → Except DraftPublishError NormalizedTaskNode
  | 0, _ => .error .endless
  | n + 1, node => do
    let children ← sortSiblings (draftChildren nodes node.1.draftTaskId)
    let below ← children.mapM (normalizedFromDraft nodes n)
    return normalizedNode node below

def draftRoots (nodes : List DraftTaskNode) : List DraftTaskNode :=
  nodes.filter fun node => node.1.parentDraftTaskId = none

/-- `_normalized_roots_from_draft`.  A walk that is deeper than there are nodes has come
to a node twice, and goes on for ever. -/
def normalizedRootsFromDraft (nodes : List DraftTaskNode) :
    Except DraftPublishError (List NormalizedTaskNode) :=
  (draftRoots nodes).mapM (normalizedFromDraft nodes nodes.length)

/-! ### The request -/

/-- `PublisherRef(kind="collaborator", actor_id="collaborator")` -/
def collaborator : PublisherRef := { kind := .collaborator, actorId := some "collaborator" }

/-- What the constructors of the request check. -/
def DraftRequestOk (sessionId draftTreeId requestId : String) (roots : List NormalizedTaskNode) :
    Prop :=
  roots ≠ [] ∧ (NormalizedTaskNode.collectAll roots).all NormalizedTaskNode.fieldsOk = true ∧
    (validateTree [] roots).isOk = true ∧ sessionId ≠ "" ∧ draftTreeId ≠ "" ∧ requestId ≠ ""

instance (sessionId draftTreeId requestId : String) (roots : List NormalizedTaskNode) :
    Decidable (DraftRequestOk sessionId draftTreeId requestId roots) :=
  inferInstanceAs (Decidable (_ ∧ _ ∧ _ ∧ _ ∧ _ ∧ _))

section

variable {sessionId draftTreeId requestId : String} {roots : List NormalizedTaskNode}

theorem DraftRequestOk.source_ok (h : DraftRequestOk sessionId draftTreeId requestId roots) :
    collaborator.fieldsOk = true ∧ optText.accepts (some draftTreeId) = true :=
  ⟨rfl, TaskDomain.accepts_optText_some.mpr h.2.2.2.2.1⟩

theorem DraftRequestOk.fields_ok (h : DraftRequestOk sessionId draftTreeId requestId roots) :
    (Codec.text.accepts requestId && Codec.text.accepts sessionId && collaborator.fieldsOk &&
      optText.accepts (some draftTreeId) && optText.accepts none && optText.accepts none &&
      optText.accepts none) = true := by
  obtain ⟨-, -, -, hsession, htree, hrequest⟩ := h
  simp only [Bool.and_eq_true, TaskDomain.accepts_optText_none, and_true]
  exact ⟨⟨⟨decide_eq_true hrequest, decide_eq_true hsession⟩, rfl⟩,
    TaskDomain.accepts_optText_some.mpr htree⟩

end

def draftTree (sessionId draftTreeId requestId : String) (roots : List NormalizedTaskNode)
    (h : DraftRequestOk sessionId draftTreeId requestId roots) : NormalizedTaskTree where
  rootNodes := roots
  source := collaborator
  sourceRef := some draftTreeId
  metadata := Dict.ofList [("draft_tree_id", .str draftTreeId)]
  nonempty := h.1
  nodes_ok := h.2.1
  source_ok := h.source_ok
  valid := h.2.2.1

def draftRequest (sessionId draftTreeId requestId : String) (roots : List NormalizedTaskNode)
    (h : DraftRequestOk sessionId draftTreeId requestId roots) : PublishRequest where
  requestId := requestId
  sessionId := sessionId
  publisher := collaborator
  source := { sourceType := .draftTree, sourceId := some draftTreeId }
  taskTree := some (draftTree sessionId draftTreeId requestId roots h)
  fields_ok := h.fields_ok
  has_input := .inl rfl
  same_source := by
    intro tree htree
    cases htree
    rfl

theorem draftRequest_taskTree {sessionId draftTreeId requestId : String}
    {roots : List NormalizedTaskNode} (h : DraftRequestOk sessionId draftTreeId requestId roots) :
    (draftRequest sessionId draftTreeId requestId roots h).taskTree =
      some (draftTree sessionId draftTreeId requestId roots h) := rfl

/-! ### Mappings -/

def draftMapping (sessionId draftTreeId draftTaskId taskId publishCommandId : String)
    (now : DateTime) : Except DraftPublishError DraftToPublishedMapping :=
  if h : sessionId ≠ "" ∧ draftTreeId ≠ "" ∧ draftTaskId ≠ "" ∧ taskId ≠ "" ∧
      publishCommandId ≠ "" then
    .ok {
      sessionId := sessionId
      draftTreeId := draftTreeId
      draftTaskId := draftTaskId
      taskId := taskId
      publishedAt := Moment.utc now
      publishCommandId := publishCommandId
      texts_ok := h }
  else .error .validation

/-- The mappings of the nodes, the `i`-th first. -/
def draftMappings (sessionId draftTreeId publishCommandId : String)
    (nodeTaskIds : Dict String String) (clock : ℕ → DateTime) :
    ℕ → List DraftTaskNode → Except DraftPublishError (List DraftToPublishedMapping)
  | _, [] => .ok []
  | i, node :: nodes =>
    match nodeTaskIds.get? node.1.draftTaskId with
    | none => .error (.missingKey node.1.draftTaskId)
    | some taskId => do
      let mapping ← draftMapping sessionId draftTreeId node.1.draftTaskId taskId publishCommandId
        (clock i)
      let mappings ← draftMappings sessionId draftTreeId publishCommandId nodeTaskIds clock (i + 1)
        nodes
      return mapping :: mappings

/-! ### The publisher -/

namespace DefaultTaskPublisher

variable {B : Type} [TaskBus B]

/-- The part after the request was built. -/
def publishDraftRequest (U : Uuid5) (bus : B) (request : PublishRequest) (draftTreeId : String)
    (nodes : List DraftTaskNode) (env : DraftPublishEnv) :
    Except DraftPublishError TaskPublishResult × B :=
  match publish U bus request env.toPublishEnv with
  | (.error e, bus) => (.error (.bus e), bus)
  | (.ok result, bus) =>
    if result.skipped then
      (.ok { rejectedTaskIds := nodes.map fun node => node.1.draftTaskId }, bus)
    else
      match nodeTaskIds result with
      | .error _ => (.error .validation, bus)
      | .ok ids =>
        ((draftMappings request.sessionId draftTreeId result.requestId ids env.publishedAt 0
          nodes).map fun mappings => { rootTaskIds := result.rootTaskIds, mappings := mappings },
          bus)

def publishDraftTree (U : Uuid5) (store : SqliteDraftTaskStore) (bus : B)
    (sessionId draftTreeId : String) (env : DraftPublishEnv) :
    Except DraftPublishError TaskPublishResult × B :=
  match store.listNodes sessionId draftTreeId with
  | .error e => (.error (.store e), bus)
  | .ok nodes =>
    if nodes.isEmpty then (.ok { rejectedTaskIds := [draftTreeId] }, bus)
    else
      match normalizedRootsFromDraft nodes with
      | .error e => (.error e, bus)
      | .ok roots =>
        if h : DraftRequestOk sessionId draftTreeId env.requestId roots then
          publishDraftRequest U bus (draftRequest sessionId draftTreeId env.requestId roots h)
            draftTreeId nodes env
        else (.error .validation, bus)

end DefaultTaskPublisher

/-! ### The walk -/

abbrev draftId (node : DraftTaskNode) : String := node.1.draftTaskId

abbrev draftParent (node : DraftTaskNode) : Option String := node.1.parentDraftTaskId

/-- The nodes of a tree are a forest, in some order that has the parents first, and the
store has dated the nodes that have a parent. -/
structure DraftNodes (nodes : List DraftTaskNode) : Prop where
  forest : ∃ l : List DraftTaskNode, nodes.Perm l ∧ Forest draftId draftParent l
  utc : ∀ node ∈ nodes, draftParent node ≠ none → ∃ d, node.1.createdAt = Moment.utc d

/-- The children of a node, in the order of the walk. -/
def draftKids (nodes : List DraftTaskNode) (node : DraftTaskNode) : List DraftTaskNode :=
  sortOn siblingKey (draftChildren nodes (draftId node))

theorem mem_draftKids {nodes : List DraftTaskNode} {a b : DraftTaskNode} :
    b ∈ draftKids nodes a ↔ b ∈ nodes ∧ draftParent b = some (draftId a) := by
  rw [draftKids, mem_sortOn, draftChildren, List.mem_filter, decide_eq_true_iff]

section

variable {nodes l : List DraftTaskNode}

theorem sortSiblings_children (h : DraftNodes nodes) (p : String) :
    sortSiblings (draftChildren nodes p) = .ok (sortOn siblingKey (draftChildren nodes p)) := by
  rw [sortSiblings, if_neg]
  rintro ⟨a, ha, b, hb, -, hcomp⟩
  have hdated : ∀ c ∈ draftChildren nodes p, ∃ d, c.1.createdAt = Moment.utc d := by
    intro c hc
    obtain ⟨hmem, hparent⟩ := List.mem_filter.mp hc
    exact h.utc c hmem (by simp [of_decide_eq_true hparent])
  obtain ⟨d, hd⟩ := hdated a ha
  obtain ⟨d', hd'⟩ := hdated b hb
  exact hcomp (by rw [hd, hd']; rfl)

theorem sortSiblings_ok (h : DraftNodes nodes) (node : DraftTaskNode) :
    sortSiblings (draftChildren nodes (draftId node)) = .ok (draftKids nodes node) :=
  sortSiblings_children h (draftId node)

theorem kidsOf_draftKids (hperm : nodes.Perm l) (hl : Forest draftId draftParent l) :
    KidsOf draftId draftParent l (draftKids nodes) where
  nodup a _ := by
    have hnodup : nodes.Nodup := hperm.nodup_iff.mpr (List.Nodup.of_map _ hl.nodup)
    exact (sortOn_perm _ _).nodup_iff.mpr (hnodup.filter _)
  mem a _ b := by rw [mem_draftKids, hperm.mem_iff]

end

/-- Normalized trees that render the nodes of a walk, below the parent `e`. -/
structure Renders (walk : List DraftTaskNode) (e : Option String)
    (trees : List NormalizedTaskNode) : Prop where
  ids : (NormalizedTaskNode.collectAll trees).map NormalizedTaskNode.nodeId = walk.map draftId
  linked : NormalizedTaskNode.LinkedAll e trees
  nodes : ∀ m ∈ NormalizedTaskNode.collectAll trees,
    ∃ node ∈ walk, ∃ children, m = normalizedNode node children

theorem Renders.nil (e : Option String) : Renders [] e [] :=
  ⟨rfl, trivial, by simp [NormalizedTaskNode.collectAll]⟩

theorem Renders.cons {walk walk' : List DraftTaskNode} {e : Option String}
    {tree : NormalizedTaskNode} {trees : List NormalizedTaskNode} (h : Renders walk e [tree])
    (h' : Renders walk' e trees) : Renders (walk ++ walk') e (tree :: trees) := by
  have hone : NormalizedTaskNode.collectAll [tree] = tree.collectNodes := by
    rw [NormalizedTaskNode.collectAll, NormalizedTaskNode.collectAll, List.append_nil]
  have hids := h.ids
  have hnodes := h.nodes
  rw [hone] at hids hnodes
  refine ⟨?_, ⟨h.linked.1, h'.linked⟩, fun m hm => ?_⟩
  · rw [NormalizedTaskNode.collectAll, List.map_append, hids, h'.ids, List.map_append]
  · rw [NormalizedTaskNode.collectAll, List.mem_append] at hm
    rcases hm with hm | hm
    · obtain ⟨node, hnode, hm⟩ := hnodes m hm
      exact ⟨node, List.mem_append_left _ hnode, hm⟩
    · obtain ⟨node, hnode, hm⟩ := h'.nodes m hm
      exact ⟨node, List.mem_append_right _ hnode, hm⟩

theorem Renders.node {walk : List DraftTaskNode} {node : DraftTaskNode}
    {below : List NormalizedTaskNode} (h : Renders walk (some (draftId node)) below) :
    Renders (node :: walk) (draftParent node) [normalizedNode node below] := by
  have hone : NormalizedTaskNode.collectAll [normalizedNode node below] =
      normalizedNode node below :: NormalizedTaskNode.collectAll below := by
    rw [NormalizedTaskNode.collectAll, NormalizedTaskNode.collectAll, List.append_nil,
      NormalizedTaskNode.collectNodes_eq]
    rfl
  refine ⟨?_, ⟨NormalizedTaskNode.linked_iff.mpr ⟨rfl, h.linked⟩, trivial⟩, fun m hm => ?_⟩
  · rw [hone, List.map_cons, h.ids]
    rfl
  · rw [hone] at hm
    rcases List.mem_cons.mp hm with rfl | hm
    · exact ⟨node, List.mem_cons_self, below, rfl⟩
    · obtain ⟨node', hnode, hm⟩ := h.nodes m hm
      exact ⟨node', List.mem_cons_of_mem _ hnode, hm⟩

theorem mapM_renders {f : DraftTaskNode → Except DraftPublishError NormalizedTaskNode}
    {walk : DraftTaskNode → List DraftTaskNode} {e : Option String} :
    ∀ {nodes : List DraftTaskNode},
      (∀ node ∈ nodes, ∃ tree, f node = .ok tree ∧ Renders (walk node) e [tree]) →
      ∃ trees, nodes.mapM f = .ok trees ∧ Renders (nodes.flatMap walk) e trees := by
  intro nodes
  induction nodes with
  | nil => intro _; exact ⟨[], rfl, Renders.nil e⟩
  | cons node nodes ih =>
    intro h
    obtain ⟨tree, htree, hrender⟩ := h node List.mem_cons_self
    obtain ⟨trees, htrees, hrenders⟩ := ih fun n hn => h n (List.mem_cons_of_mem node hn)
    refine ⟨tree :: trees, ?_, hrender.cons hrenders⟩
    rw [List.mapM_cons, htree, htrees]
    rfl

/-- **The walk below a node**, to a depth that the forest does not exceed. -/
theorem normalizedFromDraft_ok {nodes l : List DraftTaskNode} (h : DraftNodes nodes)
    (hperm : nodes.Perm l) (hl : Forest draftId draftParent l) : ∀ (n : ℕ), ∀ node ∈ l,
      l.length ≤ n + place draftId l node →
        ∃ tree, normalizedFromDraft nodes n node = .ok tree ∧
          Renders (preorder (draftKids nodes) n node) (draftParent node) [tree] := by
  intro n
  induction n with
  | zero =>
    intro node hnode hn
    have hlt : place draftId l node < l.length := place_lt_length hnode
    omega
  | succ n ih =>
    intro node hnode hn
    have hkids := kidsOf_draftKids hperm hl
    have hbelow : ∀ child ∈ draftKids nodes node, ∃ tree,
        normalizedFromDraft nodes n child = .ok tree ∧
          Renders (preorder (draftKids nodes) n child) (some (draftId node)) [tree] := by
      intro child hchild
      have hlink := hkids.child hnode hchild
      have hplace := hl.place_lt hlink
      obtain ⟨tree, htree, hrender⟩ := ih child hlink.1 (by omega)
      rw [hlink.2.2] at hrender
      exact ⟨tree, htree, hrender⟩
    obtain ⟨below, hmap, hrenders⟩ := mapM_renders hbelow
    refine ⟨normalizedNode node below, ?_, hrenders.node⟩
    rw [normalizedFromDraft, sortSiblings_ok h, bind_eq_ok]
    exact ⟨_, rfl, bind_eq_ok.mpr ⟨below, hmap, rfl⟩⟩

/-- The nodes of a tree in the order in which they are published. -/
def draftWalk (nodes : List DraftTaskNode) : List DraftTaskNode :=
  (draftRoots nodes).flatMap (preorder (draftKids nodes) nodes.length)

theorem mem_draftRoots {nodes : List DraftTaskNode} {node : DraftTaskNode} :
    node ∈ draftRoots nodes ↔ node ∈ nodes ∧ draftParent node = none := by
  rw [draftRoots, List.mem_filter, decide_eq_true_iff]

theorem draftWalk_perm {nodes : List DraftTaskNode} (h : DraftNodes nodes) :
    (draftWalk nodes).Perm nodes := by
  obtain ⟨l, hperm, hl⟩ := h.forest
  have hnodup : (draftRoots nodes).Nodup :=
    (hperm.nodup_iff.mpr (List.Nodup.of_map _ hl.nodup)).filter _
  refine (preorder_perm hl (kidsOf_draftKids hperm hl) hnodup (fun node => ?_)
    hperm.length_eq.ge).trans hperm.symm
  rw [mem_draftRoots, hperm.mem_iff]

theorem normalizedRoots_renders {nodes : List DraftTaskNode} (h : DraftNodes nodes) :
    ∃ roots, normalizedRootsFromDraft nodes = .ok roots ∧ Renders (draftWalk nodes) none roots := by
  obtain ⟨l, hperm, hl⟩ := h.forest
  have hlength := hperm.length_eq
  refine mapM_renders fun node hnode => ?_
  obtain ⟨hmem, hnone⟩ := mem_draftRoots.mp hnode
  obtain ⟨tree, htree, hrender⟩ := normalizedFromDraft_ok h hperm hl nodes.length node
    (hperm.mem_iff.mp hmem) (by omega)
  rw [hnone] at hrender
  exact ⟨tree, htree, hrender⟩

/-- **The walk comes to every node of a forest once.** -/
theorem normalizedRoots_ok {nodes : List DraftTaskNode} (h : DraftNodes nodes) :
    ∃ roots walk, normalizedRootsFromDraft nodes = .ok roots ∧ Renders walk none roots ∧
      walk.Perm nodes := by
  obtain ⟨roots, hroots, hrenders⟩ := normalizedRoots_renders h
  exact ⟨roots, draftWalk nodes, hroots, hrenders, draftWalk_perm h⟩

end Taskweavn
