import Taskweavn.Lib.Forest
import Taskweavn.Task.Models

/-!
# Normalized task trees

What a publisher publishes is a list of trees of task nodes, with the publisher
that it comes from (`taskweavn/task/publisher.py`).  The validator walks through
the trees with the set of the ids that it has seen, and checks that a child names
its parent.

`ids_nodup` and `parent_cases` say what a tree that passed has: the ids of its
nodes are distinct, and a node is a root without a parent, or a child of the node
that it names.
-/

namespace Taskweavn

open Lib Py

inductive PublisherKind
  | user
  | collaborator
  | pipeline
  | scheduler
  | api
  | customTree
  | agent
deriving DecidableEq, Repr

def PublisherKind.toText : PublisherKind → String
  | user => "user"
  | collaborator => "collaborator"
  | pipeline => "pipeline"
  | scheduler => "scheduler"
  | api => "api"
  | customTree => "custom_tree"
  | agent => "agent"

inductive PublishSourceKind
  | plan
  | draftTree
  | customTree
  | pipeline
  | schedule
  | api
  | retry
  | naturalLanguage
  | unknown
deriving DecidableEq, Repr

def PublishSourceKind.toText : PublishSourceKind → String
  | plan => "plan"
  | draftTree => "draft_tree"
  | customTree => "custom_tree"
  | pipeline => "pipeline"
  | schedule => "schedule"
  | api => "api"
  | retry => "retry"
  | naturalLanguage => "natural_language"
  | unknown => "unknown"

inductive FailurePolicy
  | failAll
  | publishValid
deriving DecidableEq, Repr

/-- Who is asking to publish executable tasks. -/
structure PublisherRef where
  kind : PublisherKind
  actorId : Option String := none
  name : Option String := none
deriving DecidableEq

namespace PublisherRef

def fieldsOk (p : PublisherRef) : Bool := optText.accepts p.actorId && optText.accepts p.name

/-- `self.actor_id or self.name or self.kind` -/
def label (p : PublisherRef) : String :=
  match p.actorId.filter (· ≠ ""), p.name.filter (· ≠ "") with
  | some actorId, _ => actorId
  | none, some name => name
  | none, none => p.kind.toText

end PublisherRef

/-- Where a publish request came from before normalization. -/
structure PublishSource where
  sourceType : PublishSourceKind := .unknown
  sourceId : Option String := none
  metadata : Dict String PyValue := Dict.empty
deriving DecidableEq

structure TaskPublishOptions where
  dryRun : Bool := false
  requireConfirmation : Bool := true
  allowPipeline : Bool := true
  sourceLabel : Option String := none
  failurePolicy : FailurePolicy := .failAll
deriving DecidableEq

/-! ### Normalized trees -/

/-- One normalized task node ready to become a published task. -/
structure NormalizedTaskNode where
  nodeId : String
  parentId : Option String := none
  title : String
  intent : String
  summary : Option String := none
  instructions : Option String := none
  acceptanceCriteria : List String := []
  requiredCapability : String
  agentRef : Option String := none
  children : List NormalizedTaskNode := []
  metadata : Dict String PyValue := Dict.empty

namespace NormalizedTaskNode

def fieldsOk (n : NormalizedTaskNode) : Bool :=
  Codec.text.accepts n.nodeId && optText.accepts n.parentId && Codec.text.accepts n.title &&
    Codec.text.accepts n.intent && optText.accepts n.summary && optText.accepts n.instructions &&
    Codec.text.accepts n.requiredCapability && optText.accepts n.agentRef

mutual

/-- `_collect_nodes`: a node, and the nodes below it. -/
def collectNodes : NormalizedTaskNode → List NormalizedTaskNode
  | n@⟨_, _, _, _, _, _, _, _, _, children, _⟩ => n :: collectAll children

def collectAll : List NormalizedTaskNode → List NormalizedTaskNode
  | [] => []
  | n :: rest => collectNodes n ++ collectAll rest

end

/-- Why a tree is refused. -/
inductive TreeError
  /-- root normalized task nodes must not have parent_id -/
  | rootWithParent
  /-- duplicate normalized task node id … -/
  | duplicate (nodeId : String)
  /-- normalized task node … has parent_id …, expected … -/
  | parent (nodeId : String) (got expected : Option String)
deriving DecidableEq

mutual

/-- `_validate_node`, with the ids seen so far. -/
def validateNode (expectedParentId : Option String) (seen : List String) :
    NormalizedTaskNode → Except TreeError (List String)
  | ⟨i, p, _, _, _, _, _, _, _, children, _⟩ =>
    if i ∈ seen then .error (.duplicate i)
    else if p ≠ expectedParentId then .error (.parent i p expectedParentId)
    else validateAll (some i) (i :: seen) children

def validateAll (expectedParentId : Option String) (seen : List String) :
    List NormalizedTaskNode → Except TreeError (List String)
  | [] => .ok seen
  | n :: rest =>
    match validateNode expectedParentId seen n with
    | .error e => .error e
    | .ok seen => validateAll expectedParentId seen rest

end

mutual

/-- `_assign_root`: the nodes below a root, with the root. -/
def assignRoot (rootId : String) : NormalizedTaskNode → List (String × String)
  | ⟨i, _, _, _, _, _, _, _, _, children, _⟩ => (i, rootId) :: assignAll rootId children

def assignAll (rootId : String) : List NormalizedTaskNode → List (String × String)
  | [] => []
  | n :: rest => assignRoot rootId n ++ assignAll rootId rest

end

end NormalizedTaskNode

def validateTree : (seen : List String) → List NormalizedTaskNode →
    Except NormalizedTaskNode.TreeError (List String)
  | seen, [] => .ok seen
  | seen, root :: rest =>
    if root.parentId ≠ none then .error .rootWithParent
    else
      match root.validateNode none seen with
      | .error e => .error e
      | .ok seen => validateTree seen rest

/-- A list of trees normalized before it enters the bus. -/
structure NormalizedTaskTree where
  rootNodes : List NormalizedTaskNode
  source : PublisherRef
  sourceRef : Option String := none
  metadata : Dict String PyValue := Dict.empty
  nonempty : rootNodes ≠ []
  nodes_ok : (NormalizedTaskNode.collectAll rootNodes).all NormalizedTaskNode.fieldsOk = true
  source_ok : source.fieldsOk = true ∧ optText.accepts sourceRef = true
  valid : (validateTree [] rootNodes).isOk = true

namespace NormalizedTaskTree

def iterNodes (tree : NormalizedTaskTree) : List NormalizedTaskNode :=
  NormalizedTaskNode.collectAll tree.rootNodes

def rootByNode (tree : NormalizedTaskTree) : Dict String String :=
  Dict.ofList (tree.rootNodes.flatMap (fun root => root.assignRoot root.nodeId))

/-- `_order_index`: the place of a node among its siblings. -/
def orderIndex (tree : NormalizedTaskTree) (node : NormalizedTaskNode) : ℕ :=
  let siblings : List NormalizedTaskNode :=
    match node.parentId with
    | none => tree.rootNodes
    | some parentId =>
      match tree.iterNodes.find? (fun parent => parent.nodeId == parentId) with
      | none => []
      | some parent => parent.children
  (siblings.findIdx? (fun sibling => sibling.nodeId == node.nodeId)).getD 0

end NormalizedTaskTree

/-! ### What the validator checks -/

namespace NormalizedTaskNode

theorem collectNodes_eq (n : NormalizedTaskNode) :
    n.collectNodes = n :: collectAll n.children := by
  cases n
  rfl

theorem collectAll_eq_flatMap (l : List NormalizedTaskNode) :
    collectAll l = l.flatMap collectNodes := by
  induction l with
  | nil => rfl
  | cons n l ih => rw [collectAll, ih, List.flatMap_cons]

mutual

/-- The parent of the node is `e`, and of every node below it the node that it is
a child of. -/
def Linked (e : Option String) : NormalizedTaskNode → Prop
  | ⟨i, p, _, _, _, _, _, _, _, children, _⟩ => p = e ∧ LinkedAll (some i) children

def LinkedAll (e : Option String) : List NormalizedTaskNode → Prop
  | [] => True
  | n :: rest => Linked e n ∧ LinkedAll e rest

end

theorem linked_iff {e : Option String} {n : NormalizedTaskNode} :
    Linked e n ↔ n.parentId = e ∧ LinkedAll (some n.nodeId) n.children := by
  cases n
  rfl

mutual

theorem validateNode_ok {e : Option String} {seen seen' : List String} :
    ∀ n : NormalizedTaskNode, validateNode e seen n = .ok seen' → seen.Nodup →
      seen' = (n.collectNodes.map nodeId).reverse ++ seen ∧ seen'.Nodup ∧ Linked e n
  | ⟨i, p, t, x, s, y, a, c, r, children, m⟩ => by
    intro h hn
    rw [validateNode] at h
    by_cases hi : i ∈ seen
    · rw [if_pos hi] at h
      cases h
    · rw [if_neg hi] at h
      by_cases hp : p ≠ e
      · rw [if_pos hp] at h
        cases h
      · rw [if_neg hp] at h
        obtain ⟨hs, hnod, hl⟩ := validateAll_ok children h (List.nodup_cons.mpr ⟨hi, hn⟩)
        refine ⟨?_, hnod, not_not.mp hp, hl⟩
        rw [hs, collectNodes]
        simp

theorem validateAll_ok {e : Option String} {seen seen' : List String} :
    ∀ l : List NormalizedTaskNode, validateAll e seen l = .ok seen' → seen.Nodup →
      seen' = ((collectAll l).map nodeId).reverse ++ seen ∧ seen'.Nodup ∧ LinkedAll e l
  | [] => by
    intro h hn
    cases h
    exact ⟨rfl, hn, trivial⟩
  | n :: rest => by
    intro h hn
    rw [validateAll] at h
    cases hv : validateNode e seen n with
    | error x =>
      rw [hv] at h
      cases h
    | ok seen₁ =>
      rw [hv] at h
      obtain ⟨hs, hn₁, hl⟩ := validateNode_ok n hv hn
      obtain ⟨hs', hn', hl'⟩ := validateAll_ok rest h hn₁
      refine ⟨?_, hn', hl, hl'⟩
      rw [hs', hs, collectAll]
      simp

end

theorem validateTree_ok : ∀ {roots : List NormalizedTaskNode} {seen seen' : List String},
    validateTree seen roots = .ok seen' → validateAll none seen roots = .ok seen' := by
  intro roots
  induction roots with
  | nil => intro seen seen' h; exact h
  | cons root rest ih =>
    intro seen seen' h
    rw [validateTree] at h
    split at h
    · cases h
    · rw [validateAll]
      cases hv : root.validateNode none seen with
      | error x =>
        rw [hv] at h
        cases h
      | ok seen₁ =>
        rw [hv] at h
        exact ih h

mutual

theorem parent_cases_node {e : Option String} {m : NormalizedTaskNode} :
    ∀ n : NormalizedTaskNode, Linked e n → m ∈ n.collectNodes →
      (m = n ∧ m.parentId = e) ∨
      ∃ p ∈ n.collectNodes, m ∈ p.children ∧ m.parentId = some p.nodeId
  | ⟨i, p, t, x, s, y, a, c, r, children, d⟩ => by
    intro hl hm
    rw [collectNodes] at hm ⊢
    rcases List.mem_cons.mp hm with rfl | hm
    · exact .inl ⟨rfl, hl.1⟩
    · right
      rcases parent_cases_all children hl.2 hm with ⟨hc, hp⟩ | ⟨q, hq, hc, hp⟩
      · exact ⟨_, List.mem_cons_self, hc, hp⟩
      · exact ⟨q, List.mem_cons_of_mem _ hq, hc, hp⟩

theorem parent_cases_all {e : Option String} {m : NormalizedTaskNode} :
    ∀ l : List NormalizedTaskNode, LinkedAll e l → m ∈ collectAll l →
      (m ∈ l ∧ m.parentId = e) ∨
      ∃ p ∈ collectAll l, m ∈ p.children ∧ m.parentId = some p.nodeId
  | [] => by
    intro _ hm
    cases hm
  | n :: rest => by
    intro hl hm
    rw [collectAll, List.mem_append] at hm
    simp only [collectAll, List.mem_append]
    rcases hm with hm | hm
    · rcases parent_cases_node n hl.1 hm with ⟨rfl, hp⟩ | ⟨q, hq, hc, hp⟩
      · exact .inl ⟨List.mem_cons_self, hp⟩
      · exact .inr ⟨q, .inl hq, hc, hp⟩
    · rcases parent_cases_all rest hl.2 hm with ⟨hr, hp⟩ | ⟨q, hq, hc, hp⟩
      · exact .inl ⟨List.mem_cons_of_mem _ hr, hp⟩
      · exact .inr ⟨q, .inr hq, hc, hp⟩

end

mutual

theorem child_mem_node {m p : NormalizedTaskNode} (hc : m ∈ p.children) :
    ∀ n : NormalizedTaskNode, p ∈ n.collectNodes → m ∈ n.collectNodes
  | ⟨i, q, t, x, s, y, a, c, r, children, d⟩ => by
    intro hp
    rw [collectNodes] at hp ⊢
    refine List.mem_cons_of_mem _ ?_
    rcases List.mem_cons.mp hp with rfl | hp
    · rw [collectAll_eq_flatMap]
      exact List.mem_flatMap.mpr ⟨m, hc, by rw [collectNodes_eq]; exact List.mem_cons_self⟩
    · exact child_mem_all hc children hp

theorem child_mem_all {m p : NormalizedTaskNode} (hc : m ∈ p.children) :
    ∀ l : List NormalizedTaskNode, p ∈ collectAll l → m ∈ collectAll l
  | [] => by
    intro hp
    cases hp
  | n :: rest => by
    intro hp
    rw [collectAll, List.mem_append] at hp ⊢
    rcases hp with hp | hp
    · exact .inl (child_mem_node hc n hp)
    · exact .inr (child_mem_all hc rest hp)

end

theorem nodup_collectAll {seen : List String} {n : NormalizedTaskNode}
    {rest : List NormalizedTaskNode}
    (h : ((collectAll (n :: rest)).map nodeId ++ seen).Nodup) :
    (n.collectNodes.map nodeId ++ seen).Nodup ∧
      ((collectAll rest).map nodeId ++ ((n.collectNodes.map nodeId).reverse ++ seen)).Nodup := by
  rw [collectAll, List.map_append, List.append_assoc] at h
  refine ⟨h.sublist (List.Sublist.append_left (List.sublist_append_right _ _) _), ?_⟩
  refine (List.Perm.nodup_iff ?_).mp h
  have hperm := List.perm_append_comm_assoc (n.collectNodes.map nodeId)
    ((collectAll rest).map nodeId) seen
  exact hperm.trans (((List.reverse_perm _).symm.append_right seen).append_left _)

mutual

theorem validateNode_of_linked {e : Option String} {seen : List String} :
    ∀ n : NormalizedTaskNode, Linked e n → (n.collectNodes.map nodeId ++ seen).Nodup →
      validateNode e seen n = .ok ((n.collectNodes.map nodeId).reverse ++ seen)
  | ⟨i, p, t, x, s, y, a, c, r, children, m⟩ => by
    intro hl hn
    rw [collectNodes, List.map_cons, List.cons_append, List.nodup_cons, List.mem_append,
      not_or] at hn
    have hnodup : ((collectAll children).map nodeId ++ i :: seen).Nodup := by
      rw [List.nodup_middle, List.nodup_cons, List.mem_append, not_or]
      exact hn
    rw [validateNode, if_neg hn.1.2, if_neg (not_not.mpr hl.1),
      validateAll_of_linked children hl.2 hnodup, collectNodes]
    simp

theorem validateAll_of_linked {e : Option String} {seen : List String} :
    ∀ l : List NormalizedTaskNode, LinkedAll e l → ((collectAll l).map nodeId ++ seen).Nodup →
      validateAll e seen l = .ok (((collectAll l).map nodeId).reverse ++ seen)
  | [] => fun _ _ => rfl
  | n :: rest => by
    intro hl hn
    obtain ⟨hfirst, hrest⟩ := nodup_collectAll hn
    rw [validateAll, validateNode_of_linked n hl.1 hfirst]
    dsimp only
    rw [validateAll_of_linked rest hl.2 hrest, collectAll]
    simp

end

theorem validateTree_of_linked : ∀ (roots : List NormalizedTaskNode) {seen : List String},
    LinkedAll none roots → ((collectAll roots).map nodeId ++ seen).Nodup →
      (validateTree seen roots).isOk = true := by
  intro roots
  induction roots with
  | nil => intro seen _ _; rfl
  | cons root rest ih =>
    intro seen hl hn
    obtain ⟨hfirst, hrest⟩ := nodup_collectAll hn
    rw [validateTree, if_neg (not_not.mpr (linked_iff.mp hl.1).1),
      validateNode_of_linked root hl.1 hfirst]
    exact ih hl.2 hrest

mutual

theorem parentsFirst_node {e : Option String} {known : Set String}
    (h : ∀ p, e = some p → p ∈ known) :
    ∀ n : NormalizedTaskNode, Linked e n →
      ParentsFirst known (links nodeId parentId n.collectNodes)
  | ⟨i, p, t, x, s, y, a, c, r, children, m⟩ => by
    intro hl
    refine ⟨fun q hq => h q (hl.1.symm.trans hq), ?_⟩
    exact parentsFirst_all (fun q hq => Option.some.inj hq ▸ Set.mem_insert i known) children hl.2

theorem parentsFirst_all {e : Option String} {known : Set String}
    (h : ∀ p, e = some p → p ∈ known) :
    ∀ l : List NormalizedTaskNode, LinkedAll e l →
      ParentsFirst known (links nodeId parentId (collectAll l))
  | [] => fun _ => trivial
  | n :: rest => by
    intro hl
    rw [collectAll, links, List.map_append, parentsFirst_append]
    refine ⟨parentsFirst_node h n hl.1, (parentsFirst_all h rest hl.2).mono ?_⟩
    exact Set.subset_union_left

end

mutual

theorem assignRoot_eq (rootId : String) : ∀ n : NormalizedTaskNode,
    assignRoot rootId n = n.collectNodes.map (fun m => (m.nodeId, rootId))
  | ⟨i, p, t, x, s, y, a, c, r, children, m⟩ => by
    rw [assignRoot, collectNodes, assignAll_eq rootId children, List.map_cons]

theorem assignAll_eq (rootId : String) : ∀ l : List NormalizedTaskNode,
    assignAll rootId l = (collectAll l).map (fun m => (m.nodeId, rootId))
  | [] => rfl
  | n :: rest => by
    rw [assignAll, collectAll, assignRoot_eq rootId n, assignAll_eq rootId rest, List.map_append]

end

end NormalizedTaskNode

namespace NormalizedTaskTree

open NormalizedTaskNode

variable (tree : NormalizedTaskTree)

theorem walk_ok : (tree.iterNodes.map nodeId).Nodup ∧ LinkedAll none tree.rootNodes := by
  obtain ⟨seen', h⟩ : ∃ seen', validateTree [] tree.rootNodes = .ok seen' := by
    have := tree.valid
    cases hv : validateTree [] tree.rootNodes with
    | error e =>
      rw [hv] at this
      cases this
    | ok seen' => exact ⟨seen', rfl⟩
  obtain ⟨hs, hn, hl⟩ := validateAll_ok _ (validateTree_ok h) List.nodup_nil
  rw [hs, List.append_nil, List.nodup_reverse] at hn
  exact ⟨hn, hl⟩

theorem ids_nodup : (tree.iterNodes.map nodeId).Nodup := tree.walk_ok.1

theorem parent_cases {m : NormalizedTaskNode} (h : m ∈ tree.iterNodes) :
    (m ∈ tree.rootNodes ∧ m.parentId = none) ∨
    ∃ p ∈ tree.iterNodes, m ∈ p.children ∧ m.parentId = some p.nodeId :=
  parent_cases_all _ tree.walk_ok.2 h

theorem root_mem {r : NormalizedTaskNode} (h : r ∈ tree.rootNodes) : r ∈ tree.iterNodes := by
  rw [iterNodes, collectAll_eq_flatMap]
  exact List.mem_flatMap.mpr ⟨r, h, by rw [collectNodes_eq]; exact List.mem_cons_self⟩

theorem exists_root {m : NormalizedTaskNode} (h : m ∈ tree.iterNodes) :
    ∃ r ∈ tree.rootNodes, m ∈ r.collectNodes := by
  rw [iterNodes, collectAll_eq_flatMap] at h
  exact List.mem_flatMap.mp h

theorem linked_of_mem {e : Option String} : ∀ {l : List NormalizedTaskNode}
    {n : NormalizedTaskNode}, LinkedAll e l → n ∈ l → Linked e n := by
  intro l
  induction l with
  | nil => intro n _ hn; cases hn
  | cons m l ih =>
    intro n hl hn
    rcases List.mem_cons.mp hn with rfl | hn
    · exact hl.1
    · exact ih hl.2 hn

theorem length_le_collectAll (l : List NormalizedTaskNode) : l.length ≤ (collectAll l).length := by
  induction l with
  | nil => exact le_refl _
  | cons n l ih =>
    rw [collectAll, collectNodes_eq, List.length_cons, List.length_append, List.length_cons]
    omega

mutual

theorem length_children_node {p : NormalizedTaskNode} : ∀ n : NormalizedTaskNode,
    p ∈ n.collectNodes → p.children.length < n.collectNodes.length
  | ⟨i, q, t, x, s, y, a, c, r, children, d⟩ => by
    intro hp
    rw [collectNodes] at hp ⊢
    rw [List.length_cons]
    rcases List.mem_cons.mp hp with rfl | hp
    · exact Nat.lt_succ_of_le (length_le_collectAll children)
    · exact (length_children_all children hp).trans (Nat.lt_succ_self _)

theorem length_children_all {p : NormalizedTaskNode} : ∀ l : List NormalizedTaskNode,
    p ∈ collectAll l → p.children.length < (collectAll l).length
  | [] => by
    intro hp
    cases hp
  | n :: rest => by
    intro hp
    rw [collectAll, List.mem_append] at hp
    rw [collectAll, List.length_append]
    rcases hp with hp | hp
    · have hlt := length_children_node n hp
      omega
    · have hlt := length_children_all rest hp
      omega

end

theorem orderIndex_lt {m : NormalizedTaskNode} (h : m ∈ tree.iterNodes) :
    tree.orderIndex m < tree.iterNodes.length := by
  have hpos : 0 < tree.iterNodes.length := List.length_pos_of_mem h
  have hbound : ∀ l : List NormalizedTaskNode, l.length ≤ tree.iterNodes.length →
      (l.findIdx? (fun sibling => sibling.nodeId == m.nodeId)).getD 0 < tree.iterNodes.length := by
    intro l hl
    cases hfind : l.findIdx? (fun sibling => sibling.nodeId == m.nodeId) with
    | none => exact hpos
    | some i =>
      have hlt := (List.findIdx?_eq_some_iff_findIdx_eq.mp hfind).1
      exact hlt.trans_le hl
  refine hbound _ ?_
  split
  · exact length_le_collectAll _
  · split
    · exact Nat.zero_le _
    · next parent hfind => exact (length_children_all _ (List.mem_of_find?_eq_some hfind)).le

theorem get?_rootByNode {r m : NormalizedTaskNode} (hr : r ∈ tree.rootNodes)
    (hm : m ∈ r.collectNodes) : tree.rootByNode.get? m.nodeId = some r.nodeId := by
  have hlist : tree.rootNodes.flatMap (fun root => root.assignRoot root.nodeId) =
      tree.rootNodes.flatMap (fun root => root.collectNodes.map
        (fun m => (m.nodeId, root.nodeId))) :=
    congrArg (fun f => tree.rootNodes.flatMap f) (funext fun root => assignRoot_eq root.nodeId root)
  rw [rootByNode, hlist, Dict.get?_ofList]
  · exact List.mem_flatMap.mpr ⟨r, hr, List.mem_map.mpr ⟨m, hm, rfl⟩⟩
  · have := tree.ids_nodup
    rw [iterNodes, collectAll_eq_flatMap, List.map_flatMap] at this
    rw [List.map_flatMap]
    simpa [List.map_map, Function.comp_def] using this

theorem rootByNode_parent {m : NormalizedTaskNode} (h : m ∈ tree.iterNodes) {p : String}
    (hp : m.parentId = some p) : tree.rootByNode.get? m.nodeId = tree.rootByNode.get? p := by
  obtain ⟨root, hroot, hm⟩ := tree.exists_root h
  rcases parent_cases_node root (linked_of_mem tree.walk_ok.2 hroot) hm with ⟨-, hnone⟩ |
    ⟨q, hq, -, hqp⟩
  · rw [hp] at hnone
    cases hnone
  · rw [hp, Option.some.injEq] at hqp
    rw [tree.get?_rootByNode hroot hm, hqp, tree.get?_rootByNode hroot hq]

end NormalizedTaskTree

end Taskweavn
