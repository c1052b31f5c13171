import Taskweavn.Lib.Outline
import Taskweavn.Task.DraftStoresAgree

/-!
# The plan of a draft tree

`build_plan_from_draft_tree` makes a plan of a draft tree (`taskweavn/task/plan_from_draft.py`):
one task node for each draft node, in preorder, numbered like an outline.  The walk groups the
listed nodes by their parents and sorts each group; the roots are the ones that the tree names.
The publisher has a walk of its own (`normalizedRootsFromDraft`).

* `preorderNodes_ok`: the walk gives the nodes in the order of `draftWalk`, with the numbers of
  an outline.
* `plan_agrees`: the plan has one task node for each draft node, in the order in which the tree
  is published.
* `holdsForest_final`: what is assumed of a tree and its nodes holds of what the store returns.
-/

namespace Taskweavn

open Lib Py

/-! ### The walk -/

/-- `children_by_parent`, after the siblings are sorted and the roots are those of the tree. -/
def draftChildrenByParent (tree : DraftTaskTree) (nodes : List DraftTaskNode)
    (parent : Option String) : List DraftTaskNode :=
  let siblings := sortOn siblingKey (nodes.filter fun node => node.1.parentDraftTaskId = parent)
  let rootIds := tree.1.rootNodes.map draftId
  if parent = none ∧ rootIds ≠ [] then siblings.filter fun node => node.1.draftTaskId ∈ rootIds
  else siblings

/-- `walk`, to a depth. -/
def walkChildren (children : Option String → List DraftTaskNode) :
    ℕ → Option String → String → Except DraftPublishError (List (DraftTaskNode × String))
  | 0, _, _ => .error .endless
  | n + 1, parentId, above => do
    let ordered ← ((children parentId).zipIdx 1).mapM fun (node, index) => do
      let taskIndex := if above = "" then toString index else above ++ "." ++ toString index
      let below ← walkChildren children n (some node.1.draftTaskId) taskIndex
      return (node, taskIndex) :: below
    return ordered.flatten

/-- `_preorder_nodes`.  The groups of all nodes are sorted before the walk. -/
def preorderNodes (tree : DraftTaskTree) (nodes : List DraftTaskNode) :
    Except DraftPublishError (List (DraftTaskNode × String)) := do
  let _ ← nodes.mapM fun node =>
    sortSiblings (nodes.filter fun sibling =>
      sibling.1.parentDraftTaskId = node.1.parentDraftTaskId)
  walkChildren (draftChildrenByParent tree nodes) (nodes.length + 1) none ""

/-! ### The plan -/

/-- The fields of a `PlanTaskNode` that `_plan_node` sets.  Its times are those of the draft
node, with or without an offset. -/
structure PlanTaskNodeFields where
  taskNodeId : String
  planId : String
  sessionId : String
  taskIndex : String
  orderIndex : ℕ
  title : String
  intent : String
  summary : String
  instructions : String
  requiredCapability : String
  constraints : List String
  acceptanceCriteria : List String
  readiness : PlanTaskNodeReadiness
  execution : PlanTaskNodeExecutionStatus
  draftRef : TaskRef
  createdAt : Moment
  updatedAt : Moment
deriving DecidableEq

/-- What the constructor of a `PlanTaskNode` checks. -/
def PlanTaskNodeFields.Valid (f : PlanTaskNodeFields) : Prop :=
  f.taskNodeId ≠ "" ∧ f.planId ≠ "" ∧ f.sessionId ≠ "" ∧ f.taskIndex ≠ "" ∧ f.title ≠ "" ∧
    f.intent ≠ "" ∧ f.summary ≠ "" ∧ f.requiredCapability ≠ "" ∧ f.draftRef.id ≠ "" ∧
    f.createdAt.Le f.updatedAt

instance (f : PlanTaskNodeFields) : Decidable f.Valid :=
  inferInstanceAs (Decidable (_ ∧ _ ∧ _ ∧ _ ∧ _ ∧ _ ∧ _ ∧ _ ∧ _ ∧ _))

def nodeReadiness : DraftTaskStatus → PlanTaskNodeReadiness
  | .accepted => .approved
  | .draft => .draft
  | .published => .published
  | .cancelled => .cancelled

/-- The fields that `_plan_node` gives a task node. -/
def planNodeFields (planId : String) (node : DraftTaskNode) (taskIndex : String)
    (orderIndex : ℕ) : PlanTaskNodeFields where
  taskNodeId := node.1.draftTaskId
  planId := planId
  sessionId := node.1.sessionId
  taskIndex := taskIndex
  orderIndex := orderIndex
  title := node.1.title
  intent := node.1.intent
  summary := (node.1.summary.filter (· ≠ "")).getD node.1.intent
  instructions := node.1.instructions.getD ""
  requiredCapability := node.1.requiredCapability
  constraints := node.1.constraints
  acceptanceCriteria := node.1.acceptanceCriteria
  readiness := nodeReadiness node.1.status
  execution := if node.1.status = .published then .pending else .notStarted
  draftRef := .draft node.1.draftTaskId
  createdAt := node.1.createdAt
  updatedAt := node.1.updatedAt

def planNode (planId : String) (node : DraftTaskNode) (taskIndex : String) (orderIndex : ℕ) :
    Except DraftPublishError PlanTaskNodeFields :=
  let fields := planNodeFields planId node taskIndex orderIndex
  if fields.Valid then .ok fields else .error .validation

def planStatus (nodes : List (DraftTaskNode × String)) : PlanStatus :=
  let statuses := nodes.map fun (node, _) => node.1.status
  if statuses = [] then .draft
  else if ∀ status ∈ statuses, status = .published then .published
  else if ∀ status ∈ statuses, status = .accepted ∨ status = .published then .approved
  else if ∀ status ∈ statuses, status = .cancelled then .cancelled
  else .draft

def fallbackTitle : List (DraftTaskNode × String) → String
  | [] => "Task plan"
  | (node, _) :: _ => node.1.title

def fallbackSummary : List (DraftTaskNode × String) → String
  | [] => "Task plan"
  | [(a, _)] => "1-task plan covering " ++ a.1.title ++ "."
  | [(a, _), (b, _)] => "2-task plan covering " ++ a.1.title ++ " and " ++ b.1.title ++ "."
  | (a, _) :: (b, _) :: rest =>
    toString (rest.length + 2) ++ "-task plan covering " ++ a.1.title ++ ", " ++ b.1.title ++
      ", and " ++ toString rest.length ++ " more."

def draftPlan (planId : String) (tree : DraftTaskTree) (sourceRawTaskId : Option String)
    (ordered : List (DraftTaskNode × String)) : Plan :=
  let summary := (tree.1.summary.filter (· ≠ "")).getD (fallbackSummary ordered)
  { planId := planId
    sessionId := tree.1.sessionId
    sourceRawTaskId := sourceRawTaskId
    sourceDraftTreeId := some tree.1.draftTreeId
    title := (tree.1.title.filter (· ≠ "")).getD (fallbackTitle ordered)
    objective := summary
    summary := summary
    status := planStatus ordered
    createdBy := tree.1.createdBy
    createdAt := tree.1.createdAt
    updatedAt := tree.1.updatedAt }

/-- `build_plan_from_draft_tree`, with the id of the new plan. -/
def buildPlanFromDraftTree (planId : String) (tree : DraftTaskTree) (nodes : List DraftTaskNode)
    (sourceRawTaskId : Option String) :
    Except DraftPublishError (Plan × List PlanTaskNodeFields) := do
  let ordered ← preorderNodes tree nodes
  let plan := draftPlan planId tree sourceRawTaskId ordered
  if plan.Valid then
    let planNodes ← ordered.zipIdx.mapM fun x => planNode plan.planId x.1.1 x.1.2 x.2
    return (plan, planNodes)
  else .error .validation

/-! ### Trees that a store holds -/

/-- A tree and the list of its nodes, as a store returns them: the nodes are a forest, and its
roots are those of the tree and come in the order of their different indexes. -/
structure HoldsForest (tree : DraftTaskTree) (nodes : List DraftTaskNode) : Prop where
  forest : DraftNodes nodes
  ordered : (draftRoots nodes).Pairwise fun a b => a.1.orderIndex < b.1.orderIndex
  roots : ∀ node ∈ draftRoots nodes, draftId node ∈ tree.1.rootNodes.map draftId

section

variable {tree : DraftTaskTree} {nodes : List DraftTaskNode}

theorem siblingKey_le {a b : DraftTaskNode} (h : a.1.orderIndex < b.1.orderIndex) :
    siblingKey a ≤ siblingKey b :=
  Prod.Lex.toLex_le_toLex.mpr (.inl h)

theorem HoldsForest.sortSiblings_isOk (h : HoldsForest tree nodes) (node : DraftTaskNode) :
    sortSiblings (nodes.filter fun sibling =>
        sibling.1.parentDraftTaskId = node.1.parentDraftTaskId) =
      .ok (sortOn siblingKey (nodes.filter fun sibling =>
        sibling.1.parentDraftTaskId = node.1.parentDraftTaskId)) := by
  cases node.1.parentDraftTaskId with
  | some p => exact sortSiblings_children h.forest p
  | none =>
    rw [sortSiblings, if_neg]
    rintro ⟨a, ha, b, hb, horder, hcomp⟩
    -- two roots with one index are one root
    have hinj : a = b := by
      by_contra hne
      have hnodup : ((draftRoots nodes).map fun node => node.1.orderIndex).Nodup :=
        (List.pairwise_map.mpr h.ordered).imp fun hlt => hlt.ne
      exact hne (List.inj_on_of_nodup_map hnodup ha hb horder)
    rw [hinj] at hcomp
    exact hcomp rfl

theorem draftChildrenByParent_some (node : DraftTaskNode) :
    draftChildrenByParent tree nodes (some (draftId node)) = draftKids nodes node := by
  rw [draftChildrenByParent, if_neg fun h => Option.some_ne_none _ h.1]
  rfl

theorem HoldsForest.draftChildrenByParent_none (h : HoldsForest tree nodes) :
    draftChildrenByParent tree nodes none = draftRoots nodes := by
  have hsorted : sortOn siblingKey (nodes.filter fun node => node.1.parentDraftTaskId = none) =
      draftRoots nodes := sortOn_eq_self (h.ordered.imp siblingKey_le)
  have hall : (draftRoots nodes).filter
      (fun node => node.1.draftTaskId ∈ tree.1.rootNodes.map draftId) = draftRoots nodes :=
    List.filter_eq_self.mpr fun node hnode => decide_eq_true (h.roots node hnode)
  rw [draftChildrenByParent, hsorted]
  split
  · exact hall
  · rfl

theorem taskIndex_eq (above : List ℕ) (i : ℕ) :
    (if dotted above = "" then toString i else dotted above ++ "." ++ toString i) =
      dotted (above ++ [i]) := by
  by_cases habove : above = []
  · subst habove
    rw [dotted_nil, if_pos rfl, List.nil_append, dotted_singleton]
  · rw [if_neg (dotted_ne_empty habove), dotted_append_singleton habove]

/-- **The walk below a group of siblings**, to a depth that the forest does not exceed. -/
theorem walkChildren_ok {l : List DraftTaskNode} (hperm : nodes.Perm l)
    (hl : Forest draftId draftParent l) : ∀ (n : ℕ) (parentId : Option String) (above : List ℕ),
      0 < n → (∀ a ∈ draftChildrenByParent tree nodes parentId, a ∈ l ∧ l.length <
      n + place draftId l a) →
        walkChildren (draftChildrenByParent tree nodes) n parentId (dotted above) =
          .ok ((numbered (draftKids nodes) n above (draftChildrenByParent tree nodes parentId)).map
            fun x => (x.1, dotted x.2)) := by
  intro n
  induction n with
  | zero =>
    intro parentId above hpos
    exact absurd hpos (lt_irrefl 0)
  | succ n ih =>
    intro parentId above _ hdeep
    have hbelow : ∀ x ∈ (draftChildrenByParent tree nodes parentId).zipIdx 1,
        (do
          let taskIndex := if dotted above = "" then toString x.2
            else dotted above ++ "." ++ toString x.2
          let below ← walkChildren (draftChildrenByParent tree nodes) n
            (some x.1.1.draftTaskId) taskIndex
          return (x.1, taskIndex) :: below : Except DraftPublishError _) =
        .ok (((x.1, above ++ [x.2]) ::
          numbered (draftKids nodes) n (above ++ [x.2]) (draftKids nodes x.1)).map
            fun x => (x.1, dotted x.2)) := by
      rintro ⟨a, i⟩ hx
      obtain ⟨ha, hroom⟩ := hdeep a (List.fst_mem_of_mem_zipIdx hx)
      have hlt : place draftId l a < l.length := place_lt_length ha
      have hkids := kidsOf_draftKids hperm hl
      have hwalk := ih (some (draftId a)) (above ++ [i]) (by omega) (fun b hb => by
        rw [draftChildrenByParent_some] at hb
        have hchild := hkids.child ha hb
        have hplace := hl.place_lt hchild
        exact ⟨hchild.1, by omega⟩)
      dsimp only
      rw [taskIndex_eq, hwalk, draftChildrenByParent_some]
      rfl
    rw [walkChildren, mapM_eq_ok_map hbelow, numbered, List.map_flatMap, List.flatMap_def]
    rfl

/-- The walk, with the places of the nodes. -/
def outline (nodes : List DraftTaskNode) : List (DraftTaskNode × List ℕ) :=
  numbered (draftKids nodes) (nodes.length + 1) [] (draftRoots nodes)

/-- **The walk of the plan.** -/
theorem HoldsForest.preorderNodes_ok (h : HoldsForest tree nodes) :
    preorderNodes tree nodes = .ok ((outline nodes).map fun x => (x.1, dotted x.2)) := by
  obtain ⟨l, hperm, hl⟩ := h.forest.forest
  have hlength := hperm.length_eq
  rw [preorderNodes, mapM_eq_ok_map fun node _ => h.sortSiblings_isOk node, outline,
    ← h.draftChildrenByParent_none]
  refine walkChildren_ok hperm hl (nodes.length + 1) none [] (Nat.succ_pos _) fun a ha => ?_
  rw [h.draftChildrenByParent_none] at ha
  exact ⟨hperm.mem_iff.mp (mem_draftRoots.mp ha).1, by omega⟩

theorem map_fst_outline (h : DraftNodes nodes) :
    (outline nodes).map Prod.fst = draftWalk nodes := by
  obtain ⟨l, hperm, hl⟩ := h.forest
  have hlength := hperm.length_eq
  rw [outline, map_fst_numbered, draftWalk]
  refine List.flatMap_congr fun root hroot => ?_
  exact preorder_succ hl (kidsOf_draftKids hperm hl) nodes.length root
    (hperm.mem_iff.mp (mem_draftRoots.mp hroot).1) (by omega)

theorem places_ne_nil {x : DraftTaskNode × List ℕ} (hx : x ∈ outline nodes) : x.2 ≠ [] := by
  obtain ⟨i, rest, -, hplaces⟩ := exists_place_of_mem_numbered _ hx
  rw [hplaces]
  exact List.cons_ne_nil i rest

/-! ### The task nodes -/

def planNodesOf (planId : String) (ordered : List (DraftTaskNode × String)) :
    List PlanTaskNodeFields :=
  ordered.zipIdx.map fun x => planNodeFields planId x.1.1 x.1.2 x.2

theorem getD_filter_ne {o : Option String} {d : String} (hd : d ≠ "") :
    (o.filter (· ≠ "")).getD d ≠ "" := by
  cases o with
  | none => exact hd
  | some s =>
    by_cases hs : s = ""
    · subst hs
      exact hd
    · rw [Option.filter_some_pos (by simpa using hs), Option.getD_some]
      exact hs

theorem valid_planNodeFields {planId taskIndex : String} (hplan : planId ≠ "")
    (hindex : taskIndex ≠ "") (node : DraftTaskNode) (orderIndex : ℕ) :
    (planNodeFields planId node taskIndex orderIndex).Valid :=
  ⟨node.2.draftTaskId, hplan, node.2.sessionId, hindex, node.2.title, node.2.intent,
    getD_filter_ne node.2.intent, node.2.requiredCapability, node.2.draftTaskId, node.2.timestamps⟩

theorem mapM_planNode {planId : String} (hplan : planId ≠ "")
    {ordered : List (DraftTaskNode × String)} (hindexes : ∀ x ∈ ordered, x.2 ≠ "") :
    (ordered.zipIdx.mapM fun x => planNode planId x.1.1 x.1.2 x.2) =
      .ok (planNodesOf planId ordered) := by
  refine mapM_eq_ok_map fun x hx => ?_
  have hne := hindexes x.1 (List.fst_mem_of_mem_zipIdx hx)
  exact if_pos (valid_planNodeFields hplan hne x.1.1 x.2)

theorem fallbackTitle_ne (ordered : List (DraftTaskNode × String)) :
    fallbackTitle ordered ≠ "" := by
  cases ordered with
  | nil => decide
  | cons x _ => exact x.1.2.title

theorem append_ne_empty {s t : String} (h : t ≠ "") : s ++ t ≠ "" := by
  intro happend
  rw [String.append_eq_empty_iff] at happend
  exact h happend.2

theorem fallbackSummary_ne : ∀ ordered : List (DraftTaskNode × String), fallbackSummary ordered ≠ ""
  | [] => by decide
  | [_] => append_ne_empty (by decide)
  | [_, _] => append_ne_empty (by decide)
  | _ :: _ :: _ :: _ => append_ne_empty (by decide)

theorem valid_draftPlan {planId : String} (hplan : planId ≠ "") (tree : DraftTaskTree)
    {sourceRawTaskId : Option String} (hsource : sourceRawTaskId ≠ some "")
    (ordered : List (DraftTaskNode × String)) :
    (draftPlan planId tree sourceRawTaskId ordered).Valid := by
  have hsummary := getD_filter_ne (o := tree.1.summary) (fallbackSummary_ne ordered)
  have htitle := getD_filter_ne (o := tree.1.title) (fallbackTitle_ne ordered)
  have hraw : optText.accepts sourceRawTaskId = true := by
    cases sourceRawTaskId with
    | none => rfl
    | some id => exact decide_eq_true fun h => hsource (congrArg some h)
  refine ⟨?_, le_refl _, tree.2.timestamps, rfl⟩
  simp only [Plan.fieldsOk, draftPlan, Bool.and_eq_true]
  refine ⟨⟨⟨⟨⟨⟨⟨?_, ?_⟩, hraw⟩, ?_⟩, ?_⟩, ?_⟩, ?_⟩, ?_⟩
  all_goals apply decide_eq_true
  · exact hplan
  · exact tree.2.sessionId
  · exact tree.2.draftTreeId
  · exact htitle
  · exact hsummary
  · exact hsummary
  · exact tree.2.createdBy

end

/-! ### The plan and the tree -/

/-- The task nodes of a plan show the draft nodes, and come in the order of the trees that are
published. -/
structure PlanAgrees (nodes : List DraftTaskNode) (planNodes : List PlanTaskNodeFields)
    (roots : List NormalizedTaskNode) : Prop where
  one_each : (planNodes.map PlanTaskNodeFields.taskNodeId).Perm (nodes.map draftId)
  order_indexes : planNodes.map PlanTaskNodeFields.orderIndex = List.range planNodes.length
  distinct : (planNodes.map PlanTaskNodeFields.taskIndex).Nodup
  root_index : ∀ m ∈ planNodes, ∀ node ∈ nodes, m.taskNodeId = draftId node →
    draftParent node = none →
      ∃ i, (draftRoots nodes)[i]? = some node ∧ m.taskIndex = toString (i + 1)
  child_index : ∀ m ∈ planNodes, ∀ node ∈ nodes, m.taskNodeId = draftId node →
    ∀ p, draftParent node = some p → ∃ m' ∈ planNodes, m'.taskNodeId = p ∧
      ∃ i, (sortOn siblingKey (draftChildren nodes p))[i]? = some node ∧
        m.taskIndex = m'.taskIndex ++ "." ++ toString (i + 1)
  published : planNodes.map PlanTaskNodeFields.taskNodeId =
    (NormalizedTaskNode.collectAll roots).map NormalizedTaskNode.nodeId

section

variable {nodes : List DraftTaskNode}

theorem mem_planNodesOf {planId : String} {m : PlanTaskNodeFields}
    {xs : List (DraftTaskNode × List ℕ)}
    (hm : m ∈ planNodesOf planId (xs.map fun x => (x.1, dotted x.2))) :
    ∃ x ∈ xs, m.taskNodeId = draftId x.1 ∧ m.taskIndex = dotted x.2 := by
  obtain ⟨y, hy, rfl⟩ := List.mem_map.mp hm
  obtain ⟨x, hx, heq⟩ := List.mem_map.mp (List.fst_mem_of_mem_zipIdx hy)
  exact ⟨x, hx, by rw [← heq]; exact ⟨rfl, rfl⟩⟩

theorem exists_planNode (planId : String) {xs : List (DraftTaskNode × List ℕ)}
    {x : DraftTaskNode × List ℕ} (hx : x ∈ xs) :
    ∃ m ∈ planNodesOf planId (xs.map fun x => (x.1, dotted x.2)),
      m.taskNodeId = draftId x.1 ∧ m.taskIndex = dotted x.2 := by
  have hmem := List.mem_map_of_mem (f := fun x => (x.1, dotted x.2)) hx
  rw [← List.zipIdx_map_fst 0 (xs.map fun x => (x.1, dotted x.2))] at hmem
  obtain ⟨y, hy, heq⟩ := List.mem_map.mp hmem
  refine ⟨_, List.mem_map_of_mem hy, ?_⟩
  rw [heq]
  exact ⟨rfl, rfl⟩

theorem map_planNodesOf {β : Type} {planId : String} {g : PlanTaskNodeFields → β}
    {f : DraftTaskNode × String → β} (ordered : List (DraftTaskNode × String))
    (h : ∀ node taskIndex i, g (planNodeFields planId node taskIndex i) = f (node, taskIndex)) :
    (planNodesOf planId ordered).map g = ordered.map f := by
  have hcomp : (g ∘ fun x : (DraftTaskNode × String) × ℕ => planNodeFields planId x.1.1 x.1.2 x.2) =
      f ∘ Prod.fst := by
    funext x
    exact h x.1.1 x.1.2 x.2
  rw [planNodesOf, List.map_map, hcomp, ← List.map_map, List.zipIdx_map_fst]

/-- **The task nodes of the outline** agree with what is published. -/
theorem planAgrees_outline (h : DraftNodes nodes) (planId : String)
    {roots : List NormalizedTaskNode} (hroots : Renders (draftWalk nodes) none roots) :
    PlanAgrees nodes (planNodesOf planId ((outline nodes).map fun x => (x.1, dotted x.2)))
    roots := by
  have hids : (planNodesOf planId ((outline nodes).map fun x => (x.1, dotted x.2))).map
      PlanTaskNodeFields.taskNodeId = (draftWalk nodes).map draftId := by
    rw [map_planNodesOf (f := fun x => draftId x.1) _ fun _ _ _ => rfl, ← map_fst_outline h,
      List.map_map, List.map_map]
    rfl
  have hfind : ∀ {m : PlanTaskNodeFields} {node : DraftTaskNode},
      m ∈ planNodesOf planId ((outline nodes).map fun x => (x.1, dotted x.2)) → node ∈ nodes →
        m.taskNodeId = draftId node →
          ∃ x ∈ outline nodes, x.1 = node ∧ m.taskIndex = dotted x.2 := by
    intro m node hm hnode hid
    obtain ⟨x, hx, hxid, hindex⟩ := mem_planNodesOf hm
    have hmem : x.1 ∈ nodes := by
      rw [← (draftWalk_perm h).mem_iff, ← map_fst_outline h]
      exact List.mem_map_of_mem hx
    exact ⟨x, hx, List.inj_on_of_nodup_map h.nodup hmem hnode (hxid.symm.trans hid), hindex⟩
  refine {
    one_each := hids ▸ (draftWalk_perm h).map draftId
    order_indexes := ?_
    distinct := ?_
    root_index := ?_
    child_index := ?_
    published := hids.trans hroots.ids.symm }
  · rw [planNodesOf, List.map_map, List.length_map, List.length_zipIdx, List.range_eq_range',
      ← List.zipIdx_map_snd]
    rfl
  · rw [map_planNodesOf (f := Prod.snd) _ fun _ _ _ => rfl, List.map_map]
    have hplaces : ((outline nodes).map Prod.snd).Nodup := nodup_numbered _ _ _ _
    refine List.Nodup.map_on ?_ (List.Nodup.of_map _ hplaces)
    intro x hx y hy heq
    exact List.inj_on_of_nodup_map hplaces hx hy
      (dotted_injective (places_ne_nil hx) (places_ne_nil hy) heq)
  · intro m hm node hnode hid hnone
    obtain ⟨x, hx, rfl, hindex⟩ := hfind hm hnode hid
    rcases places_of_mem_numbered _ hx with ⟨i, hi, hplaces⟩ | ⟨y, hy, i, hi, -⟩
    · obtain ⟨hone, hget⟩ := List.mk_mem_zipIdx_iff_le_and_getElem?_sub.mp hi
      refine ⟨i - 1, hget, ?_⟩
      rw [hindex, hplaces, List.nil_append, dotted_singleton, Nat.sub_add_cancel hone]
    · have hchild := (mem_draftKids.mp (List.fst_mem_of_mem_zipIdx hi)).2
      rw [hnone] at hchild
      cases hchild
  · intro m hm node hnode hid p hp
    obtain ⟨x, hx, rfl, hindex⟩ := hfind hm hnode hid
    rcases places_of_mem_numbered _ hx with ⟨i, hi, -⟩ | ⟨y, hy, i, hi, hplaces⟩
    · have hroot := (mem_draftRoots.mp (List.fst_mem_of_mem_zipIdx hi)).2
      rw [hp] at hroot
      cases hroot
    · have hchild := (mem_draftKids.mp (List.fst_mem_of_mem_zipIdx hi)).2
      rw [hp] at hchild
      cases hchild
      obtain ⟨m', hm', hid', hindex'⟩ := exists_planNode planId hy
      obtain ⟨hone, hget⟩ := List.mk_mem_zipIdx_iff_le_and_getElem?_sub.mp hi
      refine ⟨m', hm', hid', i - 1, hget, ?_⟩
      rw [hindex, hplaces, dotted_append_singleton (places_ne_nil hy), hindex',
        Nat.sub_add_cancel hone]

end

/-! ### What the stores return -/

section

variable {tree : DraftTaskTree} {nodes : List DraftTaskNode} {sessionId draftTreeId : String}

namespace SqliteDraftTaskStore

variable {s : SqliteDraftTaskStore}

theorem map_rootNodes_of_readTree {row : DraftTreeRow} (h : s.readTree row = .ok tree) :
    ∀ r, r ∈ tree.1.rootNodes.map DraftNodeRow.ofNode ↔
      r ∈ s.childRows row.sessionId row.draftTreeId none := by
  obtain ⟨roots, hroots, h⟩ := bind_eq_ok.mp h
  obtain ⟨hrows, -⟩ := children_ok hroots
  have hsorted : tree.1.rootNodes = sortOn nodeKey roots := by
    rw [treeFromRow] at h
    split at h
    · next sorted _ _ hsort _ _ =>
      generalize hcopy : copyTree _ = copied at h
      cases copied with
      | error e => cases h
      | ok tree' =>
        cases h
        rw [copyTree_eq_ok.mp hcopy]
        exact sortNodes_eq_ok hsort
    · cases h
  intro r
  rw [hsorted, ((sortOn_perm nodeKey roots).map _).mem_iff, hrows, mem_sortOn]

theorem exists_rootNode (htree : s.getTree sessionId draftTreeId = .ok tree)
    (hnodes : s.listNodes sessionId draftTreeId = .ok nodes) :
    ∀ node ∈ draftRoots nodes,
      ∃ root ∈ tree.1.rootNodes, DraftNodeRow.ofNode root = .ofNode node := by
  obtain ⟨row, hrow, hread⟩ := bind_eq_ok.mp htree
  obtain ⟨hsorted, -⟩ := listNodes_ok hnodes
  have hkey : (row.sessionId, row.draftTreeId) = (sessionId, draftTreeId) :=
    s.trees_ok _ row (requireTree_ok hrow)
  obtain ⟨hsession, hid⟩ := Prod.mk.inj hkey
  intro node hnode
  obtain ⟨hlisted, hnone⟩ := mem_draftRoots.mp hnode
  refine List.mem_map.mp ((map_rootNodes_of_readTree hread _).mpr ?_)
  have hin : DraftNodeRow.ofNode node ∈
      sortOn DraftNodeRow.treeOrder (s.rowsOf sessionId draftTreeId) := by
    rw [← hsorted]
    exact List.mem_map_of_mem hlisted
  obtain ⟨hvalue, hplace⟩ := List.mem_filter.mp (mem_sortOn.mp hin)
  obtain ⟨h1, h2⟩ := of_decide_eq_true hplace
  rw [hsession, hid]
  exact List.mem_filter.mpr ⟨hvalue, decide_eq_true ⟨h1, h2, hnone⟩⟩

/-- **A store holds forests.** -/
theorem Forested.holdsForest (hs : s.Forested) (htree : s.getTree sessionId draftTreeId = .ok tree)
    (hnodes : s.listNodes sessionId draftTreeId = .ok nodes) : HoldsForest tree nodes := by
  obtain ⟨hsorted, -⟩ := listNodes_ok hnodes
  have hroot := exists_rootNode htree hnodes
  have hforest := (hs.draftNodes hnodes).1
  refine ⟨hforest, ?_, fun node hnode => ?_⟩
  · -- the rows come in the order of the indexes, and no two roots have one index
    have hle : (nodes.map DraftNodeRow.ofNode).Pairwise fun a b => a.treeOrder ≤ b.treeOrder := by
      rw [hsorted]
      exact sortOn_pairwise _ _
    have hroots : (draftRoots nodes).Pairwise fun a b =>
        (DraftNodeRow.ofNode a).treeOrder ≤ (DraftNodeRow.ofNode b).treeOrder :=
      (List.pairwise_map.mp hle).filter _
    have hdistinct : (draftRoots nodes).Nodup := (hforest.nodup.of_map _).filter _
    refine (hroots.and hdistinct).imp_of_mem fun {a b} ha hb hab => ?_
    obtain ⟨hkeys, hne⟩ := hab
    have hpa : a.1.parentDraftTaskId = none := (mem_draftRoots.mp ha).2
    have hpb : b.1.parentDraftTaskId = none := (mem_draftRoots.mp hb).2
    have hindexes : a.1.orderIndex ≠ b.1.orderIndex := by
      intro heq
      obtain ⟨ra, hra, hrowa⟩ := hroot a ha
      obtain ⟨rb, hrb, hrowb⟩ := hroot b hb
      have hordera : ra.1.orderIndex = a.1.orderIndex := congrArg DraftNodeRow.orderIndex hrowa
      have horderb : rb.1.orderIndex = b.1.orderIndex := congrArg DraftNodeRow.orderIndex hrowb
      have hsame : ra = rb :=
        List.inj_on_of_nodup_map tree.2.orders hra hrb (hordera.trans (heq.trans horderb.symm))
      have hrows : DraftNodeRow.ofNode a = DraftNodeRow.ofNode b := by
        rw [← hrowa, ← hrowb, hsame]
      have hids : draftId a = draftId b := congrArg DraftNodeRow.draftTaskId hrows
      exact hne (List.inj_on_of_nodup_map hforest.nodup (mem_draftRoots.mp ha).1
        (mem_draftRoots.mp hb).1 hids)
    rcases Prod.Lex.toLex_le_toLex.mp hkeys with hlt | ⟨-, hchild⟩
    · have heq : (DraftNodeRow.ofNode a).parentDraftTaskId.getD "" =
          (DraftNodeRow.ofNode b).parentDraftTaskId.getD "" :=
        congrArg (Option.getD · "") (hpa.trans hpb.symm)
      exact absurd heq hlt.ne
    · rcases Prod.Lex.toLex_le_toLex.mp hchild with hlt | ⟨heq, -⟩
      · exact hlt
      · exact absurd heq hindexes
  · obtain ⟨root, hin, heq⟩ := hroot node hnode
    exact List.mem_map.mpr ⟨root, hin, congrArg DraftNodeRow.draftTaskId heq⟩

end SqliteDraftTaskStore

theorem holdsForest_final (calls : List DraftCall)
    (htree : (final SqliteDraftTaskStore.step .empty calls).getTree sessionId draftTreeId =
    .ok tree)
    (hnodes : (final SqliteDraftTaskStore.step .empty calls).listNodes sessionId draftTreeId =
      .ok nodes) : HoldsForest tree nodes :=
  (SqliteDraftTaskStore.forested_final calls).holdsForest htree hnodes

end

def createdStore : SqliteDraftTaskStore :=
  final SqliteDraftTaskStore.step .empty InMemoryDraftTaskStore.nestedCalls

theorem created_reads : ∃ tree nodes, createdStore.getTree "s1" "t1" = .ok tree ∧
    createdStore.listNodes "s1" "t1" = .ok nodes := by
  have hok : ∀ {α} {x : Except DraftStoreError α}, x.isOk = true → ∃ a, x = .ok a
    | _, .ok a, _ => ⟨a, rfl⟩
  obtain ⟨tree, htree⟩ := @hok _ (createdStore.getTree "s1" "t1") (by decide +kernel)
  obtain ⟨nodes, hnodes⟩ := @hok _ (createdStore.listNodes "s1" "t1") (by decide +kernel)
  exact ⟨tree, nodes, htree, hnodes⟩

/-- A tree with two roots, whose nodes are read in the order of their parents. -/
theorem holdsForest_created : ∃ tree nodes, createdStore.getTree "s1" "t1" = .ok tree ∧
    createdStore.listNodes "s1" "t1" = .ok nodes ∧ HoldsForest tree nodes ∧
    nodes.map (fun node => (draftId node, draftParent node)) =
      [("n1", none), ("n2", none), ("n3", some "n1"), ("n4", some "n1"), ("n5", some "n4")] := by
  obtain ⟨tree, nodes, htree, hnodes⟩ := created_reads
  have hread : (createdStore.listNodes "s1" "t1").map
      (fun nodes => nodes.map fun node => (draftId node, draftParent node)) =
        .ok [("n1", none), ("n2", none), ("n3", some "n1"), ("n4", some "n1"),
          ("n5", some "n4")] := by
    decide +kernel
  rw [hnodes] at hread
  exact ⟨tree, nodes, htree, hnodes, holdsForest_final _ htree hnodes, Except.ok.inj hread⟩

/-- **The plan of a draft tree** has one task node for each draft node, numbered like an outline,
in the order in which the tree is published. -/
theorem plan_agrees (planId : String) (hplan : planId ≠ "") (sourceRawTaskId : Option String)
    (hsource : sourceRawTaskId ≠ some "") (tree : DraftTaskTree) (nodes : List DraftTaskNode)
    (h : HoldsForest tree nodes) :
    ∃ plan planNodes roots,
      buildPlanFromDraftTree planId tree nodes sourceRawTaskId = .ok (plan, planNodes) ∧
        normalizedRootsFromDraft nodes = .ok roots ∧ PlanAgrees nodes planNodes roots := by
  obtain ⟨roots, hroots, hrenders⟩ := normalizedRoots_renders h.forest
  refine ⟨draftPlan planId tree sourceRawTaskId ((outline nodes).map fun x => (x.1, dotted x.2)), _,
    roots, ?_, hroots, planAgrees_outline h.forest planId hrenders⟩
  have hindexes : ∀ x ∈ (outline nodes).map (fun x => (x.1, dotted x.2)), x.2 ≠ "" := by
    intro x hx
    obtain ⟨y, hy, rfl⟩ := List.mem_map.mp hx
    exact dotted_ne_empty (places_ne_nil hy)
  have hvalid := valid_draftPlan hplan tree hsource
    ((outline nodes).map fun x => (x.1, dotted x.2))
  refine bind_eq_ok.mpr ⟨_, h.preorderNodes_ok, ?_⟩
  exact (if_pos hvalid).trans (bind_eq_ok.mpr ⟨_, mapM_planNode hplan hindexes, rfl⟩)

/-- The plan of a tree with two roots, two children with one index, and a child below. -/
theorem plan_agrees_created : ∃ tree nodes plan planNodes roots,
    createdStore.getTree "s1" "t1" = .ok tree ∧ createdStore.listNodes "s1" "t1" = .ok nodes ∧
      buildPlanFromDraftTree "p1" tree nodes none = .ok (plan, planNodes) ∧
      normalizedRootsFromDraft nodes = .ok roots ∧ PlanAgrees nodes planNodes roots ∧
      planNodes.map (fun m => (m.taskNodeId, m.taskIndex)) =
        [("n1", "1"), ("n3", "1.1"), ("n4", "1.2"), ("n5", "1.2.1"), ("n2", "2")] := by
  obtain ⟨tree, nodes, htree, hnodes⟩ := created_reads
  have hforest := (SqliteDraftTaskStore.forested_final _).holdsForest htree hnodes
  obtain ⟨plan, planNodes, roots, hplan, hroots, hagrees⟩ :=
    plan_agrees "p1" (by decide) none (by decide) tree nodes hforest
  have hread : ((createdStore.getTree "s1" "t1").toOption.bind fun tree =>
      (createdStore.listNodes "s1" "t1").toOption.bind fun nodes =>
        (buildPlanFromDraftTree "p1" tree nodes none).toOption.map fun built =>
          built.2.map fun m => (m.taskNodeId, m.taskIndex)) =
        some [("n1", "1"), ("n3", "1.1"), ("n4", "1.2"), ("n5", "1.2.1"), ("n2", "2")] := by
    decide +kernel
  rw [htree, hnodes] at hread
  simp only [Except.toOption, Option.bind_some, hplan, Option.map_some] at hread
  exact ⟨tree, nodes, plan, planNodes, roots, htree, hnodes, hplan, hroots, hagrees,
    Option.some.inj hread⟩

end Taskweavn
