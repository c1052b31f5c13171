import Taskweavn.Task.DraftStore

/-!
# Errors of the draft store in memory

An operation that raises has changed something exactly if a dictionary was written
before the step that raises.  `Atomic` names the three places.

* `create_tree` stores the tree before it looks whether the ids of the roots are taken.
* `add_node`, `update_node` and the two marks store nodes before `bumpTree` validates
  the tree, which wants roots with different order indexes and a clock that has not gone
  back (`CanBump`).
* The marks store one node after the other, and a later node may not take the clock's
  reading (`Markable`).

`raises_unchanged_iff` says that these are all, for every store that calls can reach.
-/

namespace Taskweavn

open Lib Py

namespace InMemoryDraftTaskStore

/-- Every entry stands under its own session and id. -/
structure WellKeyed (s : InMemoryDraftTaskStore) : Prop where
  trees : ∀ k tree, s.trees.get? k = some tree → (tree.1.sessionId, tree.1.draftTreeId) = k
  nodes : ∀ k node, s.nodes.get? k = some node → (node.1.sessionId, node.1.draftTaskId) = k

variable {s s' s'' : InMemoryDraftTaskStore} {sessionId draftTreeId : String}
  {node : DraftTaskNode} {nodes : List DraftTaskNode} {now : DateTime} {clock : Clock}
  {expected : ℤ}

/-! ### Building a tree again -/

def rootOrders (s : InMemoryDraftTaskStore) (sessionId draftTreeId : String) : List ℕ :=
  (s.childrenOf sessionId draftTreeId none).map fun node => node.1.orderIndex

/-- The tree is there, its roots are in different places, and it is not newer than the
reading of the clock. -/
def CanBump (s : InMemoryDraftTaskStore) (sessionId draftTreeId : String) (now : DateTime) :
    Prop :=
  s.rootOrders sessionId draftTreeId ≠ [] ∧ (s.rootOrders sessionId draftTreeId).Nodup ∧
    ∃ tree, s.trees.get? (sessionId, draftTreeId) = some tree ∧ tree.1.createdAt ≤ now

def CanBumpWith (s : InMemoryDraftTaskStore) (sessionId draftTreeId : String)
    (node : DraftTaskNode) (now : DateTime) : Prop :=
  (node.1.parentDraftTaskId = none ∨ s.rootOrders sessionId draftTreeId ≠ []) ∧
    (node.1.parentDraftTaskId = none →
      node.1.orderIndex ∉ s.rootOrders sessionId draftTreeId) ∧
    (s.rootOrders sessionId draftTreeId).Nodup ∧
    ∃ tree, s.trees.get? (sessionId, draftTreeId) = some tree ∧ tree.1.createdAt ≤ now

theorem mem_childrenOf {parent : Option String} :
    node ∈ s.childrenOf sessionId draftTreeId parent ↔ node ∈ s.nodes.values ∧
      node.1.sessionId = sessionId ∧ node.1.draftTreeId = draftTreeId ∧
        node.1.parentDraftTaskId = parent := by
  simp [childrenOf]

theorem sortNodes_of_nodup (h : (nodes.map fun node => node.1.orderIndex).Nodup) :
    sortNodes nodes = .ok (sortOn nodeKey nodes) := by
  rw [sortNodes, if_neg]
  rintro ⟨a, ha, b, hb, -, horder, hcomp⟩
  have hab : a = b := List.inj_on_of_nodup_map h ha hb horder
  exact hcomp (by rw [hab]; exact rfl)

theorem bumpTree_ok (hs : s.WellKeyed) (h : s.CanBump sessionId draftTreeId now) :
    ∃ updated, s.bumpTree sessionId draftTreeId now =
      (.ok updated, { s with trees := s.trees.set (sessionId, draftTreeId) updated }) ∧
      updated.1.sessionId = sessionId ∧ updated.1.draftTreeId = draftTreeId := by
  obtain ⟨hne, hnodup, tree, htree, hnow⟩ := h
  have hkey := hs.trees _ tree htree
  rw [Prod.mk.injEq] at hkey
  obtain ⟨hsession, hid⟩ := hkey
  have hperm := sortOn_perm nodeKey (s.childrenOf sessionId draftTreeId none)
  have hvalid : DraftTreeFields.Valid { tree.1 with
      rootNodes := sortOn nodeKey (s.childrenOf sessionId draftTreeId none)
      version := tree.1.version + 1
      updatedAt := now } := by
    refine { tree.2 with
      version := Nat.le_add_left 1 tree.1.version
      roots_ne_nil := ?_
      roots := ?_
      orders := (hperm.map _).nodup_iff.mpr hnodup
      timestamps := hnow }
    · intro hnil
      have hnil' : s.childrenOf sessionId draftTreeId none = [] := by
        rw [← List.perm_nil, ← hnil]
        exact hperm.symm
      exact hne (by rw [rootOrders, hnil', List.map_nil])
    · intro node hnode
      have hmem := mem_childrenOf.mp (mem_sortOn.mp hnode)
      exact ⟨hmem.2.1.trans hsession.symm, hmem.2.2.1.trans hid.symm, hmem.2.2.2⟩
  obtain ⟨updated, hupdated⟩ := copyTree_isOk.mpr hvalid
  refine ⟨updated, ?_, ?_, ?_⟩
  · simp only [bumpTree, getTree, htree, sortNodes_of_nodup hnodup, hupdated]
  · rw [copyTree_eq_ok.mp hupdated]
    exact hsession
  · rw [copyTree_eq_ok.mp hupdated]
    exact hid

theorem bumpTree_error (h : ¬s.CanBump sessionId draftTreeId now) :
    ∃ e, s.bumpTree sessionId draftTreeId now = (.error e, s) := by
  unfold bumpTree getTree
  cases htree : s.trees.get? (sessionId, draftTreeId) with
  | none => exact ⟨_, rfl⟩
  | some tree =>
    cases hsort : sortNodes (s.childrenOf sessionId draftTreeId none) with
    | error e => exact ⟨e, rfl⟩
    | ok roots =>
      cases hcopy : copyTree { tree.1 with
          rootNodes := roots, version := tree.1.version + 1, updatedAt := now } with
      | error e => exact ⟨e, by simp only [hcopy]⟩
      | ok updated =>
        refine absurd ⟨?_, ?_, tree, htree, ?_⟩ h
        all_goals
          have hvalid := copyTree_isOk.mp ⟨updated, hcopy⟩
          have hperm := sortOn_perm nodeKey (s.childrenOf sessionId draftTreeId none)
          rw [← sortNodes_eq_ok hsort] at hperm
        · intro hnil
          rw [rootOrders, List.map_eq_nil_iff] at hnil
          rw [hnil, List.perm_nil] at hperm
          exact hvalid.roots_ne_nil hperm
        · exact (hperm.map _).nodup_iff.mp hvalid.orders
        · exact hvalid.timestamps

theorem bumpTree_raises_iff (hs : s.WellKeyed) :
    (∃ e, (s.bumpTree sessionId draftTreeId now).1 = .error e) ↔
      ¬s.CanBump sessionId draftTreeId now := by
  constructor
  · rintro ⟨e, he⟩ hcan
    obtain ⟨updated, hok, -⟩ := bumpTree_ok hs hcan
    rw [hok] at he
    cases he
  · intro h
    obtain ⟨e, he⟩ := bumpTree_error h
    exact ⟨e, by rw [he]⟩

theorem bumpTree_frame (s : InMemoryDraftTaskStore) (sessionId draftTreeId : String)
    (now : DateTime) :
    (s.bumpTree sessionId draftTreeId now).2.nodes = s.nodes ∧
      (s.bumpTree sessionId draftTreeId now).2.nodeTree = s.nodeTree ∧
      (s.bumpTree sessionId draftTreeId now).2.mappingsByDraft = s.mappingsByDraft ∧
      (s.bumpTree sessionId draftTreeId now).2.mappingsByTask = s.mappingsByTask := by
  unfold bumpTree
  split
  · exact ⟨rfl, rfl, rfl, rfl⟩
  · split
    · exact ⟨rfl, rfl, rfl, rfl⟩
    · split <;> exact ⟨rfl, rfl, rfl, rfl⟩

theorem WellKeyed.bumpTree (hs : s.WellKeyed) (sessionId draftTreeId : String) (now : DateTime) :
    (s.bumpTree sessionId draftTreeId now).2.WellKeyed := by
  by_cases h : s.CanBump sessionId draftTreeId now
  · obtain ⟨updated, hok, hsession, hid⟩ := bumpTree_ok hs h
    rw [hok]
    refine ⟨fun k tree hk => ?_, hs.nodes⟩
    rw [Dict.get?_set] at hk
    split at hk
    · next heq =>
      rw [← Option.some.inj hk, ← heq, hsession, hid]
    · exact hs.trees k tree hk
  · obtain ⟨e, he⟩ := bumpTree_error h
    rw [he]
    exact hs

/-! ### Storing a node -/

theorem WellKeyed.setNode (hs : s.WellKeyed) {k : String × String}
    (hk : (node.1.sessionId, node.1.draftTaskId) = k) :
    { s with nodes := s.nodes.set k node }.WellKeyed := by
  refine ⟨hs.trees, fun k' node' hk' => ?_⟩
  rw [Dict.get?_set] at hk'
  split at hk'
  · next heq => rw [← Option.some.inj hk', ← heq, hk]
  · exact hs.nodes k' node' hk'

/-- Where a node stands in its forest. -/
def place (node : DraftTaskNode) : String × String × Option String × ℕ :=
  (node.1.sessionId, node.1.draftTreeId, node.1.parentDraftTaskId, node.1.orderIndex)

theorem rootOrders_eq (s : InMemoryDraftTaskStore) (sessionId draftTreeId : String) :
    s.rootOrders sessionId draftTreeId =
      ((s.nodes.values.map place).filter fun p =>
        p.1 = sessionId ∧ p.2.1 = draftTreeId ∧ p.2.2.1 = none).map fun p => p.2.2.2 := by
  rw [rootOrders, childrenOf, List.filter_map, List.map_map]
  rfl

theorem rootOrders_set {k : String × String} {node' : DraftTaskNode}
    (h : s.nodes.get? k = some node) (hplace : place node' = place node)
    (sessionId draftTreeId : String) :
    { s with nodes := s.nodes.set k node' }.rootOrders sessionId draftTreeId =
      s.rootOrders sessionId draftTreeId := by
  rw [rootOrders_eq, rootOrders_eq, Dict.map_values_set h hplace]

theorem canBump_congr (htrees : s'.trees = s.trees)
    (horders : s'.rootOrders sessionId draftTreeId = s.rootOrders sessionId draftTreeId) :
    s'.CanBump sessionId draftTreeId now ↔ s.CanBump sessionId draftTreeId now := by
  rw [CanBump, CanBump, htrees, horders]

/-! ### Marking nodes -/

/-- A node takes a reading of the clock. -/
def Markable (node : DraftTaskNode) (now : DateTime) : Prop :=
  node.1.createdAt.Le (Moment.utc now)

instance (node : DraftTaskNode) (now : DateTime) : Decidable (Markable node now) :=
  inferInstanceAs (Decidable (Moment.Le _ _))

theorem markedNode_ok (status : DraftTaskStatus) (h : Markable node now) :
    ∃ marked, markedNode status node now = .ok marked ∧
      marked.1 = { node.1 with
        status := status, version := node.1.version + 1, updatedAt := Moment.utc now } := by
  have hvalid : DraftTaskFields.Valid { node.1 with
      status := status, version := node.1.version + 1, updatedAt := Moment.utc now } :=
    { node.2 with version := Nat.le_add_left 1 node.1.version, timestamps := h }
  obtain ⟨marked, hmarked⟩ := copyNode_isOk.mpr hvalid
  exact ⟨marked, hmarked, copyNode_eq_ok.mp hmarked⟩

theorem markedNode_error {status : DraftTaskStatus} (h : ¬Markable node now) :
    markedNode status node now = .error .invalid :=
  dif_neg fun hvalid => h hvalid.timestamps

/-- The nodes take the readings from `i` on. -/
def AllMarkable (clock : Clock) : ℕ → List DraftTaskNode → Prop
  | _, [] => True
  | i, node :: nodes => Markable node (clock i) ∧ AllMarkable clock (i + 1) nodes

/-- The nodes are in the store, under their ids and once each. -/
structure Listed (s : InMemoryDraftTaskStore) (sessionId : String) (nodes : List DraftTaskNode) :
    Prop where
  stored : ∀ node ∈ nodes, s.nodes.get? (sessionId, node.1.draftTaskId) = some node
  nodup : (nodes.map fun node => node.1.draftTaskId).Nodup

theorem Listed.tail (h : s.Listed sessionId (node :: nodes)) (node' : DraftTaskNode) :
    { s with nodes := s.nodes.set (sessionId, node.1.draftTaskId) node' }.Listed sessionId
      nodes := by
  have hnodup := h.nodup
  rw [List.map_cons, List.nodup_cons] at hnodup
  refine ⟨fun n hn => ?_, hnodup.2⟩
  have hne : (sessionId, node.1.draftTaskId) ≠ (sessionId, n.1.draftTaskId) := by
    intro heq
    rw [Prod.mk.injEq] at heq
    exact hnodup.1 (heq.2 ▸ List.mem_map_of_mem hn)
  rw [Dict.get?_set_ne _ _ hne]
  exact h.stored n (List.mem_cons_of_mem node hn)

/-- What the marks leave alone. -/
structure MarkFrame (s s' : InMemoryDraftTaskStore) : Prop where
  trees : s'.trees = s.trees
  nodeTree : s'.nodeTree = s.nodeTree
  mappingsByDraft : s'.mappingsByDraft = s.mappingsByDraft
  mappingsByTask : s'.mappingsByTask = s.mappingsByTask
  wellKeyed : s.WellKeyed → s'.WellKeyed
  rootOrders : ∀ sessionId draftTreeId,
    s'.rootOrders sessionId draftTreeId = s.rootOrders sessionId draftTreeId

theorem MarkFrame.refl (s : InMemoryDraftTaskStore) : MarkFrame s s :=
  ⟨rfl, rfl, rfl, rfl, id, fun _ _ => rfl⟩

theorem MarkFrame.trans (h : MarkFrame s s') (h' : MarkFrame s' s'') : MarkFrame s s'' :=
  ⟨h'.trees.trans h.trees, h'.nodeTree.trans h.nodeTree,
    h'.mappingsByDraft.trans h.mappingsByDraft, h'.mappingsByTask.trans h.mappingsByTask,
    fun hs => h'.wellKeyed (h.wellKeyed hs),
    fun sid tid => (h'.rootOrders sid tid).trans (h.rootOrders sid tid)⟩

theorem MarkFrame.set (marked : DraftTaskNode)
    (h : s.nodes.get? (sessionId, node.1.draftTaskId) = some node)
    (hsession : node.1.sessionId = sessionId) (hid : marked.1.draftTaskId = node.1.draftTaskId)
    (hplace : place marked = place node) :
    MarkFrame s { s with nodes := s.nodes.set (sessionId, node.1.draftTaskId) marked } := by
  have hsid : marked.1.sessionId = node.1.sessionId := congrArg Prod.fst hplace
  exact ⟨rfl, rfl, rfl, rfl, fun hs => hs.setNode (by rw [hsid, hid, hsession]),
    fun _ _ => rootOrders_set h hplace _ _⟩

/-- **The loop over the marks** succeeds when all nodes take the clock, and leaves the
rest of the store alone; a node that is not on the list stays. -/
theorem markNodes_spec (status : DraftTaskStatus) (clock : Clock) (sessionId : String) :
    ∀ (nodes : List DraftTaskNode) (i : ℕ) (s : InMemoryDraftTaskStore),
      s.Listed sessionId nodes → (∀ node ∈ nodes, node.1.sessionId = sessionId) →
      MarkFrame s (markNodes status clock sessionId i nodes s).2 ∧
      ((∃ e, (markNodes status clock sessionId i nodes s).1 = .error e) ↔
        ¬AllMarkable clock i nodes) ∧
      ∀ id, id ∉ nodes.map (fun node => node.1.draftTaskId) →
        (markNodes status clock sessionId i nodes s).2.nodes.get? (sessionId, id) =
          s.nodes.get? (sessionId, id) := by
  intro nodes
  induction nodes with
  | nil =>
    intro i s _ _
    refine ⟨MarkFrame.refl s, ?_, fun _ _ => rfl⟩
    simp [markNodes, AllMarkable]
  | cons node nodes ih =>
    intro i s hlisted hsession
    by_cases hmark : Markable node (clock i)
    · obtain ⟨marked, hok, hfields⟩ := markedNode_ok status hmark
      have hstored := hlisted.stored node List.mem_cons_self
      obtain ⟨hframe, hraises, hother⟩ := ih (i + 1)
        { s with nodes := s.nodes.set (sessionId, node.1.draftTaskId) marked }
        (hlisted.tail marked) (fun n hn => hsession n (List.mem_cons_of_mem node hn))
      have hset := MarkFrame.set marked hstored (hsession node List.mem_cons_self) (by rw [hfields])
        (by simp [place, hfields])
      simp only [markNodes, hok]
      refine ⟨hset.trans hframe, ?_, ?_⟩
      · rw [hraises, AllMarkable]
        exact not_congr (and_iff_right hmark).symm
      · intro id hid
        rw [List.map_cons, List.mem_cons, not_or] at hid
        rw [hother id hid.2]
        exact Dict.get?_set_ne _ _ fun heq => hid.1 (Prod.mk.inj heq).2.symm
    · simp only [markNodes, markedNode_error hmark]
      refine ⟨MarkFrame.refl s, ?_, fun _ _ => trivial⟩
      simp [AllMarkable, hmark]

theorem markNodes_changed (status : DraftTaskStatus) {i : ℕ}
    (hlisted : s.Listed sessionId (node :: nodes))
    (hsession : ∀ n ∈ node :: nodes, n.1.sessionId = sessionId) (hmark : Markable node (clock i)) :
    (markNodes status clock sessionId i (node :: nodes) s).2.nodes ≠ s.nodes := by
  obtain ⟨marked, hok, hfields⟩ := markedNode_ok status hmark
  obtain ⟨-, -, hother⟩ := markNodes_spec status clock sessionId nodes (i + 1)
    { s with nodes := s.nodes.set (sessionId, node.1.draftTaskId) marked }
    (hlisted.tail marked) (fun n hn => hsession n (List.mem_cons_of_mem node hn))
  have hnodup := hlisted.nodup
  rw [List.map_cons, List.nodup_cons] at hnodup
  simp only [markNodes, hok]
  intro heq
  have hget := hother node.1.draftTaskId hnodup.1
  rw [heq, hlisted.stored node List.mem_cons_self, Dict.get?_set_self, Option.some.injEq] at hget
  have hversion : node.1.version = marked.1.version := by rw [← hget]
  rw [hfields] at hversion
  exact absurd hversion (by simp)

theorem markNodes_first {status : DraftTaskStatus} {i : ℕ} (h : ¬Markable node (clock i)) :
    markNodes status clock sessionId i (node :: nodes) s = (.error .invalid, s) := by
  simp only [markNodes, markedNode_error h]

/-! ### The nodes of a tree -/

theorem WellKeyed.get?_of_mem (hs : s.WellKeyed) (h : node ∈ s.nodes.values) :
    s.nodes.get? (node.1.sessionId, node.1.draftTaskId) = some node := by
  obtain ⟨k, hk⟩ := Dict.mem_values.mp h
  rw [hs.nodes k node hk]
  exact hk

theorem WellKeyed.nodup_keys (hs : s.WellKeyed) :
    (s.nodes.values.map fun node => (node.1.sessionId, node.1.draftTaskId)).Nodup :=
  Dict.nodup_map_values hs.nodes

theorem WellKeyed.listed (hs : s.WellKeyed) (h : s.listNodes sessionId draftTreeId = .ok nodes)
    (p : DraftTaskNode → Bool) :
    s.Listed sessionId (nodes.filter p) ∧
      ∀ node ∈ nodes.filter p, node.1.sessionId = sessionId := by
  obtain ⟨_, -, hsort⟩ := bind_eq_ok.mp h
  have hperm := sortOn_perm nodeKey (s.nodesOf sessionId draftTreeId)
  rw [← sortNodes_eq_ok hsort] at hperm
  have hmem : ∀ node ∈ nodes, node ∈ s.nodes.values ∧ node.1.sessionId = sessionId := by
    intro node hnode
    have hn := List.mem_filter.mp (hperm.mem_iff.mp hnode)
    exact ⟨hn.1, (of_decide_eq_true hn.2).1⟩
  refine ⟨⟨fun node hnode => ?_, ?_⟩, fun node hnode =>
    (hmem node (List.mem_of_mem_filter hnode)).2⟩
  · obtain ⟨hvalue, hsession⟩ := hmem node (List.mem_of_mem_filter hnode)
    rw [← hsession]
    exact hs.get?_of_mem hvalue
  · have hkeys : (nodes.map fun node => (node.1.sessionId, node.1.draftTaskId)).Nodup :=
      (hperm.map _).nodup_iff.mpr (hs.nodup_keys.sublist (List.filter_sublist.map _))
    have hids : (nodes.map fun node => node.1.draftTaskId).Nodup := by
      refine List.Nodup.map_on ?_ (List.Nodup.of_map _ hkeys)
      intro a ha b hb hab
      refine List.inj_on_of_nodup_map hkeys ha hb ?_
      rw [(hmem a ha).2, (hmem b hb).2, hab]
    exact hids.sublist (List.filter_sublist.map _)

theorem acceptableNodes_listed (h : s.acceptableNodes sessionId draftTreeId expected = .ok nodes) :
    s.listNodes sessionId draftTreeId = .ok nodes := by
  obtain ⟨tree, -, h⟩ := bind_eq_ok.mp h
  obtain ⟨_, -, h⟩ := bind_eq_ok.mp h
  obtain ⟨nodes', hlist, h⟩ := bind_eq_ok.mp h
  obtain ⟨_, -, h⟩ := bind_eq_ok.mp h
  cases h
  exact hlist

theorem publishableNodes_listed {mappings : List DraftToPublishedMapping} {expected : Option ℤ}
    (h : s.publishableNodes sessionId draftTreeId mappings expected = .ok nodes) :
    s.listNodes sessionId draftTreeId = .ok nodes := by
  obtain ⟨tree, -, h⟩ := bind_eq_ok.mp h
  obtain ⟨_, -, h⟩ := bind_eq_ok.mp h
  obtain ⟨nodes', hlist, h⟩ := bind_eq_ok.mp h
  obtain ⟨_, -, h⟩ := bind_eq_ok.mp h
  obtain ⟨_, -, h⟩ := bind_eq_ok.mp h
  cases h
  exact hlist

/-! ### Loading a tree -/

def RootsFree (s : InMemoryDraftTaskStore) (sessionId : String) (roots : List DraftTaskNode) :
    Prop :=
  (roots.map fun root => root.1.draftTaskId).Nodup ∧
    ∀ root ∈ roots, s.nodes.get? (sessionId, root.1.draftTaskId) = none

theorem loadRoots_trees (draftTreeId : String) : ∀ (roots : List DraftTaskNode)
    (s : InMemoryDraftTaskStore), (loadRoots draftTreeId roots s).2.trees = s.trees := by
  intro roots
  induction roots with
  | nil => intro s; rfl
  | cons root roots ih =>
    intro s
    simp only [loadRoots]
    split
    · rfl
    · exact ih _

theorem loadRoots_wellKeyed (draftTreeId : String) : ∀ (roots : List DraftTaskNode)
    (s : InMemoryDraftTaskStore), s.WellKeyed → (loadRoots draftTreeId roots s).2.WellKeyed := by
  intro roots
  induction roots with
  | nil => intro s hs; exact hs
  | cons root roots ih =>
    intro s hs
    simp only [loadRoots]
    split
    · exact hs
    · have hset : { s with
          nodes := s.nodes.set (root.1.sessionId, root.1.draftTaskId) root }.WellKeyed :=
        hs.setNode rfl
      exact ih _ ⟨hset.trees, hset.nodes⟩

theorem loadRoots_raises_iff (draftTreeId sessionId : String) : ∀ (roots : List DraftTaskNode)
    (s : InMemoryDraftTaskStore), (∀ root ∈ roots, root.1.sessionId = sessionId) →
      ((∃ e, (loadRoots draftTreeId roots s).1 = .error e) ↔ ¬s.RootsFree sessionId roots) := by
  intro roots
  induction roots with
  | nil => intro s _; simp [loadRoots, RootsFree]
  | cons root roots ih =>
    intro s hsession
    have hroot := hsession root List.mem_cons_self
    have hrest : ∀ r ∈ roots, r.1.sessionId = sessionId :=
      fun r hr => hsession r (List.mem_cons_of_mem root hr)
    cases hget : s.nodes.get? (sessionId, root.1.draftTaskId) with
    | some node =>
      simp only [loadRoots, hroot, hget]
      refine iff_of_true ⟨_, rfl⟩ fun hfree => ?_
      have hnone := hfree.2 root List.mem_cons_self
      rw [hget] at hnone
      cases hnone
    | none =>
      simp only [loadRoots, hroot, hget]
      rw [ih _ hrest, RootsFree, RootsFree, List.map_cons, List.nodup_cons]
      refine not_congr ⟨fun ⟨hnodup, hfree⟩ => ⟨⟨?_, hnodup⟩, ?_⟩, fun ⟨⟨hnew, hnodup⟩, hfree⟩ =>
        ⟨hnodup, fun r hr => ?_⟩⟩
      · intro hmem
        obtain ⟨r, hr, heq⟩ := List.mem_map.mp hmem
        have hnone := hfree r hr
        rw [heq, Dict.get?_set_self] at hnone
        cases hnone
      · intro r hr
        rcases List.mem_cons.mp hr with rfl | hr
        · exact hget
        · have hnone := hfree r hr
          rw [Dict.get?_set] at hnone
          split at hnone
          · cases hnone
          · exact hnone
      · have hne : (sessionId, root.1.draftTaskId) ≠ (sessionId, r.1.draftTaskId) := by
          intro heq
          exact hnew ((Prod.mk.inj heq).2 ▸ List.mem_map_of_mem hr)
        exact (Dict.get?_set_ne _ _ hne).trans (hfree r (List.mem_cons_of_mem root hr))

theorem mapM_copyNode_ids {f : DraftTaskNode → DraftTaskFields}
    (hf : ∀ node, (f node).draftTaskId = node.1.draftTaskId) : ∀ (nodes : List DraftTaskNode)
      {copies : List DraftTaskNode}, nodes.mapM (fun node => copyNode (f node)) = .ok copies →
        copies.map (fun node => node.1.draftTaskId) = nodes.map fun node => node.1.draftTaskId := by
  intro nodes
  induction nodes with
  | nil => intro copies h; cases h; rfl
  | cons node nodes ih =>
    intro copies h
    rw [List.mapM_cons] at h
    obtain ⟨first, hfirst, h⟩ := bind_eq_ok.mp h
    obtain ⟨rest, hrest, h⟩ := bind_eq_ok.mp h
    cases h
    rw [List.map_cons, List.map_cons, ih hrest, copyNode_eq_ok.mp hfirst, hf]

theorem createdTree_ok {roots : List DraftTaskNode} {title summary : Option String}
    {tree : DraftTaskTree}
    (h : createdTree draftTreeId clock sessionId roots title summary = .ok tree) :
    tree.1.sessionId = sessionId ∧ tree.1.draftTreeId = draftTreeId ∧
      (∀ root ∈ tree.1.rootNodes, root.1.sessionId = sessionId) ∧
      (tree.1.rootNodes.map fun root => root.1.draftTaskId).Perm
        (roots.map fun root => root.1.draftTaskId) := by
  obtain ⟨normalized, hnorm, h⟩ := bind_eq_ok.mp h
  have hids := mapM_copyNode_ids (f := rootFields sessionId draftTreeId) (fun _ => rfl) roots hnorm
  cases normalized with
  | nil => cases h
  | cons first rest =>
    obtain ⟨sorted, hsort, h⟩ := bind_eq_ok.mp h
    have hfields := copyTree_eq_ok.mp h
    have hvalid := tree.2.roots
    rw [hfields] at hvalid ⊢
    refine ⟨rfl, rfl, fun root hroot => (hvalid root hroot).1, ?_⟩
    rw [← hids, sortNodes_eq_ok hsort]
    exact (sortOn_perm nodeKey _).map _

/-! ### Mappings -/

theorem recordMappings_frame (sessionId : String) : ∀ (mappings : List DraftToPublishedMapping)
    (s : InMemoryDraftTaskStore), (recordMappings sessionId mappings s).trees = s.trees ∧
      (recordMappings sessionId mappings s).nodes = s.nodes ∧
      (recordMappings sessionId mappings s).nodeTree = s.nodeTree := by
  intro mappings
  induction mappings with
  | nil => intro s; exact ⟨rfl, rfl, rfl⟩
  | cons mapping mappings ih => intro s; exact ih _

theorem listForDraft_recordMappings (sessionId : String) :
    ∀ (mappings : List DraftToPublishedMapping) (s : InMemoryDraftTaskStore) (id : String),
      (recordMappings sessionId mappings s).listForDraft sessionId id =
        s.listForDraft sessionId id ++ mappings.filter fun m => m.draftTaskId = id := by
  intro mappings
  induction mappings with
  | nil => intro s id; simp [recordMappings]
  | cons mapping mappings ih =>
    intro s id
    rw [recordMappings, List.foldl_cons, ← recordMappings, ih]
    by_cases hid : mapping.draftTaskId = id
    · subst hid
      rw [List.filter_cons_of_pos (by simp)]
      simp [listForDraft, appendMapping]
    · rw [List.filter_cons_of_neg (by simpa using hid)]
      simp [listForDraft, appendMapping, Dict.get?_set_ne, hid]

theorem recordMappings_changed {mappings : List DraftToPublishedMapping} (h : mappings ≠ []) :
    (recordMappings sessionId mappings s).mappingsByDraft ≠ s.mappingsByDraft := by
  intro heq
  obtain ⟨mapping, rest, rfl⟩ := List.exists_cons_of_ne_nil h
  have hlist := listForDraft_recordMappings sessionId (mapping :: rest) s mapping.draftTaskId
  rw [List.filter_cons_of_pos (by simp), listForDraft, listForDraft, heq] at hlist
  exact absurd (congrArg List.length hlist) (by simp)

/-! ### The operations -/

/-- **The conditions under which an error leaves the store as it was.** -/
def Atomic (s : InMemoryDraftTaskStore) : DraftCall → Prop
  | .createTree draftTreeId clock sessionId roots title summary =>
    (∃ tree, createdTree draftTreeId clock sessionId roots title summary = .ok tree) →
      s.trees.get? (sessionId, draftTreeId) = none → s.RootsFree sessionId roots
  | .addNode clock sessionId draftTreeId node expected =>
    (∃ added, s.addedNode clock sessionId draftTreeId node expected = .ok added) →
      s.CanBumpWith sessionId draftTreeId node (clock 2)
  | .updateNode clock sessionId draftTaskId patch expected =>
    ∀ node updated, s.getNode sessionId draftTaskId = some node →
      editedNode node draftTaskId patch expected (clock 0) = .ok updated →
        s.CanBump sessionId node.1.draftTreeId (clock 1)
  | .markAccepted clock sessionId draftTreeId expected =>
    ∀ nodes, s.acceptableNodes sessionId draftTreeId expected = .ok nodes →
      ∀ first rest, toAccept nodes = first :: rest → Markable first (clock 0) →
        AllMarkable clock 1 rest ∧
          s.CanBump sessionId draftTreeId (clock (toAccept nodes).length)
  | .markPublished clock sessionId draftTreeId mappings expected =>
    ∀ nodes, s.publishableNodes sessionId draftTreeId mappings expected = .ok nodes →
      match toPublish nodes with
      | [] => mappings ≠ [] → s.CanBump sessionId draftTreeId (clock 0)
      | first :: rest => Markable first (clock 0) → AllMarkable clock 1 rest ∧
          s.CanBump sessionId draftTreeId (clock (toPublish nodes).length)
  | _ => True

/-- An answer that raises leaves the store as it was. -/
def Unchanged {α : Type} (s : InMemoryDraftTaskStore)
    (r : Except DraftStoreError α × InMemoryDraftTaskStore) : Prop :=
  ∀ e, r.1 = .error e → r.2 = s

theorem unchanged_answer {α β : Type} {wrap : α → β}
    {r : Except DraftStoreError α × InMemoryDraftTaskStore} :
    Unchanged s (answer wrap r) ↔ Unchanged s r := by
  obtain ⟨r, s'⟩ := r
  cases r with
  | error e => simp [Unchanged, answer, Except.map]
  | ok a => simp [Unchanged, answer, Except.map]

theorem unchanged_self {α : Type} {s : InMemoryDraftTaskStore} {r : Except DraftStoreError α} :
    Unchanged s (r, s) := fun _ _ => rfl

/-- A store with a change in it is unchanged by the last step exactly if that does not
raise. -/
theorem unchanged_iff_of_ne {α : Type} {r : Except DraftStoreError α × InMemoryDraftTaskStore}
    (h : r.2 ≠ s) :
    Unchanged s r ↔ ¬∃ e, r.1 = .error e :=
  ⟨fun hun ⟨e, he⟩ => h (hun e he), fun hno e he => absurd ⟨e, he⟩ hno⟩

theorem rootsFree_congr {roots roots' : List DraftTaskNode}
    (h : (roots.map fun root => root.1.draftTaskId).Perm
      (roots'.map fun root => root.1.draftTaskId)) :
    s.RootsFree sessionId roots ↔ s.RootsFree sessionId roots' := by
  have hids : ∀ l : List DraftTaskNode,
      (∀ root ∈ l, s.nodes.get? (sessionId, root.1.draftTaskId) = none) ↔
        ∀ id ∈ l.map (fun root => root.1.draftTaskId), s.nodes.get? (sessionId, id) = none :=
    fun l => (List.forall_mem_map (f := fun root : DraftTaskNode => root.1.draftTaskId)
      (P := fun id => s.nodes.get? (sessionId, id) = none)).symm
  rw [RootsFree, RootsFree, h.nodup_iff, hids, hids]
  exact and_congr_right fun _ => forall_congr' fun id => by rw [h.mem_iff]

theorem unchanged_createTree {roots : List DraftTaskNode} {title summary : Option String} :
    Unchanged s (s.createTree draftTreeId clock sessionId roots title summary) ↔
      s.Atomic (.createTree draftTreeId clock sessionId roots title summary) := by
  rw [createTree, Atomic]
  cases hcreated : createdTree draftTreeId clock sessionId roots title summary with
  | error e => exact iff_of_true unchanged_self fun ⟨_, htree⟩ => nomatch htree
  | ok tree =>
    obtain ⟨hsession, hid, hroots, hperm⟩ := createdTree_ok hcreated
    rw [unchanged_answer, loadTree, hsession, hid]
    cases hget : s.trees.get? (sessionId, draftTreeId) with
    | some tree' => exact iff_of_true unchanged_self nofun
    | none =>
      have htrees := loadRoots_trees draftTreeId tree.1.rootNodes
        { s with trees := s.trees.set (sessionId, draftTreeId) tree }
      -- The tree is stored whatever the ids of its roots are.
      have hchanged : (loadRoots draftTreeId tree.1.rootNodes
          { s with trees := s.trees.set (sessionId, draftTreeId) tree }).2 ≠ s := by
        intro heq
        have hnew := congrArg (fun d => d.get? (sessionId, draftTreeId)) htrees
        rw [heq, hget, Dict.get?_set_self] at hnew
        cases hnew
      have hraises := loadRoots_raises_iff draftTreeId sessionId tree.1.rootNodes
        { s with trees := s.trees.set (sessionId, draftTreeId) tree } hroots
      have hfree : s.RootsFree sessionId roots ↔ s.RootsFree sessionId tree.1.rootNodes :=
        rootsFree_congr hperm.symm
      refine (unchanged_iff_of_ne hchanged).trans ?_
      rw [hraises, not_not]
      exact ⟨fun h _ _ => hfree.mpr h, fun h => hfree.mp (h ⟨tree, rfl⟩ rfl)⟩

theorem unchanged_bumpTree_self (hs : s.WellKeyed) (sessionId draftTreeId : String)
    (now : DateTime) : Unchanged s (s.bumpTree sessionId draftTreeId now) := by
  intro e he
  by_cases hcan : s.CanBump sessionId draftTreeId now
  · obtain ⟨updated, hok, -⟩ := bumpTree_ok hs hcan
    rw [hok] at he
    cases he
  · obtain ⟨e', he'⟩ := bumpTree_error hcan
    rw [he']

theorem unchanged_bumpTree (hs : s'.WellKeyed) (h : s'.nodes ≠ s.nodes) :
    Unchanged s (s'.bumpTree sessionId draftTreeId now) ↔
      s'.CanBump sessionId draftTreeId now := by
  have hchanged : (s'.bumpTree sessionId draftTreeId now).2 ≠ s := by
    intro heq
    have hnodes := (bumpTree_frame s' sessionId draftTreeId now).1
    rw [heq] at hnodes
    exact h hnodes.symm
  rw [unchanged_iff_of_ne hchanged, bumpTree_raises_iff hs, not_not]

theorem addedNode_ok {added : DraftTaskNode}
    (h : s.addedNode clock sessionId draftTreeId node expected = .ok added) :
    s.nodes.get? (sessionId, added.1.draftTaskId) = none ∧
      added.1 = { node.1 with
        sessionId := sessionId
        draftTreeId := draftTreeId
        createdAt := Moment.utc (clock 0)
        updatedAt := Moment.utc (clock 1) } := by
  obtain ⟨tree, -, h⟩ := bind_eq_ok.mp h
  obtain ⟨_, -, h⟩ := bind_eq_ok.mp h
  obtain ⟨_, hget, h⟩ := bind_eq_ok.mp h
  obtain ⟨_, -, h⟩ := bind_eq_ok.mp h
  have hfields := copyNode_eq_ok.mp h
  refine ⟨?_, hfields⟩
  rw [hfields]
  simpa using hget

theorem WellKeyed.withNode (hs : s.WellKeyed) (h : node.1.sessionId = sessionId) :
    (s.withNode sessionId draftTreeId node).WellKeyed := by
  have hset : { s with nodes := s.nodes.set (sessionId, node.1.draftTaskId) node }.WellKeyed :=
    hs.setNode (by rw [h])
  exact ⟨hset.trees, hset.nodes⟩

theorem canBump_withNode (hnew : s.nodes.get? (sessionId, node.1.draftTaskId) = none)
    (hsession : node.1.sessionId = sessionId) (htree : node.1.draftTreeId = draftTreeId) :
    (s.withNode sessionId draftTreeId node).CanBump sessionId draftTreeId now ↔
      s.CanBumpWith sessionId draftTreeId node now := by
  have horders : (s.withNode sessionId draftTreeId node).rootOrders sessionId draftTreeId =
      s.rootOrders sessionId draftTreeId ++
        if node.1.parentDraftTaskId = none then [node.1.orderIndex] else [] := by
    rw [rootOrders, rootOrders, childrenOf, withNode, Dict.values_set_of_none hnew,
      List.filter_append, List.map_append]
    by_cases hparent : node.1.parentDraftTaskId = none
    · rw [if_pos hparent, List.filter_cons_of_pos (by simp [hsession, htree, hparent])]
      rfl
    · rw [if_neg hparent, List.filter_cons_of_neg (by simp [hparent])]
      rfl
  rw [CanBump, CanBumpWith, horders, withNode]
  by_cases hparent : node.1.parentDraftTaskId = none
  · rw [if_pos hparent, List.nodup_append]
    simp only [hparent, true_or, true_implies, true_and]
    constructor
    · rintro ⟨-, ⟨hnodup, -, hdiff⟩, h⟩
      exact ⟨fun hmem => hdiff _ hmem _ (List.mem_singleton_self _) rfl, hnodup, h⟩
    · rintro ⟨hfree, hnodup, h⟩
      refine ⟨by simp, ⟨hnodup, List.nodup_singleton _, fun a ha b hb hab => ?_⟩, h⟩
      rw [List.mem_singleton.mp hb] at hab
      exact hfree (hab ▸ ha)
  · rw [if_neg hparent, List.append_nil]
    simp only [hparent, false_or, false_implies, true_and]

theorem unchanged_addNode (hs : s.WellKeyed) :
    Unchanged s (s.addNode clock sessionId draftTreeId node expected) ↔
      s.Atomic (.addNode clock sessionId draftTreeId node expected) := by
  rw [addNode, Atomic]
  cases hadded : s.addedNode clock sessionId draftTreeId node expected with
  | error e => exact iff_of_true unchanged_self fun ⟨_, h⟩ => by cases h
  | ok added =>
    obtain ⟨hnew, hfields⟩ := addedNode_ok hadded
    have hchanged : (s.withNode sessionId draftTreeId added).nodes ≠ s.nodes := by
      intro heq
      have hget := congrArg (fun d => d.get? (sessionId, added.1.draftTaskId)) heq
      rw [hnew, withNode, Dict.get?_set_self] at hget
      cases hget
    have hkeyed : (s.withNode sessionId draftTreeId added).WellKeyed :=
      hs.withNode (by rw [hfields])
    dsimp only
    rw [unchanged_answer, unchanged_bumpTree hkeyed hchanged,
      canBump_withNode hnew (by rw [hfields]) (by rw [hfields])]
    have hsame : s.CanBumpWith sessionId draftTreeId added (clock 2) ↔
        s.CanBumpWith sessionId draftTreeId node (clock 2) := by
      rw [CanBumpWith, CanBumpWith, hfields]
    rw [hsame]
    exact ⟨fun h _ => h, fun h => h ⟨added, rfl⟩⟩

theorem getNode_eq_some {draftTaskId : String} :
    s.getNode sessionId draftTaskId = some node ↔
      s.nodes.get? (sessionId, draftTaskId) = some node ∧ node.1.sessionId = sessionId := by
  simp [getNode, Option.filter_eq_some_iff]

theorem editedNode_ok {updated : DraftTaskNode} {draftTaskId : String} {patch : TaskNodePatch}
    (h : editedNode node draftTaskId patch expected now = .ok updated) :
    place updated = place node ∧ updated.1.draftTaskId = node.1.draftTaskId ∧
      updated.1.version = node.1.version + 1 := by
  obtain ⟨_, -, h⟩ := bind_eq_ok.mp h
  obtain ⟨_, -, h⟩ := bind_eq_ok.mp h
  obtain ⟨_, -, h⟩ := bind_eq_ok.mp h
  obtain ⟨_, -, h⟩ := bind_eq_ok.mp h
  obtain ⟨status, -, h⟩ := bind_eq_ok.mp h
  have hfields := copyNode_eq_ok.mp h
  simp [place, hfields]

theorem unchanged_updateNode (hs : s.WellKeyed) {draftTaskId : String} {patch : TaskNodePatch} :
    Unchanged s (s.updateNode clock sessionId draftTaskId patch expected) ↔
      s.Atomic (.updateNode clock sessionId draftTaskId patch expected) := by
  rw [updateNode, Atomic]
  cases hget : s.getNode sessionId draftTaskId with
  | none => exact iff_of_true unchanged_self fun _ _ h => by cases h
  | some node =>
    obtain ⟨hstored, hsession⟩ := getNode_eq_some.mp hget
    cases hedit : editedNode node draftTaskId patch expected (clock 0) with
    | error e =>
      simp only [hedit]
      refine iff_of_true unchanged_self fun n updated hn hu => ?_
      rw [← Option.some.inj hn, hedit] at hu
      cases hu
    | ok updated =>
      obtain ⟨hplace, hid, hversion⟩ := editedNode_ok hedit
      have hkey := hs.nodes _ node hstored
      have hchanged :
          { s with nodes := s.nodes.set (sessionId, draftTaskId) updated }.nodes ≠ s.nodes := by
        intro heq
        have hnode := congrArg (fun d => d.get? (sessionId, draftTaskId)) heq
        rw [hstored, Dict.get?_set_self, Option.some.injEq] at hnode
        rw [hnode] at hversion
        omega
      have hkeyed : { s with nodes := s.nodes.set (sessionId, draftTaskId) updated }.WellKeyed := by
        have hsid : updated.1.sessionId = node.1.sessionId := congrArg Prod.fst hplace
        exact hs.setNode (by rw [hsid, hid, hkey])
      simp only [hedit]
      rw [unchanged_answer, unchanged_bumpTree hkeyed hchanged]
      have hcan : { s with nodes := s.nodes.set (sessionId, draftTaskId) updated }.CanBump
          sessionId node.1.draftTreeId (clock 1) ↔
            s.CanBump sessionId node.1.draftTreeId (clock 1) :=
        canBump_congr rfl (rootOrders_set hstored hplace _ _)
      rw [hcan]
      refine ⟨fun h n u hn _ => Option.some.inj hn ▸ h, fun h => h node updated rfl hedit⟩

theorem unchanged_andThen {status : DraftTaskStatus} {first : DraftTaskNode}
    {rest : List DraftTaskNode} (mappings : List DraftToPublishedMapping) (hs : s.WellKeyed)
    (hlisted : s.Listed sessionId (first :: rest))
    (hsession : ∀ node ∈ first :: rest, node.1.sessionId = sessionId) :
    Unchanged s (andThen (markNodes status clock sessionId 0 (first :: rest) s) fun s' =>
        (recordMappings sessionId mappings s').bumpTree sessionId draftTreeId now) ↔
      (Markable first (clock 0) →
        AllMarkable clock 1 rest ∧ s.CanBump sessionId draftTreeId now) := by
  by_cases hfirst : Markable first (clock 0)
  · have hchanged := markNodes_changed status hlisted hsession hfirst
    obtain ⟨hframe, hraises, -⟩ := markNodes_spec status clock sessionId (first :: rest) 0 s
      hlisted hsession
    generalize markNodes status clock sessionId 0 (first :: rest) s = r at *
    obtain ⟨answer, s'⟩ := r
    have hall : AllMarkable clock 0 (first :: rest) ↔ AllMarkable clock 1 rest :=
      and_iff_right hfirst
    rw [hall] at hraises
    have hdiff : ∀ s'' : InMemoryDraftTaskStore, s''.nodes = s'.nodes → s'' ≠ s :=
      fun s'' hn heq => hchanged (by rw [← hn, heq])
    cases answer with
    | error e =>
      have hno : ¬AllMarkable clock 1 rest := hraises.mp ⟨e, rfl⟩
      refine iff_of_false (fun hun => hdiff s' rfl (hun e rfl)) fun h => hno (h hfirst).1
    | ok u =>
      have hyes : AllMarkable clock 1 rest := by
        by_contra hno
        obtain ⟨e, he⟩ := hraises.mpr hno
        cases he
      obtain ⟨htrees, hnodes, hindex⟩ := recordMappings_frame sessionId mappings s'
      have hkeyed : (recordMappings sessionId mappings s').WellKeyed := by
        have hs' := hframe.wellKeyed hs
        exact ⟨htrees ▸ hs'.trees, hnodes ▸ hs'.nodes⟩
      have hcan : (recordMappings sessionId mappings s').CanBump sessionId draftTreeId now ↔
          s.CanBump sessionId draftTreeId now := by
        refine canBump_congr (htrees.trans hframe.trees) ?_
        rw [← hframe.rootOrders, rootOrders_eq, rootOrders_eq, hnodes]
      rw [andThen, unchanged_bumpTree hkeyed (by rw [hnodes]; exact hchanged), hcan]
      exact ⟨fun h _ => ⟨hyes, h⟩, fun h => (h hfirst).2⟩
  · rw [markNodes_first hfirst, andThen]
    exact iff_of_true unchanged_self fun h => absurd h hfirst

theorem unchanged_markAccepted (hs : s.WellKeyed) :
    Unchanged s (s.markAccepted clock sessionId draftTreeId expected) ↔
      s.Atomic (.markAccepted clock sessionId draftTreeId expected) := by
  rw [markAccepted, Atomic]
  cases hnodes : s.acceptableNodes sessionId draftTreeId expected with
  | error e => exact iff_of_true unchanged_self fun _ h => by cases h
  | ok nodes =>
    obtain ⟨hlisted, hsession⟩ := hs.listed (acceptableNodes_listed hnodes)
      (fun node => node.1.status = .draft)
    dsimp only
    cases hlist : toAccept nodes with
    | nil =>
      rw [markNodes, andThen]
      refine iff_of_true (unchanged_bumpTree_self hs _ _ _) fun nodes' hn first rest hfirst => ?_
      rw [← Except.ok.inj hn, hlist] at hfirst
      cases hfirst
    | cons first rest =>
      rw [toAccept] at hlist
      rw [hlist] at hlisted hsession
      refine (unchanged_andThen [] hs hlisted hsession).trans ?_
      constructor
      · intro h nodes' hn first' rest' hfirst hmark
        rw [← Except.ok.inj hn, toAccept, hlist] at hfirst ⊢
        cases hfirst
        exact h hmark
      · intro h hmark
        have hresult := h nodes rfl first rest hlist hmark
        rwa [toAccept, hlist] at hresult

theorem unchanged_markPublished (hs : s.WellKeyed) {mappings : List DraftToPublishedMapping}
    {expected : Option ℤ} :
    Unchanged s (s.markPublished clock sessionId draftTreeId mappings expected) ↔
      s.Atomic (.markPublished clock sessionId draftTreeId mappings expected) := by
  rw [markPublished, Atomic]
  cases hnodes : s.publishableNodes sessionId draftTreeId mappings expected with
  | error e => exact iff_of_true unchanged_self fun _ h => by cases h
  | ok nodes =>
    obtain ⟨hlisted, hsession⟩ := hs.listed (publishableNodes_listed hnodes)
      (fun node => node.1.status ≠ .published)
    dsimp only
    have hone : ∀ P : List DraftTaskNode → Prop,
        (∀ nodes', Except.ok nodes = (Except.ok nodes' : Except DraftStoreError _) → P nodes') ↔
          P nodes :=
      fun P => ⟨fun h => h nodes rfl, fun h _ heq => Except.ok.inj heq ▸ h⟩
    rw [hone]
    cases hlist : toPublish nodes with
    | nil =>
      dsimp only [List.length_nil]
      rw [markNodes, andThen]
      by_cases hmappings : mappings = []
      · subst hmappings
        exact iff_of_true (unchanged_bumpTree_self hs _ _ _) fun h => absurd rfl h
      · obtain ⟨htrees, hn, -⟩ := recordMappings_frame sessionId mappings s
        have hkeyed : (recordMappings sessionId mappings s).WellKeyed :=
          ⟨htrees ▸ hs.trees, hn ▸ hs.nodes⟩
        have hcan : (recordMappings sessionId mappings s).CanBump sessionId draftTreeId (clock 0) ↔
            s.CanBump sessionId draftTreeId (clock 0) :=
          canBump_congr htrees (by rw [rootOrders_eq, rootOrders_eq, hn])
        have hchanged : ((recordMappings sessionId mappings s).bumpTree sessionId draftTreeId
            (clock 0)).2 ≠ s := by
          intro heq
          have hframe := (bumpTree_frame (recordMappings sessionId mappings s) sessionId
            draftTreeId (clock 0)).2.2.1
          rw [heq] at hframe
          exact recordMappings_changed hmappings hframe.symm
        rw [unchanged_iff_of_ne hchanged, bumpTree_raises_iff hkeyed, not_not, hcan]
        exact ⟨fun h _ => h, fun h => h hmappings⟩
    | cons first rest =>
      rw [toPublish] at hlist
      rw [hlist] at hlisted hsession
      exact unchanged_andThen mappings hs hlisted hsession

/-! ### Every store that calls can reach -/

theorem wellKeyed_empty : empty.WellKeyed where
  trees k tree h := by cases h
  nodes k node h := by cases h

theorem WellKeyed.andThen {status : DraftTaskStatus} (mappings : List DraftToPublishedMapping)
    (hs : s.WellKeyed) (hlisted : s.Listed sessionId nodes)
    (hsession : ∀ node ∈ nodes, node.1.sessionId = sessionId) :
    (andThen (markNodes status clock sessionId 0 nodes s) fun s' =>
      (recordMappings sessionId mappings s').bumpTree sessionId draftTreeId now).2.WellKeyed := by
  obtain ⟨hframe, -, -⟩ := markNodes_spec status clock sessionId nodes 0 s hlisted hsession
  have hs' := hframe.wellKeyed hs
  generalize markNodes status clock sessionId 0 nodes s = r at *
  obtain ⟨answer, s'⟩ := r
  cases answer with
  | error e => exact hs'
  | ok u =>
    obtain ⟨htrees, hnodes, -⟩ := recordMappings_frame sessionId mappings s'
    have hkeyed : (recordMappings sessionId mappings s').WellKeyed :=
      ⟨htrees ▸ hs'.trees, hnodes ▸ hs'.nodes⟩
    exact hkeyed.bumpTree sessionId draftTreeId now

/-- **A call keeps every entry under its own session and id.** -/
theorem WellKeyed.step (hs : s.WellKeyed) (call : DraftCall) : (s.step call).2.WellKeyed := by
  cases call with
  | createTree draftTreeId clock sessionId roots title summary =>
    simp only [InMemoryDraftTaskStore.step, answer, createTree]
    split
    · exact hs
    · next tree hcreated =>
      simp only [loadTree]
      split
      · exact hs
      · refine loadRoots_wellKeyed _ _ _ ⟨fun k tree' hk => ?_, hs.nodes⟩
        rw [Dict.get?_set] at hk
        split at hk
        · next heq => rw [← Option.some.inj hk, heq]
        · exact hs.trees k tree' hk
  | addNode clock sessionId draftTreeId node expected =>
    simp only [InMemoryDraftTaskStore.step, answer, addNode]
    split
    · exact hs
    · next added hadded =>
      have hkeyed : (s.withNode sessionId draftTreeId added).WellKeyed :=
        hs.withNode (by rw [(addedNode_ok hadded).2])
      exact hkeyed.bumpTree _ _ _
  | updateNode clock sessionId draftTaskId patch expected =>
    simp only [InMemoryDraftTaskStore.step, answer, updateNode]
    split
    · exact hs
    · next node hget =>
      split
      · exact hs
      · next updated hedit =>
        obtain ⟨hstored, -⟩ := getNode_eq_some.mp hget
        obtain ⟨hplace, hid, -⟩ := editedNode_ok hedit
        have hsid : updated.1.sessionId = node.1.sessionId := congrArg Prod.fst hplace
        have hkeyed : { s with nodes := s.nodes.set (sessionId, draftTaskId) updated }.WellKeyed :=
          hs.setNode (by rw [hsid, hid, hs.nodes _ node hstored])
        exact hkeyed.bumpTree _ _ _
  | markAccepted clock sessionId draftTreeId expected =>
    simp only [InMemoryDraftTaskStore.step, answer, markAccepted]
    split
    · exact hs
    · next nodes hnodes =>
      obtain ⟨hlisted, hsession⟩ := hs.listed (acceptableNodes_listed hnodes)
        (fun node => node.1.status = .draft)
      exact WellKeyed.andThen [] hs hlisted hsession
  | markPublished clock sessionId draftTreeId mappings expected =>
    simp only [InMemoryDraftTaskStore.step, answer, markPublished]
    split
    · exact hs
    · next nodes hnodes =>
      obtain ⟨hlisted, hsession⟩ := hs.listed (publishableNodes_listed hnodes)
        (fun node => node.1.status ≠ .published)
      exact WellKeyed.andThen mappings hs hlisted hsession
  | _ => exact hs

theorem wellKeyed_final (calls : List DraftCall) :
    (final step empty calls).WellKeyed :=
  final_invariant (I := WellKeyed) (A := fun _ => True) (fun _ call hs _ => hs.step call) calls
    empty wellKeyed_empty fun _ _ => trivial

theorem unchanged_step_iff (hs : s.WellKeyed) (call : DraftCall) :
    Unchanged s (s.step call) ↔ s.Atomic call := by
  cases call with
  | createTree => exact unchanged_answer.trans unchanged_createTree
  | addNode => exact unchanged_answer.trans (unchanged_addNode hs)
  | updateNode => exact unchanged_answer.trans (unchanged_updateNode hs)
  | markAccepted => exact unchanged_answer.trans (unchanged_markAccepted hs)
  | markPublished => exact unchanged_answer.trans (unchanged_markPublished hs)
  | _ => exact iff_of_true (unchanged_answer.mpr unchanged_self) trivial

/-- **When an error leaves the store as it was**, in every store that calls can reach. -/
theorem raises_unchanged_iff (calls : List DraftCall) (call : DraftCall) :
    (∀ e, ((final step empty calls).step call).1 = .error e →
        ((final step empty calls).step call).2 =
          final step empty calls) ↔
      (final step empty calls).Atomic call :=
  unchanged_step_iff (wellKeyed_final calls) call

/-! ### Two trees with one root -/

/-- A root for a tree to be created with. -/
def sampleFields : DraftTaskFields where
  draftTaskId := "n1"
  sessionId := "s1"
  draftTreeId := "placeholder"
  title := "Trip"
  intent := "Plan a trip"
  requiredCapability := "planning"
  createdAt := Moment.utc DateTime.noon
  updatedAt := Moment.utc DateTime.noon

theorem sampleFields_valid : sampleFields.Valid := by decide

def sampleRoot : DraftTaskNode := ⟨sampleFields, sampleFields_valid⟩

def createSample (draftTreeId : String) : DraftCall :=
  .createTree draftTreeId (fun _ => DateTime.noon) "s1" [sampleRoot] none none

def nodeFields (draftTaskId : String) (parent : Option String) (orderIndex : ℕ) :
    DraftTaskFields :=
  { sampleFields with
    draftTaskId := draftTaskId
    draftTreeId := "t1"
    parentDraftTaskId := parent
    orderIndex := orderIndex }

def addNested (draftTaskId parent : String) (version : ℤ)
    (h : (nodeFields draftTaskId (some parent) 0).Valid) : DraftCall :=
  .addNode (fun _ => DateTime.noon) "s1" "t1" ⟨_, h⟩ version

/-- A tree with two roots: `n1` has the children `n3` and `n4` with one index, and `n4` has the
child `n5`. -/
def nestedCalls : List DraftCall :=
  [.createTree "t1" (fun _ => DateTime.noon) "s1"
      [⟨nodeFields "n1" none 0, by decide⟩, ⟨nodeFields "n2" none 1, by decide⟩] none none,
    addNested "n4" "n1" 1 (by decide), addNested "n3" "n1" 2 (by decide),
    addNested "n5" "n4" 3 (by decide)]

/-- **The second tree is refused, and is in the store.** -/
theorem refused_tree_stored :
    ((final step empty [createSample "t1"]).step (createSample "t2")).1 =
        .error (.nodeExists "n1") ∧
      ((final step empty [createSample "t1"]).step (createSample "t2")).2 ≠
        final step empty [createSample "t1"] := by
  refine ⟨by decide, fun heq => ?_⟩
  have hkeys := congrArg (fun s => s.trees.keys) heq
  exact absurd hkeys (by decide)

end InMemoryDraftTaskStore

end Taskweavn
