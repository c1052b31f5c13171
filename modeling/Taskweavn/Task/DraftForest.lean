import Taskweavn.Lib.Forest
import Taskweavn.Task.SqliteDraftStore

/-!
# The draft forest

Nothing in the draft store looks for a cycle, and nothing has to.  `Effect` says what a
call can do to the tables: create a tree with roots, add one node whose parent is there
already, or change nodes in their places.  No call moves a node, so the rows stand in an
order in which parents come first, and the library's `exists_root` makes a forest of them.

* `Forested`: the invariant, with the roots of a tree in different places.
* `version_final`: the version of a tree counts the calls that changed it.
-/

namespace Taskweavn

open Lib Py

/-- Where a row stands in its forest, and since when. -/
structure DraftPlace where
  sessionId : String
  draftTreeId : String
  draftTaskId : String
  parentDraftTaskId : Option String
  orderIndex : ℕ
  createdAt : String
deriving DecidableEq

namespace DraftPlace

def treeKey (p : DraftPlace) : String × String := (p.sessionId, p.draftTreeId)

def key (p : DraftPlace) : String × String × String := (p.sessionId, p.draftTreeId, p.draftTaskId)

/-- The parent is looked for in the same tree. -/
def parentKey (p : DraftPlace) : Option (String × String × String) :=
  p.parentDraftTaskId.map fun parent => (p.sessionId, p.draftTreeId, parent)

end DraftPlace

def DraftNodeRow.place (row : DraftNodeRow) : DraftPlace where
  sessionId := row.sessionId
  draftTreeId := row.draftTreeId
  draftTaskId := row.draftTaskId
  parentDraftTaskId := row.parentDraftTaskId
  orderIndex := row.orderIndex
  createdAt := row.createdAt

def nodePlace (node : DraftTaskNode) : DraftPlace := (DraftNodeRow.ofNode node).place

namespace SqliteDraftTaskStore

variable {s s' : SqliteDraftTaskStore} {sessionId draftTreeId draftTaskId : String}
  {node : DraftTaskNode} {nodes : List DraftTaskNode} {tree : DraftTaskTree} {row : DraftTreeRow}
  {clock : Clock} {now : DateTime} {expected : ℤ} {status : DraftTaskStatus}

/-- The places of all rows, in the order of the table. -/
def places (s : SqliteDraftTaskStore) : List DraftPlace := s.nodes.values.map DraftNodeRow.place

def rootOrders (places : List DraftPlace) (k : String × String) : List ℕ :=
  (places.filter fun p => p.treeKey = k ∧ p.parentDraftTaskId = none).map DraftPlace.orderIndex

theorem rootOrders_append (l l' : List DraftPlace) (k : String × String) :
    rootOrders (l ++ l') k = rootOrders l k ++ rootOrders l' k := by
  rw [rootOrders, List.filter_append, List.map_append]
  rfl

theorem rootOrders_of_ne {l : List DraftPlace} {k : String × String}
    (h : ∀ p ∈ l, p.treeKey ≠ k) : rootOrders l k = [] := by
  rw [rootOrders, List.map_eq_nil_iff, List.filter_eq_nil_iff]
  intro p hp
  simp [h p hp]

/-! ### Writing rows -/

theorem mem_places {p : DraftPlace} :
    p ∈ s.places ↔ ∃ row, s.nodes.get? (p.sessionId, p.draftTaskId) = some row ∧ row.place = p := by
  rw [places, List.mem_map]
  constructor
  · rintro ⟨row, hrow, rfl⟩
    obtain ⟨k, hk⟩ := Dict.mem_values.mp hrow
    have hkey := (s.nodes_ok k row hk).1
    exact ⟨row, by rw [← hkey] at hk; exact hk, rfl⟩
  · rintro ⟨row, hrow, rfl⟩
    exact ⟨row, Dict.mem_values.mpr ⟨_, hrow⟩, rfl⟩

theorem places_putNode_new (h : s.nodes.get? (node.1.sessionId, node.1.draftTaskId) = none) :
    (s.putNode node).places = s.places ++ [nodePlace node] := by
  rw [places, putNode_nodes, Dict.values_set_of_none h, List.map_append]
  rfl

/-- A row of the table stands where the node does. -/
def Stands (s : SqliteDraftTaskStore) (node : DraftTaskNode) : Prop :=
  ∃ row, s.nodes.get? (node.1.sessionId, node.1.draftTaskId) = some row ∧
    row.place = nodePlace node

theorem places_putNode (h : s.Stands node) : (s.putNode node).places = s.places := by
  obtain ⟨row, hrow, hplace⟩ := h
  exact Dict.map_values_set hrow hplace.symm

theorem stands_iff : s.Stands node ↔ nodePlace node ∈ s.places :=
  (mem_places (p := nodePlace node)).symm

theorem insertNode_ok {taken : DraftStoreError} (h : s.insertNode taken node = .ok s') :
    s' = s.putNode node ∧ s.nodes.get? (node.1.sessionId, node.1.draftTaskId) = none := by
  obtain ⟨_, -, h⟩ := bind_eq_ok.mp h
  obtain ⟨_, -, h⟩ := bind_eq_ok.mp h
  obtain ⟨_, hfree, h⟩ := bind_eq_ok.mp h
  cases h
  exact ⟨rfl, by simpa using hfree⟩

theorem updateRow_ok (hn : s.Stands node) (h : s.updateRow node = .ok s') :
    s' = s.putNode node := by
  obtain ⟨row, hrow, -⟩ := hn
  obtain ⟨_, -, h⟩ := bind_eq_ok.mp h
  obtain ⟨_, -, h⟩ := bind_eq_ok.mp h
  rw [hrow, if_pos (show (some row).isSome = true from rfl)] at h
  cases h
  rfl

theorem insertRoots_ok : ∀ {nodes : List DraftTaskNode} {s s' : SqliteDraftTaskStore},
    s.insertRoots nodes = .ok s' →
      s'.trees = s.trees ∧ s'.places = s.places ++ nodes.map nodePlace := by
  intro nodes
  induction nodes with
  | nil =>
    intro s s' h
    cases h
    exact ⟨rfl, by rw [List.map_nil, List.append_nil]⟩
  | cons node nodes ih =>
    intro s s' h
    obtain ⟨s₁, hinsert, h⟩ := bind_eq_ok.mp h
    obtain ⟨rfl, hfree⟩ := insertNode_ok hinsert
    obtain ⟨htrees, hplaces⟩ := ih h
    refine ⟨by rw [htrees, putNode_trees], ?_⟩
    rw [hplaces, places_putNode_new hfree, List.map_cons, List.append_assoc]
    rfl

theorem foldl_insertMapping (mappings : List DraftToPublishedMapping) :
    ∀ s : SqliteDraftTaskStore, (mappings.foldl insertMapping s).trees = s.trees ∧
      (mappings.foldl insertMapping s).nodes = s.nodes := by
  induction mappings with
  | nil => intro s; exact ⟨rfl, rfl⟩
  | cons mapping mappings ih =>
    intro s
    obtain ⟨htrees, hnodes⟩ := ih (s.insertMapping mapping)
    rw [List.foldl_cons, htrees, hnodes, insertMapping]
    split <;> exact ⟨rfl, rfl⟩

/-! ### Reading rows -/

theorem exists_ofNode {row : DraftNodeRow} (h : row ∈ s.nodes.values) :
    ∃ node, row = .ofNode node := by
  obtain ⟨k, hk⟩ := Dict.mem_values.mp h
  exact (s.nodes_ok k row hk).2

theorem children_ok {parent : Option String}
    (h : s.children sessionId draftTreeId parent = .ok nodes) :
    nodes.map .ofNode = sortOn DraftNodeRow.childOrder (s.childRows sessionId draftTreeId parent) ∧
      ∀ node ∈ nodes, ReadsBack node := by
  have hread := readRows_ok (fun row hrow => exists_ofNode
    (List.mem_of_mem_filter (mem_sortOn.mp hrow))) h
  exact ⟨hread.1.symm, hread.2⟩

theorem listNodes_ok (h : s.listNodes sessionId draftTreeId = .ok nodes) :
    nodes.map .ofNode = sortOn DraftNodeRow.treeOrder (s.rowsOf sessionId draftTreeId) ∧
      ∀ node ∈ nodes, ReadsBack node := by
  obtain ⟨_, -, h⟩ := bind_eq_ok.mp h
  have hread := readRows_ok (fun row hrow => exists_ofNode
    (List.mem_of_mem_filter (mem_sortOn.mp hrow))) h
  exact ⟨hread.1.symm, hread.2⟩

theorem stands_of_listNodes (h : s.listNodes sessionId draftTreeId = .ok nodes) (hn : node ∈ nodes)
    : s.Stands node := by
  have hrow : DraftNodeRow.ofNode node ∈ s.rowsOf sessionId draftTreeId := by
    have hsorted : DraftNodeRow.ofNode node ∈
        sortOn DraftNodeRow.treeOrder (s.rowsOf sessionId draftTreeId) := by
      rw [← (listNodes_ok h).1]
      exact List.mem_map_of_mem hn
    exact mem_sortOn.mp hsorted
  exact stands_iff.mpr (List.mem_map_of_mem (List.mem_of_mem_filter hrow))

theorem getNode_ok (h : s.getNode sessionId draftTaskId = .ok (some node)) :
    s.nodes.get? (sessionId, draftTaskId) = some (.ofNode node) ∧ ReadsBack node := by
  rw [getNode] at h
  cases hget : s.nodes.get? (sessionId, draftTaskId) with
  | none =>
    rw [hget] at h
    cases h
  | some row =>
    obtain ⟨-, node', rfl⟩ := s.nodes_ok _ row hget
    simp only [hget, nodeFromRow_ofNode] at h
    by_cases hread : ReadsBack node'
    · rw [if_pos hread] at h
      cases h
      exact ⟨rfl, hread⟩
    · rw [if_neg hread] at h
      cases h

theorem readTree_ok (h : s.readTree row = .ok tree) :
    (rootOrders s.places row.key).Nodup ∧ tree.1.version = row.version := by
  obtain ⟨roots, hroots, h⟩ := bind_eq_ok.mp h
  obtain ⟨hrows, -⟩ := children_ok hroots
  rw [treeFromRow] at h
  split at h
  · next sorted createdAt updatedAt hsort _ _ =>
    rw [sortNodes_eq_ok hsort] at h
    generalize hcopy : copyTree _ = copied at h
    cases copied with
    | error e => cases h
    | ok tree' =>
      cases h
      have hfields := copyTree_eq_ok.mp hcopy
      have horders := tree.2.orders
      rw [hfields] at horders ⊢
      refine ⟨?_, rfl⟩
      have hmap : roots.map (fun node => node.1.orderIndex) =
          (roots.map DraftNodeRow.ofNode).map DraftNodeRow.orderIndex := by
        rw [List.map_map]
        rfl
      have hnodup := ((sortOn_perm nodeKey roots).map
        (fun node : DraftTaskNode => node.1.orderIndex)).nodup_iff.mp horders
      rw [hmap, hrows] at hnodup
      have hplaces : rootOrders s.places row.key =
          (s.childRows row.sessionId row.draftTreeId none).map DraftNodeRow.orderIndex := by
        rw [rootOrders, places, List.filter_map, List.map_map, childRows]
        refine congrArg (List.map DraftNodeRow.orderIndex) (List.filter_congr fun r _ => ?_)
        refine decide_eq_decide.mpr ?_
        simp [DraftPlace.treeKey, DraftNodeRow.place, DraftTreeRow.key, and_assoc]
      rw [hplaces]
      exact ((sortOn_perm _ _).map _).nodup_iff.mp hnodup
  · cases h

theorem requireTree_ok (h : s.requireTree sessionId draftTreeId = .ok row) :
    s.trees.get? (sessionId, draftTreeId) = some row := by
  rw [requireTree] at h
  split at h
  · next row' hrow => rw [hrow, Except.ok.inj h]
  · cases h

/-! ### What a call can do -/

/-- A row that is one version on. -/
def Bumped (s s' : SqliteDraftTaskStore) (k : String × String) : Prop :=
  ∃ row row', s.trees.get? k = some row ∧ row'.version = row.version + 1 ∧
    s'.trees = s.trees.set k row'

/-- What a call makes of the tables, with the tree that it changes. -/
inductive Effect (s s' : SqliteDraftTaskStore) : Option (String × String) → Prop
  | kept (same : s' = s) : Effect s s' none
  | created (k : String × String) (row : DraftTreeRow) (roots : List DraftPlace)
      (free : s.trees.get? k = none) (version : row.version = 1)
        (trees : s'.trees = s.trees.set k row)
      (nodes : s'.places = s.places ++ roots)
      (inTree : ∀ p ∈ roots, p.treeKey = k ∧ p.parentDraftTaskId = none)
      (orders : (roots.map DraftPlace.orderIndex).Nodup) : Effect s s' none
  | grown (p : DraftPlace) (trees : Bumped s s' p.treeKey) (nodes : s'.places = s.places ++ [p])
      (parent : ∀ q, p.parentKey = some q → q ∈ s.places.map DraftPlace.key)
      (created : ∃ d : DateTime, p.createdAt = d.isoformat)
      (orders : (rootOrders s'.places p.treeKey).Nodup) : Effect s s' (some p.treeKey)
  | changed (k : String × String) (trees : Bumped s s' k) (nodes : s'.places = s.places) :
      Effect s s' (some k)

theorem bumpTree_ok (h : s.bumpTree sessionId draftTreeId now = .ok (tree, s')) :
    Bumped s s' (sessionId, draftTreeId) ∧ s'.nodes = s.nodes ∧
      (rootOrders s'.places (sessionId, draftTreeId)).Nodup := by
  obtain ⟨row, hrow, h⟩ := bind_eq_ok.mp h
  obtain ⟨_, -, h⟩ := bind_eq_ok.mp h
  obtain ⟨tree', hread, h⟩ := bind_eq_ok.mp h
  cases h
  have hget := requireTree_ok hrow
  have hkey : row.key = (sessionId, draftTreeId) := s.trees_ok _ row hget
  refine ⟨⟨row, { row with version := row.version + 1, updatedAt := now.isoformat }, hget, rfl, ?_⟩,
    rfl, ?_⟩
  · rw [← hkey]
    rfl
  · rw [← hkey]
    exact (readTree_ok hread).1

theorem effect_createTree {roots : List DraftTaskNode} {title summary : Option String}
    (h : s.createTree draftTreeId clock sessionId roots title summary = .ok (tree, s')) :
    Effect s s' none := by
  obtain ⟨tree', hcreated, h⟩ := bind_eq_ok.mp h
  obtain ⟨s₁, hinsert, h⟩ := bind_eq_ok.mp h
  obtain ⟨s₂, hroots, h⟩ := bind_eq_ok.mp h
  cases h
  obtain ⟨_, -, hinsert⟩ := bind_eq_ok.mp hinsert
  obtain ⟨_, hfree, hinsert⟩ := bind_eq_ok.mp hinsert
  cases hinsert
  obtain ⟨htrees, hplaces⟩ := insertRoots_ok hroots
  have hversion : tree.1.version = 1 := by
    obtain ⟨normalized, -, hcreated⟩ := bind_eq_ok.mp hcreated
    cases normalized with
    | nil => cases hcreated
    | cons first rest =>
      obtain ⟨sorted, -, hcreated⟩ := bind_eq_ok.mp hcreated
      rw [copyTree_eq_ok.mp hcreated]
  refine Effect.created (tree.1.sessionId, tree.1.draftTreeId) (.ofTree tree)
    (tree.1.rootNodes.map nodePlace) (by simpa using hfree) hversion (by rw [htrees]; rfl)
    (by rw [hplaces]; rfl) ?_ ?_
  · intro p hp
    obtain ⟨root, hroot, rfl⟩ := List.mem_map.mp hp
    obtain ⟨hsession, htree, hparent⟩ := tree.2.roots root hroot
    exact ⟨Prod.ext hsession htree, hparent⟩
  · rw [List.map_map]
    exact tree.2.orders

theorem checkParent_ok {missing : String → DraftStoreError} {parent : Option String} {u : Unit}
    (h : s.checkParent sessionId draftTreeId missing parent = .ok u) {p : String}
    (hp : parent = some p) :
    (sessionId, draftTreeId, p) ∈ s.places.map DraftPlace.key := by
  subst hp
  rw [checkParent] at h
  split at h
  · cases h
  · cases h
  · next node hget =>
    split at h
    · next htree =>
      have hrow := (getNode_ok hget).1
      have hkey := (s.nodes_ok _ _ hrow).1
      obtain ⟨hsession, hid⟩ := Prod.mk.inj hkey
      refine List.mem_map.mpr ⟨nodePlace node,
        List.mem_map_of_mem (Dict.mem_values.mpr ⟨_, hrow⟩), ?_⟩
      exact Prod.ext hsession (Prod.ext htree hid)
    · cases h

theorem effect_addNode {added : DraftTaskNode}
    (h : s.addNode clock sessionId draftTreeId node expected = .ok (added, s')) :
    Effect s s' (some (sessionId, draftTreeId)) := by
  obtain ⟨normalized, hadded, h⟩ := bind_eq_ok.mp h
  obtain ⟨s₁, hinsert, h⟩ := bind_eq_ok.mp h
  obtain ⟨bumped, hbump, h⟩ := bind_eq_ok.mp h
  cases h
  obtain ⟨rfl, hfree⟩ := insertNode_ok hinsert
  obtain ⟨⟨row, row', hrow, hversion, htrees⟩, hnodes, horders⟩ := bumpTree_ok hbump
  obtain ⟨_, -, hadded⟩ := bind_eq_ok.mp hadded
  obtain ⟨_, -, hadded⟩ := bind_eq_ok.mp hadded
  obtain ⟨_, -, hadded⟩ := bind_eq_ok.mp hadded
  obtain ⟨_, -, hadded⟩ := bind_eq_ok.mp hadded
  obtain ⟨_, hparent, hadded⟩ := bind_eq_ok.mp hadded
  have hfields := copyNode_eq_ok.mp hadded
  have hplaces : bumped.2.places = s.places ++ [nodePlace added] := by
    rw [places, hnodes]
    exact places_putNode_new hfree
  have hplace : nodePlace added = { nodePlace node with
      sessionId := sessionId, draftTreeId := draftTreeId, createdAt := (clock 0).isoformat } := by
    rw [nodePlace, DraftNodeRow.ofNode, hfields]
    rfl
  have hkey : (nodePlace added).treeKey = (sessionId, draftTreeId) := by
    rw [hplace]
    rfl
  have hparents : ∀ q, (nodePlace added).parentKey = some q → q ∈ s.places.map DraftPlace.key := by
    intro q hq
    rw [hplace] at hq
    obtain ⟨p, hp, rfl⟩ := Option.map_eq_some_iff.mp hq
    exact checkParent_ok hparent hp
  rw [← hkey] at hrow htrees horders ⊢
  exact Effect.grown (nodePlace added) ⟨row, row', hrow, hversion, htrees⟩ hplaces hparents
    ⟨clock 0, by rw [hplace]⟩ horders

theorem nodePlace_markedNode {marked : DraftTaskNode}
    (h : markedNode status node now = .ok marked) :
    nodePlace marked = nodePlace node := by
  rw [nodePlace, DraftNodeRow.ofNode, copyNode_eq_ok.mp h]
  rfl

theorem nodePlace_editedNode {updated : DraftTaskNode} {patch : TaskNodePatch}
    (h : editedNode node draftTaskId patch expected now = .ok updated) :
    nodePlace updated = nodePlace node := by
  obtain ⟨_, -, h⟩ := bind_eq_ok.mp h
  obtain ⟨_, -, h⟩ := bind_eq_ok.mp h
  obtain ⟨_, -, h⟩ := bind_eq_ok.mp h
  obtain ⟨_, -, h⟩ := bind_eq_ok.mp h
  obtain ⟨status, -, h⟩ := bind_eq_ok.mp h
  rw [nodePlace, DraftNodeRow.ofNode, copyNode_eq_ok.mp h]
  rfl

theorem requireNode_ok (h : s.requireNode sessionId draftTaskId = .ok node) :
    s.nodes.get? (sessionId, draftTaskId) = some (.ofNode node) ∧ s.Stands node := by
  rw [requireNode] at h
  split at h
  · cases h
  · cases h
  · next node' hget =>
    cases h
    have hrow := (getNode_ok hget).1
    refine ⟨hrow, stands_iff.mpr (List.mem_map_of_mem (Dict.mem_values.mpr ⟨_, hrow⟩))⟩

theorem effect_updateNode {patch : TaskNodePatch} {updated : DraftTaskNode}
    (h : s.updateNode clock sessionId draftTaskId patch expected = .ok (updated, s')) :
    ∃ row, s.nodes.get? (sessionId, draftTaskId) = some row ∧
      Effect s s' (some (sessionId, row.draftTreeId)) := by
  obtain ⟨node, hnode, h⟩ := bind_eq_ok.mp h
  obtain ⟨updated', hedit, h⟩ := bind_eq_ok.mp h
  obtain ⟨s₁, hwrite, h⟩ := bind_eq_ok.mp h
  obtain ⟨bumped, hbump, h⟩ := bind_eq_ok.mp h
  cases h
  obtain ⟨hrow, hstands⟩ := requireNode_ok hnode
  have hupdated : s.Stands updated := by
    rw [stands_iff, nodePlace_editedNode hedit]
    exact stands_iff.mp hstands
  obtain rfl := updateRow_ok hupdated hwrite
  obtain ⟨htrees, hnodes, -⟩ := bumpTree_ok hbump
  refine ⟨.ofNode node, hrow, Effect.changed _ htrees ?_⟩
  rw [places, hnodes]
  exact places_putNode hupdated

/-- **The loop over the marks** leaves every row in its place. -/
theorem markRows_ok : ∀ {nodes : List DraftTaskNode}
    {i : ℕ} {s s' : SqliteDraftTaskStore}, (∀ node ∈ nodes, s.Stands node) →
      markRows status clock i nodes s = .ok s' → s'.trees = s.trees ∧ s'.places = s.places := by
  intro nodes
  induction nodes with
  | nil =>
    intro i s s' _ h
    cases h
    exact ⟨rfl, rfl⟩
  | cons node nodes ih =>
    intro i s s' hall h
    obtain ⟨marked, hmark, h⟩ := bind_eq_ok.mp h
    obtain ⟨s₁, hwrite, h⟩ := bind_eq_ok.mp h
    have hmarked : s.Stands marked := by
      rw [stands_iff, nodePlace_markedNode hmark]
      exact stands_iff.mp (hall node List.mem_cons_self)
    obtain rfl := updateRow_ok hmarked hwrite
    have hplaces := places_putNode hmarked
    have hrest : ∀ n ∈ nodes, (s.putNode marked).Stands n := by
      intro n hn
      rw [stands_iff, hplaces]
      exact stands_iff.mp (hall n (List.mem_cons_of_mem node hn))
    obtain ⟨htrees, hsame⟩ := ih hrest h
    exact ⟨htrees, hsame.trans hplaces⟩

theorem acceptableNodes_listed (h : s.acceptableNodes sessionId draftTreeId expected = .ok nodes) :
    s.listNodes sessionId draftTreeId = .ok nodes := by
  obtain ⟨_, -, h⟩ := bind_eq_ok.mp h
  obtain ⟨_, -, h⟩ := bind_eq_ok.mp h
  obtain ⟨nodes', hlist, h⟩ := bind_eq_ok.mp h
  obtain ⟨_, -, h⟩ := bind_eq_ok.mp h
  cases h
  exact hlist

theorem publishableNodes_listed {mappings : List DraftToPublishedMapping} {expected : Option ℤ}
    (h : s.publishableNodes sessionId draftTreeId mappings expected = .ok nodes) :
    s.listNodes sessionId draftTreeId = .ok nodes := by
  obtain ⟨_, -, h⟩ := bind_eq_ok.mp h
  obtain ⟨_, -, h⟩ := bind_eq_ok.mp h
  obtain ⟨nodes', hlist, h⟩ := bind_eq_ok.mp h
  obtain ⟨_, -, h⟩ := bind_eq_ok.mp h
  obtain ⟨_, -, h⟩ := bind_eq_ok.mp h
  cases h
  exact hlist

theorem effect_marks {s'' : SqliteDraftTaskStore} {p : DraftTaskNode → Bool}
    (mappings : List DraftToPublishedMapping)
    (hlist : s.listNodes sessionId draftTreeId = .ok nodes)
    (hmark : markRows status clock 0 (nodes.filter p) s = .ok s')
    (hbump : (mappings.foldl insertMapping s').bumpTree sessionId draftTreeId now =
      .ok (tree, s'')) :
    Effect s s'' (some (sessionId, draftTreeId)) := by
  obtain ⟨htrees, hplaces⟩ := markRows_ok
    (fun node hn => stands_of_listNodes hlist (List.mem_of_mem_filter hn)) hmark
  obtain ⟨hmtrees, hmnodes⟩ := foldl_insertMapping mappings s'
  obtain ⟨⟨row, row', hrow, hversion, hset⟩, hnodes, -⟩ := bumpTree_ok hbump
  rw [hmtrees, htrees] at hrow hset
  refine Effect.changed _ ⟨row, row', hrow, hversion, hset⟩ ?_
  rw [places, hnodes, hmnodes]
  exact hplaces

/-- The tree that a call changes when it succeeds. -/
def target (s : SqliteDraftTaskStore) : DraftCall → Option (String × String)
  | .addNode _ sessionId draftTreeId _ _ => some (sessionId, draftTreeId)
  | .updateNode _ sessionId draftTaskId _ _ =>
    (s.nodes.get? (sessionId, draftTaskId)).map fun row => (sessionId, row.draftTreeId)
  | .markAccepted _ sessionId draftTreeId _ => some (sessionId, draftTreeId)
  | .markPublished _ sessionId draftTreeId _ _ => some (sessionId, draftTreeId)
  | _ => none

/-- The tree that a call has changed. -/
def hit (s : SqliteDraftTaskStore) (call : DraftCall) : Option (String × String) :=
  if (s.step call).1.isOk = true then s.target call else none

theorem transacted_cases {α : Type} (s : SqliteDraftTaskStore) (wrap : α → DraftAnswer)
    (r : Except DraftStoreError (α × SqliteDraftTaskStore)) :
    ((s.transacted wrap r).1.isOk = false ∧ (s.transacted wrap r).2 = s) ∨
      ∃ a s', r = .ok (a, s') ∧ (s.transacted wrap r).1.isOk = true ∧
        (s.transacted wrap r).2 = s' := by
  cases r with
  | error e => exact .inl ⟨rfl, rfl⟩
  | ok r => exact .inr ⟨r.1, r.2, rfl, rfl, rfl⟩

/-- **What a call can do**, in one of the ways of `Effect`. -/
theorem effect_step (s : SqliteDraftTaskStore) (call : DraftCall) :
    Effect s (s.step call).2 (s.hit call) := by
  rw [hit]
  cases call with
  | createTree draftTreeId clock sessionId roots title summary =>
    have htarget : s.target (.createTree draftTreeId clock sessionId roots title summary) = none :=
      rfl
    rw [htarget, ite_self, step]
    rcases transacted_cases s DraftAnswer.tree _ with
      ⟨-, hsame⟩ | ⟨tree, s', hr, -, hs'⟩
    · rw [hsame]
      exact Effect.kept rfl
    · rw [hs']
      exact effect_createTree hr
  | addNode clock sessionId draftTreeId node expected =>
    rw [target, step]
    rcases transacted_cases s DraftAnswer.node _ with
      ⟨hno, hsame⟩ | ⟨added, s', hr, hok, hs'⟩
    · rw [hno, hsame]
      exact Effect.kept rfl
    · rw [if_pos hok, hs']
      exact effect_addNode hr
  | updateNode clock sessionId draftTaskId patch expected =>
    rw [target, step]
    rcases transacted_cases s DraftAnswer.node _ with
      ⟨hno, hsame⟩ | ⟨updated, s', hr, hok, hs'⟩
    · rw [hno, hsame]
      exact Effect.kept rfl
    · obtain ⟨row, hrow, heffect⟩ := effect_updateNode hr
      rw [if_pos hok, hs', hrow]
      exact heffect
  | markAccepted clock sessionId draftTreeId expected =>
    rw [target, step]
    rcases transacted_cases s DraftAnswer.tree _ with
      ⟨hno, hsame⟩ | ⟨tree, s', hr, hok, hs'⟩
    · rw [hno, hsame]
      exact Effect.kept rfl
    · rw [if_pos hok, hs']
      obtain ⟨nodes, hnodes, hr⟩ := bind_eq_ok.mp hr
      obtain ⟨s₁, hmark, hbump⟩ := bind_eq_ok.mp hr
      exact effect_marks [] (acceptableNodes_listed hnodes) hmark hbump
  | markPublished clock sessionId draftTreeId mappings expected =>
    rw [target, step]
    rcases transacted_cases s DraftAnswer.tree _ with
      ⟨hno, hsame⟩ | ⟨tree, s', hr, hok, hs'⟩
    · rw [hno, hsame]
      exact Effect.kept rfl
    · rw [if_pos hok, hs']
      obtain ⟨nodes, hnodes, hr⟩ := bind_eq_ok.mp hr
      obtain ⟨s₁, hmark, hbump⟩ := bind_eq_ok.mp hr
      exact effect_marks mappings (publishableNodes_listed hnodes) hmark hbump
  | _ =>
    simp only [target, ite_self]
    exact Effect.kept rfl

/-! ### The invariant -/

/-- **The forest invariant**: parents come first, the roots of a tree are in different
places, and every node has its tree.  A node that was added carries the clock of the
store. -/
structure Forested (s : SqliteDraftTaskStore) : Prop where
  parentsFirst : ParentsFirst ∅ (links DraftPlace.key DraftPlace.parentKey s.places)
  orders : ∀ k, (rootOrders s.places k).Nodup
  trees : ∀ p ∈ s.places, (s.trees.get? p.treeKey).isSome = true
  utc : ∀ p ∈ s.places, p.parentDraftTaskId ≠ none → ∃ d : DateTime, p.createdAt = d.isoformat

theorem forested_empty : empty.Forested where
  parentsFirst := trivial
  orders _ := List.nodup_nil
  trees p hp := by cases hp
  utc p hp := by cases hp

theorem isSome_set {k k' : String × String} (h : s'.trees = s.trees.set k row)
    (hk : (s.trees.get? k').isSome = true ∨ k' = k) :
    (s'.trees.get? k').isSome = true := by
  rw [h, Dict.get?_set]
  split
  · rfl
  · next hne => exact hk.resolve_right fun heq => hne heq.symm

theorem Forested.effect {o : Option (String × String)} (hs : s.Forested) (h : Effect s s' o) :
    s'.Forested := by
  cases h with
  | kept same =>
    rw [same]
    exact hs
  | created k row roots free version trees nodes inTree orders =>
    have hnone : ∀ p ∈ s.places, p.treeKey ≠ k := by
      intro p hp heq
      have hsome := hs.trees p hp
      rw [heq, free] at hsome
      cases hsome
    refine ⟨?_, fun k' => ?_, fun p hp => ?_, fun p hp hparent => ?_⟩
    · rw [nodes, links, List.map_append, parentsFirst_append]
      refine ⟨hs.parentsFirst, parentsFirst_of_none fun e he => ?_⟩
      obtain ⟨p, hp, rfl⟩ := List.mem_map.mp he
      show p.parentDraftTaskId.map _ = none
      rw [(inTree p hp).2, Option.map_none]
    · rw [nodes, rootOrders_append]
      by_cases hk : k' = k
      · subst hk
        rw [rootOrders_of_ne hnone, List.nil_append]
        exact orders.sublist (List.filter_sublist.map _)
      · rw [rootOrders_of_ne fun p hp heq => hk (heq.symm.trans (inTree p hp).1), List.append_nil]
        exact hs.orders k'
    · rw [nodes, List.mem_append] at hp
      refine isSome_set trees ?_
      exact hp.imp (hs.trees p) fun hp => (inTree p hp).1
    · rw [nodes, List.mem_append] at hp
      rcases hp with hp | hp
      · exact hs.utc p hp hparent
      · exact absurd (inTree p hp).2 hparent
  | grown p trees nodes parent created orders =>
    obtain ⟨row, row', hrow, -, hset⟩ := trees
    refine ⟨?_, fun k' => ?_, fun q hq => ?_, fun q hq hparent => ?_⟩
    · rw [nodes, links, List.map_append, parentsFirst_append]
      refine ⟨hs.parentsFirst, fun q hq => .inr ?_, trivial⟩
      rw [Set.mem_ofPred_eq, ← links, map_fst_links]
      exact parent q hq
    · by_cases hk : k' = p.treeKey
      · subst hk
        exact orders
      · rw [nodes, rootOrders_append, rootOrders_of_ne (l := [p]) ?_, List.append_nil]
        · exact hs.orders k'
        · intro q hq heq
          rw [List.mem_singleton.mp hq] at heq
          exact hk heq.symm
    · rw [nodes, List.mem_append, List.mem_singleton] at hq
      refine isSome_set hset ?_
      exact hq.imp (hs.trees q) fun hq => by rw [hq]
    · rw [nodes, List.mem_append, List.mem_singleton] at hq
      rcases hq with hq | rfl
      · exact hs.utc q hq hparent
      · exact created
  | changed k trees nodes =>
    obtain ⟨row, row', hrow, -, hset⟩ := trees
    refine ⟨?_, ?_, fun q hq => ?_, ?_⟩
    · rw [nodes]
      exact hs.parentsFirst
    · rw [nodes]
      exact hs.orders
    · rw [nodes] at hq
      exact isSome_set hset (.inl (hs.trees q hq))
    · rw [nodes]
      exact hs.utc

theorem forested_final (calls : List DraftCall) : (final step empty calls).Forested :=
  final_invariant (I := Forested) (A := fun _ => True)
    (fun s call hs _ => hs.effect (effect_step s call)) calls empty forested_empty
    fun _ _ => trivial

/-! ### Versions -/

/-- The version of a tree; one for a tree that is to be created. -/
def versionOf (s : SqliteDraftTaskStore) (k : String × String) : ℕ :=
  ((s.trees.get? k).map DraftTreeRow.version).getD 1

theorem versionOf_effect {o : Option (String × String)} (h : Effect s s' o) (k : String × String) :
    s'.versionOf k = (if o = some k then 1 else 0) + s.versionOf k := by
  have hbumped : ∀ {k'}, Bumped s s' k' →
      s'.versionOf k = (if some k' = some k then 1 else 0) + s.versionOf k := by
    rintro k' ⟨row, row', hrow, hversion, hset⟩
    rw [versionOf, versionOf, hset, Dict.get?_set]
    by_cases hk : k' = k
    · subst hk
      rw [if_pos rfl, if_pos rfl, hrow, Option.map_some, Option.map_some, Option.getD_some,
        Option.getD_some, hversion, Nat.add_comm]
    · rw [if_neg hk, if_neg fun heq => hk (Option.some.inj heq), Nat.zero_add]
  cases h with
  | kept same => rw [same, if_neg (by simp), Nat.zero_add]
  | created k' row roots free version trees nodes inTree orders =>
    rw [if_neg (by simp), Nat.zero_add, versionOf, versionOf, trees, Dict.get?_set]
    by_cases hk : k' = k
    · subst hk
      rw [if_pos rfl, free, Option.map_some, Option.map_none, Option.getD_some, Option.getD_none,
        version]
    · rw [if_neg hk]
  | grown p trees => exact hbumped trees
  | changed k' trees => exact hbumped trees

/-- How many calls of a run have changed a tree. -/
def changes (k : String × String) : SqliteDraftTaskStore → List DraftCall → ℕ
  | _, [] => 0
  | s, call :: calls => (if s.hit call = some k then 1 else 0) + changes k (s.step call).2 calls

theorem versionOf_final (k : String × String) : ∀ (calls : List DraftCall)
    (s : SqliteDraftTaskStore),
    (final step s calls).versionOf k = changes k s calls + s.versionOf k := by
  intro calls
  induction calls with
  | nil => intro s; exact (Nat.zero_add _).symm
  | cons call calls ih =>
    intro s
    rw [final_cons, ih, versionOf_effect (effect_step s call), changes]
    omega

/-- **The version of a tree** counts the calls that have changed it. -/
theorem version_final (calls : List DraftCall) {k : String × String}
    (h : (final step empty calls).trees.get? k = some row) :
    row.version = changes k empty calls + 1 := by
  have hversion := versionOf_final k calls empty
  rw [versionOf, h] at hversion
  exact hversion

/-! ### Rows and their parents -/

def rowKey (row : DraftNodeRow) : String × String × String := row.place.key

def rowParent (row : DraftNodeRow) : Option (String × String × String) := row.place.parentKey

theorem nodup_rowKey (s : SqliteDraftTaskStore) : (s.nodes.values.map rowKey).Nodup := by
  refine List.Nodup.of_map (fun k => (k.1, k.2.2)) ?_
  rw [List.map_map]
  exact Dict.nodup_map_values fun k row hrow => (s.nodes_ok k row hrow).1

theorem Forested.forest (hs : s.Forested) :
    Forest rowKey rowParent s.nodes.values where
  nodup := s.nodup_rowKey
  parentsFirst := by
    have hfirst := hs.parentsFirst
    rw [places, links, List.map_map] at hfirst
    exact hfirst

theorem Forested.parent (hs : s.Forested) {row : DraftNodeRow} (hrow : row ∈ s.nodes.values)
    {p : String} (hp : row.parentDraftTaskId = some p) :
    ∃ parent, s.nodes.get? (row.sessionId, p) = some parent ∧
      parent.draftTreeId = row.draftTreeId := by
  obtain ⟨l₁, l₂, hsplit⟩ := List.append_of_mem hrow
  have hfirst := hs.forest.parentsFirst
  rw [hsplit, links, List.map_append, parentsFirst_append] at hfirst
  have hmem := hfirst.2.1 (row.sessionId, row.draftTreeId, p) (by
    show row.parentDraftTaskId.map _ = _
    rw [hp]
    rfl)
  rw [Set.empty_union, Set.mem_ofPred_eq, ← links, map_fst_links] at hmem
  obtain ⟨parent, hparent, hkey⟩ := List.mem_map.mp hmem
  obtain ⟨hsession, hrest⟩ := Prod.mk.inj hkey
  obtain ⟨htree, hid⟩ := Prod.mk.inj hrest
  obtain ⟨k, hk⟩ :=
    Dict.mem_values.mp (hsplit ▸ List.mem_append_left _ hparent : parent ∈ s.nodes.values)
  have hpk := (s.nodes_ok k parent hk).1
  refine ⟨parent, ?_, htree⟩
  rw [← hsession, ← hid]
  rw [← hpk] at hk
  exact hk

end SqliteDraftTaskStore

end Taskweavn
