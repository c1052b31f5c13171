import Taskweavn.Task.DraftModels

/-!
# The SQLite draft store

Three tables: a row for each tree, for each node, and for each mapping to a published
task.  A node is validated before it is written, so every row is the row of a node; when
it is read it is validated again, and a time that cannot be parsed makes the row
unreadable (`nodeFromRow_ofNode`).  A tree has no column for its roots: they are read from
the table of nodes.

An operation writes in one transaction.  It gives its answer with the store that it
leaves, or an error, and then `step` keeps the store as it was.

The two JSON columns of a node are given by the lists that they stand for.
-/

namespace Taskweavn

open Lib Py

/-! ### Rows -/

structure DraftTreeRow where
  sessionId : String
  draftTreeId : String
  title : Option String
  summary : Option String
  createdBy : String
  version : ℕ
  createdAt : String
  updatedAt : String
deriving DecidableEq

structure DraftNodeRow where
  sessionId : String
  draftTreeId : String
  draftTaskId : String
  parentDraftTaskId : Option String
  orderIndex : ℕ
  title : String
  intent : String
  summary : Option String
  instructions : Option String
  acceptanceCriteria : List String
  requiredCapability : String
  constraints : List String
  rationale : Option String
  status : String
  version : ℕ
  createdBy : String
  createdAt : String
  updatedAt : String
deriving DecidableEq

structure DraftMappingRow where
  sessionId : String
  draftTreeId : String
  draftTaskId : String
  taskId : String
  publishedAt : String
  publishCommandId : String
deriving DecidableEq

namespace DraftTreeRow

/-- `PRIMARY KEY (session_id, draft_tree_id)` -/
def key (row : DraftTreeRow) : String × String := (row.sessionId, row.draftTreeId)

def ofTree (tree : DraftTaskTree) : DraftTreeRow where
  sessionId := tree.1.sessionId
  draftTreeId := tree.1.draftTreeId
  title := tree.1.title
  summary := tree.1.summary
  createdBy := tree.1.createdBy
  version := tree.1.version
  createdAt := tree.1.createdAt.isoformat
  updatedAt := tree.1.updatedAt.isoformat

end DraftTreeRow

namespace DraftNodeRow

/-- `PRIMARY KEY (session_id, draft_task_id)` -/
def key (row : DraftNodeRow) : String × String := (row.sessionId, row.draftTaskId)

/-- `_node_values` -/
def ofNode (node : DraftTaskNode) : DraftNodeRow where
  sessionId := node.1.sessionId
  draftTreeId := node.1.draftTreeId
  draftTaskId := node.1.draftTaskId
  parentDraftTaskId := node.1.parentDraftTaskId
  orderIndex := node.1.orderIndex
  title := node.1.title
  intent := node.1.intent
  summary := node.1.summary
  instructions := node.1.instructions
  acceptanceCriteria := node.1.acceptanceCriteria
  requiredCapability := node.1.requiredCapability
  constraints := node.1.constraints
  rationale := node.1.rationale
  status := node.1.status.text
  version := node.1.version
  createdBy := node.1.createdBy
  createdAt := node.1.createdAt.isoformat
  updatedAt := node.1.updatedAt.isoformat

/-- `ORDER BY order_index ASC, created_at ASC, draft_task_id ASC` -/
def childOrder (row : DraftNodeRow) : ℕ ×ₗ String ×ₗ String :=
  toLex (row.orderIndex, toLex (row.createdAt, row.draftTaskId))

/-- The same, after `COALESCE(parent_draft_task_id, '') ASC`. -/
def treeOrder (row : DraftNodeRow) : String ×ₗ ℕ ×ₗ String ×ₗ String :=
  toLex (row.parentDraftTaskId.getD "", row.childOrder)

/-- The columns, where they can be parsed. -/
def fields (row : DraftNodeRow) : Option DraftTaskFields := do
  let status ← DraftTaskStatus.ofText row.status
  let createdAt ← Moment.parse row.createdAt
  let updatedAt ← Moment.parse row.updatedAt
  return {
    draftTaskId := row.draftTaskId
    sessionId := row.sessionId
    draftTreeId := row.draftTreeId
    parentDraftTaskId := row.parentDraftTaskId
    orderIndex := row.orderIndex
    title := row.title
    intent := row.intent
    summary := row.summary
    instructions := row.instructions
    acceptanceCriteria := row.acceptanceCriteria
    requiredCapability := row.requiredCapability
    constraints := row.constraints
    rationale := row.rationale
    status := status
    version := row.version
    createdBy := row.createdBy
    createdAt := createdAt
    updatedAt := updatedAt }

end DraftNodeRow

namespace DraftMappingRow

/-- `PRIMARY KEY (session_id, draft_task_id, task_id)` -/
def key (row : DraftMappingRow) : String × String × String :=
  (row.sessionId, row.draftTaskId, row.taskId)

def ofMapping (mapping : DraftToPublishedMapping) : DraftMappingRow where
  sessionId := mapping.sessionId
  draftTreeId := mapping.draftTreeId
  draftTaskId := mapping.draftTaskId
  taskId := mapping.taskId
  publishedAt := mapping.publishedAt.isoformat
  publishCommandId := mapping.publishCommandId

/-- `ORDER BY published_at ASC, publish_command_id ASC, task_id ASC` -/
def draftOrder (row : DraftMappingRow) : String ×ₗ String ×ₗ String :=
  toLex (row.publishedAt, toLex (row.publishCommandId, row.taskId))

/-- `ORDER BY published_at ASC, publish_command_id ASC, draft_task_id ASC` -/
def taskOrder (row : DraftMappingRow) : String ×ₗ String ×ₗ String :=
  toLex (row.publishedAt, toLex (row.publishCommandId, row.draftTaskId))

end DraftMappingRow

/-! ### Reading rows -/

def nodeFromRow (row : DraftNodeRow) : Except DraftStoreError DraftTaskNode :=
  match row.fields with
  | none => .error .invalidRow
  | some f => if h : f.Valid then .ok ⟨f, h⟩ else .error .invalidRow

/-- `_tree_from_row`, with the roots that were read. -/
def treeFromRow (row : DraftTreeRow) (roots : List DraftTaskNode) :
    Except DraftStoreError DraftTaskTree :=
  match sortNodes roots, DateTime.fromisoformat row.createdAt,
      DateTime.fromisoformat row.updatedAt with
  | .ok sorted, some createdAt, some updatedAt =>
    (copyTree {
      draftTreeId := row.draftTreeId
      sessionId := row.sessionId
      title := row.title
      summary := row.summary
      rootNodes := sorted
      createdBy := row.createdBy
      version := row.version
      createdAt := createdAt
      updatedAt := updatedAt }).mapError fun _ => .invalidRow
  | _, _, _ => .error .invalidRow

def mappingFromRow (row : DraftMappingRow) : Except DraftStoreError DraftToPublishedMapping :=
  match Moment.parse row.publishedAt with
  | none => .error .invalidRow
  | some publishedAt =>
    if h : row.sessionId ≠ "" ∧ row.draftTreeId ≠ "" ∧ row.draftTaskId ≠ "" ∧ row.taskId ≠ "" ∧
        row.publishCommandId ≠ "" then
      .ok {
        sessionId := row.sessionId
        draftTreeId := row.draftTreeId
        draftTaskId := row.draftTaskId
        taskId := row.taskId
        publishedAt := publishedAt
        publishCommandId := row.publishCommandId
        texts_ok := h }
    else .error .invalidRow

/-- The times of a node can be read back. -/
def ReadsBack (node : DraftTaskNode) : Prop :=
  node.1.createdAt.WholeMinutes ∧ node.1.updatedAt.WholeMinutes

instance (node : DraftTaskNode) : Decidable (ReadsBack node) := inferInstanceAs (Decidable (_ ∧ _))

/-- **The row of a node reads back**, exactly if its times do. -/
theorem nodeFromRow_ofNode (node : DraftTaskNode) :
    nodeFromRow (.ofNode node) = if ReadsBack node then .ok node else .error .invalidRow := by
  have hfields : (DraftNodeRow.ofNode node).fields =
      if ReadsBack node then some node.1 else none := by
    rw [DraftNodeRow.fields]
    simp only [DraftNodeRow.ofNode, DraftTaskStatus.ofText_text, Moment.parse_text]
    by_cases hc : node.1.createdAt.WholeMinutes
    · by_cases hu : node.1.updatedAt.WholeMinutes
      · rw [if_pos hc, if_pos hu, if_pos (show ReadsBack node from ⟨hc, hu⟩)]
        rfl
      · rw [if_pos hc, if_neg hu, if_neg (show ¬ReadsBack node from fun h => hu h.2)]
        rfl
    · rw [if_neg hc, if_neg (show ¬ReadsBack node from fun h => hc h.1)]
      rfl
  rw [nodeFromRow, hfields]
  by_cases h : ReadsBack node
  · rw [if_pos h, if_pos h]
    exact dif_pos node.2
  · rw [if_neg h, if_neg h]

theorem mapM_nodeFromRow (nodes : List DraftTaskNode) :
    (nodes.map DraftNodeRow.ofNode).mapM nodeFromRow =
      if ∀ node ∈ nodes, ReadsBack node then .ok nodes else .error .invalidRow := by
  induction nodes with
  | nil => rfl
  | cons node nodes ih =>
    rw [List.map_cons, List.mapM_cons, nodeFromRow_ofNode, ih]
    by_cases hnode : ReadsBack node
    · by_cases hrest : ∀ n ∈ nodes, ReadsBack n
      · rw [if_pos hnode, if_pos hrest, if_pos (List.forall_mem_cons.mpr ⟨hnode, hrest⟩)]
        rfl
      · have hall : ¬∀ n ∈ node :: nodes, ReadsBack n :=
          fun h => hrest fun n hn => h n (List.mem_cons_of_mem node hn)
        rw [if_pos hnode, if_neg hrest, if_neg hall]
        rfl
    · have hall : ¬∀ n ∈ node :: nodes, ReadsBack n :=
        fun h => hnode (h node List.mem_cons_self)
      rw [if_neg hnode, if_neg hall]
      rfl

theorem mapM_sortOn_ofNode {κ : Type} [LinearOrder κ] (key : DraftNodeRow → κ)
    (nodes : List DraftTaskNode) :
    (sortOn key (nodes.map DraftNodeRow.ofNode)).mapM nodeFromRow =
      if ∀ node ∈ nodes, ReadsBack node then .ok (sortOn (fun node => key (.ofNode node)) nodes)
      else .error .invalidRow := by
  have hsort : sortOn key (nodes.map DraftNodeRow.ofNode) =
      (sortOn (fun node => key (.ofNode node)) nodes).map .ofNode :=
    (map_sortOn (f := DraftNodeRow.ofNode) fun _ _ _ _ => Iff.rfl).symm
  rw [hsort, mapM_nodeFromRow]
  simp only [mem_sortOn]

theorem exists_map_ofNode {rows : List DraftNodeRow}
    (h : ∀ row ∈ rows, ∃ node, row = .ofNode node) :
    ∃ nodes : List DraftTaskNode, rows = nodes.map .ofNode := by
  induction rows with
  | nil => exact ⟨[], rfl⟩
  | cons row rows ih =>
    obtain ⟨node, rfl⟩ := h row List.mem_cons_self
    obtain ⟨nodes, rfl⟩ := ih fun r hr => h r (List.mem_cons_of_mem _ hr)
    exact ⟨node :: nodes, rfl⟩

theorem readRows_ok {rows : List DraftNodeRow} {nodes : List DraftTaskNode}
    (hrows : ∀ row ∈ rows, ∃ node, row = .ofNode node) (h : rows.mapM nodeFromRow = .ok nodes) :
    rows = nodes.map .ofNode ∧ ∀ node ∈ nodes, ReadsBack node := by
  obtain ⟨nodes', rfl⟩ := exists_map_ofNode hrows
  rw [mapM_nodeFromRow] at h
  split at h
  · next hall =>
    cases h
    exact ⟨rfl, hall⟩
  · cases h

theorem mappingFromRow_ofMapping (mapping : DraftToPublishedMapping) :
    mappingFromRow (.ofMapping mapping) =
      if mapping.publishedAt.WholeMinutes then .ok mapping else .error .invalidRow := by
  rw [mappingFromRow]
  simp only [DraftMappingRow.ofMapping, Moment.parse_text]
  by_cases h : mapping.publishedAt.WholeMinutes
  · rw [if_pos h, if_pos h]
    exact dif_pos mapping.texts_ok
  · rw [if_neg h, if_neg h]

/-! ### The tables -/

structure SqliteDraftTaskStore where
  trees : Dict (String × String) DraftTreeRow := Dict.empty
  nodes : Dict (String × String) DraftNodeRow := Dict.empty
  mappings : Dict (String × String × String) DraftMappingRow := Dict.empty
  trees_ok : ∀ k row, trees.get? k = some row → row.key = k
  nodes_ok : ∀ k row, nodes.get? k = some row → row.key = k ∧ ∃ node, row = .ofNode node
  mappings_ok : ∀ k row, mappings.get? k = some row → row.key = k ∧ ∃ mapping, row =
    .ofMapping mapping

namespace SqliteDraftTaskStore

/-- A new database. -/
def empty : SqliteDraftTaskStore where
  trees_ok k row h := by cases h
  nodes_ok k row h := by cases h
  mappings_ok k row h := by cases h

def putTree (s : SqliteDraftTaskStore) (row : DraftTreeRow) : SqliteDraftTaskStore :=
  { s with
    trees := s.trees.set row.key row
    trees_ok := by
      intro k row' h
      rw [Dict.get?_set] at h
      split at h
      · next hk => rw [← Option.some.inj h, hk]
      · exact s.trees_ok k row' h }

/-- Write the row of a node. -/
def putNode (s : SqliteDraftTaskStore) (node : DraftTaskNode) : SqliteDraftTaskStore :=
  { s with
    nodes := s.nodes.set (DraftNodeRow.ofNode node).key (.ofNode node)
    nodes_ok := by
      intro k row' h
      rw [Dict.get?_set] at h
      split at h
      · next hk => exact ⟨by rw [← Option.some.inj h, hk], node, (Option.some.inj h).symm⟩
      · exact s.nodes_ok k row' h }

/-- Write the row of a mapping. -/
def putMapping (s : SqliteDraftTaskStore) (mapping : DraftToPublishedMapping) :
    SqliteDraftTaskStore :=
  { s with
    mappings := s.mappings.set (DraftMappingRow.ofMapping mapping).key (.ofMapping mapping)
    mappings_ok := by
      intro k row' h
      rw [Dict.get?_set] at h
      split at h
      · next hk => exact ⟨by rw [← Option.some.inj h, hk], mapping, (Option.some.inj h).symm⟩
      · exact s.mappings_ok k row' h }

section

variable (s : SqliteDraftTaskStore)

@[simp] theorem putTree_trees (row : DraftTreeRow) :
    (s.putTree row).trees = s.trees.set row.key row := rfl

@[simp] theorem putNode_trees (node : DraftTaskNode) : (s.putNode node).trees = s.trees := rfl
@[simp] theorem putNode_nodes (node : DraftTaskNode) : (s.putNode node).nodes =
    s.nodes.set (node.1.sessionId, node.1.draftTaskId) (.ofNode node) := rfl

end

/-! ### Reading -/

/-- The rows of the children of a node, or of the roots, in the order of the table. -/
def childRows (s : SqliteDraftTaskStore) (sessionId draftTreeId : String)
    (parent : Option String) : List DraftNodeRow :=
  s.nodes.values.filter fun row =>
    row.sessionId = sessionId ∧ row.draftTreeId = draftTreeId ∧ row.parentDraftTaskId = parent

def children (s : SqliteDraftTaskStore) (sessionId draftTreeId : String)
    (parent : Option String) : Except DraftStoreError (List DraftTaskNode) :=
  (sortOn DraftNodeRow.childOrder (s.childRows sessionId draftTreeId parent)).mapM nodeFromRow

/-- `_tree_row`, and the error where it is not there. -/
def requireTree (s : SqliteDraftTaskStore) (sessionId draftTreeId : String) :
    Except DraftStoreError DraftTreeRow :=
  match s.trees.get? (sessionId, draftTreeId) with
  | some row => .ok row
  | none => .error (.treeNotFound draftTreeId)

/-- The method `_tree_from_row`. -/
def readTree (s : SqliteDraftTaskStore) (row : DraftTreeRow) :
    Except DraftStoreError DraftTaskTree := do
  let roots ← s.children row.sessionId row.draftTreeId none
  treeFromRow row roots

def getTree (s : SqliteDraftTaskStore) (sessionId draftTreeId : String) :
    Except DraftStoreError DraftTaskTree := do
  let row ← s.requireTree sessionId draftTreeId
  s.readTree row

def listTrees (s : SqliteDraftTaskStore) (sessionId : String) :
    Except DraftStoreError (List DraftTaskTree) :=
  (sortOn (fun row => (toLex (row.createdAt, row.draftTreeId) : String ×ₗ String))
    (s.trees.values.filter fun row => row.sessionId = sessionId)).mapM s.readTree

def rowsOf (s : SqliteDraftTaskStore) (sessionId draftTreeId : String) : List DraftNodeRow :=
  s.nodes.values.filter fun row => row.sessionId = sessionId ∧ row.draftTreeId = draftTreeId

def listNodes (s : SqliteDraftTaskStore) (sessionId draftTreeId : String) :
    Except DraftStoreError (List DraftTaskNode) := do
  let _ ← s.requireTree sessionId draftTreeId
  (sortOn DraftNodeRow.treeOrder (s.rowsOf sessionId draftTreeId)).mapM nodeFromRow

def getNode (s : SqliteDraftTaskStore) (sessionId draftTaskId : String) :
    Except DraftStoreError (Option DraftTaskNode) :=
  match s.nodes.get? (sessionId, draftTaskId) with
  | none => .ok none
  | some row => (nodeFromRow row).map some

def checkParent (s : SqliteDraftTaskStore) (sessionId draftTreeId : String)
    (missing : String → DraftStoreError) : Option String → Except DraftStoreError Unit
  | none => .ok ()
  | some parentId =>
    match s.getNode sessionId parentId with
    | .error e => .error e
    | .ok none => .error (missing parentId)
    | .ok (some parent) =>
      if parent.1.draftTreeId = draftTreeId then .ok () else .error (missing parentId)

def listChildren (s : SqliteDraftTaskStore) (sessionId draftTreeId : String)
    (parent : Option String) : Except DraftStoreError (List DraftTaskNode) := do
  let _ ← s.requireTree sessionId draftTreeId
  s.checkParent sessionId draftTreeId .nodeNotFound parent
  s.children sessionId draftTreeId parent

def listForDraft (s : SqliteDraftTaskStore) (sessionId draftTaskId : String) :
    Except DraftStoreError (List DraftToPublishedMapping) :=
  (sortOn DraftMappingRow.draftOrder (s.mappings.values.filter fun row =>
    row.sessionId = sessionId ∧ row.draftTaskId = draftTaskId)).mapM mappingFromRow

def listForTask (s : SqliteDraftTaskStore) (sessionId taskId : String) :
    Except DraftStoreError (List DraftToPublishedMapping) :=
  (sortOn DraftMappingRow.taskOrder (s.mappings.values.filter fun row =>
    row.sessionId = sessionId ∧ row.taskId = taskId)).mapM mappingFromRow

/-! ### Writing -/

/-- An integer that SQLite can bind is below `2 ^ 63`. -/
def checkInteger (n : ℕ) : Except DraftStoreError Unit := raiseIf (2 ^ 63 ≤ n) .intTooLarge

def insertTree (s : SqliteDraftTaskStore) (tree : DraftTaskTree) :
    Except DraftStoreError SqliteDraftTaskStore := do
  checkInteger tree.1.version
  raiseIf ((s.trees.get? (tree.1.sessionId, tree.1.draftTreeId)).isSome = true) .rowExists
  return s.putTree (.ofTree tree)

/-- `_insert_node`, and the error where the primary key is taken. -/
def insertNode (s : SqliteDraftTaskStore) (taken : DraftStoreError) (node : DraftTaskNode) :
    Except DraftStoreError SqliteDraftTaskStore := do
  checkInteger node.1.orderIndex
  checkInteger node.1.version
  raiseIf ((s.nodes.get? (node.1.sessionId, node.1.draftTaskId)).isSome = true) taken
  return s.putNode node

/-- `_update_node`; an update of a row that is not there does nothing. -/
def updateRow (s : SqliteDraftTaskStore) (node : DraftTaskNode) :
    Except DraftStoreError SqliteDraftTaskStore := do
  checkInteger node.1.orderIndex
  checkInteger node.1.version
  return if (s.nodes.get? (node.1.sessionId, node.1.draftTaskId)).isSome = true then s.putNode node
    else s

/-- `_insert_mapping`: `INSERT OR IGNORE` -/
def insertMapping (s : SqliteDraftTaskStore) (mapping : DraftToPublishedMapping) :
    SqliteDraftTaskStore :=
  if (s.mappings.get? (DraftMappingRow.ofMapping mapping).key).isSome = true then s
  else s.putMapping mapping

def bumpTree (s : SqliteDraftTaskStore) (sessionId draftTreeId : String) (now : DateTime) :
    Except DraftStoreError (DraftTaskTree × SqliteDraftTaskStore) := do
  let row ← s.requireTree sessionId draftTreeId
  checkInteger (row.version + 1)
  let updated : DraftTreeRow :=
    { row with version := row.version + 1, updatedAt := now.isoformat }
  let tree ← (s.putTree updated).readTree updated
  return (tree, s.putTree updated)

def insertRoots : SqliteDraftTaskStore → List DraftTaskNode →
    Except DraftStoreError SqliteDraftTaskStore
  | s, [] => .ok s
  | s, node :: nodes => do
    let s' ← s.insertNode .rowExists node
    insertRoots s' nodes

def createTree (s : SqliteDraftTaskStore) (draftTreeId : String) (clock : Clock)
    (sessionId : String) (roots : List DraftTaskNode) (title summary : Option String) :
    Except DraftStoreError (DraftTaskTree × SqliteDraftTaskStore) := do
  let tree ← createdTree draftTreeId clock sessionId roots title summary
  let s' ← s.insertTree tree
  let s'' ← s'.insertRoots tree.1.rootNodes
  return (tree, s'')

/-- The node that `add_node` stores, after its checks. -/
def addedNode (s : SqliteDraftTaskStore) (clock : Clock) (sessionId draftTreeId : String)
    (node : DraftTaskNode) (expectedTreeVersion : ℤ) : Except DraftStoreError DraftTaskNode := do
  let row ← s.requireTree sessionId draftTreeId
  checkVersion row.version expectedTreeVersion draftTreeId
  let found ← s.getNode sessionId node.1.draftTaskId
  raiseIf (found.isSome = true) (.nodeExists node.1.draftTaskId)
  s.checkParent sessionId draftTreeId .parentNotFound node.1.parentDraftTaskId
  copyNode { node.1 with
    sessionId := sessionId
    draftTreeId := draftTreeId
    createdAt := Moment.utc (clock 0)
    updatedAt := Moment.utc (clock 0) }

def addNode (s : SqliteDraftTaskStore) (clock : Clock) (sessionId draftTreeId : String)
    (node : DraftTaskNode) (expectedTreeVersion : ℤ) :
    Except DraftStoreError (DraftTaskNode × SqliteDraftTaskStore) := do
  let normalized ← s.addedNode clock sessionId draftTreeId node expectedTreeVersion
  let s' ← s.insertNode (.nodeExists node.1.draftTaskId) normalized
  let bumped ← s'.bumpTree sessionId draftTreeId (clock 1)
  return (normalized, bumped.2)

/-- `get_node`, and the error where there is none. -/
def requireNode (s : SqliteDraftTaskStore) (sessionId draftTaskId : String) :
    Except DraftStoreError DraftTaskNode :=
  match s.getNode sessionId draftTaskId with
  | .error e => .error e
  | .ok none => .error (.nodeNotFound draftTaskId)
  | .ok (some node) => .ok node

def updateNode (s : SqliteDraftTaskStore) (clock : Clock) (sessionId draftTaskId : String)
    (patch : TaskNodePatch) (expectedVersion : ℤ) :
    Except DraftStoreError (DraftTaskNode × SqliteDraftTaskStore) := do
  let node ← s.requireNode sessionId draftTaskId
  let updated ← editedNode node draftTaskId patch expectedVersion (clock 0)
  let s' ← s.updateRow updated
  let bumped ← s'.bumpTree sessionId node.1.draftTreeId (clock 1)
  return (updated, bumped.2)

/-- The loop that marks nodes, from the reading `i` of the clock on. -/
def markRows (status : DraftTaskStatus) (clock : Clock) : ℕ → List DraftTaskNode →
    SqliteDraftTaskStore → Except DraftStoreError SqliteDraftTaskStore
  | _, [], s => .ok s
  | i, node :: nodes, s => do
    let marked ← markedNode status node (clock i)
    let s' ← s.updateRow marked
    markRows status clock (i + 1) nodes s'

/-- The nodes of the tree, after the checks of `mark_accepted`. -/
def acceptableNodes (s : SqliteDraftTaskStore) (sessionId draftTreeId : String)
    (expectedVersion : ℤ) : Except DraftStoreError (List DraftTaskNode) := do
  let row ← s.requireTree sessionId draftTreeId
  checkVersion row.version expectedVersion draftTreeId
  let nodes ← s.listNodes sessionId draftTreeId
  checkAcceptable nodes
  return nodes

def markAccepted (s : SqliteDraftTaskStore) (clock : Clock) (sessionId draftTreeId : String)
    (expectedVersion : ℤ) : Except DraftStoreError (DraftTaskTree × SqliteDraftTaskStore) := do
  let nodes ← s.acceptableNodes sessionId draftTreeId expectedVersion
  let s' ← markRows .accepted clock 0 (toAccept nodes) s
  s'.bumpTree sessionId draftTreeId (clock (toAccept nodes).length)

/-- The nodes of the tree, after the checks of `mark_published`: a mapped node has to be
one of them. -/
def publishableNodes (s : SqliteDraftTaskStore) (sessionId draftTreeId : String)
    (mappings : List DraftToPublishedMapping) (expectedVersion : Option ℤ) :
    Except DraftStoreError (List DraftTaskNode) := do
  let row ← s.requireTree sessionId draftTreeId
  checkExpected row.version expectedVersion draftTreeId
  let nodes ← s.listNodes sessionId draftTreeId
  checkPublishable nodes
  checkMappings (fun draftTaskId => decide (draftTaskId ∈ nodes.map fun node => node.1.draftTaskId))
    sessionId draftTreeId mappings
  return nodes

def markPublished (s : SqliteDraftTaskStore) (clock : Clock) (sessionId draftTreeId : String)
    (mappings : List DraftToPublishedMapping) (expectedVersion : Option ℤ) :
    Except DraftStoreError (DraftTaskTree × SqliteDraftTaskStore) := do
  let nodes ← s.publishableNodes sessionId draftTreeId mappings expectedVersion
  let s' ← markRows .published clock 0 (toPublish nodes) s
  (mappings.foldl insertMapping s').bumpTree sessionId draftTreeId (clock (toPublish nodes).length)

/-- An operation that raises is rolled back. -/
def transacted {α : Type} (s : SqliteDraftTaskStore) (wrap : α → DraftAnswer)
    (r : Except DraftStoreError (α × SqliteDraftTaskStore)) :
    Except DraftStoreError DraftAnswer × SqliteDraftTaskStore :=
  match r with
  | .error e => (.error e, s)
  | .ok (a, s') => (.ok (wrap a), s')

def step (s : SqliteDraftTaskStore) :
    DraftCall → Except DraftStoreError DraftAnswer × SqliteDraftTaskStore
  | .createTree draftTreeId clock sessionId roots title summary =>
    s.transacted .tree (s.createTree draftTreeId clock sessionId roots title summary)
  | .addNode clock sessionId draftTreeId node expected =>
    s.transacted .node (s.addNode clock sessionId draftTreeId node expected)
  | .updateNode clock sessionId draftTaskId patch expected =>
    s.transacted .node (s.updateNode clock sessionId draftTaskId patch expected)
  | .markAccepted clock sessionId draftTreeId expected =>
    s.transacted .tree (s.markAccepted clock sessionId draftTreeId expected)
  | .markPublished clock sessionId draftTreeId mappings expected =>
    s.transacted .tree (s.markPublished clock sessionId draftTreeId mappings expected)
  | .getTree sessionId draftTreeId => ((s.getTree sessionId draftTreeId).map .tree, s)
  | .listTrees sessionId => ((s.listTrees sessionId).map .trees, s)
  | .listNodes sessionId draftTreeId => ((s.listNodes sessionId draftTreeId).map .nodes, s)
  | .listChildren sessionId draftTreeId parent =>
    ((s.listChildren sessionId draftTreeId parent).map .nodes, s)
  | .getNode sessionId draftTaskId => ((s.getNode sessionId draftTaskId).map .maybeNode, s)
  | .listForDraft sessionId draftTaskId =>
    ((s.listForDraft sessionId draftTaskId).map .mappings, s)
  | .listForTask sessionId taskId => ((s.listForTask sessionId taskId).map .mappings, s)

end SqliteDraftTaskStore

end Taskweavn
