import Taskweavn.Task.DraftModels

/-!
# The draft store in memory

Five dictionaries: the trees, the nodes, the tree of each node, and the mappings to
published tasks by draft node and by task.  A tree carries its sorted roots, and every
change of a node rebuilds and validates the tree (`bumpTree`).

An operation changes one dictionary after the other, and nothing is taken back when a
later step raises.  So every operation gives its answer together with the store it
leaves, also where the answer is an error.
-/

namespace Taskweavn

open Lib Py

structure InMemoryDraftTaskStore where
  trees : Dict (String × String) DraftTaskTree := Dict.empty
  nodes : Dict (String × String) DraftTaskNode := Dict.empty
  nodeTree : Dict (String × String) String := Dict.empty
  mappingsByDraft : Dict (String × String) (List DraftToPublishedMapping) := Dict.empty
  mappingsByTask : Dict (String × String) (List DraftToPublishedMapping) := Dict.empty

namespace InMemoryDraftTaskStore

def empty : InMemoryDraftTaskStore := {}

/-! ### Reading -/

def getTree (s : InMemoryDraftTaskStore) (sessionId draftTreeId : String) :
    Except DraftStoreError DraftTaskTree :=
  match s.trees.get? (sessionId, draftTreeId) with
  | some tree => .ok tree
  | none => .error (.treeNotFound draftTreeId)

def listTrees (s : InMemoryDraftTaskStore) (sessionId : String) : List DraftTaskTree :=
  sortOn (fun tree => toLex (tree.1.createdAt, tree.1.draftTreeId))
    (s.trees.values.filter fun tree => tree.1.sessionId = sessionId)

def nodesOf (s : InMemoryDraftTaskStore) (sessionId draftTreeId : String) : List DraftTaskNode :=
  s.nodes.values.filter fun node =>
    node.1.sessionId = sessionId ∧ node.1.draftTreeId = draftTreeId

def childrenOf (s : InMemoryDraftTaskStore) (sessionId draftTreeId : String)
    (parent : Option String) : List DraftTaskNode :=
  s.nodes.values.filter fun node =>
    node.1.sessionId = sessionId ∧ node.1.draftTreeId = draftTreeId ∧
      node.1.parentDraftTaskId = parent

def listNodes (s : InMemoryDraftTaskStore) (sessionId draftTreeId : String) :
    Except DraftStoreError (List DraftTaskNode) := do
  let _ ← s.getTree sessionId draftTreeId
  sortNodes (s.nodesOf sessionId draftTreeId)

def getNode (s : InMemoryDraftTaskStore) (sessionId draftTaskId : String) :
    Option DraftTaskNode :=
  (s.nodes.get? (sessionId, draftTaskId)).filter fun node => node.1.sessionId = sessionId

def checkParent (s : InMemoryDraftTaskStore) (sessionId draftTreeId : String)
    (missing : String → DraftStoreError) : Option String → Except DraftStoreError Unit
  | none => .ok ()
  | some parentId =>
    match s.getNode sessionId parentId with
    | none => .error (missing parentId)
    | some parent =>
      if parent.1.draftTreeId = draftTreeId then .ok () else .error (missing parentId)

def listChildren (s : InMemoryDraftTaskStore) (sessionId draftTreeId : String)
    (parent : Option String) : Except DraftStoreError (List DraftTaskNode) := do
  let _ ← s.getTree sessionId draftTreeId
  s.checkParent sessionId draftTreeId .nodeNotFound parent
  sortNodes (s.childrenOf sessionId draftTreeId parent)

def listForDraft (s : InMemoryDraftTaskStore) (sessionId draftTaskId : String) :
    List DraftToPublishedMapping :=
  (s.mappingsByDraft.get? (sessionId, draftTaskId)).getD []

def listForTask (s : InMemoryDraftTaskStore) (sessionId taskId : String) :
    List DraftToPublishedMapping :=
  (s.mappingsByTask.get? (sessionId, taskId)).getD []

/-! ### Writing -/

/-- The same step with another answer, where it does not raise. -/
def answer {α β : Type} (wrap : α → β) (r : Except DraftStoreError α × InMemoryDraftTaskStore) :
    Except DraftStoreError β × InMemoryDraftTaskStore :=
  (r.1.map wrap, r.2)

/-- One step and, unless it raises, the next. -/
def andThen {α β : Type} (r : Except DraftStoreError α × InMemoryDraftTaskStore)
    (next : InMemoryDraftTaskStore → Except DraftStoreError β × InMemoryDraftTaskStore) :
    Except DraftStoreError β × InMemoryDraftTaskStore :=
  match r with
  | (.error e, s) => (.error e, s)
  | (.ok _, s) => next s

def bumpTree (s : InMemoryDraftTaskStore) (sessionId draftTreeId : String) (now : DateTime) :
    Except DraftStoreError DraftTaskTree × InMemoryDraftTaskStore :=
  match s.getTree sessionId draftTreeId with
  | .error e => (.error e, s)
  | .ok current =>
    match sortNodes (s.childrenOf sessionId draftTreeId none) with
    | .error e => (.error e, s)
    | .ok roots =>
      match copyTree { current.1 with
          rootNodes := roots, version := current.1.version + 1, updatedAt := now } with
      | .error e => (.error e, s)
      | .ok updated =>
        (.ok updated, { s with trees := s.trees.set (sessionId, draftTreeId) updated })

/-- The loop of `_load_tree` over the roots. -/
def loadRoots (draftTreeId : String) : List DraftTaskNode → InMemoryDraftTaskStore →
    Except DraftStoreError Unit × InMemoryDraftTaskStore
  | [], s => (.ok (), s)
  | node :: nodes, s =>
    match s.nodes.get? (node.1.sessionId, node.1.draftTaskId) with
    | some _ => (.error (.nodeExists node.1.draftTaskId), s)
    | none =>
      loadRoots draftTreeId nodes { s with
        nodes := s.nodes.set (node.1.sessionId, node.1.draftTaskId) node
        nodeTree := s.nodeTree.set (node.1.sessionId, node.1.draftTaskId) draftTreeId }

def loadTree (s : InMemoryDraftTaskStore) (tree : DraftTaskTree) :
    Except DraftStoreError Unit × InMemoryDraftTaskStore :=
  match s.trees.get? (tree.1.sessionId, tree.1.draftTreeId) with
  | some _ => (.error (.treeExists tree.1.draftTreeId), s)
  | none =>
    loadRoots tree.1.draftTreeId tree.1.rootNodes
      { s with trees := s.trees.set (tree.1.sessionId, tree.1.draftTreeId) tree }

def createTree (s : InMemoryDraftTaskStore) (draftTreeId : String) (clock : Clock)
    (sessionId : String) (roots : List DraftTaskNode) (title summary : Option String) :
    Except DraftStoreError DraftTaskTree × InMemoryDraftTaskStore :=
  match createdTree draftTreeId clock sessionId roots title summary with
  | .error e => (.error e, s)
  | .ok tree => answer (fun _ => tree) (s.loadTree tree)

/-- The node that `add_node` stores, after its checks. -/
def addedNode (s : InMemoryDraftTaskStore) (clock : Clock) (sessionId draftTreeId : String)
    (node : DraftTaskNode) (expectedTreeVersion : ℤ) : Except DraftStoreError DraftTaskNode := do
  let tree ← s.getTree sessionId draftTreeId
  checkVersion tree.1.version expectedTreeVersion draftTreeId
  raiseIf ((s.nodes.get? (sessionId, node.1.draftTaskId)).isSome = true)
    (.nodeExists node.1.draftTaskId)
  s.checkParent sessionId draftTreeId .parentNotFound node.1.parentDraftTaskId
  copyNode { node.1 with
    sessionId := sessionId
    draftTreeId := draftTreeId
    createdAt := Moment.utc (clock 0)
    updatedAt := Moment.utc (clock 1) }

def withNode (s : InMemoryDraftTaskStore) (sessionId draftTreeId : String)
    (node : DraftTaskNode) : InMemoryDraftTaskStore :=
  { s with
    nodes := s.nodes.set (sessionId, node.1.draftTaskId) node
    nodeTree := s.nodeTree.set (sessionId, node.1.draftTaskId) draftTreeId }

def addNode (s : InMemoryDraftTaskStore) (clock : Clock) (sessionId draftTreeId : String)
    (node : DraftTaskNode) (expectedTreeVersion : ℤ) :
    Except DraftStoreError DraftTaskNode × InMemoryDraftTaskStore :=
  match s.addedNode clock sessionId draftTreeId node expectedTreeVersion with
  | .error e => (.error e, s)
  | .ok normalized =>
    answer (fun _ => normalized)
      ((s.withNode sessionId draftTreeId normalized).bumpTree sessionId draftTreeId (clock 2))

def updateNode (s : InMemoryDraftTaskStore) (clock : Clock) (sessionId draftTaskId : String)
    (patch : TaskNodePatch) (expectedVersion : ℤ) :
    Except DraftStoreError DraftTaskNode × InMemoryDraftTaskStore :=
  match s.getNode sessionId draftTaskId with
  | none => (.error (.nodeNotFound draftTaskId), s)
  | some node =>
    match editedNode node draftTaskId patch expectedVersion (clock 0) with
    | .error e => (.error e, s)
    | .ok updated =>
      answer (fun _ => updated)
        ({ s with nodes := s.nodes.set (sessionId, draftTaskId) updated }.bumpTree sessionId
          node.1.draftTreeId (clock 1))

/-- The loop that marks nodes, from the reading `i` of the clock on. -/
def markNodes (status : DraftTaskStatus) (clock : Clock) (sessionId : String) :
    ℕ → List DraftTaskNode → InMemoryDraftTaskStore →
      Except DraftStoreError Unit × InMemoryDraftTaskStore
  | _, [], s => (.ok (), s)
  | i, node :: nodes, s =>
    match markedNode status node (clock i) with
    | .error e => (.error e, s)
    | .ok marked =>
      markNodes status clock sessionId (i + 1) nodes
        { s with nodes := s.nodes.set (sessionId, node.1.draftTaskId) marked }

/-- The nodes of the tree, after the checks of `mark_accepted`. -/
def acceptableNodes (s : InMemoryDraftTaskStore) (sessionId draftTreeId : String)
    (expectedVersion : ℤ) : Except DraftStoreError (List DraftTaskNode) := do
  let tree ← s.getTree sessionId draftTreeId
  checkVersion tree.1.version expectedVersion draftTreeId
  let nodes ← s.listNodes sessionId draftTreeId
  checkAcceptable nodes
  return nodes

def markAccepted (s : InMemoryDraftTaskStore) (clock : Clock) (sessionId draftTreeId : String)
    (expectedVersion : ℤ) : Except DraftStoreError DraftTaskTree × InMemoryDraftTaskStore :=
  match s.acceptableNodes sessionId draftTreeId expectedVersion with
  | .error e => (.error e, s)
  | .ok nodes =>
    andThen (markNodes .accepted clock sessionId 0 (toAccept nodes) s) fun s' =>
      s'.bumpTree sessionId draftTreeId (clock (toAccept nodes).length)

/-- `defaultdict(list)`: append to the list of a key. -/
def appendMapping (d : Dict (String × String) (List DraftToPublishedMapping))
    (key : String × String) (mapping : DraftToPublishedMapping) :
    Dict (String × String) (List DraftToPublishedMapping) :=
  d.set key ((d.get? key).getD [] ++ [mapping])

def recordMappings (sessionId : String) (mappings : List DraftToPublishedMapping)
    (s : InMemoryDraftTaskStore) : InMemoryDraftTaskStore :=
  mappings.foldl (fun s mapping => { s with
    mappingsByDraft := appendMapping s.mappingsByDraft (sessionId, mapping.draftTaskId) mapping
    mappingsByTask := appendMapping s.mappingsByTask (sessionId, mapping.taskId) mapping }) s

/-- The nodes of the tree, after the checks of `mark_published`. -/
def publishableNodes (s : InMemoryDraftTaskStore) (sessionId draftTreeId : String)
    (mappings : List DraftToPublishedMapping) (expectedVersion : Option ℤ) :
    Except DraftStoreError (List DraftTaskNode) := do
  let tree ← s.getTree sessionId draftTreeId
  checkExpected tree.1.version expectedVersion draftTreeId
  let nodes ← s.listNodes sessionId draftTreeId
  checkPublishable nodes
  checkMappings (fun draftTaskId => (s.getNode sessionId draftTaskId).isSome) sessionId
    draftTreeId mappings
  return nodes

def markPublished (s : InMemoryDraftTaskStore) (clock : Clock) (sessionId draftTreeId : String)
    (mappings : List DraftToPublishedMapping) (expectedVersion : Option ℤ) :
    Except DraftStoreError DraftTaskTree × InMemoryDraftTaskStore :=
  match s.publishableNodes sessionId draftTreeId mappings expectedVersion with
  | .error e => (.error e, s)
  | .ok nodes =>
    andThen (markNodes .published clock sessionId 0 (toPublish nodes) s) fun s' =>
      (recordMappings sessionId mappings s').bumpTree sessionId draftTreeId
        (clock (toPublish nodes).length)

def step (s : InMemoryDraftTaskStore) :
    DraftCall → Except DraftStoreError DraftAnswer × InMemoryDraftTaskStore
  | .createTree draftTreeId clock sessionId roots title summary =>
    answer .tree (s.createTree draftTreeId clock sessionId roots title summary)
  | .addNode clock sessionId draftTreeId node expected =>
    answer .node (s.addNode clock sessionId draftTreeId node expected)
  | .updateNode clock sessionId draftTaskId patch expected =>
    answer .node (s.updateNode clock sessionId draftTaskId patch expected)
  | .markAccepted clock sessionId draftTreeId expected =>
    answer .tree (s.markAccepted clock sessionId draftTreeId expected)
  | .markPublished clock sessionId draftTreeId mappings expected =>
    answer .tree (s.markPublished clock sessionId draftTreeId mappings expected)
  | .getTree sessionId draftTreeId => answer .tree (s.getTree sessionId draftTreeId, s)
  | .listTrees sessionId => answer .trees (.ok (s.listTrees sessionId), s)
  | .listNodes sessionId draftTreeId => answer .nodes (s.listNodes sessionId draftTreeId, s)
  | .listChildren sessionId draftTreeId parent =>
    answer .nodes (s.listChildren sessionId draftTreeId parent, s)
  | .getNode sessionId draftTaskId => answer .maybeNode (.ok (s.getNode sessionId draftTaskId), s)
  | .listForDraft sessionId draftTaskId =>
    answer .mappings (.ok (s.listForDraft sessionId draftTaskId), s)
  | .listForTask sessionId taskId => answer .mappings (.ok (s.listForTask sessionId taskId), s)

end InMemoryDraftTaskStore

end Taskweavn
