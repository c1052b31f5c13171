import Taskweavn.Lib.Run
import Taskweavn.Py.Calendar
import Taskweavn.Py.Model

/-!
# Draft task trees

A draft tree has root nodes, and every other node names its parent.  The models are
frozen: a changed node is the old one with some fields replaced, validated as a whole
again (`copyNode`, `copyTree`).  So a `DraftTaskNode` and a `DraftTaskTree` are their
fields with the proof that they pass.

A caller may bring a node of its own, with timestamps of any offset or none.  The
stores write `datetime.now(UTC)`; a call reads the clock several times, and `Clock` gives
the readings in their order.

Nodes are sorted by parent, order index, creation time and id (`sortNodes`).  That raises
when two times have to be compared that cannot be.
-/

namespace Taskweavn

open Lib Py

inductive DraftTaskStatus
  | draft
  | accepted
  | published
  | cancelled
deriving DecidableEq, Repr

def DraftTaskStatus.text : DraftTaskStatus → String
  | draft => "draft"
  | accepted => "accepted"
  | published => "published"
  | cancelled => "cancelled"

def DraftTaskStatus.ofText (s : String) : Option DraftTaskStatus :=
  if s = "draft" then some draft
  else if s = "accepted" then some accepted
  else if s = "published" then some published
  else if s = "cancelled" then some cancelled
  else none

theorem DraftTaskStatus.ofText_text (status : DraftTaskStatus) :
    ofText status.text = some status := by
  cases status <;> decide

/-- The readings of the clock in one call. -/
abbrev Clock := ℕ → DateTime

/-! ### Nodes -/

structure DraftTaskFields where
  draftTaskId : String
  sessionId : String
  draftTreeId : String
  parentDraftTaskId : Option String := none
  orderIndex : ℕ := 0
  title : String
  intent : String
  summary : Option String := none
  instructions : Option String := none
  acceptanceCriteria : List String := []
  requiredCapability : String
  constraints : List String := []
  rationale : Option String := none
  status : DraftTaskStatus := .draft
  version : ℕ := 1
  createdBy : String := "collaborator_agent"
  createdAt : Moment
  updatedAt : Moment
deriving DecidableEq

/-- The checks of the fields, and `_validate_timestamps`. -/
structure DraftTaskFields.Valid (f : DraftTaskFields) : Prop where
  draftTaskId : f.draftTaskId ≠ ""
  sessionId : f.sessionId ≠ ""
  draftTreeId : f.draftTreeId ≠ ""
  parentDraftTaskId : f.parentDraftTaskId ≠ some ""
  title : f.title ≠ ""
  intent : f.intent ≠ ""
  summary : f.summary ≠ some ""
  instructions : f.instructions ≠ some ""
  requiredCapability : f.requiredCapability ≠ ""
  version : 1 ≤ f.version
  createdBy : f.createdBy ≠ ""
  timestamps : f.createdAt.Le f.updatedAt

instance (f : DraftTaskFields) : Decidable f.Valid :=
  decidable_of_iff (f.draftTaskId ≠ "" ∧ f.sessionId ≠ "" ∧ f.draftTreeId ≠ "" ∧
      f.parentDraftTaskId ≠ some "" ∧ f.title ≠ "" ∧ f.intent ≠ "" ∧ f.summary ≠ some "" ∧
      f.instructions ≠ some "" ∧ f.requiredCapability ≠ "" ∧ 1 ≤ f.version ∧ f.createdBy ≠ "" ∧
      f.createdAt.Le f.updatedAt)
    ⟨fun ⟨h1, h2, h3, h4, h5, h6, h7, h8, h9, h10, h11, h12⟩ =>
      ⟨h1, h2, h3, h4, h5, h6, h7, h8, h9, h10, h11, h12⟩,
      fun ⟨h1, h2, h3, h4, h5, h6, h7, h8, h9, h10, h11, h12⟩ =>
        ⟨h1, h2, h3, h4, h5, h6, h7, h8, h9, h10, h11, h12⟩⟩

/-- A node that passes its checks. -/
abbrev DraftTaskNode := { f : DraftTaskFields // f.Valid }

/-- Why a call raises. -/
inductive DraftStoreError
  /-- draft tree requires at least one root -/
  | noRoots
  /-- DraftTaskTree … not found -/
  | treeNotFound (draftTreeId : String)
  /-- DraftTaskNode … not found -/
  | nodeNotFound (draftTaskId : String)
  /-- parent DraftTaskNode … not found -/
  | parentNotFound (draftTaskId : String)
  /-- mapped DraftTaskNode … not found -/
  | mappedNotFound (draftTaskId : String)
  /-- DraftTaskTree … already exists -/
  | treeExists (draftTreeId : String)
  /-- DraftTaskNode … already exists -/
  | nodeExists (draftTaskId : String)
  /-- DraftTaskTree or DraftTaskNode already exists -/
  | rowExists
  /-- stale version for …: expected …, current … -/
  | staleVersion (objectId : String) (expected : ℤ) (current : ℕ)
  /-- draft task cannot be edited while status is … -/
  | notEditable (status : DraftTaskStatus)
  /-- children_ops are handled by explicit tree operations -/
  | childrenOps
  /-- published status must be set through mark_published -/
  | publishedStatus
  /-- cannot accept draft tree with … node … -/
  | cannotAccept (status : DraftTaskStatus) (draftTaskId : String)
  /-- cannot publish cancelled node … -/
  | cannotPublish (draftTaskId : String)
  /-- mapping session_id and draft_tree_id must match tree -/
  | mappingMismatch
  /-- A model does not take its fields, or cannot compare its timestamps. -/
  | invalid
  /-- can't compare offset-naive and offset-aware datetimes -/
  | notComparable
  /-- invalid DraftTaskNode row, invalid DraftTaskTree row, invalid mapping row -/
  | invalidRow
  /-- Python int too large to convert to SQLite INTEGER -/
  | intTooLarge
deriving DecidableEq

/-- `_copy_node`: the fields validated again. -/
def copyNode (f : DraftTaskFields) : Except DraftStoreError DraftTaskNode :=
  if h : f.Valid then .ok ⟨f, h⟩ else .error .invalid

theorem copyNode_eq_ok {f : DraftTaskFields} {node : DraftTaskNode} :
    copyNode f = .ok node ↔ node.1 = f := by
  unfold copyNode
  constructor
  · intro h
    split at h
    · cases h; rfl
    · cases h
  · intro h
    have hv : f.Valid := h ▸ node.2
    rw [dif_pos hv]
    exact congrArg Except.ok (Subtype.ext h.symm)

theorem copyNode_isOk {f : DraftTaskFields} : (∃ node, copyNode f = .ok node) ↔ f.Valid :=
  ⟨fun ⟨node, h⟩ => copyNode_eq_ok.mp h ▸ node.2, fun h => ⟨⟨f, h⟩, dif_pos h⟩⟩

/-! ### Sorting -/

/-- What nodes are sorted by; a root has the empty parent. -/
def nodeKey (node : DraftTaskNode) : String ×ₗ ℕ ×ₗ ℤ ×ₗ String :=
  toLex (node.1.parentDraftTaskId.getD "",
    toLex (node.1.orderIndex, toLex (node.1.createdAt.instant, node.1.draftTaskId)))

/-- Two nodes in one place whose creation times cannot be compared. -/
def Mixed (a b : DraftTaskNode) : Prop :=
  a.1.parentDraftTaskId.getD "" = b.1.parentDraftTaskId.getD "" ∧
    a.1.orderIndex = b.1.orderIndex ∧ ¬a.1.createdAt.Comparable b.1.createdAt

instance (a b : DraftTaskNode) : Decidable (Mixed a b) := inferInstanceAs (Decidable (_ ∧ _ ∧ _))

def sortNodes (nodes : List DraftTaskNode) : Except DraftStoreError (List DraftTaskNode) :=
  if ∃ a ∈ nodes, ∃ b ∈ nodes, Mixed a b then .error .notComparable
  else .ok (sortOn nodeKey nodes)

theorem sortNodes_eq_ok {nodes nodes' : List DraftTaskNode} (h : sortNodes nodes = .ok nodes') :
    nodes' = sortOn nodeKey nodes := by
  unfold sortNodes at h
  split at h
  · cases h
  · cases h; rfl

/-! ### Trees -/

structure DraftTreeFields where
  draftTreeId : String
  sessionId : String
  title : Option String := none
  summary : Option String := none
  rootNodes : List DraftTaskNode
  createdBy : String := "collaborator_agent"
  version : ℕ := 1
  createdAt : DateTime
  updatedAt : DateTime
deriving DecidableEq

/-- The checks of the fields, and `_validate_roots`. -/
structure DraftTreeFields.Valid (f : DraftTreeFields) : Prop where
  draftTreeId : f.draftTreeId ≠ ""
  sessionId : f.sessionId ≠ ""
  title : f.title ≠ some ""
  summary : f.summary ≠ some ""
  createdBy : f.createdBy ≠ ""
  version : 1 ≤ f.version
  roots_ne_nil : f.rootNodes ≠ []
  roots : ∀ node ∈ f.rootNodes, node.1.sessionId = f.sessionId ∧
    node.1.draftTreeId = f.draftTreeId ∧ node.1.parentDraftTaskId = none
  orders : (f.rootNodes.map fun node => node.1.orderIndex).Nodup
  timestamps : f.createdAt ≤ f.updatedAt

instance (f : DraftTreeFields) : Decidable f.Valid :=
  decidable_of_iff (f.draftTreeId ≠ "" ∧ f.sessionId ≠ "" ∧ f.title ≠ some "" ∧
      f.summary ≠ some "" ∧ f.createdBy ≠ "" ∧ 1 ≤ f.version ∧ f.rootNodes ≠ [] ∧
      (∀ node ∈ f.rootNodes, node.1.sessionId = f.sessionId ∧
        node.1.draftTreeId = f.draftTreeId ∧ node.1.parentDraftTaskId = none) ∧
      (f.rootNodes.map fun node => node.1.orderIndex).Nodup ∧ f.createdAt ≤ f.updatedAt)
    ⟨fun ⟨h1, h2, h3, h4, h5, h6, h7, h8, h9, h10⟩ => ⟨h1, h2, h3, h4, h5, h6, h7, h8, h9, h10⟩,
      fun ⟨h1, h2, h3, h4, h5, h6, h7, h8, h9, h10⟩ => ⟨h1, h2, h3, h4, h5, h6, h7, h8, h9, h10⟩⟩

/-- A tree that passes its checks. -/
abbrev DraftTaskTree := { f : DraftTreeFields // f.Valid }

/-- `_copy_tree` and the constructor of the model. -/
def copyTree (f : DraftTreeFields) : Except DraftStoreError DraftTaskTree :=
  if h : f.Valid then .ok ⟨f, h⟩ else .error .invalid

theorem copyTree_eq_ok {f : DraftTreeFields} {tree : DraftTaskTree} :
    copyTree f = .ok tree ↔ tree.1 = f := by
  unfold copyTree
  constructor
  · intro h
    split at h
    · cases h; rfl
    · cases h
  · intro h
    have hv : f.Valid := h ▸ tree.2
    rw [dif_pos hv]
    exact congrArg Except.ok (Subtype.ext h.symm)

theorem copyTree_isOk {f : DraftTreeFields} : (∃ tree, copyTree f = .ok tree) ↔ f.Valid :=
  ⟨fun ⟨tree, h⟩ => copyTree_eq_ok.mp h ▸ tree.2, fun h => ⟨⟨f, h⟩, dif_pos h⟩⟩

/-! ### Patches and mappings -/

/-- An edit; its texts are not empty, and `childrenOps` is there to be refused. -/
structure TaskNodePatch where
  title : Option String := none
  intent : Option String := none
  summary : Option String := none
  instructions : Option String := none
  acceptanceCriteria : Option (List String) := none
  requiredCapability : Option String := none
  constraintsAdd : List String := []
  constraintsRemove : List String := []
  status : Option String := none
  childrenOps : List (Dict String PyValue) := []
  texts_ok : title ≠ some "" ∧ intent ≠ some "" ∧ summary ≠ some "" ∧ instructions ≠ some "" ∧
    requiredCapability ≠ some ""

/-- Lineage from a draft node to a published task. -/
structure DraftToPublishedMapping where
  sessionId : String
  draftTreeId : String
  draftTaskId : String
  taskId : String
  publishedAt : Moment
  publishCommandId : String
  texts_ok : sessionId ≠ "" ∧ draftTreeId ≠ "" ∧ draftTaskId ≠ "" ∧ taskId ≠ "" ∧
    publishCommandId ≠ ""
deriving DecidableEq

def patchedConstraints (constraints : List String) (patch : TaskNodePatch) : List String :=
  patch.constraintsAdd.foldl (fun kept c => if c ∈ kept then kept else kept ++ [c])
    (constraints.filter (fun c => decide (c ∉ patch.constraintsRemove)))

/-- `patch.status or node.status`, which the node checks. -/
def patchedStatus (node : DraftTaskNode) (patch : TaskNodePatch) :
    Except DraftStoreError DraftTaskStatus :=
  match patch.status with
  | none => .ok node.1.status
  | some text =>
    if text = "" then .ok node.1.status
    else match DraftTaskStatus.ofText text with
      | some status => .ok status
      | none => .error .invalid

/-- The copy that `update_node` makes. -/
def patchedNode (node : DraftTaskNode) (patch : TaskNodePatch) (now : DateTime) :
    Except DraftStoreError DraftTaskNode := do
  let status ← patchedStatus node patch
  copyNode { node.1 with
    title := patch.title.getD node.1.title
    intent := patch.intent.getD node.1.intent
    summary := patch.summary.or node.1.summary
    instructions := patch.instructions.or node.1.instructions
    acceptanceCriteria := patch.acceptanceCriteria.getD node.1.acceptanceCriteria
    requiredCapability := patch.requiredCapability.getD node.1.requiredCapability
    constraints := patchedConstraints node.1.constraints patch
    status := status
    version := node.1.version + 1
    updatedAt := Moment.utc now }

/-- The copy that `mark_accepted` and `mark_published` make. -/
def markedNode (status : DraftTaskStatus) (node : DraftTaskNode) (now : DateTime) :
    Except DraftStoreError DraftTaskNode :=
  copyNode { node.1 with
    status := status, version := node.1.version + 1, updatedAt := Moment.utc now }

/-- `if condition: raise error` -/
def raiseIf (condition : Prop) [Decidable condition] (e : DraftStoreError) :
    Except DraftStoreError Unit :=
  if condition then .error e else .ok ()

@[simp] theorem raiseIf_eq_ok {condition : Prop} [Decidable condition] {e : DraftStoreError}
    {u : Unit} : raiseIf condition e = .ok u ↔ ¬condition := by
  unfold raiseIf
  split <;> simp [*]

def checkVersion (current : ℕ) (expected : ℤ) (objectId : String) :
    Except DraftStoreError Unit :=
  raiseIf ((current : ℤ) ≠ expected) (.staleVersion objectId expected current)

/-- The version check of `mark_published`, which is made when a version is given. -/
def checkExpected (current : ℕ) (expected : Option ℤ) (objectId : String) :
    Except DraftStoreError Unit :=
  match expected with
  | none => .ok ()
  | some expected => checkVersion current expected objectId

/-- The copy that `update_node` stores, after its checks of the node and the patch. -/
def editedNode (node : DraftTaskNode) (draftTaskId : String) (patch : TaskNodePatch)
    (expectedVersion : ℤ) (now : DateTime) : Except DraftStoreError DraftTaskNode := do
  raiseIf (node.1.status ≠ .draft) (.notEditable node.1.status)
  raiseIf (patch.childrenOps.isEmpty = false) .childrenOps
  raiseIf (patch.status = some "published") .publishedStatus
  checkVersion node.1.version expectedVersion draftTaskId
  patchedNode node patch now

/-- The checks of `mark_accepted`: every node is a draft or accepted. -/
def checkAcceptable (nodes : List DraftTaskNode) : Except DraftStoreError Unit :=
  match nodes.find? (fun node => node.1.status ≠ .draft ∧ node.1.status ≠ .accepted) with
  | some node => .error (.cannotAccept node.1.status node.1.draftTaskId)
  | none => .ok ()

/-- The first check of `mark_published`: no node is cancelled. -/
def checkPublishable (nodes : List DraftTaskNode) : Except DraftStoreError Unit :=
  match nodes.find? (fun node => node.1.status = .cancelled) with
  | some node => .error (.cannotPublish node.1.draftTaskId)
  | none => .ok ()

/-- The check of the mappings, in their order; `known` is how a store looks for a node. -/
def checkMappings (known : String → Bool) (sessionId draftTreeId : String) :
    List DraftToPublishedMapping → Except DraftStoreError Unit
  | [] => .ok ()
  | mapping :: mappings =>
    if mapping.sessionId ≠ sessionId ∨ mapping.draftTreeId ≠ draftTreeId then
      .error .mappingMismatch
    else if known mapping.draftTaskId then checkMappings known sessionId draftTreeId mappings
    else .error (.mappedNotFound mapping.draftTaskId)

/-- The nodes that `mark_accepted` changes. -/
def toAccept (nodes : List DraftTaskNode) : List DraftTaskNode :=
  nodes.filter (fun node => node.1.status = .draft)

/-- The nodes that `mark_published` changes. -/
def toPublish (nodes : List DraftTaskNode) : List DraftTaskNode :=
  nodes.filter (fun node => node.1.status ≠ .published)

def rootFields (sessionId draftTreeId : String) (root : DraftTaskNode) : DraftTaskFields :=
  { root.1 with
    sessionId := sessionId, draftTreeId := draftTreeId, parentDraftTaskId := none }

/-- The tree that `create_tree` builds, in either store. -/
def createdTree (draftTreeId : String) (clock : Clock) (sessionId : String)
    (roots : List DraftTaskNode) (title summary : Option String) :
    Except DraftStoreError DraftTaskTree := do
  let normalized ← roots.mapM fun root => copyNode (rootFields sessionId draftTreeId root)
  match normalized with
  | [] => .error .noRoots
  | first :: _ => do
    let sorted ← sortNodes normalized
    copyTree {
      draftTreeId := draftTreeId
      sessionId := sessionId
      title := title
      summary := summary
      rootNodes := sorted
      createdBy := first.1.createdBy
      createdAt := clock 0
      updatedAt := clock 1 }

/-! ### Calls -/

/-- The operations of a draft store; `createTree` comes with the id that is generated. -/
inductive DraftCall
  | createTree (draftTreeId : String) (clock : Clock) (sessionId : String)
      (roots : List DraftTaskNode) (title summary : Option String)
  | addNode (clock : Clock) (sessionId draftTreeId : String) (node : DraftTaskNode)
      (expectedTreeVersion : ℤ)
  | updateNode (clock : Clock) (sessionId draftTaskId : String) (patch : TaskNodePatch)
      (expectedVersion : ℤ)
  | markAccepted (clock : Clock) (sessionId draftTreeId : String) (expectedVersion : ℤ)
  | markPublished (clock : Clock) (sessionId draftTreeId : String)
      (mappings : List DraftToPublishedMapping) (expectedVersion : Option ℤ)
  | getTree (sessionId draftTreeId : String)
  | listTrees (sessionId : String)
  | listNodes (sessionId draftTreeId : String)
  | listChildren (sessionId draftTreeId : String) (parentDraftTaskId : Option String)
  | getNode (sessionId draftTaskId : String)
  | listForDraft (sessionId draftTaskId : String)
  | listForTask (sessionId taskId : String)

inductive DraftAnswer
  | tree (tree : DraftTaskTree)
  | trees (trees : List DraftTaskTree)
  | node (node : DraftTaskNode)
  | maybeNode (node : Option DraftTaskNode)
  | nodes (nodes : List DraftTaskNode)
  | mappings (mappings : List DraftToPublishedMapping)
deriving DecidableEq

end Taskweavn
