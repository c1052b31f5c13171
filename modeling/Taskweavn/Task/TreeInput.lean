import Taskweavn.Task.Pipeline

/-!
# Task trees as they are sent in

A payload that a client sends becomes a normalized tree (`taskweavn/task/publisher_input.py`).
The tasks of the payload either contain their children, or they are a flat list in which each
names its parent.  A payload is flat as soon as one of its tasks has the key `parent_id`.

Whatever the payload looks like, the nodes that come out of it have an intent and a capability
that are not blank (`normalizeTaskTreeInput_ok`).
-/

namespace Taskweavn

open Lib Py

/-- Why a payload is no task tree. -/
inductive TaskTreeInputError
  /-- … must be an object -/
  | notObject (path : List String)
  /-- … requires … or … -/
  | required (path keys : List String)
  /-- … must be a list -/
  | notList (path : List String)
  /-- … must be a non-empty string -/
  | notText (path : List String)
  /-- task tree input requires a tasks/root_nodes list -/
  | noTaskList
  /-- task tree input requires at least one task -/
  | noTask
  /-- flat parent_id task input must not include children -/
  | flatChildren
  /-- duplicate task id … -/
  | duplicate (nodeId : String)
  /-- task … references unknown parent … -/
  | unknownParent (nodeId parentId : String)
  /-- flat task input has no root tasks -/
  | noRoot
  /-- flat task input contains a cycle at … -/
  | cycleAt (nodeId : String)
  /-- flat task input contains a cycle or unreachable task -/
  | unreachable
  /-- a `ValidationError` of the tree -/
  | validation
deriving DecidableEq, Repr

namespace TreeInput

/-- The items of a mapping. -/
abbrev Payload := List (String × PyValue)

/-- A `Sequence` that is no text. -/
def sequence? : PyValue → Option (List PyValue)
  | .list xs => some xs
  | .tuple xs => some xs
  | _ => none

def optionalStr (payload : Payload) (key : String) : Option String :=
  match lookupEntries key payload with
  | some (.str value) => if isBlank value then none else some value
  | _ => none

def requiredStr (payload : Payload) (keys path : List String) :
    Except TaskTreeInputError String :=
  match keys.findSome? (optionalStr payload) with
  | some value => .ok value
  | none => .error (.required path keys)

/-- The items of a list of texts, from the given index on. -/
def strItems (path : List String) : ℕ → List PyValue → Except TaskTreeInputError (List String)
  | _, [] => .ok []
  | index, .str item :: rest =>
    if isBlank item then .error (.notText (path ++ [toString index]))
    else do
      let items ← strItems path (index + 1) rest
      return strip item :: items
  | index, _ :: _ => .error (.notText (path ++ [toString index]))

def optionalStrTuple (payload : Payload) (key : String) (path : List String) :
    Except TaskTreeInputError (List String) :=
  match lookupEntries key payload with
  | none => .ok []
  | some .none => .ok []
  | some value =>
    match sequence? value with
    | none => .error (.notList (path ++ [key]))
    | some items => strItems (path ++ [key]) 0 items

def metadata (payload : Payload) (path : List String) :
    Except TaskTreeInputError (Dict String PyValue) :=
  match lookupEntries "metadata" payload with
  | none => .ok Dict.empty
  | some (.dict items) => .ok (Dict.ofList items)
  | some _ => .error (.notObject path)

def taskPayloads (data : Payload) : Except TaskTreeInputError (List PyValue) :=
  let payloads := ((lookupEntries "tasks" data).or
    ((lookupEntries "root_nodes" data).or (lookupEntries "roots" data))).bind sequence?
  match payloads with
  | none => .error .noTaskList
  | some [] => .error .noTask
  | some payloads => .ok payloads

def hasParentLinks (payloads : List PyValue) : Bool :=
  payloads.any fun
    | .dict payload => (lookupEntries "parent_id" payload).isSome
    | _ => false

/-! ### Tasks that contain their children -/

def checkChildren (payload : Payload) (path : List String) : Except TaskTreeInputError Unit :=
  match lookupEntries "children" payload with
  | none => .ok ()
  | some value => if (sequence? value).isSome then .ok ()
    else .error (.notList (path ++ ["children"]))

mutual

def normalizeNode (parentId : Option String) (path : List String) :
    PyValue → Except TaskTreeInputError NormalizedTaskNode
  | .dict payload => do
    let nodeId ← requiredStr payload ["node_id", "id"] path
    let capability ← requiredStr payload ["required_capability", "capability"] path
    checkChildren payload path
    let title ← requiredStr payload ["title"] path
    let intent ← requiredStr payload ["intent"] path
    let acceptanceCriteria ← optionalStrTuple payload "acceptance_criteria" path
    let children ← normalizeChildren nodeId (path ++ ["children"]) payload
    let metadata ← metadata payload (path ++ ["metadata"])
    return {
      nodeId := nodeId
      parentId := parentId
      title := title
      intent := intent
      summary := optionalStr payload "summary"
      instructions := optionalStr payload "instructions"
      acceptanceCriteria := acceptanceCriteria
      requiredCapability := capability
      agentRef := (optionalStr payload "agent_ref").or (optionalStr payload "agent")
      children := children
      metadata := metadata }
  | _ => .error (.notObject path)

/-- The nodes of the value of `children`. -/
def normalizeChildren (parentId : String) (path : List String) :
    Payload → Except TaskTreeInputError (List NormalizedTaskNode)
  | [] => .ok []
  | (key, value) :: rest =>
    if key = "children" then normalizeValue parentId path value
    else normalizeChildren parentId path rest

def normalizeValue (parentId : String) (path : List String) :
    PyValue → Except TaskTreeInputError (List NormalizedTaskNode)
  | .list xs => normalizeNodes (some parentId) path 0 xs
  | .tuple xs => normalizeNodes (some parentId) path 0 xs
  | _ => .ok []

def normalizeNodes (parentId : Option String) (path : List String) (index : ℕ) :
    List PyValue → Except TaskTreeInputError (List NormalizedTaskNode)
  | [] => .ok []
  | x :: rest => do
    let node ← normalizeNode parentId (path ++ [toString index]) x
    let nodes ← normalizeNodes parentId path (index + 1) rest
    return node :: nodes

end

/-! ### Tasks that name their parents -/

structure FlatTask where
  nodeId : String
  parentId : Option String
  payload : Payload

/-- The tasks of a flat list, from the given index on, behind those that were read. -/
def flatTasks (read : List FlatTask) : ℕ → List PyValue → Except TaskTreeInputError (List FlatTask)
  | _, [] => .ok read
  | index, .dict payload :: rest =>
    let path := ["tasks", toString index]
    if (lookupEntries "children" payload).any PyValue.truthy then .error .flatChildren
    else do
      let nodeId ← requiredStr payload ["node_id", "id"] path
      if nodeId ∈ read.map FlatTask.nodeId then throw (.duplicate nodeId)
      flatTasks (read ++ [⟨nodeId, optionalStr payload "parent_id", payload⟩]) (index + 1) rest
  | index, _ :: _ => .error (.notObject ["tasks", toString index])

def childrenByParent (tasks : List FlatTask) (parentId : Option String) : List FlatTask :=
  tasks.filter fun task => task.parentId = parentId

/-- `_normalize_flat_node`, to a depth, with the tasks above as `visiting`.  These are
distinct, so a walk does not get deeper than there are tasks. -/
def normalizeFlatNode (tasks : List FlatTask) : ℕ → (visiting : List String) →
    (parentId : Option String) → FlatTask → Except TaskTreeInputError NormalizedTaskNode
  | 0, _, _, task => .error (.cycleAt task.nodeId)
  | depth + 1, visiting, parentId, task =>
    if task.nodeId ∈ visiting then .error (.cycleAt task.nodeId)
    else do
      let path := ["tasks", task.nodeId]
      let title ← requiredStr task.payload ["title"] path
      let intent ← requiredStr task.payload ["intent"] path
      let acceptanceCriteria ← optionalStrTuple task.payload "acceptance_criteria" path
      let capability ← requiredStr task.payload ["required_capability", "capability"] path
      let children ← (childrenByParent tasks (some task.nodeId)).mapM
        (normalizeFlatNode tasks depth (task.nodeId :: visiting) (some task.nodeId))
      let metadata ← metadata task.payload (path ++ ["metadata"])
      return {
        nodeId := task.nodeId
        parentId := parentId
        title := title
        intent := intent
        summary := optionalStr task.payload "summary"
        instructions := optionalStr task.payload "instructions"
        acceptanceCriteria := acceptanceCriteria
        requiredCapability := capability
        agentRef := (optionalStr task.payload "agent_ref").or (optionalStr task.payload "agent")
        children := children
        metadata := metadata }

/-- The first task that names a parent which is not there. -/
def unknownParent? (tasks : List FlatTask) : Option (String × String) :=
  tasks.findSome? fun task =>
    (task.parentId.filter (· ∉ tasks.map FlatTask.nodeId)).map (task.nodeId, ·)

/-- The tasks that were visited, when the nodes were built. -/
def visited (roots : List NormalizedTaskNode) : List String :=
  ((NormalizedTaskNode.collectAll roots).map NormalizedTaskNode.nodeId).dedup

/-- The trees of the tasks without a parent. -/
def flatRoots (tasks : List FlatTask) : Except TaskTreeInputError (List NormalizedTaskNode) := do
  let roots ← (childrenByParent tasks none).mapM
    (normalizeFlatNode tasks (tasks.length + 1) [] none)
  if (visited roots).length ≠ tasks.length then .error .unreachable else return roots

def normalizeFlatTaskPayloads (payloads : List PyValue) :
    Except TaskTreeInputError (List NormalizedTaskNode) := do
  let tasks ← flatTasks [] 0 payloads
  match unknownParent? tasks with
  | some (nodeId, parentId) => .error (.unknownParent nodeId parentId)
  | none => if childrenByParent tasks none = [] then .error .noRoot else flatRoots tasks

def rootNodes (payloads : List PyValue) : Except TaskTreeInputError (List NormalizedTaskNode) :=
  if hasParentLinks payloads then normalizeFlatTaskPayloads payloads
  else normalizeNodes none ["tasks"] 0 payloads

/-- `source_ref or _optional_str(data, "id") or _optional_str(data, "name")` -/
def treeRef (data : Payload) (sourceRef : Option String) : Option String :=
  (sourceRef.filter (· ≠ "")).or ((optionalStr data "id").or (optionalStr data "name"))

end TreeInput

open TreeInput

def normalizeTaskTreeInput (data : Dict String PyValue) (publisher : PublisherRef)
    (sourceRef : Option String) (supplied : Dict String PyValue) :
    Except TaskTreeInputError NormalizedTaskTree := do
  let payloads ← taskPayloads data.entries
  let rootNodes ← rootNodes payloads
  let own ← metadata data.entries ["metadata"]
  match NormalizedTaskTree.build rootNodes publisher (treeRef data.entries sourceRef)
      (Dict.ofList (own.entries ++ supplied.entries)) with
  | none => throw .validation
  | some tree => return tree

/-! ### What comes out -/

/-- The texts that a task must have. -/
def NormalizedTaskNode.Worded (n : NormalizedTaskNode) : Prop :=
  isBlank n.intent = false ∧ isBlank n.requiredCapability = false

namespace TreeInput

open NormalizedTaskNode

variable {payload : Payload} {key : String} {path : List String} {parentId : Option String}
  {n m : NormalizedTaskNode} {nodes : List NormalizedTaskNode}

theorem optionalStr_some {value : String} (h : optionalStr payload key = some value) :
    isBlank value = false := by
  unfold optionalStr at h
  split at h
  · split at h
    · cases h
    · next hblank =>
      cases h
      exact Bool.eq_false_iff.mpr hblank
  · cases h

theorem requiredStr_ok {keys : List String} {value : String}
    (h : requiredStr payload keys path = .ok value) : isBlank value = false := by
  unfold requiredStr at h
  split at h
  · next hfound =>
    cases h
    obtain ⟨key, -, hkey⟩ := List.exists_of_findSome?_eq_some hfound
    exact optionalStr_some hkey
  · cases h

mutual

theorem worded_normalizeNode : ∀ (v : PyValue) {parentId : Option String} {path : List String}
    {n : NormalizedTaskNode}, normalizeNode parentId path v = .ok n →
    ∀ m ∈ n.collectNodes, m.Worded
  | .dict payload => by
    intro h m hm
    rw [normalizeNode] at h
    obtain ⟨nodeId, -, h⟩ := bind_eq_ok.mp h
    obtain ⟨capability, hcapability, h⟩ := bind_eq_ok.mp h
    obtain ⟨_, -, h⟩ := bind_eq_ok.mp h
    obtain ⟨title, -, h⟩ := bind_eq_ok.mp h
    obtain ⟨intent, hintent, h⟩ := bind_eq_ok.mp h
    obtain ⟨criteria, -, h⟩ := bind_eq_ok.mp h
    obtain ⟨children, hchildren, h⟩ := bind_eq_ok.mp h
    obtain ⟨data, -, h⟩ := bind_eq_ok.mp h
    cases h
    rw [collectNodes] at hm
    rcases List.mem_cons.mp hm with rfl | hm
    · exact ⟨requiredStr_ok hintent, requiredStr_ok hcapability⟩
    · exact worded_normalizeChildren payload hchildren m hm
  | .none | .bool _ | .int _ | .float _ | .str _ | .list _ | .tuple _ => by
    intro h
    rw [normalizeNode] at h
    · cases h
    · intro payload hp
      cases hp

theorem worded_normalizeChildren : ∀ (payload : Payload) {parentId : String} {path : List String}
    {nodes : List NormalizedTaskNode}, normalizeChildren parentId path payload = .ok nodes →
    ∀ m ∈ collectAll nodes, m.Worded
  | [] => by
    intro h m hm
    cases h
    cases hm
  | (key, value) :: rest => by
    intro h m hm
    rw [normalizeChildren] at h
    split at h
    · exact worded_normalizeValue value h m hm
    · exact worded_normalizeChildren rest h m hm

theorem worded_normalizeValue : ∀ (v : PyValue) {parentId : String} {path : List String}
    {nodes : List NormalizedTaskNode}, normalizeValue parentId path v = .ok nodes →
    ∀ m ∈ collectAll nodes, m.Worded
  | .list xs => fun h m hm => worded_normalizeNodes xs h m hm
  | .tuple xs => fun h m hm => worded_normalizeNodes xs h m hm
  | .none | .bool _ | .int _ | .float _ | .str _ | .dict _ => by
    intro h m hm
    cases h
    cases hm

theorem worded_normalizeNodes : ∀ (xs : List PyValue) {parentId : Option String}
    {path : List String} {index : ℕ} {nodes : List NormalizedTaskNode},
    normalizeNodes parentId path index xs = .ok nodes → ∀ m ∈ collectAll nodes, m.Worded
  | [] => by
    intro h m hm
    cases h
    cases hm
  | x :: rest => by
    intro h m hm
    rw [normalizeNodes] at h
    obtain ⟨node, hnode, h⟩ := bind_eq_ok.mp h
    obtain ⟨others, hothers, h⟩ := bind_eq_ok.mp h
    cases h
    rw [collectAll, List.mem_append] at hm
    rcases hm with hm | hm
    · exact worded_normalizeNode x hnode m hm
    · exact worded_normalizeNodes rest hothers m hm

end

theorem worded_mapM {f : FlatTask → Except TaskTreeInputError NormalizedTaskNode}
    (hf : ∀ task n, f task = .ok n → ∀ m ∈ n.collectNodes, m.Worded) {tasks : List FlatTask}
    (h : tasks.mapM f = .ok nodes) : ∀ m ∈ collectAll nodes, m.Worded := by
  intro m hm
  rw [collectAll_eq_flatMap] at hm
  obtain ⟨n, hn, hm⟩ := List.mem_flatMap.mp hm
  obtain ⟨task, -, htask⟩ := exists_of_mem_mapM h n hn
  exact hf task n htask m hm

theorem worded_normalizeFlatNode (tasks : List FlatTask) (depth : ℕ) :
    ∀ (visiting : List String) (parentId : Option String) (task : FlatTask)
    (n : NormalizedTaskNode), normalizeFlatNode tasks depth visiting parentId task = .ok n →
      ∀ m ∈ n.collectNodes, m.Worded := by
  induction depth with
  | zero =>
    intro visiting parentId task n h
    cases h
  | succ depth ih =>
    intro visiting parentId task n h m hm
    rw [normalizeFlatNode] at h
    split at h
    · cases h
    · obtain ⟨title, -, h⟩ := bind_eq_ok.mp h
      obtain ⟨intent, hintent, h⟩ := bind_eq_ok.mp h
      obtain ⟨criteria, -, h⟩ := bind_eq_ok.mp h
      obtain ⟨capability, hcapability, h⟩ := bind_eq_ok.mp h
      obtain ⟨children, hchildren, h⟩ := bind_eq_ok.mp h
      obtain ⟨data, -, h⟩ := bind_eq_ok.mp h
      cases h
      rw [collectNodes] at hm
      rcases List.mem_cons.mp hm with rfl | hm
      · exact ⟨requiredStr_ok hintent, requiredStr_ok hcapability⟩
      · exact worded_mapM (ih _ _) hchildren m hm

theorem worded_normalizeFlatTaskPayloads {payloads : List PyValue}
    (h : normalizeFlatTaskPayloads payloads = .ok nodes) : ∀ m ∈ collectAll nodes, m.Worded := by
  obtain ⟨tasks, -, h⟩ := bind_eq_ok.mp h
  split at h
  · cases h
  · split at h
    · cases h
    · obtain ⟨roots, hroots, h⟩ := bind_eq_ok.mp h
      split at h
      · cases h
      · cases h
        exact worded_mapM (worded_normalizeFlatNode _ _ _ _) hroots

theorem worded_rootNodes {payloads : List PyValue} (h : rootNodes payloads = .ok nodes) :
    ∀ m ∈ collectAll nodes, m.Worded := by
  unfold rootNodes at h
  split at h
  · exact worded_normalizeFlatTaskPayloads h
  · exact worded_normalizeNodes _ h

end TreeInput

/-! ### The depth of a flat walk -/

namespace TreeInput

/-- **The walk ends by itself.**  A greater depth does not change what it returns. -/
theorem normalizeFlatNode_succ (tasks : List FlatTask) : ∀ (depth : ℕ) {visiting : List String}
    {parentId : Option String} {task : FlatTask}, visiting.Nodup →
    visiting ⊆ tasks.map FlatTask.nodeId → task ∈ tasks → tasks.length < depth + visiting.length →
    normalizeFlatNode tasks depth visiting parentId task =
      normalizeFlatNode tasks (depth + 1) visiting parentId task := by
  intro depth
  induction depth with
  | zero =>
    intro visiting parentId task hn hsub hmem hlen
    have hle := (hn.subperm hsub).length_le
    rw [List.length_map] at hle
    omega
  | succ depth ih =>
    intro visiting parentId task hn hsub hmem hlen
    rw [normalizeFlatNode, normalizeFlatNode]
    by_cases hnew : task.nodeId ∈ visiting
    · rw [if_pos hnew, if_pos hnew]
    · rw [if_neg hnew, if_neg hnew]
      have hsub' : task.nodeId :: visiting ⊆ tasks.map FlatTask.nodeId :=
        List.cons_subset.mpr ⟨List.mem_map_of_mem hmem, hsub⟩
      have hchildren : (childrenByParent tasks (some task.nodeId)).mapM
            (normalizeFlatNode tasks depth (task.nodeId :: visiting) (some task.nodeId)) =
          (childrenByParent tasks (some task.nodeId)).mapM
            (normalizeFlatNode tasks (depth + 1) (task.nodeId :: visiting) (some task.nodeId)) := by
        refine mapM_congr fun child hchild => ?_
        apply ih (List.nodup_cons.mpr ⟨hnew, hn⟩) hsub' (List.mem_of_mem_filter hchild)
        rw [List.length_cons]
        omega
      rw [hchildren]

end TreeInput

section

variable {data supplied : Dict String PyValue} {publisher : PublisherRef}
  {sourceRef : Option String} {tree : NormalizedTaskTree}

theorem normalizeTaskTreeInput_ok
    (h : normalizeTaskTreeInput data publisher sourceRef supplied = .ok tree) :
    tree.source = publisher ∧ ∀ m ∈ tree.iterNodes, m.Worded := by
  obtain ⟨payloads, -, h⟩ := bind_eq_ok.mp h
  obtain ⟨roots, hroots, h⟩ := bind_eq_ok.mp h
  obtain ⟨own, -, h⟩ := bind_eq_ok.mp h
  split at h
  · cases h
  · next built hbuilt =>
    cases h
    refine ⟨NormalizedTaskTree.build_source hbuilt, ?_⟩
    rw [NormalizedTaskTree.iterNodes, NormalizedTaskTree.build_rootNodes hbuilt]
    exact worded_rootNodes hroots

end

end Taskweavn
