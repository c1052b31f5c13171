import Taskweavn.Lib.ForestOrder
import Taskweavn.Task.TreeInput

/-!
# Flat task input

A flat list of tasks is read into a forest (`taskweavn/task/publisher_input.py`).  `FlatWellFormed`
says when the tasks of a list are a forest; `flatTree` is the tree below a task, and `nestedTask`
the payload that contains its children instead of being named by them.

* `normalizeFlatNode_ok`, `normalizeNode_nestedTask`: both walks make `flatTree`.
* `flat_input_exact`: a list is accepted exactly when it is well formed, and read into the trees
  that its nested form is read into.
-/

namespace Taskweavn

open Lib Py

namespace TreeInput

/-! ### The fields of a task -/

/-- The id that a task is read with. -/
def payloadId (payload : Payload) : Option String :=
  ["node_id", "id"].findSome? (optionalStr payload)

/-- The capability that a task is read with. -/
def payloadCapability (payload : Payload) : Option String :=
  ["required_capability", "capability"].findSome? (optionalStr payload)

def namedParent (payload : Payload) : Option String :=
  match lookupEntries "parent_id" payload with
  | some (.str parentId) => some parentId
  | _ => none

/-- A parent is not given, or by a text that is not blank. -/
def ParentGiven (payload : Payload) : Prop :=
  match lookupEntries "parent_id" payload with
  | none => True
  | some .none => True
  | some (.str parentId) => isBlank parentId = false
  | some _ => False

def itemText : PyValue → Option String
  | .str item => if isBlank item then none else some (strip item)
  | _ => none

/-- The criteria of a task, where they are a list of texts. -/
def payloadCriteria (payload : Payload) : Option (List String) :=
  match lookupEntries "acceptance_criteria" payload with
  | none => some []
  | some .none => some []
  | some value => (sequence? value).bind fun items => items.mapM itemText

/-- The metadata of a task, where they are a mapping. -/
def payloadMetadata (payload : Payload) : Option (Dict String PyValue) :=
  match lookupEntries "metadata" payload with
  | none => some Dict.empty
  | some (.dict items) => some (Dict.ofList items)
  | some _ => none

/-- The fields that a task must have, and the ones that it may have in one form only. -/
structure FieldsOk (payload : Payload) : Prop where
  title : (optionalStr payload "title").isSome = true
  intent : (optionalStr payload "intent").isSome = true
  capability : (payloadCapability payload).isSome = true
  criteria : (payloadCriteria payload).isSome = true
  metadata : (payloadMetadata payload).isSome = true

variable {payload : Payload} {path : List String}

theorem requiredStr_eq_ok_iff {keys : List String} {value : String} :
    requiredStr payload keys path = .ok value ↔
      keys.findSome? (optionalStr payload) = some value := by
  rw [requiredStr]
  cases keys.findSome? (optionalStr payload) with
  | none => exact ⟨fun h => (by cases h), fun h => (by cases h)⟩
  | some v => rw [Except.ok.injEq, Option.some.injEq]

theorem findSome?_one {key : String} :
    [key].findSome? (optionalStr payload) = optionalStr payload key := by
  rw [List.findSome?_cons]
  cases optionalStr payload key <;> rfl

theorem strItems_eq_ok_iff : ∀ {items : List PyValue} {index : ℕ}
    {texts : List String}, strItems path index items = .ok texts ↔
    items.mapM itemText = some texts := by
  intro items
  induction items with
  | nil =>
    intro index texts
    rw [strItems, List.mapM_nil]
    exact ⟨fun h => by cases h; rfl, fun h => by cases h; rfl⟩
  | cons item items ih =>
    intro index texts
    rw [List.mapM_cons]
    cases item with
    | str s =>
      rw [strItems, itemText]
      by_cases hblank : isBlank s = true
      · rw [if_pos hblank, if_pos hblank]
        exact ⟨fun h => (by cases h), fun h => (by cases h)⟩
      · rw [if_neg hblank, if_neg hblank]
        constructor
        · intro h
          obtain ⟨rest, hrest, h⟩ := bind_eq_ok.mp h
          cases h
          exact Option.bind_eq_some_iff.mpr
            ⟨_, rfl, Option.bind_eq_some_iff.mpr ⟨rest, ih.mp hrest, rfl⟩⟩
        · intro h
          obtain ⟨_, htext, h⟩ := Option.bind_eq_some_iff.mp h
          obtain ⟨rest, hrest, h⟩ := Option.bind_eq_some_iff.mp h
          cases htext
          cases h
          exact bind_eq_ok.mpr ⟨rest, ih.mpr hrest, rfl⟩
    | none | bool | int | float | list | tuple | dict =>
      exact ⟨fun h => (by cases h), fun h => (by cases h)⟩

theorem optionalStrTuple_eq_ok_iff {texts : List String} :
    optionalStrTuple payload "acceptance_criteria" path = .ok texts ↔
      payloadCriteria payload = some texts := by
  rw [optionalStrTuple, payloadCriteria]
  generalize lookupEntries "acceptance_criteria" payload = found
  cases found with
  | none => exact (Except.ok.injEq _ _).to_iff.trans (Option.some.injEq _ _).symm.to_iff
  | some value =>
    cases value with
    | none => exact (Except.ok.injEq _ _).to_iff.trans (Option.some.injEq _ _).symm.to_iff
    | list items | tuple items => exact strItems_eq_ok_iff
    | bool | int | float | str | dict => exact ⟨fun h => (by cases h), fun h => (by cases h)⟩

theorem metadata_eq_ok_iff {d : Dict String PyValue} :
    metadata payload path = .ok d ↔ payloadMetadata payload = some d := by
  rw [metadata, payloadMetadata]
  generalize lookupEntries "metadata" payload = found
  cases found with
  | none => exact (Except.ok.injEq _ _).to_iff.trans (Option.some.injEq _ _).symm.to_iff
  | some value =>
    cases value with
    | dict items => exact (Except.ok.injEq _ _).to_iff.trans (Option.some.injEq _ _).symm.to_iff
    | none | bool | int | float | str | list | tuple =>
      exact ⟨fun h => (by cases h), fun h => (by cases h)⟩

theorem optionalStr_parent (h : ParentGiven payload) :
    optionalStr payload "parent_id" = namedParent payload := by
  rw [ParentGiven] at h
  rw [optionalStr, namedParent]
  split at h
  · next hnone => rw [hnone]
  · next hnone => rw [hnone]
  · next parentId hsome =>
    rw [hsome]
    exact if_neg (Bool.eq_false_iff.mp h)
  · exact h.elim

/-! ### The nodes of the tasks -/

def flatNode (task : FlatTask) (parentId : Option String) (children : List NormalizedTaskNode) :
    NormalizedTaskNode where
  nodeId := task.nodeId
  parentId := parentId
  title := (optionalStr task.payload "title").getD ""
  intent := (optionalStr task.payload "intent").getD ""
  summary := optionalStr task.payload "summary"
  instructions := optionalStr task.payload "instructions"
  acceptanceCriteria := (payloadCriteria task.payload).getD []
  requiredCapability := (payloadCapability task.payload).getD ""
  agentRef := (optionalStr task.payload "agent_ref").or (optionalStr task.payload "agent")
  children := children
  metadata := (payloadMetadata task.payload).getD Dict.empty

/-- **One step of the flat walk.** -/
theorem normalizeFlatNode_eq_ok_iff {tasks : List FlatTask} {depth : ℕ} {visiting : List String}
    {parentId : Option String} {task : FlatTask} {node : NormalizedTaskNode} :
    normalizeFlatNode tasks (depth + 1) visiting parentId task = .ok node ↔
      task.nodeId ∉ visiting ∧ FieldsOk task.payload ∧ ∃ children,
        (childrenByParent tasks (some task.nodeId)).mapM
          (normalizeFlatNode tasks depth (task.nodeId :: visiting) (some task.nodeId)) =
            .ok children ∧ node = flatNode task parentId children := by
  rw [normalizeFlatNode]
  by_cases hnew : task.nodeId ∈ visiting
  · rw [if_pos hnew]
    exact ⟨fun h => (by cases h), fun h => absurd hnew h.1⟩
  rw [if_neg hnew]
  constructor
  · intro h
    obtain ⟨title, htitle, h⟩ := bind_eq_ok.mp h
    obtain ⟨intent, hintent, h⟩ := bind_eq_ok.mp h
    obtain ⟨criteria, hcriteria, h⟩ := bind_eq_ok.mp h
    obtain ⟨capability, hcapability, h⟩ := bind_eq_ok.mp h
    obtain ⟨children, hchildren, h⟩ := bind_eq_ok.mp h
    obtain ⟨data, hdata, h⟩ := bind_eq_ok.mp h
    rw [requiredStr_eq_ok_iff, findSome?_one] at htitle hintent
    rw [requiredStr_eq_ok_iff] at hcapability
    rw [optionalStrTuple_eq_ok_iff] at hcriteria
    rw [metadata_eq_ok_iff] at hdata
    cases h
    refine ⟨hnew, ⟨?_, ?_, ?_, ?_, ?_⟩, children, hchildren, ?_⟩
    · rw [htitle, Option.isSome_some]
    · rw [hintent, Option.isSome_some]
    · exact Option.isSome_of_eq_some hcapability
    · rw [hcriteria, Option.isSome_some]
    · rw [hdata, Option.isSome_some]
    · have hcap : payloadCapability task.payload = some capability := hcapability
      simp only [flatNode, htitle, hintent, hcriteria, hcap, hdata, Option.getD_some]
  · rintro ⟨-, hfields, children, hchildren, rfl⟩
    obtain ⟨title, htitle⟩ := Option.isSome_iff_exists.mp hfields.title
    obtain ⟨intent, hintent⟩ := Option.isSome_iff_exists.mp hfields.intent
    obtain ⟨capability, hcapability⟩ := Option.isSome_iff_exists.mp hfields.capability
    obtain ⟨criteria, hcriteria⟩ := Option.isSome_iff_exists.mp hfields.criteria
    obtain ⟨data, hdata⟩ := Option.isSome_iff_exists.mp hfields.metadata
    refine bind_eq_ok.mpr ⟨title, requiredStr_eq_ok_iff.mpr (findSome?_one.trans htitle), ?_⟩
    refine bind_eq_ok.mpr ⟨intent, requiredStr_eq_ok_iff.mpr (findSome?_one.trans hintent), ?_⟩
    refine bind_eq_ok.mpr ⟨criteria, optionalStrTuple_eq_ok_iff.mpr hcriteria, ?_⟩
    refine bind_eq_ok.mpr ⟨capability, requiredStr_eq_ok_iff.mpr hcapability, ?_⟩
    refine bind_eq_ok.mpr ⟨children, hchildren, ?_⟩
    refine bind_eq_ok.mpr ⟨data, metadata_eq_ok_iff.mpr hdata, ?_⟩
    simp only [flatNode, htitle, hintent, hcriteria, hcapability, hdata, Option.getD_some]
    rfl

/-! ### The trees of a forest -/

abbrev taskKids (tasks : List FlatTask) (task : FlatTask) : List FlatTask :=
  childrenByParent tasks (some task.nodeId)

def flatTree (tasks : List FlatTask) : ℕ → FlatTask → NormalizedTaskNode
  | 0, task => flatNode task task.parentId []
  | n + 1, task => flatNode task task.parentId ((taskKids tasks task).map (flatTree tasks n))

/-- A payload that contains children, and names no parent. -/
def nestedPayload (payload : Payload) (children : List PyValue) : Payload :=
  payload.filter (fun e => decide (e.1 ≠ "parent_id" ∧ e.1 ≠ "children")) ++
    [("children", .list children)]

def nestedTask (tasks : List FlatTask) : ℕ → FlatTask → PyValue
  | 0, task => .dict (nestedPayload task.payload [])
  | n + 1, task =>
    .dict (nestedPayload task.payload ((taskKids tasks task).map (nestedTask tasks n)))

section

variable {tasks l : List FlatTask}

theorem mem_childrenByParent {parentId : Option String} {task : FlatTask} :
    task ∈ childrenByParent tasks parentId ↔ task ∈ tasks ∧ task.parentId = parentId := by
  rw [childrenByParent, List.mem_filter, decide_eq_true_iff]

theorem kidsOf_taskKids (hperm : tasks.Perm l) (hl : Forest FlatTask.nodeId FlatTask.parentId l) :
    KidsOf FlatTask.nodeId FlatTask.parentId l (taskKids tasks) where
  nodup _ _ := (hperm.nodup_iff.mpr (List.Nodup.of_map _ hl.nodup)).filter _
  mem _ _ _ := by rw [taskKids, mem_childrenByParent, hperm.mem_iff]

@[simp] theorem nodeId_flatTree (tasks : List FlatTask) (n : ℕ) (task : FlatTask) :
    (flatTree tasks n task).nodeId = task.nodeId := by
  cases n <;> rfl

/-- **The flat walk** makes the tree of a task, in a forest and to a depth that the forest does
not exceed.  The tasks above the task have earlier places. -/
theorem normalizeFlatNode_ok (hperm : tasks.Perm l)
    (hl : Forest FlatTask.nodeId FlatTask.parentId l)
    (hfields : ∀ task ∈ tasks, FieldsOk task.payload) : ∀ (n : ℕ) (visiting : List String),
      ∀ task ∈ l, (∀ i ∈ visiting, ∃ b ∈ l, b.nodeId = i ∧
        place FlatTask.nodeId l b < place FlatTask.nodeId l task) →
      l.length ≤ n + place FlatTask.nodeId l task →
        normalizeFlatNode tasks n visiting task.parentId task = .ok (flatTree tasks n task) := by
  intro n
  induction n with
  | zero =>
    intro visiting task htask _ hroom
    have hlt : place FlatTask.nodeId l task < l.length := place_lt_length htask
    omega
  | succ n ih =>
    intro visiting task htask habove hroom
    have hkids := kidsOf_taskKids hperm hl
    refine normalizeFlatNode_eq_ok_iff.mpr
      ⟨fun hmem => ?_, hfields task (hperm.mem_iff.mpr htask), _, mapM_eq_ok_map fun child hchild =>
        ?_, rfl⟩
    · obtain ⟨b, hb, hid, hlt⟩ := habove _ hmem
      rw [hl.inj hb htask hid] at hlt
      exact lt_irrefl _ hlt
    · have hlink := hkids.child htask hchild
      have hplace := hl.place_lt hlink
      have hwalk := ih (task.nodeId :: visiting) child hlink.1 (fun i hi => ?_) (by omega)
      · rw [hlink.2.2] at hwalk
        exact hwalk
      · rcases List.mem_cons.mp hi with rfl | hi
        · exact ⟨task, htask, rfl, hplace⟩
        · obtain ⟨b, hb, hid, hlt⟩ := habove i hi
          exact ⟨b, hb, hid, hlt.trans hplace⟩

theorem ids_flatTree (tasks : List FlatTask) : ∀ (n : ℕ) (task : FlatTask),
    (flatTree tasks n task).collectNodes.map NormalizedTaskNode.nodeId =
      (preorder (taskKids tasks) (n + 1) task).map FlatTask.nodeId := by
  intro n
  induction n with
  | zero =>
    intro task
    rw [flatTree, NormalizedTaskNode.collectNodes_eq, preorder, List.map_cons, List.map_cons]
    simp [flatNode, preorder, NormalizedTaskNode.collectAll]
  | succ n ih =>
    intro task
    rw [NormalizedTaskNode.collectNodes_eq, NormalizedTaskNode.collectAll_eq_flatMap, preorder,
      List.map_cons, List.map_cons, nodeId_flatTree, List.map_flatMap, List.map_flatMap]
    refine congrArg (task.nodeId :: ·) ?_
    show ((taskKids tasks task).map (flatTree tasks n)).flatMap _ = _
    rw [List.flatMap_map]
    exact List.flatMap_congr fun child _ => ih child

theorem exists_of_mem_flatTree (hperm : tasks.Perm l)
    (hl : Forest FlatTask.nodeId FlatTask.parentId l) : ∀ (n : ℕ), ∀ task ∈ l,
      l.length ≤ n + place FlatTask.nodeId l task → ∀ m ∈ (flatTree tasks n task).collectNodes,
        ∃ k, ∃ task' ∈ l, m = flatTree tasks (k + 1) task' := by
  intro n
  induction n with
  | zero =>
    intro task htask hroom
    have hlt : place FlatTask.nodeId l task < l.length := place_lt_length htask
    omega
  | succ n ih =>
    intro task htask hroom m hm
    rw [NormalizedTaskNode.collectNodes_eq] at hm
    rcases List.mem_cons.mp hm with rfl | hm
    · exact ⟨n, task, htask, rfl⟩
    · rw [NormalizedTaskNode.collectAll_eq_flatMap] at hm
      obtain ⟨c, hc, hm⟩ := List.mem_flatMap.mp hm
      obtain ⟨child, hchild, rfl⟩ := List.mem_map.mp hc
      have hlink := (kidsOf_taskKids hperm hl).child htask hchild
      have hplace := hl.place_lt hlink
      exact ih child hlink.1 (by omega) m hm

theorem linkedAll_of_forall {e : Option String} : ∀ {l : List NormalizedTaskNode},
    (∀ n ∈ l, NormalizedTaskNode.Linked e n) → NormalizedTaskNode.LinkedAll e l := by
  intro l
  induction l with
  | nil => exact fun _ => trivial
  | cons n l ih =>
    intro h
    exact ⟨h n List.mem_cons_self, ih fun m hm => h m (List.mem_cons_of_mem n hm)⟩

theorem linked_flatTree (tasks : List FlatTask) : ∀ (n : ℕ) (task : FlatTask),
    NormalizedTaskNode.Linked task.parentId (flatTree tasks n task) := by
  intro n
  induction n with
  | zero => exact fun task => NormalizedTaskNode.linked_iff.mpr ⟨rfl, trivial⟩
  | succ n ih =>
    intro task
    refine NormalizedTaskNode.linked_iff.mpr ⟨rfl, linkedAll_of_forall fun m hm => ?_⟩
    obtain ⟨child, hchild, rfl⟩ := List.mem_map.mp hm
    have hlinked := ih child
    rw [(mem_childrenByParent.mp hchild).2] at hlinked
    exact hlinked

/-! ### The nested form -/

theorem lookupEntries_nestedPayload {children : List PyValue} {key : String}
    (hparent : key ≠ "parent_id") (hchildren : key ≠ "children") :
    lookupEntries key (nestedPayload payload children) = lookupEntries key payload := by
  rw [nestedPayload, lookupEntries_append,
    lookupEntries_filter (fun k => decide (k ≠ "parent_id" ∧ k ≠ "children")),
    if_pos (decide_eq_true ⟨hparent, hchildren⟩)]
  simp [lookupEntries, hchildren.symm]

theorem lookupEntries_children_nestedPayload {children : List PyValue} :
    lookupEntries "children" (nestedPayload payload children) = some (.list children) := by
  rw [nestedPayload, lookupEntries_append,
    lookupEntries_filter (fun k => decide (k ≠ "parent_id" ∧ k ≠ "children"))]
  simp [lookupEntries]

theorem optionalStr_nestedPayload {children : List PyValue} {key : String}
    (hparent : key ≠ "parent_id") (hchildren : key ≠ "children") :
    optionalStr (nestedPayload payload children) key = optionalStr payload key := by
  rw [optionalStr, optionalStr, lookupEntries_nestedPayload hparent hchildren]

theorem flatNode_nestedPayload (task : FlatTask) (parentId : Option String)
    (children : List PyValue) (nodes : List NormalizedTaskNode) :
    flatNode ⟨task.nodeId, none, nestedPayload task.payload children⟩ parentId nodes =
      flatNode task parentId nodes := by
  simp [flatNode, payloadCriteria, payloadCapability, payloadMetadata, List.findSome?_cons,
    optionalStr_nestedPayload, lookupEntries_nestedPayload]

theorem FieldsOk.nestedPayload (h : FieldsOk payload) (children : List PyValue) :
    FieldsOk (nestedPayload payload children) := by
  refine ⟨?_, ?_, ?_, ?_, ?_⟩
  · rw [optionalStr_nestedPayload (by decide) (by decide)]
    exact h.title
  · rw [optionalStr_nestedPayload (by decide) (by decide)]
    exact h.intent
  · have hcapability := h.capability
    rw [payloadCapability] at hcapability ⊢
    simpa [List.findSome?_cons, optionalStr_nestedPayload] using hcapability
  · rw [payloadCriteria, lookupEntries_nestedPayload (by decide) (by decide)]
    exact h.criteria
  · rw [payloadMetadata, lookupEntries_nestedPayload (by decide) (by decide)]
    exact h.metadata

theorem normalizeChildren_eq {parentId : String} : ∀ {payload : Payload}
    {value : PyValue}, lookupEntries "children" payload = some value →
      normalizeChildren parentId path payload = normalizeValue parentId path value := by
  intro payload
  induction payload with
  | nil =>
    intro value h
    cases h
  | cons e rest ih =>
    intro value h
    obtain ⟨key, v⟩ := e
    rw [normalizeChildren]
    rw [lookupEntries] at h
    by_cases hkey : key = "children"
    · rw [if_pos hkey] at h ⊢
      cases h
      rfl
    · rw [if_neg hkey] at h ⊢
      exact ih h

theorem normalizeNode_of_fields {nodeId : String} {parentId : Option String} {values : List PyValue}
    {children : List NormalizedTaskNode} (hid : payloadId payload = some nodeId)
    (hfields : FieldsOk payload) (hvalues : lookupEntries "children" payload = some (.list values))
    (hchildren : normalizeNodes (some nodeId) (path ++ ["children"]) 0 values = .ok children) :
    normalizeNode parentId path (.dict payload) =
      .ok (flatNode ⟨nodeId, none, payload⟩ parentId children) := by
  obtain ⟨title, htitle⟩ := Option.isSome_iff_exists.mp hfields.title
  obtain ⟨intent, hintent⟩ := Option.isSome_iff_exists.mp hfields.intent
  obtain ⟨capability, hcapability⟩ := Option.isSome_iff_exists.mp hfields.capability
  obtain ⟨criteria, hcriteria⟩ := Option.isSome_iff_exists.mp hfields.criteria
  obtain ⟨data, hdata⟩ := Option.isSome_iff_exists.mp hfields.metadata
  have hcheck : checkChildren payload path = .ok () := by
    rw [checkChildren, hvalues]
    rfl
  rw [normalizeNode]
  refine bind_eq_ok.mpr ⟨nodeId, requiredStr_eq_ok_iff.mpr hid, ?_⟩
  refine bind_eq_ok.mpr ⟨capability, requiredStr_eq_ok_iff.mpr hcapability, ?_⟩
  refine bind_eq_ok.mpr ⟨(), hcheck, ?_⟩
  refine bind_eq_ok.mpr ⟨title, requiredStr_eq_ok_iff.mpr (findSome?_one.trans htitle), ?_⟩
  refine bind_eq_ok.mpr ⟨intent, requiredStr_eq_ok_iff.mpr (findSome?_one.trans hintent), ?_⟩
  refine bind_eq_ok.mpr ⟨criteria, optionalStrTuple_eq_ok_iff.mpr hcriteria, ?_⟩
  refine bind_eq_ok.mpr ⟨children, (normalizeChildren_eq hvalues).trans hchildren, ?_⟩
  refine bind_eq_ok.mpr ⟨data, metadata_eq_ok_iff.mpr hdata, ?_⟩
  simp only [flatNode, htitle, hintent, hcriteria, hcapability, hdata, Option.getD_some]
  rfl

theorem normalizeNodes_map {α : Type} {f : α → PyValue} {g : α → NormalizedTaskNode}
    {parentId : Option String} : ∀ {as : List α},
      (∀ a ∈ as, ∀ path, normalizeNode parentId path (f a) = .ok (g a)) →
        ∀ path index, normalizeNodes parentId path index (as.map f) = .ok (as.map g) := by
  intro as
  induction as with
  | nil =>
    intro _ path index
    rfl
  | cons a as ih =>
    intro h path index
    rw [List.map_cons, normalizeNodes]
    refine bind_eq_ok.mpr ⟨g a, h a List.mem_cons_self _, ?_⟩
    exact bind_eq_ok.mpr ⟨_, ih (fun b hb => h b (List.mem_cons_of_mem a hb)) path _, rfl⟩

/-- **The nested walk** makes the same tree of the nested form of a task. -/
theorem normalizeNode_nestedTask (hfields : ∀ task ∈ tasks, FieldsOk task.payload)
    (hids : ∀ task ∈ tasks, payloadId task.payload = some task.nodeId) : ∀ (n : ℕ), ∀ task ∈ tasks,
      ∀ path, normalizeNode task.parentId path (nestedTask tasks n task) =
        .ok (flatTree tasks n task) := by
  have hstep : ∀ task ∈ tasks, ∀ (path : List String) (values : List PyValue)
      (children : List NormalizedTaskNode),
      normalizeNodes (some task.nodeId) (path ++ ["children"]) 0 values = .ok children →
        normalizeNode task.parentId path (.dict (nestedPayload task.payload values)) =
          .ok (flatNode task task.parentId children) := by
    intro task htask path values children hchildren
    have hid : payloadId (nestedPayload task.payload values) = some task.nodeId := by
      rw [← hids task htask, payloadId, payloadId]
      simp [List.findSome?_cons, optionalStr_nestedPayload]
    rw [normalizeNode_of_fields hid ((hfields task htask).nestedPayload values)
      lookupEntries_children_nestedPayload hchildren, flatNode_nestedPayload]
  intro n
  induction n with
  | zero => exact fun task htask path => hstep task htask path [] [] rfl
  | succ n ih =>
    intro task htask path
    refine hstep task htask path _ _ (normalizeNodes_map (fun child hchild path => ?_) _ _)
    obtain ⟨hmem, hparent⟩ := mem_childrenByParent.mp hchild
    rw [← hparent]
    exact ih child hmem path

/-! ### When the tasks are a forest -/

/-- The tasks are a forest, and each has the fields that it must have. -/
structure TasksOk (tasks : List FlatTask) : Prop where
  fields : ∀ task ∈ tasks, FieldsOk task.payload
  links : ParentLinks FlatTask.nodeId FlatTask.parentId tasks
  root : childrenByParent tasks none ≠ []

def flatTrees (tasks : List FlatTask) : List NormalizedTaskNode :=
  (childrenByParent tasks none).map (flatTree tasks (tasks.length + 1))

/-- The nested form of the roots. -/
def nestedTasks (tasks : List FlatTask) : List PyValue :=
  (childrenByParent tasks none).map (nestedTask tasks (tasks.length + 1))

theorem TasksOk.ids_perm (h : TasksOk tasks) :
    ((NormalizedTaskNode.collectAll (flatTrees tasks)).map NormalizedTaskNode.nodeId).Perm
      (tasks.map FlatTask.nodeId) := by
  obtain ⟨l, hperm, hl⟩ := exists_forest_iff.mpr h.links
  have hnodup : (childrenByParent tasks none).Nodup :=
    (hperm.nodup_iff.mpr (List.Nodup.of_map _ hl.nodup)).filter _
  have hlength := hperm.length_eq
  have hwalk := preorder_perm hl (kidsOf_taskKids hperm hl) hnodup
    (fun b => by rw [mem_childrenByParent, hperm.mem_iff]) (n := tasks.length + 2) (by omega)
  have hids : (NormalizedTaskNode.collectAll (flatTrees tasks)).map NormalizedTaskNode.nodeId =
      ((childrenByParent tasks none).flatMap (preorder (taskKids tasks) (tasks.length + 2))).map
        FlatTask.nodeId := by
    rw [NormalizedTaskNode.collectAll_eq_flatMap, flatTrees, List.flatMap_map, List.map_flatMap,
      List.map_flatMap]
    exact List.flatMap_congr fun task _ => ids_flatTree tasks _ task
  rw [hids]
  exact (hwalk.trans hperm.symm).map _

theorem TasksOk.mapM_roots (h : TasksOk tasks) :
    (childrenByParent tasks none).mapM (normalizeFlatNode tasks (tasks.length + 1) [] none) =
      .ok (flatTrees tasks) := by
  obtain ⟨l, hperm, hl⟩ := exists_forest_iff.mpr h.links
  refine mapM_eq_ok_map fun task htask => ?_
  obtain ⟨hmem, hnone⟩ := mem_childrenByParent.mp htask
  have hlength := hperm.length_eq
  have hwalk := normalizeFlatNode_ok hperm hl h.fields (tasks.length + 1) [] task
    (hperm.mem_iff.mp hmem) (fun _ hi => absurd hi List.not_mem_nil) (by omega)
  rw [hnone] at hwalk
  exact hwalk

theorem visited_length_of_nodup {roots : List NormalizedTaskNode}
    (h : ((NormalizedTaskNode.collectAll roots).map NormalizedTaskNode.nodeId).Nodup) :
    visited roots = (NormalizedTaskNode.collectAll roots).map NormalizedTaskNode.nodeId :=
  h.dedup

/-- **A forest is read** into its trees. -/
theorem TasksOk.flatRoots_eq (h : TasksOk tasks) : flatRoots tasks = .ok (flatTrees tasks) := by
  have hperm := h.ids_perm
  have hlength : (visited (flatTrees tasks)).length = tasks.length := by
    rw [visited_length_of_nodup (hperm.nodup_iff.mpr h.links.nodup), hperm.length_eq,
      List.length_map]
  exact bind_eq_ok.mpr ⟨_, h.mapM_roots, if_neg (not_not.mpr hlength)⟩

theorem exists_task_of_mem {depth : ℕ} : ∀ {visiting : List String} {parentId : Option String}
    {task : FlatTask} {node : NormalizedTaskNode}, task ∈ tasks → task.parentId = parentId →
      normalizeFlatNode tasks depth visiting parentId task = .ok node →
        ∀ m ∈ node.collectNodes, ∃ task' ∈ tasks, m.nodeId = task'.nodeId ∧
          m.parentId = task'.parentId ∧ FieldsOk task'.payload := by
  induction depth with
  | zero =>
    intro visiting parentId task node _ _ h
    cases h
  | succ depth ih =>
    intro visiting parentId task node htask hparent h m hm
    obtain ⟨-, hfields, children, hchildren, rfl⟩ := normalizeFlatNode_eq_ok_iff.mp h
    rw [NormalizedTaskNode.collectNodes_eq] at hm
    rcases List.mem_cons.mp hm with rfl | hm
    · exact ⟨task, htask, rfl, hparent.symm, hfields⟩
    · rw [NormalizedTaskNode.collectAll_eq_flatMap] at hm
      obtain ⟨c, hc, hm⟩ := List.mem_flatMap.mp hm
      obtain ⟨child, hchild, hnode⟩ := exists_of_mem_mapM hchildren c hc
      obtain ⟨hmem, hchildParent⟩ := mem_childrenByParent.mp hchild
      exact ih hmem hchildParent hnode m hm

/-- **Only a forest is read**, when the trees are valid and every parent that is named is there. -/
theorem tasksOk_of_flatRoots {roots : List NormalizedTaskNode}
    (hids : (tasks.map FlatTask.nodeId).Nodup)
    (hknown : ∀ a ∈ tasks, ∀ p, a.parentId = some p → ∃ b ∈ tasks, b.nodeId = p)
    (hroot : childrenByParent tasks none ≠ []) (h : flatRoots tasks = .ok roots)
    (hnodup : ((NormalizedTaskNode.collectAll roots).map NormalizedTaskNode.nodeId).Nodup)
    (hlinked : NormalizedTaskNode.LinkedAll none roots) : TasksOk tasks := by
  obtain ⟨roots', hmap, h⟩ := bind_eq_ok.mp h
  split at h
  case isTrue => cases h
  case isFalse hcount =>
  cases h
  have hread : ∀ m ∈ NormalizedTaskNode.collectAll roots, ∃ task ∈ tasks,
      m.nodeId = task.nodeId ∧ m.parentId = task.parentId ∧ FieldsOk task.payload := by
    intro m hm
    rw [NormalizedTaskNode.collectAll_eq_flatMap] at hm
    obtain ⟨root, hr, hm⟩ := List.mem_flatMap.mp hm
    obtain ⟨task, htask, hnode⟩ := exists_of_mem_mapM hmap root hr
    obtain ⟨hmem, hnone⟩ := mem_childrenByParent.mp htask
    exact exists_task_of_mem hmem hnone hnode m hm
  -- as many nodes as tasks: every task has its node
  have hperm : ((NormalizedTaskNode.collectAll roots).map NormalizedTaskNode.nodeId).Perm
      (tasks.map FlatTask.nodeId) := by
    refine (hnodup.subperm fun i hi => ?_).perm_of_length_le ?_
    · obtain ⟨m, hm, rfl⟩ := List.mem_map.mp hi
      obtain ⟨task, htask, hid, -⟩ := hread m hm
      rw [hid]
      exact List.mem_map_of_mem htask
    · rw [← visited_length_of_nodup hnodup, not_not.mp hcount, List.length_map]
  have hnode : ∀ task ∈ tasks, ∃ m ∈ NormalizedTaskNode.collectAll roots,
      m.nodeId = task.nodeId ∧ m.parentId = task.parentId ∧ FieldsOk task.payload := by
    intro task htask
    obtain ⟨m, hm, hid⟩ := List.mem_map.mp (hperm.mem_iff.mpr (List.mem_map_of_mem htask))
    obtain ⟨task', htask', hid', hparent, hfields⟩ := hread m hm
    obtain rfl := List.inj_on_of_nodup_map hids htask' htask (hid'.symm.trans hid)
    exact ⟨m, hm, hid, hparent, hfields⟩
  refine ⟨fun task htask => ?_, ⟨hids, hknown, ?_⟩, hroot⟩
  · obtain ⟨_, _, _, _, hfields⟩ := hnode task htask
    exact hfields
  · -- the nodes come with their parents first
    have hforest : Forest NormalizedTaskNode.nodeId NormalizedTaskNode.parentId
        (NormalizedTaskNode.collectAll roots) :=
      ⟨hnodup, NormalizedTaskNode.parentsFirst_all (fun _ hp => by cases hp) roots hlinked⟩
    refine acyclic_of_lt (f := fun task =>
      ((NormalizedTaskNode.collectAll roots).map NormalizedTaskNode.nodeId).idxOf task.nodeId) ?_
    rintro a b ⟨ha, hb, hparent⟩
    obtain ⟨ma, hma, hida, hpa, -⟩ := hnode a ha
    obtain ⟨mb, hmb, hidb, -, -⟩ := hnode b hb
    rw [← hida, ← hidb]
    exact hforest.place_lt ⟨hma, hmb, by rw [hpa, hparent, hidb]⟩

end

/-! ### Lists of payloads -/

def flatTask (payload : Payload) : FlatTask where
  nodeId := (payloadId payload).getD ""
  parentId := optionalStr payload "parent_id"
  payload := payload

/-- What is checked while a list is read. -/
def Listed (payload : Payload) : Prop :=
  (payloadId payload).isSome = true ∧
    (lookupEntries "children" payload).any PyValue.truthy = false

theorem flatTasks_eq_ok_iff : ∀ {payloads : List Payload} {index : ℕ} {read tasks : List FlatTask},
    (read.map FlatTask.nodeId).Nodup →
      (flatTasks read index (payloads.map PyValue.dict) = .ok tasks ↔
        (∀ payload ∈ payloads, Listed payload) ∧
          ((read ++ payloads.map flatTask).map FlatTask.nodeId).Nodup ∧
            tasks = read ++ payloads.map flatTask) := by
  intro payloads
  induction payloads with
  | nil =>
    intro index read tasks hread
    rw [List.map_nil, flatTasks, List.map_nil, List.append_nil, Except.ok.injEq]
    constructor
    · rintro rfl
      exact ⟨fun _ h => absurd h List.not_mem_nil, hread, rfl⟩
    · rintro ⟨-, -, rfl⟩
      rfl
  | cons payload payloads ih =>
    intro index read tasks hread
    rw [List.map_cons, flatTasks]
    by_cases hchildren : (lookupEntries "children" payload).any PyValue.truthy = true
    · rw [if_pos hchildren]
      refine ⟨fun h => (by cases h), fun h => ?_⟩
      rw [(h.1 payload List.mem_cons_self).2] at hchildren
      cases hchildren
    rw [if_neg hchildren]
    cases hid : payloadId payload with
    | none =>
      constructor
      · intro h
        obtain ⟨nodeId, hrequired, -⟩ := bind_eq_ok.mp h
        have hsome : payloadId payload = some nodeId := requiredStr_eq_ok_iff.mp hrequired
        rw [hid] at hsome
        cases hsome
      · intro h
        have hsome := (h.1 payload List.mem_cons_self).1
        rw [hid] at hsome
        cases hsome
    | some nodeId =>
      have htask : flatTask payload = ⟨nodeId, optionalStr payload "parent_id", payload⟩ := by
        rw [flatTask, hid, Option.getD_some]
      have hrequired : ∀ path, requiredStr payload ["node_id", "id"] path = .ok nodeId :=
        fun _ => requiredStr_eq_ok_iff.mpr hid
      have hlisted : Listed payload :=
        ⟨by rw [hid, Option.isSome_some], Bool.eq_false_iff.mpr hchildren⟩
      rw [hrequired, List.map_cons, htask, List.append_cons]
      show (if nodeId ∈ read.map FlatTask.nodeId then Except.error _ else flatTasks _ _ _) = _ ↔ _
      by_cases hdup : nodeId ∈ read.map FlatTask.nodeId
      · rw [if_pos hdup]
        refine ⟨fun h => (by cases h), fun h => ?_⟩
        have hnodup := h.2.1
        rw [List.map_append, List.map_append, List.nodup_append] at hnodup
        exact absurd rfl ((List.nodup_append.mp hnodup.1).2.2 nodeId hdup nodeId
          (List.mem_singleton.mpr rfl))
      · rw [if_neg hdup, ih]
        · constructor
          · rintro ⟨hall, hrest⟩
            exact ⟨List.forall_mem_cons.mpr ⟨hlisted, hall⟩, hrest⟩
          · rintro ⟨hall, hrest⟩
            exact ⟨(List.forall_mem_cons.mp hall).2, hrest⟩
        · rw [List.map_append]
          exact List.nodup_append_comm.mp (List.nodup_cons.mpr ⟨hdup, hread⟩)

theorem unknownParent?_eq_none_iff {tasks : List FlatTask} : unknownParent? tasks = none ↔
    ∀ a ∈ tasks, ∀ p, a.parentId = some p → ∃ b ∈ tasks, b.nodeId = p := by
  rw [unknownParent?, List.findSome?_eq_none_iff]
  refine forall₂_congr fun a _ => ?_
  rw [Option.map_eq_none_iff]
  cases a.parentId with
  | none => exact ⟨fun _ _ hp => (by cases hp), fun _ => rfl⟩
  | some p =>
    constructor
    · intro h q hq
      cases hq
      by_contra hno
      rw [Option.filter_some_pos] at h
      · cases h
      · exact decide_eq_true fun hmem => hno (List.mem_map.mp hmem)
    · intro h
      obtain ⟨b, hb, hid⟩ := h p rfl
      exact Option.filter_some_neg (by simpa using ⟨b, hb, hid⟩)

/-- One task names another as its parent. -/
def ParentOf (payloads : List Payload) (i j : String) : Prop :=
  ∃ payload ∈ payloads, payloadId payload = some i ∧ namedParent payload = some j

/-- **When a flat list of tasks is a forest.** -/
structure FlatWellFormed (payloads : List Payload) : Prop where
  ids : ∀ payload ∈ payloads, (payloadId payload).isSome = true
  unique : (payloads.map payloadId).Nodup
  fields : ∀ payload ∈ payloads, FieldsOk payload
  childless : ∀ payload ∈ payloads,
    (lookupEntries "children" payload).any PyValue.truthy = false
  parents : ∀ payload ∈ payloads, ∀ p, namedParent payload = some p →
    ∃ parent ∈ payloads, payloadId parent = some p
  acyclic : Acyclic (ParentOf payloads)
  root : ∃ payload ∈ payloads, namedParent payload = none

structure Shows (payload : Payload) (m : NormalizedTaskNode) : Prop where
  nodeId : payloadId payload = some m.nodeId
  parentId : m.parentId = namedParent payload
  title : optionalStr payload "title" = some m.title
  intent : optionalStr payload "intent" = some m.intent
  summary : m.summary = optionalStr payload "summary"
  instructions : m.instructions = optionalStr payload "instructions"
  criteria : payloadCriteria payload = some m.acceptanceCriteria
  capability : payloadCapability payload = some m.requiredCapability
  agent : m.agentRef = (optionalStr payload "agent_ref").or (optionalStr payload "agent")
  metadata : payloadMetadata payload = some m.metadata

/-- **What a tree shows of a list**: each payload once, below the parent that it names, and
siblings in the order of the list. -/
structure ShowsForest (payloads : List Payload) (tree : NormalizedTaskTree) : Prop where
  each_once : (tree.iterNodes.map fun m => some m.nodeId).Perm (payloads.map payloadId)
  fields : ∀ m ∈ tree.iterNodes, ∃ payload ∈ payloads, Shows payload m
  child : ∀ payload ∈ payloads, ∀ p, namedParent payload = some p →
    ∃ m ∈ tree.iterNodes, m.nodeId = p ∧ ∃ c ∈ m.children, payloadId payload = some c.nodeId
  roots : (tree.rootNodes.map fun m => some m.nodeId) =
    (payloads.filter fun payload => namedParent payload = none).map payloadId
  children : ∀ m ∈ tree.iterNodes, (m.children.map fun c => some c.nodeId) =
    (payloads.filter fun payload => namedParent payload = some m.nodeId).map payloadId

section

variable {payloads : List Payload}

theorem some_nodeId_flatTask (hids : ∀ payload ∈ payloads, (payloadId payload).isSome = true) :
    ∀ payload ∈ payloads, payloadId payload = some (flatTask payload).nodeId := by
  intro payload hp
  obtain ⟨i, hi⟩ := Option.isSome_iff_exists.mp (hids payload hp)
  rw [flatTask, hi, Option.getD_some]

theorem map_payloadId (hids : ∀ payload ∈ payloads, (payloadId payload).isSome = true) :
    payloads.map payloadId = ((payloads.map flatTask).map FlatTask.nodeId).map some := by
  rw [List.map_map, List.map_map]
  exact List.map_congr_left (some_nodeId_flatTask hids)

theorem nodup_ids_iff (hids : ∀ payload ∈ payloads, (payloadId payload).isSome = true) :
    (payloads.map payloadId).Nodup ↔ ((payloads.map flatTask).map FlatTask.nodeId).Nodup := by
  rw [map_payloadId hids, List.nodup_map_iff (Option.some_injective _)]

variable (hgiven : ∀ payload ∈ payloads, ParentGiven payload)

include hgiven

theorem parentId_flatTask :
    ∀ payload ∈ payloads, (flatTask payload).parentId = namedParent payload :=
  fun payload hp => optionalStr_parent (hgiven payload hp)

theorem childrenByParent_flatTasks (parentId : Option String) :
    childrenByParent (payloads.map flatTask) parentId =
      (payloads.filter fun payload => namedParent payload = parentId).map flatTask := by
  rw [childrenByParent, List.filter_map]
  refine congrArg _ (List.filter_congr fun payload hp => ?_)
  rw [Function.comp_apply, parentId_flatTask hgiven payload hp]

/-- **A list is well formed** when its tasks are a forest. -/
theorem flatWellFormed_iff : FlatWellFormed payloads ↔
    (∀ payload ∈ payloads, Listed payload) ∧ TasksOk (payloads.map flatTask) := by
  have hparent := parentId_flatTask hgiven
  constructor
  · intro h
    have hid := some_nodeId_flatTask h.ids
    refine ⟨fun payload hp => ⟨h.ids payload hp, h.childless payload hp⟩, ?_, ⟨?_, ?_, ?_⟩, ?_⟩
    · exact List.forall_mem_map.mpr h.fields
    · exact (nodup_ids_iff h.ids).mp h.unique
    · intro a ha p hp
      obtain ⟨payload, hpayload, rfl⟩ := List.mem_map.mp ha
      rw [hparent payload hpayload] at hp
      obtain ⟨parent, hmem, hpid⟩ := h.parents payload hpayload p hp
      rw [hid parent hmem] at hpid
      exact ⟨_, List.mem_map_of_mem hmem, Option.some.inj hpid⟩
    · intro a hcycle
      refine h.acyclic a.nodeId (Relation.TransGen.lift FlatTask.nodeId ?_ _ _ hcycle)
      rintro b c ⟨hb, -, hbc⟩
      obtain ⟨payload, hpayload, rfl⟩ := List.mem_map.mp hb
      exact ⟨payload, hpayload, hid payload hpayload, by rw [← hparent payload hpayload, hbc]⟩
    · obtain ⟨payload, hp, hnone⟩ := h.root
      rw [childrenByParent_flatTasks hgiven]
      exact List.ne_nil_of_mem
        (List.mem_map_of_mem (List.mem_filter.mpr ⟨hp, decide_eq_true hnone⟩))
  · rintro ⟨hlisted, hok⟩
    have hids : ∀ payload ∈ payloads, (payloadId payload).isSome = true :=
      fun payload hp => (hlisted payload hp).1
    have hid := some_nodeId_flatTask hids
    refine ⟨hids, (nodup_ids_iff hids).mpr hok.links.nodup,
      fun payload hp => hok.fields _ (List.mem_map_of_mem hp), fun payload hp =>
        (hlisted payload hp).2, ?_, ?_, ?_⟩
    · intro payload hp p hparentp
      rw [← hparent payload hp] at hparentp
      obtain ⟨b, hb, rfl⟩ := hok.links.known _ (List.mem_map_of_mem hp) p hparentp
      obtain ⟨parent, hmem, rfl⟩ := List.mem_map.mp hb
      exact ⟨parent, hmem, hid parent hmem⟩
    · obtain ⟨l, hperm, hl⟩ := exists_forest_iff.mpr hok.links
      refine acyclic_of_lt (f := fun i => (l.map FlatTask.nodeId).idxOf i) ?_
      rintro i j ⟨payload, hp, hi, hj⟩
      rw [← hparent payload hp] at hj
      have hmem := List.mem_map_of_mem (f := flatTask) hp
      obtain ⟨b, hb, rfl⟩ := hok.links.known _ hmem j hj
      rw [hid payload hp] at hi
      cases hi
      exact hl.place_lt ⟨hperm.mem_iff.mp hmem, hperm.mem_iff.mp hb, hj⟩
    · have hroot := hok.root
      rw [childrenByParent_flatTasks hgiven] at hroot
      obtain ⟨task, htask⟩ := List.exists_mem_of_ne_nil _ hroot
      obtain ⟨payload, hp, -⟩ := List.mem_map.mp htask
      obtain ⟨hmem, hnone⟩ := List.mem_filter.mp hp
      exact ⟨payload, hmem, of_decide_eq_true hnone⟩

/-! ### What is read from a list -/

omit hgiven in
theorem TasksOk.exists_of_mem {tasks : List FlatTask} (h : TasksOk tasks)
    {m : NormalizedTaskNode} (hm : m ∈ NormalizedTaskNode.collectAll (flatTrees tasks)) :
    ∃ k, ∃ task ∈ tasks, m = flatTree tasks (k + 1) task := by
  obtain ⟨l, hperm, hl⟩ := exists_forest_iff.mpr h.links
  rw [NormalizedTaskNode.collectAll_eq_flatMap] at hm
  obtain ⟨root, hr, hm⟩ := List.mem_flatMap.mp hm
  obtain ⟨task, htask, rfl⟩ := List.mem_map.mp hr
  have hmem := hperm.mem_iff.mp (mem_childrenByParent.mp htask).1
  have hlength := hperm.length_eq
  obtain ⟨k, task', htask', heq⟩ :=
    exists_of_mem_flatTree hperm hl (tasks.length + 1) task hmem (by omega) m hm
  exact ⟨k, task', hperm.mem_iff.mpr htask', heq⟩

theorem shows_flatTree {tasks : List FlatTask} (hp : payload ∈ payloads)
    (hid : payloadId payload = some (flatTask payload).nodeId) (hfields : FieldsOk payload) (k : ℕ)
    : Shows payload (flatTree tasks (k + 1) (flatTask payload)) := by
  obtain ⟨title, htitle⟩ := Option.isSome_iff_exists.mp hfields.title
  obtain ⟨intent, hintent⟩ := Option.isSome_iff_exists.mp hfields.intent
  obtain ⟨capability, hcapability⟩ := Option.isSome_iff_exists.mp hfields.capability
  obtain ⟨criteria, hcriteria⟩ := Option.isSome_iff_exists.mp hfields.criteria
  obtain ⟨data, hdata⟩ := Option.isSome_iff_exists.mp hfields.metadata
  have hpayload : (flatTask payload).payload = payload := rfl
  refine ⟨hid, parentId_flatTask hgiven payload hp, ?_, ?_, rfl, rfl, ?_, ?_, rfl, ?_⟩
  · rw [flatTree, flatNode, hpayload, htitle, Option.getD_some]
  · rw [flatTree, flatNode, hpayload, hintent, Option.getD_some]
  · rw [flatTree, flatNode, hpayload, hcriteria, Option.getD_some]
  · rw [flatTree, flatNode, hpayload, hcapability, Option.getD_some]
  · rw [flatTree, flatNode, hpayload, hdata, Option.getD_some]

theorem map_some_flatTree {tasks : List FlatTask} (n : ℕ) (parentId : Option String)
    (hids : ∀ payload ∈ payloads, (payloadId payload).isSome = true) :
    (((childrenByParent (payloads.map flatTask) parentId).map (flatTree tasks n)).map
        fun c => some c.nodeId) =
      (payloads.filter fun payload => namedParent payload = parentId).map payloadId := by
  rw [childrenByParent_flatTasks hgiven, List.map_map, List.map_map]
  refine List.map_congr_left fun payload hp => ?_
  rw [some_nodeId_flatTask hids payload (List.mem_of_mem_filter hp)]
  simp

/-- **The trees show the list.** -/
theorem showsForest_of_ok (h : FlatWellFormed payloads) {tree : NormalizedTaskTree}
    (htree : tree.rootNodes = flatTrees (payloads.map flatTask)) : ShowsForest payloads tree := by
  have hok := ((flatWellFormed_iff hgiven).mp h).2
  have hid := some_nodeId_flatTask h.ids
  have honce : (tree.iterNodes.map fun m => some m.nodeId).Perm (payloads.map payloadId) := by
    have hperm := hok.ids_perm.map some
    rw [← map_payloadId h.ids, List.map_map] at hperm
    rw [NormalizedTaskTree.iterNodes, htree]
    exact hperm
  have hmem : ∀ m ∈ tree.iterNodes, ∃ k, ∃ payload ∈ payloads,
      m = flatTree (payloads.map flatTask) (k + 1) (flatTask payload) := by
    intro m hm
    rw [NormalizedTaskTree.iterNodes, htree] at hm
    obtain ⟨k, task, htask, rfl⟩ := hok.exists_of_mem hm
    obtain ⟨payload, hp, rfl⟩ := List.mem_map.mp htask
    exact ⟨k, payload, hp, rfl⟩
  have hchildren : ∀ m ∈ tree.iterNodes, (m.children.map fun c => some c.nodeId) =
      (payloads.filter fun payload => namedParent payload = some m.nodeId).map payloadId := by
    intro m hm
    obtain ⟨k, payload, hp, rfl⟩ := hmem m hm
    rw [nodeId_flatTree]
    exact map_some_flatTree hgiven k (some (flatTask payload).nodeId) h.ids
  refine ⟨honce, fun m hm => ?_, fun payload hp p hparent => ?_, ?_, hchildren⟩
  · obtain ⟨k, payload, hp, rfl⟩ := hmem m hm
    exact ⟨payload, hp, shows_flatTree hgiven hp (hid payload hp) (h.fields payload hp) k⟩
  · obtain ⟨parent, hparentMem, hpid⟩ := h.parents payload hp p hparent
    have hlisted : some p ∈ tree.iterNodes.map fun m => some m.nodeId := by
      rw [honce.mem_iff, ← hpid]
      exact List.mem_map_of_mem hparentMem
    obtain ⟨m, hm, hmid⟩ := List.mem_map.mp hlisted
    cases hmid
    have hbelow : payloadId payload ∈ m.children.map fun c => some c.nodeId := by
      rw [hchildren m hm]
      exact List.mem_map_of_mem (List.mem_filter.mpr ⟨hp, decide_eq_true hparent⟩)
    obtain ⟨c, hc, hcid⟩ := List.mem_map.mp hbelow
    exact ⟨m, hm, rfl, c, hc, hcid.symm⟩
  · rw [htree]
    exact map_some_flatTree hgiven _ none h.ids

end

/-! ### The whole input -/

theorem accepts_optionalStr (payload : Payload) (key : String) :
    optText.accepts (optionalStr payload key) = true := by
  cases h : optionalStr payload key with
  | none => rfl
  | some value => exact decide_eq_true (ne_empty_of_not_isBlank (optionalStr_some h))

theorem accepts_or {o o' : Option String} (h : optText.accepts o = true)
    (h' : optText.accepts o' = true) : optText.accepts (o.or o') = true := by
  cases o with
  | none => exact h'
  | some _ => exact h

theorem accepts_treeRef (data : Payload) (sourceRef : Option String) :
    optText.accepts (treeRef data sourceRef) = true := by
  refine accepts_or ?_ (accepts_or (accepts_optionalStr data "id")
    (accepts_optionalStr data "name"))
  cases hfilter : sourceRef.filter (· ≠ "") with
  | none => rfl
  | some s => exact decide_eq_true (by simpa using (Option.filter_eq_some_iff.mp hfilter).2)

theorem accepts_of_findSome? {keys : List String} {value : String}
    (h : keys.findSome? (optionalStr payload) = some value) : Codec.text.accepts value = true := by
  obtain ⟨key, -, hkey⟩ := List.exists_of_findSome?_eq_some h
  exact decide_eq_true (ne_empty_of_not_isBlank (optionalStr_some hkey))

theorem Shows.fieldsOk {m : NormalizedTaskNode} (h : Shows payload m) (hgiven : ParentGiven payload)
    : m.fieldsOk = true := by
  have hparent := accepts_optionalStr payload "parent_id"
  rw [optionalStr_parent hgiven, ← h.parentId] at hparent
  have hsummary := accepts_optionalStr payload "summary"
  rw [← h.summary] at hsummary
  have hinstructions := accepts_optionalStr payload "instructions"
  rw [← h.instructions] at hinstructions
  have hagent := accepts_or (accepts_optionalStr payload "agent_ref")
    (accepts_optionalStr payload "agent")
  rw [← h.agent] at hagent
  simp only [NormalizedTaskNode.fieldsOk, Bool.and_eq_true]
  refine ⟨⟨⟨⟨⟨⟨⟨accepts_of_findSome? h.nodeId, hparent⟩, ?_⟩, ?_⟩, hsummary⟩, hinstructions⟩,
    accepts_of_findSome? h.capability⟩, hagent⟩
  · exact accepts_of_findSome? (findSome?_one.trans h.title)
  · exact accepts_of_findSome? (findSome?_one.trans h.intent)

theorem normalizeTaskTreeInput_eq_ok_iff {data supplied : Dict String PyValue}
    {publisher : PublisherRef} {sourceRef : Option String} {tree : NormalizedTaskTree} :
    normalizeTaskTreeInput data publisher sourceRef supplied = .ok tree ↔
      ∃ values roots own, taskPayloads data.entries = .ok values ∧ rootNodes values = .ok roots ∧
        payloadMetadata data.entries = some own ∧
          NormalizedTaskTree.build roots publisher (treeRef data.entries sourceRef)
            (Dict.ofList (own.entries ++ supplied.entries)) = some tree := by
  constructor
  · intro h
    obtain ⟨values, hvalues, h⟩ := bind_eq_ok.mp h
    obtain ⟨roots, hroots, h⟩ := bind_eq_ok.mp h
    obtain ⟨own, hown, h⟩ := bind_eq_ok.mp h
    refine ⟨values, roots, own, hvalues, hroots, metadata_eq_ok_iff.mp hown, ?_⟩
    split at h
    · cases h
    · next hbuilt =>
      cases h
      exact hbuilt
  · rintro ⟨values, roots, own, hvalues, hroots, hown, hbuild⟩
    refine bind_eq_ok.mpr ⟨values, hvalues, bind_eq_ok.mpr ⟨roots, hroots, ?_⟩⟩
    refine bind_eq_ok.mpr ⟨own, metadata_eq_ok_iff.mpr hown, ?_⟩
    rw [hbuild]
    rfl

section

variable {payloads : List Payload} (hgiven : ∀ payload ∈ payloads, ParentGiven payload)

include hgiven

/-- **A flat list is read** when it is well formed, and only then, if the trees are valid. -/
theorem normalizeFlatTaskPayloads_iff {roots : List NormalizedTaskNode} :
    (normalizeFlatTaskPayloads (payloads.map PyValue.dict) = .ok roots ∧
      (validateTree [] roots).isOk = true) ↔
      FlatWellFormed payloads ∧ roots = flatTrees (payloads.map flatTask) := by
  have hempty : (([] : List FlatTask).map FlatTask.nodeId).Nodup := List.nodup_nil
  rw [flatWellFormed_iff hgiven]
  constructor
  · rintro ⟨h, hvalid⟩
    obtain ⟨tasks, htasks, h⟩ := bind_eq_ok.mp h
    obtain ⟨hlisted, hids, rfl⟩ := (flatTasks_eq_ok_iff hempty).mp htasks
    rw [List.nil_append] at hids h
    split at h
    · cases h
    next hknown =>
    split at h
    · cases h
    next hroot =>
    obtain ⟨seen, hseen⟩ : ∃ seen, validateTree [] roots = .ok seen := by
      generalize validateTree [] roots = out at hvalid
      cases out with
      | error e => cases hvalid
      | ok seen => exact ⟨seen, rfl⟩
    obtain ⟨hs, hn, hl⟩ :=
      NormalizedTaskNode.validateAll_ok roots (NormalizedTaskNode.validateTree_ok hseen)
        List.nodup_nil
    rw [hs, List.append_nil, List.nodup_reverse] at hn
    have hok := tasksOk_of_flatRoots hids (unknownParent?_eq_none_iff.mp hknown) hroot h hn hl
    rw [hok.flatRoots_eq] at h
    exact ⟨⟨hlisted, hok⟩, (Except.ok.inj h).symm⟩
  · rintro ⟨⟨hlisted, hok⟩, rfl⟩
    constructor
    · refine bind_eq_ok.mpr ⟨_, (flatTasks_eq_ok_iff hempty).mpr
        ⟨hlisted, hok.links.nodup, rfl⟩, ?_⟩
      rw [List.nil_append, unknownParent?_eq_none_iff.mpr hok.links.known]
      exact (if_neg hok.root).trans hok.flatRoots_eq
    · refine NormalizedTaskNode.validateTree_of_linked _ (linkedAll_of_forall fun m hm => ?_) ?_
      · obtain ⟨task, htask, rfl⟩ := List.mem_map.mp hm
        have hlinked := linked_flatTree (payloads.map flatTask) ((payloads.map flatTask).length + 1)
          task
        rw [(mem_childrenByParent.mp htask).2] at hlinked
        exact hlinked
      · rw [List.append_nil]
        exact hok.ids_perm.nodup_iff.mpr hok.links.nodup

end

end TreeInput

open TreeInput

def nestedForm (payloads : List Payload) : PyValue :=
  .list (nestedTasks (payloads.map flatTask))

section

variable {data supplied : Dict String PyValue} {publisher : PublisherRef}
  {sourceRef : Option String} {payloads : List Payload} {tree : NormalizedTaskTree}

theorem hasParentLinks_nestedTasks (tasks : List FlatTask) :
    hasParentLinks (nestedTasks tasks) = false := by
  rw [hasParentLinks, List.any_eq_false]
  intro v hv
  obtain ⟨task, -, rfl⟩ := List.mem_map.mp hv
  have hnone :
      ∀ children, lookupEntries "parent_id" (nestedPayload task.payload children) = none := by
    intro children
    rw [nestedPayload, lookupEntries_append,
      lookupEntries_filter (fun k => decide (k ≠ "parent_id" ∧ k ≠ "children"))]
    simp [lookupEntries]
  show ¬(lookupEntries "parent_id" (nestedPayload task.payload _)).isSome = true
  rw [hnone]
  exact Bool.false_ne_true

theorem taskPayloads_of_list {data : Payload} {values : List PyValue}
    (h : lookupEntries "tasks" data = some (.list values)) (hne : values ≠ []) :
    taskPayloads data = .ok values := by
  rw [taskPayloads, h]
  cases values with
  | nil => exact absurd rfl hne
  | cons v vs => rfl

theorem rootNodes_nestedTasks (hok : TasksOk (payloads.map flatTask))
    (hids : ∀ payload ∈ payloads, (payloadId payload).isSome = true) :
    rootNodes (nestedTasks (payloads.map flatTask)) = .ok (flatTrees (payloads.map flatTask)) := by
  rw [rootNodes, if_neg (by rw [hasParentLinks_nestedTasks]; decide)]
  refine normalizeNodes_map (fun task htask path => ?_) ["tasks"] 0
  obtain ⟨hmem, hnone⟩ := mem_childrenByParent.mp htask
  rw [← hnone]
  refine normalizeNode_nestedTask hok.fields (fun task htask => ?_) _ task hmem path
  obtain ⟨payload, hp, rfl⟩ := List.mem_map.mp htask
  exact some_nodeId_flatTask hids payload hp

theorem exists_build (data : Dict String PyValue) (sourceRef : Option String)
    (hgiven : ∀ payload ∈ payloads, ParentGiven payload)
    (hpublisher : publisher.fieldsOk = true) (h : FlatWellFormed payloads)
    (own : Dict String PyValue) :
    ∃ tree, NormalizedTaskTree.build (flatTrees (payloads.map flatTask)) publisher
      (treeRef data.entries sourceRef) own = some tree := by
  have hok := ((flatWellFormed_iff hgiven).mp h).2
  have hnodes : (NormalizedTaskNode.collectAll (flatTrees (payloads.map flatTask))).all
      NormalizedTaskNode.fieldsOk = true := by
    rw [List.all_eq_true]
    intro m hm
    obtain ⟨k, task, htask, rfl⟩ := hok.exists_of_mem hm
    obtain ⟨payload, hp, rfl⟩ := List.mem_map.mp htask
    exact (shows_flatTree hgiven hp (some_nodeId_flatTask h.ids payload hp)
      (h.fields payload hp) k).fieldsOk (hgiven payload hp)
  have hne : flatTrees (payloads.map flatTask) ≠ [] := by
    rw [flatTrees, ne_eq, List.map_eq_nil_iff]
    exact hok.root
  have hvalid := ((normalizeFlatTaskPayloads_iff hgiven).mpr ⟨h, rfl⟩).2
  refine ⟨_, dif_pos ⟨hne, hnodes, ⟨hpublisher, accepts_treeRef data.entries sourceRef⟩, hvalid⟩⟩

/-- **Flat task input.**  A list of flat tasks is accepted exactly when it is a forest with the
fields that it must have.  Its tree shows each task once, in its place, and the nested form of the
list has the same tree. -/
theorem flat_input_exact (data supplied : Dict String PyValue) (publisher : PublisherRef)
    (sourceRef : Option String) (payloads : List Payload)
    (hdata : taskPayloads data.entries = .ok (payloads.map PyValue.dict))
    (hlinks : hasParentLinks (payloads.map PyValue.dict) = true)
    (hgiven : ∀ payload ∈ payloads, ParentGiven payload)
    (hpublisher : publisher.fieldsOk = true) :
    ((∃ tree, normalizeTaskTreeInput data publisher sourceRef supplied = .ok tree) ↔
      FlatWellFormed payloads ∧ (payloadMetadata data.entries).isSome = true) ∧
    ∀ tree, normalizeTaskTreeInput data publisher sourceRef supplied = .ok tree →
      ShowsForest payloads tree ∧
        normalizeTaskTreeInput (data.set "tasks" (nestedForm payloads)) publisher sourceRef
          supplied = .ok tree := by
  have hroots : ∀ roots, rootNodes (payloads.map PyValue.dict) = .ok roots ↔
      normalizeFlatTaskPayloads (payloads.map PyValue.dict) = .ok roots := by
    intro roots
    rw [rootNodes, if_pos hlinks]
  have hread : ∀ tree, normalizeTaskTreeInput data publisher sourceRef supplied = .ok tree →
      FlatWellFormed payloads ∧ tree.rootNodes = flatTrees (payloads.map flatTask) ∧
        (payloadMetadata data.entries).isSome = true := by
    intro tree htree
    obtain ⟨values, roots, own, hvalues, hroot, hown, hbuild⟩ :=
      normalizeTaskTreeInput_eq_ok_iff.mp htree
    rw [hdata] at hvalues
    cases hvalues
    have hbuilt := NormalizedTaskTree.build_rootNodes hbuild
    obtain ⟨hformed, hflat⟩ := (normalizeFlatTaskPayloads_iff hgiven).mp
      ⟨(hroots roots).mp hroot, by rw [← hbuilt]; exact tree.valid⟩
    exact ⟨hformed, hbuilt.trans hflat, by rw [hown, Option.isSome_some]⟩
  refine ⟨⟨fun ⟨tree, htree⟩ => ?_, ?_⟩, fun tree htree => ?_⟩
  · obtain ⟨hformed, -, hown⟩ := hread tree htree
    exact ⟨hformed, hown⟩
  · rintro ⟨hformed, hown⟩
    obtain ⟨own, hown⟩ := Option.isSome_iff_exists.mp hown
    obtain ⟨tree, hbuild⟩ := exists_build data sourceRef hgiven hpublisher hformed
      (Dict.ofList (own.entries ++ supplied.entries))
    have hflat := ((normalizeFlatTaskPayloads_iff hgiven).mpr ⟨hformed, rfl⟩).1
    exact ⟨tree, normalizeTaskTreeInput_eq_ok_iff.mpr
      ⟨_, _, own, hdata, (hroots _).mpr hflat, hown, hbuild⟩⟩
  · obtain ⟨hformed, htrees, -⟩ := hread tree htree
    refine ⟨showsForest_of_ok hgiven hformed htrees, ?_⟩
    obtain ⟨values, roots, own, hvalues, hroot, hown, hbuild⟩ :=
      normalizeTaskTreeInput_eq_ok_iff.mp htree
    have hlookup : ∀ {key : String}, "tasks" ≠ key →
        lookupEntries key (data.set "tasks" (nestedForm payloads)).entries =
          lookupEntries key data.entries := fun hne => Dict.get?_set_ne data _ hne
    have htasks : taskPayloads (data.set "tasks" (nestedForm payloads)).entries =
        .ok (nestedTasks (payloads.map flatTask)) := by
      have hself : lookupEntries "tasks" (data.set "tasks" (nestedForm payloads)).entries =
          some (nestedForm payloads) := Dict.get?_set_self data _ _
      refine taskPayloads_of_list hself ?_
      rw [nestedTasks, ne_eq, List.map_eq_nil_iff]
      exact ((flatWellFormed_iff hgiven).mp hformed).2.root
    have hmetadata :
        payloadMetadata (data.set "tasks" (nestedForm payloads)).entries = some own := by
      rw [payloadMetadata, hlookup (by decide)]
      exact hown
    have href : treeRef (data.set "tasks" (nestedForm payloads)).entries sourceRef =
        treeRef data.entries sourceRef := by
      rw [treeRef, treeRef, optionalStr, optionalStr, optionalStr, optionalStr,
        hlookup (by decide), hlookup (by decide)]
    have hsame : roots = flatTrees (payloads.map flatTask) :=
      (NormalizedTaskTree.build_rootNodes hbuild).symm.trans htrees
    refine normalizeTaskTreeInput_eq_ok_iff.mpr ⟨_, roots, own, htasks, ?_, hmetadata, ?_⟩
    · rw [hsame]
      exact rootNodes_nestedTasks ((flatWellFormed_iff hgiven).mp hformed).2 hformed.ids
    · rw [href]
      exact hbuild

end

/-- The payload of a task with the fields that it must have. -/
def flatSample (nodeId : String) (rest : Payload) : Payload :=
  [("id", .str nodeId), ("title", .str "Write"), ("intent", .str "Write it down"),
    ("capability", .str "writing")] ++ rest

/-- A client that sends tasks. -/
def apiClient : PublisherRef := { kind := .api }

/-- Two tasks, one below the other. -/
def flatPair : List Payload :=
  [flatSample "a" [("parent_id", .none)], flatSample "b" [("parent_id", .str "a")]]

/-- The list is accepted, and so is its nested form. -/
theorem flat_input_exact_pair :
    ((∃ tree, normalizeTaskTreeInput (Dict.ofList [("tasks", .list (flatPair.map PyValue.dict))])
        apiClient none Dict.empty = .ok tree) ↔
      FlatWellFormed flatPair ∧ (payloadMetadata
        (Dict.ofList [("tasks", PyValue.list (flatPair.map PyValue.dict))]).entries).isSome =
          true) ∧
    ∀ tree, normalizeTaskTreeInput (Dict.ofList [("tasks", .list (flatPair.map PyValue.dict))])
        apiClient none Dict.empty = .ok tree →
      ShowsForest flatPair tree ∧
        normalizeTaskTreeInput ((Dict.ofList
          [("tasks", PyValue.list (flatPair.map PyValue.dict))]).set "tasks" (nestedForm flatPair))
            apiClient none Dict.empty = .ok tree := by
  refine flat_input_exact (Dict.ofList [("tasks", .list (flatPair.map PyValue.dict))]) Dict.empty
    apiClient none flatPair rfl (by decide) ?_ (by decide)
  intro payload hp
  rcases List.mem_cons.mp hp with rfl | hp
  · exact trivial
  · obtain rfl := List.mem_singleton.mp hp
    exact rfl

/-- One task whose metadata are a text. -/
def flatText : List Payload :=
  [flatSample "a" [("parent_id", .none), ("metadata", .str "urgent")]]

/-- **A task with other metadata than a mapping is refused**, though it has its id and the fields
that it must have, and names no parent. -/
theorem flatText_refused :
    (∀ payload ∈ flatText, (payloadId payload).isSome = true ∧
      (optionalStr payload "title").isSome = true ∧ (optionalStr payload "intent").isSome = true ∧
      (payloadCapability payload).isSome = true ∧ namedParent payload = none) ∧
    (flatText.map payloadId).Nodup ∧ Acyclic (ParentOf flatText) ∧
    hasParentLinks (flatText.map PyValue.dict) = true ∧
    normalizeTaskTreeInput (Dict.ofList [("tasks", .list (flatText.map PyValue.dict))])
      apiClient none Dict.empty = .error (.notObject ["tasks", "a", "metadata"]) := by
  have hnone : ∀ payload ∈ flatText, namedParent payload = none := by
    intro payload hp
    obtain rfl := List.mem_singleton.mp hp
    rfl
  refine ⟨fun payload hp => ?_, by decide, ?_, by decide, by rfl⟩
  · obtain rfl := List.mem_singleton.mp hp
    exact ⟨by decide, by decide, by decide, by decide, rfl⟩
  · refine acyclic_of_lt (f := fun _ => 0) ?_
    rintro i j ⟨payload, hp, -, hj⟩
    rw [hnone payload hp] at hj
    cases hj

end Taskweavn
