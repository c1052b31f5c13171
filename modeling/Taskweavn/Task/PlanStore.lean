import Taskweavn.Task.Models

/-!
# Durable plans

A plan and its task nodes are rows of a database (`taskweavn/task/plan_models.py`,
`taskweavn/task/sqlite_plan_store.py`).  Rows carry a version, and a writer names
the version that it has read: `saveTaskNode` and `savePlan` refuse a stale one.

A record is validated before it is written, so every row is `Valid`, and the
database has the plan of every node.  `SqlitePlanStore` carries both, and what is
read back is what was written.

The context policy, the finalization and the outcome of a plan, and its list of
node ids, are copied along and never looked at here; they are left out.
-/

namespace Taskweavn

open Lib Py

inductive TaskRefKind
  | draft
  | published
deriving DecidableEq, Repr

/-- A reference to either a draft or a published task. -/
structure TaskRef where
  kind : TaskRefKind
  id : String
deriving DecidableEq

def TaskRef.published (taskId : String) : TaskRef := ⟨.published, taskId⟩

def TaskRef.draft (draftTaskId : String) : TaskRef := ⟨.draft, draftTaskId⟩

inductive PlanStatus
  | draft
  | reviewing
  | approved
  | published
  | running
  | finalizing
  | awaitingAcceptance
  | accepted
  | followUpNeeded
  | failed
  | cancelled
  | archived
deriving DecidableEq, Repr

inductive PlanTaskNodeReadiness
  | draft
  | reviewing
  | approved
  | published
  | cancelled
  | unknown
deriving DecidableEq, Repr

inductive PlanTaskNodeExecutionStatus
  | notStarted
  | pending
  | running
  | waitingForUser
  | done
  | failed
  | cancelled
  | unknown
deriving DecidableEq, Repr

structure Plan where
  planId : String
  sessionId : String
  sourceRawTaskId : Option String := none
  sourceDraftTreeId : Option String := none
  title : String
  objective : String
  summary : String
  status : PlanStatus := .draft
  version : ℕ := 1
  createdBy : String := "collaborator_agent"
  createdAt : DateTime
  updatedAt : DateTime
  archivedAt : Option DateTime := none
deriving DecidableEq

namespace Plan

def key (p : Plan) : String × String := (p.sessionId, p.planId)

def fieldsOk (p : Plan) : Bool :=
  Codec.text.accepts p.planId && Codec.text.accepts p.sessionId &&
    optText.accepts p.sourceRawTaskId && optText.accepts p.sourceDraftTreeId &&
    Codec.text.accepts p.title && Codec.text.accepts p.objective && Codec.text.accepts p.summary &&
    Codec.text.accepts p.createdBy

/-- The update of a row by `_copy_plan`. -/
def copied (p current : Plan) (now : DateTime) : Plan :=
  { p with version := current.version + 1, createdAt := current.createdAt, updatedAt := now }

/-- What the constructor of a plan checks. -/
def Valid (p : Plan) : Prop :=
  p.fieldsOk = true ∧ 1 ≤ p.version ∧ p.createdAt ≤ p.updatedAt ∧
    p.archivedAt.all (fun t => decide (p.createdAt ≤ t)) = true

instance (p : Plan) : Decidable p.Valid := by unfold Valid; infer_instance

end Plan

structure PlanTaskNode where
  taskNodeId : String
  planId : String
  sessionId : String
  taskIndex : String
  orderIndex : ℕ := 0
  title : String
  intent : String
  summary : String
  instructions : String := ""
  requiredCapability : Option String := none
  dependsOn : List String := []
  constraints : List String := []
  acceptanceCriteria : List String := []
  readiness : PlanTaskNodeReadiness := .draft
  execution : PlanTaskNodeExecutionStatus := .notStarted
  draftRef : Option TaskRef := none
  publishedRef : Option TaskRef := none
  resultRef : Option String := none
  errorRef : Option String := none
  fileSummaryRef : Option String := none
  auditRef : Option String := none
  version : ℕ := 1
  createdAt : DateTime
  updatedAt : DateTime
deriving DecidableEq

namespace PlanTaskNode

def key (n : PlanTaskNode) : String × String := (n.sessionId, n.taskNodeId)

def fieldsOk (n : PlanTaskNode) : Bool :=
  Codec.text.accepts n.taskNodeId && Codec.text.accepts n.planId &&
    Codec.text.accepts n.sessionId && Codec.text.accepts n.taskIndex &&
    Codec.text.accepts n.title && Codec.text.accepts n.intent && Codec.text.accepts n.summary &&
    optText.accepts n.requiredCapability &&
    (n.draftRef.all (fun r => Codec.text.accepts r.id)) &&
    (n.publishedRef.all (fun r => Codec.text.accepts r.id)) &&
    optText.accepts n.resultRef && optText.accepts n.errorRef &&
    optText.accepts n.fileSummaryRef && optText.accepts n.auditRef

/-- What the constructor of a node checks. -/
def Valid (n : PlanTaskNode) : Prop :=
  n.fieldsOk = true ∧ 1 ≤ n.version ∧ n.createdAt ≤ n.updatedAt ∧ n.taskNodeId ∉ n.dependsOn

instance (n : PlanTaskNode) : Decidable n.Valid := by unfold Valid; infer_instance

/-- The update of a row by `_copy_task_node`. -/
def copied (n current : PlanTaskNode) (now : DateTime) : PlanTaskNode :=
  { n with version := current.version + 1, createdAt := current.createdAt, updatedAt := now }

/-- The order of the nodes of a plan: order index, task index, id. -/
def planOrder (n : PlanTaskNode) : ℕ ×ₗ String ×ₗ String :=
  toLex (n.orderIndex, toLex (n.taskIndex, n.taskNodeId))

end PlanTaskNode

/-! ### The store -/

inductive PlanStoreError
  /-- Plan … not found -/
  | planNotFound (planId : String)
  /-- PlanTaskNode … not found -/
  | nodeNotFound (taskNodeId : String)
  /-- stale version for …: expected …, current … -/
  | stale (objectId : String) (expected current : ℕ)
  /-- Plan … already exists -/
  | planExists (planId : String)
  /-- Plan or PlanTaskNode already exists -/
  | integrity
  /-- Plan … is already archived -/
  | alreadyArchived (planId : String)
  /-- PlanTaskNode session_id must match Plan session_id -/
  | sessionMismatch
  /-- PlanTaskNode plan_id must match Plan plan_id -/
  | planMismatch
  /-- PlanTaskNode ids must be unique -/
  | duplicateId
  /-- PlanTaskNode task_index values must be unique -/
  | duplicateIndex
  /-- PlanTaskNode … has unknown depends_on -/
  | unknownDependency (taskNodeId : String)
  /-- a record that its constructor refuses -/
  | validation
  /-- Python int too large to convert to SQLite INTEGER -/
  | overflow
deriving DecidableEq

def indexTaken (nodes : Dict (String × String) PlanTaskNode) (n : PlanTaskNode) : Bool :=
  nodes.values.any (fun m => m.sessionId == n.sessionId && m.planId == n.planId &&
    m.taskIndex == n.taskIndex && m.taskNodeId != n.taskNodeId)

theorem indexTaken_eq_false {nodes : Dict (String × String) PlanTaskNode} {n : PlanTaskNode} :
    indexTaken nodes n = false ↔ ∀ k m, nodes.get? k = some m → m.sessionId = n.sessionId →
      m.planId = n.planId → m.taskIndex = n.taskIndex → m.taskNodeId = n.taskNodeId := by
  rw [indexTaken, List.any_eq_false]
  constructor
  · intro h k m hm hs hp hi
    have := h m (Dict.mem_values.mpr ⟨k, hm⟩)
    simpa [hs, hp, hi] using this
  · intro h m hm
    obtain ⟨k, hk⟩ := Dict.mem_values.mp hm
    simpa using h k m hk

structure SqlitePlanStore where
  plans : Dict (String × String) Plan := Dict.empty
  nodes : Dict (String × String) PlanTaskNode := Dict.empty
  plans_ok : ∀ k p, plans.get? k = some p → p.key = k ∧ p.Valid
  nodes_ok : ∀ k n, nodes.get? k = some n →
    n.key = k ∧ n.Valid ∧ (plans.get? (n.sessionId, n.planId)).isSome = true
  indexes_ok : ∀ k n, nodes.get? k = some n → indexTaken nodes n = false

namespace SqlitePlanStore

def empty : SqlitePlanStore where
  plans_ok k p h := by cases h
  nodes_ok k n h := by cases h
  indexes_ok k n h := by cases h

/-- Write the row of a plan. -/
def putPlan (store : SqlitePlanStore) (p : Plan) (h : p.Valid) : SqlitePlanStore where
  plans := store.plans.set p.key p
  nodes := store.nodes
  plans_ok k q hq := by
    rw [Dict.get?_set] at hq
    split at hq
    · next hk =>
      cases hq
      exact ⟨hk, h⟩
    · exact store.plans_ok k q hq
  nodes_ok k n hn := by
    obtain ⟨hk, hv, hp⟩ := store.nodes_ok k n hn
    refine ⟨hk, hv, ?_⟩
    rw [Dict.get?_set]
    split
    · rfl
    · exact hp
  indexes_ok := store.indexes_ok

/-- Write the row of a node whose plan is there and whose task index is free. -/
def putNode (store : SqlitePlanStore) (n : PlanTaskNode) (h : n.Valid)
    (hp : (store.plans.get? (n.sessionId, n.planId)).isSome = true)
    (hi : indexTaken store.nodes n = false) : SqlitePlanStore where
  plans := store.plans
  nodes := store.nodes.set n.key n
  plans_ok := store.plans_ok
  nodes_ok k m hm := by
    rw [Dict.get?_set] at hm
    split at hm
    · next hk =>
      cases hm
      exact ⟨hk, h, hp⟩
    · exact store.nodes_ok k m hm
  indexes_ok k m hm := by
    rw [indexTaken_eq_false] at hi ⊢
    intro k' m' hm' hs hpl hidx
    rw [Dict.get?_set] at hm hm'
    split at hm <;> split at hm'
    · cases hm
      cases hm'
      rfl
    · cases hm
      exact hi k' m' hm' hs hpl hidx
    · cases hm'
      exact (hi k m hm hs.symm hpl.symm hidx.symm).symm
    · exact indexTaken_eq_false.mp (store.indexes_ok k m hm) k' m' hm' hs hpl hidx

def getPlan (store : SqlitePlanStore) (sessionId planId : String) : Option Plan :=
  store.plans.get? (sessionId, planId)

def getTaskNode (store : SqlitePlanStore) (sessionId taskNodeId : String) : Option PlanTaskNode :=
  store.nodes.get? (sessionId, taskNodeId)

/-- The nodes of a plan, whether it is there or not. -/
def nodesOf (store : SqlitePlanStore) (sessionId planId : String) : List PlanTaskNode :=
  sortOn PlanTaskNode.planOrder
    (store.nodes.values.filter (fun n => n.sessionId == sessionId && n.planId == planId))

def listTaskNodes (store : SqlitePlanStore) (sessionId planId : String) :
    Except PlanStoreError (List PlanTaskNode) :=
  match store.getPlan sessionId planId with
  | none => .error (.planNotFound planId)
  | some _ => .ok (store.nodesOf sessionId planId)

/-- Oldest first. -/
def listPlans (store : SqlitePlanStore) (sessionId : String) : List Plan :=
  sortOn (fun p : Plan => (toLex (p.createdAt, toLex (p.updatedAt, p.planId)) :
      DateTime ×ₗ DateTime ×ₗ String))
    (store.plans.values.filter (fun p => p.sessionId == sessionId))

/-- The newest plan that is not archived. -/
def getActivePlan (store : SqlitePlanStore) (sessionId : String) : Option Plan :=
  (sortOn (fun p : Plan => (toLex (p.updatedAt, toLex (p.createdAt, p.planId)) :
      DateTime ×ₗ DateTime ×ₗ String))
    (store.plans.values.filter (fun p =>
      p.sessionId == sessionId && p.archivedAt.isNone && p.status != .archived))).getLast?

def checkVersion (current expected : ℕ) (objectId : String) : Except PlanStoreError Unit :=
  if current ≠ expected then .error (.stale objectId expected current) else .ok ()

/-- The version is checked when the caller expects one. -/
def checkExpected (current : ℕ) (expected : Option ℕ) (objectId : String) :
    Except PlanStoreError Unit :=
  match expected with
  | none => .ok ()
  | some expected => checkVersion current expected objectId

def savePlan (store : SqlitePlanStore) (plan : Plan) (expectedVersion : ℕ) (now : DateTime) :
    Except PlanStoreError Plan × SqlitePlanStore :=
  match store.getPlan plan.sessionId plan.planId with
  | none => (.error (.planNotFound plan.planId), store)
  | some current =>
    match checkVersion current.version expectedVersion plan.planId with
    | .error e => (.error e, store)
    | .ok _ =>
      let updated := plan.copied current now
      if h : updated.Valid then (.ok updated, store.putPlan updated h)
      else (.error .validation, store)

def archivePlan (store : SqlitePlanStore) (sessionId planId : String)
    (expectedVersion : Option ℕ) (now : DateTime) : Except PlanStoreError Plan × SqlitePlanStore :=
  match store.getPlan sessionId planId with
  | none => (.error (.planNotFound planId), store)
  | some current =>
    match checkExpected current.version expectedVersion planId with
    | .error e => (.error e, store)
    | .ok _ =>
      if current.status = .archived ∨ current.archivedAt ≠ none then
        (.error (.alreadyArchived planId), store)
      else
        let archived : Plan :=
          { current with
            status := .archived, archivedAt := some now, version := current.version + 1,
            updatedAt := now }
        if h : archived.Valid then (.ok archived, store.putPlan archived h)
        else (.error .validation, store)

def saveTaskNode (store : SqlitePlanStore) (node : PlanTaskNode) (expectedVersion : ℕ)
    (now : DateTime) : Except PlanStoreError PlanTaskNode × SqlitePlanStore :=
  match store.getTaskNode node.sessionId node.taskNodeId with
  | none => (.error (.nodeNotFound node.taskNodeId), store)
  | some current =>
    match checkVersion current.version expectedVersion node.taskNodeId with
    | .error e => (.error e, store)
    | .ok _ =>
      let updated := node.copied current now
      if h : updated.Valid then
        if hp : (store.plans.get? (updated.sessionId, updated.planId)).isSome = true ∧
            indexTaken store.nodes updated = false then
          (.ok updated, store.putNode updated h hp.1 hp.2)
        else (.error .integrity, store)
      else (.error .validation, store)

/-- `_validate_node_dependencies`; a constructed node does not depend on itself. -/
def validateNodeDependencies (nodes : List PlanTaskNode) : Except PlanStoreError Unit :=
  match nodes.find?
      (fun n => n.dependsOn.any (fun i => !nodes.any (fun m => m.taskNodeId == i))) with
  | some n => .error (.unknownDependency n.taskNodeId)
  | none => .ok ()

/-- `_validate_plan_nodes`, with the ids and the indexes seen so far. -/
def validatePlanNodes (plan : Plan) : (seenIds seenIndexes : List String) → List PlanTaskNode →
    Except PlanStoreError Unit
  | _, _, [] => .ok ()
  | ids, indexes, n :: rest =>
    if n.sessionId ≠ plan.sessionId then .error .sessionMismatch
    else if n.planId ≠ plan.planId then .error .planMismatch
    else if n.taskNodeId ∈ ids then .error .duplicateId
    else if n.taskIndex ∈ indexes then .error .duplicateIndex
    else validatePlanNodes plan (n.taskNodeId :: ids) (n.taskIndex :: indexes) rest

def insertTaskNode (store : SqlitePlanStore) (n : PlanTaskNode) :
    Except PlanStoreError SqlitePlanStore :=
  if 2 ^ 63 ≤ n.orderIndex then .error .overflow
  else if (store.nodes.get? n.key).isSome then .error .integrity
  else if h : n.Valid ∧ (store.plans.get? (n.sessionId, n.planId)).isSome = true ∧
      indexTaken store.nodes n = false then
    .ok (store.putNode n h.1 h.2.1 h.2.2)
  else .error .integrity

def insertTaskNodes (store : SqlitePlanStore) : List PlanTaskNode →
    Except PlanStoreError SqlitePlanStore
  | [] => .ok store
  | n :: rest =>
    match store.insertTaskNode n with
    | .error e => .error e
    | .ok store => insertTaskNodes store rest

/-- The plan and the nodes were built by their constructors. -/
def createPlan (store : SqlitePlanStore) (plan : Plan) (hplan : plan.Valid)
    (taskNodes : List PlanTaskNode) : Except PlanStoreError Plan × SqlitePlanStore :=
  let ordered := sortOn PlanTaskNode.planOrder taskNodes
  match validatePlanNodes plan [] [] ordered with
  | .error e => (.error e, store)
  | .ok _ =>
    match validateNodeDependencies ordered with
    | .error e => (.error e, store)
    | .ok _ =>
      match store.getPlan plan.sessionId plan.planId with
      | some _ => (.error (.planExists plan.planId), store)
      | none =>
        match (store.putPlan plan hplan).insertTaskNodes ordered with
        | .error e => (.error e, store)
        | .ok store => (.ok plan, store)

def addTaskNode (store : SqlitePlanStore) (node : PlanTaskNode) (expectedPlanVersion : Option ℕ)
    (now : DateTime) : Except PlanStoreError PlanTaskNode × SqlitePlanStore :=
  match store.getPlan node.sessionId node.planId with
  | none => (.error (.planNotFound node.planId), store)
  | some plan =>
    match checkExpected plan.version expectedPlanVersion node.planId with
    | .error e => (.error e, store)
    | .ok _ =>
      match validateNodeDependencies (node :: store.nodesOf node.sessionId node.planId) with
      | .error e => (.error e, store)
      | .ok _ =>
        match store.insertTaskNode node with
        | .error e => (.error e, store)
        | .ok inserted =>
          let updated := { plan with version := plan.version + 1, updatedAt := now }
          if h : updated.Valid then (.ok node, inserted.putPlan updated h)
          else (.error .validation, store)

/-! ### Reading the store -/

variable {store store' : SqlitePlanStore} {s p i : String} {n : PlanTaskNode}

theorem key_of_get (h : store.getTaskNode s i = some n) : n.sessionId = s ∧ n.taskNodeId = i := by
  have := (store.nodes_ok _ _ h).1
  exact ⟨congrArg Prod.fst this, congrArg Prod.snd this⟩

theorem plan_key_of_get {plan : Plan} (h : store.getPlan s p = some plan) :
    plan.sessionId = s ∧ plan.planId = p := by
  have := (store.plans_ok _ _ h).1
  exact ⟨congrArg Prod.fst this, congrArg Prod.snd this⟩

theorem mem_nodesOf :
    n ∈ store.nodesOf s p ↔
      store.getTaskNode s n.taskNodeId = some n ∧ n.sessionId = s ∧ n.planId = p := by
  rw [nodesOf, mem_sortOn, List.mem_filter, Dict.mem_values, Bool.and_eq_true, beq_iff_eq,
    beq_iff_eq]
  constructor
  · rintro ⟨⟨k, hk⟩, hs, hp⟩
    have hkey := (store.nodes_ok k n hk).1
    refine ⟨?_, hs, hp⟩
    rw [getTaskNode, ← hs]
    rw [← hkey] at hk
    exact hk
  · rintro ⟨hget, hs, hp⟩
    exact ⟨⟨_, hget⟩, hs, hp⟩

theorem valid_of_mem (h : n ∈ store.nodesOf s p) : n.Valid :=
  (store.nodes_ok _ _ (mem_nodesOf.mp h).1).2.1

theorem nodup_nodesOf (store : SqlitePlanStore) :
    ((store.nodesOf s p).map PlanTaskNode.taskNodeId).Nodup := by
  have hall : (store.nodes.values.map PlanTaskNode.key).Nodup :=
    Dict.nodup_map_values fun k n hn => (store.nodes_ok k n hn).1
  have hn : ((store.nodesOf s p).map PlanTaskNode.key).Nodup := by
    rw [nodesOf, ((sortOn_perm _ _).map _).nodup_iff]
    exact hall.sublist (List.filter_sublist.map _)
  have hmap : (store.nodesOf s p).map PlanTaskNode.key =
      ((store.nodesOf s p).map PlanTaskNode.taskNodeId).map (fun i => (s, i)) := by
    rw [List.map_map]
    refine List.map_congr_left ?_
    intro n hn
    rw [PlanTaskNode.key, (mem_nodesOf.mp hn).2.1]
    rfl
  rw [hmap] at hn
  exact List.Nodup.of_map _ hn

/-! ### Writing a node -/

/-- **A write of a node inverted.** -/
theorem saveTaskNode_cases (store : SqlitePlanStore) (node : PlanTaskNode) (v : ℕ)
    (now : DateTime) :
    (∃ e, store.saveTaskNode node v now = (.error e, store)) ∨
    ∃ current h hp hi, store.getTaskNode node.sessionId node.taskNodeId = some current ∧
      current.version = v ∧
      store.saveTaskNode node v now =
        (.ok (node.copied current now), store.putNode (node.copied current now) h hp hi) := by
  unfold saveTaskNode
  cases hget : store.getTaskNode node.sessionId node.taskNodeId with
  | none => exact .inl ⟨_, rfl⟩
  | some current =>
    simp only [checkVersion]
    by_cases hv : current.version ≠ v
    · rw [if_pos hv]
      exact .inl ⟨_, rfl⟩
    · rw [if_neg hv]
      by_cases h : (node.copied current now).Valid
      · by_cases hp : (store.plans.get? ((node.copied current now).sessionId,
            (node.copied current now).planId)).isSome = true ∧
            indexTaken store.nodes (node.copied current now) = false
        · right
          refine ⟨current, h, hp.1, hp.2, rfl, not_not.mp hv, ?_⟩
          simp only [dif_pos h, dif_pos hp]
        · left
          simp only [dif_pos h, dif_neg hp]
          exact ⟨_, rfl⟩
      · left
        simp only [dif_neg h]
        exact ⟨_, rfl⟩

/-- A stored node can be written again under its version, when what is written is
valid and keeps its place. -/
theorem saveTaskNode_ok {current : PlanTaskNode} {now : DateTime}
    (hcur : store.getTaskNode n.sessionId n.taskNodeId = some current)
    (hplan : n.planId = current.planId)
    (hindex : n.taskIndex = current.taskIndex) (hv : (n.copied current now).Valid) :
    ∃ h hp hi, store.saveTaskNode n current.version now =
      (.ok (n.copied current now), store.putNode (n.copied current now) h hp hi) := by
  obtain ⟨hs, hid⟩ := key_of_get hcur
  have hp : (store.plans.get? ((n.copied current now).sessionId,
      (n.copied current now).planId)).isSome = true := by
    have := (store.nodes_ok _ _ hcur).2.2
    rwa [hs, ← hplan] at this
  have hi : indexTaken store.nodes (n.copied current now) = false := by
    have := indexTaken_eq_false.mp (store.indexes_ok _ _ hcur)
    rw [indexTaken_eq_false]
    intro k m hm hms hmp hmi
    rw [this k m hm (hms.trans hs.symm) (hmp.trans hplan) (hmi.trans hindex), hid]
    rfl
  refine ⟨hv, hp, hi, ?_⟩
  simp only [saveTaskNode, hcur, checkVersion, ne_eq, not_true_eq_false, if_false, dif_pos hv,
    dif_pos (And.intro hp hi)]

/-- **A write of a plan inverted.** -/
theorem savePlan_cases (store : SqlitePlanStore) (plan : Plan) (v : ℕ) (now : DateTime) :
    (∃ e, store.savePlan plan v now = (.error e, store)) ∨
    ∃ current h, store.getPlan plan.sessionId plan.planId = some current ∧ current.version = v ∧
      store.savePlan plan v now =
        (.ok (plan.copied current now), store.putPlan (plan.copied current now) h) := by
  unfold savePlan
  cases hget : store.getPlan plan.sessionId plan.planId with
  | none => exact .inl ⟨_, rfl⟩
  | some current =>
    simp only [checkVersion]
    by_cases hv : current.version ≠ v
    · rw [if_pos hv]
      exact .inl ⟨_, rfl⟩
    · rw [if_neg hv]
      by_cases h : (plan.copied current now).Valid
      · right
        refine ⟨current, h, rfl, not_not.mp hv, ?_⟩
        simp only [dif_pos h]
      · left
        simp only [dif_neg h]
        exact ⟨_, rfl⟩

theorem savePlan_ok {plan current : Plan} {now : DateTime}
    (hcur : store.getPlan plan.sessionId plan.planId = some current)
    (hv : (plan.copied current now).Valid) :
    ∃ h, store.savePlan plan current.version now =
      (.ok (plan.copied current now), store.putPlan (plan.copied current now) h) := by
  refine ⟨hv, ?_⟩
  simp only [savePlan, hcur, checkVersion, ne_eq, not_true_eq_false, if_false, dif_pos hv]

@[simp] theorem nodesOf_putPlan {plan : Plan} (h : plan.Valid) :
    (store.putPlan plan h).nodesOf s p = store.nodesOf s p := rfl

@[simp] theorem getTaskNode_putPlan {plan : Plan} (h : plan.Valid) :
    (store.putPlan plan h).getTaskNode s i = store.getTaskNode s i := rfl

theorem getPlan_putPlan {plan : Plan} (h : plan.Valid) :
    (store.putPlan plan h).getPlan plan.sessionId plan.planId = some plan :=
  Dict.get?_set_self _ _ _

theorem getPlan_putPlan_ne {plan : Plan} (h : plan.Valid) (hk : plan.key ≠ (s, p)) :
    (store.putPlan plan h).getPlan s p = store.getPlan s p :=
  Dict.get?_set_ne _ _ hk

@[simp] theorem getPlan_putNode (h : n.Valid)
    (hp : (store.plans.get? (n.sessionId, n.planId)).isSome = true)
    (hi : indexTaken store.nodes n = false) :
    (store.putNode n h hp hi).getPlan s p = store.getPlan s p := rfl

theorem getTaskNode_putNode (h : n.Valid)
    (hp : (store.plans.get? (n.sessionId, n.planId)).isSome = true)
    (hi : indexTaken store.nodes n = false) :
    (store.putNode n h hp hi).getTaskNode s i =
      if n.key = (s, i) then some n else store.getTaskNode s i :=
  Dict.get?_set _ _ _ _

/-! ### New rows -/

theorem insertTaskNode_cases (store : SqlitePlanStore) (n : PlanTaskNode) :
    (∃ e, store.insertTaskNode n = .error e) ∨
    ∃ h hp hi, store.getTaskNode n.sessionId n.taskNodeId = none ∧
      store.insertTaskNode n = .ok (store.putNode n h hp hi) := by
  unfold insertTaskNode
  split
  · exact .inl ⟨_, rfl⟩
  · split
    · exact .inl ⟨_, rfl⟩
    · next hnone =>
      split
      · next h => exact .inr ⟨h.1, h.2.1, h.2.2, Option.not_isSome_iff_eq_none.mp hnone, rfl⟩
      · exact .inl ⟨_, rfl⟩

/-- **A new node inverted**: its id was free, and its plan is touched. -/
theorem addTaskNode_cases (store : SqlitePlanStore) (node : PlanTaskNode) (v : Option ℕ)
    (now : DateTime) :
    (∃ e, store.addTaskNode node v now = (.error e, store)) ∨
    ∃ plan h hp hi hv, store.getPlan node.sessionId node.planId = some plan ∧
      store.getTaskNode node.sessionId node.taskNodeId = none ∧
      store.addTaskNode node v now =
        (.ok node, (store.putNode node h hp hi).putPlan
          { plan with version := plan.version + 1, updatedAt := now } hv) := by
  unfold addTaskNode
  cases hplan : store.getPlan node.sessionId node.planId with
  | none => exact .inl ⟨_, rfl⟩
  | some plan =>
    simp only
    split
    · exact .inl ⟨_, rfl⟩
    · split
      · exact .inl ⟨_, rfl⟩
      · rcases store.insertTaskNode_cases node with ⟨e, he⟩ | ⟨h, hp, hi, hnone, hins⟩
        · rw [he]
          exact .inl ⟨_, rfl⟩
        · rw [hins]
          simp only
          split
          · next hv => exact .inr ⟨plan, h, hp, hi, hv, rfl, hnone, rfl⟩
          · exact .inl ⟨_, rfl⟩

theorem createPlan_cases (store : SqlitePlanStore) (plan : Plan) (hplan : plan.Valid)
    (node : PlanTaskNode) :
    (∃ e, store.createPlan plan hplan [node] = (.error e, store)) ∨
    ∃ h hp hi, store.getPlan plan.sessionId plan.planId = none ∧ node.sessionId = plan.sessionId ∧
      node.planId = plan.planId ∧ store.getTaskNode node.sessionId node.taskNodeId = none ∧
      store.createPlan plan hplan [node] =
        (.ok plan, (store.putPlan plan hplan).putNode node h hp hi) := by
  have hone : sortOn PlanTaskNode.planOrder [node] = [node] := rfl
  unfold createPlan
  simp only [hone, validatePlanNodes]
  by_cases hs : node.sessionId = plan.sessionId
  · by_cases hp : node.planId = plan.planId
    · rw [if_neg (not_not.mpr hs), if_neg (not_not.mpr hp), if_neg List.not_mem_nil,
        if_neg List.not_mem_nil]
      simp only
      split
      · exact .inl ⟨_, rfl⟩
      · cases hget : store.getPlan plan.sessionId plan.planId with
        | some _ => exact .inl ⟨_, rfl⟩
        | none =>
          simp only [insertTaskNodes]
          rcases (store.putPlan plan hplan).insertTaskNode_cases node with
            ⟨e, he⟩ | ⟨h, hpl, hi, hnone, hins⟩
          · rw [he]
            exact .inl ⟨_, rfl⟩
          · rw [hins]
            exact .inr ⟨h, hpl, hi, trivial, hs, hp, hnone, rfl⟩
    · rw [if_neg (not_not.mpr hs), if_pos hp]
      exact .inl ⟨_, rfl⟩
  · rw [if_pos hs]
    exact .inl ⟨_, rfl⟩

end SqlitePlanStore

/-! ### A concrete plan -/

def Plan.sample : Plan where
  planId := "p"
  sessionId := "s"
  title := "title"
  objective := "objective"
  summary := "summary"
  createdAt := .noon
  updatedAt := .noon

theorem Plan.valid_sample : Plan.sample.Valid := by decide

def PlanTaskNode.sample (taskNodeId taskIndex : String) : PlanTaskNode where
  taskNodeId := taskNodeId
  planId := "p"
  sessionId := "s"
  taskIndex := taskIndex
  title := "title"
  intent := "intent"
  summary := "summary"
  createdAt := .noon
  updatedAt := .noon

/-- A plan with the nodes `a` and `b`. -/
def SqlitePlanStore.sample : SqlitePlanStore :=
  (SqlitePlanStore.empty.createPlan .sample Plan.valid_sample [.sample "a" "1", .sample "b" "2"]).2

end Taskweavn
