import Taskweavn.Task.Bus

/-!
# The SQLite task bus

`SqliteTaskBus` keeps one row for each task (`taskweavn/task/sqlite_bus.py`).  A
row has the columns that the queries filter and sort by, and the JSON of the
task.  Reading a task validates its JSON again.

The table is a dictionary by session and task id, in the order of insertion: the
two columns are declared unique.  The texts of the payload column are given by
the documents that they stand for.

* `taskFromRow_ofTask`: the row of a task reads back as the task exactly when
  the task is valid.
* `sessionOrder_le`: the rows of a session are ordered as its tasks are, although
  the creation times are compared as texts.
-/

namespace Taskweavn

open Lib Py

structure TaskRow where
  sessionId : String
  taskId : String
  parentId : Option String
  rootId : String
  status : String
  orderIndex : ℕ
  createdAt : String
  payload : PyValue
deriving DecidableEq

namespace TaskRow

/-- The values that `publish` inserts. -/
def ofTask (t : TaskDomain) : TaskRow where
  sessionId := t.sessionId
  taskId := t.taskId
  parentId := t.parentId
  rootId := t.rootId
  status := t.status.toText
  orderIndex := t.orderIndex
  createdAt := t.createdAt.isoformat
  payload := t.modelDumpJson

/-- `ORDER BY created_at ASC, order_index ASC, task_id ASC` -/
def sessionOrder (r : TaskRow) : String ×ₗ ℕ ×ₗ String :=
  toLex (r.createdAt, toLex (r.orderIndex, r.taskId))

/-- `ORDER BY order_index ASC, created_at ASC, task_id ASC` -/
def childOrder (r : TaskRow) : ℕ ×ₗ String ×ₗ String :=
  toLex (r.orderIndex, toLex (r.createdAt, r.taskId))

end TaskRow

/-! ### Reading a row -/

def legacyNullTaskPayloadFields : List String := ["waiting_for_confirmation_id"]

/-- `_drop_legacy_null_task_fields`; `none` when there is nothing to drop. -/
def dropLegacyNullTaskFields (items : List (String × PyValue)) :
    Option (List (String × PyValue)) :=
  let stale := legacyNullTaskPayloadFields.filter
    (fun name => lookupEntries name items == some .none)
  if stale.isEmpty then none else some (items.filter (fun e => !stale.contains e.1))

def taskFromLegacyPayload : PyValue → Option (Except ValidationError TaskDomain)
  | .dict items => (dropLegacyNullTaskFields items).map
    (fun l => TaskDomain.modelValidate (.dict l))
  | _ => none

def taskFromRow (row : TaskRow) : Except BusError TaskDomain :=
  match TaskDomain.modelValidate row.payload with
  | .ok t => .ok t
  | .error e =>
    match taskFromLegacyPayload row.payload with
    | none => .error (.validation e)
    | some (.ok t) => .ok t
    | some (.error e') => .error (.validation e')

/-! ### The bus -/

structure SqliteTaskBus where
  rows : Dict (String × String) TaskRow := Dict.empty

namespace SqliteTaskBus

def empty : SqliteTaskBus := {}

def get (bus : SqliteTaskBus) (sessionId taskId : String) :
    Except BusError (Option TaskDomain) :=
  match bus.rows.get? (sessionId, taskId) with
  | none => .ok none
  | some row => (taskFromRow row).map some

/-- An integer that SQLite can bind is below `2 ^ 63`. -/
def publish (bus : SqliteTaskBus) (task : TaskDomain) :
    Except BusError TaskDomain × SqliteTaskBus :=
  match publishCheck bus.get task with
  | .error e => (.error e, bus)
  | .ok _ =>
    if 2 ^ 63 ≤ task.orderIndex then (.error .overflow, bus)
    else (.ok task, { rows := bus.rows.set task.key (.ofTask task) })

def saveTask (bus : SqliteTaskBus) (t : TaskDomain) : SqliteTaskBus :=
  match bus.rows.get? t.key with
  | none => bus
  | some row =>
    { rows := bus.rows.set t.key
        { row with status := t.status.toText, payload := t.modelDumpJson } }

def listForSession (bus : SqliteTaskBus) (sessionId : String) : Except BusError (List TaskDomain) :=
  (sortOn TaskRow.sessionOrder
    (bus.rows.values.filter (fun r => r.sessionId == sessionId))).mapM taskFromRow

def listChildren (bus : SqliteTaskBus) (sessionId : String) (parentId : Option String) :
    Except BusError (List TaskDomain) :=
  (sortOn TaskRow.childOrder
    (bus.rows.values.filter (fun r => r.sessionId == sessionId && r.parentId == parentId))).mapM
    taskFromRow

/-- The rows that the query of `claim_next` selects: pending, and the parent row
is there. -/
def pendingRow (bus : SqliteTaskBus) (sessionId : String) (row : TaskRow) : Bool :=
  row.sessionId == sessionId && row.status == TaskStatus.pending.toText &&
    match row.parentId with
    | none => true
    | some parentId => (bus.rows.get? (row.sessionId, parentId)).isSome

/-- `_parent_is_done`, over the tasks of the session by id. -/
def parentIsDone (taskById : Dict String TaskDomain) (t : TaskDomain) : Bool :=
  match t.parentId with
  | none => true
  | some parentId =>
    match taskById.get? parentId with
    | none => false
    | some parent => parent.status == .done

/-- The first row whose task has the capability and a finished parent. -/
def claimLoop (capability : String) (taskById : Dict String TaskDomain) :
    List TaskRow → Except BusError (Option TaskDomain)
  | [] => .ok none
  | row :: rest => do
    let task ← taskFromRow row
    if task.requiredCapability ≠ capability then claimLoop capability taskById rest
    else if parentIsDone taskById task = false then claimLoop capability taskById rest
    else .ok (some task)

def claimNext (bus : SqliteTaskBus) (sessionId capability agentId : String) (env : CallEnv) :
    Except BusError (Option TaskDomain) × SqliteTaskBus :=
  if isBlank capability then (.error (.store .emptyCapability), bus)
  else if isBlank agentId then (.error (.store .emptyAgentId), bus)
  else
    match bus.listForSession sessionId with
    | .error e => (.error e, bus)
    | .ok sessionTasks =>
      match claimLoop capability (Dict.ofList (sessionTasks.map (fun t => (t.taskId, t))))
          (sortOn TaskRow.sessionOrder (bus.rows.values.filter (bus.pendingRow sessionId))) with
      | .error e => (.error e, bus)
      | .ok none => (.ok none, bus)
      | .ok (some task) =>
        let updated := task.claimed agentId env
        (.ok (some updated), bus.saveTask updated)

def requireTask (bus : SqliteTaskBus) (sessionId taskId : String) : Except BusError TaskDomain :=
  match bus.get sessionId taskId with
  | .error e => .error e
  | .ok none => .error (.store (.taskNotFound taskId))
  | .ok (some t) => .ok t

/-- The common body of the lifecycle methods. -/
def transition (bus : SqliteTaskBus) (sessionId taskId : String) (tr : Transition)
    (env : CallEnv) : Except BusError TaskDomain × SqliteTaskBus :=
  match tr.checkArgs.bind fun _ => (bus.requireTask sessionId taskId).bind (tr.updated env) with
  | .error e => (.error e, bus)
  | .ok updated => (.ok updated, bus.saveTask updated)

def recoverInterruptedRunningTasks (bus : SqliteTaskBus) (sessionId : String) (env : CallEnv) :
    Except BusError (List TaskDomain) × SqliteTaskBus :=
  match bus.listForSession sessionId with
  | .error e => (.error e, bus)
  | .ok tasks =>
    let recovered := recoveredTasks env 0 tasks
    (.ok recovered, recovered.foldl saveTask bus)

end SqliteTaskBus

instance : TaskBus SqliteTaskBus where
  publish := SqliteTaskBus.publish
  claimNext := SqliteTaskBus.claimNext
  transition := SqliteTaskBus.transition
  recoverInterruptedRunningTasks := SqliteTaskBus.recoverInterruptedRunningTasks
  get := SqliteTaskBus.get
  listForSession := SqliteTaskBus.listForSession
  listChildren := SqliteTaskBus.listChildren

/-! ### The row of a task -/

namespace TaskDomain

theorem modelDumpJson_jsonNormal (t : TaskDomain) :
    t.jsonNormal.modelDumpJson = t.modelDumpJson := by
  have hc : constraintsField.dump t.jsonNormal.dispatchConstraints =
      constraintsField.dump t.dispatchConstraints := by
    simp only [jsonNormal]
    cases t.dispatchConstraints with
    | none => rfl
    | some c =>
      simp [constraintsField, Codec.optional, TaskDispatchConstraints.jsonNormal,
        TaskDispatchConstraints.modelDump, Codec.metadata, Codec.metadataDoc_metadataDoc]
  simp only [modelDumpJson, jsonItems, hc]
  rfl

end TaskDomain

namespace TaskRow

/-- Writing the status and the payload of a later state of the same task gives
the row of that state. -/
theorem ofTask_sameTask {t t' : TaskDomain} (h : t.SameTask t') :
    { ofTask t with status := t'.status.toText, payload := t'.modelDumpJson } = ofTask t' := by
  simp only [ofTask, h.sessionId, h.taskId, h.parentId, h.rootId, h.orderIndex, h.createdAt]

theorem sessionOrder_le {a b : TaskDomain} :
    a.sessionOrder ≤ b.sessionOrder ↔ (ofTask a).sessionOrder ≤ (ofTask b).sessionOrder := by
  simp only [TaskDomain.sessionOrder, sessionOrder, ofTask, Prod.Lex.toLex_le_toLex,
    DateTime.isoformat_lt_iff, DateTime.isoformat_inj]

theorem childOrder_le {a b : TaskDomain} :
    a.childOrder ≤ b.childOrder ↔ (ofTask a).childOrder ≤ (ofTask b).childOrder := by
  simp only [TaskDomain.childOrder, childOrder, ofTask, Prod.Lex.toLex_le_toLex,
    DateTime.isoformat_lt_iff, DateTime.isoformat_inj]

end TaskRow

/-! ### Reading the row of a task -/

theorem field_drop {α : Type} (c : Codec α) {items : List (String × PyValue)} {n name : String}
    {default : Option α} (h : n ≠ name) :
    c.field (items.filter (fun e => !([n] : List String).contains e.1)) name default =
      c.field items name default := by
  simp only [Codec.field, lookupEntries_filter (fun k => !([n] : List String).contains k)]
  simp [h.symm]

theorem field_dropped {α : Type} (c : Codec α) {items : List (String × PyValue)} {n : String}
    {a : α} :
    c.field (items.filter (fun e => !([n] : List String).contains e.1)) n (some a) = .ok a := by
  simp only [Codec.field, lookupEntries_filter (fun k => !([n] : List String).contains k)]
  simp

/-- Dropping a field that is null and has the default `None` does not change
what is read. -/
theorem modelValidate_drop {items : List (String × PyValue)}
    (h : lookupEntries "waiting_for_confirmation_id" items = some .none) :
    TaskDomain.modelValidate (.dict (items.filter
      (fun e => !(["waiting_for_confirmation_id"] : List String).contains e.1))) =
      TaskDomain.modelValidate (.dict items) := by
  have hx : extraField TaskDomain.fieldNames (items.filter
      (fun e => !(["waiting_for_confirmation_id"] : List String).contains e.1)) =
      extraField TaskDomain.fieldNames items := by
    unfold extraField
    rw [List.find?_filter]
    congr 2
    funext e
    by_cases he : e.1 = "waiting_for_confirmation_id" <;> simp [he, TaskDomain.fieldNames]
  have hc : optText.field items "waiting_for_confirmation_id" (some none) = .ok none := by
    simp only [Codec.field, h]
    rfl
  simp only [TaskDomain.modelValidate, hx, field_dropped, hc]
  simp (disch := decide) only [field_drop]

/-- **The row of a task reads back** as the task up to JSON, exactly when the
task is valid. -/
theorem taskFromRow_ofTask (t : TaskDomain) :
    (t.Valid ∧ taskFromRow (.ofTask t) = .ok t.jsonNormal) ∨
    (¬t.Valid ∧ ∃ e, taskFromRow (.ofTask t) = .error (.validation e)) := by
  unfold taskFromRow TaskRow.ofTask
  cases hv : TaskDomain.modelValidate t.modelDumpJson with
  | ok t' =>
    obtain ⟨hvalid, rfl⟩ := TaskDomain.modelValidate_modelDumpJson.mp hv
    exact .inl ⟨hvalid, rfl⟩
  | error e =>
    right
    refine ⟨fun hvalid => ?_, ?_⟩
    · have := TaskDomain.modelValidate_modelDumpJson.mpr ⟨hvalid, rfl⟩
      rw [hv] at this
      cases this
    · -- the legacy reader drops a null field and fails in the same way
      by_cases hn : lookupEntries "waiting_for_confirmation_id" t.jsonItems = some .none
      · have hlegacy : taskFromLegacyPayload t.modelDumpJson = some (.error e) := by
          rw [← hv]
          simp only [taskFromLegacyPayload, TaskDomain.modelDumpJson, dropLegacyNullTaskFields,
            legacyNullTaskPayloadFields, List.filter, hn, BEq.rfl, List.isEmpty, Option.map]
          exact congrArg some (modelValidate_drop hn)
        exact ⟨e, by simp only [hlegacy]⟩
      · have hlegacy : taskFromLegacyPayload t.modelDumpJson = none := by
          have hb : (lookupEntries "waiting_for_confirmation_id" t.jsonItems == some .none) =
              false := by simpa using hn
          simp only [taskFromLegacyPayload, TaskDomain.modelDumpJson, dropLegacyNullTaskFields,
            legacyNullTaskPayloadFields, List.filter, hb, List.isEmpty]
          rfl
        exact ⟨e, by simp only [hlegacy]⟩

theorem mapM_taskFromRow (l : List TaskDomain) :
    ((∀ t ∈ l, t.Valid) ∧
      (l.map TaskRow.ofTask).mapM taskFromRow = .ok (l.map TaskDomain.jsonNormal)) ∨
    ((∃ t ∈ l, ¬t.Valid) ∧
      ∃ e, (l.map TaskRow.ofTask).mapM taskFromRow = .error (.validation e)) := by
  induction l with
  | nil => exact .inl ⟨by simp, rfl⟩
  | cons t rest ih =>
    rcases taskFromRow_ofTask t with ⟨hv, ht⟩ | ⟨hv, e, ht⟩
    · rcases ih with ⟨hall, hr⟩ | ⟨⟨u, hu, huv⟩, e, hr⟩
      · refine .inl ⟨?_, ?_⟩
        · intro u hu
          rcases List.mem_cons.mp hu with rfl | hu
          · exact hv
          · exact hall u hu
        · simp [List.mapM_cons, ht, hr, bind, Except.bind, pure, Except.pure]
      · refine .inr ⟨⟨u, List.mem_cons_of_mem _ hu, huv⟩, e, ?_⟩
        simp [List.mapM_cons, ht, hr, bind, Except.bind]
    · refine .inr ⟨⟨t, List.mem_cons_self, hv⟩, e, ?_⟩
      simp [List.mapM_cons, ht, bind, Except.bind]

end Taskweavn
