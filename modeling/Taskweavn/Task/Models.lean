import Taskweavn.Py.Model
import Taskweavn.Py.Text

/-!
# Published tasks

`TaskDomain` is the published execution fact that the task bus stores
(`taskweavn/task/models.py`).  The lifecycle changes a task by `model_copy`,
which runs no validator, so a `TaskDomain` here is a bare record, and
`TaskDomain.Valid` is what the constructor and the JSON reader check.

* `modelDumpJson`, `modelValidate`: the JSON of a task and its reader.
* `modelValidate_modelDumpJson`: **a dumped task can be read back exactly when it
  is valid**, and what comes back is the task up to what JSON does to the values
  of its dispatch metadata (`jsonNormal`).
-/

namespace Taskweavn

open Lib Py

inductive TaskStatus
  | pending
  | running
  | waitingForUser
  | done
  | failed
deriving DecidableEq, Repr

namespace TaskStatus

def toText : TaskStatus → String
  | pending => "pending"
  | running => "running"
  | waitingForUser => "waiting_for_user"
  | done => "done"
  | failed => "failed"

def ofText (s : String) : Option TaskStatus :=
  [pending, running, waitingForUser, done, failed].find? (fun st => st.toText == s)

theorem ofText_toText : ∀ st, ofText (toText st) = some st := by
  intro st; cases st <;> decide

theorem toText_injective : Function.Injective toText := by
  intro a b h
  have := congrArg ofText h
  simpa [ofText_toText] using this

end TaskStatus

inductive TaskInterruptRequestedBy
  | user
  | system
deriving DecidableEq, Repr

namespace TaskInterruptRequestedBy

def toText : TaskInterruptRequestedBy → String
  | user => "user"
  | system => "system"

def ofText (s : String) : Option TaskInterruptRequestedBy :=
  [user, system].find? (fun r => r.toText == s)

theorem ofText_toText : ∀ r, ofText (toText r) = some r := by
  intro r; cases r <;> decide

end TaskInterruptRequestedBy

structure TaskDispatchConstraints where
  requiredAgentId : Option String := none
  preferredAgentId : Option String := none
  requiredCapabilities : List String := []
  metadata : Dict String PyValue := Dict.empty
deriving DecidableEq

structure TaskDomain where
  taskId : String
  sessionId : String
  parentId : Option String := none
  rootId : String
  orderIndex : ℕ := 0
  intent : String
  summary : Option String := none
  instructions : Option String := none
  acceptanceCriteria : List String := []
  requiredCapability : String
  dispatchConstraints : Option TaskDispatchConstraints := none
  status : TaskStatus := .pending
  resultRef : Option String := none
  errorRef : Option String := none
  claimedBy : Option String := none
  waitingForAskId : Option String := none
  waitingForConfirmationId : Option String := none
  waitingForUserSince : Option DateTime := none
  interruptRequested : Bool := false
  interruptRequestId : Option String := none
  interruptReason : Option String := none
  interruptRequestedBy : Option TaskInterruptRequestedBy := none
  interruptRequestedAt : Option DateTime := none
  createdBy : String
  createdAt : DateTime
  startedAt : Option DateTime := none
  completedAt : Option DateTime := none
deriving DecidableEq

/-! ### Fields -/

def optText : Codec (Option String) := Codec.text.optional (by simp [Codec.text])

def optDateTime : Codec (Option DateTime) := Codec.datetime.optional (by simp [Codec.datetime])

def statusField : Codec TaskStatus :=
  Codec.literal TaskStatus.toText TaskStatus.ofText TaskStatus.ofText_toText

def requestedByField : Codec (Option TaskInterruptRequestedBy) :=
  (Codec.literal TaskInterruptRequestedBy.toText TaskInterruptRequestedBy.ofText
    TaskInterruptRequestedBy.ofText_toText).optional (by simp [Codec.literal])

namespace TaskDispatchConstraints

/-- The constraints after a trip through JSON. -/
def jsonNormal (c : TaskDispatchConstraints) : TaskDispatchConstraints :=
  { c with metadata := Codec.metadataDoc c.metadata }

def modelDump (c : TaskDispatchConstraints) : PyValue :=
  .dict
    [("required_agent_id", optText.dump c.requiredAgentId),
     ("preferred_agent_id", optText.dump c.preferredAgentId),
     ("required_capabilities", Codec.texts.dump c.requiredCapabilities),
     ("metadata", Codec.metadata.dump c.metadata)]

def fieldNames : List String :=
  ["required_agent_id", "preferred_agent_id", "required_capabilities", "metadata"]

def modelValidate : PyValue → Except ValidationError TaskDispatchConstraints
  | .dict items =>
    match extraField fieldNames items with
    | some name => .error (.extra name)
    | none => do
      let requiredAgentId ← optText.field items "required_agent_id" (some none)
      let preferredAgentId ← optText.field items "preferred_agent_id" (some none)
      let requiredCapabilities ← Codec.texts.field items "required_capabilities" (some [])
      let metadata ← Codec.metadata.field items "metadata" (some Dict.empty)
      .ok { requiredAgentId, preferredAgentId, requiredCapabilities, metadata }
  | _ => .error .notObject

def fieldsOk (c : TaskDispatchConstraints) : Bool :=
  optText.accepts c.requiredAgentId && optText.accepts c.preferredAgentId

theorem modelValidate_modelDump (c : TaskDispatchConstraints) :
    (modelValidate c.modelDump).toOption = if c.fieldsOk then some c.jsonNormal else none := by
  have hx : extraField fieldNames
      [("required_agent_id", optText.dump c.requiredAgentId),
       ("preferred_agent_id", optText.dump c.preferredAgentId),
       ("required_capabilities", Codec.texts.dump c.requiredCapabilities),
       ("metadata", Codec.metadata.dump c.metadata)] = none := rfl
  simp only [modelDump, modelValidate, hx]
  rw [optText.field_dump (a := c.requiredAgentId) rfl,
    optText.field_dump (a := c.preferredAgentId) rfl,
    Codec.texts.field_dump (a := c.requiredCapabilities) rfl,
    Codec.metadata.field_dump (a := c.metadata) rfl]
  have hn : ∀ o, optText.norm o = o := by intro o; cases o <;> rfl
  by_cases h1 : optText.accepts c.requiredAgentId <;>
    by_cases h2 : optText.accepts c.preferredAgentId <;>
    simp [h1, h2, hn, fieldsOk, jsonNormal, Codec.texts, Codec.metadata, Except.toOption,
      bind, Except.bind]

end TaskDispatchConstraints

def constraintsField : Codec (Option TaskDispatchConstraints) :=
  Codec.optional
    { dump := TaskDispatchConstraints.modelDump
      load := fun v => (TaskDispatchConstraints.modelValidate v).toOption
      accepts := TaskDispatchConstraints.fieldsOk
      norm := TaskDispatchConstraints.jsonNormal
      load_dump := TaskDispatchConstraints.modelValidate_modelDump }
    (by simp [TaskDispatchConstraints.modelDump])

/-! ### The JSON of a task -/

namespace TaskDomain

def jsonItems (t : TaskDomain) : List (String × PyValue) :=
    [("task_id", Codec.text.dump t.taskId),
     ("session_id", Codec.text.dump t.sessionId),
     ("parent_id", optText.dump t.parentId),
     ("root_id", Codec.text.dump t.rootId),
     ("order_index", Codec.nat.dump t.orderIndex),
     ("intent", Codec.text.dump t.intent),
     ("summary", optText.dump t.summary),
     ("instructions", optText.dump t.instructions),
     ("acceptance_criteria", Codec.texts.dump t.acceptanceCriteria),
     ("required_capability", Codec.text.dump t.requiredCapability),
     ("dispatch_constraints", constraintsField.dump t.dispatchConstraints),
     ("status", statusField.dump t.status),
     ("result_ref", optText.dump t.resultRef),
     ("error_ref", optText.dump t.errorRef),
     ("claimed_by", optText.dump t.claimedBy),
     ("waiting_for_ask_id", optText.dump t.waitingForAskId),
     ("waiting_for_confirmation_id", optText.dump t.waitingForConfirmationId),
     ("waiting_for_user_since", optDateTime.dump t.waitingForUserSince),
     ("interrupt_requested", Codec.bool.dump t.interruptRequested),
     ("interrupt_request_id", optText.dump t.interruptRequestId),
     ("interrupt_reason", optText.dump t.interruptReason),
     ("interrupt_requested_by", requestedByField.dump t.interruptRequestedBy),
     ("interrupt_requested_at", optDateTime.dump t.interruptRequestedAt),
     ("created_by", Codec.text.dump t.createdBy),
     ("created_at", Codec.datetime.dump t.createdAt),
     ("started_at", optDateTime.dump t.startedAt),
     ("completed_at", optDateTime.dump t.completedAt)]

/-- `TaskDomain.model_dump_json`, as the document that the text stands for. -/
def modelDumpJson (t : TaskDomain) : PyValue := .dict t.jsonItems

def fieldNames : List String :=
  ["task_id", "session_id", "parent_id", "root_id", "order_index", "intent", "summary",
   "instructions", "acceptance_criteria", "required_capability", "dispatch_constraints",
   "status", "result_ref", "error_ref", "claimed_by", "waiting_for_ask_id",
   "waiting_for_confirmation_id", "waiting_for_user_since", "interrupt_requested",
   "interrupt_request_id", "interrupt_reason", "interrupt_requested_by",
   "interrupt_requested_at", "created_by", "created_at", "started_at", "completed_at"]

def validateRoot (t : TaskDomain) : Except ValidationError TaskDomain :=
  if t.parentId = none ∧ t.rootId ≠ t.taskId then
    .error (.rule "root task must have root_id == task_id")
  else .ok t

def validateWaitingForUserLinkage (t : TaskDomain) : Except ValidationError TaskDomain :=
  if t.status = .waitingForUser then
    if t.waitingForAskId.isSome = t.waitingForConfirmationId.isSome then
      .error (.rule
        "waiting_for_user task requires exactly one active ASK or confirmation linkage")
    else .ok t
  else if t.waitingForAskId.isSome ∨ t.waitingForConfirmationId.isSome ∨
      t.waitingForUserSince.isSome then
    .error (.rule "non-waiting task must not carry active user-wait linkage")
  else .ok t

/-- `TaskDomain.model_validate`.  Ids and creation times have default factories
in the program; a stored document always has them, so here they must be there. -/
def modelValidate : PyValue → Except ValidationError TaskDomain
  | .dict items =>
    match extraField fieldNames items with
    | some name => .error (.extra name)
    | none => do
      let taskId ← Codec.text.field items "task_id" none
      let sessionId ← Codec.text.field items "session_id" none
      let parentId ← optText.field items "parent_id" (some none)
      let rootId ← Codec.text.field items "root_id" none
      let orderIndex ← Codec.nat.field items "order_index" (some 0)
      let intent ← Codec.text.field items "intent" none
      let summary ← optText.field items "summary" (some none)
      let instructions ← optText.field items "instructions" (some none)
      let acceptanceCriteria ← Codec.texts.field items "acceptance_criteria" (some [])
      let requiredCapability ← Codec.text.field items "required_capability" none
      let dispatchConstraints ← constraintsField.field items "dispatch_constraints" (some none)
      let status ← statusField.field items "status" (some .pending)
      let resultRef ← optText.field items "result_ref" (some none)
      let errorRef ← optText.field items "error_ref" (some none)
      let claimedBy ← optText.field items "claimed_by" (some none)
      let waitingForAskId ← optText.field items "waiting_for_ask_id" (some none)
      let waitingForConfirmationId ← optText.field items "waiting_for_confirmation_id" (some none)
      let waitingForUserSince ← optDateTime.field items "waiting_for_user_since" (some none)
      let interruptRequested ← Codec.bool.field items "interrupt_requested" (some false)
      let interruptRequestId ← optText.field items "interrupt_request_id" (some none)
      let interruptReason ← optText.field items "interrupt_reason" (some none)
      let interruptRequestedBy ← requestedByField.field items "interrupt_requested_by" (some none)
      let interruptRequestedAt ← optDateTime.field items "interrupt_requested_at" (some none)
      let createdBy ← Codec.text.field items "created_by" none
      let createdAt ← Codec.datetime.field items "created_at" none
      let startedAt ← optDateTime.field items "started_at" (some none)
      let completedAt ← optDateTime.field items "completed_at" (some none)
      let t : TaskDomain :=
        { taskId, sessionId, parentId, rootId, orderIndex, intent, summary, instructions,
          acceptanceCriteria, requiredCapability, dispatchConstraints, status, resultRef,
          errorRef, claimedBy, waitingForAskId, waitingForConfirmationId,
          waitingForUserSince, interruptRequested, interruptRequestId, interruptReason,
          interruptRequestedBy, interruptRequestedAt, createdBy, createdAt, startedAt,
          completedAt }
      validateWaitingForUserLinkage (← validateRoot t)
  | _ => .error .notObject

/-! ### What the reader accepts -/

/-- The checks of the single fields. -/
def fieldsOk (t : TaskDomain) : Bool :=
  Codec.text.accepts t.taskId &&
    Codec.text.accepts t.sessionId &&
    optText.accepts t.parentId &&
    Codec.text.accepts t.rootId &&
    Codec.text.accepts t.intent &&
    optText.accepts t.summary &&
    optText.accepts t.instructions &&
    Codec.text.accepts t.requiredCapability &&
    constraintsField.accepts t.dispatchConstraints &&
    optText.accepts t.resultRef &&
    optText.accepts t.errorRef &&
    optText.accepts t.claimedBy &&
    optText.accepts t.waitingForAskId &&
    optText.accepts t.waitingForConfirmationId &&
    optText.accepts t.interruptRequestId &&
    optText.accepts t.interruptReason &&
    Codec.text.accepts t.createdBy

def RootRule (t : TaskDomain) : Prop := t.parentId = none → t.rootId = t.taskId

/-- A waiting task has exactly one link, any other task has none. -/
def WaitRule (t : TaskDomain) : Prop :=
  if t.status = .waitingForUser then
    t.waitingForAskId.isSome ≠ t.waitingForConfirmationId.isSome
  else t.waitingForAskId = none ∧ t.waitingForConfirmationId = none ∧ t.waitingForUserSince = none

/-- What the constructor of a task checks. -/
def Valid (t : TaskDomain) : Prop := t.fieldsOk = true ∧ t.RootRule ∧ t.WaitRule

instance (t : TaskDomain) : Decidable t.RootRule := inferInstanceAs (Decidable (_ → _))

instance (t : TaskDomain) : Decidable t.WaitRule := by unfold WaitRule; infer_instance

instance (t : TaskDomain) : Decidable t.Valid := inferInstanceAs (Decidable (_ ∧ _))

/-- The task after a trip through JSON. -/
def jsonNormal (t : TaskDomain) : TaskDomain :=
  { t with dispatchConstraints := t.dispatchConstraints.map TaskDispatchConstraints.jsonNormal }

theorem validateRoot_eq_ok {t t' : TaskDomain} :
    validateRoot t = .ok t' ↔ t.RootRule ∧ t' = t := by
  unfold validateRoot RootRule
  by_cases hp : t.parentId = none <;> by_cases hr : t.rootId = t.taskId <;>
    simp [hp, hr, eq_comm]

theorem validateWaitingForUserLinkage_eq_ok {t t' : TaskDomain} :
    validateWaitingForUserLinkage t = .ok t' ↔ t.WaitRule ∧ t' = t := by
  unfold validateWaitingForUserLinkage WaitRule
  by_cases hs : t.status = .waitingForUser
  · simp only [hs, if_true]
    by_cases hl : t.waitingForAskId.isSome = t.waitingForConfirmationId.isSome <;>
      simp [hl, eq_comm]
  · simp only [hs, if_false]
    cases t.waitingForAskId <;> cases t.waitingForConfirmationId <;>
      cases t.waitingForUserSince <;> simp [eq_comm]

theorem norm_optText (o : Option String) : optText.norm o = o := by cases o <;> rfl

theorem norm_optDateTime (o : Option DateTime) : optDateTime.norm o = o := by cases o <;> rfl

theorem norm_requestedByField (o : Option TaskInterruptRequestedBy) :
    requestedByField.norm o = o := by cases o <;> rfl

theorem accepts_optDateTime (o : Option DateTime) : optDateTime.accepts o = true := by
  cases o <;> rfl

theorem accepts_requestedByField (o : Option TaskInterruptRequestedBy) :
    requestedByField.accepts o = true := by cases o <;> rfl

theorem validate_eq_ok {t t' : TaskDomain} :
    (validateRoot t >>= validateWaitingForUserLinkage) = .ok t' ↔
      t.RootRule ∧ t.WaitRule ∧ t' = t := by
  constructor
  · intro h
    cases hr : validateRoot t with
    | error e => rw [hr] at h; cases h
    | ok u =>
      obtain ⟨hroot, rfl⟩ := validateRoot_eq_ok.mp hr
      rw [hr] at h
      obtain ⟨hwait, rfl⟩ := validateWaitingForUserLinkage_eq_ok.mp h
      exact ⟨hroot, hwait, rfl⟩
  · rintro ⟨hroot, hwait, rfl⟩
    rw [validateRoot_eq_ok.mpr ⟨hroot, rfl⟩]
    exact validateWaitingForUserLinkage_eq_ok.mpr ⟨hwait, rfl⟩

/-- **Reading a dumped task** gives the task as JSON leaves it, and succeeds
exactly when the task is valid. -/
theorem modelValidate_modelDumpJson {t t' : TaskDomain} :
    modelValidate t.modelDumpJson = .ok t' ↔ t.Valid ∧ t' = t.jsonNormal := by
  have hx : extraField fieldNames t.jsonItems = none := rfl
  simp only [modelDumpJson, modelValidate, hx]
  rw [Codec.text.field_dump (a := t.taskId) rfl,
    Codec.text.field_dump (a := t.sessionId) rfl,
    optText.field_dump (a := t.parentId) rfl,
    Codec.text.field_dump (a := t.rootId) rfl,
    Codec.nat.field_dump (a := t.orderIndex) rfl,
    Codec.text.field_dump (a := t.intent) rfl,
    optText.field_dump (a := t.summary) rfl,
    optText.field_dump (a := t.instructions) rfl,
    Codec.texts.field_dump (a := t.acceptanceCriteria) rfl,
    Codec.text.field_dump (a := t.requiredCapability) rfl,
    constraintsField.field_dump (a := t.dispatchConstraints) rfl,
    statusField.field_dump (a := t.status) rfl,
    optText.field_dump (a := t.resultRef) rfl,
    optText.field_dump (a := t.errorRef) rfl,
    optText.field_dump (a := t.claimedBy) rfl,
    optText.field_dump (a := t.waitingForAskId) rfl,
    optText.field_dump (a := t.waitingForConfirmationId) rfl,
    optDateTime.field_dump (a := t.waitingForUserSince) rfl,
    Codec.bool.field_dump (a := t.interruptRequested) rfl,
    optText.field_dump (a := t.interruptRequestId) rfl,
    optText.field_dump (a := t.interruptReason) rfl,
    requestedByField.field_dump (a := t.interruptRequestedBy) rfl,
    optDateTime.field_dump (a := t.interruptRequestedAt) rfl,
    Codec.text.field_dump (a := t.createdBy) rfl,
    Codec.datetime.field_dump (a := t.createdAt) rfl,
    optDateTime.field_dump (a := t.startedAt) rfl,
    optDateTime.field_dump (a := t.completedAt) rfl]
  simp only [ite_error_bind, ite_error_eq_ok]
  have hc : ∀ o, constraintsField.norm o = o.map TaskDispatchConstraints.jsonNormal := fun _ => rfl
  simp only [validate_eq_ok, norm_optText, norm_optDateTime, norm_requestedByField,
    accepts_optDateTime, accepts_requestedByField, hc]
  simp only [Codec.text, Codec.nat, Codec.texts, Codec.bool, Codec.datetime, statusField,
    Codec.literal, id, Valid, fieldsOk, Bool.and_eq_true, true_and, and_assoc]
  rfl

/-- A root task with every lifecycle field at its default. -/
def sample (sessionId taskId : String) : TaskDomain where
  taskId := taskId
  sessionId := sessionId
  rootId := taskId
  intent := "intent"
  requiredCapability := "general"
  createdBy := "user"
  createdAt := ⟨2024, 1, 1, 0, 0, 0, 0, by decide⟩

theorem valid_sample : (sample "s" "a").Valid := by decide

end TaskDomain

end Taskweavn
