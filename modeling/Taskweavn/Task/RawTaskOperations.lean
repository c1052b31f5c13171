import Taskweavn.Task.AuthoringReplay
import Taskweavn.Task.RawTask

/-!
# Commands on raw tasks

`_mutate_raw_task` of `taskweavn/task/authoring_service.py` applies the operations of a
command one after the other, each to the raw task that the one before has left, and then
creates or saves the raw task.  What is read from the payload of an operation is checked
there or by the model that is built from it.

Four operations set the status.  A feasibility report and an answer set it as their payload
says and, if it says nothing, as the report or the answers have it; a new ask always sets it
to `awaiting_user`; and `set_status` sets it as its payload says.
-/

namespace Taskweavn

open Lib Py

/-- What the payload readers leave to Python and pydantic: `str(value)` of a value that is no
text, and the number that a value is read as in a `float` field. -/
structure PayloadReaders where
  strOf : PyValue → String
  floatOf : PyValue → Option ℚ

/-- What one operation draws: new ids, and two readings of the clock. -/
structure OperationReadings where
  newId : ℕ → String
  now : DateTime
  later : DateTime

/-! ### Payloads -/

/-- A model that does not take its fields. -/
def modelError : ValidationError → AuthoringException
  | .field name => ⟨.validationError, name ++ ": Input should be valid"⟩
  | .missing name => ⟨.validationError, name ++ ": Field required"⟩
  | .extra name => ⟨.validationError, name ++ ": Extra inputs are not permitted"⟩
  | .notObject => ⟨.validationError, "Input should be a valid dictionary"⟩
  | .rule message => ⟨.validationError, message⟩

/-- `tuple[str, ...]`, given as a list or as a tuple. -/
def reportTexts (items : List (String × PyValue)) (name : String) :
    Except ValidationError (List String) :=
  match lookupEntries name items with
  | some (.tuple values) => Codec.texts.field [(name, .list values)] name none
  | _ => Codec.texts.field items name (some [])

/-- A `Literal` field of a model. -/
def literalField {α : Type} (ofText : String → Option α) (items : List (String × PyValue))
    (name : String) : Except ValidationError α :=
  match lookupEntries name items with
  | none => .error (.missing name)
  | some (.str s) =>
    match ofText s with
    | some a => .ok a
    | none => .error (.field name)
  | some _ => .error (.field name)

/-- A field that may be `None` and may be left out. -/
def optionalText (items : List (String × PyValue)) (name : String) :
    Except ValidationError (Option String) :=
  match lookupEntries name items with
  | none => .ok none
  | some .none => .ok none
  | some (.str s) => .ok (some s)
  | some _ => .error (.field name)

/-- Only fields of the model (`extra="forbid"`). -/
def noExtra (names : List String) (items : List (String × PyValue)) : Except ValidationError Unit :=
  match extraField names items with
  | some name => .error (.extra name)
  | none => .ok ()

/-- A report of these fields, if they pass. -/
def FeasibilityReport.checked (status : FeasibilityStatus) (confidence : ℚ)
    (reasons missingInputs requiredCapabilities requiredPermissions : List String)
    (suggestedNextAction : FeasibilityNextAction) : Except ValidationError FeasibilityReport :=
  if hc : ¬(0 ≤ confidence ∧ confidence ≤ 1) then .error (.field "confidence")
  else if hn : (status = .needsClarification ∨ status = .needsUserPermission) ∧
      ¬(missingInputs ≠ [] ∨ requiredPermissions ≠ []) then
    .error (.rule "clarification or permission status requires missing inputs or permissions")
  else if hr : status = .ready ∧ suggestedNextAction ≠ .generateTaskTree then
    .error (.rule "ready feasibility must suggest generate_task_tree")
  else if hu : status = .unsafeRequest ∧ suggestedNextAction ≠ .decline then
    .error (.rule "unsafe feasibility must suggest decline")
  else
    .ok {
      status, confidence, reasons, missingInputs, requiredCapabilities, requiredPermissions
      suggestedNextAction
      confidence_unit := not_not.mp hc
      needs := fun h => by_contra fun hno => hn ⟨h, hno⟩
      ready_action := fun h => by_contra fun hno => hr ⟨h, hno⟩
      decline_action := fun h => by_contra fun hno => hu ⟨h, hno⟩ }

/-- `FeasibilityReport.model_validate` -/
def FeasibilityReport.modelValidate (R : PayloadReaders) (data : PyValue) :
    Except ValidationError FeasibilityReport :=
  match data with
  | .dict items => do
    let status ← literalField FeasibilityStatus.ofText items "status"
    let confidence ←
      match lookupEntries "confidence" items with
      | none => .error (.missing "confidence")
      | some v =>
        match R.floatOf v with
        | some x => .ok x
        | none => .error (.field "confidence")
    let reasons ← reportTexts items "reasons"
    let missingInputs ← reportTexts items "missing_inputs"
    let requiredCapabilities ← reportTexts items "required_capabilities"
    let requiredPermissions ← reportTexts items "required_permissions"
    let suggestedNextAction ←
      match lookupEntries "suggested_next_action" items with
      | none => .ok (FeasibilityNextAction.ofStatus status)
      | some _ => literalField FeasibilityNextAction.ofText items "suggested_next_action"
    noExtra ["status", "confidence", "reasons", "missing_inputs", "required_capabilities",
      "required_permissions", "suggested_next_action"] items
    checked status confidence reasons missingInputs requiredCapabilities requiredPermissions
      suggestedNextAction
  | _ => .error .notObject

/-- `_feasibility_from_payload`: without the key, the payload itself is the report. -/
def feasibilityFromPayload (R : PayloadReaders) (payload : Dict String PyValue) :
    Except AuthoringException FeasibilityReport :=
  (FeasibilityReport.modelValidate R
    ((payload.get? "feasibility").getD (.dict payload.entries))).mapError modelError

/-- `RawTaskAnswerOption.model_validate`; `newId` is the default of its id. -/
def RawTaskAnswerOption.modelValidate (newId : String) (data : PyValue) :
    Except ValidationError RawTaskAnswerOption :=
  match data with
  | .dict items => do
    let optionId ← Codec.text.field items "option_id" (some newId)
    let label ← Codec.text.field items "label" none
    let value ← Codec.text.field items "value" none
    let description ← optionalText items "description"
    noExtra ["option_id", "label", "value", "description"] items
    return { optionId, label, value, description }
  | _ => .error .notObject

/-- The options of an ask, the `i`-th with the `i`-th new id. -/
def optionsFrom (newId : ℕ → String) : ℕ → List PyValue →
    Except AuthoringException (List RawTaskAnswerOption)
  | _, [] => .ok []
  | i, v :: vs => do
    let option ← (RawTaskAnswerOption.modelValidate (newId i) v).mapError modelError
    let options ← optionsFrom newId (i + 1) vs
    return option :: options

/-- `payload.get("options", ())`, as what a loop over it runs through. -/
def optionValues (payload : Dict String PyValue) : Except AuthoringException (List PyValue) :=
  match payload.get? "options" with
  | none => .ok []
  | some (.list values) => .ok values
  | some (.tuple values) => .ok values
  | some (.str s) => .ok (s.toList.map fun c => .str (String.singleton c))
  | some (.dict items) => .ok (items.map fun item => .str item.1)
  | some _ => .error ⟨.typeError, "object is not iterable"⟩

def askFromPayload (env : OperationReadings) (rawTaskId : String) (payload : Dict String PyValue) :
    Except AuthoringException RawTaskAsk := do
  let values ← optionValues payload
  let options ← optionsFrom env.newId 1 values
  let question ← requireStr payload "question"
  let reason ← requireStr payload "reason"
  let askId ← payloadOr payload "ask_id" (env.newId 0)
  let createdBy ← payloadOr payload "created_by" "collaborator_agent"
  return {
    askId, rawTaskId, question, options, reason, createdBy
    required := ((payload.get? "required").getD (.bool true)).truthy
    createdAt := env.now }

def answerFromPayload (env : OperationReadings) (rawTask : RawTask)
    (payload : Dict String PyValue) : Except AuthoringException RawTaskAnswer := do
  let askId ← requireStr payload "ask_id"
  if askId ∉ rawTask.asks.map RawTaskAsk.askId then
    .error ⟨.valueError, "RawTaskAsk '" ++ askId ++ "' not found"⟩
  else if rawTask.answered askId then
    .error ⟨.valueError, "RawTaskAsk '" ++ askId ++ "' is already answered"⟩
  else do
    let value ← requireStr payload "value"
    let sourceMessageId ← requireStr payload "source_message_id"
    let answerId ← payloadOr payload "answer_id" (env.newId 0)
    return {
      answerId, rawTaskId := rawTask.rawTaskId, askId, value, sourceMessageId
      createdAt := env.now }

def statusFrom (text : String) : Except AuthoringException RawTaskStatus :=
  match RawTaskStatus.ofText text with
  | some status => .ok status
  | none => .error (modelError (.field "status"))

def statusForFeasibility (report : FeasibilityReport) (payload : Dict String PyValue)
    (current : RawTaskStatus) : Except AuthoringException RawTaskStatus :=
  match payload.get? "status" with
  | some _ => do
    let text ← requireStr payload "status"
    statusFrom text
  | none =>
    .ok (if report.status.plannable then .readyToPlan
      else if report.status.declined then .rejected
      else current)

def statusAfterAnswers (rawTask : RawTask) (answers : List RawTaskAnswer) : RawTaskStatus :=
  if ({ rawTask.toRawTaskFields with answers := answers }).unansweredAskIds = [] then .assessing
  else .awaitingUser

/-- `operation.payload.get("status") or _status_after_answers(...)` -/
def statusForAnswer (rawTask : RawTask) (answers : List RawTaskAnswer)
    (payload : Dict String PyValue) : Except AuthoringException RawTaskStatus :=
  match payload.get? "status" with
  | none => .ok (statusAfterAnswers rawTask answers)
  | some v =>
    if v.truthy then
      match v with
      | .str s => statusFrom s
      | _ => .error (modelError (.field "status"))
    else .ok (statusAfterAnswers rawTask answers)

def patchedValues (current add remove : List String) : List String :=
  add.foldl (fun values value => if value ∈ values then values else values ++ [value])
    (current.filter fun value => value ∉ remove)

/-! ### Operations -/

/-- `_raw_task_from_payload`, validated. -/
def newRawTask (R : PayloadReaders) (env : OperationReadings) (command : MutateRawTaskCommand)
    (payload : Dict String PyValue) : Except AuthoringException RawTask := do
  let new ← rawTaskFromPayload R.strOf command payload (env.newId 0)
  RawTask.validate {
    rawTaskId := new.rawTaskId
    sessionId := new.sessionId
    sourceMessageId := new.sourceMessageId
    userInput := new.userInput
    createdBy := new.createdBy
    intentSummary := new.intentSummary
    constraints := new.constraints
    assumptions := new.assumptions
    createdAt := env.now
    updatedAt := env.later }

def changeRawTask (R : PayloadReaders) (env : OperationReadings) (operation : RawTaskOperation)
    (rawTask : RawTask) : Except AuthoringException RawTask :=
  match operation.op with
  | .create => .error ⟨.valueError, "RawTask create operation must be first"⟩
  | .setIntentSummary => do
    let intentSummary ← requireStr operation.payload "intent_summary"
    RawTask.validate { rawTask.toRawTaskFields with intentSummary := some intentSummary }
  | .recordFeasibility => do
    let report ← feasibilityFromPayload R operation.payload
    let status ← statusForFeasibility report operation.payload rawTask.status
    RawTask.validate { rawTask.toRawTaskFields with feasibility := some report, status := status }
  | .addClarificationAsk => do
    let ask ← askFromPayload env rawTask.rawTaskId operation.payload
    RawTask.validate
      { rawTask.toRawTaskFields with asks := rawTask.asks ++ [ask], status := .awaitingUser }
  | .applyAnswer => do
    let answer ← answerFromPayload env rawTask operation.payload
    let status ← statusForAnswer rawTask (rawTask.answers ++ [answer]) operation.payload
    RawTask.validate
      { rawTask.toRawTaskFields with answers := rawTask.answers ++ [answer], status := status }
  | .updateConstraints => do
    let add ← tuplePayload R.strOf operation.payload "add"
    let remove ← tuplePayload R.strOf operation.payload "remove"
    RawTask.validate
      { rawTask.toRawTaskFields with constraints := patchedValues rawTask.constraints add remove }
  | .updateAssumptions => do
    let add ← tuplePayload R.strOf operation.payload "add"
    let remove ← tuplePayload R.strOf operation.payload "remove"
    RawTask.validate
      { rawTask.toRawTaskFields with assumptions := patchedValues rawTask.assumptions add remove }
  | .setStatus => do
    let text ← requireStr operation.payload "status"
    let status ← statusFrom text
    RawTask.validate { rawTask.toRawTaskFields with status := status }

def RawTaskOperationKind.toText : RawTaskOperationKind → String
  | create => "create"
  | setIntentSummary => "set_intent_summary"
  | recordFeasibility => "record_feasibility"
  | addClarificationAsk => "add_clarification_ask"
  | applyAnswer => "apply_answer"
  | updateConstraints => "update_constraints"
  | updateAssumptions => "update_assumptions"
  | setStatus => "set_status"

def applyRawOperation (R : PayloadReaders) (env : OperationReadings)
    (command : MutateRawTaskCommand) (operation : RawTaskOperation) (current : Option RawTask) :
    Except AuthoringException RawTask :=
  match current with
  | some rawTask => changeRawTask R env operation rawTask
  | none =>
    if operation.op = .create then newRawTask R env command operation.payload
    else .error ⟨.valueError, operation.op.toText ++ " requires an existing RawTask"⟩

/-- The loop over the operations of a command, the `i`-th with the `i`-th readings. -/
def applyRawOperations (R : PayloadReaders) (readings : ℕ → OperationReadings)
    (command : MutateRawTaskCommand) : ℕ → List RawTaskOperation → Option RawTask →
      Except AuthoringException (Option RawTask)
  | _, [], current => .ok current
  | i, operation :: operations, current => do
    let rawTask ← applyRawOperation R (readings i) command operation current
    applyRawOperations R readings command (i + 1) operations (some rawTask)

/-! ### The store -/

/-- The raw tasks of `InMemoryRawTaskStore`, by session and id. -/
abbrev RawTasks := Dict (String × String) RawTask

namespace RawTasks

/-- `InMemoryRawTaskStore.create` -/
def create (store : RawTasks) (rawTask : RawTask) : Except AuthoringException RawTasks :=
  match store.get? (rawTask.sessionId, rawTask.rawTaskId) with
  | some _ =>
    .error ⟨.taskStoreError, "RawTask '" ++ rawTask.rawTaskId ++ "' already exists"⟩
  | none => .ok (store.set (rawTask.sessionId, rawTask.rawTaskId) rawTask)

/-- `InMemoryRawTaskStore.save`; without an expected version, that of the row. -/
def save (store : RawTasks) (rawTask : RawTask) (expectedVersion : Option ℕ) (now : DateTime) :
    Except AuthoringException RawTasks :=
  match store.get? (rawTask.sessionId, rawTask.rawTaskId) with
  | none => .error ⟨.lookupError, "RawTask '" ++ rawTask.rawTaskId ++ "' not found"⟩
  | some current =>
    if expectedVersion.getD current.version ≠ current.version then
      .error ⟨.taskStoreError, "stale version for '" ++ rawTask.rawTaskId ++ "'"⟩
    else do
      let updated ← RawTask.validate { rawTask.toRawTaskFields with
        version := current.version + 1, createdAt := current.createdAt, updatedAt := now }
      return store.set (rawTask.sessionId, rawTask.rawTaskId) updated

def creating (command : MutateRawTaskCommand) : Bool :=
  command.operations.any (fun operation => operation.op == .create)

def requireRawTask (store : RawTasks) (sessionId : String) (rawTaskId : Option String) :
    Except AuthoringException RawTask :=
  match rawTaskId with
  | none => .error ⟨.valueError, "raw_task_id is required"⟩
  | some rawTaskId =>
    match store.get? (sessionId, rawTaskId) with
    | none => .error ⟨.lookupError, "RawTask '" ++ rawTaskId ++ "' not found"⟩
    | some rawTask => .ok rawTask

/-- The raw task that the first operation is applied to. -/
def startOf (store : RawTasks) (command : MutateRawTaskCommand) :
    Except AuthoringException (Option RawTask) :=
  if creating command then .ok none
  else (store.requireRawTask command.sessionId command.rawTaskId).map some

def write (store : RawTasks) (command : MutateRawTaskCommand) (now : DateTime) (rawTask : RawTask) :
    Except AuthoringException RawTasks :=
  if creating command then store.create rawTask
  else store.save rawTask command.expectedVersion now

/-- The store after a command, if nothing raises. -/
def written (R : PayloadReaders) (readings : ℕ → OperationReadings) (now : DateTime)
    (command : MutateRawTaskCommand) (store : RawTasks) : Except AuthoringException RawTasks := do
  let start ← store.startOf command
  let last ← applyRawOperations R readings command 0 command.operations start
  match last with
  | none => .error ⟨.valueError, "RawTask command did not produce a RawTask"⟩
  | some rawTask => store.write command now rawTask

/-- `_mutate_raw_task`, with the readings of its operations and that of the save. -/
def mutateRawTask (R : PayloadReaders) (readings : ℕ → OperationReadings) (now : DateTime)
    (command : MutateRawTaskCommand) (store : RawTasks) :
    Except AuthoringException CommandOutput × RawTasks :=
  match written R readings now command store with
  | .error e => (.error e, store)
  | .ok store => (.ok { commandId := command.commandId }, store)

end RawTasks

end Taskweavn
