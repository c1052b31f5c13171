import Taskweavn.Task.AuthoringService

/-!
# Raw tasks

What a user wants, before it is planned (`taskweavn/task/authoring.py`).  The agent that
works on it reports whether it can be done, and asks; a question that has to be answered
before there can be a plan is a required one.

Every copy of a raw task is validated, so a `RawTask` carries what its validator checks.
The validator looks at one direction only: a task that awaits its user has a required ask
without an answer (`unansweredAskIds_of_awaiting`), but a task with such an ask may
have any status.
-/

namespace Taskweavn

open Lib Py

inductive RawTaskStatus
  | created
  | assessing
  | awaitingUser
  | readyToPlan
  | converted
  | rejected
  | cancelled
deriving DecidableEq, Repr

namespace RawTaskStatus

def toText : RawTaskStatus → String
  | created => "created"
  | assessing => "assessing"
  | awaitingUser => "awaiting_user"
  | readyToPlan => "ready_to_plan"
  | converted => "converted"
  | rejected => "rejected"
  | cancelled => "cancelled"

def ofText (s : String) : Option RawTaskStatus :=
  [created, assessing, awaitingUser, readyToPlan, converted, rejected, cancelled].find?
    (fun st => st.toText == s)

/-- Nothing is asked any more in the service of a plan. -/
def terminal : RawTaskStatus → Bool
  | converted | rejected | cancelled => true
  | _ => false

end RawTaskStatus

inductive FeasibilityStatus
  | ready
  | needsClarification
  | needsUserPermission
  | partiallyFeasible
  | notSupported
  | unsafeRequest
deriving DecidableEq, Repr

namespace FeasibilityStatus

def toText : FeasibilityStatus → String
  | ready => "ready"
  | needsClarification => "needs_clarification"
  | needsUserPermission => "needs_user_permission"
  | partiallyFeasible => "partially_feasible"
  | notSupported => "not_supported"
  | unsafeRequest => "unsafe"

def ofText (s : String) : Option FeasibilityStatus :=
  [ready, needsClarification, needsUserPermission, partiallyFeasible, notSupported,
    unsafeRequest].find? (fun st => st.toText == s)

/-- A plan can be made. -/
def plannable : FeasibilityStatus → Bool
  | ready | partiallyFeasible => true
  | _ => false

/-- No plan will be made. -/
def declined : FeasibilityStatus → Bool
  | notSupported | unsafeRequest => true
  | _ => false

end FeasibilityStatus

inductive FeasibilityNextAction
  | generateTaskTree
  | askUser
  | offerAlternatives
  | decline
deriving DecidableEq, Repr

namespace FeasibilityNextAction

def toText : FeasibilityNextAction → String
  | generateTaskTree => "generate_task_tree"
  | askUser => "ask_user"
  | offerAlternatives => "offer_alternatives"
  | decline => "decline"

def ofText (s : String) : Option FeasibilityNextAction :=
  [generateTaskTree, askUser, offerAlternatives, decline].find? (fun a => a.toText == s)

/-- `_default_next_action` -/
def ofStatus : FeasibilityStatus → FeasibilityNextAction
  | .ready => generateTaskTree
  | .partiallyFeasible => offerAlternatives
  | .needsClarification => askUser
  | .needsUserPermission => askUser
  | .notSupported => offerAlternatives
  | .unsafeRequest => decline

end FeasibilityNextAction

/-- Whether a raw task can be planned; the last four fields are the constraint on the
confidence and `_validate_status_payload`. -/
structure FeasibilityReport where
  status : FeasibilityStatus
  confidence : ℚ
  reasons : List String := []
  missingInputs : List String := []
  requiredCapabilities : List String := []
  requiredPermissions : List String := []
  suggestedNextAction : FeasibilityNextAction
  confidence_unit : 0 ≤ confidence ∧ confidence ≤ 1
  needs : status = .needsClarification ∨ status = .needsUserPermission →
    missingInputs ≠ [] ∨ requiredPermissions ≠ []
  ready_action : status = .ready → suggestedNextAction = .generateTaskTree
  decline_action : status = .unsafeRequest → suggestedNextAction = .decline
deriving DecidableEq

/-- What the user may choose as an answer. -/
structure RawTaskAnswerOption where
  optionId : String
  label : String
  value : String
  description : Option String := none
deriving DecidableEq

def RawTaskAnswerOption.fieldsOk (o : RawTaskAnswerOption) : Bool :=
  Codec.text.accepts o.optionId && Codec.text.accepts o.label && Codec.text.accepts o.value

structure RawTaskAsk where
  askId : String
  rawTaskId : String
  question : String
  options : List RawTaskAnswerOption := []
  required : Bool := true
  reason : String
  createdBy : String := "collaborator_agent"
  createdAt : DateTime
deriving DecidableEq

def RawTaskAsk.fieldsOk (a : RawTaskAsk) : Bool :=
  Codec.text.accepts a.askId && Codec.text.accepts a.rawTaskId &&
    Codec.text.accepts a.question && a.options.all RawTaskAnswerOption.fieldsOk &&
    Codec.text.accepts a.reason && Codec.text.accepts a.createdBy

structure RawTaskAnswer where
  answerId : String
  rawTaskId : String
  askId : String
  value : String
  sourceMessageId : String
  createdAt : DateTime
deriving DecidableEq

def RawTaskAnswer.fieldsOk (a : RawTaskAnswer) : Bool :=
  Codec.text.accepts a.answerId && Codec.text.accepts a.rawTaskId && Codec.text.accepts a.askId &&
    Codec.text.accepts a.value && Codec.text.accepts a.sourceMessageId

structure RawTaskFields where
  rawTaskId : String
  sessionId : String
  sourceMessageId : String
  userInput : String
  status : RawTaskStatus := .created
  intentSummary : Option String := none
  feasibility : Option FeasibilityReport := none
  asks : List RawTaskAsk := []
  answers : List RawTaskAnswer := []
  constraints : List String := []
  assumptions : List String := []
  version : ℕ := 1
  createdBy : String := "user"
  createdAt : DateTime
  updatedAt : DateTime
deriving DecidableEq

namespace RawTaskFields

variable {r : RawTaskFields}

def fieldsOk (r : RawTaskFields) : Bool :=
  Codec.text.accepts r.rawTaskId && Codec.text.accepts r.sessionId &&
    Codec.text.accepts r.sourceMessageId && Codec.text.accepts r.userInput &&
    r.intentSummary.all Codec.text.accepts && r.asks.all RawTaskAsk.fieldsOk &&
    r.answers.all RawTaskAnswer.fieldsOk && decide (1 ≤ r.version) &&
    Codec.text.accepts r.createdBy

def answered (r : RawTaskFields) (askId : String) : Bool :=
  r.answers.any (fun answer => answer.askId == askId)

def unansweredAskIds (r : RawTaskFields) : List String :=
  (r.asks.filter (fun ask => ask.required && !r.answered ask.askId)).map RawTaskAsk.askId

/-- The first ask that is refused, with those before it. -/
def askError (rawTaskId : String) : List RawTaskAsk → List String → Option String
  | [], _ => none
  | ask :: asks, askIds =>
    if ask.rawTaskId ≠ rawTaskId then some "RawTaskAsk raw_task_id must match RawTask"
    else if ask.askId ∈ askIds then some "RawTaskAsk ask_id values must be unique"
    else askError rawTaskId asks (askIds ++ [ask.askId])

/-- The first answer that is refused. -/
def answerError (rawTaskId : String) (askIds : List String) : List RawTaskAnswer → Option String
  | [] => none
  | answer :: answers =>
    if answer.rawTaskId ≠ rawTaskId then some "RawTaskAnswer raw_task_id must match RawTask"
    else if answer.askId ∉ askIds then some "RawTaskAnswer must reference an existing RawTaskAsk"
    else answerError rawTaskId askIds answers

def statusError (r : RawTaskFields) : Option String :=
  match r.status with
  | .awaitingUser =>
    if r.unansweredAskIds = [] then
      some "awaiting_user RawTask requires at least one unanswered ask"
    else none
  | .readyToPlan =>
    match r.feasibility with
    | none => some "ready_to_plan RawTask requires feasibility"
    | some report =>
      if report.status.plannable then none
      else some "ready_to_plan RawTask requires ready feasibility"
  | .rejected =>
    match r.feasibility with
    | none => none
    | some report =>
      if report.status.declined then none
      else some "rejected RawTask requires unsupported or unsafe feasibility"
  | _ => none

/-- `_validate_raw_task`, as the error that it raises. -/
def validateRawTask (r : RawTaskFields) : Option String :=
  if r.updatedAt < r.createdAt then some "updated_at must be >= created_at"
  else
    match askError r.rawTaskId r.asks [] with
    | some message => some message
    | none =>
      match answerError r.rawTaskId (r.asks.map RawTaskAsk.askId) r.answers with
      | some message => some message
      | none => r.statusError

theorem answerError_eq_none {rawTaskId : String} {askIds : List String} :
    ∀ {answers : List RawTaskAnswer}, answerError rawTaskId askIds answers = none ↔
      ∀ answer ∈ answers, answer.rawTaskId = rawTaskId ∧ answer.askId ∈ askIds := by
  intro answers
  induction answers with
  | nil => simp [answerError]
  | cons answer answers ih =>
    rw [answerError, List.forall_mem_cons]
    by_cases hid : answer.rawTaskId = rawTaskId
    · by_cases hmem : answer.askId ∈ askIds
      · rw [if_neg (not_not.mpr hid), if_neg (not_not.mpr hmem), ih]
        exact ⟨fun h => ⟨⟨hid, hmem⟩, h⟩, And.right⟩
      · simp [hid, hmem]
    · simp [hid]

theorem mem_asks_of_valid (h : r.validateRawTask = none) :
    ∀ answer ∈ r.answers, ∃ ask ∈ r.asks, ask.askId = answer.askId := by
  unfold validateRawTask at h
  split at h
  · cases h
  · split at h
    · cases h
    · split at h
      · cases h
      · next _ hans =>
        intro answer hanswer
        exact List.mem_map.mp (answerError_eq_none.mp hans answer hanswer).2

theorem statusError_of_valid (h : r.validateRawTask = none) : r.statusError = none := by
  unfold validateRawTask at h
  split at h
  · cases h
  · split at h
    · cases h
    · split at h
      · cases h
      · exact h

theorem unansweredAskIds_of_awaiting (h : r.validateRawTask = none)
    (hs : r.status = .awaitingUser) : r.unansweredAskIds ≠ [] := by
  have hstatus := statusError_of_valid h
  rw [statusError, hs] at hstatus
  intro hnil
  rw [if_pos hnil] at hstatus
  cases hstatus

end RawTaskFields

structure RawTask extends RawTaskFields where
  fieldsOk : toRawTaskFields.fieldsOk = true
  valid : toRawTaskFields.validateRawTask = none
deriving DecidableEq

namespace RawTask

/-- `RawTask.model_validate` -/
def validate (r : RawTaskFields) : Except AuthoringException RawTask :=
  if hf : r.fieldsOk = true then
    match hv : r.validateRawTask with
    | none => .ok ⟨r, hf, hv⟩
    | some message => .error ⟨.validationError, message⟩
  else .error emptyMessage

theorem validate_ok {r : RawTaskFields} {raw : RawTask} (h : validate r = .ok raw) :
    raw.toRawTaskFields = r := by
  unfold validate at h
  split at h
  · split at h
    · cases h
      rfl
    · cases h
  · cases h

end RawTask

end Taskweavn
