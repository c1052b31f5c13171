import Taskweavn.Lib.Dict
import Taskweavn.Lib.Sort
import Taskweavn.Py.Calendar
import Taskweavn.Py.Text

/-!
# Questions to the user

A running task asks the user for something that is missing, and waits
(`taskweavn/interaction/ask.py`).  The store keeps the questions and the answers to
them; a question that is answered, deferred, cancelled or expired stays so.  A command
with an idempotency key leaves its result under the key.

The records carry what no copy of them can break.  A copy is not validated, so that the
hint of a question and the key of an answer may be empty in a copy: `AskRequest.Valid` and
`AskAnswer.Valid` say that they are not.
-/

namespace Taskweavn

open Lib Py

inductive AskStatus
  | pending
  | answered
  | deferred
  | cancelled
  | expired
deriving DecidableEq, Repr

def AskStatus.toText : AskStatus → String
  | .pending => "pending"
  | .answered => "answered"
  | .deferred => "deferred"
  | .cancelled => "cancelled"
  | .expired => "expired"

inductive AskAnswerType
  | freeText
  | singleChoice
  | multiChoice
  | boolean
deriving DecidableEq, Repr

inductive AskCommandKind
  | answer
  | defer
  | cancel
  | expire
deriving DecidableEq, Repr

inductive AskCommandResultStatus
  | accepted
  | replayed
  | rejected
deriving DecidableEq, Repr

structure AskOption where
  optionId : String
  label : String
  description : Option String := none
  texts_ok : optionId ≠ "" ∧ label ≠ "" := by decide
deriving DecidableEq

structure AskQuestion where
  questionId : String
  question : String
  inputHint : Option String := none
  required : Bool := true
  texts_ok : questionId ≠ "" ∧ question ≠ "" ∧ inputHint ≠ some "" := by decide
deriving DecidableEq

inductive AskCreator
  | agent
  | system
deriving DecidableEq, Repr

/-- A question; a blocking one is about a task, and it is answered when there is an
answer. -/
structure AskRequest where
  askId : String
  sessionId : String
  taskId : Option String := none
  agentId : String := "agent"
  question : String
  reason : String
  questions : List AskQuestion := []
  suggestedOptions : List AskOption := []
  answerType : AskAnswerType := .freeText
  allowFreeText : Bool := true
  allowNoOptionWithText : Bool := true
  blocking : Bool := true
  status : AskStatus := .pending
  answerId : Option String := none
  resumeHint : Option String := none
  createdBy : AskCreator := .agent
  createdAt : Moment
  answeredAt : Option Moment := none
  deferredAt : Option Moment := none
  cancelledAt : Option Moment := none
  expiredAt : Option Moment := none
  texts_ok : askId ≠ "" ∧ sessionId ≠ "" ∧ taskId ≠ some "" ∧ agentId ≠ "" ∧ question ≠ "" ∧
    reason ≠ "" ∧ answerId ≠ some "" := by decide
  questions_ok : (questions.map AskQuestion.questionId).Nodup := by decide
  blocking_scope : blocking = true → taskId.isSome = true
  answer_ref : (status = .answered ↔ answerId.isSome = true) ∧
    (status = .answered → answeredAt.isSome = true)
deriving DecidableEq

theorem nodup_no_questions : (([] : List AskQuestion).map AskQuestion.questionId).Nodup :=
  List.nodup_nil

theorem pending_answer_ref :
    (AskStatus.pending = .answered ↔ (none : Option String).isSome = true) ∧
      (AskStatus.pending = .answered → (none : Option Moment).isSome = true) := by
  decide

/-- A constructor would accept the question. -/
def AskRequest.Valid (r : AskRequest) : Prop := r.resumeHint ≠ some ""

instance AskRequest.decidableValid (r : AskRequest) : Decidable r.Valid :=
  inferInstanceAs (Decidable (_ ≠ _))

structure AskAnswer where
  answerId : String
  askId : String
  sessionId : String
  taskId : Option String := none
  selectedOptionIds : List String := []
  text : Option String := none
  idempotencyKey : Option String := none
  createdAt : Moment
  texts_ok : answerId ≠ "" ∧ askId ≠ "" ∧ sessionId ≠ "" ∧ taskId ≠ some "" ∧ text ≠ some "" :=
    by decide
  content_ok : selectedOptionIds ≠ [] ∨ text.isSome = true
deriving DecidableEq

/-- A constructor would accept the answer. -/
def AskAnswer.Valid (a : AskAnswer) : Prop := a.idempotencyKey ≠ some ""

instance AskAnswer.decidableValid (a : AskAnswer) : Decidable a.Valid :=
  inferInstanceAs (Decidable (_ ≠ _))

structure AskStoreCommandResult where
  status : AskCommandResultStatus
  message : String
  ask : Option AskRequest := none
  answer : Option AskAnswer := none
  commandKind : AskCommandKind
  idempotencyKey : Option String := none
deriving DecidableEq

def AskStoreCommandResult.accepted (r : AskStoreCommandResult) : Bool :=
  r.status == .accepted || r.status == .replayed

/-! ### What a command makes of a question -/

/-- `_rejected` -/
def rejectedAsk (message : String) (commandKind : AskCommandKind) (ask : Option AskRequest)
    (idempotencyKey : Option String) : AskStoreCommandResult where
  status := .rejected
  message := message
  ask := ask
  commandKind := commandKind
  idempotencyKey := idempotencyKey

def validateAnswerAgainstRequest (request : AskRequest) (answer : AskAnswer) : Option String :=
  let optionIds := request.suggestedOptions.map AskOption.optionId
  let unknown := answer.selectedOptionIds.filter (fun i => !optionIds.contains i)
  let hasText := answer.text.any (fun t => !isBlank t)
  let selectedCount := answer.selectedOptionIds.length
  if unknown ≠ [] then
    some ("ASK answer selected unknown option ids: " ++
      String.intercalate ", " (sortOn id unknown.dedup))
  else if answer.text.isSome ∧ request.allowFreeText = false then
    some "ASK answer free text is not allowed"
  else
    match request.answerType with
    | .freeText =>
      if selectedCount ≠ 0 then some "free_text ASK answer must not select options"
      else if hasText = false then some "free_text ASK answer requires text"
      else none
    | .singleChoice =>
      if 1 < selectedCount then some "single_choice ASK answer accepts at most one option"
      else if selectedCount = 0 ∧ (request.allowNoOptionWithText && hasText) = false then
        some "single_choice ASK answer requires one option"
      else none
    | .multiChoice =>
      if selectedCount = 0 ∧ (request.allowNoOptionWithText && hasText) = false then
        some "multi_choice ASK answer requires at least one option"
      else none
    | .boolean =>
      if selectedCount ≠ 1 then some "boolean ASK answer requires exactly one option" else none

theorem AskRequest.texts_ok_answered (request : AskRequest) (answer : AskAnswer) :
    request.askId ≠ "" ∧ request.sessionId ≠ "" ∧ request.taskId ≠ some "" ∧
      request.agentId ≠ "" ∧ request.question ≠ "" ∧ request.reason ≠ "" ∧
      some answer.answerId ≠ some "" := by
  obtain ⟨hask, hsession, htask, hagent, hquestion, hreason, -⟩ := request.texts_ok
  exact ⟨hask, hsession, htask, hagent, hquestion, hreason, fun h =>
    answer.texts_ok.1 (Option.some.inj h)⟩

theorem AskRequest.texts_ok_closed (request : AskRequest) :
    request.askId ≠ "" ∧ request.sessionId ≠ "" ∧ request.taskId ≠ some "" ∧
      request.agentId ≠ "" ∧ request.question ≠ "" ∧ request.reason ≠ "" ∧
      (none : Option String) ≠ some "" := by
  obtain ⟨hask, hsession, htask, hagent, hquestion, hreason, -⟩ := request.texts_ok
  exact ⟨hask, hsession, htask, hagent, hquestion, hreason, Option.some_ne_none "" ∘ Eq.symm⟩

def AskRequest.answeredBy (request : AskRequest) (answer : AskAnswer) : AskRequest :=
  { request with
    status := .answered
    answerId := some answer.answerId
    answeredAt := some answer.createdAt
    texts_ok := request.texts_ok_answered answer
    answer_ref := by simp }

def answerRequest (request : Option AskRequest) (answer : AskAnswer)
    (idempotencyKey : Option String) : AskStoreCommandResult :=
  match request with
  | none => rejectedAsk "ASK not found" .answer none idempotencyKey
  | some request =>
    let rejected (message : String) :=
      rejectedAsk message .answer (some request) idempotencyKey
    if answer.sessionId ≠ request.sessionId ∨ answer.askId ≠ request.askId then
      rejected "ASK answer target does not match request"
    else if request.taskId ≠ answer.taskId then
      rejected "ASK answer task_id does not match request"
    else if request.status ≠ .pending then
      rejected ("ASK is not pending: " ++ request.status.toText)
    else
      match validateAnswerAgainstRequest request answer with
      | some error => rejected error
      | none =>
        if idempotencyKey.isSome ∧ answer.idempotencyKey ≠ idempotencyKey ∧
            answer.idempotencyKey.isSome then
          rejected "ASK answer idempotency_key does not match command"
        else
          let effective :=
            if idempotencyKey.isSome then { answer with idempotencyKey := idempotencyKey }
            else answer
          { status := .accepted
            message := "ASK answered"
            ask := some (request.answeredBy effective)
            answer := some effective
            commandKind := .answer
            idempotencyKey := idempotencyKey }

/-- The ways to close a question without an answer. -/
inductive AskClosing
  | deferred
  | cancelled
  | expired
deriving DecidableEq, Repr

def AskClosing.status : AskClosing → AskStatus
  | .deferred => .deferred
  | .cancelled => .cancelled
  | .expired => .expired

def AskClosing.kind : AskClosing → AskCommandKind
  | .deferred => .defer
  | .cancelled => .cancel
  | .expired => .expire

/-- A time is set for the way in which a question is closed. -/
def AskClosing.stamp (closing which : AskClosing) (now : DateTime) (time : Option Moment) :
    Option Moment :=
  if closing = which then some (Moment.utc now) else time

theorem AskClosing.answer_ref (closing : AskClosing) (answeredAt : Option Moment) :
    (closing.status = .answered ↔ (none : Option String).isSome = true) ∧
      (closing.status = .answered → answeredAt.isSome = true) := by
  cases closing <;> simp [AskClosing.status]

def AskRequest.closed (request : AskRequest) (closing : AskClosing) (reason : Option String)
    (now : DateTime) : AskRequest :=
  { request with
    status := closing.status
    answerId := none
    resumeHint := reason
    deferredAt := closing.stamp .deferred now request.deferredAt
    cancelledAt := closing.stamp .cancelled now request.cancelledAt
    expiredAt := closing.stamp .expired now request.expiredAt
    texts_ok := request.texts_ok_closed
    answer_ref := closing.answer_ref request.answeredAt }

/-- `_transition_request`; a pending question has no answer, so that it keeps its
`answer_id`. -/
def transitionRequest (request : Option AskRequest) (closing : AskClosing)
    (reason idempotencyKey : Option String) (now : DateTime) : AskStoreCommandResult :=
  match request with
  | none => rejectedAsk "ASK not found" closing.kind none idempotencyKey
  | some request =>
    if request.status ≠ .pending then
      rejectedAsk ("ASK is not pending: " ++ request.status.toText) closing.kind (some request)
        idempotencyKey
    else
      { status := .accepted
        message := "ASK " ++ closing.status.toText
        ask := some (request.closed closing reason now)
        commandKind := closing.kind
        idempotencyKey := idempotencyKey }

/-! ### The store -/

structure InMemoryAskStore where
  requests : Dict (String × String) AskRequest := Dict.empty
  answers : Dict (String × String) AskAnswer := Dict.empty
  idempotency : Dict (String × String) AskStoreCommandResult := Dict.empty
deriving DecidableEq

namespace InMemoryAskStore

def get (store : InMemoryAskStore) (sessionId askId : String) : Option AskRequest :=
  store.requests.get? (sessionId, askId)

/-- `create`; there is no new store when the question exists. -/
def create (store : InMemoryAskStore) (request : AskRequest) : Option InMemoryAskStore :=
  match store.get request.sessionId request.askId with
  | some _ => none
  | none =>
    some { store with requests := store.requests.set (request.sessionId, request.askId) request }

/-- The questions that `list_for_session` selects. -/
def selected (store : InMemoryAskStore) (sessionId : String) (statuses : Option (List AskStatus))
    (taskId : Option String) : List AskRequest :=
  store.requests.values.filter fun r => r.sessionId == sessionId &&
    taskId.all (fun t => r.taskId == some t) && statuses.all (fun l => l.contains r.status)

/-- `list_for_session`, where the times can be compared. -/
def listForSession (store : InMemoryAskStore) (sessionId : String)
    (statuses : Option (List AskStatus)) (taskId : Option String) : List AskRequest :=
  sortOn (fun r : AskRequest => (toLex (r.createdAt.instant, r.askId) : ℤ ×ₗ String))
    (store.selected sessionId statuses taskId)

def getAnswer (store : InMemoryAskStore) (sessionId askId : String) : Option AskAnswer :=
  store.answers.get? (sessionId, askId)

def idempotencyReplay (store : InMemoryAskStore) (sessionId : String) (key : Option String) :
    Option AskStoreCommandResult :=
  (key.bind (fun k => store.idempotency.get? (sessionId, k))).map fun result =>
    if result.status = .rejected then result else { result with status := .replayed }

def remember (store : InMemoryAskStore) (sessionId : String) (key : Option String)
    (result : AskStoreCommandResult) : InMemoryAskStore :=
  match key with
  | none => store
  | some k => { store with idempotency := store.idempotency.set (sessionId, k) result }

def answer (store : InMemoryAskStore) (sessionId askId : String) (answer : AskAnswer)
    (key : Option String) : AskStoreCommandResult × InMemoryAskStore :=
  match store.idempotencyReplay sessionId key with
  | some replay => (replay, store)
  | none =>
    let result := answerRequest (store.get sessionId askId) answer key
    let written :=
      match result.status, result.ask, result.answer with
      | .accepted, some ask, some answer =>
        { store with
          requests := store.requests.set (sessionId, askId) ask
          answers := store.answers.set (sessionId, askId) answer }
      | _, _, _ => store
    (result, written.remember sessionId key result)

def transition (store : InMemoryAskStore) (sessionId askId : String) (closing : AskClosing)
    (reason key : Option String) (now : DateTime) : AskStoreCommandResult × InMemoryAskStore :=
  match store.idempotencyReplay sessionId key with
  | some replay => (replay, store)
  | none =>
    let result := transitionRequest (store.get sessionId askId) closing reason key now
    let written :=
      match result.status, result.ask with
      | .accepted, some ask =>
        { store with requests := store.requests.set (sessionId, askId) ask }
      | _, _ => store
    (result, written.remember sessionId key result)

def defer (store : InMemoryAskStore) (sessionId askId : String) (reason key : Option String)
    (now : DateTime) : AskStoreCommandResult × InMemoryAskStore :=
  store.transition sessionId askId .deferred reason key now

def cancel (store : InMemoryAskStore) (sessionId askId reason : String) (key : Option String)
    (now : DateTime) : AskStoreCommandResult × InMemoryAskStore :=
  store.transition sessionId askId .cancelled (some reason) key now

def expire (store : InMemoryAskStore) (sessionId askId : String) (reason key : Option String)
    (now : DateTime) : AskStoreCommandResult × InMemoryAskStore :=
  store.transition sessionId askId .expired reason key now

end InMemoryAskStore

end Taskweavn
