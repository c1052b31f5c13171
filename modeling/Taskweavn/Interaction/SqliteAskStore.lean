import Taskweavn.Interaction.AskBook

/-!
# The SQLite store of questions

Three tables: a row for each question, for each answer, and for each result that is kept
under a key (`taskweavn/interaction/sqlite_ask_store.py`).  A row is written from a copy,
which is not validated, and validated when it is read (`requestFromRow_ofRequest`).

A command begins a transaction.  An error of SQLite rolls it back; any other error passes
and leaves the transaction open, with `openSince` the tables that a rollback restores.
While it is open, no transaction begins, so that the next command fails and rolls back.

The JSON columns of a question and an answer are given by the lists that they stand for,
and the JSON text of a result by the result; its messages are never empty.
-/

namespace Taskweavn

open Lib Py

/-! ### Texts of the columns -/

def AskStatus.ofText : String → Option AskStatus
  | "pending" => some .pending
  | "answered" => some .answered
  | "deferred" => some .deferred
  | "cancelled" => some .cancelled
  | "expired" => some .expired
  | _ => none

def AskAnswerType.toText : AskAnswerType → String
  | .freeText => "free_text"
  | .singleChoice => "single_choice"
  | .multiChoice => "multi_choice"
  | .boolean => "boolean"

def AskAnswerType.ofText : String → Option AskAnswerType
  | "free_text" => some .freeText
  | "single_choice" => some .singleChoice
  | "multi_choice" => some .multiChoice
  | "boolean" => some .boolean
  | _ => none

def AskCreator.toText : AskCreator → String
  | .agent => "agent"
  | .system => "system"

def AskCreator.ofText : String → Option AskCreator
  | "agent" => some .agent
  | "system" => some .system
  | _ => none

@[simp] theorem AskStatus.ofText_toText (s : AskStatus) : AskStatus.ofText s.toText = some s := by
  cases s <;> rfl

theorem AskStatus.toText_injective : Function.Injective AskStatus.toText := by
  intro s s' h
  have hread := AskStatus.ofText_toText s
  rw [h, AskStatus.ofText_toText] at hread
  exact (Option.some.inj hread).symm

@[simp] theorem AskAnswerType.ofText_toText (t : AskAnswerType) :
    AskAnswerType.ofText t.toText = some t := by
  cases t <;> rfl

@[simp] theorem AskCreator.ofText_toText (c : AskCreator) :
    AskCreator.ofText c.toText = some c := by
  cases c <;> rfl

/-- `_optional_dt`; nothing when the text is not a time. -/
def optionalDt : Option String → Option (Option Moment)
  | none => some none
  | some text => (Moment.fromisoformat text).map some

@[simp] theorem optionalDt_isoformat (time : Option Moment) :
    optionalDt (time.map Moment.isoformat) = some time := by
  cases time with
  | none => rfl
  | some m => simp [optionalDt, Moment.fromisoformat_isoformat]

/-! ### Rows -/

structure AskRow where
  askId : String
  sessionId : String
  taskId : Option String
  agentId : String
  question : String
  reason : String
  questions : List AskQuestion
  suggestedOptions : List AskOption
  answerType : String
  allowFreeText : Bool
  allowNoOptionWithText : Bool
  blocking : Bool
  status : String
  answerId : Option String
  resumeHint : Option String
  createdBy : String
  createdAt : String
  answeredAt : Option String
  deferredAt : Option String
  cancelledAt : Option String
  expiredAt : Option String
deriving DecidableEq

structure AskAnswerRow where
  answerId : String
  askId : String
  sessionId : String
  taskId : Option String
  selectedOptionIds : List String
  text : Option String
  idempotencyKey : Option String
  createdAt : String
deriving DecidableEq

/-- `_request_to_row` -/
def AskRow.ofRequest (request : AskRequest) : AskRow where
  askId := request.askId
  sessionId := request.sessionId
  taskId := request.taskId
  agentId := request.agentId
  question := request.question
  reason := request.reason
  questions := request.questions
  suggestedOptions := request.suggestedOptions
  answerType := request.answerType.toText
  allowFreeText := request.allowFreeText
  allowNoOptionWithText := request.allowNoOptionWithText
  blocking := request.blocking
  status := request.status.toText
  answerId := request.answerId
  resumeHint := request.resumeHint
  createdBy := request.createdBy.toText
  createdAt := request.createdAt.isoformat
  answeredAt := request.answeredAt.map Moment.isoformat
  deferredAt := request.deferredAt.map Moment.isoformat
  cancelledAt := request.cancelledAt.map Moment.isoformat
  expiredAt := request.expiredAt.map Moment.isoformat

/-- `_answer_to_row` -/
def AskAnswerRow.ofAnswer (answer : AskAnswer) : AskAnswerRow where
  answerId := answer.answerId
  askId := answer.askId
  sessionId := answer.sessionId
  taskId := answer.taskId
  selectedOptionIds := answer.selectedOptionIds
  text := answer.text
  idempotencyKey := answer.idempotencyKey
  createdAt := answer.createdAt.isoformat

/-- The constructor of the model, with the columns that are parsed. -/
def AskRow.request (row : AskRow) (answerType : AskAnswerType) (status : AskStatus)
    (createdBy : AskCreator) (createdAt : Moment)
    (answeredAt deferredAt cancelledAt expiredAt : Option Moment) :
    Except AskStoreError AskRequest :=
  if h : (row.askId ≠ "" ∧ row.sessionId ≠ "" ∧ row.taskId ≠ some "" ∧ row.agentId ≠ "" ∧
      row.question ≠ "" ∧ row.reason ≠ "" ∧ row.answerId ≠ some "") ∧
      (row.questions.map AskQuestion.questionId).Nodup ∧
      (row.blocking = true → row.taskId.isSome = true) ∧
      ((status = .answered ↔ row.answerId.isSome = true) ∧
        (status = .answered → answeredAt.isSome = true)) ∧ row.resumeHint ≠ some "" then
    .ok {
      askId := row.askId
      sessionId := row.sessionId
      taskId := row.taskId
      agentId := row.agentId
      question := row.question
      reason := row.reason
      questions := row.questions
      suggestedOptions := row.suggestedOptions
      answerType := answerType
      allowFreeText := row.allowFreeText
      allowNoOptionWithText := row.allowNoOptionWithText
      blocking := row.blocking
      status := status
      answerId := row.answerId
      resumeHint := row.resumeHint
      createdBy := createdBy
      createdAt := createdAt
      answeredAt := answeredAt
      deferredAt := deferredAt
      cancelledAt := cancelledAt
      expiredAt := expiredAt
      texts_ok := h.1
      questions_ok := h.2.1
      blocking_scope := h.2.2.1
      answer_ref := h.2.2.2.1 }
  else .error .invalid

def requestFromRow (row : AskRow) : Except AskStoreError AskRequest :=
  match AskAnswerType.ofText row.answerType, AskStatus.ofText row.status,
      AskCreator.ofText row.createdBy, Moment.fromisoformat row.createdAt,
      optionalDt row.answeredAt, optionalDt row.deferredAt, optionalDt row.cancelledAt,
      optionalDt row.expiredAt with
  | some answerType, some status, some createdBy, some createdAt, some answeredAt,
      some deferredAt, some cancelledAt, some expiredAt =>
    row.request answerType status createdBy createdAt answeredAt deferredAt cancelledAt expiredAt
  | _, _, _, _, _, _, _, _ => .error .invalid

def answerFromRow (row : AskAnswerRow) : Except AskStoreError AskAnswer :=
  match Moment.fromisoformat row.createdAt with
  | none => .error .invalid
  | some createdAt =>
    if h : (row.answerId ≠ "" ∧ row.askId ≠ "" ∧ row.sessionId ≠ "" ∧ row.taskId ≠ some "" ∧
        row.text ≠ some "") ∧ (row.selectedOptionIds ≠ [] ∨ row.text.isSome = true) ∧
        row.idempotencyKey ≠ some "" then
      .ok {
        answerId := row.answerId
        askId := row.askId
        sessionId := row.sessionId
        taskId := row.taskId
        selectedOptionIds := row.selectedOptionIds
        text := row.text
        idempotencyKey := row.idempotencyKey
        createdAt := createdAt
        texts_ok := h.1
        content_ok := h.2.1 }
    else .error .invalid

/-- **The row of a question reads back**, exactly if the question is valid. -/
theorem requestFromRow_ofRequest (r : AskRequest) :
    requestFromRow (.ofRequest r) = if r.Valid then .ok r else .error .invalid := by
  have hparsed : requestFromRow (.ofRequest r) = (AskRow.ofRequest r).request r.answerType r.status
      r.createdBy r.createdAt r.answeredAt r.deferredAt r.cancelledAt r.expiredAt := by
    simp only [requestFromRow, AskRow.ofRequest, AskAnswerType.ofText_toText,
      AskStatus.ofText_toText, AskCreator.ofText_toText, Moment.fromisoformat_isoformat,
      optionalDt_isoformat]
  rw [hparsed, AskRow.request]
  by_cases hvalid : r.Valid
  · rw [if_pos hvalid, dif_pos ⟨r.texts_ok, r.questions_ok, r.blocking_scope, r.answer_ref, hvalid⟩]
    rfl
  · rw [if_neg hvalid, dif_neg fun h => hvalid h.2.2.2.2]

/-- **The row of an answer reads back**, exactly if the answer is valid. -/
theorem answerFromRow_ofAnswer (a : AskAnswer) :
    answerFromRow (.ofAnswer a) = if a.Valid then .ok a else .error .invalid := by
  have hread : Moment.fromisoformat (AskAnswerRow.ofAnswer a).createdAt = some a.createdAt :=
    Moment.fromisoformat_isoformat _
  rw [answerFromRow, hread]
  by_cases hvalid : a.Valid
  · rw [if_pos hvalid]
    exact dif_pos ⟨a.texts_ok, a.content_ok, hvalid⟩
  · rw [if_neg hvalid]
    exact dif_neg fun h => hvalid h.2.2

/-! ### Kept results -/

/-- What is read from the JSON text of a question. -/
def AskRequest.json (r : AskRequest) : AskRequest :=
  { r with
    createdAt := r.createdAt.json
    answeredAt := r.answeredAt.map Moment.json
    deferredAt := r.deferredAt.map Moment.json
    cancelledAt := r.cancelledAt.map Moment.json
    expiredAt := r.expiredAt.map Moment.json
    answer_ref := ⟨r.answer_ref.1, fun h => Option.isSome_map.trans (r.answer_ref.2 h)⟩ }

def AskAnswer.json (a : AskAnswer) : AskAnswer := { a with createdAt := a.createdAt.json }

def AskStoreCommandResult.json (result : AskStoreCommandResult) : AskStoreCommandResult :=
  { result with ask := result.ask.map AskRequest.json, answer := result.answer.map AskAnswer.json }

/-- A constructor would accept the result and the models in it. -/
def AskStoreCommandResult.Valid (result : AskStoreCommandResult) : Prop :=
  (∀ ask ∈ result.ask, ask.Valid) ∧ (∀ answer ∈ result.answer, answer.Valid) ∧
    result.idempotencyKey ≠ some ""

instance AskStoreCommandResult.decidableValid (result : AskStoreCommandResult) :
    Decidable result.Valid :=
  inferInstanceAs (Decidable (_ ∧ _ ∧ _))

/-- `AskStoreCommandResult.model_validate_json` -/
def resultFromJson (stored : AskStoreCommandResult) :
    Except AskStoreError AskStoreCommandResult :=
  if stored.Valid then .ok stored.json else .error .invalid

/-! ### The tables -/

structure AskTables where
  asks : Dict String AskRow := Dict.empty
  answers : Dict String AskAnswerRow := Dict.empty
  idempotency : Dict (String × String) AskStoreCommandResult := Dict.empty
  asks_ok : ∀ k row, asks.get? k = some row → row.askId = k ∧ ∃ r, row = .ofRequest r
  answers_ok : ∀ k row, answers.get? k = some row → row.answerId = k ∧ ∃ a, row = .ofAnswer a

namespace AskTables

/-- A new database. -/
def empty : AskTables where
  asks_ok k row h := by cases h
  answers_ok k row h := by cases h

/-- Write the row of a question. -/
def putAsk (t : AskTables) (request : AskRequest) : AskTables :=
  { t with
    asks := t.asks.set request.askId (.ofRequest request)
    asks_ok := by
      intro k row h
      rw [Dict.get?_set] at h
      split at h
      · next hk => exact ⟨by rw [← Option.some.inj h, ← hk]; rfl, request, (Option.some.inj h).symm⟩
      · exact t.asks_ok k row h }

/-- Write the row of an answer. -/
def putAnswer (t : AskTables) (answer : AskAnswer) : AskTables :=
  { t with
    answers := t.answers.set answer.answerId (.ofAnswer answer)
    answers_ok := by
      intro k row h
      rw [Dict.get?_set] at h
      split at h
      · next hk => exact ⟨by rw [← Option.some.inj h, ← hk]; rfl, answer, (Option.some.inj h).symm⟩
      · exact t.answers_ok k row h }

/-- `INSERT INTO asks`; nothing when the primary key is taken. -/
def insertAsk (t : AskTables) (request : AskRequest) : Option AskTables :=
  if (t.asks.get? request.askId).isSome = true then none else some (t.putAsk request)

/-- `_insert_answer_locked`; nothing when the answer or the question has a row, or when there
is no question. -/
def insertAnswer (t : AskTables) (answer : AskAnswer) : Option AskTables :=
  if (t.answers.get? answer.answerId).isSome = true ∨
      (∃ row ∈ t.answers.values, row.askId = answer.askId) ∨
      (t.asks.get? answer.askId).isSome = false then none
  else some (t.putAnswer answer)

/-- `_update_request_locked`; an update of a row that is not there does nothing. -/
def updateRequest (t : AskTables) (request : AskRequest) : AskTables :=
  match t.asks.get? request.askId with
  | none => t
  | some row => if row.sessionId = request.sessionId then t.putAsk request else t

def getLocked (t : AskTables) (sessionId askId : String) :
    Except AskStoreError (Option AskRequest) :=
  match t.asks.get? askId with
  | none => .ok none
  | some row => if row.sessionId = sessionId then (requestFromRow row).map some else .ok none

/-- `_remember_locked`: `INSERT OR IGNORE` -/
def rememberLocked (t : AskTables) (sessionId : String) (key : Option String)
    (result : AskStoreCommandResult) : AskTables :=
  match key with
  | none => t
  | some k =>
    if (t.idempotency.get? (sessionId, k)).isSome = true then t
    else { t with idempotency := t.idempotency.set (sessionId, k) result }

def idempotencyReplayLocked (t : AskTables) (sessionId : String) (key : Option String) :
    Except AskStoreError (Option AskStoreCommandResult) :=
  match key.bind fun k => t.idempotency.get? (sessionId, k) with
  | none => .ok none
  | some stored => (resultFromJson stored).map fun result => some result.replay

end AskTables

/-! ### The store -/

structure SqliteAskStore where
  tables : AskTables := .empty
  /-- The tables at the beginning of the open transaction. -/
  openSince : Option AskTables := none

/-- What the body of a transaction raises. -/
inductive Raised
  | sqlite
  | other (e : AskStoreError)

namespace SqliteAskStore

def empty : SqliteAskStore := {}

/-- `BEGIN IMMEDIATE`, the body and `COMMIT`.  What is no error of SQLite is raised before
anything is written. -/
def transact (s : SqliteAskStore) (failed : AskStoreError)
    (body : AskTables → Except Raised (AskStoreCommandResult × AskTables)) :
    Except AskStoreError AskStoreCommandResult × SqliteAskStore :=
  match s.openSince with
  | some old => (.error failed, { tables := old })
  | none =>
    match body s.tables with
    | .error .sqlite => (.error failed, s)
    | .error (.other e) => (.error e, { s with openSince := some s.tables })
    | .ok (result, tables) => (.ok result, { tables := tables })

/-- The question that a command is about; the result of an empty key is refused by its
model. -/
def requestOf (t : AskTables) (sessionId askId : String) (key : Option String) :
    Except Raised (Option AskRequest) :=
  match t.getLocked sessionId askId with
  | .error e => .error (.other e)
  | .ok request => if key = some "" then .error (.other .invalid) else .ok request

/-- The body of `answer`. -/
def answerBody (sessionId askId : String) (given : AskAnswer) (key : Option String)
    (t : AskTables) : Except Raised (AskStoreCommandResult × AskTables) :=
  match requestOf t sessionId askId key with
  | .error e => .error e
  | .ok request =>
    let result := answerRequest request given key
    match result.status, result.ask, result.answer with
    | .accepted, some ask, some answer =>
      match t.insertAnswer answer with
      | none => .error .sqlite
      | some t' => .ok (result, (t'.updateRequest ask).rememberLocked sessionId key result)
    | _, _, _ => .ok (result, t.rememberLocked sessionId key result)

/-- The body of `_transition`. -/
def transitionBody (sessionId askId : String) (closing : AskClosing) (reason key : Option String)
    (now : DateTime) (t : AskTables) : Except Raised (AskStoreCommandResult × AskTables) :=
  match requestOf t sessionId askId key with
  | .error e => .error e
  | .ok request =>
    let result := transitionRequest request closing reason key now
    match result.status, result.ask with
    | .accepted, some ask =>
      .ok (result, (t.updateRequest ask).rememberLocked sessionId key result)
    | _, _ => .ok (result, t.rememberLocked sessionId key result)

/-- `answer`, and `_transition` with the ways to close. -/
def command (s : SqliteAskStore) (c : AskCommand) (sessionId askId : String)
    (key : Option String) : Except AskStoreError AskStoreCommandResult × SqliteAskStore :=
  match s.tables.idempotencyReplayLocked sessionId key with
  | .error e => (.error e, s)
  | .ok (some replay) => (.ok replay, s)
  | .ok none =>
    match c with
    | .answer given _ => s.transact .answerFailed (answerBody sessionId askId given key)
    | .close closing reason now =>
      s.transact .transitionFailed (transitionBody sessionId askId closing reason key now)

/-- The `WHERE` clauses of `list_for_session`. -/
def listed (sessionId : String) (statuses : Option (List AskStatus)) (taskId : Option String)
    (row : AskRow) : Bool :=
  row.sessionId == sessionId && taskId.all (fun t => row.taskId == some t) &&
    statuses.all fun l => (l.map AskStatus.toText).contains row.status

/-- `ORDER BY created_at, ask_id` -/
def listOrder (row : AskRow) : String ×ₗ String := toLex (row.createdAt, row.askId)

def listForSession (s : SqliteAskStore) (sessionId : String) (statuses : Option (List AskStatus))
    (taskId : Option String) : Except AskStoreError (List AskRequest) :=
  if statuses = some [] then .ok []
  else
    (sortOn listOrder (s.tables.asks.values.filter (listed sessionId statuses taskId))).mapM
      requestFromRow

def getAnswer (s : SqliteAskStore) (sessionId askId : String) :
    Except AskStoreError (Option AskAnswer) :=
  match s.tables.answers.values.find? fun row =>
      row.sessionId == sessionId && row.askId == askId with
  | none => .ok none
  | some row => (answerFromRow row).map some

def step (s : SqliteAskStore) : AskCall → Except AskStoreError AskReply × SqliteAskStore
  | .create request _ =>
    match s.tables.insertAsk request with
    | some tables => (.ok (.ask request), { s with tables := tables })
    | none => (.error (.alreadyExists request.askId), s)
  | .get sessionId askId => ((s.tables.getLocked sessionId askId).map .maybeAsk, s)
  | .listForSession sessionId statuses taskId =>
    ((s.listForSession sessionId statuses taskId).map .asks, s)
  | .getAnswer sessionId askId => ((s.getAnswer sessionId askId).map .maybeAnswer, s)
  | .command c sessionId askId key =>
    let r := s.command c sessionId askId key
    (r.1.map .result, r.2)

end SqliteAskStore

end Taskweavn
