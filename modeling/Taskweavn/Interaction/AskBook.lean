import Mathlib.Logic.Function.Basic
import Taskweavn.Interaction.AskStore
import Taskweavn.Lib.Run

/-!
# What a store of questions is for

Both stores of questions keep the same book: which question stands under which id of a
session, the answer to it, and the result that a command has left under its key.
`AskBook` says this by three functions, and `commanded` what a command that is carried out
does to them.

* `AskCommand.result_cases`: a command is rejected, or it closes a pending question.
* `AskBook.Coherent`: a result that is kept as accepted is about a question that stands as
  the result says, and a question with an answer is answered.
* `AskBook.Complete`: moreover, a question that is answered has an answer.
* `Coherent.create`, `Coherent.commanded`: the writes keep it; a question that is not
  pending stays as it is (`commanded_frozen`).
-/

namespace Taskweavn

open Lib Py

/-! ### Commands -/

/-- The commands of a store: an answer, which is valid, or one of the ways to close a
question. -/
inductive AskCommand
  | answer (given : AskAnswer) (valid : given.Valid)
  | close (closing : AskClosing) (reason : Option String) (now : DateTime)

namespace AskCommand

def kind : AskCommand → AskCommandKind
  | .answer .. => .answer
  | .close closing _ _ => closing.kind

/-- The result of a command for a question, if there is one. -/
def result (c : AskCommand) (request : Option AskRequest) (key : Option String) :
    AskStoreCommandResult :=
  match c with
  | .answer given _ => answerRequest request given key
  | .close closing reason now => transitionRequest request closing reason key now

end AskCommand

/-- What is returned for a result that is kept. -/
def AskStoreCommandResult.replay (result : AskStoreCommandResult) : AskStoreCommandResult :=
  if result.status = .rejected then result else { result with status := .replayed }

/-- How a question stands after an accepted command. -/
def AskCommandKind.status : AskCommandKind → AskStatus
  | .answer => .answered
  | .defer => .deferred
  | .cancel => .cancelled
  | .expire => .expired

theorem AskCommandKind.status_injective : Function.Injective AskCommandKind.status := by
  intro k k' h
  cases k <;> cases k' <;> first | rfl | cases h

theorem AskCommandKind.status_ne_pending (k : AskCommandKind) : k.status ≠ .pending := by
  cases k <;> decide

theorem AskClosing.kind_status (closing : AskClosing) : closing.kind.status = closing.status := by
  cases closing <;> rfl

/-- A question and what a command made of it. -/
structure AskCommand.Closes (c : AskCommand) (key : Option String) (request ask : AskRequest) :
    Prop where
  pending : request.status = .pending
  status : ask.status = c.kind.status
  askId : ask.askId = request.askId
  sessionId : ask.sessionId = request.sessionId

namespace AskCommand

variable {c : AskCommand} {request : Option AskRequest} {key : Option String}

theorem answerRequest_cases (request : Option AskRequest) (key : Option String)
    (answer : AskAnswer) :
    (answerRequest request answer key).commandKind = .answer ∧
      (answerRequest request answer key).idempotencyKey = key ∧
      ((answerRequest request answer key).status = .rejected ∧
          (answerRequest request answer key).ask = request ∨
        ∃ r effective, request = some r ∧ r.status = .pending ∧
          (answerRequest request answer key).status = .accepted ∧
          (answerRequest request answer key).ask = some (r.answeredBy effective) ∧
          (answerRequest request answer key).answer = some effective ∧
          effective.sessionId = r.sessionId ∧ effective.askId = r.askId) := by
  cases request with
  | none => exact ⟨rfl, rfl, .inl ⟨rfl, rfl⟩⟩
  | some r =>
    unfold answerRequest
    dsimp only
    split
    · exact ⟨rfl, rfl, .inl ⟨rfl, rfl⟩⟩
    · next htarget =>
      obtain ⟨hsession, hask⟩ := not_or.mp htarget
      split
      · exact ⟨rfl, rfl, .inl ⟨rfl, rfl⟩⟩
      · split
        · exact ⟨rfl, rfl, .inl ⟨rfl, rfl⟩⟩
        · next hpending =>
          split
          · exact ⟨rfl, rfl, .inl ⟨rfl, rfl⟩⟩
          · split
            · exact ⟨rfl, rfl, .inl ⟨rfl, rfl⟩⟩
            · refine ⟨rfl, rfl, .inr ⟨r, _, rfl, not_not.mp hpending, rfl, rfl, rfl, ?_⟩⟩
              split <;> exact ⟨not_not.mp hsession, not_not.mp hask⟩

theorem transitionRequest_cases (request : Option AskRequest) (key : Option String)
    (closing : AskClosing) (reason : Option String) (now : DateTime) :
    (transitionRequest request closing reason key now).commandKind = closing.kind ∧
      (transitionRequest request closing reason key now).idempotencyKey = key ∧
      ((transitionRequest request closing reason key now).status = .rejected ∧
          (transitionRequest request closing reason key now).ask = request ∨
        ∃ r, request = some r ∧ r.status = .pending ∧
          (transitionRequest request closing reason key now).status = .accepted ∧
          (transitionRequest request closing reason key now).ask =
            some (r.closed closing reason now) ∧
          (transitionRequest request closing reason key now).answer = none) := by
  cases request with
  | none => exact ⟨rfl, rfl, .inl ⟨rfl, rfl⟩⟩
  | some r =>
    unfold transitionRequest
    dsimp only
    split
    · exact ⟨rfl, rfl, .inl ⟨rfl, rfl⟩⟩
    · next hpending => exact ⟨rfl, rfl, .inr ⟨r, rfl, not_not.mp hpending, rfl, rfl, rfl⟩⟩

/-- **A command is rejected, or it closes a pending question**; an answer is kept with the
question that it answers. -/
theorem result_cases (c : AskCommand) (request : Option AskRequest) (key : Option String) :
    (c.result request key).commandKind = c.kind ∧ (c.result request key).idempotencyKey = key ∧
      ((c.result request key).status = .rejected ∧ (c.result request key).ask = request ∨
        ∃ r ask, request = some r ∧ c.Closes key r ask ∧ (c.result request key).status = .accepted ∧
          (c.result request key).ask = some ask ∧
          ((c.result request key).answer.isSome = true ↔ c.kind = .answer)) := by
  cases c with
  | answer given valid =>
    obtain ⟨hkind, hkey, h⟩ := answerRequest_cases request key given
    refine ⟨hkind, hkey, h.imp id ?_⟩
    rintro ⟨r, effective, hr, hpending, hstatus, hask, hanswer, -, -⟩
    refine ⟨r, r.answeredBy effective, hr, ⟨hpending, rfl, rfl, rfl⟩, hstatus, hask,
      iff_of_true ?_ rfl⟩
    rw [AskCommand.result, hanswer]
    rfl
  | close closing reason now =>
    obtain ⟨hkind, hkey, h⟩ :=
      transitionRequest_cases request key closing reason now
    refine ⟨hkind, hkey, h.imp id ?_⟩
    rintro ⟨r, hr, hpending, hstatus, hask, hanswer⟩
    refine ⟨r, r.closed closing reason now, hr, ⟨hpending, closing.kind_status.symm, rfl, rfl⟩,
      hstatus, hask, iff_of_false ?_ ?_⟩
    · rw [AskCommand.result, hanswer]
      exact Bool.false_ne_true
    · cases closing <;> exact fun h => by cases h

theorem valid_of_result (c : AskCommand) (request : Option AskRequest) (hkey : key ≠ some "")
    {a : AskAnswer} (h : (c.result request key).answer = some a) : a.Valid := by
  cases c with
  | answer given valid =>
    change (answerRequest request given key).answer = some a at h
    unfold answerRequest at h
    cases request with
    | none => cases h
    | some r =>
      dsimp only at h
      repeat' split at h
      all_goals cases h
      · exact hkey
      · exact valid
  | close closing reason now =>
    change (transitionRequest request closing reason key now).answer = some a at h
    unfold transitionRequest at h
    cases request with
    | none => cases h
    | some r =>
      dsimp only at h
      split at h <;> cases h

end AskCommand

/-! ### The book -/

/-- What is known under the ids and the keys of the sessions. -/
structure AskBook where
  asks : String × String → Option AskRequest
  answers : String × String → Option AskAnswer
  results : String × String → Option AskStoreCommandResult

namespace AskBook

def empty : AskBook := ⟨fun _ => none, fun _ => none, fun _ => none⟩

/-- A new question. -/
def create (b : AskBook) (r : AskRequest) : AskBook :=
  { b with asks := Function.update b.asks (r.sessionId, r.askId) (some r) }

def written (b : AskBook) (k : String × String) (result : AskStoreCommandResult) : AskBook :=
  if result.status = .accepted then
    { b with
      asks := Function.update b.asks k result.ask
      answers := if result.answer.isSome then Function.update b.answers k result.answer
        else b.answers }
  else b

def remembered (b : AskBook) (sessionId : String) (key : Option String)
    (result : AskStoreCommandResult) : AskBook :=
  match key with
  | none => b
  | some k => { b with results := Function.update b.results (sessionId, k) (some result) }

/-- **A command that is carried out.** -/
def commanded (b : AskBook) (c : AskCommand) (sessionId askId : String) (key : Option String) :
    AskBook :=
  (b.written (sessionId, askId) (c.result (b.asks (sessionId, askId)) key)).remembered sessionId key
    (c.result (b.asks (sessionId, askId)) key)

theorem create_asks (b : AskBook) (r : AskRequest) :
    (b.create r).asks = Function.update b.asks (r.sessionId, r.askId) (some r) := rfl

theorem written_asks {b : AskBook} {result : AskStoreCommandResult}
    (h : result.status = .accepted) (k : String × String) :
    (b.written k result).asks = Function.update b.asks k result.ask := by
  rw [written, if_pos h]

theorem written_answers {b : AskBook} {result : AskStoreCommandResult}
    (h : result.status = .accepted) (k : String × String) : (b.written k result).answers =
      if result.answer.isSome then Function.update b.answers k result.answer else b.answers := by
  rw [written, if_pos h]

theorem written_of_ne {b : AskBook} {result : AskStoreCommandResult}
    (h : result.status ≠ .accepted) (k : String × String) : b.written k result = b := by
  rw [written, if_neg h]

theorem remembered_results (b : AskBook) (sessionId k : String) (result : AskStoreCommandResult) :
    (b.remembered sessionId (some k) result).results =
      Function.update b.results (sessionId, k) (some result) := rfl

@[simp] theorem remembered_asks (b : AskBook) (sessionId : String) (key : Option String)
    (result : AskStoreCommandResult) : (b.remembered sessionId key result).asks = b.asks := by
  cases key <;> rfl

@[simp] theorem remembered_answers (b : AskBook) (sessionId : String) (key : Option String)
    (result : AskStoreCommandResult) :
    (b.remembered sessionId key result).answers = b.answers := by
  cases key <;> rfl

@[simp] theorem written_results (b : AskBook) (k : String × String)
    (result : AskStoreCommandResult) : (b.written k result).results = b.results := by
  rw [written]
  split <;> rfl

/-- The result that is kept under a key, if the command has one. -/
def recorded (b : AskBook) (sessionId : String) (key : Option String) :
    Option AskStoreCommandResult :=
  key.bind fun k => b.results (sessionId, k)

/-- **What the writes keep.** -/
structure Coherent (b : AskBook) : Prop where
  keyed : ∀ k r, b.asks k = some r → (r.sessionId, r.askId) = k
  results : ∀ sessionId key result, b.results (sessionId, key) = some result →
    result.status ≠ .replayed ∧ (result.status = .accepted → ∃ ask, result.ask = some ask ∧
      ask.status = result.commandKind.status ∧ b.asks (sessionId, ask.askId) = some ask)
  answers : ∀ k, (b.answers k).isSome = true → ∃ r, b.asks k = some r ∧ r.status = .answered
  valid : ∀ k a, b.answers k = some a → a.Valid

/-- No question is answered without an answer. -/
structure Complete (b : AskBook) : Prop extends Coherent b where
  answered : ∀ k r, b.asks k = some r → r.status = .answered → (b.answers k).isSome = true

theorem coherent_empty : Coherent empty where
  keyed k r h := by cases h
  results sessionId key result h := by cases h
  answers k h := by cases h
  valid k a h := by cases h

theorem complete_empty : Complete empty where
  toCoherent := coherent_empty
  answered k r h := by cases h

variable {b : AskBook}

theorem Complete.answers_iff (h : b.Complete) (k : String × String) :
    (b.answers k).isSome = true ↔ ∃ r, b.asks k = some r ∧ r.status = .answered :=
  ⟨h.answers k, fun ⟨r, hr, hanswered⟩ => h.answered k r hr hanswered⟩

theorem Coherent.create (h : b.Coherent) {r : AskRequest}
    (hfree : b.asks (r.sessionId, r.askId) = none) : (b.create r).Coherent where
  keyed k r' hr' := by
    rw [create_asks, Function.update_apply] at hr'
    split at hr'
    · next hk => rw [← Option.some.inj hr', hk]
    · exact h.keyed k r' hr'
  results sessionId key result hresult := by
    obtain ⟨hreplayed, haccepted⟩ := h.results sessionId key result hresult
    refine ⟨hreplayed, fun hacc => ?_⟩
    obtain ⟨ask, hask, hkind, hstored⟩ := haccepted hacc
    refine ⟨ask, hask, hkind, ?_⟩
    rw [create_asks, Function.update_of_ne]
    · exact hstored
    · intro hk
      rw [← hk, hstored] at hfree
      cases hfree
  answers k hanswer := by
    obtain ⟨r', hr', hanswered⟩ := h.answers k hanswer
    refine ⟨r', ?_, hanswered⟩
    rw [create_asks, Function.update_of_ne]
    · exact hr'
    · rintro rfl
      rw [hfree] at hr'
      cases hr'
  valid := h.valid

theorem Complete.create (h : b.Complete) {r : AskRequest}
    (hfree : b.asks (r.sessionId, r.askId) = none) (hstatus : r.status ≠ .answered) :
    (b.create r).Complete where
  toCoherent := h.toCoherent.create hfree
  answered k r' hr' hanswered := by
    rw [create_asks, Function.update_apply] at hr'
    split at hr'
    · exact absurd (Option.some.inj hr' ▸ hanswered) hstatus
    · exact h.answered k r' hr' hanswered

theorem Coherent.closed (h : b.Coherent) {k : String × String} {r ask : AskRequest}
    {c : AskCommand} {key : Option String} (hstored : b.asks k = some r)
    (hcloses : c.Closes key r ask)
    {result : AskStoreCommandResult} (hstatus : result.status = .accepted)
    (hask : result.ask = some ask) (hanswer : result.answer.isSome = true ↔ c.kind = .answer)
    (hvalid : ∀ a, result.answer = some a → a.Valid) : (b.written k result).Coherent := by
  have hkey : (ask.sessionId, ask.askId) = k := by
    rw [hcloses.sessionId, hcloses.askId]
    exact h.keyed k r hstored
  refine ⟨fun k' r' hr' => ?_, fun sessionId key' result' hresult => ?_, fun k' => ?_,
    fun k' a ha => ?_⟩
  · rw [written_asks hstatus, hask, Function.update_apply] at hr'
    split at hr'
    · next hk => rw [← Option.some.inj hr', hkey, hk]
    · exact h.keyed k' r' hr'
  · rw [written_results] at hresult
    obtain ⟨hreplayed, haccepted⟩ := h.results sessionId key' result' hresult
    refine ⟨hreplayed, fun hacc => ?_⟩
    obtain ⟨ask', hask', hkind, hstored'⟩ := haccepted hacc
    refine ⟨ask', hask', hkind, ?_⟩
    rw [written_asks hstatus, Function.update_of_ne]
    · exact hstored'
    · -- The question that a kept result is about is not pending.
      intro hk
      rw [hk, hstored, Option.some.injEq] at hstored'
      rw [← hstored', hcloses.pending] at hkind
      exact result'.commandKind.status_ne_pending hkind.symm
  · intro hsome
    rw [written_answers hstatus] at hsome
    rw [written_asks hstatus, hask]
    rcases eq_or_ne k' k with rfl | hne
    · split at hsome
      · next hgiven =>
        exact ⟨ask, Function.update_self _ _ _, by rw [hcloses.status, hanswer.mp hgiven]; rfl⟩
      · -- A question that is pending has no answer.
        obtain ⟨r', hr', hanswered⟩ := h.answers k' hsome
        rw [hstored, Option.some.injEq] at hr'
        rw [← hr', hcloses.pending] at hanswered
        cases hanswered
    · rw [Function.update_of_ne hne]
      split at hsome
      · exact h.answers k' (by rwa [Function.update_of_ne hne] at hsome)
      · exact h.answers k' hsome
  · rw [written_answers hstatus] at ha
    split at ha
    · rw [Function.update_apply] at ha
      split at ha
      · exact hvalid a ha
      · exact h.valid k' a ha
    · exact h.valid k' a ha

theorem Coherent.remembered (h : b.Coherent) {sessionId : String} (key : Option String)
    {result : AskStoreCommandResult} (hreplayed : result.status ≠ .replayed)
    (haccepted : result.status = .accepted → ∃ ask, result.ask = some ask ∧
      ask.status = result.commandKind.status ∧ b.asks (sessionId, ask.askId) = some ask) :
    (b.remembered sessionId key result).Coherent := by
  cases key with
  | none => exact h
  | some k =>
    refine ⟨h.keyed, fun sid k' result' hresult => ?_, h.answers, h.valid⟩
    rw [remembered_results, Function.update_apply] at hresult
    split at hresult
    · next hk =>
      obtain ⟨rfl, rfl⟩ := Prod.mk.inj hk
      obtain rfl := Option.some.inj hresult
      exact ⟨hreplayed, haccepted⟩
    · exact h.results sid k' result' hresult

/-- **A command keeps the book.** -/
theorem Coherent.commanded (h : b.Coherent) (c : AskCommand) (sessionId askId : String)
    {key : Option String} (hne : key ≠ some "") :
    (b.commanded c sessionId askId key).Coherent := by
  obtain ⟨hkind, hkey, hcases⟩ := c.result_cases (b.asks (sessionId, askId)) key
  have hvalid := fun a => c.valid_of_result (b.asks (sessionId, askId)) hne (a := a)
  rw [AskBook.commanded]
  generalize c.result (b.asks (sessionId, askId)) key = result at hkind hkey hcases hvalid ⊢
  rcases hcases with ⟨hrejected, -⟩ | ⟨r, ask, hstored, hcloses, haccepted, hask, hanswer⟩
  · rw [written_of_ne (by rw [hrejected]; exact fun h => by cases h)]
    exact h.remembered key (by rw [hrejected]; exact fun h => by cases h)
      (by rw [hrejected]; exact fun h => by cases h)
  · refine (h.closed hstored hcloses haccepted hask hanswer hvalid).remembered key ?_ fun _ => ?_
    · rw [haccepted]
      exact fun h => by cases h
    · have hkeyed := h.keyed _ r hstored
      rw [← hcloses.sessionId, ← hcloses.askId] at hkeyed
      refine ⟨ask, hask, hkind ▸ hcloses.status, ?_⟩
      rw [written_asks haccepted, (Prod.mk.inj hkeyed).2, Function.update_self, hask]

theorem Complete.commanded (h : b.Complete) (c : AskCommand) (sessionId askId : String)
    {key : Option String} (hne : key ≠ some "") :
    (b.commanded c sessionId askId key).Complete where
  toCoherent := h.toCoherent.commanded c sessionId askId hne
  answered k r hr hanswered := by
    rw [AskBook.commanded, remembered_asks] at hr
    rw [AskBook.commanded, remembered_answers]
    obtain ⟨-, -, ⟨hrejected, -⟩ | ⟨r', ask, -, hcloses, haccepted, hask, hanswer⟩⟩ :=
      c.result_cases (b.asks (sessionId, askId)) key
    · have hno : (c.result (b.asks (sessionId, askId)) key).status ≠ .accepted := by
        rw [hrejected]
        exact fun h => by cases h
      rw [written_of_ne hno] at hr ⊢
      exact h.answered k r hr hanswered
    · rw [written_asks haccepted, Function.update_apply] at hr
      rw [written_answers haccepted]
      split at hr
      · next hk =>
        have hkind : c.kind = .answer := by
          rw [hask, Option.some.injEq] at hr
          rw [← hr, hcloses.status] at hanswered
          exact AskCommandKind.status_injective hanswered
        rw [if_pos (hanswer.mpr hkind), hk, Function.update_self]
        exact hanswer.mpr hkind
      · next hk =>
        have hold := h.answered k r hr hanswered
        split
        · rwa [Function.update_of_ne hk]
        · exact hold

/-- **A question that is not pending stays as it is.** -/
theorem commanded_frozen (c : AskCommand) (sessionId askId : String) (key : Option String)
    {k : String × String} {ask : AskRequest} (hstored : b.asks k = some ask)
    (hpending : ask.status ≠ .pending) :
    (b.commanded c sessionId askId key).asks k = some ask := by
  rw [commanded, remembered_asks]
  by_cases haccepted : (c.result (b.asks (sessionId, askId)) key).status = .accepted
  · rw [written_asks haccepted]
    rcases eq_or_ne k (sessionId, askId) with rfl | hne
    · obtain ⟨-, -, ⟨hrejected, -⟩ | ⟨r, ask', hr, hcloses, -⟩⟩ :=
        c.result_cases (b.asks (sessionId, askId)) key
      · rw [hrejected] at haccepted
        cases haccepted
      · rw [hstored, Option.some.injEq] at hr
        exact absurd (hr ▸ hcloses.pending) hpending
    · exact (Function.update_of_ne hne _ _).trans hstored
  · rw [written_of_ne haccepted]
    exact hstored

end AskBook

/-! ### Calls -/

inductive AskStoreError
  | alreadyExists (askId : String)
  | answerFailed
  | transitionFailed
  /-- `TypeError`: a time with an offset and one without are not compared. -/
  | notComparable
  /-- `ValidationError` -/
  | invalid
  /-- `UnicodeEncodeError` -/
  | unicode
deriving DecidableEq

/-- The calls of a store; the arguments that are models are valid. -/
inductive AskCall
  | create (request : AskRequest) (valid : request.Valid)
  | get (sessionId askId : String)
  | listForSession (sessionId : String) (statuses : Option (List AskStatus))
      (taskId : Option String)
  | getAnswer (sessionId askId : String)
  | command (c : AskCommand) (sessionId askId : String) (key : Option String)

namespace AskCall

def answer (sessionId askId : String) (given : AskAnswer) (valid : given.Valid)
    (key : Option String) : AskCall := .command (.answer given valid) sessionId askId key

def defer (sessionId askId : String) (reason key : Option String) (now : DateTime) : AskCall :=
  .command (.close .deferred reason now) sessionId askId key

def cancel (sessionId askId reason : String) (key : Option String) (now : DateTime) : AskCall :=
  .command (.close .cancelled (some reason) now) sessionId askId key

def expire (sessionId askId : String) (reason key : Option String) (now : DateTime) : AskCall :=
  .command (.close .expired reason now) sessionId askId key

end AskCall

/-- A question to the user, which is not about a task. -/
def plainAsk (askId : String) (h : askId ≠ "" := by decide) : AskRequest where
  askId := askId
  sessionId := "s"
  question := "Which one?"
  reason := "Two are open."
  blocking := false
  createdAt := .utc .noon
  texts_ok := ⟨h, by decide⟩
  questions_ok := nodup_no_questions
  blocking_scope h := by cases h
  answer_ref := pending_answer_ref

def plainAnswer (answerId askId : String) (h : answerId ≠ "" ∧ askId ≠ "" := by decide) :
    AskAnswer where
  answerId := answerId
  askId := askId
  sessionId := "s"
  text := some "The first."
  createdAt := .utc .noon
  texts_ok := ⟨h.1, h.2, by decide⟩
  content_ok := .inr rfl

inductive AskReply
  | ask (ask : AskRequest)
  | maybeAsk (ask : Option AskRequest)
  | asks (asks : List AskRequest)
  | maybeAnswer (answer : Option AskAnswer)
  | result (result : AskStoreCommandResult)
deriving DecidableEq

/-! ### The store in memory -/

namespace InMemoryAskStore

/-- Sorting compares a time that has an offset with one that has none. -/
def Mixed (asks : List AskRequest) : Prop :=
  ∃ a ∈ asks, ∃ b ∈ asks, ¬a.createdAt.Comparable b.createdAt

instance Mixed.decidable (asks : List AskRequest) : Decidable (Mixed asks) :=
  inferInstanceAs (Decidable (∃ _ ∈ _, ∃ _ ∈ _, _))

/-- A command: the result of an empty key is refused by its model. -/
def command (store : InMemoryAskStore) (c : AskCommand) (sessionId askId : String)
    (key : Option String) : Except AskStoreError AskStoreCommandResult × InMemoryAskStore :=
  match store.idempotencyReplay sessionId key with
  | some replay => (.ok replay, store)
  | none =>
    if key = some "" then (.error .invalid, store)
    else
      let r := match c with
        | .answer given _ => store.answer sessionId askId given key
        | .close closing reason now => store.transition sessionId askId closing reason key now
      (.ok r.1, r.2)

def step (store : InMemoryAskStore) : AskCall → Except AskStoreError AskReply × InMemoryAskStore
  | .create request _ =>
    match store.create request with
    | some store' => (.ok (.ask request), store')
    | none => (.error (.alreadyExists request.askId), store)
  | .get sessionId askId => (.ok (.maybeAsk (store.get sessionId askId)), store)
  | .listForSession sessionId statuses taskId =>
    (if Mixed (store.selected sessionId statuses taskId) then .error .notComparable
      else .ok (.asks (store.listForSession sessionId statuses taskId)), store)
  | .getAnswer sessionId askId => (.ok (.maybeAnswer (store.getAnswer sessionId askId)), store)
  | .command c sessionId askId key =>
    let r := store.command c sessionId askId key
    (r.1.map .result, r.2)

def book (store : InMemoryAskStore) : AskBook :=
  ⟨store.requests.get?, store.answers.get?, store.idempotency.get?⟩

theorem idempotencyReplay_eq (store : InMemoryAskStore) (sessionId : String)
    (key : Option String) : store.idempotencyReplay sessionId key =
      (store.book.recorded sessionId key).map AskStoreCommandResult.replay := rfl

theorem get?_set_eq_update {V : Type} (d : Dict (String × String) V) (k : String × String) (v : V) :
    (d.set k v).get? = Function.update d.get? k (some v) := by
  funext k'
  rw [Dict.get?_set, Function.update_apply]
  simp only [eq_comm]

theorem create_book {store store' : InMemoryAskStore} {request : AskRequest}
    (h : store.create request = some store') :
    store.book.asks (request.sessionId, request.askId) = none ∧
      store'.book = store.book.create request := by
  unfold create at h
  split at h
  · cases h
  · next hfree =>
    cases h
    refine ⟨hfree, ?_⟩
    rw [book, AskBook.create, get?_set_eq_update]
    rfl

theorem remember_book (store : InMemoryAskStore) (sessionId : String) (key : Option String)
    (result : AskStoreCommandResult) :
    (store.remember sessionId key result).book = store.book.remembered sessionId key result := by
  cases key with
  | none => rfl
  | some k =>
    rw [remember, book, AskBook.remembered, get?_set_eq_update]
    rfl

theorem answer_book (store : InMemoryAskStore) (sessionId askId : String) (given : AskAnswer)
    (valid : given.Valid) {key : Option String}
    (hnew : store.idempotencyReplay sessionId key = none) :
    (store.answer sessionId askId given key).1 =
        (AskCommand.answer given valid).result (store.get sessionId askId) key ∧
      (store.answer sessionId askId given key).2.book =
        store.book.commanded (.answer given valid) sessionId askId key := by
  have hresult : (AskCommand.answer given valid).result (store.get sessionId askId) key =
    answerRequest (store.get sessionId askId) given key := rfl
  unfold answer
  rw [hnew]
  refine ⟨rfl, ?_⟩
  dsimp only
  rw [remember_book, AskBook.commanded]
  show AskBook.remembered _ _ _ _ = AskBook.remembered _ _ _
    (answerRequest (store.get sessionId askId) given key)
  congr 1
  show _ = AskBook.written _ _ (answerRequest (store.get sessionId askId) given key)
  obtain ⟨-, -, ⟨hrejected, -⟩ | ⟨r, effective, -, -, haccepted, hask, hanswer, -⟩⟩ :=
    AskCommand.answerRequest_cases (store.get sessionId askId) key given
  · rw [AskBook.written_of_ne (by rw [hrejected]; exact fun h => by cases h), hrejected]
  · rw [haccepted, hask, hanswer, AskBook.written, if_pos haccepted, hask, hanswer, book,
      get?_set_eq_update, get?_set_eq_update]
    rfl

theorem transition_book (store : InMemoryAskStore) (sessionId askId : String)
    (closing : AskClosing) (reason : Option String) (now : DateTime) {key : Option String}
    (hnew : store.idempotencyReplay sessionId key = none) :
    (store.transition sessionId askId closing reason key now).1 =
        (AskCommand.close closing reason now).result (store.get sessionId askId) key ∧
      (store.transition sessionId askId closing reason key now).2.book =
        store.book.commanded (.close closing reason now) sessionId askId key := by
  unfold transition
  rw [hnew]
  refine ⟨rfl, ?_⟩
  dsimp only
  rw [remember_book, AskBook.commanded]
  show AskBook.remembered _ _ _ _ = AskBook.remembered _ _ _
    (transitionRequest (store.get sessionId askId) closing reason key now)
  congr 1
  show _ = AskBook.written _ _
    (transitionRequest (store.get sessionId askId) closing reason key now)
  obtain ⟨-, -, ⟨hrejected, -⟩ | ⟨r, -, -, haccepted, hask, hanswer⟩⟩ :=
    AskCommand.transitionRequest_cases (store.get sessionId askId) key closing
      reason now
  · rw [AskBook.written_of_ne (by rw [hrejected]; exact fun h => by cases h), hrejected]
  · rw [haccepted, hask, AskBook.written, if_pos haccepted, hask, hanswer, book,
      get?_set_eq_update]
    rfl

/-- **A command of the store in memory** is a replay, is refused, or is carried out. -/
theorem command_eq (store : InMemoryAskStore) (c : AskCommand) (sessionId askId : String)
    (key : Option String) :
    (∃ r, store.book.recorded sessionId key = some r ∧
        store.command c sessionId askId key = (.ok r.replay, store)) ∨
      store.book.recorded sessionId key = none ∧
        (key = some "" ∧ store.command c sessionId askId key = (.error .invalid, store) ∨
          key ≠ some "" ∧ ∃ store', store.command c sessionId askId key =
              (.ok (c.result (store.book.asks (sessionId, askId)) key), store') ∧
            store'.book = store.book.commanded c sessionId askId key) := by
  have hreplay := store.idempotencyReplay_eq sessionId key
  unfold command
  cases hrecorded : store.book.recorded sessionId key with
  | some r =>
    rw [hrecorded] at hreplay
    rw [hreplay]
    exact .inl ⟨r, rfl, rfl⟩
  | none =>
    rw [hrecorded] at hreplay
    refine .inr ⟨rfl, ?_⟩
    rw [hreplay]
    by_cases hkey : key = some ""
    · exact .inl ⟨hkey, by rw [Option.map_none, if_pos hkey]⟩
    · refine .inr ⟨hkey, ?_⟩
      rw [Option.map_none, if_neg hkey]
      cases c with
      | answer given valid =>
        obtain ⟨hresult, hbook⟩ := store.answer_book sessionId askId given valid hreplay
        exact ⟨_, Prod.ext (congrArg Except.ok hresult) rfl, hbook⟩
      | close closing reason now =>
        obtain ⟨hresult, hbook⟩ := store.transition_book sessionId askId closing reason now hreplay
        exact ⟨_, Prod.ext (congrArg Except.ok hresult) rfl, hbook⟩

end InMemoryAskStore

end Taskweavn
