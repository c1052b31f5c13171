import Taskweavn.Py.Model
import Taskweavn.Interaction.SqliteAskBook

/-!
# Rows that read back

The SQLite store writes copies, which are not validated, and validates what it reads.  An
error of validation inside a transaction is no error of SQLite, and is not rolled back.

* `AskCommand.Accepts`: the checks of a command on a question; `timesOf` and `reason` are
  what an accepted one writes.
* `SqliteAskStore.Readable`: every row reads back, and no transaction is open.
* `Legible`: the condition under which a call leaves the store so.
* `SqliteAskStore.readsBack_command`: **a command leaves a readable store so, exactly if it
  is legible**.
-/

namespace Taskweavn

open Lib Py

/-! ### What an accepted command writes -/

def AskRequest.timeOf (r : AskRequest) : AskStatus → Option Moment
  | .pending => some r.createdAt
  | .answered => r.answeredAt
  | .deferred => r.deferredAt
  | .cancelled => r.cancelledAt
  | .expired => r.expiredAt

theorem AskRequest.json_eq_iff (r : AskRequest) :
    r.json = r ↔ ∀ status, ∀ m ∈ r.timeOf status, m.WholeMinutes := by
  have hmap : ∀ time : Option Moment, time.map Moment.json = time ↔ ∀ m ∈ time, m.WholeMinutes := by
    intro time
    cases time with
    | none => simp
    | some m => simp [Moment.json_eq_iff]
  constructor
  · intro h status
    rw [← hmap]
    have htime := congrArg (fun r => r.timeOf status) h
    cases status <;> exact htime
  · intro h
    have hcreated := Option.some.inj ((hmap _).mpr (h .pending))
    have hanswered := (hmap _).mpr (h .answered)
    have hdeferred := (hmap _).mpr (h .deferred)
    have hcancelled := (hmap _).mpr (h .cancelled)
    have hexpired := (hmap _).mpr (h .expired)
    simp only [timeOf] at hanswered hdeferred hcancelled hexpired
    simp only [json, hcreated, hanswered, hdeferred, hcancelled, hexpired]

theorem AskAnswer.json_eq_iff (a : AskAnswer) : a.json = a ↔ a.createdAt.WholeMinutes := by
  rw [← Moment.json_eq_iff]
  constructor
  · exact fun h => congrArg AskAnswer.createdAt h
  · intro h
    rw [json, h]

namespace AskCommand

/-- **The checks of a command** on a question. -/
def Accepts (c : AskCommand) (key : Option String) (r : AskRequest) : Prop :=
  match c with
  | .answer given _ => r.status = .pending ∧ given.sessionId = r.sessionId ∧
      given.askId = r.askId ∧ r.taskId = given.taskId ∧
        validateAnswerAgainstRequest r given = none ∧
      (key.isSome = true → given.idempotencyKey = key ∨ given.idempotencyKey = none)
  | .close .. => r.status = .pending

instance decidableAccepts (c : AskCommand) (key : Option String) (r : AskRequest) :
    Decidable (c.Accepts key r) :=
  match c with
  | .answer .. => inferInstanceAs (Decidable (_ ∧ _ ∧ _ ∧ _ ∧ _ ∧ _))
  | .close .. => inferInstanceAs (Decidable (_ = _))

/-- The reason that becomes the hint of a question. -/
def reason : AskCommand → Option String
  | .answer .. => none
  | .close _ reason _ => reason

/-- The time at which the question is closed. -/
def time : AskCommand → Moment
  | .answer given _ => given.createdAt
  | .close _ _ now => .utc now

def answerId : AskCommand → Option String
  | .answer given _ => some given.answerId
  | .close .. => none

def timesOf (c : AskCommand) (key : Option String) (r : AskRequest) : AskStatus → Option Moment :=
  if c.Accepts key r then Function.update r.timeOf c.kind.status (some c.time) else r.timeOf

variable {c : AskCommand} {key : Option String} {r : AskRequest}

theorem result_none (c : AskCommand) (key : Option String) :
    (c.result none key).status = .rejected ∧
    (c.result none key).ask = none ∧ (c.result none key).answer = none := by
  cases c <;> exact ⟨rfl, rfl, rfl⟩

theorem result_of_not_accepts (h : ¬c.Accepts key r) : (c.result (some r) key).status = .rejected ∧
    (c.result (some r) key).ask = some r ∧ (c.result (some r) key).answer = none := by
  cases c with
  | answer given valid =>
    change (answerRequest (some r) given key).status = _ ∧
      (answerRequest (some r) given key).ask = _ ∧
      (answerRequest (some r) given key).answer = _
    unfold answerRequest
    dsimp only
    split
    · exact ⟨rfl, rfl, rfl⟩
    · next htarget =>
      obtain ⟨hsession, hask⟩ := not_or.mp htarget
      split
      · exact ⟨rfl, rfl, rfl⟩
      · next htask =>
        split
        · exact ⟨rfl, rfl, rfl⟩
        · next hpending =>
          split
          · exact ⟨rfl, rfl, rfl⟩
          · next hcheck =>
            split
            · exact ⟨rfl, rfl, rfl⟩
            · next hkey =>
              refine absurd ⟨not_not.mp hpending, not_not.mp hsession, not_not.mp hask,
                not_not.mp htask, hcheck, fun hsome => ?_⟩ h
              by_contra hno
              obtain ⟨hne, hnone⟩ := not_or.mp hno
              exact hkey ⟨hsome, hne, Option.isSome_iff_ne_none.mpr hnone⟩
  | close closing reason now =>
    change (transitionRequest (some r) closing reason key now).status = _ ∧
      (transitionRequest (some r) closing reason key now).ask = _ ∧
      (transitionRequest (some r) closing reason key now).answer = _
    unfold transitionRequest
    dsimp only
    rw [if_pos (show ¬r.status = .pending from h)]
    exact ⟨rfl, rfl, rfl⟩

theorem result_of_accepts (h : c.Accepts key r) : (c.result (some r) key).status = .accepted ∧
    ∃ ask, (c.result (some r) key).ask = some ask ∧ ask.timeOf = c.timesOf key r ∧
      (r.Valid → (ask.Valid ↔ c.reason ≠ some "")) ∧
      (∀ a ∈ (c.result (some r) key).answer, ask.timeOf .answered = some a.createdAt) ∧
      (c.result (some r) key).answer.map AskAnswer.answerId = c.answerId := by
  rw [timesOf, if_pos h]
  cases c with
  | answer given valid =>
    obtain ⟨hpending, hsession, hask, htask, hcheck, hkey⟩ := h
    have hresult : answerRequest (some r) given key =
        { status := .accepted
          message := "ASK answered"
          ask := some (r.answeredBy
            (if key.isSome then { given with idempotencyKey := key } else given))
          answer := some (if key.isSome then { given with idempotencyKey := key } else given)
          commandKind := .answer
          idempotencyKey := key } := by
      unfold answerRequest
      dsimp only
      rw [if_neg (not_or.mpr ⟨not_not.mpr hsession, not_not.mpr hask⟩), if_neg (not_not.mpr htask),
        if_neg (not_not.mpr hpending), hcheck]
      dsimp only
      rw [if_neg]
      rintro ⟨hsome, hne, hgiven⟩
      rcases hkey hsome with heq | hnone
      · exact hne heq
      · rw [hnone] at hgiven
        cases hgiven
    have htime : (if key.isSome then { given with idempotencyKey := key } else given).createdAt =
        given.createdAt := by
      split <;> rfl
    change (answerRequest (some r) given key).status = _ ∧ ∃ ask,
      (answerRequest (some r) given key).ask = _ ∧ _ ∧ _ ∧
      (∀ a ∈ (answerRequest (some r) given key).answer, _) ∧
        (answerRequest (some r) given key).answer.map _ = _
    rw [hresult]
    refine ⟨rfl, _, rfl, ?_, ?_, ?_, ?_⟩
    · funext status
      cases status <;> first | rfl | exact congrArg some htime
    · exact fun hvalid => iff_of_true hvalid (Option.some_ne_none "").symm
    · intro a ha
      obtain rfl := Option.some.inj ha
      rfl
    · rw [Option.map_some]
      split <;> rfl
  | close closing reason now =>
    have hresult : transitionRequest (some r) closing reason key now =
        { status := .accepted
          message := "ASK " ++ closing.status.toText
          ask := some (r.closed closing reason now)
          commandKind := closing.kind
          idempotencyKey := key } := by
      unfold transitionRequest
      dsimp only
      rw [if_neg (not_not.mpr (show r.status = .pending from h))]
    change (transitionRequest (some r) closing reason key now).status = _ ∧ ∃ ask,
      (transitionRequest (some r) closing reason key now).ask = _ ∧ _ ∧ _ ∧
      (∀ a ∈ (transitionRequest (some r) closing reason key now).answer, _) ∧
        (transitionRequest (some r) closing reason key now).answer.map _ = _
    rw [hresult]
    refine ⟨rfl, _, rfl, ?_, fun _ => Iff.rfl, fun a ha => (by cases ha), rfl⟩
    funext status
    cases closing <;> cases status <;> rfl

end AskCommand

/-! ### Readable books -/

/-- A result is read from its JSON text as it was kept. -/
def AskStoreCommandResult.ReadsBack (result : AskStoreCommandResult) : Prop :=
  resultFromJson result = .ok result

theorem AskStoreCommandResult.readsBack_iff (result : AskStoreCommandResult) :
    result.ReadsBack ↔ result.Valid ∧ (∀ ask ∈ result.ask, ask.json = ask) ∧
      ∀ a ∈ result.answer, a.json = a := by
  rw [ReadsBack, resultFromJson]
  by_cases hvalid : result.Valid
  · rw [if_pos hvalid, Except.ok.injEq]
    obtain ⟨status, message, ask, answer, kind, key⟩ := result
    simp only [json, AskStoreCommandResult.mk.injEq, true_and, and_true, hvalid]
    cases ask <;> cases answer <;> simp
  · rw [if_neg hvalid]
    exact iff_of_false (fun h => by cases h) fun h => hvalid h.1

namespace AskBook

/-- The questions of the book are valid, and `P` holds of the results that are kept. -/
structure Holds (P : AskStoreCommandResult → Prop) (b : AskBook) : Prop where
  asks : ∀ k r, b.asks k = some r → r.Valid
  results : ∀ k result, b.results k = some result → P result

theorem holds_empty (P : AskStoreCommandResult → Prop) : Holds P empty where
  asks k r h := by cases h
  results k result h := by cases h

variable {P : AskStoreCommandResult → Prop} {b : AskBook}

theorem Holds.create (h : b.Holds P) {r : AskRequest} (valid : r.Valid) : (b.create r).Holds P where
  asks k r' hr' := by
    rw [create_asks, Function.update_apply] at hr'
    split at hr'
    · exact Option.some.inj hr' ▸ valid
    · exact h.asks k r' hr'
  results := h.results

theorem remembered_holds_iff {sessionId : String} {key : Option String}
    (hnew : b.recorded sessionId key = none) (result : AskStoreCommandResult) :
    (b.remembered sessionId key result).Holds P ↔ b.Holds P ∧ (key.isSome = true → P result) := by
  cases key with
  | none => exact ⟨fun h => ⟨h, fun h => by cases h⟩, And.left⟩
  | some k =>
    constructor
    · refine fun h => ⟨⟨h.asks, fun k' result' hresult => ?_⟩, fun _ => ?_⟩
      · refine h.results k' result' ?_
        rw [remembered_results, Function.update_of_ne]
        · exact hresult
        · rintro rfl
          rw [show b.results (sessionId, k) = none from hnew] at hresult
          cases hresult
      · exact h.results (sessionId, k) result (Function.update_self _ _ _)
    · rintro ⟨h, hresult⟩
      refine ⟨h.asks, fun k' result' hresult' => ?_⟩
      rw [remembered_results, Function.update_apply] at hresult'
      split at hresult'
      · exact Option.some.inj hresult' ▸ hresult rfl
      · exact h.results k' result' hresult'

theorem written_holds_iff (h : b.Holds P) {k : String × String} {result : AskStoreCommandResult}
    (haccepted : result.status = .accepted) :
    (b.written k result).Holds P ↔ ∀ ask ∈ result.ask, ask.Valid := by
  constructor
  · intro h' ask hask
    refine h'.asks k ask ?_
    rw [written_asks haccepted, Function.update_self, hask]
  · refine fun hvalid => ⟨fun k' r hr => ?_, fun k' result' hresult => ?_⟩
    · rw [written_asks haccepted, Function.update_apply] at hr
      split at hr
      · exact hvalid r hr
      · exact h.asks k' r hr
    · rw [written_results] at hresult
      exact h.results k' result' hresult

end AskBook

namespace AskCommand

/-- **What a command has to leave readable**: a question that is closed has no empty hint,
and a result that is kept has times that are read from JSON as they were. -/
def Legible (c : AskCommand) (key : Option String) (r : AskRequest) : Prop :=
  (c.Accepts key r → c.reason ≠ some "") ∧
    (key.isSome = true → ∀ status, ∀ m ∈ c.timesOf key r status, m.WholeMinutes)

end AskCommand

namespace AskBook

variable {b : AskBook}

/-- **A command that is carried out leaves a readable book**, exactly if it is legible. -/
theorem commanded_readable_iff (h : b.Holds AskStoreCommandResult.ReadsBack) (c : AskCommand)
    {sessionId askId : String}
    {key : Option String} (hkey : key ≠ some "") (hnew : b.recorded sessionId key = none) :
    (b.commanded c sessionId askId key).Holds AskStoreCommandResult.ReadsBack ↔
      ∀ r, b.asks (sessionId, askId) = some r → c.Legible key r := by
  have hrecorded : (b.written (sessionId, askId)
      (c.result (b.asks (sessionId, askId)) key)).recorded sessionId key = none := by
    cases key with
    | none => rfl
    | some k => rw [recorded, Option.bind_some, written_results]; exact hnew
  have hvalid := fun a => c.valid_of_result (b.asks (sessionId, askId)) hkey (a := a)
  obtain ⟨-, hresultKey, -⟩ := c.result_cases (b.asks (sessionId, askId)) key
  rw [commanded, remembered_holds_iff hrecorded]
  cases hstored : b.asks (sessionId, askId) with
  | none =>
    obtain ⟨hrejected, hask, hanswer⟩ := c.result_none key
    rw [hstored] at hresultKey
    rw [written_of_ne (by rw [hrejected]; exact fun h => by cases h),
      AskStoreCommandResult.readsBack_iff, AskStoreCommandResult.Valid, hask, hanswer, hresultKey]
    refine iff_of_true ⟨h, fun _ => ⟨⟨?_, ?_, hkey⟩, ?_, ?_⟩⟩ fun r hr => by cases hr
    all_goals exact fun _ hnone => by cases hnone
  | some r =>
    rw [hstored] at hvalid hresultKey
    have hone : (∀ r', some r = some r' → c.Legible key r') ↔ c.Legible key r :=
      ⟨fun h => h r rfl, fun h r' hr' => Option.some.inj hr' ▸ h⟩
    rw [hone, AskCommand.Legible]
    have hr := h.asks _ r hstored
    by_cases haccepts : c.Accepts key r
    · obtain ⟨haccepted, ask, hask, htimes, hhint, hanswer, -⟩ :=
        AskCommand.result_of_accepts haccepts
      have hread : ask.json = ask ↔ ∀ status, ∀ m ∈ c.timesOf key r status, m.WholeMinutes := by
        rw [AskRequest.json_eq_iff, htimes]
      have hasks : ∀ p : AskRequest → Prop, (∀ a ∈ (c.result (some r) key).ask, p a) ↔ p ask := by
        simp [hask]
      rw [written_holds_iff h haccepted, AskStoreCommandResult.readsBack_iff,
        AskStoreCommandResult.Valid, hasks, hasks, hresultKey, hhint hr, hread]
      constructor
      · rintro ⟨hreason, hkept⟩
        exact ⟨fun _ => hreason, fun hsome => (hkept hsome).2.1⟩
      · rintro ⟨hreason, hkept⟩
        refine ⟨hreason haccepts, fun hsome => ⟨⟨hreason haccepts, hvalid, hkey⟩, hkept hsome,
          fun a ha => ?_⟩⟩
        refine (AskAnswer.json_eq_iff a).mpr (hkept hsome .answered _ ?_)
        rw [← htimes]
        exact hanswer a ha
    · obtain ⟨hrejected, hask, hanswer⟩ := AskCommand.result_of_not_accepts haccepts
      have hread : r.json = r ↔ ∀ status, ∀ m ∈ c.timesOf key r status, m.WholeMinutes := by
        rw [AskRequest.json_eq_iff, AskCommand.timesOf, if_neg haccepts]
      have hasks : ∀ p : AskRequest → Prop, (∀ a ∈ (c.result (some r) key).ask, p a) ↔ p r := by
        simp [hask]
      have hanswers : ∀ p : AskAnswer → Prop, ∀ a ∈ (c.result (some r) key).answer, p a := by
        simp [hanswer]
      rw [written_of_ne (by rw [hrejected]; exact fun h => by cases h),
        AskStoreCommandResult.readsBack_iff, AskStoreCommandResult.Valid, hasks, hasks, hresultKey,
        hread]
      constructor
      · exact fun hkept => ⟨fun h => absurd h haccepts, fun hsome => (hkept.2 hsome).2.1⟩
      · exact fun hkept => ⟨h, fun hsome => ⟨⟨hr, hanswers _, hkey⟩, hkept.2 hsome, hanswers _⟩⟩

end AskBook

/-! ### The tables -/

namespace SqliteAskStore

/-- **Every row reads back, and no transaction is open.** -/
structure Readable (s : SqliteAskStore) : Prop where
  closed : s.openSince = none
  asks : ∀ id row, s.tables.asks.get? id = some row →
    ∃ r, row = .ofRequest r ∧ requestFromRow row = .ok r
  answers : ∀ id row, s.tables.answers.get? id = some row →
    ∃ a, row = .ofAnswer a ∧ answerFromRow row = .ok a
  results : ∀ k result, s.tables.idempotency.get? k = some result → result.ReadsBack

/-- The calls that only read: the reads, and what is replayed. -/
def Reads (s : SqliteAskStore) : AskCall → Prop
  | .create .. => False
  | .command _ sessionId _ key =>
    (key.bind fun k => s.tables.idempotency.get? (sessionId, k)).isSome = true
  | _ => True

structure ReadsBack (s : SqliteAskStore) (call : AskCall) : Prop where
  reads : s.Reads call → ∃ reply, (s.step call).1 = .ok reply
  readable : (s.step call).2.Readable

/-- The id of an answer has a row. -/
def Taken (t : AskTables) (c : AskCommand) : Prop :=
  ∃ id ∈ c.answerId, (t.answers.get? id).isSome = true

/-- **The condition**: a command that is no replay has no empty key, and closes no question
with an empty reason; and when its result is kept, the times in it are read from JSON as they
were. -/
def Legible (s : SqliteAskStore) : AskCall → Prop
  | .command c sessionId askId key =>
    (key.bind fun k => s.tables.idempotency.get? (sessionId, k)) = none →
      key ≠ some "" ∧ ∀ r, s.tables.asks.get? askId = some (.ofRequest r) →
        r.sessionId = sessionId → ¬(c.Accepts key r ∧ Taken s.tables c) → c.Legible key r
  | _ => True

variable {s : SqliteAskStore} {b : AskBook}

theorem readable_iff (h : s.tables.Keeps b) (hb : b.Coherent) :
    s.Readable ↔ s.openSince = none ∧ b.Holds AskStoreCommandResult.ReadsBack := by
  constructor
  · refine fun hs => ⟨hs.closed, fun k r hr => ?_, fun k result hresult => ?_⟩
    · obtain ⟨r', hrow, hread⟩ := hs.asks _ _ ((h.asks _ _ r).mp hr).1
      rw [requestFromRow_ofRequest] at hread
      by_contra hinvalid
      rw [if_neg hinvalid] at hread
      cases hread
    · exact hs.results k result (h.results k ▸ hresult)
  · rintro ⟨hclosed, hreadable⟩
    refine ⟨hclosed, fun id row hrow => ?_, fun id row hrow => ?_, fun k result hresult => ?_⟩
    · obtain ⟨-, r, rfl⟩ := s.tables.asks_ok id row hrow
      refine ⟨r, rfl, ?_⟩
      rw [requestFromRow_ofRequest, if_pos]
      exact hreadable.asks (r.sessionId, id) r ((h.asks _ _ r).mpr ⟨hrow, rfl⟩)
    · obtain ⟨-, a, rfl⟩ := s.tables.answers_ok id row hrow
      refine ⟨a, rfl, ?_⟩
      rw [answerFromRow_ofAnswer, if_pos]
      exact hb.valid (a.sessionId, a.askId) a ((h.answers _ _ a).mpr ⟨⟨id, hrow⟩, rfl, rfl⟩)
    · exact hreadable.results k result ((h.results k).trans hresult)

/-- **A readable store reads.** -/
theorem Readable.reads (hs : s.Readable) {call : AskCall} (h : s.Reads call) :
    ∃ reply, (s.step call).1 = .ok reply := by
  cases call with
  | create => exact h.elim
  | get sessionId askId =>
    show ∃ reply, (s.tables.getLocked sessionId askId).map _ = _
    unfold AskTables.getLocked
    cases hrow : s.tables.asks.get? askId with
    | none => exact ⟨_, rfl⟩
    | some row =>
      obtain ⟨r, -, hread⟩ := hs.asks askId row hrow
      dsimp only
      split
      · rw [hread]
        exact ⟨_, rfl⟩
      · exact ⟨_, rfl⟩
  | listForSession sessionId statuses taskId =>
    show ∃ reply, (s.listForSession sessionId statuses taskId).map _ = _
    unfold listForSession
    split
    · exact ⟨_, rfl⟩
    · have hrows : ∃ asks, (sortOn listOrder
          (s.tables.asks.values.filter (listed sessionId statuses taskId))).mapM requestFromRow =
            .ok asks := by
        have hread : ∀ row ∈ sortOn listOrder
            (s.tables.asks.values.filter (listed sessionId statuses taskId)),
            ∃ r, requestFromRow row = .ok r ∧ row = .ofRequest r := by
          intro row hrow
          obtain ⟨id, hid⟩ := Dict.mem_values.mp (List.mem_of_mem_filter (mem_sortOn.mp hrow))
          obtain ⟨r, hof, hread⟩ := hs.asks id row hid
          exact ⟨r, hread, hof⟩
        obtain ⟨asks, hasks, -⟩ := exists_mapM hread
        exact ⟨asks, hasks⟩
      obtain ⟨asks, hasks⟩ := hrows
      rw [hasks]
      exact ⟨_, rfl⟩
  | getAnswer sessionId askId =>
    show ∃ reply, (s.getAnswer sessionId askId).map _ = _
    unfold getAnswer
    cases hfind : s.tables.answers.values.find? fun row =>
        row.sessionId == sessionId && row.askId == askId with
    | none => exact ⟨_, rfl⟩
    | some row =>
      obtain ⟨id, hid⟩ := Dict.mem_values.mp (List.mem_of_find?_eq_some hfind)
      obtain ⟨a, -, hread⟩ := hs.answers id row hid
      dsimp only
      rw [hread]
      exact ⟨_, rfl⟩
  | command c sessionId askId key =>
    obtain ⟨stored, hstored⟩ := Option.isSome_iff_exists.mp h
    obtain ⟨k, rfl, hk⟩ := Option.bind_eq_some_iff.mp hstored
    have hread : resultFromJson stored = .ok stored := hs.results _ stored hk
    show ∃ reply, (s.command c sessionId askId (some k)).1.map _ = _
    unfold command AskTables.idempotencyReplayLocked
    rw [hstored]
    dsimp only
    rw [hread]
    exact ⟨_, rfl⟩

theorem takenAnswer_iff {t : AskTables} {c : AskCommand} {key : Option String} {r : AskRequest} :
    TakenAnswer t (c.result (some r) key) ↔ c.Accepts key r ∧ Taken t c := by
  by_cases haccepts : c.Accepts key r
  · obtain ⟨haccepted, ask, -, -, -, -, hid⟩ := AskCommand.result_of_accepts haccepts
    rw [TakenAnswer, Taken, ← hid]
    simp [haccepted, haccepts, Option.map_eq_some_iff]
  · obtain ⟨hrejected, -⟩ := AskCommand.result_of_not_accepts haccepts
    refine iff_of_false (fun h => ?_) fun h => haccepts h.1
    rw [TakenAnswer, hrejected] at h
    cases h.1

theorem readsBack_same (hs : s.Readable) {call : AskCall} (hsame : (s.step call).2 = s) :
    s.ReadsBack call where
  reads := hs.reads
  readable := by
    rw [hsame]
    exact hs

theorem readsBack_create (hs : s.Readable) (h : s.tables.Keeps b) (hb : b.Coherent)
    (request : AskRequest) (valid : request.Valid) : s.ReadsBack (.create request valid) ∧
      ∃ b', (s.step (.create request valid)).2.tables.Keeps b' ∧ b'.Coherent := by
  cases hinsert : s.tables.insertAsk request with
  | none =>
    have hstep : s.step (.create request valid) = (.error (.alreadyExists request.askId), s) := by
      rw [step, hinsert]
    refine ⟨readsBack_same hs (by rw [hstep]), b, ?_, hb⟩
    rw [hstep]
    exact h
  | some t =>
    have hstep : s.step (.create request valid) = (.ok (.ask request), { s with tables := t }) := by
      rw [step, hinsert]
    obtain ⟨hfree, hkeeps⟩ := h.insertAsk hinsert
    have hcoherent := hb.create hfree
    obtain ⟨hclosed, hreadable⟩ := (readable_iff h hb).mp hs
    refine ⟨⟨fun hreads => hreads.elim, ?_⟩, b.create request, ?_, hcoherent⟩
    · rw [hstep]
      refine (readable_iff (s := { s with tables := t }) hkeeps hcoherent).mpr
        ⟨hclosed, hreadable.create valid⟩
    · rw [hstep]
      exact hkeeps

/-- **A command leaves the store readable**, exactly if it is legible. -/
theorem readsBack_command (hs : s.Readable) (h : s.tables.Keeps b) (hb : b.Coherent)
    (c : AskCommand) (sessionId askId : String) (key : Option String) :
    (s.ReadsBack (.command c sessionId askId key) ↔ s.Legible (.command c sessionId askId key)) ∧
      (s.Legible (.command c sessionId askId key) → ∃ b',
        (s.step (.command c sessionId askId key)).2.tables.Keeps b' ∧ b'.Coherent) := by
  obtain ⟨hclosed, hreadable⟩ := (readable_iff h hb).mp hs
  have hruns := runs h hb c sessionId askId key
  generalize hcommand : s.command c sessionId askId key = r at hruns
  have hstep : s.step (.command c sessionId askId key) = (r.1.map .result, r.2) := by
    rw [step, hcommand]
  have hstored : ∀ r, b.asks (sessionId, askId) = some r ↔
      s.tables.asks.get? askId = some (.ofRequest r) ∧ r.sessionId = sessionId :=
    h.asks sessionId askId
  rw [Legible, ← h.recorded sessionId key]
  cases hruns with
  | replayed stored hrec hvalid =>
    refine ⟨iff_of_true (readsBack_same hs (by rw [hstep])) fun hnew => ?_, fun _ => ⟨b, ?_, hb⟩⟩
    · rw [hrec] at hnew
      cases hnew
    · rw [hstep]
      exact h
  | unreadable stored hrec hinvalid =>
    obtain ⟨k, rfl, hk⟩ := Option.bind_eq_some_iff.mp hrec
    have hread := (stored.readsBack_iff).mp (hreadable.results _ stored hk)
    exact absurd hread.1 hinvalid
  | blocked hnew old hsince e =>
    rw [hclosed] at hsince
    cases hsince
  | stuck hnew hclosed' hcause =>
    have hkey : key = some "" := hcause.resolve_right fun ⟨r, hr, hinvalid⟩ =>
      hinvalid (hreadable.asks _ r hr)
    have hno : ¬s.ReadsBack (.command c sessionId askId key) := by
      intro hback
      have hopen := hback.readable.closed
      rw [hstep] at hopen
      cases hopen
    exact ⟨iff_of_false hno fun hlegible => (hlegible hnew).1 hkey,
      fun hlegible => absurd hkey (hlegible hnew).1⟩
  | refused hnew hclosed' hkey hvalid htaken e =>
    refine ⟨iff_of_true (readsBack_same hs (by rw [hstep])) fun _ =>
      ⟨hkey, fun r hrow hsession hfree => ?_⟩,
      fun _ => ⟨b, ?_, hb⟩⟩
    · rw [(hstored r).mpr ⟨hrow, hsession⟩] at htaken
      exact absurd (takenAnswer_iff.mp htaken) hfree
    · rw [hstep]
      exact h
  | done hnew hclosed' hkey hvalid hfree t hkeeps =>
    have hcoherent := hb.commanded c sessionId askId hkey
    have hiff : s.ReadsBack (.command c sessionId askId key) ↔
        (b.commanded c sessionId askId key).Holds AskStoreCommandResult.ReadsBack := by
      constructor
      · intro hback
        have hafter := hback.readable
        rw [hstep] at hafter
        exact ((readable_iff (s := { tables := t }) hkeeps hcoherent).mp hafter).2
      · refine fun hafter => ⟨hs.reads, ?_⟩
        rw [hstep]
        exact (readable_iff (s := { tables := t }) hkeeps hcoherent).mpr ⟨rfl, hafter⟩
    rw [hiff, AskBook.commanded_readable_iff hreadable c hkey hnew]
    refine ⟨⟨fun hall _ => ⟨hkey, fun r hrow hsession _ =>
      hall r ((hstored r).mpr ⟨hrow, hsession⟩)⟩,
      fun hlegible r hr => ?_⟩, fun _ => ⟨_, ?_, hcoherent⟩⟩
    · obtain ⟨hrow, hsession⟩ := (hstored r).mp hr
      refine (hlegible hnew).2 r hrow hsession fun htaken => hfree ?_
      rw [hr]
      exact takenAnswer_iff.mpr htaken
    · rw [hstep]
      exact hkeeps

theorem readable_empty : Readable {} where
  closed := rfl
  asks id row h := by cases h
  answers id row h := by cases h
  results k result h := by cases h

end SqliteAskStore

end Taskweavn
