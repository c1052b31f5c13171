import Taskweavn.Interaction.SqliteAskStore

/-!
# The book in the tables

`Keeps t b` says that the tables `t` hold the book `b`: a row for each question, answer
and kept result, and no others.  The statements of SQLite do to the book what they say, and
`runs` lists all that a command of the SQLite store can do.
-/

namespace Taskweavn

open Lib Py

/-! ### Rows of questions -/

theorem AskRow.ofRequest_injective : Function.Injective AskRow.ofRequest := by
  intro r r' h
  have hread : ∀ r : AskRequest, requestFromRow { AskRow.ofRequest r with resumeHint := none } =
      .ok { r with resumeHint := none } := fun r =>
    (requestFromRow_ofRequest { r with resumeHint := none }).trans
      (if_pos (Option.some_ne_none "").symm)
  have hrest : ({ r with resumeHint := none } : AskRequest) = { r' with resumeHint := none } := by
    have hsame := hread r
    rw [h, hread r'] at hsame
    exact (Except.ok.inj hsame).symm
  have hhint : r.resumeHint = r'.resumeHint := congrArg AskRow.resumeHint h
  calc r = { { r with resumeHint := none } with resumeHint := r.resumeHint } := rfl
    _ = r' := by rw [hrest, hhint]

theorem AskAnswerRow.ofAnswer_injective : Function.Injective AskAnswerRow.ofAnswer := by
  intro a a' h
  have htime : a.createdAt = a'.createdAt :=
    Moment.isoformat_injective (congrArg AskAnswerRow.createdAt h)
  obtain ⟨id, ask, session, task, selected, text, key, created, texts, content⟩ := a
  obtain ⟨id', ask', session', task', selected', text', key', created', texts', content'⟩ := a'
  simp only [AskAnswerRow.ofAnswer, AskAnswerRow.mk.injEq] at h htime
  obtain ⟨rfl, rfl, rfl, rfl, rfl, rfl, rfl, -⟩ := h
  subst htime
  rfl

/-! ### Tables that hold a book -/

/-- **The tables hold the book.** -/
structure AskTables.Keeps (t : AskTables) (b : AskBook) : Prop where
  asks : ∀ sessionId askId r, b.asks (sessionId, askId) = some r ↔
    t.asks.get? askId = some (.ofRequest r) ∧ r.sessionId = sessionId
  answers : ∀ sessionId askId a, b.answers (sessionId, askId) = some a ↔
    (∃ id, t.answers.get? id = some (.ofAnswer a)) ∧ a.sessionId = sessionId ∧ a.askId = askId
  results : ∀ k, b.results k = t.idempotency.get? k

namespace AskTables

theorem keeps_empty : empty.Keeps .empty where
  asks sessionId askId r := ⟨fun h => (by cases h), fun h => (by cases h.1)⟩
  answers sessionId askId a := ⟨fun h => (by cases h), fun ⟨⟨_, h⟩, _⟩ => (by cases h)⟩
  results k := rfl

variable {t : AskTables} {b : AskBook}

namespace Keeps

theorem asks_none (h : t.Keeps b) {sessionId askId : String} (hget : t.asks.get? askId = none) :
    b.asks (sessionId, askId) = none := by
  cases hask : b.asks (sessionId, askId) with
  | none => rfl
  | some r =>
    have hrow := ((h.asks sessionId askId r).mp hask).1
    rw [hget] at hrow
    cases hrow

theorem recorded (h : t.Keeps b) (sessionId : String) (key : Option String) :
    b.recorded sessionId key = key.bind fun k => t.idempotency.get? (sessionId, k) := by
  cases key with
  | none => rfl
  | some k => exact h.results (sessionId, k)

theorem getLocked (h : t.Keeps b) (sessionId askId : String) :
    t.getLocked sessionId askId =
      if ∀ r, b.asks (sessionId, askId) = some r → r.Valid then .ok (b.asks (sessionId, askId))
      else .error .invalid := by
  unfold AskTables.getLocked
  cases hget : t.asks.get? askId with
  | none =>
    have hnone : b.asks (sessionId, askId) = none := h.asks_none hget
    rw [hnone, if_pos fun r hr => by cases hr]
  | some row =>
    obtain ⟨hid, r, rfl⟩ := t.asks_ok askId row hget
    dsimp only
    by_cases hsession : r.sessionId = sessionId
    · have hstored : b.asks (sessionId, askId) = some r := (h.asks _ _ r).mpr ⟨hget, hsession⟩
      rw [if_pos (show (AskRow.ofRequest r).sessionId = sessionId from hsession), hstored,
        requestFromRow_ofRequest]
      by_cases hvalid : r.Valid
      · rw [if_pos hvalid, if_pos fun r' hr' => Option.some.inj hr' ▸ hvalid]
        rfl
      · rw [if_neg hvalid, if_neg fun hall => hvalid (hall r rfl)]
        rfl
    · have hnone : b.asks (sessionId, askId) = none := by
        cases hask : b.asks (sessionId, askId) with
        | none => rfl
        | some r' =>
          obtain ⟨hrow, hsession'⟩ := (h.asks _ _ r').mp hask
          rw [hget] at hrow
          exact absurd (AskRow.ofRequest_injective (Option.some.inj hrow) ▸ hsession') hsession
      rw [if_neg (show ¬(AskRow.ofRequest r).sessionId = sessionId from hsession), hnone,
        if_pos fun r hr => by cases hr]

theorem putAsk (h : t.Keeps b) {r : AskRequest}
    (hother : ∀ sessionId, sessionId ≠ r.sessionId → b.asks (sessionId, r.askId) = none) :
    (t.putAsk r).Keeps (b.create r) := by
  refine ⟨fun sessionId askId r' => ?_, h.answers, h.results⟩
  show _ ↔ (t.asks.set r.askId (.ofRequest r)).get? askId = _ ∧ _
  rw [AskBook.create_asks, Function.update_apply, Dict.get?_set]
  by_cases hid : r.askId = askId
  · rw [if_pos hid, Option.some.injEq, AskRow.ofRequest_injective.eq_iff]
    by_cases hsession : r.sessionId = sessionId
    · rw [if_pos (by rw [hid, hsession]), Option.some.injEq]
      exact ⟨fun heq => ⟨heq, heq ▸ hsession⟩, fun heq => heq.1⟩
    · rw [if_neg fun heq => hsession (Prod.mk.inj heq).1.symm, ← hid,
        hother sessionId (Ne.symm hsession)]
      refine iff_of_false (fun h => by cases h) ?_
      rintro ⟨rfl, hs⟩
      exact hsession hs
  · rw [if_neg hid, if_neg fun heq => hid (Prod.mk.inj heq).2.symm]
    exact h.asks sessionId askId r'

theorem insertAsk (h : t.Keeps b) {r : AskRequest} {t' : AskTables}
    (hinsert : t.insertAsk r = some t') :
    b.asks (r.sessionId, r.askId) = none ∧ t'.Keeps (b.create r) := by
  unfold AskTables.insertAsk at hinsert
  split at hinsert
  · cases hinsert
  · next hfree =>
    cases hinsert
    have hnone : t.asks.get? r.askId = none := by simpa using hfree
    exact ⟨h.asks_none hnone, h.putAsk fun _ _ => h.asks_none hnone⟩

theorem updateRequest (h : t.Keeps b) {r ask : AskRequest}
    (hstored : b.asks (ask.sessionId, ask.askId) = some r) :
    (t.updateRequest ask).Keeps (b.create ask) := by
  obtain ⟨hrow, hsession⟩ := (h.asks _ _ r).mp hstored
  have hupdate : t.updateRequest ask = t.putAsk ask := by
    rw [AskTables.updateRequest, hrow]
    exact if_pos hsession
  rw [hupdate]
  refine h.putAsk fun sessionId hne => ?_
  cases hask : b.asks (sessionId, ask.askId) with
  | none => rfl
  | some r' =>
    obtain ⟨hrow', hsession'⟩ := (h.asks _ _ r').mp hask
    rw [hrow, Option.some.injEq, AskRow.ofRequest_injective.eq_iff] at hrow'
    rw [← hrow', hsession] at hsession'
    exact absurd hsession'.symm hne

theorem putAnswer (h : t.Keeps b) {a : AskAnswer} (hfree : t.answers.get? a.answerId = none)
    (hnone : b.answers (a.sessionId, a.askId) = none) :
    (t.putAnswer a).Keeps
      { b with answers := Function.update b.answers (a.sessionId, a.askId) (some a) } := by
  refine ⟨h.asks, fun sessionId askId a' => ?_, h.results⟩
  show _ ↔ (∃ id, (t.answers.set a.answerId (.ofAnswer a)).get? id = _) ∧ _
  dsimp only
  rw [Function.update_apply]
  constructor
  · intro hget
    split at hget
    · next hk =>
      obtain rfl := Option.some.inj hget
      exact ⟨⟨a.answerId, Dict.get?_set_self _ _ _⟩, (Prod.mk.inj hk).1.symm,
        (Prod.mk.inj hk).2.symm⟩
    · obtain ⟨⟨id, hid⟩, hsession, hask⟩ := (h.answers _ _ a').mp hget
      refine ⟨⟨id, ?_⟩, hsession, hask⟩
      rw [Dict.get?_set_ne _ _ (fun heq => by rw [heq, hid] at hfree; cases hfree)]
      exact hid
  · rintro ⟨⟨id, hid⟩, rfl, rfl⟩
    rw [Dict.get?_set] at hid
    split at hid
    · rw [Option.some.injEq, AskAnswerRow.ofAnswer_injective.eq_iff] at hid
      rw [hid, if_pos rfl]
    · have hold : b.answers (a'.sessionId, a'.askId) = some a' :=
        (h.answers _ _ a').mpr ⟨⟨id, hid⟩, rfl, rfl⟩
      rw [if_neg]
      · exact hold
      · intro hk
        rw [hk, hnone] at hold
        cases hold

theorem insertAnswer (h : t.Keeps b) (hb : b.Coherent) {r : AskRequest} {a : AskAnswer}
    (hstored : b.asks (a.sessionId, a.askId) = some r) (hpending : r.status = .pending) :
    t.insertAnswer a = if (t.answers.get? a.answerId).isSome = true then none
      else some (t.putAnswer a) := by
  obtain ⟨hrow, -⟩ := (h.asks _ _ r).mp hstored
  have hunique : ¬∃ row ∈ t.answers.values, row.askId = a.askId := by
    rintro ⟨row, hmem, hask⟩
    obtain ⟨k, hk⟩ := Dict.mem_values.mp hmem
    obtain ⟨-, a', rfl⟩ := t.answers_ok k row hk
    have hanswer : b.answers (a'.sessionId, a'.askId) = some a' :=
      (h.answers _ _ a').mpr ⟨⟨k, hk⟩, rfl, rfl⟩
    obtain ⟨r', hr', hanswered⟩ := hb.answers _ (by rw [hanswer]; rfl)
    obtain ⟨hrow', -⟩ := (h.asks _ _ r').mp hr'
    rw [show a'.askId = a.askId from hask, hrow, Option.some.injEq,
      AskRow.ofRequest_injective.eq_iff] at hrow'
    rw [← hrow', hpending] at hanswered
    cases hanswered
  have hthere : ¬(t.asks.get? a.askId).isSome = false := by
    rw [hrow]
    exact fun h => by cases h
  exact if_congr (or_iff_left (not_or.mpr ⟨hunique, hthere⟩)) rfl rfl

theorem rememberLocked (h : t.Keeps b) {sessionId : String} {key : Option String}
    (hnew : b.recorded sessionId key = none) (result : AskStoreCommandResult) :
    (t.rememberLocked sessionId key result).Keeps (b.remembered sessionId key result) := by
  cases key with
  | none => exact h
  | some k =>
    have hfree : t.idempotency.get? (sessionId, k) = none := by
      rw [← h.results]
      exact hnew
    rw [AskTables.rememberLocked, hfree]
    refine ⟨h.asks, h.answers, fun k' => ?_⟩
    show Function.update b.results _ _ k' = (t.idempotency.set _ _).get? k'
    rw [Function.update_apply, Dict.get?_set, h.results]
    simp only [eq_comm]

end Keeps

end AskTables

/-! ### What a command can do -/

namespace SqliteAskStore

/-- The id of the answer that a command would write has a row. -/
def TakenAnswer (t : AskTables) (result : AskStoreCommandResult) : Prop :=
  result.status = .accepted ∧ ∃ a, result.answer = some a ∧
    (t.answers.get? a.answerId).isSome = true

/-- **All that a command can do**, on tables that hold the book `b`. -/
inductive Runs (s : SqliteAskStore) (b : AskBook) (c : AskCommand) (sessionId askId : String)
    (key : Option String) : Except AskStoreError AskStoreCommandResult × SqliteAskStore → Prop
  | replayed (stored : AskStoreCommandResult) (recorded : b.recorded sessionId key = some stored)
      (valid : stored.Valid) : Runs s b c sessionId askId key (.ok stored.json.replay, s)
  | unreadable (stored : AskStoreCommandResult) (recorded : b.recorded sessionId key = some stored)
      (invalid : ¬stored.Valid) : Runs s b c sessionId askId key (.error .invalid, s)
  /-- A transaction is open, and is rolled back. -/
  | blocked (new : b.recorded sessionId key = none) (old : AskTables)
    (since : s.openSince = some old)
      (e : AskStoreError) : Runs s b c sessionId askId key (.error e, { tables := old })
  /-- A transaction is left open. -/
  | stuck (new : b.recorded sessionId key = none) (closed : s.openSince = none)
      (h : key = some "" ∨ ∃ r, b.asks (sessionId, askId) = some r ∧ ¬r.Valid) :
      Runs s b c sessionId askId key (.error .invalid, { s with openSince := some s.tables })
  | refused (new : b.recorded sessionId key = none) (closed : s.openSince = none)
      (hkey : key ≠ some "") (valid : ∀ r, b.asks (sessionId, askId) = some r → r.Valid)
      (taken : TakenAnswer s.tables (c.result (b.asks (sessionId, askId)) key))
        (e : AskStoreError) :
      Runs s b c sessionId askId key (.error e, s)
  | done (new : b.recorded sessionId key = none) (closed : s.openSince = none)
      (hkey : key ≠ some "") (valid : ∀ r, b.asks (sessionId, askId) = some r → r.Valid)
      (free : ¬TakenAnswer s.tables (c.result (b.asks (sessionId, askId)) key)) (t : AskTables)
      (keeps : t.Keeps (b.commanded c sessionId askId key)) :
      Runs s b c sessionId askId key
        (.ok (c.result (b.asks (sessionId, askId)) key), { tables := t })

variable {s : SqliteAskStore} {b : AskBook} {sessionId askId : String} {key : Option String}

/-- The question of a command can be read, and its result can be made. -/
def Clear (b : AskBook) (sessionId askId : String) (key : Option String) : Prop :=
  key ≠ some "" ∧ ∀ r, b.asks (sessionId, askId) = some r → r.Valid

instance Clear.decidable (b : AskBook) (sessionId askId : String) (key : Option String) :
    Decidable (Clear b sessionId askId key) :=
  inferInstanceAs (Decidable (_ ∧ _))

theorem requestOf_eq {t : AskTables} (h : t.Keeps b) : requestOf t sessionId askId key =
    if Clear b sessionId askId key then .ok (b.asks (sessionId, askId))
    else .error (.other .invalid) := by
  rw [requestOf, h.getLocked]
  by_cases hvalid : ∀ r, b.asks (sessionId, askId) = some r → r.Valid
  · by_cases hkey : key = some ""
    · rw [if_pos hvalid, if_neg fun h => h.1 hkey]
      exact if_pos hkey
    · rw [if_pos hvalid, if_pos ⟨hkey, hvalid⟩]
      exact if_neg hkey
  · rw [if_neg hvalid, if_neg fun h => hvalid h.2]

theorem getAnswer_eq (h : s.tables.Keeps b) (hb : b.Coherent) (sessionId askId : String) :
    s.getAnswer sessionId askId = .ok (b.answers (sessionId, askId)) := by
  unfold getAnswer
  cases hfind : s.tables.answers.values.find? fun row =>
      row.sessionId == sessionId && row.askId == askId with
  | none =>
    cases hanswer : b.answers (sessionId, askId) with
    | none => rfl
    | some a =>
      obtain ⟨⟨id, hid⟩, hsession, hask⟩ := (h.answers _ _ a).mp hanswer
      have hno := List.find?_eq_none.mp hfind _ (Dict.mem_values.mpr ⟨id, hid⟩)
      exact absurd (by simp [AskAnswerRow.ofAnswer, hsession, hask]) hno
  | some row =>
    have hmatch := List.find?_some hfind
    obtain ⟨id, hid⟩ := Dict.mem_values.mp (List.mem_of_find?_eq_some hfind)
    obtain ⟨-, a, rfl⟩ := s.tables.answers_ok id row hid
    have hkeyed : a.sessionId = sessionId ∧ a.askId = askId := by
      simpa [AskAnswerRow.ofAnswer] using hmatch
    have hanswer := (h.answers sessionId askId a).mpr ⟨⟨id, hid⟩, hkeyed⟩
    dsimp only
    rw [answerFromRow_ofAnswer, if_pos (hb.valid _ a hanswer), hanswer]
    rfl

/-- What the body of a transaction does. -/
structure BodySpec (t : AskTables) (b : AskBook) (c : AskCommand) (sessionId askId : String)
    (key : Option String) (r : Except Raised (AskStoreCommandResult × AskTables)) : Prop where
  stuck : ¬Clear b sessionId askId key → r = .error (.other .invalid)
  taken : Clear b sessionId askId key →
    TakenAnswer t (c.result (b.asks (sessionId, askId)) key) → r = .error .sqlite
  done : Clear b sessionId askId key →
    ¬TakenAnswer t (c.result (b.asks (sessionId, askId)) key) →
      ∃ t', r = .ok (c.result (b.asks (sessionId, askId)) key, t') ∧
        t'.Keeps (b.commanded c sessionId askId key)

variable {t : AskTables}

theorem commanded_of_rejected {c : AskCommand}
    (h : (c.result (b.asks (sessionId, askId)) key).status ≠ .accepted) :
    b.commanded c sessionId askId key =
      b.remembered sessionId key (c.result (b.asks (sessionId, askId)) key) := by
  rw [AskBook.commanded, AskBook.written_of_ne h]

section

variable {c : AskCommand} {out : Except Raised (AskStoreCommandResult × AskTables)}

theorem BodySpec.of_stuck (hstuck : ¬Clear b sessionId askId key)
    (hout : out = .error (.other .invalid)) : BodySpec t b c sessionId askId key out :=
  ⟨fun _ => hout, fun hc => absurd hc hstuck, fun hc => absurd hc hstuck⟩

theorem BodySpec.of_rejected (h : t.Keeps b) (hnew : b.recorded sessionId key = none)
    (hclear : Clear b sessionId askId key)
    (hne : (c.result (b.asks (sessionId, askId)) key).status ≠ .accepted)
    (hout : out = .ok (c.result (b.asks (sessionId, askId)) key,
      t.rememberLocked sessionId key (c.result (b.asks (sessionId, askId)) key))) :
    BodySpec t b c sessionId askId key out := by
  refine ⟨fun hc => absurd hclear hc, fun _ htaken => absurd htaken.1 hne, fun _ _ =>
    ⟨_, hout, ?_⟩⟩
  rw [commanded_of_rejected hne]
  exact h.rememberLocked hnew _

end

theorem answerBody_spec (h : t.Keeps b) (hb : b.Coherent)
    (hnew : b.recorded sessionId key = none) (given : AskAnswer) (valid : given.Valid) :
    BodySpec t b (.answer given valid) sessionId askId key
      (answerBody sessionId askId given key t) := by
  by_cases hclear : Clear b sessionId askId key
  swap
  · exact .of_stuck hclear (by rw [answerBody, requestOf_eq h, if_neg hclear])
  have hresult : (AskCommand.answer given valid).result (b.asks (sessionId, askId)) key =
    answerRequest (b.asks (sessionId, askId)) given key := rfl
  obtain ⟨-, -, ⟨hrejected, -⟩ | ⟨r, a, hstored, hpending, haccepted, hask, hanswer,
    hsession, hid⟩⟩ :=
    AskCommand.answerRequest_cases (b.asks (sessionId, askId)) key given
  · have hne : (answerRequest (b.asks (sessionId, askId)) given key).status ≠ .accepted := by
      rw [hrejected]
      exact fun h => by cases h
    refine .of_rejected (c := .answer given valid) h hnew hclear hne ?_
    rw [answerBody, requestOf_eq h, if_pos hclear]
    dsimp only
    rw [hrejected]
    rfl
  · have hkey : (r.sessionId, r.askId) = (sessionId, askId) := hb.keyed _ r hstored
    have hkeyed : (a.sessionId, a.askId) = (sessionId, askId) := by rw [hsession, hid, hkey]
    have hinsert := h.insertAnswer hb (a := a) (by rw [hkeyed]; exact hstored) hpending
    have hbody : ∀ inserted, t.insertAnswer a = inserted →
        answerBody sessionId askId given key t = inserted.elim (.error .sqlite) fun t' =>
          .ok (answerRequest (b.asks (sessionId, askId)) given key,
            (t'.updateRequest (r.answeredBy a)).rememberLocked sessionId key
              (answerRequest (b.asks (sessionId, askId)) given key)) := by
      intro inserted hinserted
      rw [answerBody, requestOf_eq h, if_pos hclear]
      dsimp only
      rw [haccepted, hask, hanswer]
      dsimp only
      rw [hinserted]
      cases inserted <;> rfl
    refine ⟨fun hc => absurd hclear hc, fun _ htaken => ?_, fun _ hfree => ?_⟩
    · obtain ⟨-, a', ha', htaken⟩ := htaken
      rw [hresult, hanswer, Option.some.injEq] at ha'
      exact hbody none (by rw [hinsert, if_pos (ha' ▸ htaken)])
    · have hnone : (t.answers.get? a.answerId) = none := by
        by_contra hsome
        exact hfree ⟨haccepted, a, hanswer, Option.ne_none_iff_isSome.mp hsome⟩
      have hunanswered : b.answers (a.sessionId, a.askId) = none := by
        cases hans : b.answers (a.sessionId, a.askId) with
        | none => rfl
        | some a' =>
          obtain ⟨r', hr', hanswered⟩ := hb.answers _ (by rw [hans]; rfl)
          rw [hkeyed, hstored, Option.some.injEq] at hr'
          rw [← hr', hpending] at hanswered
          cases hanswered
      have hthere : b.asks ((r.answeredBy a).sessionId, (r.answeredBy a).askId) = some r :=
        hkey ▸ hstored
      have hwritten := (h.putAnswer hnone hunanswered).updateRequest hthere
      have hok : answerBody sessionId askId given key t =
          .ok (answerRequest (b.asks (sessionId, askId)) given key,
            ((t.putAnswer a).updateRequest (r.answeredBy a)).rememberLocked sessionId key
              (answerRequest (b.asks (sessionId, askId)) given key)) := by
        exact hbody (some (t.putAnswer a))
          (by rw [hinsert, if_neg (by rw [hnone]; exact Bool.false_ne_true)])
      refine ⟨_, hok, ?_⟩
      have hbook : b.commanded (.answer given valid) sessionId askId key =
          (AskBook.create { b with
            answers := Function.update b.answers (a.sessionId, a.askId) (some a) }
              (r.answeredBy a)).remembered sessionId key
            (answerRequest (b.asks (sessionId, askId)) given key) := by
        rw [AskBook.commanded, hresult, AskBook.written, if_pos haccepted, hask, hanswer, hkeyed]
        congr 1
        rw [AskBook.create, show ((r.answeredBy a).sessionId, (r.answeredBy a).askId) = _ from hkey]
        rfl
      rw [hbook]
      exact hwritten.rememberLocked hnew _

theorem transitionBody_spec (h : t.Keeps b) (hb : b.Coherent)
    (hnew : b.recorded sessionId key = none) (closing : AskClosing) (reason : Option String)
    (now : DateTime) :
    BodySpec t b (.close closing reason now) sessionId askId key
      (transitionBody sessionId askId closing reason key now t) := by
  by_cases hclear : Clear b sessionId askId key
  swap
  · exact .of_stuck hclear (by rw [transitionBody, requestOf_eq h, if_neg hclear])
  have hresult : (AskCommand.close closing reason now).result (b.asks (sessionId, askId)) key =
    transitionRequest (b.asks (sessionId, askId)) closing reason key now := rfl
  obtain ⟨-, -, ⟨hrejected, -⟩ | ⟨r, hstored, hpending, haccepted, hask, hanswer⟩⟩ :=
    AskCommand.transitionRequest_cases (b.asks (sessionId, askId)) key closing
      reason now
  · have hne : (transitionRequest (b.asks (sessionId, askId)) closing reason key now).status ≠
        .accepted := by
      rw [hrejected]
      exact fun h => by cases h
    refine .of_rejected (c := .close closing reason now) h hnew hclear hne ?_
    rw [transitionBody, requestOf_eq h, if_pos hclear]
    dsimp only
    rw [hrejected]
    rfl
  · have hkey : (r.sessionId, r.askId) = (sessionId, askId) := hb.keyed _ r hstored
    have hok : transitionBody sessionId askId closing reason key now t =
        .ok (transitionRequest (b.asks (sessionId, askId)) closing reason key now,
          (t.updateRequest (r.closed closing reason now)).rememberLocked sessionId key
            (transitionRequest (b.asks (sessionId, askId)) closing reason key now)) := by
      rw [transitionBody, requestOf_eq h, if_pos hclear]
      dsimp only
      rw [haccepted, hask]
    refine ⟨fun hc => absurd hclear hc, fun _ htaken => ?_, fun _ _ => ⟨_, hok, ?_⟩⟩
    · obtain ⟨-, a, ha, -⟩ := htaken
      rw [hresult, hanswer] at ha
      cases ha
    · have hbook : b.commanded (.close closing reason now) sessionId askId key =
          (b.create (r.closed closing reason now)).remembered sessionId key
            (transitionRequest (b.asks (sessionId, askId)) closing reason key now) := by
        rw [AskBook.commanded, hresult, AskBook.written, if_pos haccepted, hask, hanswer]
        congr 1
        rw [AskBook.create,
          show ((r.closed closing reason now).sessionId, (r.closed closing reason now).askId) = _
            from hkey]
        rfl
      rw [hbook]
      exact (h.updateRequest (r := r) (hkey ▸ hstored)).rememberLocked hnew _

theorem runs_transact {c : AskCommand} (hnew : b.recorded sessionId key = none)
    (failed : AskStoreError)
    {body : AskTables → Except Raised (AskStoreCommandResult × AskTables)}
    (hbody : BodySpec s.tables b c sessionId askId key (body s.tables)) :
    Runs s b c sessionId askId key (s.transact failed body) := by
  unfold transact
  cases hsince : s.openSince with
  | some old => exact .blocked hnew old hsince failed
  | none =>
    dsimp only
    by_cases hclear : Clear b sessionId askId key
    · by_cases htaken : TakenAnswer s.tables (c.result (b.asks (sessionId, askId)) key)
      · rw [hbody.taken hclear htaken]
        exact .refused hnew hsince hclear.1 hclear.2 htaken failed
      · obtain ⟨t', ht', hkeeps⟩ := hbody.done hclear htaken
        rw [ht']
        exact .done hnew hsince hclear.1 hclear.2 htaken t' hkeeps
    · rw [hbody.stuck hclear]
      refine .stuck hnew hsince ?_
      by_contra hno
      obtain ⟨hkey, hvalid⟩ := not_or.mp hno
      exact hclear ⟨hkey, fun r hr => not_not.mp fun hinvalid => hvalid ⟨r, hr, hinvalid⟩⟩

/-- **The cases of a command.** -/
theorem runs (h : s.tables.Keeps b) (hb : b.Coherent) (c : AskCommand) (sessionId askId : String)
    (key : Option String) :
    Runs s b c sessionId askId key (s.command c sessionId askId key) := by
  have hrecorded := h.recorded sessionId key
  unfold command AskTables.idempotencyReplayLocked
  rw [← hrecorded]
  cases hrec : b.recorded sessionId key with
  | some stored =>
    dsimp only
    by_cases hvalid : stored.Valid
    · rw [resultFromJson, if_pos hvalid]
      exact .replayed stored hrec hvalid
    · rw [resultFromJson, if_neg hvalid]
      exact .unreadable stored hrec hvalid
  | none =>
    dsimp only
    cases c with
    | answer given valid => exact runs_transact hrec _ (answerBody_spec h hb hrec given valid)
    | close closing reason now =>
      exact runs_transact hrec _ (transitionBody_spec h hb hrec closing reason now)

end SqliteAskStore

end Taskweavn
