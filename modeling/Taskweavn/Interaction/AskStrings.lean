import Taskweavn.Interaction.AskReadable
import Taskweavn.Py.Str

/-!
# Any text to the SQLite store

A `str` with a surrogate is no text: SQLite cannot bind it, and a model refuses it for a field
with a least length.  The ids, the keys and the reasons of the calls may be any `str`, and so
may the description of an option and the option ids of an answer.  The error is none of SQLite,
so that inside a transaction it leaves the transaction open.

* `AskStrCall`: the calls with any `str`; `stepStr` is what the store does.
* `AskStrCommand.Stops`: the questions for which a surrogate of a command comes to be written.
* `LegibleStr`: the condition on a call, in the state in which it comes.
* `ask_rows_read_back`: **in every run, each call reads, and leaves the store readable,
  exactly as long as the calls are legible**.
* `empty_reason_unreadable`: a question with an empty hint, and transactions left open.
-/

namespace Taskweavn

open Lib Py

/-! ### Calls -/

/-- The commands.  With `surrogate`, an option id of the answer has a surrogate, which is
another character in `given`. -/
inductive AskStrCommand
  | answer (given : AskAnswer) (valid : given.Valid) (surrogate : Bool)
  | close (closing : AskClosing) (reason : Option PyStr) (now : DateTime)

namespace AskStrCommand

/-- The command with texts. -/
def plain : AskStrCommand → AskCommand
  | .answer given valid _ => .answer given valid
  | .close closing reason now => .close closing (reason.bind PyStr.text?) now

/-- **A surrogate of the command comes to be written**: as an unknown option id in the message
of the result, or as the hint of the question. -/
def Stops (c : AskStrCommand) (r : AskRequest) : Prop :=
  match c with
  | .answer given _ surrogate => surrogate = true ∧ given.sessionId = r.sessionId ∧
      given.askId = r.askId ∧ r.taskId = given.taskId ∧ r.status = .pending
  | .close _ reason _ => r.status = .pending ∧ ∃ text ∈ reason, text.text? = none

instance decidableStops (c : AskStrCommand) (r : AskRequest) : Decidable (c.Stops r) :=
  match c with
  | .answer .. => inferInstanceAs (Decidable (_ ∧ _ ∧ _ ∧ _ ∧ _))
  | .close .. => inferInstanceAs (Decidable (_ ∧ _))

/-- The message of a result is refused by its model, and the hint by SQLite's binding. -/
def stopped : AskStrCommand → AskStoreError
  | .answer .. => .invalid
  | .close .. => .unicode

def failed : AskStrCommand → AskStoreError
  | .answer .. => .answerFailed
  | .close .. => .transitionFailed

end AskStrCommand

/-- The calls.  With `surrogate`, the description of an option has a surrogate, which is
another character in `request`. -/
inductive AskStrCall
  | create (request : AskRequest) (valid : request.Valid) (surrogate : Bool)
  | get (sessionId askId : PyStr)
  | listForSession (sessionId : PyStr) (statuses : Option (List AskStatus)) (taskId : Option PyStr)
  | getAnswer (sessionId askId : PyStr)
  | command (c : AskStrCommand) (sessionId askId : PyStr) (key : Option PyStr)

/-- A read, if its parameters are texts. -/
def AskStrCall.read : AskStrCall → Option AskCall
  | .get sessionId askId => do return .get (← sessionId.text?) (← askId.text?)
  | .listForSession sessionId statuses taskId => do
    return .listForSession (← sessionId.text?) statuses (← taskId.mapM PyStr.text?)
  | .getAnswer sessionId askId => do return .getAnswer (← sessionId.text?) (← askId.text?)
  | _ => none

/-! ### The store -/

/-- `_idempotency_replay_locked` -/
def AskTables.replayStr (t : AskTables) (sessionId : PyStr) :
    Option PyStr → Except AskStoreError (Option AskStoreCommandResult)
  | none => .ok none
  | some key =>
    match sessionId.text?, key.text? with
    | some sessionId, some key => t.idempotencyReplayLocked sessionId (some key)
    | _, _ => .error .unicode

/-- The body of `answer`, and of `_transition`. -/
def AskCommand.body (c : AskCommand) (sessionId askId : String) (key : Option String)
    (t : AskTables) : Except Raised (AskStoreCommandResult × AskTables) :=
  match c with
  | .answer given _ => SqliteAskStore.answerBody sessionId askId given key t
  | .close closing reason now =>
    SqliteAskStore.transitionBody sessionId askId closing reason key now t

/-- The body, with the ids that are texts. -/
def AskStrCommand.body (c : AskStrCommand) (sessionId askId key : Option String) (t : AskTables) :
    Except Raised (AskStoreCommandResult × AskTables) :=
  match sessionId, askId with
  | some sessionId, some askId =>
    match SqliteAskStore.requestOf t sessionId askId key with
    | .error e => .error e
    | .ok request =>
      if ∃ r ∈ request, c.Stops r then .error (.other c.stopped)
      else c.plain.body sessionId askId key t
  | _, _ => .error (.other .unicode)

namespace SqliteAskStore

def commandStr (s : SqliteAskStore) (c : AskStrCommand) (sessionId askId : PyStr)
    (key : Option PyStr) : Except AskStoreError AskStoreCommandResult × SqliteAskStore :=
  match s.tables.replayStr sessionId key with
  | .error e => (.error e, s)
  | .ok (some replay) => (.ok replay, s)
  | .ok none =>
    s.transact c.failed (c.body sessionId.text? askId.text? (key.bind PyStr.text?))

/-- A read, whose parameters are bound. -/
def bound (s : SqliteAskStore) : Option AskCall → Except AskStoreError AskReply × SqliteAskStore
  | some call => s.step call
  | none => (.error .unicode, s)

def stepStr (s : SqliteAskStore) (call : AskStrCall) :
    Except AskStoreError AskReply × SqliteAskStore :=
  match call with
  | .create request valid false => s.step (.create request valid)
  | .create _ _ true => (.error .unicode, s)
  | .listForSession _ statuses _ =>
    if statuses = some [] then (.ok (.asks []), s) else s.bound call.read
  | .get .. | .getAnswer .. => s.bound call.read
  | .command c sessionId askId key =>
    let r := s.commandStr c sessionId askId key
    (r.1.map .result, r.2)

/-! ### Readable stores -/

/-- A result is kept under the key. -/
def Replays (s : SqliteAskStore) (sessionId : PyStr) (key : Option PyStr) : Prop :=
  ∃ k ∈ key, ∃ session text, sessionId.text? = some session ∧ k.text? = some text ∧
    (s.tables.idempotency.get? (session, text)).isSome = true

/-- The key, if there is one, can be looked up, and no result is kept under it. -/
def Begins (s : SqliteAskStore) (sessionId : PyStr) (key : Option PyStr) : Prop :=
  ∀ k ∈ key, ∃ session text, sessionId.text? = some session ∧ k.text? = some text ∧
    s.tables.idempotency.get? (session, text) = none

/-- The calls that only read: the reads with texts, and what is replayed. -/
def ReadsStr (s : SqliteAskStore) (call : AskStrCall) : Prop :=
  match call with
  | .command _ sessionId _ key => s.Replays sessionId key
  | _ => call.read.isSome = true

structure ReadsBackStr (s : SqliteAskStore) (call : AskStrCall) : Prop where
  reads : s.ReadsStr call → ∃ reply, (s.stepStr call).1 = .ok reply
  readable : (s.stepStr call).2.Readable

/-- **The condition**: a command that begins a transaction has ids that are texts, stops at no
surrogate, and is legible. -/
def LegibleStr (s : SqliteAskStore) : AskStrCall → Prop
  | .command c sessionId askId key => s.Begins sessionId key →
      ∃ session ask, sessionId.text? = some session ∧ askId.text? = some ask ∧
        s.Legible (.command c.plain session ask (key.bind PyStr.text?)) ∧
        ∀ r, s.tables.asks.get? ask = some (.ofRequest r) → r.sessionId = session → ¬c.Stops r
  | _ => True

variable {s : SqliteAskStore} {b : AskBook} {c : AskStrCommand} {sessionId askId : PyStr}
  {key : Option PyStr}

theorem reads_of_read {call : AskStrCall} {c : AskCall} (h : call.read = some c) :
    (s.step c).2 = s ∧ s.Reads c := by
  cases call with
  | create request valid surrogate => cases h
  | command c sessionId askId key => cases h
  | get sessionId askId =>
    obtain ⟨session, -, h⟩ := Option.bind_eq_some_iff.mp h
    obtain ⟨ask, -, h⟩ := Option.bind_eq_some_iff.mp h
    cases h
    exact ⟨rfl, trivial⟩
  | getAnswer sessionId askId =>
    obtain ⟨session, -, h⟩ := Option.bind_eq_some_iff.mp h
    obtain ⟨ask, -, h⟩ := Option.bind_eq_some_iff.mp h
    cases h
    exact ⟨rfl, trivial⟩
  | listForSession sessionId statuses taskId =>
    obtain ⟨session, -, h⟩ := Option.bind_eq_some_iff.mp h
    obtain ⟨task, -, h⟩ := Option.bind_eq_some_iff.mp h
    cases h
    exact ⟨rfl, trivial⟩

/-- **A read** changes nothing, and is answered if its parameters are texts. -/
theorem Readable.bound (hs : s.Readable) (call : AskStrCall) : (s.bound call.read).2 = s ∧
    (call.read.isSome = true → ∃ reply, (s.bound call.read).1 = .ok reply) := by
  cases hread : call.read with
  | none => exact ⟨rfl, fun hsome => by cases hsome⟩
  | some c =>
    obtain ⟨hsame, hreads⟩ := reads_of_read (s := s) hread
    exact ⟨hsame, fun _ => hs.reads hreads⟩

/-! ### Commands -/

theorem not_begins (hs : s.Readable) (c : AskStrCommand) (askId : PyStr)
    (h : ¬s.Begins sessionId key) :
    (s.commandStr c sessionId askId key).2 = s ∧ (s.Replays sessionId key →
      ∃ result, (s.commandStr c sessionId askId key).1 = .ok result) := by
  cases key with
  | none => exact absurd (fun k hk => by cases hk) h
  | some k =>
    rw [commandStr, AskTables.replayStr]
    cases hsession : sessionId.text? with
    | none =>
      refine ⟨rfl, ?_⟩
      rintro ⟨k', -, session, text, htext, -⟩
      rw [hsession] at htext
      cases htext
    | some session =>
      cases hk : k.text? with
      | none =>
        refine ⟨rfl, ?_⟩
        rintro ⟨k', hk', session, text, -, htext, -⟩
        rw [← Option.some.inj hk', hk] at htext
        cases htext
      | some text =>
        cases hkept : s.tables.idempotency.get? (session, text) with
        | none =>
          refine absurd (fun k' hk' => ⟨session, text, hsession, ?_, hkept⟩) h
          rw [← Option.some.inj hk', hk]
        | some stored =>
          have hread : resultFromJson stored = .ok stored := hs.results _ stored hkept
          have hreplay : s.tables.idempotencyReplayLocked session (some text) =
              .ok (some stored.replay) := by
            rw [AskTables.idempotencyReplayLocked, Option.bind_some, hkept]
            dsimp only
            rw [hread]
            rfl
          dsimp only
          rw [hreplay]
          exact ⟨rfl, fun _ => ⟨_, rfl⟩⟩

theorem commandStr_of_begins (h : s.Begins sessionId key) : s.commandStr c sessionId askId key =
    s.transact c.failed (c.body sessionId.text? askId.text? (key.bind PyStr.text?)) := by
  have hnew : s.tables.replayStr sessionId key = .ok none := by
    cases key with
    | none => rfl
    | some k =>
      obtain ⟨session, text, hsession, hk, hkept⟩ := h k rfl
      rw [AskTables.replayStr, hsession, hk]
      dsimp only
      rw [AskTables.idempotencyReplayLocked, Option.bind_some, hkept]
  rw [commandStr, hnew]

theorem Begins.new (h : s.Begins sessionId key) {session : String}
    (hsession : sessionId.text? = some session) :
    ((key.bind PyStr.text?).bind fun k => s.tables.idempotency.get? (session, k)) = none := by
  cases key with
  | none => rfl
  | some k =>
    obtain ⟨session', text, hsession', hk, hkept⟩ := h k rfl
    obtain rfl := Option.some.inj (hsession.symm.trans hsession')
    rw [Option.bind_some, hk, Option.bind_some, hkept]

theorem Begins.not_replays (h : s.Begins sessionId key) : ¬s.Replays sessionId key := by
  rintro ⟨k, hk, session, text, hsession, htext, hkept⟩
  obtain ⟨session', text', hsession', htext', hnone⟩ := h k hk
  obtain rfl := Option.some.inj (hsession.symm.trans hsession')
  obtain rfl := Option.some.inj (htext.symm.trans htext')
  rw [hnone] at hkept
  cases hkept

/-- An error that is none of SQLite leaves the transaction open. -/
theorem not_readable_transact (hs : s.Readable) {failed e : AskStoreError}
    {body : AskTables → Except Raised (AskStoreCommandResult × AskTables)}
    (hbody : body s.tables = .error (.other e)) : ¬(s.transact failed body).2.Readable := by
  intro hread
  have hclosed := hread.closed
  rw [transact, hs.closed] at hclosed
  dsimp only at hclosed
  rw [hbody] at hclosed
  cases hclosed

theorem command_of_new {session ask : String} {key : Option String}
    (hnew : (key.bind fun k => s.tables.idempotency.get? (session, k)) = none) :
    s.command c.plain session ask key = s.transact c.failed (c.plain.body session ask key) := by
  unfold command AskTables.idempotencyReplayLocked
  rw [hnew]
  cases c <;> rfl

theorem body_of_error {t : AskTables} {c : AskCommand} {session ask : String}
    {key : Option String} {e : Raised} (h : requestOf t session ask key = .error e) :
    c.body session ask key t = .error e := by
  cases c with
  | answer given valid => rw [AskCommand.body, answerBody, h]
  | close closing reason now => rw [AskCommand.body, transitionBody, h]

theorem body_of_not_stops {t : AskTables} {session ask : String} {key : Option String}
    (h : ∀ r, requestOf t session ask key = .ok (some r) → ¬c.Stops r) :
    c.body (some session) (some ask) key t = c.plain.body session ask key t := by
  rw [AskStrCommand.body]
  cases hrequest : requestOf t session ask key with
  | error e => exact (body_of_error hrequest).symm
  | ok request =>
    refine if_neg ?_
    rintro ⟨r, hr, hstops⟩
    exact h r (by rw [hrequest, Option.mem_def.mp hr]) hstops

/-- The question that a command reads is the one that is stored. -/
theorem stored_of_requestOf {t : AskTables} {session ask : String} {key : Option String}
    {r : AskRequest} (hkeeps : t.Keeps b) (h : requestOf t session ask key = .ok (some r)) :
    t.asks.get? ask = some (.ofRequest r) ∧ r.sessionId = session := by
  rw [requestOf_eq hkeeps] at h
  split at h
  · exact (hkeeps.asks session ask r).mp (Except.ok.inj h)
  · cases h

theorem requestOf_of_stored (hs : s.Readable) (hkeeps : s.tables.Keeps b) (hb : b.Coherent)
    {session ask : String} {key : Option String} (hkey : key ≠ some "") {r : AskRequest}
    (hrow : s.tables.asks.get? ask = some (.ofRequest r)) (hof : r.sessionId = session) :
    requestOf s.tables session ask key = .ok (some r) := by
  have hstored : b.asks (session, ask) = some r := (hkeeps.asks session ask r).mpr ⟨hrow, hof⟩
  obtain ⟨-, hreadable⟩ := (readable_iff hkeeps hb).mp hs
  rw [requestOf_eq hkeeps, if_pos ⟨hkey, hreadable.asks _⟩, hstored]

theorem transact_congr (s : SqliteAskStore) {failed : AskStoreError}
    {body body' : AskTables → Except Raised (AskStoreCommandResult × AskTables)}
    (h : body s.tables = body' s.tables) : s.transact failed body = s.transact failed body' := by
  rw [transact, transact, h]

theorem legibleStr_iff (hbegins : s.Begins sessionId key) :
    s.LegibleStr (.command c sessionId askId key) ↔
      ∃ session ask, sessionId.text? = some session ∧ askId.text? = some ask ∧
        s.Legible (.command c.plain session ask (key.bind PyStr.text?)) ∧
        ∀ r, s.tables.asks.get? ask = some (.ofRequest r) → r.sessionId = session →
          ¬c.Stops r :=
  ⟨fun h => h hbegins, fun h _ => h⟩

/-- **A command that begins a transaction** stops, and is not legible, or it is a command with
texts. -/
theorem begins_cases (hs : s.Readable) (h : s.tables.Keeps b) (hb : b.Coherent)
    (c : AskStrCommand) (askId : PyStr) (hbegins : s.Begins sessionId key) :
    ((∃ e, c.body sessionId.text? askId.text? (key.bind PyStr.text?) s.tables =
        .error (.other e)) ∧ ¬s.LegibleStr (.command c sessionId askId key)) ∨
      ∃ session ask, ((key.bind PyStr.text?).bind fun k =>
          s.tables.idempotency.get? (session, k)) = none ∧
        s.stepStr (.command c sessionId askId key) =
          s.step (.command c.plain session ask (key.bind PyStr.text?)) ∧
        (s.LegibleStr (.command c sessionId askId key) ↔
          s.Legible (.command c.plain session ask (key.bind PyStr.text?))) := by
  rw [legibleStr_iff hbegins]
  cases hsession : sessionId.text? with
  | none =>
    refine .inl ⟨⟨.unicode, rfl⟩, ?_⟩
    rintro ⟨session, ask, htext, -⟩
    cases htext
  | some session =>
    cases hask : askId.text? with
    | none =>
      refine .inl ⟨⟨.unicode, rfl⟩, ?_⟩
      rintro ⟨session, ask, -, htext, -⟩
      cases htext
    | some ask =>
      by_cases hstops : ∃ r, requestOf s.tables session ask (key.bind PyStr.text?) = .ok (some r) ∧
          c.Stops r
      · obtain ⟨r, hrequest, hr⟩ := hstops
        refine .inl ⟨⟨c.stopped, ?_⟩, ?_⟩
        · rw [AskStrCommand.body, hrequest]
          exact if_pos ⟨r, rfl, hr⟩
        · rintro ⟨session', ask', hsession', hask', -, hnone⟩
          cases hsession'
          cases hask'
          obtain ⟨hrow, hof⟩ := stored_of_requestOf h hrequest
          exact hnone r hrow hof hr
      · have hplain := body_of_not_stops (c := c) (t := s.tables) fun r hr hs =>
          hstops ⟨r, hr, hs⟩
        have hnew := hbegins.new hsession
        refine .inr ⟨session, ask, hnew, ?_, ?_⟩
        · rw [stepStr, commandStr_of_begins hbegins, step, command_of_new hnew,
            transact_congr _ (hsession ▸ hask ▸ hplain)]
        · constructor
          · rintro ⟨session', ask', hsession', hask', hlegible, -⟩
            cases hsession'
            cases hask'
            exact hlegible
          · refine fun hlegible => ⟨session, ask, rfl, rfl, hlegible, fun r hrow hof hr => ?_⟩
            exact hstops ⟨r, requestOf_of_stored hs h hb (hlegible hnew).1 hrow hof, hr⟩

theorem readsBackStr_command (hs : s.Readable) (h : s.tables.Keeps b) (hb : b.Coherent)
    (c : AskStrCommand) (sessionId askId : PyStr) (key : Option PyStr) :
    (s.ReadsBackStr (.command c sessionId askId key) ↔
      s.LegibleStr (.command c sessionId askId key)) ∧
    (s.LegibleStr (.command c sessionId askId key) → ∃ b',
      (s.stepStr (.command c sessionId askId key)).2.tables.Keeps b' ∧ b'.Coherent) := by
  by_cases hbegins : s.Begins sessionId key
  · rcases begins_cases hs h hb c askId hbegins with
      ⟨⟨e, hbody⟩, hno⟩ | ⟨session, ask, hnew, hsame, hplain⟩
    · refine ⟨iff_of_false (fun hback => ?_) hno, fun hlegible => absurd hlegible hno⟩
      have hread := hback.readable
      rw [stepStr, commandStr_of_begins hbegins] at hread
      exact not_readable_transact hs hbody hread
    · obtain ⟨hiff, hbook⟩ :=
        readsBack_command hs h hb c.plain session ask (key.bind PyStr.text?)
      have hback : s.ReadsBackStr (.command c sessionId askId key) ↔
          s.ReadsBack (.command c.plain session ask (key.bind PyStr.text?)) := by
        constructor
        · refine fun hback => ⟨fun hkept => ?_, hsame ▸ hback.readable⟩
          rw [Reads, hnew] at hkept
          cases hkept
        · exact fun hback => ⟨fun hkept => absurd hkept hbegins.not_replays,
            hsame ▸ hback.readable⟩
      rw [hback, hplain, hsame]
      exact ⟨hiff, hbook⟩
  · obtain ⟨hsame, hreplays⟩ := not_begins hs c askId hbegins
    refine ⟨iff_of_true ⟨fun hkept => ?_, ?_⟩ fun h => absurd h hbegins, fun _ => ⟨b, ?_, hb⟩⟩
    · obtain ⟨result, hresult⟩ := hreplays hkept
      rw [stepStr, hresult]
      exact ⟨_, rfl⟩
    · rw [stepStr, hsame]
      exact hs
    · rw [stepStr, hsame]
      exact h

theorem readsBackStr_iff (hs : s.Readable ∧ ∃ b, s.tables.Keeps b ∧ b.Coherent)
    (call : AskStrCall) : (s.ReadsBackStr call ↔ s.LegibleStr call) ∧ (s.LegibleStr call →
      (s.stepStr call).2.Readable ∧ ∃ b, (s.stepStr call).2.tables.Keeps b ∧ b.Coherent) := by
  obtain ⟨hreadable, b, h, hb⟩ := hs
  -- A call that leaves the store as it is.
  have hkept : s.LegibleStr call → (s.stepStr call).2 = s ∧
      (s.ReadsStr call → ∃ reply, (s.stepStr call).1 = .ok reply) →
        (s.ReadsBackStr call ↔ s.LegibleStr call) ∧ (s.LegibleStr call →
          (s.stepStr call).2.Readable ∧ ∃ b, (s.stepStr call).2.tables.Keeps b ∧ b.Coherent) := by
    rintro hlegible ⟨hsame, hreads⟩
    refine ⟨iff_of_true ⟨hreads, ?_⟩ hlegible, fun _ => ?_⟩
    · rw [hsame]
      exact hreadable
    · rw [hsame]
      exact ⟨hreadable, b, h, hb⟩
  cases call with
  | create request valid surrogate =>
    cases surrogate with
    | false =>
      obtain ⟨hback, hbook⟩ := readsBack_create hreadable h hb request valid
      exact ⟨iff_of_true ⟨fun hreads => (by cases hreads), hback.readable⟩ trivial,
        fun _ => ⟨hback.readable, hbook⟩⟩
    | true => exact hkept trivial ⟨rfl, fun hreads => (by cases hreads)⟩
  | get sessionId askId => exact hkept trivial (hreadable.bound (.get sessionId askId))
  | getAnswer sessionId askId => exact hkept trivial (hreadable.bound (.getAnswer sessionId askId))
  | listForSession sessionId statuses taskId =>
    refine hkept trivial ?_
    rw [stepStr]
    split
    · exact ⟨rfl, fun _ => ⟨_, rfl⟩⟩
    · exact hreadable.bound (.listForSession sessionId statuses taskId)
  | command c sessionId askId key =>
    obtain ⟨hiff, hbook⟩ := readsBackStr_command hreadable h hb c sessionId askId key
    exact ⟨hiff, fun hlegible => ⟨(hiff.mpr hlegible).readable, hbook hlegible⟩⟩

end SqliteAskStore

/-- **Which runs stay readable**: those whose calls are legible. -/
theorem ask_rows_read_back (calls : List AskStrCall) :
    Throughout SqliteAskStore.stepStr SqliteAskStore.ReadsBackStr {} calls ↔
      Throughout SqliteAskStore.stepStr SqliteAskStore.LegibleStr {} calls :=
  throughout_iff (fun _ call hs => (SqliteAskStore.readsBackStr_iff hs call).1)
    (fun _ call hs => (SqliteAskStore.readsBackStr_iff hs call).2) calls _
    ⟨SqliteAskStore.readable_empty, .empty, AskTables.keeps_empty, AskBook.coherent_empty⟩

/-- Defer the question with the id `a`. -/
def deferredWith (reason : PyStr) : AskStrCall :=
  .command (.close .deferred (some reason) .noon) (.ofText "s") (.ofText "a") none

theorem empty_reason_row : (final SqliteAskStore.stepStr {}
    [.create (plainAsk "a") (by decide) false, deferredWith (.ofText "")]).tables.asks.get? "a" =
      some (.ofRequest ((plainAsk "a").closed .deferred (some "") .noon)) := rfl

/-- **A question that is deferred with an empty reason is not read again**, and a reason with a
surrogate, and an empty key, leave a transaction open. -/
theorem empty_reason_unreadable :
    ¬Throughout SqliteAskStore.stepStr SqliteAskStore.ReadsBackStr {}
      [.create (plainAsk "a") (by decide) false, deferredWith (.ofText "")] ∧
    ((final SqliteAskStore.stepStr {} [.create (plainAsk "a") (by decide) false,
      deferredWith (.ofText "")]).stepStr (.get (.ofText "s") (.ofText "a"))).1 = .error .invalid ∧
    (final SqliteAskStore.stepStr {} [.create (plainAsk "a") (by decide) false,
      deferredWith PyStr.lone]).openSince.isSome = true ∧
    (SqliteAskStore.empty.stepStr (.command
      (.close .cancelled (some (.ofText "too late")) .noon) (.ofText "s") (.ofText "a")
        (some (.ofText "")))).2.openSince.isSome = true := by
  have hread : requestFromRow (.ofRequest ((plainAsk "a").closed .deferred (some "") .noon)) =
      .error .invalid := by
    rw [requestFromRow_ofRequest]
    rfl
  refine ⟨?_, ?_, rfl, rfl⟩
  · rintro ⟨-, h, -⟩
    obtain ⟨r, -, hok⟩ := h.readable.asks "a" _ empty_reason_row
    rw [hread] at hok
    cases hok
  · have hcall : (AskStrCall.get (.ofText "s") (.ofText "a")).read = some (.get "s" "a") := rfl
    rw [SqliteAskStore.stepStr, hcall, SqliteAskStore.bound, SqliteAskStore.step,
      AskTables.getLocked, empty_reason_row]
    dsimp only
    rw [hread]
    rfl

end Taskweavn
