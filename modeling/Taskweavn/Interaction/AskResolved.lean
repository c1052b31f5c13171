import Taskweavn.Interaction.SqliteAskBook

/-!
# Accepted commands and the questions they name

A command on a question is accepted when it closes the question, and when it is replayed.
A replay is looked up by the session and the key alone, so that it can be the result of
another command, or about another question.

* `Resolving`: what a call should do in either store: accepted is closed as the command
  says, closed stays closed, and answered is with an answer.
* `Fits`: the condition under which a call does, on the state before it.
* `ask_commands_resolve`: **in every run of either store, the calls are resolving exactly
  as long as they fit**.
* `deferred_key_answers`: an answer under the key of a deferral is accepted.
-/

namespace Taskweavn

open Lib Py

/-- **A call that keeps the word of a store**, by what is stored under the ids of a session
and by the answers that can be read. -/
structure Resolving {S : Type} (stored : S → String → String → AskRequest → Prop)
    (answered : S → String → String → Prop)
    (step : S → AskCall → Except AskStoreError AskReply × S) (s : S) (call : AskCall) : Prop where
  accepted : ∀ c sessionId askId key result, call = .command c sessionId askId key →
    (step s call).1 = .ok (.result result) → result.accepted = true →
      ∃ ask, stored (step s call).2 sessionId askId ask ∧ ask.askId = askId ∧
        ask.status = c.kind.status ∧ result.ask = some ask
  frozen : ∀ sessionId askId ask, stored s sessionId askId ask → ask.status ≠ .pending →
    stored (step s call).2 sessionId askId ask
  answers : ∀ sessionId askId, answered (step s call).2 sessionId askId ↔
    ∃ ask, stored (step s call).2 sessionId askId ask ∧ ask.status = .answered

/-! ### Results in the book -/

namespace AskBook

variable {b : AskBook} {sessionId : String} {key : Option String}

/-- A result says of a question in the book that the command has closed it. -/
def Resolves (b : AskBook) (c : AskCommand) (sessionId askId : String)
    (result : AskStoreCommandResult) : Prop :=
  result.accepted = true → ∃ ask, b.asks (sessionId, askId) = some ask ∧ ask.askId = askId ∧
    ask.status = c.kind.status ∧ result.ask = some ask

theorem replay_accepted {result : AskStoreCommandResult} (h : result.status ≠ .replayed) :
    result.replay.accepted = true ↔ result.status = .accepted := by
  unfold AskStoreCommandResult.replay AskStoreCommandResult.accepted
  cases hs : result.status with
  | accepted => simp
  | replayed => exact absurd hs h
  | rejected => simp [hs]

theorem replay_ask (result : AskStoreCommandResult) : result.replay.ask = result.ask := by
  unfold AskStoreCommandResult.replay
  split <;> rfl

/-- **When a replay is right**: the kept result is of the same command on the same
question, and is read as it was kept. -/
theorem resolves_replay_iff (hb : b.Coherent) (c : AskCommand) (askId : String)
    {result : AskStoreCommandResult} (hrec : b.recorded sessionId key = some result)
    (read : AskRequest → AskRequest) (hid : ∀ ask, (read ask).askId = ask.askId)
    {replay : AskStoreCommandResult}
    (haccepted : replay.accepted = true ↔ result.status = .accepted)
    (hask : replay.ask = result.ask.map read) :
    b.Resolves c sessionId askId replay ↔ (result.status = .accepted →
      result.commandKind = c.kind ∧ ∀ ask ∈ result.ask, ask.askId = askId ∧ read ask = ask) := by
  obtain ⟨k, rfl, hk⟩ := Option.bind_eq_some_iff.mp hrec
  obtain ⟨-, hstands⟩ := hb.results sessionId k result hk
  rw [Resolves, haccepted]
  refine forall_congr' fun hacc => ?_
  obtain ⟨ask, hresult, hstatus, hstored⟩ := hstands hacc
  rw [hask, hresult, Option.map_some]
  constructor
  · rintro ⟨ask', hstored', hid', hstatus', hsame⟩
    have hsame : read ask = ask' := Option.some.inj hsame
    have hthere : ask.askId = askId := by rw [← hid', ← hsame, hid]
    rw [hthere, hstored', Option.some.injEq] at hstored
    refine ⟨AskCommandKind.status_injective ?_, fun a ha => ?_⟩
    · rw [← hstatus, ← hstored, hstatus']
    · obtain rfl := Option.some.inj ha
      exact ⟨hthere, hsame.trans hstored⟩
  · rintro ⟨hkind, hall⟩
    obtain ⟨hthere, hread⟩ := hall ask rfl
    exact ⟨ask, hthere ▸ hstored, hthere, hkind ▸ hstatus, congrArg some hread⟩

theorem resolves_commanded (hb : b.Coherent) (c : AskCommand) (sessionId askId : String)
    (key : Option String) :
    (b.commanded c sessionId askId key).Resolves c sessionId askId
      (c.result (b.asks (sessionId, askId)) key) := by
  intro hacc
  obtain ⟨-, -, ⟨hrejected, -⟩ | ⟨r, ask, hstored, hcloses, haccepted, hask, -⟩⟩ :=
    c.result_cases (b.asks (sessionId, askId)) key
  · rw [AskStoreCommandResult.accepted, hrejected] at hacc
    cases hacc
  · have hkey := hb.keyed _ r hstored
    refine ⟨ask, ?_, hcloses.askId.trans (Prod.mk.inj hkey).2, hcloses.status, hask⟩
    rw [commanded, remembered_asks, written_asks haccepted, Function.update_self, hask]

theorem create_frozen {r ask : AskRequest} (hfree : b.asks (r.sessionId, r.askId) = none)
    {k : String × String} (hstored : b.asks k = some ask) : (b.create r).asks k = some ask := by
  rw [create_asks, Function.update_of_ne]
  · exact hstored
  · rintro rfl
    rw [hfree] at hstored
    cases hstored

theorem create_answers_iff (hb : b.Complete) {r : AskRequest}
    (hfree : b.asks (r.sessionId, r.askId) = none) :
    (∀ k, ((b.create r).answers k).isSome = true ↔
        ∃ ask, (b.create r).asks k = some ask ∧ ask.status = .answered) ↔
      r.status ≠ .answered := by
  constructor
  · intro hall hanswered
    have hnew := (hall (r.sessionId, r.askId)).mpr ⟨r, Function.update_self _ _ _, hanswered⟩
    obtain ⟨ask, hask, -⟩ := hb.answers _ hnew
    rw [hfree] at hask
    cases hask
  · exact fun hstatus => (hb.create hfree hstatus).answers_iff

end AskBook

/-! ### Stores that show a book -/

section

variable {S : Type} {stored : S → String → String → AskRequest → Prop}
  {answered : S → String → String → Prop} {step : S → AskCall → Except AskStoreError AskReply × S}
  {s : S} {b : AskBook}

structure Shown (stored : S → String → String → AskRequest → Prop)
    (answered : S → String → String → Prop) (s : S) (b : AskBook) : Prop where
  asks : ∀ sessionId askId ask,
    stored s sessionId askId ask ↔ b.asks (sessionId, askId) = some ask
  answers : ∀ sessionId askId,
    answered s sessionId askId ↔ (b.answers (sessionId, askId)).isSome = true

theorem Shown.answers_iff (h : Shown stored answered s b) (hb : b.Complete)
    (sessionId askId : String) : answered s sessionId askId ↔
      ∃ ask, stored s sessionId askId ask ∧ ask.status = .answered := by
  rw [h.answers, hb.answers_iff]
  simp only [h.asks]

theorem resolving_same (h : Shown stored answered s b) (hb : b.Complete) {call : AskCall}
    (hsame : Shown stored answered (step s call).2 b)
    (haccepted : ∀ c sessionId askId key result, call = .command c sessionId askId key →
      (step s call).1 = .ok (.result result) → b.Resolves c sessionId askId result) :
    Resolving stored answered step s call where
  accepted c sessionId askId key result hcall hresult hacc := by
    obtain ⟨ask, hstored, hrest⟩ := haccepted c sessionId askId key result hcall hresult hacc
    exact ⟨ask, (hsame.asks _ _ _).mpr hstored, hrest⟩
  frozen sessionId askId ask hstored _ := (hsame.asks _ _ _).mpr ((h.asks _ _ _).mp hstored)
  answers := hsame.answers_iff hb

theorem resolving_create_iff (h : Shown stored answered s b) (hb : b.Complete)
    {r : AskRequest} {valid : r.Valid} (hfree : b.asks (r.sessionId, r.askId) = none)
    (hcreate : Shown stored answered (step s (.create r valid)).2 (b.create r)) :
    Resolving stored answered step s (.create r valid) ↔ r.status ≠ .answered := by
  rw [← AskBook.create_answers_iff hb hfree, Prod.forall]
  simp only [← hcreate.answers, ← hcreate.asks]
  refine ⟨fun h => h.answers, fun hanswers => ⟨fun _ _ _ _ _ h => (by cases h), ?_, hanswers⟩⟩
  intro sessionId askId ask hstored _
  exact (hcreate.asks _ _ _).mpr (AskBook.create_frozen hfree ((h.asks _ _ _).mp hstored))

variable {c : AskCommand} {sessionId askId : String} {key : Option String}

theorem resolving_replay_iff (h : Shown stored answered s b) (hb : b.Complete)
    {replay : AskStoreCommandResult}
    (hsame : Shown stored answered (step s (.command c sessionId askId key)).2 b)
    (hreplay : (step s (.command c sessionId askId key)).1 = .ok (.result replay)) :
    Resolving stored answered step s (.command c sessionId askId key) ↔
      b.Resolves c sessionId askId replay := by
  constructor
  · intro hresolving hacc
    obtain ⟨ask, hstored, hrest⟩ :=
      hresolving.accepted c sessionId askId key replay rfl hreplay hacc
    exact ⟨ask, (hsame.asks _ _ _).mp hstored, hrest⟩
  · intro hresolves
    refine resolving_same h hb hsame fun _ _ _ _ _ hcall hresult => ?_
    cases hcall
    cases hreplay.symm.trans hresult
    exact hresolves

theorem resolving_commanded (h : Shown stored answered s b) (hb : b.Complete)
    (hkey : key ≠ some "") (hdone : Shown stored answered
      (step s (.command c sessionId askId key)).2 (b.commanded c sessionId askId key))
    (hresult : (step s (.command c sessionId askId key)).1 =
      .ok (.result (c.result (b.asks (sessionId, askId)) key))) :
    Resolving stored answered step s (.command c sessionId askId key) where
  accepted _ _ _ _ _ hcall hresult' hacc := by
    cases hcall
    cases hresult.symm.trans hresult'
    obtain ⟨ask, hstored, hrest⟩ :=
      AskBook.resolves_commanded hb.toCoherent c sessionId askId key hacc
    exact ⟨ask, (hdone.asks _ _ _).mpr hstored, hrest⟩
  frozen _ _ ask hstored hpending := (hdone.asks _ _ _).mpr
    (AskBook.commanded_frozen c sessionId askId key ((h.asks _ _ _).mp hstored) hpending)
  answers := hdone.answers_iff (hb.commanded c sessionId askId hkey)

end

/-! ### The store in memory -/

namespace InMemoryAskStore

def Stored (s : InMemoryAskStore) (sessionId askId : String) (ask : AskRequest) : Prop :=
  s.get sessionId askId = some ask

def Answered (s : InMemoryAskStore) (sessionId askId : String) : Prop :=
  (s.getAnswer sessionId askId).isSome = true

/-- **The condition in memory**: no question is created as answered, and what is replayed as
accepted is the result of the same command on the same question. -/
def Fits (s : InMemoryAskStore) : AskCall → Prop
  | .create request _ =>
    s.get request.sessionId request.askId = none → request.status ≠ .answered
  | .command c sessionId askId key => ∀ result, s.book.recorded sessionId key = some result →
      result.status = .accepted →
        result.commandKind = c.kind ∧ ∀ ask ∈ result.ask, ask.askId = askId
  | _ => True

theorem shown (s : InMemoryAskStore) : Shown Stored Answered s s.book :=
  ⟨fun _ _ _ => Iff.rfl, fun _ _ => Iff.rfl⟩

variable {s : InMemoryAskStore}

/-- **A call in memory** is resolving exactly if it fits, and then the book is kept. -/
theorem resolving_iff (hs : s.book.Complete) (call : AskCall) :
    (Resolving Stored Answered step s call ↔ s.Fits call) ∧
      (s.Fits call → (s.step call).2.book.Complete) := by
  cases call with
  | create request valid =>
    cases hcreate : s.create request with
    | none =>
      have hstep : s.step (.create request valid) = (.error (.alreadyExists request.askId), s) := by
        rw [step, hcreate]
      have hfits : s.Fits (.create request valid) := by
        intro hfree
        unfold create at hcreate
        rw [hfree] at hcreate
        cases hcreate
      refine ⟨iff_of_true (resolving_same s.shown hs ?_ fun _ _ _ _ _ h => by cases h) hfits,
        fun _ => by rw [hstep]; exact hs⟩
      rw [hstep]
      exact s.shown
    | some s' =>
      have hstep : s.step (.create request valid) = (.ok (.ask request), s') := by
        rw [step, hcreate]
      obtain ⟨hfree, hbook⟩ := create_book hcreate
      have hcreated : Shown Stored Answered (s.step (.create request valid)).2
          (s.book.create request) := by
        rw [hstep, ← hbook]
        exact s'.shown
      rw [resolving_create_iff s.shown hs hfree hcreated]
      refine ⟨⟨fun h _ => h, fun h => h hfree⟩, fun hfits => ?_⟩
      rw [hstep, hbook]
      exact hs.create hfree (hfits hfree)
  | command c sessionId askId key =>
    rcases s.command_eq c sessionId askId key with ⟨r, hrec, hcommand⟩ |
      ⟨hnew, ⟨hkey, hcommand⟩ | ⟨hkey, s', hcommand, hbook⟩⟩
    · have hstep : s.step (.command c sessionId askId key) = (.ok (.result r.replay), s) := by
        rw [step, hcommand]
        rfl
      obtain ⟨k, rfl, hk⟩ := Option.bind_eq_some_iff.mp hrec
      rw [resolving_replay_iff s.shown hs (by rw [hstep]; exact s.shown) (by rw [hstep]),
        AskBook.resolves_replay_iff hs.toCoherent c askId hrec id (fun _ => rfl)
          (AskBook.replay_accepted (hs.results _ _ r hk).1)
          (by rw [AskBook.replay_ask, Option.map_id]; rfl)]
      refine ⟨⟨fun h result hresult hacc => ?_, fun h hacc => ?_⟩, fun _ => by rw [hstep]; exact hs⟩
      · rw [hrec] at hresult
        obtain rfl := Option.some.inj hresult
        exact ⟨(h hacc).1, fun ask hask => ((h hacc).2 ask hask).1⟩
      · exact ⟨(h r hrec hacc).1, fun ask hask => ⟨(h r hrec hacc).2 ask hask, rfl⟩⟩
    · have hstep : s.step (.command c sessionId askId key) = (.error .invalid, s) := by
        rw [step, hcommand]
        rfl
      refine ⟨iff_of_true (resolving_same s.shown hs ?_ fun _ _ _ _ _ _ h => ?_) ?_,
        fun _ => by rw [hstep]; exact hs⟩
      · rw [hstep]
        exact s.shown
      · rw [hstep] at h
        cases h
      · intro result hresult
        rw [hnew] at hresult
        cases hresult
    · have hstep : s.step (.command c sessionId askId key) =
          (.ok (.result (c.result (s.book.asks (sessionId, askId)) key)), s') := by
        rw [step, hcommand]
        rfl
      refine ⟨iff_of_true (resolving_commanded s.shown hs hkey ?_ (by rw [hstep])) ?_, fun _ => ?_⟩
      · rw [hstep, ← hbook]
        exact s'.shown
      · intro result hresult
        rw [hnew] at hresult
        cases hresult
      · rw [hstep, hbook]
        exact hs.commanded c sessionId askId hkey
  | _ =>
    exact ⟨iff_of_true (resolving_same s.shown hs s.shown fun _ _ _ _ _ h => by cases h) trivial,
      fun _ => hs⟩

/-- **In memory a closed question stays as it is**, whatever is called. -/
theorem closed_stays {sessionId askId : String} {ask : AskRequest}
    (h : s.get sessionId askId = some ask) (hclosed : ask.status ≠ .pending)
    (calls : List AskCall) : (final step s calls).get sessionId askId = some ask := by
  refine final_invariant (A := fun _ => True) (I := fun s => s.get sessionId askId = some ask) ?_
    calls s h (fun _ _ => trivial)
  intro s call hs _
  cases call with
  | create request valid =>
    simp only [step]
    split
    · next hcreate =>
      obtain ⟨hfree, hbook⟩ := create_book hcreate
      exact (congrArg (AskBook.asks · _) hbook).trans (AskBook.create_frozen hfree hs)
    · exact hs
  | command c sessionId' askId' key =>
    rcases s.command_eq c sessionId' askId' key with ⟨_, -, h⟩ | ⟨-, ⟨-, h⟩ | ⟨-, _, h, hbook⟩⟩ <;>
      simp only [step, h]
    · exact hs
    · exact hs
    · exact (congrArg (AskBook.asks · _) hbook).trans
        (AskBook.commanded_frozen c sessionId' askId' key hs hclosed)
  | _ => exact hs

def answeredStore : InMemoryAskStore := final step {} [.create (plainAsk "a") (by decide),
  .answer "s" "a" (plainAnswer "c" "a") (by decide) none]

theorem closed_stays_answered : ∃ ask, answeredStore.get "s" "a" = some ask ∧
    (final step answeredStore [.defer "s" "a" none none .noon]).get "s" "a" = some ask :=
  ⟨_, rfl, closed_stays rfl (by decide) _⟩

end InMemoryAskStore

/-! ### The SQLite store -/

namespace SqliteAskStore

def Stored (s : SqliteAskStore) (sessionId askId : String) (ask : AskRequest) : Prop :=
  s.tables.asks.get? askId = some (.ofRequest ask) ∧ ask.sessionId = sessionId

def Answered (s : SqliteAskStore) (sessionId askId : String) : Prop :=
  ∃ a, s.getAnswer sessionId askId = .ok (some a)

/-- **The condition in SQLite**: moreover, a question that is replayed has times that are read
from JSON as they were, and a command that rolls a transaction back takes no question with
it that is not pending. -/
def Fits (s : SqliteAskStore) : AskCall → Prop
  | .create request _ => s.tables.asks.get? request.askId = none → request.status ≠ .answered
  | .command c sessionId askId key =>
    (∀ stored, (key.bind fun k => s.tables.idempotency.get? (sessionId, k)) = some stored →
      stored.Valid → stored.status = .accepted → stored.commandKind = c.kind ∧
        ∀ ask ∈ stored.ask, ask.askId = askId ∧ ask.json = ask) ∧
    ((key.bind fun k => s.tables.idempotency.get? (sessionId, k)) = none →
      ∀ old, s.openSince = some old → ∀ id row, s.tables.asks.get? id = some row →
        row.status ≠ "pending" → old.asks.get? id = some row)
  | _ => True

/-- The tables, and those that a rollback restores, hold complete books. -/
structure Booked (s : SqliteAskStore) : Prop where
  tables : ∃ b, s.tables.Keeps b ∧ b.Complete
  openSince : ∀ old, s.openSince = some old → ∃ b, old.Keeps b ∧ b.Complete

theorem booked_empty : Booked {} where
  tables := ⟨.empty, AskTables.keeps_empty, AskBook.complete_empty⟩
  openSince old h := by cases h

variable {s s' : SqliteAskStore} {b : AskBook}

theorem shown (h : s.tables.Keeps b) (hb : b.Coherent) : Shown Stored Answered s b where
  asks sessionId askId ask := (h.asks sessionId askId ask).symm
  answers sessionId askId := by
    rw [Answered, getAnswer_eq h hb, Option.isSome_iff_exists]
    simp only [Except.ok.injEq]

/-- A rollback keeps the questions that are not pending, exactly if their rows are older than
the transaction. -/
theorem rollback_frozen_iff {old : AskTables} :
    (∀ sessionId askId ask, s.Stored sessionId askId ask → ask.status ≠ .pending →
        ({ tables := old } : SqliteAskStore).Stored sessionId askId ask) ↔
      ∀ id row, s.tables.asks.get? id = some row → row.status ≠ "pending" →
        old.asks.get? id = some row := by
  constructor
  · intro h id row hrow hstatus
    obtain ⟨-, r, rfl⟩ := s.tables.asks_ok id row hrow
    refine (h r.sessionId id r ⟨hrow, rfl⟩ fun hpending => hstatus ?_).1
    show r.status.toText = "pending"
    rw [hpending]
    rfl
  · rintro h sessionId askId ask ⟨hrow, hsession⟩ hpending
    exact ⟨h askId _ hrow fun hstatus => hpending (AskStatus.toText_injective hstatus), hsession⟩

theorem resolving_create (hb : s.tables.Keeps b) (hcomplete : b.Complete)
    (hopen : ∀ old, s.openSince = some old → ∃ b, old.Keeps b ∧ b.Complete) (request : AskRequest)
    (valid : request.Valid) :
    (Resolving Stored Answered step s (.create request valid) ↔ s.Fits (.create request valid)) ∧
      (s.Fits (.create request valid) → (s.step (.create request valid)).2.Booked) := by
  have hshown := shown hb hcomplete.toCoherent
  cases hinsert : s.tables.insertAsk request with
  | none =>
    have hstep : s.step (.create request valid) = (.error (.alreadyExists request.askId), s) := by
      rw [step, hinsert]
    have hfits : s.Fits (.create request valid) := by
      intro hfree
      rw [AskTables.insertAsk, hfree] at hinsert
      cases hinsert
    rw [hstep]
    refine ⟨iff_of_true (resolving_same hshown hcomplete (by rw [hstep]; exact hshown)
      fun _ _ _ _ _ h => by cases h) hfits, fun _ => ⟨⟨b, hb, hcomplete⟩, hopen⟩⟩
  | some t =>
    have hstep : s.step (.create request valid) = (.ok (.ask request), { s with tables := t }) := by
      rw [step, hinsert]
    have hrow : s.tables.asks.get? request.askId = none := by
      unfold AskTables.insertAsk at hinsert
      split at hinsert
      · cases hinsert
      · next hfree => simpa using hfree
    obtain ⟨hfree, hkeeps⟩ := hb.insertAsk hinsert
    have hcreated : Shown Stored Answered (s.step (.create request valid)).2
      (b.create request) := by
      rw [hstep]
      refine ⟨fun sessionId askId ask => (hkeeps.asks sessionId askId ask).symm, ?_⟩
      intro sessionId askId
      show _ ↔ (b.answers (sessionId, askId)).isSome = true
      rw [← hshown.answers]
      unfold AskTables.insertAsk at hinsert
      split at hinsert
      · cases hinsert
      · obtain rfl := Option.some.inj hinsert
        exact Iff.rfl
    rw [resolving_create_iff hshown hcomplete hfree hcreated]
    refine ⟨⟨fun h _ => h, fun h => h hrow⟩, fun h => ?_⟩
    rw [hstep]
    exact ⟨⟨_, hkeeps, hcomplete.create hfree (h hrow)⟩, hopen⟩

/-- **A call in SQLite** is resolving exactly if it fits, and then the books are kept. -/
theorem resolving_iff (hs : s.Booked) (call : AskCall) :
    (Resolving Stored Answered step s call ↔ s.Fits call) ∧
      (s.Fits call → (s.step call).2.Booked) := by
  obtain ⟨⟨b, hb, hcomplete⟩, hopen⟩ := hs
  have hshown := shown hb hcomplete.toCoherent
  cases call with
  | create request valid => exact resolving_create hb hcomplete hopen request valid
  | command c sessionId askId key =>
    have hrecorded := hb.recorded sessionId key
    have hruns := runs hb hcomplete.toCoherent c sessionId askId key
    generalize hcommand : s.command c sessionId askId key = r at hruns
    have hstep : s.step (.command c sessionId askId key) = (r.1.map .result, r.2) := by
      rw [step, hcommand]
    have hbooked : s.Booked := ⟨⟨b, hb, hcomplete⟩, hopen⟩
    have hraises : (s.step (.command c sessionId askId key)).2.tables = s.tables →
        (∃ e, (s.step (.command c sessionId askId key)).1 = .error e) →
          Resolving Stored Answered step s (.command c sessionId askId key) := by
      rintro hsame ⟨e, herror⟩
      have hkeeps : (s.step (.command c sessionId askId key)).2.tables.Keeps b := by
        rw [hsame]
        exact hb
      refine resolving_same hshown hcomplete (shown hkeeps hcomplete.toCoherent)
        fun _ _ _ _ _ _ hresult => ?_
      rw [herror] at hresult
      cases hresult
    have hfits : b.recorded sessionId key = none → s.openSince = none →
        s.Fits (.command c sessionId askId key) := by
      intro hnew hclosed
      refine ⟨fun stored hstored => ?_, fun _ old hold => ?_⟩
      · rw [← hrecorded, hnew] at hstored
        cases hstored
      · rw [hclosed] at hold
        cases hold
    rw [Fits, ← hrecorded] at hfits ⊢
    cases hruns with
    | replayed stored hrec hvalid =>
      obtain ⟨k, rfl, hk⟩ := Option.bind_eq_some_iff.mp hrec
      have hstatus : stored.json.replay.accepted = true ↔ stored.status = .accepted :=
        AskBook.replay_accepted (hcomplete.results _ _ stored hk).1
      rw [resolving_replay_iff hshown hcomplete (by rw [hstep]; exact hshown) (by rw [hstep]; rfl),
        AskBook.resolves_replay_iff hcomplete.toCoherent c askId hrec AskRequest.json
          (fun _ => rfl) hstatus (AskBook.replay_ask stored.json)]
      refine ⟨⟨fun h => ⟨?_, fun hnone => ?_⟩, fun h hacc => h.1 stored hrec hvalid hacc⟩,
        fun _ => by rw [hstep]; exact hbooked⟩
      · intro stored' hstored' _ hacc
        rw [hrec] at hstored'
        obtain rfl := Option.some.inj hstored'
        exact h hacc
      · rw [hrec] at hnone
        cases hnone
    | unreadable stored hrec hinvalid =>
      refine ⟨iff_of_true (hraises (by rw [hstep]) ⟨_, by rw [hstep]; rfl⟩) ⟨?_, ?_⟩,
        fun _ => by rw [hstep]; exact hbooked⟩
      · intro stored' hstored' hvalid
        rw [hrec] at hstored'
        exact absurd (Option.some.inj hstored' ▸ hvalid) hinvalid
      · intro hnone
        rw [hrec] at hnone
        cases hnone
    | blocked hnew old hsince e =>
      obtain ⟨b', hb', hcomplete'⟩ := hopen old hsince
      refine ⟨⟨fun h => ⟨fun stored hstored => ?_, fun _ old' hold' => ?_⟩, fun h => ⟨?_, ?_, ?_⟩⟩,
        fun _ => ?_⟩
      · rw [hnew] at hstored
        cases hstored
      · rw [hsince] at hold'
        obtain rfl := Option.some.inj hold'
        refine rollback_frozen_iff.mp fun sid aid ask hstored hpending => ?_
        have hfrozen := h.frozen sid aid ask hstored hpending
        rw [hstep] at hfrozen
        exact hfrozen
      · rw [hstep]
        intro _ _ _ _ _ _ hresult
        cases hresult
      · rw [hstep]
        exact rollback_frozen_iff.mpr (h.2 hnew old hsince)
      · rw [hstep]
        exact (shown hb' hcomplete'.toCoherent).answers_iff hcomplete'
      · rw [hstep]
        exact ⟨⟨b', hb', hcomplete'⟩, fun _ h => by cases h⟩
    | stuck hnew hclosed h =>
      refine ⟨iff_of_true (hraises (by rw [hstep]) ⟨_, by rw [hstep]; rfl⟩) (hfits hnew hclosed),
        fun _ => ?_⟩
      rw [hstep]
      refine ⟨⟨b, hb, hcomplete⟩, fun old hold => ?_⟩
      obtain rfl := Option.some.inj hold
      exact ⟨b, hb, hcomplete⟩
    | refused hnew hclosed hkey hvalid htaken e =>
      exact ⟨iff_of_true (hraises (by rw [hstep]) ⟨_, by rw [hstep]; rfl⟩) (hfits hnew hclosed),
        fun _ => by rw [hstep]; exact hbooked⟩
    | done hnew hclosed hkey hvalid hfree t hkeeps =>
      have hcomplete' := hcomplete.commanded c sessionId askId hkey
      refine ⟨iff_of_true (resolving_commanded hshown hcomplete hkey ?_ (by rw [hstep]; rfl))
        (hfits hnew hclosed), fun _ => ?_⟩
      · rw [hstep]
        exact shown (s := { tables := t }) hkeeps hcomplete'.toCoherent
      · rw [hstep]
        exact ⟨⟨_, hkeeps, hcomplete'⟩, fun _ h => by cases h⟩
  | _ => exact ⟨iff_of_true (resolving_same hshown hcomplete hshown fun _ _ _ _ _ h => by cases h)
      trivial, fun _ => ⟨⟨b, hb, hcomplete⟩, hopen⟩⟩

end SqliteAskStore

/-! ### The calls of a run -/

/-- **Which runs resolve what they accept**: those whose calls fit. -/
theorem ask_commands_resolve (calls : List AskCall) :
    (Throughout InMemoryAskStore.step
        (Resolving InMemoryAskStore.Stored InMemoryAskStore.Answered InMemoryAskStore.step)
        {} calls ↔
      Throughout InMemoryAskStore.step InMemoryAskStore.Fits {} calls) ∧
    (Throughout SqliteAskStore.step
        (Resolving SqliteAskStore.Stored SqliteAskStore.Answered SqliteAskStore.step) {} calls ↔
      Throughout SqliteAskStore.step SqliteAskStore.Fits {} calls) := by
  constructor
  · exact throughout_iff (I := fun s => s.book.Complete)
      (fun s call hs => (InMemoryAskStore.resolving_iff hs call).1)
      (fun s call hs => (InMemoryAskStore.resolving_iff hs call).2) calls _ AskBook.complete_empty
  · exact throughout_iff (I := SqliteAskStore.Booked)
      (fun s call hs => (SqliteAskStore.resolving_iff hs call).1)
      (fun s call hs => (SqliteAskStore.resolving_iff hs call).2) calls _
        SqliteAskStore.booked_empty

/-- **An answer is accepted, and the question stays pending**: its key is the key of a
deferral of another question. -/
theorem deferred_key_answers :
    ¬Throughout InMemoryAskStore.step
      (Resolving InMemoryAskStore.Stored InMemoryAskStore.Answered InMemoryAskStore.step) {}
      [.create (plainAsk "a") (by decide), .create (plainAsk "b") (by decide),
        .defer "s" "a" none (some "k") .noon,
        .answer "s" "b" (plainAnswer "c" "b") (by decide) (some "k")] ∧
    ¬Throughout SqliteAskStore.step
      (Resolving SqliteAskStore.Stored SqliteAskStore.Answered SqliteAskStore.step) {}
      [.create (plainAsk "a") (by decide), .create (plainAsk "b") (by decide),
        .defer "s" "a" none (some "k") .noon,
        .answer "s" "b" (plainAnswer "c" "b") (by decide) (some "k")] := by
  constructor
  · rintro ⟨-, -, -, h, -⟩
    obtain ⟨ask, hstored, -, hstatus, -⟩ := h.accepted _ "s" "b" (some "k") _ rfl rfl rfl
    cases Option.some.inj hstored
    cases hstatus
  · rintro ⟨-, -, -, h, -⟩
    obtain ⟨ask, hstored, -, hstatus, -⟩ := h.accepted _ "s" "b" (some "k") _ rfl rfl rfl
    cases AskRow.ofRequest_injective (Option.some.inj hstored.1)
    cases hstatus

end Taskweavn
