import Taskweavn.Interaction.AskReadable

/-!
# The SQLite store and the store in memory

Both stores answer a call alike as long as the ids of questions and answers are of one
session, keys are not empty, and the times of a list and of a replay are read from their
texts in the same order and as they were.

* `AskRefines`: the tables hold the book of the dictionaries.
* `InMemoryAskStore.Alike`: the condition, on the store in memory.
* `ask_stores_agree`: **in every run whose calls meet it, the two stores answer alike**.
* `ask_id_in_two_sessions`: an id that another session has used.
-/

namespace Taskweavn

open Lib Py

/-! ### Sorted lists -/

theorem mapM_requestFromRow : ∀ {l : List AskRequest}, (∀ r ∈ l, r.Valid) →
    (l.map AskRow.ofRequest).mapM requestFromRow = .ok l := by
  intro l
  induction l with
  | nil => exact fun _ => rfl
  | cons r l ih =>
    intro h
    rw [List.map_cons, List.mapM_cons, requestFromRow_ofRequest, if_pos (h r List.mem_cons_self),
      ih fun r' hr' => h r' (List.mem_cons_of_mem r hr')]
    rfl

/-! ### Related stores -/

/-- **The tables hold the book of the dictionaries.** -/
structure AskRefines (s : InMemoryAskStore) (t : SqliteAskStore) : Prop where
  keeps : t.tables.Keeps s.book
  coherent : s.book.Coherent
  holds : s.book.Holds AskStoreCommandResult.Valid
  closed : t.openSince = none

theorem askRefines_empty : AskRefines {} {} where
  keeps := AskTables.keeps_empty
  coherent := AskBook.coherent_empty
  holds := AskBook.holds_empty _
  closed := rfl

theorem AskBook.Holds.commanded {b : AskBook} (h : b.Holds AskStoreCommandResult.Valid)
    (c : AskCommand) {sessionId askId : String} {key : Option String} (hkey : key ≠ some "")
    (hreason : c.reason ≠ some "") (hnew : b.recorded sessionId key = none) :
    (b.commanded c sessionId askId key).Holds AskStoreCommandResult.Valid := by
  have hrecorded : (b.written (sessionId, askId)
      (c.result (b.asks (sessionId, askId)) key)).recorded sessionId key = none := by
    cases key with
    | none => rfl
    | some k => rw [recorded, Option.bind_some, written_results]; exact hnew
  have hanswer := fun a => c.valid_of_result (b.asks (sessionId, askId)) hkey (a := a)
  obtain ⟨-, hresultKey, hcases⟩ := c.result_cases (b.asks (sessionId, askId)) key
  have hask : ∀ ask ∈ (c.result (b.asks (sessionId, askId)) key).ask, ask.Valid := by
    intro ask hask
    cases hstored : b.asks (sessionId, askId) with
    | none =>
      rw [hstored, (c.result_none key).2.1] at hask
      cases hask
    | some r =>
      rw [hstored] at hask
      have hr := h.asks _ r hstored
      by_cases haccepts : c.Accepts key r
      · obtain ⟨-, ask', hask', -, hhint, -⟩ := AskCommand.result_of_accepts haccepts
        rw [hask'] at hask
        exact Option.some.inj hask ▸ (hhint hr).mpr hreason
      · rw [(AskCommand.result_of_not_accepts haccepts).2.1] at hask
        exact Option.some.inj hask ▸ hr
  rw [AskBook.commanded, remembered_holds_iff hrecorded]
  refine ⟨?_, fun _ => ⟨hask, hanswer, by rw [hresultKey]; exact hkey⟩⟩
  rcases hcases with ⟨hrejected, -⟩ | ⟨r, ask, -, -, haccepted, -⟩
  · rw [written_of_ne (by rw [hrejected]; exact fun h => by cases h)]
    exact h
  · exact (written_holds_iff h haccepted).mpr hask

/-! ### Calls that are answered alike -/

namespace InMemoryAskStore

/-- Two questions are in the order of their times by the texts of these also. -/
def SameOrder (a b : AskRequest) : Prop :=
  a.createdAt.Comparable b.createdAt ∧
    ((toLex (a.createdAt.isoformat, a.askId) : String ×ₗ String) ≤
        toLex (b.createdAt.isoformat, b.askId) ↔
      (toLex (a.createdAt.instant, a.askId) : ℤ ×ₗ String) ≤ toLex (b.createdAt.instant, b.askId))

/-- **The condition**: a new question has an id that no session has; questions are listed
whose texts of times are in order; a result is replayed that is read from JSON as it was
kept; and a command that is no replay has no empty key, and inserts an answer whose id no
session has. -/
def Alike (s : InMemoryAskStore) : AskCall → Prop
  | .create request _ => s.get request.sessionId request.askId = none →
      ∀ sessionId, s.get sessionId request.askId = none
  | .listForSession sessionId statuses taskId =>
    ∀ a ∈ s.selected sessionId statuses taskId, ∀ b ∈ s.selected sessionId statuses taskId,
      SameOrder a b
  | .command c sessionId askId key =>
    (∀ result, s.book.recorded sessionId key = some result → result.json = result) ∧
    (s.book.recorded sessionId key = none → key ≠ some "" ∧
      ∀ r, s.get sessionId askId = some r → c.Accepts key r → ∀ id ∈ c.answerId,
        ∀ sessionId' askId' a, s.getAnswer sessionId' askId' = some a → a.answerId ≠ id)
  | _ => True

end InMemoryAskStore

/-- The reason of a deferral, a cancellation or an expiry. -/
def AskCall.reason : AskCall → Option String
  | .command c _ _ _ => c.reason
  | _ => none

variable {s : InMemoryAskStore} {t : SqliteAskStore}

namespace AskRefines

theorem mem_rows (h : AskRefines s t) (row : AskRow) :
    row ∈ t.tables.asks.values ↔ ∃ r ∈ s.requests.values, row = .ofRequest r := by
  constructor
  · intro hrow
    obtain ⟨id, hid⟩ := Dict.mem_values.mp hrow
    obtain ⟨-, r, rfl⟩ := t.tables.asks_ok id row hid
    exact ⟨r, Dict.mem_values.mpr ⟨_, (h.keeps.asks r.sessionId id r).mpr ⟨hid, rfl⟩⟩, rfl⟩
  · rintro ⟨r, hr, rfl⟩
    obtain ⟨k, hk⟩ := Dict.mem_values.mp hr
    exact Dict.mem_values.mpr ⟨k.2, ((h.keeps.asks k.1 k.2 r).mp hk).1⟩

theorem nodup_askId (t : AskTables) : (t.asks.values.map AskRow.askId).Nodup :=
  Dict.nodup_map_values fun k row hrow => (t.asks_ok k row hrow).1

theorem perm_rows (h : AskRefines s t) (p : AskRow → Bool) :
    (t.tables.asks.values.filter p).Perm
      ((s.requests.values.filter fun r => p (.ofRequest r)).map AskRow.ofRequest) := by
  have hrows : t.tables.asks.values.Nodup :=
    List.Nodup.of_map AskRow.askId (nodup_askId t.tables)
  have hkeys : (s.requests.values.map fun r => (r.sessionId, r.askId)).Nodup :=
    Dict.nodup_map_values fun k r hr => h.coherent.keyed k r hr
  have hasks : s.requests.values.Nodup := List.Nodup.of_map _ hkeys
  refine (List.perm_ext_iff_of_nodup (hrows.filter p)
    ((hasks.filter _).map AskRow.ofRequest_injective)).mpr fun row => ?_
  rw [List.mem_filter, h.mem_rows, List.mem_map]
  constructor
  · rintro ⟨⟨r, hr, rfl⟩, hp⟩
    exact ⟨r, List.mem_filter.mpr ⟨hr, hp⟩, rfl⟩
  · rintro ⟨r, hr, rfl⟩
    exact ⟨⟨r, List.mem_of_mem_filter hr, rfl⟩, (List.mem_filter.mp hr).2⟩

/-- **The questions of a session are listed alike**, where the texts of their times are in
order. -/
theorem listForSession (h : AskRefines s t) {sessionId : String}
    {statuses : Option (List AskStatus)}
    {taskId : Option String} (halike : s.Alike (.listForSession sessionId statuses taskId)) :
    ¬InMemoryAskStore.Mixed (s.selected sessionId statuses taskId) ∧
      t.listForSession sessionId statuses taskId =
      .ok (s.listForSession sessionId statuses taskId) := by
  have hvalid : ∀ r ∈ s.selected sessionId statuses taskId, r.Valid := by
    intro r hr
    obtain ⟨k, hk⟩ := Dict.mem_values.mp (List.mem_of_mem_filter hr)
    exact h.holds.asks k r hk
  refine ⟨fun ⟨a, ha, b, hb, hmixed⟩ => hmixed (halike a ha b hb).1, ?_⟩
  unfold SqliteAskStore.listForSession
  split
  · next hnone =>
    rw [hnone, InMemoryAskStore.listForSession, InMemoryAskStore.selected]
    simp only [Option.all_some, List.contains_nil, Bool.and_false, List.filter_false]
    rfl
  · have hselected : s.requests.values.filter (fun r =>
        SqliteAskStore.listed sessionId statuses taskId (.ofRequest r)) =
          s.selected sessionId statuses taskId := by
      refine List.filter_congr fun r _ => congrArg (_ && ·) (congrArg statuses.all ?_)
      funext l
      rw [Bool.eq_iff_iff, List.contains_iff_mem, List.contains_iff_mem]
      exact List.mem_map_of_injective AskStatus.toText_injective
    have hperm := h.perm_rows (SqliteAskStore.listed sessionId statuses taskId)
    rw [hselected] at hperm
    have hn : ((t.tables.asks.values.filter (SqliteAskStore.listed sessionId statuses taskId)).map
        SqliteAskStore.listOrder).Nodup := by
      refine List.Nodup.of_map (fun k => (ofLex k).2) ?_
      rw [List.map_map]
      exact (nodup_askId t.tables).sublist (List.filter_sublist.map AskRow.askId)
    have hsort : (s.listForSession sessionId statuses taskId).map AskRow.ofRequest =
        sortOn SqliteAskStore.listOrder
          ((s.selected sessionId statuses taskId).map AskRow.ofRequest) :=
      map_sortOn fun a ha b hb => (halike a ha b hb).2.symm
    rw [sortOn_eq_of_perm hperm hn, ← hsort]
    exact mapM_requestFromRow fun r hr => hvalid r (mem_sortOn.mp hr)

theorem create (h : AskRefines s t) (request : AskRequest) (valid : request.Valid)
    (halike : s.Alike (.create request valid)) :
    (s.step (.create request valid)).1.toOption = (t.step (.create request valid)).1.toOption ∧
      AskRefines (s.step (.create request valid)).2 (t.step (.create request valid)).2 := by
  cases hcreate : s.create request with
  | none =>
    have hstep : s.step (.create request valid) = (.error (.alreadyExists request.askId), s) := by
      rw [InMemoryAskStore.step, hcreate]
    cases hinsert : t.tables.insertAsk request with
    | none =>
      have hstep' :
          t.step (.create request valid) = (.error (.alreadyExists request.askId), t) := by
        rw [SqliteAskStore.step, hinsert]
      rw [hstep, hstep']
      exact ⟨rfl, h⟩
    | some tables =>
      have hfree : s.get request.sessionId request.askId = none := (h.keeps.insertAsk hinsert).1
      rw [InMemoryAskStore.create, hfree] at hcreate
      cases hcreate
  | some s' =>
    have hstep : s.step (.create request valid) = (.ok (.ask request), s') := by
      rw [InMemoryAskStore.step, hcreate]
    obtain ⟨hfree, hbook⟩ := InMemoryAskStore.create_book hcreate
    have hrow : t.tables.asks.get? request.askId = none := by
      cases hget : t.tables.asks.get? request.askId with
      | none => rfl
      | some row =>
        obtain ⟨-, r, rfl⟩ := t.tables.asks_ok _ row hget
        have hother : s.get r.sessionId request.askId = some r :=
          (h.keeps.asks r.sessionId request.askId r).mpr ⟨hget, rfl⟩
        rw [halike hfree r.sessionId] at hother
        cases hother
    have hinsert : t.tables.insertAsk request = some (t.tables.putAsk request) := by
      rw [AskTables.insertAsk, hrow]
      rfl
    have hstep' : t.step (.create request valid) =
        (.ok (.ask request), { t with tables := t.tables.putAsk request }) := by
      rw [SqliteAskStore.step, hinsert]
    rw [hstep, hstep']
    refine ⟨rfl, ?_, ?_, ?_, h.closed⟩
    · rw [hbook]
      exact (h.keeps.insertAsk hinsert).2
    · rw [hbook]
      exact h.coherent.create hfree
    · rw [hbook]
      exact h.holds.create valid

theorem command (h : AskRefines s t) (c : AskCommand) (sessionId askId : String)
    (key : Option String) (halike : s.Alike (.command c sessionId askId key))
    (hreason : c.reason ≠ some "") :
    (s.step (.command c sessionId askId key)).1.toOption =
        (t.step (.command c sessionId askId key)).1.toOption ∧
      AskRefines (s.step (.command c sessionId askId key)).2
        (t.step (.command c sessionId askId key)).2 := by
  obtain ⟨hreplays, hruns⟩ := halike
  have hcases := t.runs h.keeps h.coherent c sessionId askId key
  show ((s.command c sessionId askId key).1.map AskReply.result).toOption =
      ((t.command c sessionId askId key).1.map AskReply.result).toOption ∧
    AskRefines (s.command c sessionId askId key).2 (t.command c sessionId askId key).2
  generalize t.command c sessionId askId key = outcome at hcases
  rcases s.command_eq c sessionId askId key with ⟨result, hrec, hcommand⟩ |
    ⟨hnew, ⟨hkey, -⟩ | ⟨hkey, s', hcommand, hbook⟩⟩
  · -- A replay.
    rw [hcommand]
    cases hcases with
    | replayed stored hrec' hvalid =>
      rw [hrec] at hrec'
      obtain rfl := Option.some.inj hrec'
      rw [hreplays result hrec]
      exact ⟨rfl, h⟩
    | unreadable stored hrec' hinvalid =>
      obtain ⟨k, rfl, hk⟩ := Option.bind_eq_some_iff.mp hrec'
      exact absurd (h.holds.results _ stored hk) hinvalid
    | blocked hnew | stuck hnew | refused hnew | done hnew =>
      rw [hrec] at hnew
      cases hnew
  · exact absurd hkey (hruns hnew).1
  · rw [hcommand]
    cases hcases with
    | replayed stored hrec | unreadable stored hrec =>
      rw [hnew] at hrec
      cases hrec
    | blocked _ old hsince =>
      rw [h.closed] at hsince
      cases hsince
    | stuck _ _ hcause =>
      rcases hcause with hempty | ⟨r, hr, hinvalid⟩
      · exact absurd hempty hkey
      · exact absurd (h.holds.asks _ r hr) hinvalid
    | refused _ _ _ _ htaken =>
      cases hstored : s.book.asks (sessionId, askId) with
      | none =>
        rw [hstored] at htaken
        rw [SqliteAskStore.TakenAnswer, (c.result_none key).1] at htaken
        cases htaken.1
      | some r =>
        rw [hstored] at htaken
        obtain ⟨haccepts, id, hid, hrow⟩ := SqliteAskStore.takenAnswer_iff.mp htaken
        obtain ⟨row, hrow⟩ := Option.isSome_iff_exists.mp hrow
        obtain ⟨hsame, a, rfl⟩ := t.tables.answers_ok id row hrow
        have hanswer : s.getAnswer a.sessionId a.askId = some a :=
          (h.keeps.answers a.sessionId a.askId a).mpr ⟨⟨id, hrow⟩, rfl, rfl⟩
        exact absurd hsame ((hruns hnew).2 r hstored haccepts id hid _ _ a hanswer)
    | done _ _ _ _ _ tables hkeeps =>
      refine ⟨rfl, ?_, ?_, ?_, rfl⟩
      · rw [hbook]
        exact hkeeps
      · rw [hbook]
        exact h.coherent.commanded c sessionId askId hkey
      · rw [hbook]
        exact h.holds.commanded c hkey hreason hnew

/-- **A call is answered alike**, and leaves related stores. -/
theorem step (h : AskRefines s t) (call : AskCall) (halike : s.Alike call)
    (hreason : call.reason ≠ some "") :
    (s.step call).1.toOption = (t.step call).1.toOption ∧
      AskRefines (s.step call).2 (t.step call).2 := by
  cases call with
  | create request valid => exact h.create request valid halike
  | get sessionId askId =>
    refine ⟨?_, h⟩
    show _ = ((t.tables.getLocked sessionId askId).map AskReply.maybeAsk).toOption
    rw [h.keeps.getLocked, if_pos fun r hr => h.holds.asks _ r hr]
    rfl
  | listForSession sessionId statuses taskId =>
    obtain ⟨hcomparable, hlist⟩ := h.listForSession halike
    refine ⟨?_, h⟩
    show (if InMemoryAskStore.Mixed _ then _ else _ : Except AskStoreError AskReply).toOption =
      ((t.listForSession sessionId statuses taskId).map AskReply.asks).toOption
    rw [if_neg hcomparable, hlist]
    rfl
  | getAnswer sessionId askId =>
    refine ⟨?_, h⟩
    show _ = ((t.getAnswer sessionId askId).map AskReply.maybeAnswer).toOption
    rw [SqliteAskStore.getAnswer_eq h.keeps h.coherent]
    rfl
  | command c sessionId askId key => exact h.command c sessionId askId key halike hreason

end AskRefines

theorem InMemoryAskStore.sameOrder_of_utc {a b : AskRequest} (ha : ∃ d, a.createdAt = Moment.utc d)
    (hb : ∃ d, b.createdAt = Moment.utc d) : SameOrder a b := by
  obtain ⟨d, hd⟩ := ha
  obtain ⟨d', hd'⟩ := hb
  have hinj : d.microseconds = d'.microseconds ↔ d = d' := by
    rw [le_antisymm_iff, le_antisymm_iff, DateTime.microseconds_le_iff,
      DateTime.microseconds_le_iff]
  rw [SameOrder, hd, hd', Prod.Lex.toLex_le_toLex, Prod.Lex.toLex_le_toLex]
  simp only [Moment.isoformat_utc, Moment.instant_utc, Nat.cast_lt, Nat.cast_inj,
    DateTime.isoformat_lt_iff, DateTime.isoformat_inj, DateTime.microseconds_lt_iff, hinj, and_true]
  rfl

/-- **The stores agree**: in every run with reasons that are not empty, whose calls meet the
condition, the same calls raise, and the others are answered equally. -/
theorem ask_stores_agree (calls : List AskCall) (hreasons : ∀ call ∈ calls, call.reason ≠ some "")
    (halike : Throughout InMemoryAskStore.step InMemoryAskStore.Alike {} calls) :
    (outputs InMemoryAskStore.step {} calls).map Except.toOption =
      (outputs SqliteAskStore.step {} calls).map Except.toOption := by
  have hcalls := Throughout.and_forall calls _ halike hreasons
  refine (simulation_view Except.toOption (R := AskRefines) ?_ calls _ _ askRefines_empty hcalls).1
  intro s t call h hcall
  exact h.step call hcall.1 hcall.2

/-- Two questions, one of them deferred, and the deferral again. -/
theorem ask_stores_agree_deferred :
    (outputs InMemoryAskStore.step {} [.create (plainAsk "a") (by decide),
      .create (plainAsk "b") (by decide), .defer "s" "a" (some "later") (some "k") .noon,
      .defer "s" "a" (some "later") (some "k") .noon, .listForSession "s" none none]).map
        Except.toOption =
    (outputs SqliteAskStore.step {} [.create (plainAsk "a") (by decide),
      .create (plainAsk "b") (by decide), .defer "s" "a" (some "later") (some "k") .noon,
      .defer "s" "a" (some "later") (some "k") .noon, .listForSession "s" none none]).map
        Except.toOption := by
  refine ask_stores_agree _ (by decide) ⟨fun _ _ => rfl, fun _ sessionId => ?_, ⟨?_, fun _ =>
    ⟨by decide, fun r _ _ id hid => by cases hid⟩⟩, ⟨?_, fun h => by cases h⟩, ?_, trivial⟩
  · exact Dict.get?_set_ne Dict.empty (plainAsk "a") fun h =>
      absurd (Prod.mk.inj h).2 (by decide)
  · intro result h
    cases h
  · intro result h
    obtain rfl := Option.some.inj h
    rfl
  · have hnoon : ∀ r ∈ InMemoryAskStore.selected (final InMemoryAskStore.step {}
        [.create (plainAsk "a") (by decide), .create (plainAsk "b") (by decide),
          .defer "s" "a" (some "later") (some "k") .noon]) "s" none none,
        r.createdAt = Moment.utc .noon := by
      decide
    exact fun a ha b hb => InMemoryAskStore.sameOrder_of_utc ⟨_, hnoon a ha⟩ ⟨_, hnoon b hb⟩

/-- **An id that a question of another session has** is taken in SQLite only. -/
theorem ask_id_in_two_sessions :
    (outputs InMemoryAskStore.step {} [.create (plainAsk "a") (by decide),
      .create { plainAsk "a" with sessionId := "s2", texts_ok := by decide } (by decide)]).map
        Except.toOption ≠
    (outputs SqliteAskStore.step {} [.create (plainAsk "a") (by decide),
      .create { plainAsk "a" with sessionId := "s2", texts_ok := by decide } (by decide)]).map
        Except.toOption := by
  intro h
  cases (List.cons.inj (List.cons.inj h).2).1

end Taskweavn
