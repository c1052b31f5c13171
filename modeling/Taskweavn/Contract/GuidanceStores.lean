import Taskweavn.Lib.Run
import Taskweavn.Contract.Models

/-!
# The guidance stores

Two stores keep guidance facts (`taskweavn/contract_revision/guidance_store.py`): a
dictionary for tests, and a table with a row for each fact.  Both keep the first fact
of an id and list the facts of a scope in the order in which they were created.

They are not the same store.  The dictionary returns the last facts of a long list and
the table the first ones; the dictionary looks an id up in all sessions and the table in
one; and the table has integers of 64 bits.  `Compatible` is the condition on a call
under which none of this shows, and `guidance_replies_eq_iff` says that it is exact: two runs
answer alike if and only if every call meets it.

A row is the fact as texts, and `factFromRow_factParams` reads it back.
-/

namespace Taskweavn

open Lib Py

/-! ### Rows -/

namespace GuidanceScope

def toText : GuidanceScope → String
  | session => "session"
  | plan => "plan"
  | task => "task"

def ofText (s : String) : Option GuidanceScope :=
  [session, plan, task].find? (fun k => k.toText == s)

theorem ofText_toText : ∀ k, ofText (toText k) = some k := by
  intro k
  cases k <;> decide

theorem toText_eq_session {k : GuidanceScope} : k.toText = "session" ↔ k = .session := by
  cases k <;> decide

end GuidanceScope

namespace GuidanceKind

def toText : GuidanceKind → String
  | preference => "preference"
  | constraint => "constraint"
  | instruction => "instruction"
  | correction => "correction"
  | contextNote => "context_note"

def ofText (s : String) : Option GuidanceKind :=
  [preference, constraint, instruction, correction, contextNote].find? (fun k => k.toText == s)

theorem ofText_toText : ∀ k, ofText (toText k) = some k := by
  intro k
  cases k <;> decide

end GuidanceKind

namespace ObjectRefKind

def toText : ObjectRefKind → String
  | rawTask => "raw_task"
  | rawTaskAsk => "raw_task_ask"
  | plan => "plan"
  | draftTask => "draft_task"
  | draftTree => "draft_tree"
  | draftSubtree => "draft_subtree"
  | publishedTask => "published_task"
  | ask => "ask"
  | message => "message"
  | command => "command"

def ofText (s : String) : Option ObjectRefKind :=
  [rawTask, rawTaskAsk, plan, draftTask, draftTree, draftSubtree, publishedTask, ask, message,
    command].find? (fun k => k.toText == s)

theorem ofText_toText : ∀ k, ofText (toText k) = some k := by
  intro k
  cases k <;> decide

end ObjectRefKind

namespace ObjectRef

/-- `model_dump_json` -/
def dump (r : ObjectRef) : PyValue := .dict [("kind", .str r.kind.toText), ("id", .str r.id)]

/-- `model_validate` -/
def load : PyValue → Option ObjectRef
  | .dict items =>
    match extraField ["kind", "id"] items, lookupEntries "kind" items, lookupEntries "id" items with
    | none, some (.str kind), some (.str i) =>
      if i = "" then none else (ObjectRefKind.ofText kind).map (fun kind => ⟨kind, i⟩)
    | _, _, _ => none
  | _ => none

theorem load_dump {r : ObjectRef} (h : Codec.text.accepts r.id = true) : load r.dump = some r := by
  have hid : r.id ≠ "" := by simpa [Codec.text] using h
  simp [load, dump, extraField, lookupEntries, hid, ObjectRefKind.ofText_toText]

end ObjectRef

def GuidanceFact.fieldsOk (f : GuidanceFact) : Bool :=
  Codec.text.accepts f.workspaceId && Codec.text.accepts f.sessionId && optText.accepts f.planId &&
    optText.accepts f.taskNodeId && Codec.text.accepts f.sourceCommandId &&
    optText.accepts f.sourceRouterDecisionId &&
    f.sourceMessageRef.all (fun r => Codec.text.accepts r.id) && decide (1 ≤ f.version)

structure GuidanceRow where
  guidanceId : String
  workspaceId : String
  sessionId : String
  scopeKind : String
  planId : Option String
  taskNodeId : Option String
  guidanceKind : String
  guidanceText : String
  appliesToFutureTasks : ℕ
  sourceCommandId : String
  sourceRouterDecisionId : Option String
  sourceMessageRefJson : Option PyValue
  version : ℕ
  createdAt : String
  archivedAt : Option String

def factParams (f : GuidanceFact) : GuidanceRow where
  guidanceId := f.guidanceId
  workspaceId := f.workspaceId
  sessionId := f.sessionId
  scopeKind := f.scopeKind.toText
  planId := f.planId
  taskNodeId := f.taskNodeId
  guidanceKind := f.guidanceKind.toText
  guidanceText := f.guidanceText
  appliesToFutureTasks := if f.appliesToFutureTasks then 1 else 0
  sourceCommandId := f.sourceCommandId
  sourceRouterDecisionId := f.sourceRouterDecisionId
  sourceMessageRefJson := f.sourceMessageRef.map ObjectRef.dump
  version := f.version
  createdAt := f.createdAt.isoformat
  archivedAt := f.archivedAt.map DateTime.isoformat

@[simp] theorem sessionId_factParams (f : GuidanceFact) :
    (factParams f).sessionId = f.sessionId := rfl

/-- `_fact_from_row`, which validates the fact again. -/
def factFromRow (row : GuidanceRow) : Option GuidanceFact := do
  let sourceMessageRef ← readOptional ObjectRef.load row.sourceMessageRefJson
  let scopeKind ← GuidanceScope.ofText row.scopeKind
  let guidanceKind ← GuidanceKind.ofText row.guidanceKind
  let createdAt ← DateTime.fromisoformat row.createdAt
  let archivedAt ← readOptional DateTime.fromisoformat row.archivedAt
  if h : (strip row.guidanceText ≠ "" ∧ (strip row.guidanceText).length ≤ 8000) ∧
      guidanceScopeOk scopeKind row.planId row.taskNodeId = true then
    let fact : GuidanceFact :=
      { guidanceId := row.guidanceId
        workspaceId := row.workspaceId
        sessionId := row.sessionId
        scopeKind := scopeKind
        planId := row.planId
        taskNodeId := row.taskNodeId
        guidanceKind := guidanceKind
        guidanceText := strip row.guidanceText
        appliesToFutureTasks := row.appliesToFutureTasks != 0
        sourceCommandId := row.sourceCommandId
        sourceRouterDecisionId := row.sourceRouterDecisionId
        sourceMessageRef := sourceMessageRef
        version := row.version
        createdAt := createdAt
        archivedAt := archivedAt
        text_ok := ⟨strip_strip _, h.1⟩
        scope_ok := h.2 }
    if fact.fieldsOk then some fact else none
  else none

/-- **A fact reads back from its row.** -/
theorem factFromRow_factParams {f : GuidanceFact} (h : f.fieldsOk = true) :
    factFromRow (factParams f) = some f := by
  have href : readOptional ObjectRef.load (f.sourceMessageRef.map ObjectRef.dump) =
      some f.sourceMessageRef := by
    refine readOptional_map ?_
    intro r hr
    apply ObjectRef.load_dump
    simp only [GuidanceFact.fieldsOk, hr, Bool.and_eq_true, Option.all_some] at h
    exact h.1.2
  have harch : readOptional DateTime.fromisoformat (f.archivedAt.map DateTime.isoformat) =
      some f.archivedAt :=
    readOptional_map (fun d _ => DateTime.fromisoformat_isoformat d)
  have hfut : ((if f.appliesToFutureTasks = true then 1 else 0) != 0) = f.appliesToFutureTasks := by
    cases f.appliesToFutureTasks <;> rfl
  obtain ⟨hstrip, htext⟩ := f.text_ok
  have hscope := f.scope_ok
  simp only [factFromRow, factParams, href, harch, GuidanceScope.ofText_toText,
    GuidanceKind.ofText_toText, DateTime.fromisoformat_isoformat, Option.bind_eq_bind,
    Option.bind_some, hstrip, htext, hscope, ne_eq, not_false_eq_true, and_self, dif_pos, hfut]
  rw [if_pos h]

/-! ### The stores -/

inductive GuidanceFactStoreError
  /-- failed to save guidance fact -/
  | failedToSave
  /-- guidance fact was not saved -/
  | notSaved
  /-- invalid guidance fact row -/
  | invalidRow
  /-- Python int too large to convert to SQLite INTEGER -/
  | overflow
deriving DecidableEq, Repr

/-- `l[-n:]`; `-0` is `0`, and `l[0:]` is all of `l`. -/
def sliceLast {α : Type} (l : List α) (n : ℕ) : List α := if n = 0 then l else l.rtake n

def scopeMatches (fact : GuidanceFact) (planId taskNodeId : Option String) : Bool :=
  match taskNodeId, planId with
  | some taskNodeId, _ => fact.taskNodeId == some taskNodeId || fact.scopeKind == .session
  | none, some planId => fact.planId == some planId || fact.scopeKind == .session
  | none, none => fact.scopeKind == .session

def GuidanceFact.creationOrder (f : GuidanceFact) : DateTime ×ₗ String :=
  toLex (f.createdAt, f.guidanceId)

def GuidanceRow.creationOrder (row : GuidanceRow) : String ×ₗ String :=
  toLex (row.createdAt, row.guidanceId)

theorem creationOrder_factParams (f g : GuidanceFact) :
    (factParams f).creationOrder ≤ (factParams g).creationOrder ↔
      f.creationOrder ≤ g.creationOrder := by
  simp only [GuidanceRow.creationOrder, GuidanceFact.creationOrder, Prod.Lex.toLex_le_toLex,
    factParams, DateTime.isoformat_lt_iff, DateTime.isoformat_inj]

structure InMemoryGuidanceFactStore where
  facts : Dict String GuidanceFact := Dict.empty

namespace InMemoryGuidanceFactStore

def create (store : InMemoryGuidanceFactStore) (fact : GuidanceFact) :
    GuidanceFact × InMemoryGuidanceFactStore :=
  match store.facts.get? fact.guidanceId with
  | some current => (current, store)
  | none => (fact, { facts := store.facts.set fact.guidanceId fact })

def get (store : InMemoryGuidanceFactStore) (sessionId guidanceId : String) :
    Option GuidanceFact :=
  match store.facts.get? guidanceId with
  | none => none
  | some fact => if fact.sessionId ≠ sessionId then none else some fact

/-- The facts that `list_for_scope` has to choose from, oldest first. -/
def filtered (store : InMemoryGuidanceFactStore) (sessionId : String)
    (planId taskNodeId : Option String) (includeArchived : Bool) : List GuidanceFact :=
  sortOn GuidanceFact.creationOrder (store.facts.values.filter (fun fact =>
    fact.sessionId == sessionId && (includeArchived || fact.archivedAt.isNone) &&
      scopeMatches fact planId taskNodeId))

def listForScope (store : InMemoryGuidanceFactStore) (sessionId : String)
    (planId taskNodeId : Option String) (includeArchived : Bool) (limit : ℕ) :
    List GuidanceFact :=
  sliceLast (store.filtered sessionId planId taskNodeId includeArchived) limit

end InMemoryGuidanceFactStore

/-- The table, and whether a transaction was left open. -/
structure SqliteGuidanceFactStore where
  rows : Dict String GuidanceRow := Dict.empty
  inTransaction : Bool := false

namespace SqliteGuidanceFactStore

def get (store : SqliteGuidanceFactStore) (sessionId guidanceId : String) :
    Except GuidanceFactStoreError (Option GuidanceFact) :=
  match (store.rows.get? guidanceId).filter (fun row => row.sessionId == sessionId) with
  | none => .ok none
  | some row =>
    match factFromRow row with
    | none => .error .invalidRow
    | some fact => .ok (some fact)

/-- An integer that is too large raises an error that the store does not catch, and its
transaction stays open; the next `BEGIN` fails, and rolls it back. -/
def create (store : SqliteGuidanceFactStore) (fact : GuidanceFact) :
    Except GuidanceFactStoreError GuidanceFact × SqliteGuidanceFactStore :=
  if store.inTransaction then (.error .failedToSave, { store with inTransaction := false })
  else if 2 ^ 63 ≤ fact.version then (.error .overflow, { store with inTransaction := true })
  else
    let store : SqliteGuidanceFactStore :=
      match store.rows.get? fact.guidanceId with
      | some _ => store
      | none => { store with rows := store.rows.set fact.guidanceId (factParams fact) }
    match store.get fact.sessionId fact.guidanceId with
    | .error e => (.error e, store)
    | .ok none => (.error .notSaved, store)
    | .ok (some current) => (.ok current, store)

def scopeClause (row : GuidanceRow) (planId taskNodeId : Option String) : Bool :=
  match taskNodeId, planId with
  | some taskNodeId, _ => row.taskNodeId == some taskNodeId || row.scopeKind == "session"
  | none, some planId => row.planId == some planId || row.scopeKind == "session"
  | none, none => row.scopeKind == "session"

/-- The rows of the query before its `LIMIT`. -/
def selected (store : SqliteGuidanceFactStore) (sessionId : String)
    (planId taskNodeId : Option String) (includeArchived : Bool) : List GuidanceRow :=
  sortOn GuidanceRow.creationOrder
    (store.rows.values.filter (fun row =>
      row.sessionId == sessionId && (includeArchived || row.archivedAt.isNone) &&
        scopeClause row planId taskNodeId))

def listForScope (store : SqliteGuidanceFactStore) (sessionId : String)
    (planId taskNodeId : Option String) (includeArchived : Bool) (limit : ℕ) :
    Except GuidanceFactStoreError (List GuidanceFact) :=
  if 2 ^ 63 ≤ limit then .error .overflow
  else
    match ((store.selected sessionId planId taskNodeId includeArchived).take limit).mapM
        factFromRow with
    | none => .error .invalidRow
    | some facts => .ok facts

end SqliteGuidanceFactStore

/-! ### Runs -/

/-- A call of the protocol.  A fact was built by its constructor. -/
inductive GuidanceCall
  | create (fact : GuidanceFact) (h : fact.fieldsOk = true)
  | get (sessionId guidanceId : String)
  | listForScope (sessionId : String) (planId taskNodeId : Option String)
      (includeArchived : Bool) (limit : ℕ)

inductive GuidanceReply
  | created (fact : GuidanceFact)
  | found (fact : Option GuidanceFact)
  | listed (facts : List GuidanceFact)
deriving DecidableEq

def InMemoryGuidanceFactStore.step (store : InMemoryGuidanceFactStore) :
    GuidanceCall → Except GuidanceFactStoreError GuidanceReply × InMemoryGuidanceFactStore
  | .create fact _ => (.ok (.created (store.create fact).1), (store.create fact).2)
  | .get sessionId guidanceId => (.ok (.found (store.get sessionId guidanceId)), store)
  | .listForScope sessionId planId taskNodeId includeArchived limit =>
    (.ok (.listed (store.listForScope sessionId planId taskNodeId includeArchived limit)), store)

def SqliteGuidanceFactStore.step (store : SqliteGuidanceFactStore) :
    GuidanceCall → Except GuidanceFactStoreError GuidanceReply × SqliteGuidanceFactStore
  | .create fact _ => ((store.create fact).1.map .created, (store.create fact).2)
  | .get sessionId guidanceId => ((store.get sessionId guidanceId).map .found, store)
  | .listForScope sessionId planId taskNodeId includeArchived limit =>
    ((store.listForScope sessionId planId taskNodeId includeArchived limit).map .listed, store)

namespace InMemoryGuidanceFactStore

/-- The call is answered alike by both stores: no id is used in two sessions, no list is
longer than its limit, and no integer is too large. -/
def Compatible (store : InMemoryGuidanceFactStore) : GuidanceCall → Prop
  | .create fact _ =>
    fact.version < 2 ^ 63 ∧
      ∀ current, store.facts.get? fact.guidanceId = some current →
        current.sessionId = fact.sessionId
  | .get _ _ => True
  | .listForScope sessionId planId taskNodeId includeArchived limit =>
    (store.filtered sessionId planId taskNodeId includeArchived).length ≤ limit ∧ limit < 2 ^ 63

end InMemoryGuidanceFactStore

/-! ### A fact and its row -/

/-- The table has the rows of the facts. -/
structure Encodes (mem : InMemoryGuidanceFactStore) (sql : SqliteGuidanceFactStore) : Prop where
  rows : sql.rows = mem.facts.map factParams
  idle : sql.inTransaction = false
  facts_ok : ∀ k f, mem.facts.get? k = some f → f.guidanceId = k ∧ f.fieldsOk = true

theorem take_eq_sliceLast_iff {α : Type} {l : List α} {n : ℕ} (h : l.Nodup) :
    l.take n = sliceLast l n ↔ l.length ≤ n := by
  unfold sliceLast
  by_cases h0 : n = 0
  · subst h0
    rw [if_pos rfl, List.take_zero, Nat.le_zero, List.length_eq_zero_iff]
    exact eq_comm
  · rw [if_neg h0]
    constructor
    · intro heq
      by_contra hlen
      rw [not_le] at hlen
      -- The first elements would be one element at two places.
      have hfirst : (l.take n)[0]? = l[0]? := by
        rw [List.getElem?_take, if_pos (by omega)]
      have hlast : (l.rtake n)[0]? = l[l.length - n]? := by
        rw [List.rtake, List.getElem?_drop, Nat.add_zero]
      rw [heq, hlast] at hfirst
      have := (List.getElem?_inj (by omega) h).mp hfirst
      omega
    · intro hlen
      rw [List.take_of_length_le hlen, List.rtake, Nat.sub_eq_zero_of_le hlen, List.drop_zero]

theorem mapM_factFromRow {l : List GuidanceFact} (h : ∀ f ∈ l, f.fieldsOk = true) :
    (l.map factParams).mapM factFromRow = some l := by
  induction l with
  | nil => rfl
  | cons f l ih =>
    rw [List.map_cons, List.mapM_cons, factFromRow_factParams (h f (by simp)),
      ih (fun g hg => h g (by simp [hg]))]
    rfl

theorem scopeClause_factParams (f : GuidanceFact) (planId taskNodeId : Option String) :
    SqliteGuidanceFactStore.scopeClause (factParams f) planId taskNodeId =
      scopeMatches f planId taskNodeId := by
  have hsession : ((factParams f).scopeKind == "session") = (f.scopeKind == .session) := by
    rw [Bool.eq_iff_iff, beq_iff_eq, beq_iff_eq]
    exact GuidanceScope.toText_eq_session
  unfold SqliteGuidanceFactStore.scopeClause scopeMatches
  rw [hsession]
  rfl

namespace Encodes

variable {mem : InMemoryGuidanceFactStore} {sql : SqliteGuidanceFactStore}

theorem empty : Encodes {} {} where
  rows := rfl
  idle := rfl
  facts_ok := by
    intro k f h
    cases h

theorem get?_rows (h : Encodes mem sql) (k : String) :
    sql.rows.get? k = (mem.facts.get? k).map factParams := by
  rw [h.rows, Dict.get?_map]

theorem get_eq (h : Encodes mem sql) (sessionId guidanceId : String) :
    sql.get sessionId guidanceId = .ok (mem.get sessionId guidanceId) := by
  unfold SqliteGuidanceFactStore.get InMemoryGuidanceFactStore.get
  rw [h.get?_rows]
  cases hget : mem.facts.get? guidanceId with
  | none => rfl
  | some f =>
    have hread := factFromRow_factParams (h.facts_ok _ _ hget).2
    by_cases hs : f.sessionId = sessionId
    · simp only [Option.map_some, Option.filter, sessionId_factParams, hs, beq_self_eq_true,
        if_true, hread, ne_eq, not_true_eq_false, if_false]
    · simp only [Option.map_some, Option.filter, sessionId_factParams, beq_eq_false_iff_ne.mpr hs,
        Bool.false_eq_true, if_false, ne_eq, hs, not_false_eq_true, if_true]

theorem mem_filtered_ok (h : Encodes mem sql) {s : String} {p t : Option String} {a : Bool}
    {f : GuidanceFact} (hf : f ∈ mem.filtered s p t a) : f.fieldsOk = true := by
  rw [InMemoryGuidanceFactStore.filtered, mem_sortOn] at hf
  obtain ⟨k, hk⟩ := Dict.mem_values.mp (List.mem_of_mem_filter hf)
  exact (h.facts_ok k f hk).2

theorem selected_eq (h : Encodes mem sql) (s : String) (p t : Option String) (a : Bool) :
    sql.selected s p t a = (mem.filtered s p t a).map factParams := by
  unfold SqliteGuidanceFactStore.selected InMemoryGuidanceFactStore.filtered
  have hsort : ∀ l : List GuidanceFact, (sortOn GuidanceFact.creationOrder l).map factParams =
      sortOn GuidanceRow.creationOrder (l.map factParams) := by
    intro l
    exact map_sortOn (fun f _ g _ => (creationOrder_factParams f g).symm)
  rw [hsort, h.rows, Dict.values_map, List.filter_map]
  congr 2
  refine List.filter_congr ?_
  intro f _
  have harch : (factParams f).archivedAt.isNone = f.archivedAt.isNone := Option.isNone_map
  simp only [Function.comp_apply, scopeClause_factParams, harch]
  rfl

theorem nodup_filtered (h : Encodes mem sql) (s : String) (p t : Option String) (a : Bool) :
    (mem.filtered s p t a).Nodup := by
  rw [InMemoryGuidanceFactStore.filtered, (sortOn_perm _ _).nodup_iff]
  have hall : mem.facts.values.Nodup :=
    List.Nodup.of_map GuidanceFact.guidanceId
      (Dict.nodup_map_values fun k f hf => (h.facts_ok k f hf).1)
  exact hall.filter _

theorem listForScope_eq (h : Encodes mem sql) (s : String) (p t : Option String) (a : Bool)
    {limit : ℕ} (hlimit : limit < 2 ^ 63) :
    sql.listForScope s p t a limit = .ok ((mem.filtered s p t a).take limit) := by
  unfold SqliteGuidanceFactStore.listForScope
  rw [if_neg (by omega), h.selected_eq, ← List.map_take, mapM_factFromRow]
  intro f hf
  exact h.mem_filtered_ok (List.mem_of_mem_take hf)

/-- **A new fact.**  The first fact of an id stays, and when it is of another session
the table does not find it. -/
theorem create_eq (h : Encodes mem sql) {fact : GuidanceFact} (hok : fact.fieldsOk = true)
    (hversion : fact.version < 2 ^ 63) :
    Encodes (mem.create fact).2 (sql.create fact).2 ∧
      (sql.create fact).1 =
        if (mem.create fact).1.sessionId = fact.sessionId then .ok (mem.create fact).1
        else .error .notSaved := by
  unfold SqliteGuidanceFactStore.create InMemoryGuidanceFactStore.create
  simp only [h.idle, Bool.false_eq_true, if_false, if_neg (not_le.mpr hversion), h.get?_rows]
  cases hget : mem.facts.get? fact.guidanceId with
  | some current =>
    simp only [Option.map_some, h.get_eq, InMemoryGuidanceFactStore.get, hget]
    by_cases hs : current.sessionId = fact.sessionId
    · simp only [hs, ne_eq, not_true_eq_false, if_false, if_true]
      exact ⟨h, trivial⟩
    · simp only [hs, ne_eq, not_false_eq_true, if_false, if_true]
      exact ⟨h, trivial⟩
  | none =>
    have hnew : Encodes { facts := mem.facts.set fact.guidanceId fact }
        { rows := sql.rows.set fact.guidanceId (factParams fact) } := by
      refine ⟨by rw [h.rows, Dict.map_set], rfl, ?_⟩
      intro k f hf
      rw [Dict.get?_set] at hf
      split at hf
      · next hk =>
        cases hf
        exact ⟨hk, hok⟩
      · exact h.facts_ok k f hf
    have hget' := hnew.get_eq fact.sessionId fact.guidanceId
    simp only [InMemoryGuidanceFactStore.get, Dict.get?_set_self, ne_eq, not_true_eq_false,
      if_false] at hget'
    simp only [Option.map_none, if_true]
    rw [hget']
    exact ⟨hnew, rfl⟩

theorem step_eq (h : Encodes mem sql) {c : GuidanceCall} (hc : mem.Compatible c) :
    (mem.step c).1 = (sql.step c).1 ∧ Encodes (mem.step c).2 (sql.step c).2 := by
  cases c with
  | create fact hok =>
    obtain ⟨hnew, hreply⟩ := h.create_eq hok hc.1
    have hsession : (mem.create fact).1.sessionId = fact.sessionId := by
      unfold InMemoryGuidanceFactStore.create
      split
      · next current hcur => exact hc.2 current hcur
      · rfl
    rw [if_pos hsession] at hreply
    refine ⟨?_, hnew⟩
    simp only [InMemoryGuidanceFactStore.step, SqliteGuidanceFactStore.step, hreply]
    rfl
  | get sessionId guidanceId =>
    refine ⟨?_, h⟩
    simp only [InMemoryGuidanceFactStore.step, SqliteGuidanceFactStore.step, h.get_eq]
    rfl
  | listForScope s p t a limit =>
    refine ⟨?_, h⟩
    have htake := (take_eq_sliceLast_iff (h.nodup_filtered s p t a)).mpr hc.1
    simp only [InMemoryGuidanceFactStore.step, SqliteGuidanceFactStore.step,
      h.listForScope_eq s p t a hc.2, InMemoryGuidanceFactStore.listForScope, htake]
    rfl

theorem compatible_of_eq (h : Encodes mem sql) {c : GuidanceCall}
    (heq : (mem.step c).1 = (sql.step c).1) : mem.Compatible c := by
  cases c with
  | create fact hok =>
    simp only [InMemoryGuidanceFactStore.step, SqliteGuidanceFactStore.step] at heq
    by_cases hversion : fact.version < 2 ^ 63
    · refine ⟨hversion, ?_⟩
      intro current hcur
      rw [(h.create_eq hok hversion).2] at heq
      by_contra hs
      simp only [InMemoryGuidanceFactStore.create, hcur, if_neg hs] at heq
      cases heq
    · simp only [SqliteGuidanceFactStore.create, h.idle, Bool.false_eq_true, if_false,
        if_pos (not_lt.mp hversion)] at heq
      cases heq
  | get sessionId guidanceId => trivial
  | listForScope s p t a limit =>
    simp only [InMemoryGuidanceFactStore.step, SqliteGuidanceFactStore.step] at heq
    by_cases hlimit : limit < 2 ^ 63
    · refine ⟨?_, hlimit⟩
      rw [h.listForScope_eq s p t a hlimit] at heq
      have hlists := GuidanceReply.listed.inj (Except.ok.inj heq)
      exact (take_eq_sliceLast_iff (h.nodup_filtered s p t a)).mp hlists.symm
    · simp only [SqliteGuidanceFactStore.listForScope, if_pos (not_lt.mp hlimit)] at heq
      cases heq

end Encodes

/-- **The two stores answer a run of calls alike if and only if every call is
compatible.** -/
theorem guidance_replies_eq_iff (calls : List GuidanceCall) :
    outputs InMemoryGuidanceFactStore.step {} calls =
    outputs SqliteGuidanceFactStore.step {} calls ↔
      Throughout InMemoryGuidanceFactStore.step InMemoryGuidanceFactStore.Compatible {} calls :=
  outputs_eq_iff (f := InMemoryGuidanceFactStore.step) (g := SqliteGuidanceFactStore.step)
    (R := Encodes) (fun _ _ _ h hc => h.step_eq hc) (fun _ _ _ h heq => h.compatible_of_eq heq)
    calls {} {} .empty

/-! ### A list that is longer than its limit -/

theorem sampleText_ok : strip "x" = "x" ∧ "x" ≠ "" ∧ "x".length ≤ 8000 := by decide

theorem sessionGuidance_ok : guidanceScopeOk .session none none = true := rfl

/-- A guidance for the whole session. -/
def GuidanceFact.sample (guidanceId : String) (createdAt : DateTime) : GuidanceFact where
  guidanceId := guidanceId
  workspaceId := "w"
  sessionId := "s"
  scopeKind := .session
  guidanceKind := .instruction
  guidanceText := "x"
  sourceCommandId := "command"
  createdAt := createdAt
  text_ok := sampleText_ok
  scope_ok := sessionGuidance_ok

def newestOfTwo : List GuidanceCall :=
  [.create (.sample "a" .noon) rfl, .create (.sample "b" .afterNoon) rfl,
   .listForScope "s" none none false 1]

theorem guidance_replies_differ :
    outputs InMemoryGuidanceFactStore.step {} newestOfTwo ≠
      outputs SqliteGuidanceFactStore.step {} newestOfTwo := by
  decide +kernel

end Taskweavn
