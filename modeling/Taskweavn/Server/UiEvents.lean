import Taskweavn.Lib.Feed

/-!
# Events for the page

The table of events of a workspace (`taskweavn/server/ui_events.py`).  The rows of all
sessions stand in one table, in the order in which they were appended; a session and a
cursor have at most one row.  A page asks for the events behind a cursor, and a cursor
that is not in the table gets all events and a note that the page has to load again.

What an event is about is for the page, and left out.
-/

namespace Taskweavn

open Lib

inductive UiEventType
  | sessionStatusChanged
  | sessionResyncRequired
  | taskTreeChanged
  | taskNodeChanged
  | messageAppended
  | confirmationCreated
  | confirmationResolved
  | askCreated
  | askAnswered
  | askDeferred
  | askCancelled
  | askExpired
  | resultUpdated
  | fileChangesUpdated
  | auditSummaryUpdated
  | auditRecordsChanged
  | auditRecordUpdated
  | auditEvidenceHidden
  | auditSnapshotStale
  | commandCompleted
  | commandFailed
deriving DecidableEq, Repr

structure UiEvent where
  eventId : String
  sessionId : String
  eventType : UiEventType
  cursor : String
deriving DecidableEq

def resyncRequired (eventId sessionId cursor : String) : UiEvent where
  eventId := eventId
  sessionId := sessionId
  eventType := .sessionResyncRequired
  cursor := cursor

/-- The table, in the order of its ids; both constraints of the schema hold. -/
structure SqliteUiEventSource where
  rows : List UiEvent := []
  unique_id : (rows.map UiEvent.eventId).Nodup
  unique_cursor : (rows.map (fun e => (e.sessionId, e.cursor))).Nodup

namespace SqliteUiEventSource

def empty : SqliteUiEventSource := ⟨[], List.nodup_nil, List.nodup_nil⟩

variable (source : SqliteUiEventSource)

/-- `append`; nothing when a constraint is violated. -/
def append (event : UiEvent) : Option SqliteUiEventSource :=
  if h : event.eventId ∉ source.rows.map UiEvent.eventId ∧
      (event.sessionId, event.cursor) ∉ source.rows.map (fun e => (e.sessionId, e.cursor)) then
    some
      { rows := source.rows ++ [event]
        unique_id := by
          rw [List.map_append, List.nodup_append]
          exact ⟨source.unique_id, List.nodup_singleton _, fun a ha b hb => by
            rintro rfl
            rw [List.map_singleton, List.mem_singleton] at hb
            exact h.1 (hb ▸ ha)⟩
        unique_cursor := by
          rw [List.map_append, List.nodup_append]
          exact ⟨source.unique_cursor, List.nodup_singleton _, fun a ha b hb => by
            rintro rfl
            rw [List.map_singleton, List.mem_singleton] at hb
            exact h.2 (hb ▸ ha)⟩ }
  else none

def session (sessionId : String) : List UiEvent :=
  source.rows.filter (fun e => e.sessionId == sessionId)

/-- `subscribe`; the id is that of a note to load again. -/
def subscribe (sessionId : String) (cursor : Option String) (newId : String) : List UiEvent :=
  match cursor with
  | none => source.session sessionId
  | some c =>
    match behind UiEvent.cursor c (source.session sessionId) with
    | none => resyncRequired newId sessionId c :: source.session sessionId
    | some events => events

def latestCursor (sessionId : String) : Option String :=
  (source.session sessionId).getLast?.map UiEvent.cursor

variable {source} {source' : SqliteUiEventSource} {event : UiEvent} {sessionId : String}

theorem rows_append (h : source.append event = some source') :
    source'.rows = source.rows ++ [event] := by
  unfold append at h
  split at h
  · cases h
    rfl
  · cases h

theorem session_append (h : source.append event = some source') (sessionId : String) :
    source'.session sessionId =
      if event.sessionId = sessionId then source.session sessionId ++ [event]
      else source.session sessionId := by
  rw [session, rows_append h, List.filter_append, session]
  by_cases hs : event.sessionId = sessionId
  · rw [if_pos hs, List.filter_cons_of_pos (by simpa using hs), List.filter_nil]
  · rw [if_neg hs, List.filter_cons_of_neg (by simpa using hs), List.filter_nil, List.append_nil]

theorem nodup_session (source : SqliteUiEventSource) (sessionId : String) :
    ((source.session sessionId).map UiEvent.cursor).Nodup := by
  refine List.Nodup.map_on ?_ ((List.Nodup.of_map _ source.unique_id).filter _)
  intro a ha b hb hab
  obtain ⟨hma, hsa⟩ := List.mem_filter.mp ha
  obtain ⟨hmb, hsb⟩ := List.mem_filter.mp hb
  refine List.inj_on_of_nodup_map source.unique_cursor hma hmb ?_
  rw [beq_iff_eq.mp hsa, beq_iff_eq.mp hsb, hab]

theorem subscribe_eq {cursor : Option String}
    (h : Known UiEvent.cursor (source.session sessionId) cursor) (newId : String) :
    source.subscribe sessionId cursor newId =
      since UiEvent.cursor (source.session sessionId) cursor := by
  cases cursor with
  | none => rfl
  | some c =>
    obtain ⟨l, hl⟩ := Option.isSome_iff_exists.mp (h c rfl)
    rw [subscribe, since, hl]
    rfl

theorem latestCursor_spec (source : SqliteUiEventSource) (sessionId : String) :
    Known UiEvent.cursor (source.session sessionId) (source.latestCursor sessionId) ∧
      since UiEvent.cursor (source.session sessionId) (source.latestCursor sessionId) = [] := by
  unfold latestCursor
  cases hlast : (source.session sessionId).getLast? with
  | none =>
    refine ⟨?_, List.getLast?_eq_none_iff.mp hlast⟩
    intro k hk
    cases hk
  | some e =>
    have hb := behind_getLast (source.nodup_session sessionId) hlast
    refine ⟨?_, ?_⟩
    · intro k hk
      cases hk
      rw [hb]
      rfl
    · rw [Option.map_some, since, hb]
      rfl

end SqliteUiEventSource

end Taskweavn
