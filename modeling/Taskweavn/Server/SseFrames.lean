import Taskweavn.Py.JsonText
import Taskweavn.Server.UiEvents
import Taskweavn.Task.PlanStore

/-!
# Frames of events

What the page gets of an event (`sse_frame`, `sse_stream` of `taskweavn/server/ui_events.py`): its
cursor as the id, its type, and the whole event as JSON.  The type is a fixed word and the JSON
stands in one line, but the cursor is written as it is.

* `decodesToSent_iff`: a stream is read as the events that were sent exactly when no cursor has the
  end of a line and every payload can be written.
-/

namespace Taskweavn

open Lib Py EventStream

def UiEventType.toText : UiEventType → String
  | .sessionStatusChanged => "session.status_changed"
  | .sessionResyncRequired => "session.resync_required"
  | .taskTreeChanged => "task.tree.changed"
  | .taskNodeChanged => "task.node.changed"
  | .messageAppended => "message.appended"
  | .confirmationCreated => "confirmation.created"
  | .confirmationResolved => "confirmation.resolved"
  | .askCreated => "ask.created"
  | .askAnswered => "ask.answered"
  | .askDeferred => "ask.deferred"
  | .askCancelled => "ask.cancelled"
  | .askExpired => "ask.expired"
  | .resultUpdated => "result.updated"
  | .fileChangesUpdated => "file_changes.updated"
  | .auditSummaryUpdated => "audit.summary_updated"
  | .auditRecordsChanged => "audit.records_changed"
  | .auditRecordUpdated => "audit.record_updated"
  | .auditEvidenceHidden => "audit.evidence_hidden"
  | .auditSnapshotStale => "audit.snapshot_stale"
  | .commandCompleted => "command.completed"
  | .commandFailed => "command.failed"

theorem UiEventType.oneLine_toText (type : UiEventType) : OneLine type.toText.toList := by
  cases type <;> decide

def TaskRefKind.toText : TaskRefKind → String
  | .draft => "draft"
  | .published => "published"

/-- An event with what it is about.  The model takes no empty id and no empty cursor. -/
structure UiEventRecord (V : Type) extends UiEvent where
  taskNodeIds : List String := []
  taskRefs : List TaskRef := []
  messageIds : List String := []
  commandId : Option String := none
  payload : Dict String V
  createdAt : Moment
  eventId_ne : eventId ≠ ""
  sessionId_ne : sessionId ≠ ""
  cursor_ne : cursor ≠ ""

section

variable {V : Type} (writer : PayloadWriter V)

namespace UiEventRecord

/-- `resync_required`; the model refuses an empty id or cursor. -/
def resyncRequired (newId sessionId cursor reason : String) (now : Moment) :
    Option (UiEventRecord V) :=
  if h : newId ≠ "" ∧ sessionId ≠ "" ∧ cursor ≠ "" then
    some
      { Taskweavn.resyncRequired newId sessionId cursor with
        payload := Dict.ofList [("reason", writer.str reason)]
        createdAt := now
        eventId_ne := h.1
        sessionId_ne := h.2.1
        cursor_ne := h.2.2 }
  else none

def refJson (ref : TaskRef) : List Char :=
  jsonObject [("kind", jsonString ref.kind.toText), ("id", jsonString ref.id)]

/-- `model_dump_json`; nothing when the payload cannot be written. -/
def modelDumpJson (event : UiEventRecord V) : Option (List Char) :=
  (writer.dict event.payload).map fun payload =>
    jsonObject
      [("eventId", jsonString event.eventId),
        ("sessionId", jsonString event.sessionId),
        ("eventType", jsonString event.eventType.toText),
        ("cursor", jsonString event.cursor),
        ("taskNodeIds", jsonArray (event.taskNodeIds.map jsonString)),
        ("taskRefs", jsonArray (event.taskRefs.map refJson)),
        ("messageIds", jsonArray (event.messageIds.map jsonString)),
        ("commandId", jsonOption jsonString event.commandId),
        ("payload", payload),
        ("createdAt", "\"".toList ++ event.createdAt.jsonText ++ "\"".toList)]

def frame (event : UiEventRecord V) : Option Frame :=
  (event.modelDumpJson writer).map fun data =>
    ⟨some event.cursor.toList, some event.eventType.toText.toList, some data⟩

variable {writer}

theorem oneLine_refJson (ref : TaskRef) : OneLine (refJson ref) := by
  refine oneLine_jsonObject fun item hitem => ?_
  simp only [List.mem_cons, List.not_mem_nil, or_false] at hitem
  rcases hitem with rfl | rfl
  · exact oneLine_jsonString _
  · exact oneLine_jsonString _

/-- **The JSON of an event is a line**, whatever its fields are. -/
theorem oneLine_modelDumpJson {event : UiEventRecord V} {data : List Char}
    (h : event.modelDumpJson writer = some data) : OneLine data := by
  obtain ⟨payload, hpayload, rfl⟩ := Option.map_eq_some_iff.mp h
  have hstrings (l : List String) : OneLine (jsonArray (l.map jsonString)) := by
    refine oneLine_jsonArray fun t ht => ?_
    obtain ⟨s, -, rfl⟩ := List.mem_map.mp ht
    exact oneLine_jsonString s
  have hrefs : OneLine (jsonArray (event.taskRefs.map refJson)) := by
    refine oneLine_jsonArray fun t ht => ?_
    obtain ⟨ref, -, rfl⟩ := List.mem_map.mp ht
    exact oneLine_refJson ref
  have hcommand := oneLine_jsonOption oneLine_jsonString event.commandId
  have hcreated : OneLine ("\"".toList ++ event.createdAt.jsonText ++ "\"".toList) :=
    OneLine.append (OneLine.append (by decide) (oneLine_momentText _)) (by decide)
  refine oneLine_jsonObject fun item hitem => ?_
  simp only [List.mem_cons, List.not_mem_nil, or_false] at hitem
  rcases hitem with rfl | rfl | rfl | rfl | rfl | rfl | rfl | rfl | rfl | rfl
  · exact oneLine_jsonString _
  · exact oneLine_jsonString _
  · exact oneLine_jsonString _
  · exact oneLine_jsonString _
  · exact hstrings _
  · exact hrefs
  · exact hstrings _
  · exact hcommand
  · exact PayloadWriter.oneLine_dict hpayload
  · exact hcreated

end UiEventRecord

def sseFrame (event : UiEventRecord V) : Option (List Char) :=
  (event.modelDumpJson writer).map fun data =>
    ['\n'].intercalate
      ["id: ".toList ++ event.cursor.toList,
        "event: ".toList ++ event.eventType.toText.toList,
        "data: ".toList ++ data,
        [],
        []]

def sseStream : List (UiEventRecord V) → Option (List Char)
  | [] => some []
  | event :: events => do
    let frame ← sseFrame writer event
    let rest ← sseStream events
    pure (frame ++ rest)

/-- The stream can be written, and it is read as the frames that were meant, one for each event. -/
def DecodesToSent (events : List (UiEventRecord V)) : Prop :=
  ∃ text, sseStream writer events = some text ∧
    (decode text).map some = events.map (UiEventRecord.frame writer)

variable {writer}

theorem UiEventRecord.modelDumpJson_isSome_iff {event : UiEventRecord V} :
    (event.modelDumpJson writer).isSome ↔ writer.Writes event.payload := by
  rw [modelDumpJson, Option.isSome_map, PayloadWriter.dict_isSome_iff]

theorem sseFrame_eq {event : UiEventRecord V} {data : List Char}
    (h : event.modelDumpJson writer = some data) :
    sseFrame writer event =
      some (render (frameLines event.cursor.toList event.eventType.toText.toList data)) := by
  rw [sseFrame, h]
  simp [render, frameLines, List.intercalate_cons_cons]

theorem sseStream_eq {events : List (UiEventRecord V)} {data : UiEventRecord V → List Char}
    (h : ∀ event ∈ events, event.modelDumpJson writer = some (data event)) :
    sseStream writer events = some (render (events.flatMap fun event =>
      frameLines event.cursor.toList event.eventType.toText.toList (data event))) := by
  induction events with
  | nil => rfl
  | cons event events ih =>
    rw [sseStream, sseFrame_eq (h event List.mem_cons_self),
      ih fun event he => h event (List.mem_cons_of_mem _ he), List.flatMap_cons, render, render,
      render, List.flatMap_append]
    rfl

theorem writes_of_sseStream {events : List (UiEventRecord V)} {text : List Char}
    (h : sseStream writer events = some text) :
    ∀ event ∈ events, writer.Writes event.payload := by
  induction events generalizing text with
  | nil => exact fun event he => (by cases he)
  | cons event events ih =>
    simp only [sseStream, Option.bind_eq_bind, Option.bind_eq_some_iff] at h
    obtain ⟨frame, hframe, rest, hrest, -⟩ := h
    intro event' he
    rcases List.mem_cons.mp he with rfl | he
    · obtain ⟨data, hdata, -⟩ := Option.map_eq_some_iff.mp hframe
      exact UiEventRecord.modelDumpJson_isSome_iff.mp (by rw [hdata, Option.isSome_some])
    · exact ih hrest event' he

theorem DecodesToSent.oneLine {events : List (UiEventRecord V)} (h : DecodesToSent writer events) :
    ∀ event ∈ events, OneLine event.cursor.toList ∧ writer.Writes event.payload := by
  obtain ⟨text, htext, hdecode⟩ := h
  intro event he
  have hwrites := writes_of_sseStream htext event he
  obtain ⟨data, hdata⟩ :=
    Option.isSome_iff_exists.mp (UiEventRecord.modelDumpJson_isSome_iff.mpr hwrites)
  have hmem : event.frame writer ∈ (decode text).map some := by
    rw [hdecode]
    exact List.mem_map_of_mem he
  obtain ⟨frame, hframe, heq⟩ := List.mem_map.mp hmem
  rw [UiEventRecord.frame, hdata, Option.map_some] at heq
  cases heq
  exact ⟨decode_oneLine hframe rfl, hwrites⟩

theorem DecodesToSent.of_oneLine {events : List (UiEventRecord V)}
    (h : ∀ event ∈ events, OneLine event.cursor.toList ∧ writer.Writes event.payload) :
    DecodesToSent writer events := by
  have hdata : ∀ event ∈ events,
      event.modelDumpJson writer = some ((event.modelDumpJson writer).getD []) := by
    intro event he
    have hsome := UiEventRecord.modelDumpJson_isSome_iff.mpr (h event he).2
    obtain ⟨data, hdata⟩ := Option.isSome_iff_exists.mp hsome
    rw [hdata, Option.getD_some]
  refine ⟨_, sseStream_eq hdata, ?_⟩
  rw [decode_render, List.map_map]
  · refine List.map_congr_left fun event he => ?_
    rw [UiEventRecord.frame, hdata event he]
    rfl
  · intro event he
    exact ⟨(h event he).1, event.eventType.oneLine_toText,
      UiEventRecord.oneLine_modelDumpJson (hdata event he)⟩

/-- **A stream is read as the events that were sent exactly when no cursor has the end of a line**
and every payload can be written. -/
theorem decodesToSent_iff (writer : PayloadWriter V) (events : List (UiEventRecord V)) :
    DecodesToSent writer events ↔
      ∀ event ∈ events, OneLine event.cursor.toList ∧ writer.Writes event.payload :=
  ⟨DecodesToSent.oneLine, DecodesToSent.of_oneLine⟩

/-! ### The table -/

variable (writer) in
/-- `subscribe` of the table with the given rows; nothing when the note to load again cannot be
built. -/
def UiEventRecord.subscribe (rows : List (UiEventRecord V)) (sessionId : String)
    (cursor : Option String) (newId : String) (now : Moment) : Option (List (UiEventRecord V)) :=
  match cursor with
  | none => some (rows.filter fun event => event.sessionId == sessionId)
  | some c =>
    match behind (fun event => event.cursor) c
        (rows.filter fun event => event.sessionId == sessionId) with
    | none =>
      (resyncRequired writer newId sessionId c
        "cursor is not available in workspace UI event source" now).map
          (· :: rows.filter fun event => event.sessionId == sessionId)
    | some events => some events

end

/-- **A client's cursor with a line feed** is cut at it: the page of an empty table gets one frame,
whose id is not the cursor of the note. -/
theorem UiEventRecord.subscribe_cuts_cursor :
    ∃ events, subscribe PayloadWriter.ofStrings [] "s" (some "a\nb") "e" ⟨DateTime.noon, none⟩ =
        some events ∧
      events.map (fun event => event.cursor) = ["a\nb"] ∧
      ((sseStream PayloadWriter.ofStrings events).map decode).map (List.map Frame.id) =
        some [some "a".toList] ∧
      ¬DecodesToSent PayloadWriter.ofStrings events := by
  refine ⟨_, rfl, rfl, by decide +kernel, fun h => ?_⟩
  have hline := (h.oneLine _ List.mem_cons_self).1
  revert hline
  decide

end Taskweavn
