import Taskweavn.Lib.Slots
import Taskweavn.Py.Url
import Taskweavn.Server.UiHttpCommands

/-!
# Routes of the UI transport

`_match_route` (`taskweavn/server/ui_http_routes.py`) compares the decoded parts of a path with some
fifty patterns.  A path of the form `/api/v1/workspaces/<id>/…` is matched again without its prefix:
its parts, which are decoded, are joined to a path and that is decoded once more.
-/

namespace Taskweavn

namespace UiRoutes

variable {parts : List String}

open Lib Py

/-! ### Routes -/

inductive RouteName
  | root
  | health
  | settingsReadiness
  | settingsReadinessRecheck
  | settingsRecoveryAction
  | settingsConfig
  | runtimeConfigPatch
  | runtimeConfigSchema
  | runtimeConfigEffective
  | runtimeConfigExplain
  | runtimeConfigChanges
  | runtimeConfigSnapshot
  | workspaces
  | executionPlanePublish
  | executionPlaneGet
  | executionPlaneCancel
  | executionPlaneRetry
  | executionPlaneEvents
  | executionPlaneResult
  | executionPlaneError
  | executionPlaneEvidence
  | usageTokenSummary
  | workspaceInspectionStatus
  | workspaceInspectionDiff
  | workspaceInspectionEvidence
  | workspaceFileContent
  | sessions
  | snapshot
  | sessionActivity
  | runtimeInputRoute
  | auditSnapshot
  | auditRecords
  | auditRecordDetail
  | auditEvidenceDetail
  | renameSession
  | deleteSession
  | appendSessionInput
  | generateTaskTree
  | publishTaskTree
  | archivePlan
  | repairAuthoringState
  | answerAuthoringAskBatch
  | dispatchExecution
  | events
  | clientErrorLog
  | diagnosticsExport
  | updateTaskNode
  | appendTaskInput
  | retryTask
  | stopTask
  | resolveConfirmation
  | asks
  | askDetail
  | answerAsk
  | deferAsk
  | cancelAsk
deriving DecidableEq

inductive RouteMethod
  | get
  | post
  | patch
  /-- `*` -/
  | any
deriving DecidableEq

/-- The fields of a route that a part of the path fills. -/
inductive RouteField
  | sessionId
  | rawTaskId
  | taskNodeId
  | confirmationId
  | askId
  | planId
  | recordId
  | evidenceId
  | executionId
deriving DecidableEq

structure Route where
  name : RouteName
  method : RouteMethod
  workspaceId : String
  sessionId : String
  rawTaskId : String
  taskNodeId : String
  confirmationId : String
  askId : String
  planId : String
  recordId : String
  evidenceId : String
  executionId : String
deriving DecidableEq

/-- `replace(route, workspace_id=workspace_id)` -/
def Route.inWorkspace (workspaceId : String) (route : Route) : Route :=
  { route with workspaceId := workspaceId }

/-- A row of the table: the route with this name and method, for paths of this pattern. -/
abbrev Row := SlotRow (RouteName × RouteMethod) String RouteField

/-- `_Route(name=name, method=method, …)`, with the fields that have a value. -/
def route (key : RouteName × RouteMethod) (value : RouteField → Option String) : Route where
  name := key.1
  method := key.2
  workspaceId := ""
  sessionId := (value .sessionId).getD ""
  rawTaskId := (value .rawTaskId).getD ""
  taskNodeId := (value .taskNodeId).getD ""
  confirmationId := (value .confirmationId).getD ""
  askId := (value .askId).getD ""
  planId := (value .planId).getD ""
  recordId := (value .recordId).getD ""
  evidenceId := (value .evidenceId).getD ""
  executionId := (value .executionId).getD ""

/-- A pattern under `/api/v1`. -/
def api (name : RouteName) (method : RouteMethod)
    (slots : List (Slot String RouteField)) : Row where
  key := (name, method)
  slots := .word "api" :: .word "v1" :: slots

/-- A pattern under `/api/v1/tasks/<execution id>`. -/
def execution (name : RouteName) (method : RouteMethod) (suffix : List (Slot String RouteField)) :
    Row :=
  api name method (.word "tasks" :: .hole .executionId :: suffix)

/-- A pattern under `/api/v1/sessions/<session id>`. -/
def session (name : RouteName) (method : RouteMethod) (suffix : List (Slot String RouteField)) :
    Row :=
  api name method (.word "sessions" :: .hole .sessionId :: suffix)

/-- `_match_execution_plane_route` -/
def executionPlaneRows : List Row :=
  [ api .executionPlanePublish .post [.word "tasks"],
    execution .executionPlaneGet .get [],
    execution .executionPlaneCancel .post [.word "cancel"],
    execution .executionPlaneRetry .post [.word "retry"],
    execution .executionPlaneEvents .get [.word "events"],
    execution .executionPlaneResult .get [.word "result"],
    execution .executionPlaneError .get [.word "error"],
    execution .executionPlaneEvidence .get [.word "evidence"] ]

/-- The patterns that are tried before those of a workspace. -/
def rowsBefore : List Row :=
  [ ⟨(.root, .get), []⟩,
    api .health .get [.word "health"],
    api .settingsReadiness .get [.word "settings", .word "readiness"],
    api .settingsReadinessRecheck .post [.word "settings", .word "readiness", .word "recheck"],
    api .settingsRecoveryAction .post [.word "settings", .word "recovery-action"],
    api .settingsConfig .any [.word "settings", .word "config"],
    api .runtimeConfigPatch .patch [.word "runtime", .word "config"],
    api .runtimeConfigSchema .get [.word "runtime", .word "config", .word "schema"],
    api .runtimeConfigEffective .get [.word "runtime", .word "config", .word "effective"],
    api .runtimeConfigExplain .get [.word "runtime", .word "config", .word "explain"],
    api .runtimeConfigChanges .get [.word "runtime", .word "config", .word "changes"],
    api .runtimeConfigSnapshot .get
      [.word "runtime", .word "config", .word "snapshots", .hole .recordId],
    api .workspaces .get [.word "workspaces"] ] ++ executionPlaneRows

/-- The patterns that are tried after those of a workspace. -/
def rowsAfter : List Row :=
  [ api .usageTokenSummary .get [.word "usage", .word "token-summary"],
    api .workspaceInspectionStatus .get [.word "inspection", .word "status"],
    api .workspaceInspectionDiff .get [.word "inspection", .word "diff"],
    api .workspaceInspectionEvidence .post [.word "inspection", .word "evidence"],
    api .workspaceFileContent .get [.word "files", .word "content"],
    api .sessions .any [.word "sessions"],
    session .snapshot .get [.word "snapshot"],
    session .sessionActivity .get [.word "activity"],
    session .runtimeInputRoute .post [.word "runtime-input", .word "route"],
    session .auditSnapshot .get [.word "audit"],
    session .auditRecords .get [.word "audit", .word "records"],
    session .auditRecordDetail .get [.word "audit", .word "records", .hole .recordId],
    session .auditEvidenceDetail .get [.word "audit", .word "evidence", .hole .evidenceId],
    session .renameSession .patch [],
    session .deleteSession .post [.word "delete"],
    session .appendSessionInput .post [.word "input"],
    session .generateTaskTree .post [.word "task-tree", .word "generate"],
    session .publishTaskTree .post [.word "task-tree", .word "publish"],
    session .archivePlan .post [.word "plans", .hole .planId, .word "archive"],
    session .repairAuthoringState .post [.word "authoring", .word "repair"],
    session .answerAuthoringAskBatch .post
      [.word "authoring", .word "raw-tasks", .hole .rawTaskId, .word "asks", .word "answers"],
    session .dispatchExecution .post [.word "execution", .word "dispatch"],
    session .events .get [.word "events"],
    session .clientErrorLog .post [.word "client-logs", .word "errors"],
    session .diagnosticsExport .post [.word "diagnostics", .word "export"],
    session .updateTaskNode .patch [.word "tasks", .hole .taskNodeId],
    session .appendTaskInput .post [.word "tasks", .hole .taskNodeId, .word "input"],
    session .auditSnapshot .get [.word "tasks", .hole .taskNodeId, .word "audit"],
    session .auditRecords .get [.word "tasks", .hole .taskNodeId, .word "audit", .word "records"],
    session .retryTask .post [.word "tasks", .hole .taskNodeId, .word "retry"],
    session .stopTask .post [.word "tasks", .hole .taskNodeId, .word "stop"],
    session .resolveConfirmation .post
      [.word "confirmations", .hole .confirmationId, .word "respond"],
    session .asks .get [.word "asks"],
    session .askDetail .get [.word "asks", .hole .askId],
    session .answerAsk .post [.word "asks", .hole .askId, .word "answer"],
    session .deferAsk .post [.word "asks", .hole .askId, .word "defer"],
    session .cancelAsk .post [.word "asks", .hole .askId, .word "cancel"] ]

def rows : List Row := rowsBefore ++ rowsAfter

theorem rows_legible : Slot.Legible rows where
  nodup := by decide
  distinct := by decide +kernel

/-- `"/" + "/".join(parts)` -/
def pathOf (parts : List String) : String := "/" ++ "/".intercalate parts

/-- `_path_parts` -/
def partsOf (path : String) : List String := (pathParts path.toList).map String.ofList

def pathLength (parts : List String) : ℕ := (rejoin '/' (parts.map String.toList)).length

theorem toList_pathOf (h : parts ≠ []) :
    (pathOf parts).toList = rejoin '/' (parts.map String.toList) := by
  obtain ⟨p, ps, rfl⟩ := List.exists_cons_of_ne_nil h
  rw [pathOf, String.toList_append, String.toList_intercalate, List.map_cons, rejoin_eq]
  rfl

theorem map_toList_partsOf (path : String) :
    (partsOf path).map String.toList = pathParts path.toList := by
  rw [partsOf, List.map_map]
  exact (List.map_congr_left fun p _ => String.toList_ofList).trans (List.map_id _)

theorem pathLength_partsOf_le (path : String) : pathLength (partsOf path) ≤ path.length + 1 := by
  rw [pathLength, map_toList_partsOf]
  exact (length_rejoin_pathParts_le_succ _).trans_eq (congrArg (· + 1) String.length_toList)

theorem pathLength_cons (p : String) (ps : List String) :
    pathLength (p :: ps) = p.length + 1 + pathLength ps := by
  rw [pathLength, List.map_cons, length_rejoin_cons, String.length_toList]
  rfl

def UnderWorkspace (parts : List String) : Prop :=
  5 ≤ parts.length ∧ parts.take 3 = ["api", "v1", "workspaces"]

instance (parts : List String) : Decidable (UnderWorkspace parts) :=
  inferInstanceAs (Decidable (_ ∧ _))

theorem UnderWorkspace.exists_parts (h : UnderWorkspace parts) :
    ∃ w x rest, parts = "api" :: "v1" :: "workspaces" :: w :: x :: rest := by
  obtain ⟨hlen, hprefix⟩ := h
  rcases parts with - | ⟨a, - | ⟨b, - | ⟨c, - | ⟨w, - | ⟨x, rest⟩⟩⟩⟩⟩
  all_goals simp only [List.length_cons, List.length_nil] at hlen
  all_goals try omega
  simp only [List.take_succ_cons, List.take_zero, List.cons.injEq, and_true] at hprefix
  obtain ⟨rfl, rfl, rfl⟩ := hprefix
  exact ⟨w, x, rest, rfl⟩

theorem UnderWorkspace.pathLength_lt (h : UnderWorkspace parts) :
    pathLength (["api", "v1"] ++ parts.drop 4) + 1 < pathLength parts := by
  obtain ⟨w, x, rest, rfl⟩ := h.exists_parts
  have hworkspaces : "workspaces".length = 10 := rfl
  simp only [List.drop_succ_cons, List.drop_zero, List.cons_append, List.nil_append,
    pathLength_cons]
  omega

/-- `_match_route`, with `_match_workspace_route` -/
def matchRoute (path : String) : Option Route :=
  let parts := partsOf path
  ((Slot.find rowsBefore parts).map fun found => route found.1 found.2).or <|
    (if _h : UnderWorkspace parts then
      (matchRoute (pathOf (["api", "v1"] ++ parts.drop 4))).map
        (Route.inWorkspace (parts.getD 3 ""))
    else none).or <|
      (Slot.find rowsAfter parts).map fun found => route found.1 found.2
termination_by path.length
decreasing_by
  have hlt : pathLength (["api", "v1"] ++ (partsOf path).drop 4) + 1 < pathLength (partsOf path) :=
    _h.pathLength_lt
  have hle := pathLength_partsOf_le path
  rw [← String.length_toList, toList_pathOf (by simp)]
  exact Nat.lt_of_succ_lt_succ (hlt.trans_le hle)

/-! ### What a path is matched with -/

theorem find_workspace {w x : String} {rest : List String} :
    Slot.find rowsBefore ("api" :: "v1" :: "workspaces" :: w :: x :: rest) = none ∧
      Slot.find rowsAfter ("api" :: "v1" :: "workspaces" :: w :: x :: rest) = none := by
  constructor <;> simp [rowsBefore, rowsAfter, executionPlaneRows, api, execution,
    session, Slot.find, Slot.values]

theorem matchRoute_workspace {path w x : String} {rest : List String}
    (h : partsOf path = "api" :: "v1" :: "workspaces" :: w :: x :: rest) :
    matchRoute path =
      (matchRoute (pathOf ("api" :: "v1" :: x :: rest))).map (Route.inWorkspace w) := by
  have hunder : UnderWorkspace (partsOf path) := by
    rw [h]
    exact ⟨Nat.le_add_left _ _, rfl⟩
  rw [matchRoute, dif_pos hunder]
  simp only [h, find_workspace]
  simp

theorem matchRoute_rows {path : String} (h : ¬ UnderWorkspace (partsOf path)) :
    matchRoute path = (Slot.find rows (partsOf path)).map fun found => route found.1 found.2 := by
  rw [matchRoute, dif_neg h, rows, Slot.find_append, Option.map_or]
  rfl

theorem path_induction {P : String → Prop}
    (inRows : ∀ path, ¬ UnderWorkspace (partsOf path) → P path)
    (inWorkspace : ∀ path w x rest, partsOf path = "api" :: "v1" :: "workspaces" :: w :: x :: rest →
      P (pathOf ("api" :: "v1" :: x :: rest)) → P path) (path : String) : P path := by
  induction hn : path.length using Nat.strong_induction_on generalizing path with
  | _ n ih =>
    by_cases hunder : UnderWorkspace (partsOf path)
    · obtain ⟨w, x, rest, hparts⟩ := hunder.exists_parts
      refine inWorkspace path w x rest hparts (ih _ ?_ _ rfl)
      have hlt := hunder.pathLength_lt
      have hle := pathLength_partsOf_le path
      rw [hparts] at hlt hle
      rw [← hn, ← String.length_toList, toList_pathOf (List.cons_ne_nil _ _)]
      exact Nat.lt_of_succ_lt_succ (hlt.trans_le hle)
    · exact inRows path hunder

/-- Parts that have the shape of a route, with prefixes in front or without. -/
inductive Routable : List String → Prop
  | row {parts : List String} (row : Row) : row ∈ rows → Slot.Fits row.slots parts → Routable parts
  | workspace {w x : String} {rest : List String} :
      Routable (partsOf (pathOf ("api" :: "v1" :: x :: rest))) →
        Routable ("api" :: "v1" :: "workspaces" :: w :: x :: rest)

theorem not_underWorkspace_of_fits {row : Row} (hrow : row ∈ rows)
    (hfits : Slot.Fits row.slots parts) : ¬ UnderWorkspace parts := by
  intro hunder
  obtain ⟨w, x, rest, rfl⟩ := hunder.exists_parts
  have hfind := Slot.isSome_find_iff.mpr ⟨row, hrow, hfits⟩
  rw [rows, Slot.find_append, find_workspace.1, find_workspace.2] at hfind
  cases hfind

theorem isSome_matchRoute_iff (path : String) :
    (matchRoute path).isSome ↔ Routable (partsOf path) := by
  induction path using path_induction with
  | inRows path hunder =>
    rw [matchRoute_rows hunder, Option.isSome_map, Slot.isSome_find_iff]
    refine ⟨fun ⟨row, hrow, hfits⟩ => .row row hrow hfits, fun h => ?_⟩
    generalize partsOf path = parts at hunder h
    cases h with
    | row row hrow hfits => exact ⟨row, hrow, hfits⟩
    | workspace h => exact absurd ⟨Nat.le_add_left _ _, rfl⟩ hunder
  | inWorkspace path w x rest hparts ih =>
    rw [matchRoute_workspace hparts, Option.isSome_map, ih, hparts]
    refine ⟨.workspace, fun h => ?_⟩
    cases h with
    | row row hrow hfits =>
      exact absurd ⟨Nat.le_add_left _ _, rfl⟩ (not_underWorkspace_of_fits hrow hfits)
    | workspace h => exact h

theorem ne_empty_of_mem_partsOf {path p : String} (h : p ∈ partsOf path) : p ≠ "" := by
  obtain ⟨q, hq, rfl⟩ := List.mem_map.mp h
  exact fun hempty => ne_nil_of_mem_pathParts hq (String.ofList_injective hempty)

theorem pathLength_partsOf_pathOf_le (h : parts ≠ []) :
    pathLength (partsOf (pathOf parts)) ≤ pathLength parts := by
  rw [pathLength, map_toList_partsOf, toList_pathOf h]
  exact length_rejoin_pathParts_le _

theorem exists_found (path : String) : ∀ {r : Route}, matchRoute path = some r →
    ∃ parts key value ws, Slot.find rows parts = some (key, value) ∧
      r = (route key value).inWorkspace ws ∧ (∀ p ∈ parts, p ≠ "") ∧
      (parts = partsOf path ∨ pathLength parts < pathLength (partsOf path)) := by
  induction path using path_induction with
  | inRows path hunder =>
    intro r h
    rw [matchRoute_rows hunder, Option.map_eq_some_iff] at h
    obtain ⟨found, hfind, rfl⟩ := h
    exact ⟨_, found.1, found.2, "", hfind, rfl, fun p hp => ne_empty_of_mem_partsOf hp, Or.inl rfl⟩
  | inWorkspace path w x rest hparts ih =>
    intro r h
    rw [matchRoute_workspace hparts, Option.map_eq_some_iff] at h
    obtain ⟨active, hactive, rfl⟩ := h
    obtain ⟨parts, key, value, ws, hfind, rfl, hne, hle⟩ := ih hactive
    refine ⟨parts, key, value, w, hfind, rfl, hne, Or.inr ?_⟩
    have hinner := pathLength_partsOf_pathOf_le (List.cons_ne_nil "api" ("v1" :: x :: rest))
    have hworkspaces : "workspaces".length = 10 := rfl
    rw [hparts]
    obtain rfl | hlt := hle
    all_goals simp only [pathLength_cons] at *; omega

theorem getD_empty_injective {a b : Option String} (ha : a ≠ some "") (hb : b ≠ some "")
    (h : a.getD "" = b.getD "") : a = b := by
  cases a with
  | none =>
    cases b with
    | none => rfl
    | some b => exact absurd (congrArg some h.symm) hb
  | some a =>
    cases b with
    | none => exact absurd (congrArg some h) ha
    | some b => exact congrArg some h

theorem route_injective {key key' : RouteName × RouteMethod}
    {value value' : RouteField → Option String} {w : String}
    (hvalue : ∀ f, value f ≠ some "") (hvalue' : ∀ f, value' f ≠ some "")
    (h : (route key value).inWorkspace w = (route key' value').inWorkspace w) :
    key = key' ∧ value = value' := by
  refine ⟨Prod.ext (congrArg Route.name h) (congrArg Route.method h), funext fun f => ?_⟩
  refine getD_empty_injective (hvalue f) (hvalue' f) ?_
  cases f
  exacts [congrArg Route.sessionId h, congrArg Route.rawTaskId h, congrArg Route.taskNodeId h,
    congrArg Route.confirmationId h, congrArg Route.askId h, congrArg Route.planId h,
    congrArg Route.recordId h, congrArg Route.evidenceId h, congrArg Route.executionId h]

/-! ### A path with the prefix of a workspace and without -/

/-- A part of a path as it is sent: it has a character, and none that a path reserves. -/
structure EncodedPart where
  raw : String
  raw_ne : raw ≠ ""
  unreserved : ∀ c ∈ raw.toList, c ∉ pathReserved

def EncodedPart.text (part : EncodedPart) : String := String.ofList (unquote part.raw.toList)

theorem partsOf_pathOf {raws : List String} (hraws : raws ≠ [])
    (h : ∀ raw ∈ raws, raw ≠ "" ∧ ∀ c ∈ raw.toList, c ∉ pathReserved) :
    partsOf (pathOf raws) = raws.map fun raw => String.ofList (unquote raw.toList) := by
  rw [partsOf, toList_pathOf hraws, pathParts_rejoin, List.map_map, List.map_map]
  · rfl
  · intro p hp
    obtain ⟨raw, hraw, rfl⟩ := List.mem_map.mp hp
    exact ⟨fun hnil => (h raw hraw).1 (String.toList_eq_nil_iff.mp hnil), (h raw hraw).2⟩

theorem partsOf_words {words : List String} (hwords : words ≠ [])
    (h : ∀ word ∈ words, word ≠ "" ∧ PlainPart word.toList) (segments : List EncodedPart) :
    partsOf (pathOf (words ++ segments.map EncodedPart.raw)) =
      words ++ segments.map EncodedPart.text := by
  rw [partsOf_pathOf (List.append_ne_nil_of_left_ne_nil hwords _), List.map_append, List.map_map]
  · refine congrArg (· ++ _) ((List.map_congr_left fun word hword => ?_).trans (List.map_id _))
    rw [(h word hword).2.unquoted, String.ofList_toList, id]
  · intro raw hraw
    obtain hraw | hraw := List.mem_append.mp hraw
    · exact ⟨(h raw hraw).1, (h raw hraw).2.unreserved⟩
    · obtain ⟨segment, -, rfl⟩ := List.mem_map.mp hraw
      exact ⟨segment.raw_ne, segment.unreserved⟩

theorem EncodedPart.text_ne (part : EncodedPart) : part.text ≠ "" := fun h =>
  unquote_ne_nil (fun hnil => part.raw_ne (String.toList_eq_nil_iff.mp hnil))
    (String.ofList_injective h)

theorem partsOf_pathOf_of_plain (hparts : parts ≠ []) (h : ∀ p ∈ parts, p ≠ "" ∧ PlainPart p.toList)
    : partsOf (pathOf parts) = parts := by
  have hwords := partsOf_words hparts h []
  rwa [List.map_nil, List.append_nil, List.map_nil, List.append_nil] at hwords

theorem plainPart_of_partsOf_pathOf (hparts : parts ≠ []) (h : partsOf (pathOf parts) = parts) :
    ∀ p ∈ parts, PlainPart p.toList := by
  have hlists := congrArg (List.map String.toList) h
  rw [map_toList_partsOf, toList_pathOf hparts] at hlists
  exact fun p hp => plainPart_of_pathParts_eq hlists p.toList (List.mem_map_of_mem hp)

theorem plain_words : ∀ word ∈ ["api", "v1", "workspaces"], word ≠ "" ∧ PlainPart word.toList := by
  decide

theorem find_words (h : parts = ["api", "v1"] ∨ ∃ w, parts = ["api", "v1", "workspaces", w]) :
    ¬ UnderWorkspace parts ∧ Slot.find rows parts = none := by
  obtain rfl | ⟨w, rfl⟩ := h
  · exact ⟨fun h => absurd h.1 (by decide), by
      simp [rows, rowsBefore, rowsAfter, executionPlaneRows, api, execution, session, Slot.find,
        Slot.values]⟩
  · exact ⟨fun h => absurd h.1 (by simp), by
      simp [rows, rowsBefore, rowsAfter, executionPlaneRows, api, execution, session, Slot.find,
        Slot.values]⟩

/-- The parts of a path are matched as those that are read again, exactly if these are the same, or
neither have the shape of a route. -/
theorem matchRoute_pathOf_iff (hne : parts ≠ []) (hparts : ∀ p ∈ parts, p ≠ "")
    (hunder : ¬ UnderWorkspace parts) (w : String) :
    (matchRoute (pathOf parts)).map (Route.inWorkspace w) =
        ((Slot.find rows parts).map fun found => route found.1 found.2).map (Route.inWorkspace w) ↔
      partsOf (pathOf parts) = parts ∨
        ¬ Routable parts ∧ ¬ Routable (partsOf (pathOf parts)) := by
  have hroutable : Routable parts ↔ (Slot.find rows parts).isSome := by
    rw [Slot.isSome_find_iff]
    refine ⟨fun h => ?_, fun ⟨row, hrow, hfits⟩ => .row row hrow hfits⟩
    cases h with
    | row row hrow hfits => exact ⟨row, hrow, hfits⟩
    | workspace h => exact absurd ⟨Nat.le_add_left _ _, rfl⟩ hunder
  constructor
  · intro heq
    cases hfind : Slot.find rows parts with
    | none =>
      refine Or.inr ⟨fun h => ?_, fun h => ?_⟩
      · rw [hroutable, hfind] at h
        cases h
      · rw [hfind] at heq
        rw [← isSome_matchRoute_iff, Option.map_eq_none_iff.mp heq] at h
        cases h
    | some found =>
      obtain ⟨key, value⟩ := found
      rw [hfind, Option.map_some, Option.map_some, Option.map_eq_some_iff] at heq
      obtain ⟨active, hactive, hroute⟩ := heq
      obtain ⟨parts', key', value', ws, hfind', rfl, hne', hle⟩ := exists_found _ hactive
      have hfull : ∀ f, value f ≠ some "" := fun f hf => hparts "" (Slot.mem_of_find hfind hf) rfl
      have hfull' : ∀ f, value' f ≠ some "" := fun f hf => hne' "" (Slot.mem_of_find hfind' hf) rfl
      obtain ⟨rfl, rfl⟩ := route_injective hfull' hfull hroute
      obtain rfl : parts' = parts := rows_legible.find_injective hfind' hfind
      -- a shorter path has other parts
      exact Or.inl (hle.resolve_right
        (Nat.not_lt.mpr (pathLength_partsOf_pathOf_le hne))).symm
  · rintro (hsame | ⟨hnot, hnot'⟩)
    · rw [matchRoute_rows (hsame.symm ▸ hunder), hsame]
    · rw [hroutable, Bool.not_eq_true, Option.isSome_eq_false_iff,
        Option.isNone_iff_eq_none] at hnot
      rw [← isSome_matchRoute_iff, Bool.not_eq_true, Option.isSome_eq_false_iff,
        Option.isNone_iff_eq_none] at hnot'
      rw [hnot, hnot']
      rfl

/-- **The prefix of a workspace changes nothing exactly if the segments are plain**, or neither they
nor what is read of them the second time have the shape of a route. -/
theorem matchRoute_workspace_iff (workspace : EncodedPart) (segments : List EncodedPart)
    (hfirst : segments.head?.map EncodedPart.text ≠ some "workspaces") :
    matchRoute (pathOf (["api", "v1", "workspaces", workspace.raw] ++
          segments.map EncodedPart.raw)) =
        (matchRoute (pathOf (["api", "v1"] ++ segments.map EncodedPart.raw))).map
          (Route.inWorkspace workspace.text) ↔
      (∀ segment ∈ segments, PlainPart segment.text.toList) ∨
        ¬ Routable (["api", "v1"] ++ segments.map EncodedPart.text) ∧
          ¬ Routable (partsOf (pathOf (["api", "v1"] ++ segments.map EncodedPart.text))) := by
  have hprefixed : partsOf (pathOf (["api", "v1", "workspaces", workspace.raw] ++
      segments.map EncodedPart.raw)) =
      ["api", "v1", "workspaces", workspace.text] ++ segments.map EncodedPart.text :=
    partsOf_words (by decide) plain_words (workspace :: segments)
  have hdirect : partsOf (pathOf (["api", "v1"] ++ segments.map EncodedPart.raw)) =
      ["api", "v1"] ++ segments.map EncodedPart.text :=
    partsOf_words (by decide) (fun word hword => plain_words word (List.mem_append_left _ hword))
      segments
  have hne : ["api", "v1"] ++ segments.map EncodedPart.text ≠ [] := List.cons_ne_nil _ _
  have hplain : (∀ segment ∈ segments, PlainPart segment.text.toList) ↔
      partsOf (pathOf (["api", "v1"] ++ segments.map EncodedPart.text)) =
        ["api", "v1"] ++ segments.map EncodedPart.text := by
    refine ⟨fun h => partsOf_pathOf_of_plain hne fun p hp => ?_, fun h segment hsegment => ?_⟩
    · obtain hp | hp := List.mem_append.mp hp
      · exact plain_words p (List.mem_append_left _ hp)
      · obtain ⟨segment, hsegment, rfl⟩ := List.mem_map.mp hp
        exact ⟨segment.text_ne, h segment hsegment⟩
    · exact plainPart_of_partsOf_pathOf hne h _
        (List.mem_append_right _ (List.mem_map_of_mem hsegment))
  rw [hplain]
  cases segments with
  | nil =>
    -- there is nothing after the workspace, and no route for it
    obtain ⟨hunder, hfind⟩ := find_words (Or.inr ⟨workspace.text, rfl⟩)
    obtain ⟨hunder', hfind'⟩ := find_words (Or.inl rfl)
    refine iff_of_true ?_ (Or.inl (hplain.mp fun segment h => absurd h List.not_mem_nil))
    have hrows := (matchRoute_rows (hprefixed.symm ▸ hunder)).trans
      (congrArg _ ((congrArg _ hprefixed).trans hfind))
    have hrows' := (matchRoute_rows (hdirect.symm ▸ hunder')).trans
      (congrArg _ ((congrArg _ hdirect).trans hfind'))
    rw [hrows, hrows']
    rfl
  | cons segment rest =>
    have hunder : ¬ UnderWorkspace (["api", "v1"] ++ (segment :: rest).map EncodedPart.text) := by
      intro hunder
      have hsegment : segment.text = "workspaces" := by simpa using hunder.2
      exact hfirst (by rw [List.head?_cons, Option.map_some, hsegment])
    have hrows := matchRoute_rows (hdirect.symm ▸ hunder)
    rw [matchRoute_workspace hprefixed, hrows, hdirect]
    exact matchRoute_pathOf_iff hne (fun p hp => ne_empty_of_mem_partsOf (hdirect ▸ hp)) hunder _

/-- A part of letters and escapes. -/
def encodedPart (raw : String) (h : raw ≠ "" ∧ raw.toList.all fun c => c.isAlphanum || c = '%') :
    EncodedPart where
  raw := raw
  raw_ne := h.1
  unreserved c hc hreserved := by
    have hchar := List.all_eq_true.mp h.2 c hc
    have hnone : pathReserved.all (fun c => !(c.isAlphanum || c = '%')) = true := by decide
    have hnot := List.all_eq_true.mp hnone c hreserved
    rw [hchar] at hnot
    cases hnot

/-- The blank in the id of a task is escaped. -/
theorem matchRoute_workspace_iff_task :
    let workspace := encodedPart "w" (by decide)
    let segments := [encodedPart "sessions" (by decide), encodedPart "s" (by decide),
      encodedPart "tasks" (by decide), encodedPart "a%20b" (by decide)]
    matchRoute (pathOf (["api", "v1", "workspaces", workspace.raw] ++
        segments.map EncodedPart.raw)) =
      (matchRoute (pathOf (["api", "v1"] ++ segments.map EncodedPart.raw))).map
        (Route.inWorkspace workspace.text) :=
  (matchRoute_workspace_iff _ _ (by decide)).mpr (Or.inl (by decide))

/-- The snapshot of the session `a/b` is not found under the prefix of a workspace. -/
theorem matchRoute_slash_lost :
    ¬ ∀ (workspace : EncodedPart) (segments : List EncodedPart),
      segments.head?.map EncodedPart.text ≠ some "workspaces" →
        matchRoute (pathOf (["api", "v1", "workspaces", workspace.raw] ++
            segments.map EncodedPart.raw)) =
          (matchRoute (pathOf (["api", "v1"] ++ segments.map EncodedPart.raw))).map
            (Route.inWorkspace workspace.text) := by
  intro h
  have heq := h (encodedPart "w" (by decide))
    [encodedPart "sessions" (by decide), encodedPart "a%2Fb" (by decide),
      encodedPart "snapshot" (by decide)] (by decide)
  have hagain : partsOf (pathOf ["api", "v1", "sessions", "a/b", "snapshot"]) =
      ["api", "v1", "sessions", "a", "b", "snapshot"] := by decide
  have hlost : matchRoute (pathOf ["api", "v1", "sessions", "a/b", "snapshot"]) = none := by
    rw [matchRoute_rows (by rw [hagain]; decide), hagain]
    decide
  have hparts : partsOf (pathOf ["api", "v1", "workspaces", "w", "sessions", "a%2Fb", "snapshot"]) =
      ["api", "v1", "workspaces", "w", "sessions", "a/b", "snapshot"] := by decide
  have hprefixed : matchRoute (pathOf ["api", "v1", "workspaces", "w", "sessions", "a%2Fb",
      "snapshot"]) = none := by
    rw [matchRoute_workspace hparts, hlost]
    rfl
  have hdirect : partsOf (pathOf ["api", "v1", "sessions", "a%2Fb", "snapshot"]) =
      ["api", "v1", "sessions", "a/b", "snapshot"] := by decide
  have hfound : (matchRoute (pathOf ["api", "v1", "sessions", "a%2Fb", "snapshot"])).isSome := by
    rw [matchRoute_rows (by rw [hdirect]; decide), hdirect]
    decide
  have hnone := Option.map_eq_none_iff.mp (heq.symm.trans hprefixed)
  rw [show matchRoute (pathOf ["api", "v1", "sessions", "a%2Fb", "snapshot"]) = none from hnone]
    at hfound
  cases hfound

end UiRoutes

end Taskweavn
