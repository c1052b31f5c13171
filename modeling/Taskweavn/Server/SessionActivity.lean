import Taskweavn.Lib.Dict
import Taskweavn.Lib.OffsetPages
import Taskweavn.Lib.Sort
import Taskweavn.Py.DateTime
import Taskweavn.Py.Text

/-!
# The activity of a session, page by page

`DefaultSessionActivityProjectionService.project` makes one list of what has happened in a session,
newest first, and cuts a page out of it
(`taskweavn/server/ui_contract/session_activity_projection.py`).  The list is made anew for each
request, and the cursor is an offset into it.

An item of a plan or a task has no stored time: it occurs when it is made.  `str.lower` and
`int(text)`, where `none` is a `ValueError`, are parameters.

`reading_skips_nothing` is about a reading from the first page to the last one, with whatever
changes between its requests.
-/

namespace Taskweavn.SessionActivity

open Lib Py

/-! ### What the items are made of -/

inductive MessageKind
  | informational
  | actionable
  | response
  | error
deriving DecidableEq

inductive PlanUiStatus
  | draft
  | reviewing
  | readyToPublish
  | published
  | running
  | finalizing
  | readyForReview
  | accepted
  | followUpNeeded
  | failed
  | cancelled
  | unknown
deriving DecidableEq

def PlanUiStatus.value : PlanUiStatus → String
  | .draft => "draft"
  | .reviewing => "reviewing"
  | .readyToPublish => "ready_to_publish"
  | .published => "published"
  | .running => "running"
  | .finalizing => "finalizing"
  | .readyForReview => "ready_for_review"
  | .accepted => "accepted"
  | .followUpNeeded => "follow_up_needed"
  | .failed => "failed"
  | .cancelled => "cancelled"
  | .unknown => "unknown"

inductive TaskNodeStatus
  | draft
  | queued
  | running
  | waitingUser
  | done
  | failed
  | cancelled
deriving DecidableEq

def TaskNodeStatus.value : TaskNodeStatus → String
  | .draft => "draft"
  | .queued => "queued"
  | .running => "running"
  | .waitingUser => "waiting_user"
  | .done => "done"
  | .failed => "failed"
  | .cancelled => "cancelled"

inductive ExecutionStatus
  | notStarted
  | pending
  | running
  | waitingForUser
  | done
  | failed
  | cancelled
  | unknown
deriving DecidableEq

def ExecutionStatus.value : ExecutionStatus → String
  | .notStarted => "not_started"
  | .pending => "pending"
  | .running => "running"
  | .waitingForUser => "waiting_for_user"
  | .done => "done"
  | .failed => "failed"
  | .cancelled => "cancelled"
  | .unknown => "unknown"

inductive AskRequestStatus
  | pending
  | answered
  | deferred
  | cancelled
  | expired
deriving DecidableEq

def AskRequestStatus.value : AskRequestStatus → String
  | .pending => "pending"
  | .answered => "answered"
  | .deferred => "deferred"
  | .cancelled => "cancelled"
  | .expired => "expired"

inductive ConfirmationUiStatus
  | pending
  | resolved
  | expired
deriving DecidableEq

def ConfirmationUiStatus.value : ConfirmationUiStatus → String
  | .pending => "pending"
  | .resolved => "resolved"
  | .expired => "expired"

inductive RefKind
  | session
  | plan
  | task
  | ask
  | confirmation
  | message
  | result
  | file
  | audit
  | diagnostic
deriving DecidableEq

inductive ObjectRefKind
  | message
  | plan
  | draftTask
  | publishedTask
  | ask
deriving DecidableEq

/-- A `SessionActivityRefView`. -/
structure RefView where
  kind : RefKind
  id : String
  label : String
  href : Option String := none
  objectRef : Option (ObjectRefKind × String) := none
deriving DecidableEq

structure SessionMessageView where
  id : String
  sessionId : String
  taskNodeId : Option String := none
  kind : MessageKind
  title : String
  body : String
  createdAt : DateTime
  relatedCommandId : Option String := none
  activityRelatedRefs : List RefView := []
deriving DecidableEq

/-- A card of a task.  Its `taskRef` tells a draft from a published task. -/
structure TaskNodeCardView where
  id : String
  planId : Option String := none
  taskRef : Option (ObjectRefKind × String) := none
  title : String
  summary : String
  status : TaskNodeStatus
  execution : ExecutionStatus := .unknown
  displayIndex : ℕ := 1
  version : ℕ := 1
deriving DecidableEq

structure PlanView where
  id : String
  sessionId : String
  title : String
  summary : String
  status : PlanUiStatus := .unknown
  taskCount : ℕ := 0
  taskNodes : List TaskNodeCardView := []
  version : ℕ := 1
deriving DecidableEq

structure AskRequestView where
  id : String
  sessionId : String
  taskNodeId : Option String := none
  question : String
  status : AskRequestStatus
  createdAt : DateTime
deriving DecidableEq

structure ConfirmationActionView where
  id : String
  sessionId : String
  taskNodeId : String
  title : String
  body : String
  status : ConfirmationUiStatus := .pending
  createdAt : DateTime
deriving DecidableEq

structure ResultCardView where
  id : String
  sessionId : String
  taskNodeId : Option String := none
  title : String
  summary : String
  updatedAt : DateTime
deriving DecidableEq

structure FileChangeSummaryView where
  sessionId : String
  taskNodeId : Option String := none
  changedFiles : List String := []
  summary : String
  updatedAt : DateTime
deriving DecidableEq

/-! ### Items -/

inductive ItemKind
  | userInput
  | answer
  | guidanceRecorded
  | planUpdated
  | taskCreated
  | taskChanged
  | taskRemoved
  | askAsked
  | askAnswered
  | confirmationRequested
  | confirmationResolved
  | executionUpdate
  | resultReady
  | fileSummary
  | recoveryNote
  | routerInterpretation
deriving DecidableEq

def ItemKind.value : ItemKind → String
  | .userInput => "user_input"
  | .answer => "answer"
  | .guidanceRecorded => "guidance_recorded"
  | .planUpdated => "plan_updated"
  | .taskCreated => "task_created"
  | .taskChanged => "task_changed"
  | .taskRemoved => "task_removed"
  | .askAsked => "ask_asked"
  | .askAnswered => "ask_answered"
  | .confirmationRequested => "confirmation_requested"
  | .confirmationResolved => "confirmation_resolved"
  | .executionUpdate => "execution_update"
  | .resultReady => "result_ready"
  | .fileSummary => "file_summary"
  | .recoveryNote => "recovery_note"
  | .routerInterpretation => "router_interpretation"

inductive ScopeKind
  | session
  | plan
  | task
deriving DecidableEq

inductive SideEffect
  | noEffect
  | contextEffect
  | stateEffect
  | authorizationEffect
  | resumeEffect
  | evidenceEffect
deriving DecidableEq

inductive SourceKind
  | messageStream
  | planProjection
  | taskProjection
  | askProjection
  | confirmationProjection
  | resultProjection
  | fileProjection
  | router
deriving DecidableEq

/-- A `SessionActivityItemView`, by what stands for its time. -/
structure ItemView (τ : Type) where
  id : String
  sessionId : String
  kind : ItemKind
  title : String
  body : String
  occurredAt : τ
  scopeKind : ScopeKind
  planId : Option String := none
  taskNodeId : Option String := none
  sideEffect : SideEffect
  relatedRefs : List RefView
  sourceKind : SourceKind
  sourceId : String
deriving DecidableEq

/-- A stored time, or that of a reading of the clock: the number counts the readings that the
projection has made before. -/
inductive Moment
  | stored (time : DateTime)
  | reading (number : ℕ)
deriving DecidableEq

/-- What the clock shows at the readings of one request. -/
abbrev Clock := ℕ → DateTime

def Moment.at (now : Clock) : Moment → DateTime
  | .stored time => time
  | .reading number => now number

def ItemView.at (now : Clock) (item : ItemView Moment) : ItemView DateTime :=
  { item with occurredAt := item.occurredAt.at now }

-- `lower` is `str.lower`.
variable (lower : String → String)

def runtimeInputActivityKind (message : SessionMessageView) : Option ItemKind :=
  let title := lower message.title
  if title = "guidance recorded" then some .guidanceRecorded
  else if title = "ask answered" then some .askAnswered
  else if title = "confirmation resolved" then some .confirmationResolved
  else if title ∈ ["task created", "execution work created"] then some .taskCreated
  else if title = "task changed" then some .taskChanged
  else if title = "task removed" then some .taskRemoved
  else if title = "user input" then some .userInput
  else if title ∈ ["router interpretation", "runtime input routed",
      "runtime input needs clarification", "runtime input unsupported",
      "runtime command routed"] then some .routerInterpretation
  else none

def readOnlyInquiryActivityTitle : String := "Read-only question answered"

def messageActivityKind (message : SessionMessageView) : ItemKind :=
  match runtimeInputActivityKind lower message with
  | some kind => kind
  | none =>
    if message.title = readOnlyInquiryActivityTitle then .answer
    else if message.kind = .response then .answer
    else if message.kind = .actionable then .confirmationRequested
    else if message.kind = .error then .recoveryNote
    else if "user".toList.isPrefixOf (lower message.title).toList then .userInput
    else .executionUpdate

def messageSideEffect (kind : ItemKind) : SideEffect :=
  if kind = .userInput then .contextEffect
  else if kind = .guidanceRecorded then .contextEffect
  else if kind ∈ [.askAnswered, .confirmationResolved] then .resumeEffect
  else if kind = .confirmationRequested then .authorizationEffect
  else if kind = .recoveryNote then .stateEffect
  else if kind ∈ [.answer, .routerInterpretation] then .noEffect
  else .stateEffect

/-- `value or default`, where the value may be missing. -/
def orElse (value : Option String) (default : String) : String :=
  if value.getD "" = "" then default else value.getD ""

/-- The id of the item of a message, the kind and the id of its source. -/
def messageSource (message : SessionMessageView) : String × SourceKind × String :=
  let sourceId := orElse message.relatedCommandId message.id
  match runtimeInputActivityKind lower message with
  | some kind => ("activity:runtime-input:" ++ (sourceId ++ ":" ++ kind.value), .router, sourceId)
  | none =>
    if message.title = readOnlyInquiryActivityTitle then
      ("activity:inquiry:" ++ sourceId, .router, sourceId)
    else ("activity:message:" ++ message.id, .messageStream, message.id)

/-- The scope of an item that may be about a task. -/
def scopeOf (taskNodeId : Option String) : ScopeKind :=
  if taskNodeId.isSome then .task else .session

def messageItem (message : SessionMessageView) : ItemView Moment :=
  let kind := messageActivityKind lower message
  let source := messageSource lower message
  { id := source.1
    sessionId := message.sessionId
    kind := kind
    title := message.title
    body := message.body
    occurredAt := .stored message.createdAt
    scopeKind := scopeOf message.taskNodeId
    taskNodeId := message.taskNodeId
    sideEffect := messageSideEffect kind
    relatedRefs :=
      if message.activityRelatedRefs ≠ [] then message.activityRelatedRefs
      else [⟨.message, message.id, message.title, none, some (.message, message.id)⟩]
    sourceKind := source.2.1
    sourceId := source.2.2 }

def planItem (number : ℕ) (plan : PlanView) : ItemView Moment where
  id := "activity:plan:" ++
    (plan.id ++ ":" ++ plan.status.value ++ ":" ++ toString plan.version)
  sessionId := plan.sessionId
  kind := .planUpdated
  title := "Plan updated"
  body := plan.title ++ ": " ++ plan.summary
  occurredAt := .reading number
  scopeKind := .plan
  planId := some plan.id
  sideEffect := .stateEffect
  relatedRefs := [⟨.plan, plan.id, plan.title, none, some (.plan, plan.id)⟩]
  sourceKind := .planProjection
  sourceId := plan.id

def archivedPlanBody (plan : PlanView) : String :=
  "\n".intercalate (["**" ++ plan.title ++ "**", "", plan.summary, "",
    toString plan.taskCount ++ " task" ++ (if plan.taskCount ≠ 1 then "s" else "") ++
      " moved to Session history."] ++
    if plan.taskNodes = [] then []
    else ["", "Tasks:"] ++ plan.taskNodes.map fun node =>
      "- Task " ++ toString node.displayIndex ++ ": " ++ node.title ++ " (" ++
        node.status.value ++ ")")

def archivedPlanItem (number : ℕ) (plan : PlanView) : ItemView Moment where
  id := "activity:archived-plan:" ++ (plan.id ++ ":" ++ toString plan.version)
  sessionId := plan.sessionId
  kind := .planUpdated
  title := "Plan archived"
  body := archivedPlanBody plan
  occurredAt := .reading number
  scopeKind := .plan
  planId := some plan.id
  sideEffect := .stateEffect
  relatedRefs := []
  sourceKind := .planProjection
  sourceId := plan.id

def taskActivityKind (node : TaskNodeCardView) : ItemKind :=
  if node.status ∈ [.draft, .queued] then .taskCreated
  else if node.status ∈ [.failed, .cancelled] then .recoveryNote
  else .executionUpdate

def taskActivityTitle (node : TaskNodeCardView) (kind : ItemKind) : String :=
  "Task " ++ toString node.displayIndex ++
    if kind = .taskCreated then " created"
    else if kind = .recoveryNote then " needs attention"
    else " updated"

def taskItem (sessionId : String) (number : ℕ) (node : TaskNodeCardView) : ItemView Moment where
  id := "activity:task:" ++ (node.id ++ ":" ++ node.status.value ++ ":" ++ node.execution.value ++
    ":" ++ toString node.version)
  sessionId := sessionId
  kind := taskActivityKind node
  title := taskActivityTitle node (taskActivityKind node)
  body := node.summary
  occurredAt := .reading number
  scopeKind := .task
  planId := node.planId
  taskNodeId := some node.id
  sideEffect := .stateEffect
  relatedRefs := [⟨.task, node.id, node.title, none, node.taskRef⟩]
  sourceKind := .taskProjection
  sourceId := node.id

def askItem (ask : AskRequestView) : ItemView Moment where
  id := "activity:ask:" ++ (ask.id ++ ":" ++ ask.status.value)
  sessionId := ask.sessionId
  kind := .askAsked
  title := "ASK requested"
  body := ask.question
  occurredAt := .stored ask.createdAt
  scopeKind := scopeOf ask.taskNodeId
  taskNodeId := ask.taskNodeId
  sideEffect := .resumeEffect
  relatedRefs := [⟨.ask, ask.id, "ASK", none, some (.ask, ask.id)⟩]
  sourceKind := .askProjection
  sourceId := ask.id

def confirmationItem (confirmation : ConfirmationActionView) : ItemView Moment where
  id := "activity:confirmation:" ++ (confirmation.id ++ ":" ++ confirmation.status.value)
  sessionId := confirmation.sessionId
  kind := .confirmationRequested
  title := confirmation.title
  body := confirmation.body
  occurredAt := .stored confirmation.createdAt
  scopeKind := .task
  taskNodeId := some confirmation.taskNodeId
  sideEffect := .authorizationEffect
  relatedRefs := [⟨.confirmation, confirmation.id, "Confirmation", none, none⟩]
  sourceKind := .confirmationProjection
  sourceId := confirmation.id

def resultItem (result : ResultCardView) : ItemView Moment where
  id := "activity:result:" ++ result.id
  sessionId := result.sessionId
  kind := .resultReady
  title := result.title
  body := result.summary
  occurredAt := .stored result.updatedAt
  scopeKind := scopeOf result.taskNodeId
  taskNodeId := result.taskNodeId
  sideEffect := .evidenceEffect
  relatedRefs := [⟨.result, result.id, result.title, none, none⟩]
  sourceKind := .resultProjection
  sourceId := result.id

def fileSummaryItem (summary : FileChangeSummaryView) : ItemView Moment where
  id := "activity:file-summary:" ++
    (summary.sessionId ++ ":" ++ orElse summary.taskNodeId "session")
  sessionId := summary.sessionId
  kind := .fileSummary
  title := "File changes ready"
  body := summary.summary
  occurredAt := .stored summary.updatedAt
  scopeKind := scopeOf summary.taskNodeId
  taskNodeId := summary.taskNodeId
  sideEffect := .evidenceEffect
  relatedRefs := (summary.changedFiles.take 10).map fun path => ⟨.file, path, path, none, none⟩
  sourceKind := .fileProjection
  sourceId := orElse summary.taskNodeId summary.sessionId

/-! ### One page -/

/-- What an activity is made of, the messages apart. -/
structure Projections where
  activePlan : Option PlanView := none
  archivedPlans : List PlanView := []
  taskTree : Option (List TaskNodeCardView) := none
  pendingAsks : List AskRequestView := []
  activeAsk : Option AskRequestView := none
  confirmations : List ConfirmationActionView := []
  result : Option ResultCardView := none
  fileChangeSummary : Option FileChangeSummaryView := none

structure ActivityFacts extends Projections where
  messages : List SessionMessageView := []

/-- The items of the active plan and its tasks, or else those of the tasks of the tree. -/
def planItems (sessionId : String) (facts : Projections) : List (ItemView Moment) :=
  match facts.activePlan, facts.taskTree with
  | some plan, _ => planItem 0 plan ::
      (plan.taskNodes.zipIdx 1).map fun node => taskItem sessionId node.2 node.1
  | none, some nodes => nodes.zipIdx.map fun node => taskItem sessionId node.2 node.1
  | none, none => []

def askItems (facts : Projections) : List (ItemView Moment) :=
  let byId := Dict.ofList (facts.pendingAsks.map fun ask => (ask.id, ask))
  let byId := match facts.activeAsk with
    | some ask => byId.set ask.id ask
    | none => byId
  byId.values.map askItem

/-- The items that are made of other things than messages. -/
def projectedItems (sessionId : String) (facts : Projections) : List (ItemView Moment) :=
  planItems sessionId facts ++
    (facts.archivedPlans.zipIdx (planItems sessionId facts).length).map
      (fun plan => archivedPlanItem plan.2 plan.1) ++
    askItems facts ++ facts.confirmations.map confirmationItem ++
    facts.result.toList.map resultItem ++ facts.fileChangeSummary.toList.map fileSummaryItem

/-- All items of a request. -/
def activityItems (sessionId : String) (facts : ActivityFacts) : List (ItemView Moment) :=
  facts.messages.map (messageItem lower) ++ projectedItems sessionId facts.toProjections

/-- What the model of an item asks of its fields. -/
def ItemView.valid (item : ItemView Moment) : Bool :=
  item.id ≠ "" && item.sessionId ≠ "" && item.title ≠ "" && item.body ≠ "" &&
    item.planId ≠ some "" && item.taskNodeId ≠ some "" && item.sourceId ≠ "" &&
    item.relatedRefs.all fun ref => ref.id ≠ "" && ref.label ≠ "" && ref.href ≠ some ""

/-- The items with one for each id, the last one. -/
def dedupe (items : List (ItemView Moment)) : List (ItemView Moment) :=
  (Dict.ofList ((items.filter fun item => item.sessionId ≠ "").map fun item =>
    (item.id, item))).values

/-- The newest item comes first. -/
def orderKey (item : ItemView DateTime) : (DateTime ×ₗ String)ᵒᵈ :=
  OrderDual.toDual (toLex (item.occurredAt, item.id))

/-- The items that a request lists, with the times at which they are made. -/
def listed (sessionId : String) (facts : ActivityFacts) (now : Clock) : List (ItemView DateTime) :=
  (dedupe (activityItems lower sessionId facts)).map (ItemView.at now)

/-- `_dedupe_and_order`, of all items of a request.  Which item keeps an id does not depend on the
clock. -/
def ordered (sessionId : String) (facts : ActivityFacts) (now : Clock) : List (ItemView DateTime) :=
  sortOn orderKey (listed lower sessionId facts now)

inductive ActivityError
  | reader (message : String)
  | invalidItem
  | cursorNotInteger
  | cursorNegative
deriving DecidableEq

/-- The text of an error, that of the model of an item apart. -/
def ActivityError.message : ActivityError → Option String
  | .reader message => some message
  | .invalidItem => none
  | .cursorNotInteger => some "Activity cursor must be an integer offset"
  | .cursorNegative => some "Activity cursor must be non-negative"

-- `int` is `int(text)`; `none` is a `ValueError`.
variable (int : String → Option ℤ)

def cursorOffset (cursor : Option String) : Except ActivityError ℕ :=
  if cursor.getD "" = "" then .ok 0
  else
    match int (cursor.getD "") with
    | none => .error .cursorNotInteger
    | some value => if value < 0 then .error .cursorNegative else .ok value.toNat

/-- How many items a page has. -/
def checkedLimit (limit : ℤ) : ℕ := (min (max limit 1) 200).toNat

def pageItems {α : Type} (items : List α) (limit : ℤ) (cursor : Option String) :
    Except ActivityError (List α × Option String) :=
  (cursorOffset int cursor).map fun offset =>
    let nextOffset := offset + checkedLimit limit
    (pageAt (checkedLimit limit) offset items,
      if nextOffset < items.length then some (toString nextOffset) else none)

/-- A `SessionActivityTimelineResult`, without the time at which it is made. -/
structure TimelineResult where
  sessionId : String
  items : List (ItemView DateTime)
  nextCursor : Option String
  totalCount : ℕ
deriving DecidableEq

/-- `DefaultSessionActivityProjectionService.project` -/
def project (sessionId : String) (facts : ActivityFacts) (now : Clock) (limit : ℤ)
    (cursor : Option String) : Except ActivityError TimelineResult :=
  if (activityItems lower sessionId facts).all ItemView.valid then
    let items := ordered lower sessionId facts now
    (pageItems int items limit cursor).map fun page => ⟨sessionId, page.1, page.2, items.length⟩
  else .error .invalidItem

/-! ### The query -/

/-- What the readers give for a session: the messages of the task tree, and those of the session. -/
structure SessionFacts extends Projections where
  treeMessages : List SessionMessageView := []
  sessionMessages : List SessionMessageView := []

def mergeMessages (tree session : List SessionMessageView) : List SessionMessageView :=
  sortOn (fun message => toLex (message.createdAt, message.id))
    (Dict.ofList ((tree ++ session).map fun message => (message.id, message))).values

/-- A request for a page finds the session and its facts, unless a reader raises a `ValueError` with
a text, or another error. -/
structure ActivityRequest where
  session : Option String
  gathered : Except (Option String) SessionFacts
  now : Clock

inductive QueryResponse
  | found (result : TimelineResult)
  | notFound
  | badRequest (error : ActivityError)
  | internalError
deriving DecidableEq

def SessionFacts.activity (facts : SessionFacts) : ActivityFacts :=
  { facts.toProjections with messages := mergeMessages facts.treeMessages facts.sessionMessages }

/-- `list_session_activity_query` -/
def listSessionActivity (request : ActivityRequest) (limit : ℤ) (cursor : Option String) :
    QueryResponse :=
  match request.session, request.gathered with
  | none, _ => .notFound
  | some _, .error (some message) => .badRequest (.reader message)
  | some _, .error none => .internalError
  | some sessionId, .ok facts =>
    match project lower int sessionId facts.activity request.now limit cursor with
    | .ok result => .found result
    | .error error => .badRequest error

/-- The pages of a reading that follows the cursors to the end, with a request for each page. -/
inductive Reading (limit : ℤ) :
    Option String → List ActivityRequest → List TimelineResult → Prop
  | last {cursor : Option String} {request : ActivityRequest} {result : TimelineResult}
      (found : listSessionActivity lower int request limit cursor = .found result)
      (hend : result.nextCursor = none) : Reading limit cursor [request] [result]
  | next {cursor : Option String} {next : String} {request : ActivityRequest}
      {result : TimelineResult} {requests : List ActivityRequest} {results : List TimelineResult}
      (found : listSessionActivity lower int request limit cursor = .found result)
      (hnext : result.nextCursor = some next) (rest : Reading limit (some next) requests results) :
      Reading limit cursor (request :: requests) (result :: results)

/-! ### Ids -/

section Ids

variable {lower}

/-- The two characters of an id that tell what the item was made of. -/
def tagOf (id : String) : List Char := (id.toList.drop 9).take 2

theorem tagOf_append {first : String} (h : 11 ≤ first.toList.length) (rest : String) :
    tagOf (first ++ rest) = tagOf first := by
  rw [tagOf, tagOf, String.toList_append, List.drop_append_of_le_length (by omega),
    List.take_append_of_le_length (by rw [List.length_drop]; omega)]

def messageTags : List (List Char) := [['m', 'e'], ['r', 'u'], ['i', 'n']]

theorem tagOf_messageItem (message : SessionMessageView) :
    tagOf (messageItem lower message).id ∈ messageTags := by
  rw [messageItem, messageSource]
  cases runtimeInputActivityKind lower message with
  | some kind =>
    rw [tagOf_append (by decide)]
    decide
  | none =>
    dsimp only
    split_ifs
    · rw [tagOf_append (by decide)]
      decide
    · rw [tagOf_append (by decide)]
      decide

theorem tagOf_planItems {sessionId : String} {facts : Projections} {item : ItemView Moment}
    (h : item ∈ planItems sessionId facts) : tagOf item.id ∉ messageTags := by
  have htask : ∀ (number : ℕ) (node : TaskNodeCardView),
      tagOf (taskItem sessionId number node).id ∉ messageTags := by
    intro number node
    rw [taskItem, tagOf_append (by decide)]
    decide
  rw [planItems] at h
  split at h
  · rcases List.mem_cons.mp h with rfl | h
    · rw [planItem, tagOf_append (by decide)]
      decide
    · obtain ⟨node, -, rfl⟩ := List.mem_map.mp h
      exact htask _ _
  · obtain ⟨node, -, rfl⟩ := List.mem_map.mp h
    exact htask _ _
  · exact absurd h List.not_mem_nil

theorem tagOf_projectedItems {sessionId : String} {facts : Projections} {item : ItemView Moment}
    (h : item ∈ projectedItems sessionId facts) : tagOf item.id ∉ messageTags := by
  simp only [projectedItems, askItems, List.mem_append, List.mem_map, or_assoc] at h
  rcases h with h | ⟨plan, -, rfl⟩ | ⟨ask, -, rfl⟩ | ⟨confirmation, -, rfl⟩ | ⟨result, -, rfl⟩ |
    ⟨summary, -, rfl⟩
  · exact tagOf_planItems h
  · show tagOf ("activity:archived-plan:" ++ _) ∉ messageTags
    rw [tagOf_append (by decide)]
    decide
  · show tagOf ("activity:ask:" ++ _) ∉ messageTags
    rw [tagOf_append (by decide)]
    decide
  · show tagOf ("activity:confirmation:" ++ _) ∉ messageTags
    rw [tagOf_append (by decide)]
    decide
  · show tagOf ("activity:result:" ++ _) ∉ messageTags
    rw [tagOf_append (by decide)]
    decide
  · show tagOf ("activity:file-summary:" ++ _) ∉ messageTags
    rw [tagOf_append (by decide)]
    decide

end Ids

/-! ### The list of a request -/

section List

variable {lower} {sessionId : String} {facts : ActivityFacts} {now : Clock}

theorem nodup_dedupe (items : List (ItemView Moment)) : ((dedupe items).map ItemView.id).Nodup :=
  Dict.nodup_map_values fun _ _ h => (Dict.get?_ofList_keyed h).2

theorem mem_dedupe_of_unique {items : List (ItemView Moment)} {item : ItemView Moment}
    (h : item ∈ items) (hsession : item.sessionId ≠ "")
    (hunique : ∀ other ∈ items, other.id = item.id → other = item) : item ∈ dedupe items := by
  refine Dict.mem_values.mpr ⟨item.id, Dict.get?_ofList_of_unique ?_ fun other hother =>
    hunique other (List.mem_of_mem_filter hother)⟩
  exact List.mem_filter.mpr ⟨h, by simpa using hsession⟩

theorem nodup_listed : ((listed lower sessionId facts now).map ItemView.id).Nodup := by
  rw [listed, List.map_map]
  exact nodup_dedupe _

theorem nodup_orderKey : ((listed lower sessionId facts now).map orderKey).Nodup := by
  have h := @nodup_listed lower sessionId facts now
  rw [List.Nodup, List.pairwise_map] at h ⊢
  refine h.imp fun hne heq => hne ?_
  exact congrArg (fun key => (ofLex (OrderDual.ofDual key)).2) heq

theorem mem_take_ordered_iff {item : ItemView DateTime} {n : ℕ}
    (h : item ∈ listed lower sessionId facts now) :
    item ∈ (ordered lower sessionId facts now).take n ↔
      ((listed lower sessionId facts now).filter fun other =>
        orderKey other < orderKey item).length < n := by
  rw [ordered, mem_take_iff_of_pairwise (sortOn_pairwise_lt nodup_orderKey), mem_sortOn,
    and_iff_right h, ((sortOn_perm _ _).filter _).length_eq]

theorem messageItem_mem_listed {message : SessionMessageView} (h : message ∈ facts.messages)
    (hsession : message.sessionId ≠ "")
    (hown : ∀ other ∈ facts.messages,
      (messageSource lower other).1 = (messageSource lower message).1 → other = message) :
    (messageItem lower message).at now ∈ listed lower sessionId facts now := by
  refine List.mem_map_of_mem (mem_dedupe_of_unique ?_ hsession fun item hitem hid => ?_)
  · exact List.mem_append_left _ (List.mem_map_of_mem h)
  · rcases List.mem_append.mp hitem with hitem | hitem
    · obtain ⟨other, hother, rfl⟩ := List.mem_map.mp hitem
      rw [hown other hother hid]
    · have := tagOf_projectedItems hitem
      rw [hid] at this
      exact absurd (tagOf_messageItem message) this

end List

/-! ### A reading -/

def ActivityRequest.messages (request : ActivityRequest) : List SessionMessageView :=
  match request.gathered with
  | .ok facts => facts.activity.messages
  | .error _ => []

/-- The items that a request lists, in no particular order. -/
def ActivityRequest.listed (request : ActivityRequest) : List (ItemView DateTime) :=
  match request.session, request.gathered with
  | some sessionId, .ok facts =>
    SessionActivity.listed lower sessionId facts.activity request.now
  | _, _ => []

/-- The list that a request cuts its page out of. -/
def ActivityRequest.ordered (request : ActivityRequest) : List (ItemView DateTime) :=
  sortOn orderKey (request.listed lower)

def newerItems (request : ActivityRequest) (message : SessionMessageView) :
    List (ItemView DateTime) :=
  (request.listed lower).filter fun item =>
    orderKey item < orderKey ((messageItem lower message).at request.now)

/-- Between two requests messages are only appended. -/
def Appended (requests : List ActivityRequest) : Prop :=
  ∀ before request next after, requests = before ++ request :: next :: after →
    request.messages ⊆ next.messages

def OwnId (requests : List ActivityRequest) (message : SessionMessageView) : Prop :=
  ∀ request ∈ requests, ∀ other ∈ request.messages,
    (messageSource lower other).1 = (messageSource lower message).1 → other = message

/-- Between two requests it never happens that so many of the items before the message disappear
that it falls behind the offset of the next page. -/
def NotOvertaken (limit : ℤ) (requests : List ActivityRequest) (message : SessionMessageView) :
    Prop :=
  ∀ before request next after, requests = before ++ request :: next :: after →
    (before.length + 1) * checkedLimit limit ≤ (newerItems lower request message).length →
      (before.length + 1) * checkedLimit limit ≤ (newerItems lower next message).length

/-- Every message that the first request finds is on one of the pages. -/
def SkipsNothing (requests : List ActivityRequest) (results : List TimelineResult) : Prop :=
  ∀ request ∈ requests.head?, ∀ message ∈ request.messages,
    ∃ result ∈ results, (messageItem lower message).at request.now ∈ result.items

section Reading

variable {lower int} {limit : ℤ} {request : ActivityRequest} {cursor : Option String}
  {requests : List ActivityRequest} {results : List TimelineResult}

theorem listSessionActivity_found {result : TimelineResult}
    (h : listSessionActivity lower int request limit cursor = .found result) :
    ∃ sessionId facts offset, request.session = some sessionId ∧ request.gathered = .ok facts ∧
      (activityItems lower sessionId facts.activity).all ItemView.valid = true ∧
      cursorOffset int cursor = .ok offset ∧
      result = ⟨sessionId, pageAt (checkedLimit limit) offset (request.ordered lower),
        if offset + checkedLimit limit < (request.ordered lower).length
          then some (toString (offset + checkedLimit limit)) else none,
        (request.ordered lower).length⟩ := by
  rw [listSessionActivity] at h
  split at h
  · exact nomatch h
  · exact nomatch h
  · exact nomatch h
  · next sessionId facts hsession hgathered =>
    rw [project] at h
    split_ifs at h with hvalid
    · cases hoffset : cursorOffset int cursor with
      | error error =>
        simp only [pageItems, hoffset] at h
        exact nomatch h
      | ok offset =>
        simp only [pageItems, hoffset] at h
        have hordered : request.ordered lower =
            ordered lower sessionId facts.activity request.now := by
          rw [ActivityRequest.ordered, ActivityRequest.listed, hsession, hgathered]
          rfl
        refine ⟨sessionId, facts, offset, hsession, hgathered, hvalid, rfl, ?_⟩
        rw [hordered]
        exact (QueryResponse.found.inj h).symm

theorem cursorOffset_toString (hint : ∀ n : ℕ, int (toString n) = some (n : ℤ)) (n : ℕ) :
    cursorOffset int (some (toString n)) = .ok n := by
  rw [cursorOffset, if_neg (by simp), Option.getD_some, hint]
  exact if_neg (by simp)

/-- **A reading cuts its pages out of the lists of its requests**, offset by offset. -/
theorem Reading.pages (hint : ∀ n : ℕ, int (toString n) = some (n : ℤ))
    (h : Reading lower int limit cursor requests results) :
    ∀ {offset}, cursorOffset int cursor = .ok offset →
      Pages (checkedLimit limit) offset (requests.map (ActivityRequest.ordered lower))
        (results.map TimelineResult.items) := by
  induction h with
  | @last cursor request result found hend =>
    intro offset hoffset
    obtain ⟨sessionId, facts, offset', -, -, -, hoffset', rfl⟩ := listSessionActivity_found found
    obtain rfl := Except.ok.inj (hoffset.symm.trans hoffset')
    refine .last ?_
    by_contra hlt
    rw [if_pos (by omega)] at hend
    exact nomatch hend
  | @next cursor next request result requests results found hnext rest ih =>
    intro offset hoffset
    obtain ⟨sessionId, facts, offset', -, -, -, hoffset', rfl⟩ := listSessionActivity_found found
    obtain rfl := Except.ok.inj (hoffset.symm.trans hoffset')
    split_ifs at hnext with hlt
    refine .next hlt (ih ?_)
    rw [← Option.some.inj hnext]
    exact cursorOffset_toString hint _

theorem Reading.found_request (h : Reading lower int limit cursor requests results) :
    ∀ request ∈ requests, ∃ sessionId facts, request.session = some sessionId ∧
      request.gathered = .ok facts ∧
      (activityItems lower sessionId facts.activity).all ItemView.valid = true := by
  induction h with
  | @last cursor request result found hend =>
    obtain ⟨sessionId, facts, -, hsession, hgathered, hvalid, -⟩ := listSessionActivity_found found
    exact List.forall_mem_singleton.mpr ⟨sessionId, facts, hsession, hgathered, hvalid⟩
  | @next cursor next request result requests results found hnext rest ih =>
    obtain ⟨sessionId, facts, -, hsession, hgathered, hvalid, -⟩ := listSessionActivity_found found
    exact List.forall_mem_cons.mpr ⟨⟨sessionId, facts, hsession, hgathered, hvalid⟩, ih⟩

theorem Reading.totalCount_eq (h : Reading lower int limit cursor requests results) :
    ∀ result ∈ results, ∃ request ∈ requests,
      result.totalCount = (request.ordered lower).length := by
  induction h with
  | @last cursor request result found hend =>
    obtain ⟨-, -, -, -, -, -, -, rfl⟩ := listSessionActivity_found found
    exact List.forall_mem_singleton.mpr ⟨request, List.mem_singleton.mpr rfl, rfl⟩
  | @next cursor next request result requests results found hnext rest ih =>
    obtain ⟨-, -, -, -, -, -, -, rfl⟩ := listSessionActivity_found found
    refine List.forall_mem_cons.mpr ⟨⟨request, List.mem_cons_self, rfl⟩, fun result h => ?_⟩
    obtain ⟨other, hother, heq⟩ := ih result h
    exact ⟨other, List.mem_cons_of_mem _ hother, heq⟩

theorem forall_mem_of_steps {α : Type*} {P : α → Prop} {l : List α}
    (hfirst : ∀ a ∈ l.head?, P a)
    (hstep : ∀ before a b after, l = before ++ a :: b :: after → P a → P b) : ∀ a ∈ l, P a := by
  induction l with
  | nil => exact fun _ h => absurd h List.not_mem_nil
  | cons a l ih =>
    have ha : P a := hfirst a rfl
    refine List.forall_mem_cons.mpr ⟨ha, ih ?_ fun before b c after heq => ?_⟩
    · cases l with
      | nil => exact (fun _ h => nomatch h)
      | cons b l =>
        intro c hc
        rw [← Option.some.inj hc]
        exact hstep [] a b l rfl ha
    · exact hstep (a :: before) b c after (by rw [heq, List.cons_append])

theorem messageItem_mem_request {sessionId : String} {facts : SessionFacts}
    {message : SessionMessageView} {now : Clock} (hsession : request.session = some sessionId)
    (hgathered : request.gathered = .ok facts)
    (hvalid : (activityItems lower sessionId facts.activity).all ItemView.valid = true)
    (h : message ∈ request.messages) (hown : ∀ other ∈ request.messages,
      (messageSource lower other).1 = (messageSource lower message).1 → other = message) :
    (messageItem lower message).at now ∈ request.listed lower := by
  rw [ActivityRequest.messages, hgathered] at h hown
  rw [ActivityRequest.listed, hsession, hgathered]
  refine messageItem_mem_listed h ?_ hown
  have hitem := List.all_eq_true.mp hvalid (messageItem lower message)
    (List.mem_append_left _ (List.mem_map_of_mem h))
  simp only [ItemView.valid, Bool.and_eq_true, decide_eq_true_eq] at hitem
  exact hitem.1.1.1.1.1.1.2

/-- **A message that is not overtaken is on one of the pages.** -/
theorem Reading.delivers (hint : ∀ n : ℕ, int (toString n) = some (n : ℤ))
    (h : Reading lower int limit none requests results) (happended : Appended requests)
    {first : ActivityRequest} (hfirst : first ∈ requests.head?) {message : SessionMessageView}
    (hmessage : message ∈ first.messages) (hown : OwnId lower requests message)
    (hovertaken : NotOvertaken lower limit requests message) :
    ∃ result ∈ results, (messageItem lower message).at first.now ∈ result.items := by
  have hfound : ∀ request ∈ requests, message ∈ request.messages := by
    apply forall_mem_of_steps
    · intro request hrequest
      rw [Option.mem_unique hrequest hfirst]
      exact hmessage
    · exact fun before request next after heq hin => happended before request next after heq hin
  have hlisted : ∀ request ∈ requests, ∀ now,
      (messageItem lower message).at now ∈ request.listed lower := by
    intro request hrequest now
    obtain ⟨sessionId, facts, hsession, hgathered, hvalid⟩ := h.found_request request hrequest
    exact messageItem_mem_request hsession hgathered hvalid (hfound request hrequest)
      (hown request hrequest)
  -- the place of the message in a list is the number of newer items
  have hplace : ∀ request ∈ requests, ∀ n,
      (messageItem lower message).at first.now ∉ (request.ordered lower).take n ↔
        n ≤ (newerItems lower request message).length := by
    intro request hrequest n
    obtain ⟨sessionId, facts, hsession, hgathered, hvalid⟩ := h.found_request request hrequest
    have hmem := hlisted request hrequest first.now
    simp only [ActivityRequest.ordered, newerItems, ActivityRequest.listed, hsession,
      hgathered] at hmem ⊢
    rw [show (sortOn orderKey _).take n = (ordered lower sessionId facts.activity
      request.now).take n from rfl, mem_take_ordered_iff hmem, Nat.not_lt]
    rfl
  have hpages := h.pages hint (show cursorOffset int none = .ok 0 from rfl)
  obtain ⟨page, hpage, hitem⟩ := hpages.exists_mem (a := (messageItem lower message).at first.now)
    (by
      intro l hl
      obtain ⟨request, hrequest, rfl⟩ := List.mem_map.mp hl
      exact mem_sortOn.mpr (hlisted request hrequest _))
    (fun l _ hin => absurd hin (by simp))
    (staysBehind_map fun before request next after heq hbehind => by
      have hrequest : request ∈ requests := by simp [heq]
      have hnext : next ∈ requests := by simp [heq]
      rw [Nat.zero_add, hplace request hrequest] at hbehind
      rw [Nat.zero_add, hplace next hnext]
      exact hovertaken before request next after heq hbehind)
  obtain ⟨result, hresult, rfl⟩ := List.mem_map.mp hpage
  exact ⟨result, hresult, hitem⟩

end Reading

/-! ### When nothing changes -/

/-- All requests find the same. -/
def Unchanged (requests : List ActivityRequest) : Prop :=
  ∀ first ∈ requests.head?, ∀ request ∈ requests,
    request.session = first.session ∧ request.gathered = first.gathered

/-- The items of a request, before they get their times. -/
def ActivityRequest.items (request : ActivityRequest) : List (ItemView Moment) :=
  match request.session, request.gathered with
  | some sessionId, .ok facts => dedupe (activityItems lower sessionId facts.activity)
  | _, _ => []

def Moment.isReading : Moment → Bool
  | .stored _ => false
  | .reading _ => true

/-- The items without a stored time fit on the first page, and the clock shows a later time than any
that is stored; or there are no such items. -/
def TimesSettled (limit : ℤ) (requests : List ActivityRequest) : Prop :=
  ∀ request ∈ requests,
    (∀ item ∈ request.items lower, item.occurredAt.isReading = false) ∨
      ((request.items lower).filter fun item => item.occurredAt.isReading).length ≤
          checkedLimit limit ∧
        ∀ item ∈ request.items lower, ∀ time, item.occurredAt = .stored time →
          ∀ number, time < request.now number

/-- The pages are parts of one list, newest first. -/
structure Consistent (results : List TimelineResult) : Prop where
  disjoint : ((results.flatMap TimelineResult.items).map ItemView.id).Nodup
  newestFirst : (results.flatMap TimelineResult.items).Pairwise fun item other =>
    other.occurredAt ≤ item.occurredAt
  total : ∀ result ∈ results,
    (results.flatMap TimelineResult.items).length = result.totalCount

section Unchanged

variable {lower int} {limit : ℤ} {request : ActivityRequest} {requests : List ActivityRequest}
  {results : List TimelineResult}

theorem listed_eq (request : ActivityRequest) :
    request.listed lower = (request.items lower).map (ItemView.at request.now) := by
  rw [ActivityRequest.listed, ActivityRequest.items]
  split <;> rfl

theorem nodup_orderKey_items (request : ActivityRequest) :
    (((request.items lower).map (ItemView.at request.now)).map orderKey).Nodup := by
  rw [← listed_eq, ActivityRequest.listed]
  split
  · exact nodup_orderKey
  · exact List.nodup_nil

theorem ordered_eq_append
    (hclock : ∀ item ∈ request.items lower, ∀ time, item.occurredAt = .stored time →
      ∀ number, time < request.now number) :
    request.ordered lower =
      sortOn orderKey (((request.items lower).filter fun item => item.occurredAt.isReading).map
        (ItemView.at request.now)) ++
      sortOn orderKey (((request.items lower).filter fun item => !item.occurredAt.isReading).map
        (ItemView.at request.now)) := by
  rw [ActivityRequest.ordered, listed_eq, ← sortOn_append, ← List.map_append]
  · exact sortOn_eq_of_perm ((List.filter_append_perm _ _).symm.map _)
      (nodup_orderKey_items request)
  · intro a ha b hb
    obtain ⟨item, hitem, rfl⟩ := List.mem_map.mp ha
    obtain ⟨other, hother, rfl⟩ := List.mem_map.mp hb
    have hread := List.of_mem_filter hitem
    have hstored := List.of_mem_filter hother
    cases hat : item.occurredAt with
    | stored time =>
      rw [hat] at hread
      exact nomatch hread
    | reading number =>
      cases hother' : other.occurredAt with
      | reading number' =>
        rw [hother'] at hstored
        exact nomatch hstored
      | stored time =>
        have hlt := hclock other (List.mem_of_mem_filter hother) time hother' number
        have hkey : toLex ((ItemView.at request.now other).occurredAt, other.id) ≤
            toLex ((ItemView.at request.now item).occurredAt, item.id) := by
          rw [Prod.Lex.toLex_le_toLex]
          left
          rw [ItemView.at, ItemView.at, hat, hother']
          exact hlt
        exact hkey

theorem map_at_stored {items : List (ItemView Moment)} (now now' : Clock) :
    (items.filter fun item => !item.occurredAt.isReading).map (ItemView.at now) =
      (items.filter fun item => !item.occurredAt.isReading).map (ItemView.at now') := by
  apply List.map_congr_left
  intro item hitem
  have hstored := List.of_mem_filter hitem
  rw [ItemView.at, ItemView.at]
  cases hat : item.occurredAt with
  | stored time => rfl
  | reading number =>
    rw [hat] at hstored
    exact nomatch hstored

theorem drop_ordered_eq {other : ActivityRequest} (hsettled : TimesSettled lower limit requests)
    (hrequest : request ∈ requests) (hother : other ∈ requests)
    (hitems : request.items lower = other.items lower) :
    (request.ordered lower).drop (checkedLimit limit) =
      (other.ordered lower).drop (checkedLimit limit) := by
  have hnone : ∀ r : ActivityRequest, (∀ item ∈ r.items lower, item.occurredAt.isReading = false) →
      r.ordered lower = sortOn orderKey (((r.items lower).filter fun item =>
        !item.occurredAt.isReading).map (ItemView.at r.now)) := by
    intro r hr
    rw [ActivityRequest.ordered, listed_eq, List.filter_eq_self.mpr]
    intro item hitem
    rw [hr item hitem]
    rfl
  rcases hsettled request hrequest with hr | ⟨hfew, hclock⟩
  · rw [hnone request hr, hnone other (hitems ▸ hr), hitems, map_at_stored request.now other.now]
  · rcases hsettled other hother with ho | ⟨hfew', hclock'⟩
    · rw [hnone request (hitems ▸ ho), hnone other ho, hitems,
        map_at_stored request.now other.now]
    · rw [ordered_eq_append hclock, ordered_eq_append hclock', hitems,
        map_at_stored request.now other.now]
      rw [hitems] at hfew
      have hfront : ∀ now, (sortOn orderKey (((other.items lower).filter fun item =>
          item.occurredAt.isReading).map (ItemView.at now))).length =
          ((other.items lower).filter fun item => item.occurredAt.isReading).length := by
        intro now
        rw [(sortOn_perm _ _).length_eq, List.length_map]
      rw [List.drop_append, List.drop_append, hfront, hfront,
        List.drop_eq_nil_of_le ((hfront request.now).trans_le hfew),
        List.drop_eq_nil_of_le ((hfront other.now).trans_le hfew)]

/-- **When nothing changes, the pages are parts of one list.** -/
theorem Reading.consistent (hint : ∀ n : ℕ, int (toString n) = some (n : ℤ))
    (h : Reading lower int limit none requests results) (hunchanged : Unchanged requests)
    (hsettled : TimesSettled lower limit requests) : Consistent results := by
  have hpages := h.pages hint (show cursorOffset int none = .ok 0 from rfl)
  match requests, h, hunchanged, hsettled, hpages with
  | first :: requests, h, hunchanged, hsettled, hpages =>
    have hitems : ∀ request ∈ first :: requests, request.items lower = first.items lower := by
      intro request hrequest
      obtain ⟨hsession, hgathered⟩ := hunchanged first rfl request hrequest
      rw [ActivityRequest.items, ActivityRequest.items, hsession, hgathered]
    have hflat : results.flatMap TimelineResult.items = first.ordered lower := by
      rw [List.flatMap_def]
      refine hpages.flatten_eq fun l hl => ?_
      obtain ⟨request, hrequest, rfl⟩ := List.mem_map.mp hl
      exact drop_ordered_eq hsettled (List.mem_cons_of_mem _ hrequest) List.mem_cons_self
        (hitems request (List.mem_cons_of_mem _ hrequest))
    have hlength : ∀ request : ActivityRequest,
        (request.ordered lower).length = (request.items lower).length := by
      intro request
      rw [ActivityRequest.ordered, (sortOn_perm _ _).length_eq, listed_eq, List.length_map]
    refine ⟨?_, ?_, fun result hresult => ?_⟩
    · rw [hflat, ActivityRequest.ordered, ((sortOn_perm _ _).map _).nodup_iff, listed_eq,
        List.map_map]
      rw [ActivityRequest.items]
      split
      · exact nodup_dedupe _
      · exact List.nodup_nil
    · rw [hflat]
      refine (sortOn_pairwise orderKey (first.listed lower)).imp fun {a b} hab => ?_
      have hle : toLex (b.occurredAt, b.id) ≤ toLex (a.occurredAt, a.id) := hab
      rcases Prod.Lex.toLex_le_toLex.mp hle with hlt | ⟨heq, -⟩
      · exact hlt.le
      · exact heq.le
    · obtain ⟨request, hrequest, hcount⟩ := h.totalCount_eq result hresult
      rw [hflat, hcount, hlength, hlength, hitems request hrequest]

/-- **Paging through an activity skips no message** that keeps an id of its own and is not
overtaken, and when nothing changes the pages are parts of one list. -/
theorem reading_skips_nothing (hint : ∀ n : ℕ, int (toString n) = some (n : ℤ))
    {requests : List ActivityRequest} {results : List TimelineResult}
    (h : Reading lower int limit none requests results) :
    (Appended requests → ∀ first ∈ requests.head?, ∀ message ∈ first.messages,
      OwnId lower requests message → NotOvertaken lower limit requests message →
        ∃ result ∈ results, (messageItem lower message).at first.now ∈ result.items) ∧
      (Unchanged requests → TimesSettled lower limit requests → Consistent results) :=
  ⟨fun happended _ hfirst _ hmessage hown hovertaken =>
    h.delivers hint happended hfirst hmessage hown hovertaken, h.consistent hint⟩

end Unchanged

/-! ### Two readings -/

section Example

def noon (minute : ℕ) (h : minute < 60) : DateTime :=
  ⟨2024, 1, 1, 12, minute, 0, 0, by
    refine ⟨?_, ?_, ?_, ?_, ?_, ?_, ?_, h, ?_, ?_⟩ <;> decide⟩

def userMessage : SessionMessageView where
  id := "1"
  sessionId := "session"
  kind := .informational
  title := "User message"
  body := "Hello"
  createdAt := noon 1 (by decide)

def laterAsk : AskRequestView where
  id := "1"
  sessionId := "session"
  question := "Which one?"
  status := .pending
  createdAt := noon 2 (by decide)

/-- A request that finds the message and some questions. -/
def askRequest (asks : List AskRequestView) : ActivityRequest where
  session := some "session"
  gathered := .ok { pendingAsks := asks, sessionMessages := [userMessage] }
  now := fun _ => noon 3 (by decide)

/-- A page of `items` with its cursor and the number of all items. -/
def pageOf (items : List (ItemView Moment)) (nextCursor : Option String) (totalCount : ℕ) :
    TimelineResult :=
  ⟨"session", items.map (ItemView.at fun _ => noon 3 (by decide)), nextCursor, totalCount⟩

/-- `int(text)` of a text of decimal digits. -/
def readDecimal (text : String) : Option ℤ :=
  if text ≠ "" ∧ text.toList.all Char.isDigit then some (Nat.ofDigitChars 10 text.toList 0)
  else none

theorem readDecimal_toString (n : ℕ) : readDecimal (toString n) = some (n : ℤ) := by
  have hdigits : (toString n).toList = Nat.toDigits 10 n := by
    show (Nat.repr n).toList = _
    rw [Nat.repr, String.toList_ofList]
  rw [readDecimal, hdigits, Nat.ofDigitChars_ten_toDigits, if_pos]
  refine ⟨by simp, List.all_eq_true.mpr fun c hc => ?_⟩
  exact Nat.isDigit_of_mem_toDigits (by decide) (by decide) hc

theorem first_page : listSessionActivity String.toLower readDecimal (askRequest [laterAsk]) 1
    none = .found (pageOf [askItem laterAsk] (some "1") 2) := by
  decide +kernel

theorem reading_unchanged : Reading String.toLower readDecimal 1 none
    [askRequest [laterAsk], askRequest [laterAsk]]
    [pageOf [askItem laterAsk] (some "1") 2,
      pageOf [messageItem String.toLower userMessage] none 2] :=
  .next first_page rfl (.last (by decide +kernel) rfl)

theorem reading_answered : Reading String.toLower readDecimal 1 none
    [askRequest [laterAsk], askRequest []]
    [pageOf [askItem laterAsk] (some "1") 2, pageOf [] none 1] :=
  .next first_page rfl (.last (by decide +kernel) rfl)

theorem messages_askRequest (asks : List AskRequestView) :
    (askRequest asks).messages = [userMessage] := by
  show mergeMessages [] [userMessage] = [userMessage]
  decide +kernel

theorem split_pair {α : Type} {a b c d : α} {before after : List α}
    (h : [a, b] = before ++ c :: d :: after) : before = [] ∧ c = a ∧ d = b := by
  cases before with
  | nil =>
    obtain ⟨hfirst, hrest⟩ := List.cons.inj h
    obtain ⟨hsecond, -⟩ := List.cons.inj hrest
    exact ⟨rfl, hfirst.symm, hsecond.symm⟩
  | cons e before =>
    have := congrArg List.length h
    simp only [List.length_cons, List.length_append, List.length_nil] at this
    omega

theorem appended_askRequests (asks asks' : List AskRequestView) :
    Appended [askRequest asks, askRequest asks'] := by
  intro before request next after h
  obtain ⟨-, rfl, rfl⟩ := split_pair h
  rw [messages_askRequest, messages_askRequest]
  exact List.Subset.refl _

/-- When the question stays, the message is on the second page, and the pages are parts of one
list. -/
theorem reading_unchanged_skips_nothing :
    (∃ result ∈ [pageOf [askItem laterAsk] (some "1") 2,
        pageOf [messageItem String.toLower userMessage] none 2],
      (messageItem String.toLower userMessage).at (fun _ => noon 3 (by decide)) ∈ result.items) ∧
      Consistent [pageOf [askItem laterAsk] (some "1") 2,
        pageOf [messageItem String.toLower userMessage] none 2] := by
  have h := reading_skips_nothing readDecimal_toString reading_unchanged
  refine ⟨h.1 (appended_askRequests _ _) (askRequest [laterAsk]) rfl userMessage ?_ ?_ ?_,
    h.2 ?_ ?_⟩
  · rw [messages_askRequest]
    exact List.mem_singleton.mpr rfl
  · intro request hrequest other hother _
    have hsame : request = askRequest [laterAsk] := by simpa using hrequest
    rw [hsame, messages_askRequest] at hother
    exact List.mem_singleton.mp hother
  · intro before request next after heq hbefore
    obtain ⟨rfl, rfl, rfl⟩ := split_pair heq
    exact hbefore
  · intro first hfirst request hrequest
    have hsame : request = askRequest [laterAsk] := by simpa using hrequest
    rw [hsame, ← Option.some.inj hfirst]
    exact ⟨rfl, rfl⟩
  · intro request hrequest
    have hsame : request = askRequest [laterAsk] := by simpa using hrequest
    rw [hsame]
    exact .inl (by decide +kernel)

def draftCard (id : String) : TaskNodeCardView where
  id := id
  title := "Book a hotel"
  summary := "Book a hotel"
  status := .draft

/-- A request that finds two tasks, which get the time of the request. -/
def taskRequest (minute : ℕ) (h : minute < 60) : ActivityRequest where
  session := some "session"
  gathered := .ok { taskTree := some [draftCard "a", draftCard "b"] }
  now := fun _ => noon minute h

def taskPage (minute : ℕ) (h : minute < 60) (number : ℕ) (id : String)
    (nextCursor : Option String) : TimelineResult :=
  ⟨"session", [(taskItem "session" number (draftCard id)).at fun _ => noon minute h], nextCursor, 2⟩

theorem reading_restamped : Reading String.toLower readDecimal 1 none
    [taskRequest 1 (by decide), taskRequest 2 (by decide)]
    [taskPage 1 (by decide) 1 "b" (some "1"), taskPage 2 (by decide) 0 "a" none] :=
  .next (by decide +kernel) rfl (.last (by decide +kernel) rfl)

/-- When the question is answered, the message is on no page; and the items without a stored time
are newer on the second page than on the first, although nothing changes. -/
theorem not_skipsNothing_answered :
    (Reading String.toLower readDecimal 1 none [askRequest [laterAsk], askRequest []]
        [pageOf [askItem laterAsk] (some "1") 2, pageOf [] none 1] ∧
      Appended [askRequest [laterAsk], askRequest []] ∧
      ¬SkipsNothing String.toLower [askRequest [laterAsk], askRequest []]
        [pageOf [askItem laterAsk] (some "1") 2, pageOf [] none 1]) ∧
    ∃ requests results, Reading String.toLower readDecimal 1 none requests results ∧
      Unchanged requests ∧ ¬Consistent results := by
  refine ⟨⟨reading_answered, appended_askRequests _ _, fun h => ?_⟩,
    _, _, reading_restamped, fun first hfirst request hrequest => ?_, fun h => ?_⟩
  · have hmessage : userMessage ∈ (askRequest [laterAsk]).messages := by
      rw [messages_askRequest]
      exact List.mem_singleton.mpr rfl
    have hpage := h (askRequest [laterAsk]) rfl userMessage hmessage
    revert hpage
    decide +kernel
  · obtain rfl := Option.some.inj hfirst
    rcases List.mem_cons.mp hrequest with rfl | hrequest
    · exact ⟨rfl, rfl⟩
    · rw [List.mem_singleton.mp hrequest]
      exact ⟨rfl, rfl⟩
  · have hnewest := h.newestFirst
    revert hnewest
    decide +kernel

end Example

end Taskweavn.SessionActivity
