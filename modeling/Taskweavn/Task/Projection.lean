import Taskweavn.Lib.ForestWalk
import Taskweavn.Py.SplitLines
import Taskweavn.Task.Bus
import Taskweavn.Task.PlanStore

/-!
# The tree of published tasks

`DefaultTaskProjectionService` (`taskweavn/task/projection.py`) shows the tasks of a session as
cards in the order of a tree.  `_append_task_subtree` calls itself for every child, so the
interpreter's limit on nested calls is part of the model (`limit`); `_descendants` keeps a stack,
and `_depth` goes up from parent to parent.

The messages and the file changes of a task are kept in other stores, which may be missing or may
raise (`ProjectionSources`).  Nothing here looks into what `str.lower` does (`lower`).  The ids of
the actions of a card are random, and left out.
-/

namespace Taskweavn

open Lib Py

/-! ### Cards -/

inductive TaskViewStatus
  | draft
  | pending
  | running
  | waitingForUser
  | done
  | failed
  | cancelled
deriving DecidableEq, Repr

inductive ProjectionError
  | bus (error : BusError)
  /-- list index out of range -/
  | index
  | validation (rule : String)
  /-- maximum recursion depth exceeded -/
  | recursion
  /-- a loop that does not end -/
  | endless
  | source (reason : String)
deriving DecidableEq, Repr

structure TaskCardBadges where
  pendingConfirmationCount : ℕ := 0
  directFileChangeCount : ℕ := 0
  subtreeFileChangeCount : ℕ := 0
  childCount : ℕ := 0
  doneChildCount : ℕ := 0
  failedChildCount : ℕ := 0
deriving DecidableEq

structure TaskCardPermissions where
  canEdit : Bool := false
  canAppendGuidance : Bool := false
  canResolveConfirmation : Bool := false
  canPublish : Bool := false
  canCancel : Bool := false
  canRetry : Bool := false
  readonlyReason : Option String := none
deriving DecidableEq

inductive TaskCardActionKind
  | confirm
  | edit
  | appendGuidance
  | publish
  | cancel
  | retry
  | openDetail
deriving DecidableEq, Repr

structure TaskCardAction where
  kind : TaskCardActionKind
  label : String
deriving DecidableEq

structure TaskProgressView where
  childCount : ℕ := 0
  doneChildCount : ℕ := 0
  failedChildCount : ℕ := 0
  runningChildCount : ℕ := 0
deriving DecidableEq

/-- A file change; what it says of the file is `F`. -/
structure TaskFileChangeSummary (F : Type) where
  changeId : String
  ownerTaskRef : TaskRef
  recordedAt : DateTime
  fromSubtree : Bool := false
  content : F
deriving DecidableEq

structure TaskCardView (M C F : Type) where
  taskRef : TaskRef
  parentRef : Option TaskRef := none
  rootRef : TaskRef
  title : String
  intentPreview : String
  fullIntent : Option String := none
  instructions : Option String := none
  acceptanceCriteria : List String := []
  status : TaskViewStatus
  depth : ℕ := 0
  orderIndex : ℕ := 0
  resultRef : Option String := none
  errorRef : Option String := none
  interruptRequested : Bool := false
  badges : TaskCardBadges := {}
  permissions : TaskCardPermissions := {}
  primaryActions : List TaskCardAction := []
  confirmation : Option C := none
  latestMessage : Option M := none
  fileSummary : Option (TaskFileChangeSummary F) := none
  progress : Option TaskProgressView := none

namespace TaskCardView

variable {M C F : Type}

/-- What the views check, each rule with the field or the text of its error. -/
def checks (card : TaskCardView M C F) : List (String × Bool) :=
  [("task_ref.id", card.taskRef.id ≠ ""),
    ("parent_ref.id", card.parentRef.map TaskRef.id ≠ some ""),
    ("root_ref.id", card.rootRef.id ≠ ""),
    ("title", card.title ≠ ""),
    ("intent_preview", card.intentPreview ≠ ""),
    ("full_intent", card.fullIntent ≠ some ""),
    ("instructions", card.instructions ≠ some ""),
    ("result_ref", card.resultRef ≠ some ""),
    ("error_ref", card.errorRef ≠ some ""),
    ("done_child_count + failed_child_count must be <= child_count",
      card.badges.doneChildCount + card.badges.failedChildCount ≤ card.badges.childCount),
    ("known child counts must be <= child_count",
      card.progress.all fun p =>
        p.doneChildCount + p.failedChildCount + p.runningChildCount ≤ p.childCount),
    ("root card must not have parent_ref", !(card.depth = 0 ∧ card.parentRef.isSome)),
    ("non-root card must have parent_ref", !(card.depth > 0 ∧ card.parentRef.isNone)),
    ("draft status requires a draft task_ref",
      !(card.status = .draft ∧ card.taskRef.kind ≠ .draft))]

/-- The constructor. -/
def validate (card : TaskCardView M C F) : Except ProjectionError (TaskCardView M C F) :=
  match card.checks.find? fun check => !check.2 with
  | some check => .error (.validation check.1)
  | none => .ok card

end TaskCardView

/-! ### Texts -/

namespace Projection

variable (lower : String → String)

def intentionalStopErrorPrefixes : List String := ["cancelled:", "skipped:"]

def startsWith (marker text : String) : Bool := marker.toList.isPrefixOf text.toList

def isIntentionalStopError (errorRef : Option String) : Bool :=
  match errorRef with
  | none => false
  | some e => intentionalStopErrorPrefixes.any fun marker => startsWith marker (lower (strip e))

def projectedTaskStatus (task : TaskDomain) : TaskViewStatus :=
  match task.status with
  | .pending => .pending
  | .running => .running
  | .waitingForUser => .waitingForUser
  | .done => .done
  | .failed => if isIntentionalStopError lower task.errorRef then .cancelled else .failed

structure ProjectedTaskContent where
  intent : String
  summary : Option String := none
  instructions : Option String := none
  acceptanceCriteria : List String := []
deriving DecidableEq

/-- `value or None` -/
def textOrNone (value : String) : Option String := if value = "" then none else some value

/-- `a or b` for texts that may be missing. -/
def eitherText (a b : Option String) : Option String := if a = some "" then b else a.or b

def stripLegacyMarker (text marker : String) : Option String :=
  if startsWith marker (lower text) then
    some (strip (String.ofList (text.toList.drop marker.length)))
  else none

def parseAcceptanceCriteria (value : String) : List String :=
  let dashOrBlank (c : Char) : Bool := c = ' ' || c = '-' || c = '\t'
  ((value.toList.splitOn ';').map fun item =>
      String.ofList ((item.dropWhile dashOrBlank).rdropWhile dashOrBlank)).filter (· ≠ "")

/-- One line of `_split_legacy_task_content`. -/
def splitLegacyLine (content : ProjectedTaskContent × List String) (line : String) :
    ProjectedTaskContent × List String :=
  match stripLegacyMarker lower (strip line) "summary:" with
  | some value => ({ content.1 with summary := textOrNone value }, content.2)
  | none =>
    match stripLegacyMarker lower (strip line) "instructions:" with
    | some value => ({ content.1 with instructions := textOrNone value }, content.2)
    | none =>
      match stripLegacyMarker lower (strip line) "acceptance criteria:" with
      | some value =>
        ({ content.1 with acceptanceCriteria := parseAcceptanceCriteria value }, content.2)
      | none => (content.1, content.2 ++ [line])

def splitLegacyTaskContent (text : String) : ProjectedTaskContent :=
  let parsed := (splitlines text).foldl (splitLegacyLine lower) ({ intent := "" }, [])
  let intent := strip ("\n".intercalate parsed.2)
  { parsed.1 with intent := if intent = "" then strip text else intent }

def taskContent (task : TaskDomain) : ProjectedTaskContent :=
  let parsed := splitLegacyTaskContent lower task.intent
  { intent := parsed.intent
    summary := eitherText task.summary parsed.summary
    instructions := eitherText task.instructions parsed.instructions
    acceptanceCriteria :=
      if task.acceptanceCriteria = [] then parsed.acceptanceCriteria else task.acceptanceCriteria }

def preview (maxLen : ℕ) (text : String) : String :=
  let normalized := joinWords (strip text)
  if normalized.length ≤ maxLen then normalized
  else rstrip (String.ofList (normalized.toList.take (maxLen - 3))) ++ "..."

def title (intent : String) : Except ProjectionError String :=
  match splitlines (strip intent) with
  | [] => .error .index
  | firstLine :: _ => .ok (preview 80 firstLine)

/-! ### Permissions -/

/-- `_permissions_for_status`; a published task is never a draft. -/
def permissionsForStatus : TaskViewStatus → TaskCardPermissions
  | .pending => { canEdit := true, canAppendGuidance := true, canCancel := true }
  | .running => { canAppendGuidance := true, canResolveConfirmation := true, canCancel := true }
  | .waitingForUser => { readonlyReason := some "task is waiting for user input" }
  | .failed => { canRetry := true, readonlyReason := some "task failed" }
  | .cancelled => { readonlyReason := some "task was stopped" }
  | .done => { readonlyReason := some "task is done" }
  | .draft => { readonlyReason := some "unknown status: draft" }

def actionsForPermissions (permissions : TaskCardPermissions) : List TaskCardAction :=
  (if permissions.canResolveConfirmation then [⟨.confirm, "Confirm"⟩] else []) ++
    (if permissions.canEdit then [⟨.edit, "Edit"⟩] else []) ++
    (if permissions.canAppendGuidance then [⟨.appendGuidance, "Add guidance"⟩] else []) ++
    (if permissions.canPublish then [⟨.publish, "Publish"⟩] else []) ++
    (if permissions.canCancel then [⟨.cancel, "Cancel"⟩] else []) ++
    (if permissions.canRetry then [⟨.retry, "Retry"⟩] else []) ++
    [⟨.openDetail, "Open detail"⟩]

/-! ### The tree -/

def ordered (tasks : List TaskDomain) : List TaskDomain := sortOn TaskDomain.childOrder tasks

def childrenByParent (tasks : List TaskDomain) (parentId : Option String) : List TaskDomain :=
  tasks.filter fun task => task.parentId == parentId

def orderedChildren (tasks : List TaskDomain) (task : TaskDomain) : List TaskDomain :=
  ordered (childrenByParent tasks (some task.taskId))

/-- `_descendants`; nothing when the loop does not end. -/
def descendants (taskId : String) (tasks : List TaskDomain) : Option (List TaskDomain) :=
  drain (orderedChildren tasks) tasks.length (ordered (childrenByParent tasks (some taskId)))

/-- `{task.task_id: task for task in tasks}` -/
def taskById (tasks : List TaskDomain) : Dict String TaskDomain :=
  Dict.ofList (tasks.map fun task => (task.taskId, task))

/-- `_depth`; nothing when the loop does not end. -/
def depth (task : TaskDomain) (tasks : List TaskDomain) : Option ℕ :=
  climb (fun current => current.parentId.bind (taskById tasks).get?) (tasks.length + 1) 0 task

end Projection

/-- What the other stores tell of a task of a session; a store that is missing tells nothing. -/
structure ProjectionSources (M C F : Type) where
  latestMessage : String → TaskRef → Except ProjectionError (Option M)
  confirmations : String → TaskRef → Except ProjectionError (List C)
  listForTask : String → String → Except ProjectionError (List (TaskFileChangeSummary F))

structure DefaultTaskProjectionService (M C F : Type) where
  /-- `task_store.list_for_session` -/
  listForSession : String → Except BusError (List TaskDomain)
  sources : ProjectionSources M C F
  lower : String → String
  /-- How many calls of `_append_task_subtree` the interpreter nests. -/
  limit : ℕ

namespace DefaultTaskProjectionService

open Projection

variable {M C F : Type} (service : DefaultTaskProjectionService M C F)

def tasksOf (sessionId : String) : Except ProjectionError (List TaskDomain) :=
  (service.listForSession sessionId).mapError .bus

/-- `_file_changes_for_ref` without the tasks below. -/
def directFileChanges (sessionId : String) (ref : TaskRef) :
    Except ProjectionError (List (TaskFileChangeSummary F)) :=
  if ref.kind ≠ .published then .ok [] else service.sources.listForTask sessionId ref.id

/-- `_file_changes_for_ref` with the tasks below. -/
def subtreeFileChanges (sessionId : String) (ref : TaskRef) :
    Except ProjectionError (List (TaskFileChangeSummary F)) :=
  if ref.kind ≠ .published then .ok []
  else do
    let tasks ← service.tasksOf sessionId
    match descendants ref.id tasks with
    | none => throw .endless
    | some below =>
      let changes ← (ref.id :: below.map TaskDomain.taskId).mapM
        (service.sources.listForTask sessionId)
      pure (sortOn (fun change => toLex (change.recordedAt, change.changeId))
        (changes.flatten.map fun change =>
          { change with fromSubtree := change.ownerTaskRef.id ≠ ref.id }))

/-- The permissions of a card; a task that is being stopped cannot be stopped again. -/
def permissionsOf (task : TaskDomain) : TaskCardPermissions :=
  let permissions := permissionsForStatus (projectedTaskStatus service.lower task)
  if task.interruptRequested then
    { permissions with
      canCancel := false
      readonlyReason := eitherText permissions.readonlyReason (some "task stop already requested") }
  else permissions

def doneChildCount (childTasks : List TaskDomain) : ℕ :=
  childTasks.countP fun child => child.status = .done

def failedChildCount (lower : String → String) (childTasks : List TaskDomain) : ℕ :=
  childTasks.countP fun child => projectedTaskStatus lower child = .failed

def runningChildCount (childTasks : List TaskDomain) : ℕ :=
  childTasks.countP fun child => child.status = .running ∨ child.status = .waitingForUser

/-- The card that `_project_task` makes of what it has read. -/
def taskCard (task : TaskDomain) (childTasks : List TaskDomain) (depth : ℕ)
    (parentRef : Option TaskRef) (rootRef : TaskRef)
    (direct subtree : List (TaskFileChangeSummary F))
    (title : String) (confirmations : List C) (latestMessage : Option M) : TaskCardView M C F :=
  let content := taskContent service.lower task
  { taskRef := TaskRef.published task.taskId
    parentRef
    rootRef
    title
    intentPreview := (eitherText content.summary (some (preview 120 content.intent))).getD ""
    fullIntent := some content.intent
    instructions := content.instructions
    acceptanceCriteria := content.acceptanceCriteria
    status := projectedTaskStatus service.lower task
    depth
    orderIndex := task.orderIndex
    resultRef := task.resultRef
    errorRef := task.errorRef
    interruptRequested := task.interruptRequested
    badges :=
      { pendingConfirmationCount := confirmations.length
        directFileChangeCount := direct.length
        subtreeFileChangeCount := subtree.length
        childCount := childTasks.length
        doneChildCount := doneChildCount childTasks
        failedChildCount := failedChildCount service.lower childTasks }
    permissions := service.permissionsOf task
    primaryActions := actionsForPermissions (service.permissionsOf task)
    confirmation := confirmations.getLast?
    latestMessage
    fileSummary := subtree.head?
    progress :=
      if childTasks = [] then none
      else some
        { childCount := childTasks.length
          doneChildCount := doneChildCount childTasks
          failedChildCount := failedChildCount service.lower childTasks
          runningChildCount := runningChildCount childTasks } }

/-- `_project_task`, for the children in their order. -/
def projectTask (task : TaskDomain) (childTasks : List TaskDomain) (depth : ℕ)
    (parentRef : Option TaskRef) (rootRef : TaskRef) :
    Except ProjectionError (TaskCardView M C F) := do
  let ref := TaskRef.published task.taskId
  let direct ← service.directFileChanges task.sessionId ref
  let subtree ← service.subtreeFileChanges task.sessionId ref
  let title ← title (taskContent service.lower task).intent
  let confirmations ← service.sources.confirmations task.sessionId ref
  let latestMessage ← service.sources.latestMessage task.sessionId ref
  (service.taskCard task childTasks depth parentRef rootRef direct subtree title confirmations
    latestMessage).validate

/-- `_append_task_subtree`, with the calls that may still be nested. -/
def appendTaskSubtree (tasks : List TaskDomain) (rootRef : TaskRef) :
    ℕ → List (TaskCardView M C F) → TaskDomain → ℕ → Option TaskRef →
      Except ProjectionError (List (TaskCardView M C F))
  | 0, _, _, _, _ => .error .recursion
  | limit + 1, cards, task, depth, parentRef => do
    let taskRef := TaskRef.published task.taskId
    let childTasks := orderedChildren tasks task
    let card ← service.projectTask task childTasks depth parentRef rootRef
    childTasks.foldlM
      (fun cards child =>
        appendTaskSubtree tasks rootRef limit cards child (depth + 1) (some taskRef))
      (cards ++ [card])

def appendRoot (tasks : List TaskDomain) (cards : List (TaskCardView M C F)) (rootId : String) :
    Except ProjectionError (List (TaskCardView M C F)) :=
  match (taskById tasks).get? rootId with
  | none => .ok cards
  | some root =>
    service.appendTaskSubtree tasks (TaskRef.published root.rootId) service.limit cards root 0 none

def publishedCards (sessionId : String) (rootRef : Option TaskRef) :
    Except ProjectionError (List (TaskCardView M C F)) :=
  if rootRef.any fun ref => ref.kind ≠ .published then .ok []
  else do
    let tasks ← service.tasksOf sessionId
    let rootIds :=
      match rootRef with
      | some ref => [ref.id]
      | none => (ordered (childrenByParent tasks none)).map TaskDomain.taskId
    rootIds.foldlM (service.appendRoot tasks) []

end DefaultTaskProjectionService

end Taskweavn
