import Taskweavn.Execution.Models
import Taskweavn.Task.Bus

/-!
# The embedded task service

`EmbeddedTaskApiService` publishes task requests on the task bus
(`taskweavn/execution_plane/embedded_service.py`), and keeps an execution and an idempotency
record for each of them (`taskweavn/execution_plane/store.py`).  No runtime handler is
configured.

* `scopedIdempotencyKey`, `taskIdForRequest`, `executionIdForTaskId`, `sessionIdForRequest`: the
  names that a request gets.
* `publishTask`, `getTask`: the methods.
* `step`: any number of publish calls side by side, one access to the store or the bus at a
  time, and others who use the bus in between.  A call may stop at any point, and a call that is
  issued again is another call.  `publishTask_alone` says that a call whose steps are not
  interrupted is `publishTask`.

`publications` is a ghost field: the requests that a call has put on the bus a task for.
`wrote` says of a call that one of its steps has changed the executions or the records.
-/

namespace Taskweavn.ExecutionPlane

open Lib Py

/-! ### Errors -/

/-- `ExecutionPlaneError`, with one constructor for each message. -/
inductive ExecutionPlaneError
  /-- 409 `idempotency_conflict`: idempotency key was already used with a different request -/
  | idempotencyConflict (existingRequestHash requestHash : String)
  /-- 409 `capability_not_available`, retryable: no execution environment can satisfy the
  requested capability -/
  | capabilityNotAvailable (requiredCapability : String) (allowedTools : List String)
  /-- 404 `task_not_found`: task execution was not found -/
  | executionNotFound (executionId : String)
  /-- 404 `task_not_found`: execution task was not found in TaskBus -/
  | taskNotFound (executionId taskId : String)
  /-- 500 `execution_failed`, retryable: the text of the bus's error -/
  | executionFailed (cause : TaskStoreError) (taskId : String)
deriving DecidableEq

/-- What a publish call raises: an error of the service, the validation error of a task that it
builds, or an error of the bus that it does not catch. -/
inductive PublishError
  | plane (error : ExecutionPlaneError)
  | validation
  | bus (error : BusError)
deriving DecidableEq

/-! ### The store -/

structure TaskRequestIdempotencyRecord where
  scopedKey : String
  requestHash : String
  executionId : String
  request : TaskRequest
  createdAt : DateTime
  updatedAt : DateTime
deriving DecidableEq

/-- The part of the store that publishing uses. -/
structure InMemoryExecutionPlaneStore where
  idempotency : Dict String TaskRequestIdempotencyRecord := Dict.empty
  executions : Dict String TaskExecution := Dict.empty
  events : Dict String (List TaskEvent) := Dict.empty
deriving DecidableEq

namespace InMemoryExecutionPlaneStore

def getIdempotency (store : InMemoryExecutionPlaneStore) (scopedKey : String) :
    Option TaskRequestIdempotencyRecord :=
  store.idempotency.get? scopedKey

def putIdempotency (store : InMemoryExecutionPlaneStore) (record : TaskRequestIdempotencyRecord) :
    Except ExecutionPlaneError TaskRequestIdempotencyRecord × InMemoryExecutionPlaneStore :=
  match store.idempotency.get? record.scopedKey with
  | none =>
    (.ok record, { store with idempotency := store.idempotency.set record.scopedKey record })
  | some existing =>
    if existing.requestHash ≠ record.requestHash then
      (.error (.idempotencyConflict existing.requestHash record.requestHash), store)
    else (.ok existing, store)

def putExecution (store : InMemoryExecutionPlaneStore) (execution : TaskExecution) :
    InMemoryExecutionPlaneStore :=
  { store with executions := store.executions.set execution.executionId execution }

def getExecution (store : InMemoryExecutionPlaneStore) (executionId : String) :
    Option TaskExecution :=
  store.executions.get? executionId

def appendEvent (store : InMemoryExecutionPlaneStore) (event : TaskEvent) :
    InMemoryExecutionPlaneStore :=
  { store with
    events := store.events.set event.executionId
      ((store.events.get? event.executionId).getD [] ++ [event]) }

end InMemoryExecutionPlaneStore

/-! ### The service -/

/-- `uuid5(NAMESPACE_URL, name).hex` -/
structure UrlUuid5 where
  hex : String → String
  injective : Function.Injective hex
  ne_empty : ∀ name, hex name ≠ ""

/-- The service with its registry of environments.  `sha256` is the digest, as a function of the
document that is encoded. -/
structure EmbeddedTaskApiService where
  uuid5 : UrlUuid5
  sha256 : TaskRequest → String
  envs : Dict String ExecutionEnv
  defaultSessionId : String := "execution-plane"

/-- What a publish call reads from outside: `utcnow()` twice, and the id of its event. -/
structure CallReadings where
  now : DateTime
  taskNow : DateTime
  eventId : String

def scopedIdempotencyKey (request : TaskRequest) : String :=
  request.requester.scopedId ++ ":" ++ request.idempotencyKey.val

def executionIdForTaskId (taskId : String) : String := "exec_" ++ taskId

def safeRequester (id : String) : String := replaceChar ':' '_' (replaceChar '/' '_' id)

def optionalStr : PyValue → Option String
  | .str s => if isBlank s then none else some (strip s)
  | _ => none

def stringTuple : PyValue → List String
  | .list items | .tuple items => items.filterMap optionalStr
  | _ => []

def statusFromTask : TaskStatus → TaskExecutionStatus
  | .pending => .pending
  | .running => .running
  | .waitingForUser => .waitingForUser
  | .done => .done
  | .failed => .failed

def executionFromTask (execution : TaskExecution) (task : TaskDomain) : TaskExecution :=
  { execution with
    status := statusFromTask task.status
    updatedAt := (task.completedAt.or task.startedAt).getD execution.updatedAt
    startedAt := task.startedAt
    completedAt := task.completedAt
    resultRef := task.resultRef
    errorRef := task.errorRef }

/-- `_task_for_request`, before the task is validated. -/
def taskForRequest (request : TaskRequest) (sessionId taskId : String) (now : DateTime) :
    TaskDomain where
  taskId := taskId
  sessionId := sessionId
  rootId := taskId
  intent := request.intent.val
  summary := optionalStr ((request.input.get? "summary").getD .none)
  instructions := optionalStr ((request.input.get? "instructions").getD .none)
  acceptanceCriteria :=
    stringTuple (TaskRequest.getOr request.input "acceptanceCriteria" "acceptance_criteria")
  requiredCapability := request.policy.requiredCapability.val
  dispatchConstraints := some
    { requiredCapabilities := [request.policy.requiredCapability.val]
      metadata := Dict.ofList
        ([("execution_plane_requester", request.requester.modelDump),
          ("execution_plane_task_type", .str request.taskType.val),
          ("execution_plane_idempotency_key", .str request.idempotencyKey.val),
          ("execution_plane_allowed_tools", .list (request.policy.allowedTools.map .str)),
          ("execution_plane_denied_tools", .list (request.policy.deniedTools.map .str))] ++
        (request.externalRef.map fun r => ("execution_plane_external_ref", r.modelDump)).toList) }
  status := .pending
  createdBy := request.requester.scopedId
  createdAt := now

namespace EmbeddedTaskApiService

variable (svc : EmbeddedTaskApiService)

def requestHash (request : TaskRequest) : String := svc.sha256 request.content

def taskIdForRequest (request : TaskRequest) : String :=
  svc.uuid5.hex ("taskweavn.execution_plane.task:" ++
    (request.requester.scopedId ++ ":" ++ request.idempotencyKey.val))

def sessionIdForRequest (request : TaskRequest) : String :=
  match request.requestedSession with
  | some session => session
  | none =>
    if request.requester.kind = .plato ∧
        request.externalRef.any (fun r => r.system.val == "plato") = true then
      svc.defaultSessionId
    else
      let safe := safeRequester request.requester.id.val
      if safe ≠ "" then "external:" ++ safe else svc.defaultSessionId

def findCompatible (policy : CapabilityPolicy) : Option ExecutionEnv :=
  (sortOn (fun env : ExecutionEnv => env.envId.val)
    (svc.envs.values.filter fun env => env.supports policy)).head?

def task (request : TaskRequest) (readings : CallReadings) : TaskDomain :=
  taskForRequest request (svc.sessionIdForRequest request) (svc.taskIdForRequest request)
    readings.taskNow

def execution (request : TaskRequest) (readings : CallReadings) (env : ExecutionEnv) :
    TaskExecution where
  executionId := executionIdForTaskId (svc.taskIdForRequest request)
  taskId := svc.taskIdForRequest request
  requestId := scopedIdempotencyKey request
  status := .pending
  requester := request.requester
  externalRef := request.externalRef
  taskType := request.taskType.val
  requiredCapability := request.policy.requiredCapability.val
  envId := some env.envId.val
  createdAt := readings.now
  updatedAt := readings.now
  sessionId := svc.sessionIdForRequest request

def record (request : TaskRequest) (readings : CallReadings) : TaskRequestIdempotencyRecord where
  scopedKey := scopedIdempotencyKey request
  requestHash := svc.requestHash request
  executionId := executionIdForTaskId (svc.taskIdForRequest request)
  request := request
  createdAt := readings.now
  updatedAt := readings.now

def acceptedEvent (request : TaskRequest) (readings : CallReadings) (env : ExecutionEnv) :
    TaskEvent where
  eventId := readings.eventId
  executionId := executionIdForTaskId (svc.taskIdForRequest request)
  taskId := svc.taskIdForRequest request
  kind := .accepted
  occurredAt := readings.now
  summary := "Task accepted by Execution Plane."
  data := Dict.ofList
    [("taskType", .str request.taskType.val),
     ("requiredCapability", .str request.policy.requiredCapability.val),
     ("envId", .str env.envId.val)]

variable {B : Type} [TaskBus B]

def getTask (bus : B) (store : InMemoryExecutionPlaneStore) (executionId : String) :
    Except PublishError TaskExecution × InMemoryExecutionPlaneStore :=
  match store.getExecution executionId with
  | none => (.error (.plane (.executionNotFound executionId)), store)
  | some execution =>
    match TaskBus.get bus execution.sessionId execution.taskId with
    | .error e => (.error (.bus e), store)
    | .ok none => (.error (.plane (.taskNotFound execution.executionId execution.taskId)), store)
    | .ok (some task) =>
      let updated := executionFromTask execution task
      if updated ≠ execution then (.ok updated, store.putExecution updated)
        else (.ok updated, store)

/-- The end of `publish_task`, when the task is on the bus. -/
def accept (store : InMemoryExecutionPlaneStore) (request : TaskRequest) (readings : CallReadings)
    (env : ExecutionEnv) : Except PublishError TaskExecution × InMemoryExecutionPlaneStore :=
  let execution := svc.execution request readings env
  match (store.putExecution execution).putIdempotency (svc.record request readings) with
  | (.error e, store) => (.error (.plane e), store)
  | (.ok _, store) => (.ok execution, store.appendEvent (svc.acceptedEvent request readings env))

/-- The end of `publish_task`, when the bus has refused the task. -/
def confirm (bus : B) (store : InMemoryExecutionPlaneStore) (request : TaskRequest)
    (readings : CallReadings) (env : ExecutionEnv) (e : TaskStoreError) :
    Except PublishError TaskExecution × B × InMemoryExecutionPlaneStore :=
  let task := svc.task request readings
  match TaskBus.get bus task.sessionId task.taskId with
  | .error e' => (.error (.bus e'), bus, store)
  | .ok none => (.error (.plane (.executionFailed e task.taskId)), bus, store)
  | .ok (some _) =>
    let (out, store) := svc.accept store request readings env
    (out, bus, store)

def publishTask (bus : B) (store : InMemoryExecutionPlaneStore) (request : TaskRequest)
    (readings : CallReadings) :
    Except PublishError TaskExecution × B × InMemoryExecutionPlaneStore :=
  match store.getIdempotency (scopedIdempotencyKey request) with
  | some existing =>
    if existing.requestHash ≠ svc.requestHash request then
      (.error (.plane (.idempotencyConflict existing.requestHash (svc.requestHash request))), bus,
        store)
    else
      let (out, store) := getTask bus store existing.executionId
      (out, bus, store)
  | none =>
    match svc.findCompatible request.policy with
    | none =>
      (.error (.plane (.capabilityNotAvailable request.policy.requiredCapability.val
        request.policy.allowedTools)), bus, store)
    | some env =>
      let task := svc.task request readings
      if ¬task.Valid then (.error .validation, bus, store)
      else
        match TaskBus.publish bus task with
        | (.ok _, bus) =>
          let (out, store) := svc.accept store request readings env
          (out, bus, store)
        | (.error (.store e), bus) => svc.confirm bus store request readings env e
        | (.error e, bus) => (.error (.bus e), bus, store)

end EmbeddedTaskApiService

/-! ### Calls side by side -/

/-- How far a publish call has come. -/
inductive PublishPhase
  /-- looks its record and an environment up -/
  | lookup
  /-- replays an execution: reads it, reads its task, writes it when it has changed -/
  | load (executionId : String)
  | read (execution : TaskExecution)
  | refresh (updated : TaskExecution)
  /-- publishes: the task, a look at the bus after an error, the execution, the record, the
  event -/
  | publish (env : ExecutionEnv)
  | confirm (env : ExecutionEnv) (error : TaskStoreError)
  | putExecution (env : ExecutionEnv)
  | putIdempotency (env : ExecutionEnv)
  | appendEvent (env : ExecutionEnv)
  | returned (execution : TaskExecution)
  | raised (error : PublishError)
  /-- The process of the call has ended. -/
  | stopped

/-- The call makes no more steps. -/
def PublishPhase.over : PublishPhase → Bool
  | .returned _ | .raised _ | .stopped => true
  | _ => false

structure PublishCall where
  request : TaskRequest
  readings : CallReadings
  phase : PublishPhase := .lookup
  /-- Some step of the call has changed the executions or the records. -/
  wrote : Bool := false

/-- The call after a step, between two states of the store. -/
def PublishCall.after (call : PublishCall) (phase : PublishPhase)
    (before after : InMemoryExecutionPlaneStore) : PublishCall :=
  { call with
    phase := phase
    wrote := call.wrote || decide (after.executions ≠ before.executions) ||
      decide (after.idempotency ≠ before.idempotency) }

structure PlaneState (B : Type) where
  bus : B
  store : InMemoryExecutionPlaneStore := {}
  calls : List PublishCall := []
  /-- The requests that a task was put on the bus for. -/
  publications : List TaskRequest := []

inductive PlaneAction
  | start (request : TaskRequest) (readings : CallReadings)
  /-- The next step of a call. -/
  | advance (n : ℕ)
  /-- A call stops where it is. -/
  | stop (n : ℕ)
  /-- Somebody else uses the bus. -/
  | other (c : BusCall)

namespace EmbeddedTaskApiService

variable (svc : EmbeddedTaskApiService) {B : Type} [TaskBus B]

def advance (s : PlaneState B) (request : TaskRequest) (readings : CallReadings) :
    PublishPhase → Option (PublishPhase × PlaneState B)
  | .lookup =>
    match s.store.getIdempotency (scopedIdempotencyKey request) with
    | some existing =>
      if existing.requestHash ≠ svc.requestHash request then
        some (.raised (.plane (.idempotencyConflict existing.requestHash
          (svc.requestHash request))), s)
      else some (.load existing.executionId, s)
    | none =>
      match svc.findCompatible request.policy with
      | none =>
        some (.raised (.plane (.capabilityNotAvailable request.policy.requiredCapability.val
          request.policy.allowedTools)), s)
      | some env => some (.publish env, s)
  | .load executionId =>
    match s.store.getExecution executionId with
    | none => some (.raised (.plane (.executionNotFound executionId)), s)
    | some execution => some (.read execution, s)
  | .read execution =>
    match TaskBus.get s.bus execution.sessionId execution.taskId with
    | .error e => some (.raised (.bus e), s)
    | .ok none =>
      some (.raised (.plane (.taskNotFound execution.executionId execution.taskId)), s)
    | .ok (some task) =>
      let updated := executionFromTask execution task
      if updated ≠ execution then some (.refresh updated, s) else some (.returned updated, s)
  | .refresh updated =>
    some (.returned updated, { s with store := s.store.putExecution updated })
  | .publish env =>
    let task := svc.task request readings
    if ¬task.Valid then some (.raised .validation, s)
    else
      match TaskBus.publish s.bus task with
      | (.ok _, bus) =>
        some (.putExecution env, { s with bus := bus, publications := s.publications ++ [request] })
      | (.error (.store e), bus) => some (.confirm env e, { s with bus := bus })
      | (.error e, bus) => some (.raised (.bus e), { s with bus := bus })
  | .confirm env e =>
    let task := svc.task request readings
    match TaskBus.get s.bus task.sessionId task.taskId with
    | .error e' => some (.raised (.bus e'), s)
    | .ok none => some (.raised (.plane (.executionFailed e task.taskId)), s)
    | .ok (some _) => some (.putExecution env, s)
  | .putExecution env =>
    some (.putIdempotency env,
      { s with store := s.store.putExecution (svc.execution request readings env) })
  | .putIdempotency env =>
    match s.store.putIdempotency (svc.record request readings) with
    | (.error e, store) => some (.raised (.plane e), { s with store := store })
    | (.ok _, store) => some (.appendEvent env, { s with store := store })
  | .appendEvent env =>
    some (.returned (svc.execution request readings env),
      { s with store := s.store.appendEvent (svc.acceptedEvent request readings env) })
  | .returned _ => none
  | .raised _ => none
  | .stopped => none

def step (s : PlaneState B) : PlaneAction → Option (PlaneState B)
  | .start request readings =>
    some { s with calls := s.calls ++ [{ request := request, readings := readings }] }
  | .advance n =>
    (s.calls[n]?).bind fun call =>
      (svc.advance s call.request call.readings call.phase).map fun (phase, s') =>
        { s' with calls := s'.calls.set n (call.after phase s.store s'.store) }
  | .stop n =>
    (s.calls[n]?).bind fun call =>
      if call.phase.over then none
      else some { s with calls := s.calls.set n { call with phase := .stopped } }
  | .other c => some { s with bus := (TaskBus.step s.bus c).2 }

/-! ### A step inverted -/

variable {svc} {s s' : PlaneState B} {request : TaskRequest} {readings : CallReadings}
  {phase phase' : PublishPhase}

/-- The ways in which a call goes on. -/
inductive Moves (svc : EmbeddedTaskApiService) (s : PlaneState B) (request : TaskRequest)
    (readings : CallReadings) : PublishPhase → PublishPhase → PlaneState B → Prop
  | conflict (existing : TaskRequestIdempotencyRecord)
      (hrec : s.store.idempotency.get? (scopedIdempotencyKey request) = some existing)
      (hash : existing.requestHash ≠ svc.requestHash request) :
      Moves svc s request readings .lookup (.raised (.plane (.idempotencyConflict
        existing.requestHash (svc.requestHash request)))) s
  | replays (existing : TaskRequestIdempotencyRecord)
      (hrec : s.store.idempotency.get? (scopedIdempotencyKey request) = some existing)
      (hash : existing.requestHash = svc.requestHash request) :
      Moves svc s request readings .lookup (.load existing.executionId) s
  | unavailable : Moves svc s request readings .lookup (.raised (.plane (.capabilityNotAvailable
      request.policy.requiredCapability.val request.policy.allowedTools))) s
  | missed (env : ExecutionEnv)
      (hrec : s.store.idempotency.get? (scopedIdempotencyKey request) = none) :
      Moves svc s request readings .lookup (.publish env) s
  | unloaded (executionId : String) : Moves svc s request readings (.load executionId)
      (.raised (.plane (.executionNotFound executionId))) s
  | loaded (executionId : String) (execution : TaskExecution)
      (hexec : s.store.executions.get? executionId = some execution) :
      Moves svc s request readings (.load executionId) (.read execution) s
  | unread (execution : TaskExecution) (error : PublishError)
      (herror : error = .plane (.taskNotFound execution.executionId execution.taskId) ∨
        ∃ e, error = .bus e) :
      Moves svc s request readings (.read execution) (.raised error) s
  | stale (execution : TaskExecution) (task : TaskDomain)
      (hget : TaskBus.get s.bus execution.sessionId execution.taskId = .ok (some task)) :
      Moves svc s request readings (.read execution)
        (.refresh (executionFromTask execution task)) s
  | current (execution : TaskExecution) (task : TaskDomain)
      (hget : TaskBus.get s.bus execution.sessionId execution.taskId = .ok (some task)) :
      Moves svc s request readings (.read execution)
        (.returned (executionFromTask execution task)) s
  | refreshed (updated : TaskExecution) : Moves svc s request readings (.refresh updated)
      (.returned updated) { s with store := s.store.putExecution updated }
  | invalid (env : ExecutionEnv) :
      Moves svc s request readings (.publish env) (.raised .validation) s
  | published (env : ExecutionEnv) (valid : (svc.task request readings).Valid) (u : TaskDomain)
      (bus : B) (hpub : TaskBus.publish s.bus (svc.task request readings) = (.ok u, bus)) :
      Moves svc s request readings (.publish env) (.putExecution env)
        { s with bus := bus, publications := s.publications ++ [request] }
  | refused (env : ExecutionEnv) (valid : (svc.task request readings).Valid) (e : TaskStoreError)
      (bus : B)
      (hpub : TaskBus.publish s.bus (svc.task request readings) = (.error (.store e), bus)) :
      Moves svc s request readings (.publish env) (.confirm env e) { s with bus := bus }
  | failed (env : ExecutionEnv) (valid : (svc.task request readings).Valid) (e : BusError)
      (bus : B) (hpub : TaskBus.publish s.bus (svc.task request readings) = (.error e, bus)) :
      Moves svc s request readings (.publish env) (.raised (.bus e)) { s with bus := bus }
  | unconfirmed (env : ExecutionEnv) (e : TaskStoreError) (error : PublishError)
      (herror : error = .plane (.executionFailed e (svc.taskIdForRequest request)) ∨
        ∃ e', error = .bus e') :
      Moves svc s request readings (.confirm env e) (.raised error) s
  | confirmed (env : ExecutionEnv) (e : TaskStoreError) (task : TaskDomain)
      (hget : TaskBus.get s.bus (svc.sessionIdForRequest request) (svc.taskIdForRequest request) =
        .ok (some task)) :
      Moves svc s request readings (.confirm env e) (.putExecution env) s
  | executionPut (env : ExecutionEnv) :
      Moves svc s request readings (.putExecution env) (.putIdempotency env)
        { s with store := s.store.putExecution (svc.execution request readings env) }
  | recordPut (env : ExecutionEnv)
      (hrec : s.store.idempotency.get? (scopedIdempotencyKey request) = none) :
      Moves svc s request readings (.putIdempotency env) (.appendEvent env)
        { s with
          store := { s.store with
            idempotency := s.store.idempotency.set (scopedIdempotencyKey request)
              (svc.record request readings) } }
  | recordFound (env : ExecutionEnv) (existing : TaskRequestIdempotencyRecord)
      (hrec : s.store.idempotency.get? (scopedIdempotencyKey request) = some existing)
      (hash : existing.requestHash = svc.requestHash request) :
      Moves svc s request readings (.putIdempotency env) (.appendEvent env) s
  | overtaken (env : ExecutionEnv) (existing : TaskRequestIdempotencyRecord)
      (hrec : s.store.idempotency.get? (scopedIdempotencyKey request) = some existing)
      (hash : existing.requestHash ≠ svc.requestHash request) :
      Moves svc s request readings (.putIdempotency env) (.raised (.plane (.idempotencyConflict
        existing.requestHash (svc.requestHash request)))) s
  | accepted (env : ExecutionEnv) :
      Moves svc s request readings (.appendEvent env)
        (.returned (svc.execution request readings env))
        { s with store := s.store.appendEvent (svc.acceptedEvent request readings env) }

theorem lookup_moves (svc : EmbeddedTaskApiService) (s : PlaneState B) (request : TaskRequest)
    (readings : CallReadings) :
    ∃ phase', svc.advance s request readings .lookup = some (phase', s) ∧
      Moves svc s request readings .lookup phase' s := by
  simp only [advance, InMemoryExecutionPlaneStore.getIdempotency]
  cases hrec : s.store.idempotency.get? (scopedIdempotencyKey request) with
  | some existing =>
    by_cases hash : existing.requestHash ≠ svc.requestHash request
    · exact ⟨_, if_pos hash, .conflict existing hrec hash⟩
    · exact ⟨_, if_neg hash, .replays existing hrec (not_not.mp hash)⟩
  | none =>
    cases svc.findCompatible request.policy with
    | none => exact ⟨_, rfl, .unavailable⟩
    | some env => exact ⟨_, rfl, .missed env hrec⟩

theorem publish_moves (svc : EmbeddedTaskApiService) (s : PlaneState B) (request : TaskRequest)
    (readings : CallReadings) (env : ExecutionEnv) :
    ∃ phase' s', svc.advance s request readings (.publish env) = some (phase', s') ∧
      s'.calls = s.calls ∧ Moves svc s request readings (.publish env) phase' s' := by
  by_cases hvalid : (svc.task request readings).Valid
  · rcases hpub : TaskBus.publish s.bus (svc.task request readings) with ⟨e | u, bus⟩
    · cases e with
      | store e =>
        refine ⟨.confirm env e, { s with bus := bus }, ?_, rfl, .refused env hvalid e bus hpub⟩
        simp only [advance, not_not.mpr hvalid, if_false, hpub]
      | validation e =>
        refine ⟨_, { s with bus := bus }, ?_, rfl, .failed env hvalid _ bus hpub⟩
        simp only [advance, not_not.mpr hvalid, if_false, hpub]
      | overflow =>
        refine ⟨_, { s with bus := bus }, ?_, rfl, .failed env hvalid _ bus hpub⟩
        simp only [advance, not_not.mpr hvalid, if_false, hpub]
    · refine ⟨.putExecution env,
        { s with bus := bus, publications := s.publications ++ [request] }, ?_, rfl,
        .published env hvalid u bus hpub⟩
      simp only [advance, not_not.mpr hvalid, if_false, hpub]
  · exact ⟨_, s, if_pos hvalid, rfl, .invalid env⟩

theorem moves_of_not_over (svc : EmbeddedTaskApiService) (s : PlaneState B) (request : TaskRequest)
    (readings : CallReadings) (phase : PublishPhase) (hover : phase.over = false) :
    ∃ phase' s', svc.advance s request readings phase = some (phase', s') ∧
      s'.calls = s.calls ∧ Moves svc s request readings phase phase' s' := by
  cases phase with
  | lookup =>
    obtain ⟨phase', hadv, hmove⟩ := lookup_moves svc s request readings
    exact ⟨phase', s, hadv, rfl, hmove⟩
  | load executionId =>
    simp only [advance, InMemoryExecutionPlaneStore.getExecution]
    cases hexec : s.store.executions.get? executionId with
    | none => exact ⟨_, s, rfl, rfl, .unloaded executionId⟩
    | some execution => exact ⟨_, s, rfl, rfl, .loaded executionId execution hexec⟩
  | read execution =>
    simp only [advance]
    cases hget : TaskBus.get s.bus execution.sessionId execution.taskId with
    | error e => exact ⟨_, s, rfl, rfl, .unread execution _ (.inr ⟨e, rfl⟩)⟩
    | ok o =>
      cases o with
      | none => exact ⟨_, s, rfl, rfl, .unread execution _ (.inl rfl)⟩
      | some task =>
        by_cases hnew : executionFromTask execution task ≠ execution
        · exact ⟨_, s, if_pos hnew, rfl, .stale execution task hget⟩
        · exact ⟨_, s, if_neg hnew, rfl, .current execution task hget⟩
  | refresh updated => exact ⟨_, _, rfl, rfl, .refreshed updated⟩
  | publish env => exact publish_moves svc s request readings env
  | confirm env e =>
    simp only [advance]
    cases hget : TaskBus.get s.bus (svc.task request readings).sessionId
        (svc.task request readings).taskId with
    | error e' => exact ⟨_, s, rfl, rfl, .unconfirmed env e _ (.inr ⟨e', rfl⟩)⟩
    | ok o =>
      cases o with
      | none => exact ⟨_, s, rfl, rfl, .unconfirmed env e _ (.inl rfl)⟩
      | some task => exact ⟨_, s, rfl, rfl, .confirmed env e task hget⟩
  | putExecution env => exact ⟨_, _, rfl, rfl, .executionPut env⟩
  | putIdempotency env =>
    simp only [advance, InMemoryExecutionPlaneStore.putIdempotency]
    cases hrec : s.store.idempotency.get? (svc.record request readings).scopedKey with
    | none => exact ⟨_, _, rfl, rfl, .recordPut env hrec⟩
    | some existing =>
      by_cases hash : existing.requestHash ≠ (svc.record request readings).requestHash
      · refine ⟨_, s, ?_, rfl, .overtaken env existing hrec hash⟩
        simp only [if_pos hash]
        rfl
      · refine ⟨_, s, ?_, rfl, .recordFound env existing hrec (not_not.mp hash)⟩
        simp only [if_neg hash]
  | appendEvent env => exact ⟨_, _, rfl, rfl, .accepted env⟩
  | returned e => cases hover
  | raised e => cases hover
  | stopped => cases hover

/-- **A step of a call inverted.** -/
theorem advance_cases (h : svc.advance s request readings phase = some (phase', s')) :
    s'.calls = s.calls ∧ Moves svc s request readings phase phase' s' := by
  have hover : phase.over = false := by
    cases phase <;> first | rfl | cases h
  obtain ⟨p, t, hadv, hcalls, hmove⟩ := moves_of_not_over svc s request readings phase hover
  rw [hadv] at h
  cases h
  exact ⟨hcalls, hmove⟩

/-- **A step inverted.** -/
theorem step_cases {a : PlaneAction} (h : svc.step s a = some s') :
    (∃ request readings, a = .start request readings ∧
      s' = { s with calls := s.calls ++ [{ request := request, readings := readings }] }) ∨
    (∃ n call phase t, a = .advance n ∧ s.calls[n]? = some call ∧
      Moves svc s call.request call.readings call.phase phase t ∧
      s' = { t with calls := s.calls.set n (call.after phase s.store t.store) }) ∨
    (∃ n call, a = .stop n ∧ s.calls[n]? = some call ∧ call.phase.over = false ∧
      s' = { s with calls := s.calls.set n { call with phase := .stopped } }) ∨
    ∃ c, a = .other c ∧ s' = { s with bus := (TaskBus.step s.bus c).2 } := by
  cases a with
  | start request readings =>
    cases h
    exact .inl ⟨request, readings, rfl, rfl⟩
  | other c =>
    cases h
    exact .inr (.inr (.inr ⟨c, rfl, rfl⟩))
  | stop n =>
    obtain ⟨call, hcall, hstop⟩ := Option.bind_eq_some_iff.mp h
    cases hover : call.phase.over with
    | true =>
      rw [if_pos hover] at hstop
      cases hstop
    | false =>
      rw [if_neg (by rw [hover]; exact Bool.false_ne_true)] at hstop
      cases hstop
      exact .inr (.inr (.inl ⟨n, call, rfl, hcall, hover, rfl⟩))
  | advance n =>
    obtain ⟨call, hcall, hmap⟩ := Option.bind_eq_some_iff.mp h
    obtain ⟨⟨phase, t⟩, hadv, rfl⟩ := Option.map_eq_some_iff.mp hmap
    obtain ⟨hcalls, hmove⟩ := advance_cases hadv
    refine .inr (.inl ⟨n, call, phase, t, rfl, hcall, hmove, ?_⟩)
    simp only [hcalls]

/-! ### A call alone -/

/-- The phase of a call that is over. -/
def finished : Except PublishError TaskExecution → PublishPhase
  | .ok execution => .returned execution
  | .error e => .raised e

/-- A call in this phase, over this bus and this store, can go on alone until it is over with the
given outcome. -/
def Ends (svc : EmbeddedTaskApiService) (request : TaskRequest) (readings : CallReadings)
    (phase : PublishPhase) (bus : B) (store : InMemoryExecutionPlaneStore)
    (out : Except PublishError TaskExecution × B × InMemoryExecutionPlaneStore) : Prop :=
  ∀ (n : ℕ) (s : PlaneState B) (call : PublishCall), s.calls[n]? = some call →
    call.request = request → call.readings = readings → call.phase = phase → s.bus = bus →
    s.store = store →
    ∃ k s', execAll svc.step s (List.replicate k (.advance n)) = some s' ∧
      (s'.bus, s'.store) = out.2 ∧ s'.calls[n]?.map PublishCall.phase = some (finished out.1)

variable {bus bus' : B} {store store' : InMemoryExecutionPlaneStore}
  {out : Except PublishError TaskExecution × B × InMemoryExecutionPlaneStore}

theorem ends_finished (o : Except PublishError TaskExecution) :
    Ends svc request readings (finished o) bus store (o, bus, store) := by
  rintro n s call hc - - hphase rfl rfl
  exact ⟨0, s, rfl, rfl, by rw [hc, Option.map_some, hphase]⟩

theorem Ends.head (phase' : PublishPhase)
    (h : ∀ s : PlaneState B, s.bus = bus → s.store = store → ∃ t,
      svc.advance s request readings phase = some (phase', t) ∧ t.bus = bus' ∧ t.store = store')
    (hrest : Ends svc request readings phase' bus' store' out) :
    Ends svc request readings phase bus store out := by
  rintro n s call hc rfl rfl rfl hbus hstore
  obtain ⟨t, hadv, hbus', hstore'⟩ := h s hbus hstore
  have hcalls := (advance_cases hadv).1
  have hlt : n < t.calls.length := by
    rw [hcalls]
    exact (List.getElem?_eq_some_iff.mp hc).1
  obtain ⟨k, s', hrun, hout⟩ := hrest n
    { t with calls := t.calls.set n (call.after phase' s.store t.store) }
    (call.after phase' s.store t.store) (List.getElem?_set_self hlt) rfl rfl rfl hbus' hstore'
  refine ⟨k + 1, s', ?_, hout⟩
  rw [List.replicate_succ, execAll, step, hc, Option.bind_some, hadv, Option.map_some,
    Option.bind_some]
  exact hrun

theorem ends_accept (env : ExecutionEnv) : Ends svc request readings (.putExecution env) bus store
    ((svc.accept store request readings env).1, bus,
      (svc.accept store request readings env).2) := by
  refine .head _ (fun s hbus hstore => ⟨_, rfl, hbus, by rw [hstore]⟩) ?_
  unfold accept
  rcases hput : (store.putExecution (svc.execution request readings env)).putIdempotency
    (svc.record request readings) with ⟨e | r, store'⟩
  · simp only [hput]
    refine .head _ (fun s hbus hstore => ⟨{ s with store := store' }, ?_, hbus, rfl⟩)
      (ends_finished (.error (.plane e)))
    simp only [advance, hstore, hput]
    rfl
  · simp only [hput]
    refine .head (.appendEvent env)
      (fun s hbus hstore => ⟨{ s with store := store' }, ?_, hbus, rfl⟩) ?_
    · simp only [advance, hstore, hput]
    · exact .head _ (fun s hbus hstore => ⟨_, rfl, hbus, by rw [hstore]⟩) (ends_finished (.ok _))

theorem ends_getTask (executionId : String) : Ends svc request readings (.load executionId) bus
    store ((getTask bus store executionId).1, bus, (getTask bus store executionId).2) := by
  unfold getTask
  cases hexec : store.getExecution executionId with
  | none =>
    dsimp only
    refine .head _ (fun s hbus hstore => ⟨s, ?_, hbus, hstore⟩) (ends_finished (.error _))
    simp only [advance, hstore, hexec]
    rfl
  | some execution =>
    dsimp only
    refine .head (.read execution) (fun s hbus hstore => ⟨s, ?_, hbus, hstore⟩) ?_
    · simp only [advance, hstore, hexec]
    · cases hget : TaskBus.get bus execution.sessionId execution.taskId with
      | error e =>
        dsimp only
        refine .head _ (fun s hbus hstore => ⟨s, ?_, hbus, hstore⟩) (ends_finished (.error _))
        simp only [advance, hbus, hget]
        rfl
      | ok o =>
        cases o with
        | none =>
          dsimp only
          refine .head _ (fun s hbus hstore => ⟨s, ?_, hbus, hstore⟩) (ends_finished (.error _))
          simp only [advance, hbus, hget]
          rfl
        | some task =>
          by_cases hnew : executionFromTask execution task ≠ execution
          · simp only [if_pos hnew]
            refine .head (.refresh (executionFromTask execution task))
              (fun s hbus hstore => ⟨s, ?_, hbus, hstore⟩) ?_
            · simp only [advance, hbus, hget, if_pos hnew]
            · exact .head _ (fun s hbus hstore => ⟨_, rfl, hbus, by rw [hstore]⟩)
                (ends_finished (.ok _))
          · simp only [if_neg hnew]
            refine .head _ (fun s hbus hstore => ⟨s, ?_, hbus, hstore⟩) (ends_finished (.ok _))
            simp only [advance, hbus, hget, if_neg hnew]
            rfl

theorem ends_confirm (env : ExecutionEnv) (e : TaskStoreError) :
    Ends svc request readings (.confirm env e) bus store
      (svc.confirm bus store request readings env e) := by
  unfold confirm
  dsimp only
  cases hget : TaskBus.get bus (svc.task request readings).sessionId
      (svc.task request readings).taskId with
  | error e' =>
    refine .head _ (fun s hbus hstore => ⟨s, ?_, hbus, hstore⟩) (ends_finished (.error _))
    simp only [advance, hbus, hget]
    rfl
  | ok o =>
    cases o with
    | none =>
      refine .head _ (fun s hbus hstore => ⟨s, ?_, hbus, hstore⟩) (ends_finished (.error _))
      simp only [advance, hbus, hget]
      rfl
    | some task =>
      refine .head _ (fun s hbus hstore => ⟨s, ?_, hbus, hstore⟩) (ends_accept env)
      simp only [advance, hbus, hget]

/-- **A call whose steps are not interrupted** is `publishTask`. -/
theorem publishTask_alone (svc : EmbeddedTaskApiService) (request : TaskRequest)
    (readings : CallReadings) (bus : B) (store : InMemoryExecutionPlaneStore) :
    Ends svc request readings .lookup bus store (svc.publishTask bus store request readings) := by
  unfold publishTask
  cases hrec : store.getIdempotency (scopedIdempotencyKey request) with
  | some existing =>
    by_cases hash : existing.requestHash ≠ svc.requestHash request
    · simp only [if_pos hash]
      refine .head _ (fun s hbus hstore => ⟨s, ?_, hbus, hstore⟩) (ends_finished (.error _))
      simp only [advance, hstore, hrec, if_pos hash]
      rfl
    · simp only [if_neg hash]
      refine .head _ (fun s hbus hstore => ⟨s, ?_, hbus, hstore⟩)
        (ends_getTask existing.executionId)
      simp only [advance, hstore, hrec, if_neg hash]
  | none =>
    cases henv : svc.findCompatible request.policy with
    | none =>
      refine .head _ (fun s hbus hstore => ⟨s, ?_, hbus, hstore⟩) (ends_finished (.error _))
      simp only [advance, hstore, hrec, henv]
      rfl
    | some env =>
      refine .head (.publish env) (fun s hbus hstore => ⟨s, ?_, hbus, hstore⟩) ?_
      · simp only [advance, hstore, hrec, henv]
      · by_cases hvalid : ¬(svc.task request readings).Valid
        · simp only [if_pos hvalid]
          refine .head _ (fun s hbus hstore => ⟨s, ?_, hbus, hstore⟩) (ends_finished (.error _))
          simp only [advance, if_pos hvalid]
          rfl
        · simp only [if_neg hvalid]
          rcases hpub : TaskBus.publish bus (svc.task request readings) with ⟨(e | e | _) | u, bus'⟩
          · refine .head _ (fun s hbus hstore => ⟨{ s with bus := bus' }, ?_, rfl, hstore⟩)
              (ends_confirm env e)
            simp only [advance, hbus, hpub, if_neg hvalid]
          · refine .head _ (fun s hbus hstore => ⟨{ s with bus := bus' }, ?_, rfl, hstore⟩)
              (ends_finished (.error _))
            simp only [advance, hbus, hpub, if_neg hvalid]
            rfl
          · refine .head _ (fun s hbus hstore => ⟨{ s with bus := bus' }, ?_, rfl, hstore⟩)
              (ends_finished (.error _))
            simp only [advance, hbus, hpub, if_neg hvalid]
            rfl
          · refine .head _ (fun s hbus hstore =>
              ⟨{ s with bus := bus', publications := s.publications ++ [request] }, ?_, rfl,
                hstore⟩) (ends_accept env)
            simp only [advance, hbus, hpub, if_neg hvalid]

end EmbeddedTaskApiService

end Taskweavn.ExecutionPlane
