import Taskweavn.Contract.TaskNodeCommands
import Taskweavn.Lib.Once

/-!
# The contract revision service

`ContractRevisionCommandService.execute` of `taskweavn/contract_revision/service.py`: a
command is looked up under its session and key, run when it is not there, and its
result recorded.  Guidance facts and task nodes get fresh ids when they are written, so
only the record keeps a command from writing twice.

The plan store and the guidance store are the world of a command, and so is whatever
the command gateway works on; what the gateway does with it is a parameter.  `run` is
the part of `execute` between the record that is read and the one that is written.
The message that announces a result is sent after the record is written, and is left
out.
-/

namespace Taskweavn

open Lib Py

/-! ### The world of a command -/

/-- The stores, and what the command gateway works on. -/
structure ContractWorld (G : Type) where
  guidance : Dict String GuidanceFact := Dict.empty
  plans : SqlitePlanStore := .empty
  gateway : G

structure ContractInput (I : Type) where
  guidanceId : String
  factCreatedAt : DateTime
  taskNode : TaskNodeInput
  gateway : I

/-- `SqliteGuidanceFactStore.get` -/
def getFact (facts : Dict String GuidanceFact) (sessionId guidanceId : String) :
    Option GuidanceFact :=
  (facts.get? guidanceId).filter (fun f => f.sessionId == sessionId)

/-- `SqliteGuidanceFactStore.create`: the first fact of an id stays, and it is read back. -/
def createFact (facts : Dict String GuidanceFact) (fact : GuidanceFact) :
    Option GuidanceFact × Dict String GuidanceFact :=
  let saved :=
    match facts.get? fact.guidanceId with
    | some _ => facts
    | none => facts.set fact.guidanceId fact
  (getFact saved fact.sessionId fact.guidanceId, saved)

structure ContractInteractionCommandOutcome where
  accepted : Bool
  message : String
  commandResponse : Option CommandResponse := none
  reasonCode : Option String := none

/-- What answers questions and confirmations; there is no outcome when it raises. -/
structure ContractInteractionCommandHandler (G I : Type) where
  resolveAsk : ContractCommandRequest → ResolveAskPayload → I → ContractWorld G →
    Option ContractInteractionCommandOutcome × ContractWorld G
  resolveConfirmation : ContractCommandRequest → ResolveConfirmationContractPayload → I →
    ContractWorld G → Option ContractInteractionCommandOutcome × ContractWorld G

structure UpdateTaskNodePayload where
  title : Option String := none
  summary : Option String := none
  fullIntent : Option String := none
  constraints : Option (List String) := none
  updateMode : UpdateMode := .nodeFields
  preserveRootId : Bool := true
deriving DecidableEq

/-- `update_task_node` of the command gateway. -/
structure UiGatewayContractTaskNodeCommandHandler (G I : Type) where
  updateTaskNode : String → CommandRequest UpdateTaskNodePayload → I → ContractWorld G →
    Option CommandResponse × ContractWorld G

/-- What a request is hashed from: all but the command id. -/
structure ContractCommandContent where
  idempotencyKey : String
  commandKind : ContractCommandKind
  workspaceId : String
  sessionId : String
  scopeKind : ContractCommandScopeKind
  planId : Option String
  taskNodeId : Option String
  askId : Option String
  confirmationId : Option String
  source : ContractCommandSource
  routerDecisionId : Option String
  inputMessageRef : Option ObjectRef
  expectedVersion : Option ℕ
  payload : PyValue
deriving DecidableEq

def ContractCommandRequest.content (request : ContractCommandRequest) : ContractCommandContent where
  idempotencyKey := request.idempotencyKey
  commandKind := request.commandKind
  workspaceId := request.workspaceId
  sessionId := request.sessionId
  scopeKind := request.scopeKind
  planId := request.planId
  taskNodeId := request.taskNodeId
  askId := request.askId
  confirmationId := request.confirmationId
  source := request.source
  routerDecisionId := request.routerDecisionId
  inputMessageRef := request.inputMessageRef
  expectedVersion := request.expectedVersion
  payload := PyValue.sortedDoc (.dict request.payload.entries)

structure ContractRevisionCommandService (G I : Type) where
  sha256 : ContractCommandContent → String
  reader : PayloadReader
  workspaceId : String
  hasPlanStore : Bool := true
  interactionHandler : Option (ContractInteractionCommandHandler G I) := none
  taskNodeHandler : Option (UiGatewayContractTaskNodeCommandHandler G I) := none

/-! ### Results -/

/-- `_result`, for the ids of the request. -/
def resultOf (request : ContractCommandRequest) (status : ContractCommandStatus)
    (sideEffect : SessionActivitySideEffect) : ContractCommandResult where
  commandId := request.commandId
  idempotencyKey := request.idempotencyKey
  commandKind := request.commandKind
  status := status
  sideEffect := sideEffect
  scopeKind := request.scopeKind
  sessionId := request.sessionId
  planId := request.planId
  taskNodeId := request.taskNodeId
  askId := request.askId
  confirmationId := request.confirmationId

def noEffect (request : ContractCommandRequest) (status : ContractCommandStatus)
    (reasonCode messageKey : String) : ContractCommandResult :=
  { resultOf request status .noEffect with
    reasonCode := some reasonCode, messageKey := some messageKey }

/-- The result for a key that was used for another request. -/
def conflictResult (request : ContractCommandRequest) : ContractCommandResult :=
  noEffect request .conflict "idempotency_conflict" "contractRevision.idempotencyConflict"

def unsupportedInteractionResult (request : ContractCommandRequest) : ContractCommandResult :=
  noEffect request .unsupported "unsupported_command"
    "contractRevision.unsupportedInteractionCommand"

def unsupportedTaskNodeResult (request : ContractCommandRequest) : ContractCommandResult :=
  noEffect request .unsupported "unsupported_command" "contractRevision.unsupportedTaskNodeCommand"

def invalidPayloadResult (request : ContractCommandRequest) (messageKey : String) :
    ContractCommandResult :=
  noEffect request .rejected "invalid_payload" messageKey

/-- `x or y` for texts that may be missing -/
def optOr (o o' : Option String) : Option String :=
  match o with
  | some s => if s = "" then o' else some s
  | none => o'

def interactionResult (request : ContractCommandRequest)
    (outcome : ContractInteractionCommandOutcome) (sideEffect : SessionActivitySideEffect)
    (messageKey : String) : ContractCommandResult :=
  if outcome.accepted then
    { resultOf request .accepted sideEffect with
      messageKey := some messageKey, commandResponse := outcome.commandResponse }
  else
    { noEffect request .rejected (textOr outcome.reasonCode "command_rejected")
        "contractRevision.interactionRejected" with
      commandResponse := outcome.commandResponse }

def taskNodeMessageKey : ContractCommandKind → String
  | .createTaskNode => "contractRevision.taskNodeCreated"
  | .deleteTaskNode => "contractRevision.taskNodeDeleted"
  | .createExecutionTask => "contractRevision.executionTaskCreated"
  | _ => "contractRevision.taskNodePatched"

def taskNodeResult (request : ContractCommandRequest)
    (outcome : ContractTaskNodeCommandOutcome) : ContractCommandResult :=
  let planId := optOr outcome.planId request.planId
  let taskNodeId := (outcome.taskNode.map PlanTaskNode.taskNodeId).or request.taskNodeId
  if outcome.accepted = false ∨ outcome.status ≠ .accepted then
    let status :=
      if outcome.accepted = false ∧ outcome.status = .accepted then .rejected else outcome.status
    { resultOf request status .noEffect with
      planId := planId.or request.planId
      taskNodeId := taskNodeId
      reasonCode :=
        if status ≠ .noop then some (textOr outcome.reasonCode "command_rejected")
        else outcome.reasonCode
      messageKey := some "contractRevision.taskNodePatchRejected"
      commandResponse := outcome.commandResponse }
  else
    { resultOf request .accepted .stateEffect with
      planId := planId.or request.planId
      taskNodeId := taskNodeId
      newVersion := outcome.taskNode.map PlanTaskNode.version
      messageKey := some (taskNodeMessageKey request.commandKind)
      commandResponse := outcome.commandResponse }

/-- `_outcome_from_command_response` of the task node handler. -/
def taskNodeOutcomeOf (response : CommandResponse) : ContractTaskNodeCommandOutcome :=
  match response.ok, response.result with
  | true, some result =>
    { accepted := true, message := some result.message, commandResponse := some response }
  | _, _ =>
    { accepted := false
      message := some ((response.error.map ApiError.message).getD "Command was rejected.")
      status := .rejected
      commandResponse := some response
      reasonCode := some ((response.error.map ApiError.code).getD "command_rejected") }

def ContractCommandScopeKind.guidanceScope : ContractCommandScopeKind → GuidanceScope
  | .plan => .plan
  | .task => .task
  | _ => .session

theorem guidanceScopeOk_of_request (request : ContractCommandRequest) :
    guidanceScopeOk request.scopeKind.guidanceScope request.planId request.taskNodeId = true := by
  have h := request.scope_ok
  cases hk : request.scopeKind <;> rw [hk] at h <;> first | rfl | exact h

namespace ContractRevisionCommandService

variable {G I : Type} (service : ContractRevisionCommandService G I)

/-! ### The commands -/

def invalidScopeReason (world : ContractWorld G) (request : ContractCommandRequest) :
    Option String :=
  match request.scopeKind with
  | .session => none
  | scopeKind =>
    if service.hasPlanStore = false then none
    else
      match scopeKind with
      | .plan =>
        match request.planId with
        | none => some "target_not_found"
        | some planId =>
          if (world.plans.getPlan request.sessionId planId).isSome then none
          else some "target_not_found"
      | .task =>
        match request.taskNodeId with
        | none => some "target_not_found"
        | some taskNodeId =>
          match world.plans.getTaskNode request.sessionId taskNodeId with
          | none => some "target_not_found"
          | some node =>
            if request.planId.any (fun planId => node.planId != planId) then
              some "target_scope_mismatch"
            else none
      | _ => some "invalid_scope"

def guidanceFact (request : ContractCommandRequest) (payload : RecordGuidancePayload)
    (input : ContractInput I) : GuidanceFact where
  guidanceId := input.guidanceId
  workspaceId := if request.workspaceId = "" then service.workspaceId else request.workspaceId
  sessionId := request.sessionId
  scopeKind := request.scopeKind.guidanceScope
  planId := request.planId
  taskNodeId := request.taskNodeId
  guidanceKind := payload.guidanceKind
  guidanceText := payload.guidanceText
  appliesToFutureTasks := payload.appliesToFutureTasks
  sourceCommandId := request.commandId
  sourceRouterDecisionId := request.routerDecisionId
  sourceMessageRef := request.inputMessageRef
  createdAt := input.factCreatedAt
  text_ok := payload.text_ok
  scope_ok := guidanceScopeOk_of_request request

def recordGuidance (request : ContractCommandRequest) (input : ContractInput I)
    (world : ContractWorld G) : Outcome (ContractWorld G) ContractCommandResult :=
  match service.reader.recordGuidance request.payload with
  | none =>
    .replied (invalidPayloadResult request "contractRevision.invalidGuidancePayload") world
  | some payload =>
    match service.invalidScopeReason world request with
    | some reason =>
      .replied (noEffect request .rejected reason "contractRevision.invalidGuidanceScope") world
    | none =>
      match createFact world.guidance (service.guidanceFact request payload input) with
      | (none, _) => .refused
      | (some saved, guidance) =>
        .replied
          { resultOf request .accepted .contextEffect with
            guidanceId := some saved.guidanceId, newVersion := some saved.version }
          { world with guidance := guidance }

def interact (request : ContractCommandRequest) (sideEffect : SessionActivitySideEffect)
    (messageKey : String) :
    Option ContractInteractionCommandOutcome × ContractWorld G →
      Outcome (ContractWorld G) ContractCommandResult
  | (none, world) => .raised world
  | (some outcome, world) =>
    .replied (interactionResult request outcome sideEffect messageKey) world

def resolveAsk (request : ContractCommandRequest) (input : ContractInput I)
    (world : ContractWorld G) : Outcome (ContractWorld G) ContractCommandResult :=
  match service.interactionHandler with
  | none => .replied (unsupportedInteractionResult request) world
  | some handler =>
    match service.reader.resolveAsk request.payload with
    | none =>
      .replied (invalidPayloadResult request "contractRevision.invalidAskResolutionPayload") world
    | some payload =>
      interact request .resumeEffect "contractRevision.askResolved"
        (handler.resolveAsk request payload input.gateway world)

def resolveConfirmation (request : ContractCommandRequest) (input : ContractInput I)
    (world : ContractWorld G) : Outcome (ContractWorld G) ContractCommandResult :=
  match service.interactionHandler with
  | none => .replied (unsupportedInteractionResult request) world
  | some handler =>
    match service.reader.resolveConfirmation request.payload with
    | none =>
      .replied (invalidPayloadResult request "contractRevision.invalidConfirmationPayload") world
    | some payload =>
      interact request .authorizationEffect "contractRevision.confirmationResolved"
        (handler.resolveConfirmation request payload input.gateway world)

/-- The request that `patch_task_node` passes on. -/
def updateRequest (request : ContractCommandRequest) (payload : PatchTaskNodePayload) :
    CommandRequest UpdateTaskNodePayload where
  commandId := request.commandId
  sessionId := request.sessionId
  idempotencyKey := some request.idempotencyKey
  expectedVersion := request.expectedVersion
  payload :=
    { title := payload.title
      summary := payload.summary
      fullIntent := optOr payload.fullIntent payload.intent
      constraints := payload.constraints
      updateMode := payload.updateMode
      preserveRootId := payload.preserveRootId }

def patchTaskNode (request : ContractCommandRequest) (input : ContractInput I)
    (world : ContractWorld G) : Outcome (ContractWorld G) ContractCommandResult :=
  match service.taskNodeHandler with
  | none => .replied (unsupportedTaskNodeResult request) world
  | some handler =>
    match service.reader.patchTaskNode request.payload with
    | none =>
      .replied (invalidPayloadResult request "contractRevision.invalidTaskNodePatchPayload") world
    | some payload =>
      match request.taskNodeId with
      | none =>
        .replied
          (taskNodeResult request
            { accepted := false, message := some "TaskNode target is missing.",
              reasonCode := some "target_not_found" })
          world
      | some taskNodeId =>
        match handler.updateTaskNode taskNodeId (updateRequest request payload) input.gateway
            world with
        | (none, world) => .raised world
        | (some response, world) =>
          .replied (taskNodeResult request (taskNodeOutcomeOf response)) world

/-- The result of a command on the plan store, which raises before it writes. -/
def onPlans (request : ContractCommandRequest) (world : ContractWorld G) :
    Option ContractTaskNodeCommandOutcome × SqlitePlanStore →
      Outcome (ContractWorld G) ContractCommandResult
  | (none, _) => .refused
  | (some outcome, plans) =>
    .replied (taskNodeResult request outcome) { world with plans := plans }

/-- A command on task nodes: `_create_task_node`, `_delete_task_node` and
`_create_execution_task`. -/
def taskNodeCommand {P : Type} (read : Dict String PyValue → Option P)
    (command : P → Option ContractTaskNodeCommandOutcome × SqlitePlanStore)
    (request : ContractCommandRequest) (world : ContractWorld G) :
    Outcome (ContractWorld G) ContractCommandResult :=
  match service.taskNodeHandler with
  | none => .replied (unsupportedTaskNodeResult request) world
  | some _ =>
    match read request.payload with
    | none =>
      .replied (invalidPayloadResult request "contractRevision.invalidTaskNodePayload") world
    | some payload => onPlans request world (command payload)

def createTaskNode (request : ContractCommandRequest) (input : ContractInput I)
    (world : ContractWorld G) : Outcome (ContractWorld G) ContractCommandResult :=
  service.taskNodeCommand service.reader.createTaskNode
    (fun payload => world.plans.createTaskNode request payload input.taskNode) request world

def deleteTaskNode (request : ContractCommandRequest) (input : ContractInput I)
    (world : ContractWorld G) : Outcome (ContractWorld G) ContractCommandResult :=
  service.taskNodeCommand service.reader.deleteTaskNode
    (fun _ => world.plans.deleteTaskNode request input.taskNode.now) request world

def createExecutionTask (request : ContractCommandRequest) (input : ContractInput I)
    (world : ContractWorld G) : Outcome (ContractWorld G) ContractCommandResult :=
  service.taskNodeCommand service.reader.createExecutionTask
    (fun payload => world.plans.createExecutionTask request payload input.taskNode) request world

/-- The dispatch on the kind of a command. -/
def run (request : ContractCommandRequest) (input : ContractInput I) (world : ContractWorld G) :
    Outcome (ContractWorld G) ContractCommandResult :=
  match request.commandKind with
  | .recordGuidance => service.recordGuidance request input world
  | .resolveAsk => service.resolveAsk request input world
  | .resolveConfirmation => service.resolveConfirmation request input world
  | .patchTaskNode => service.patchTaskNode request input world
  | .createTaskNode => service.createTaskNode request input world
  | .deleteTaskNode => service.deleteTaskNode request input world
  | .createExecutionTask => service.createExecutionTask request input world

def hashRequest (request : ContractCommandRequest) : String := service.sha256 request.content

abbrev Key := String × String

abbrev Record := String × ContractCommandResult

/-- `put_completed`; the first record of a key stays. -/
def putCompleted (records : Dict Key Record) (request : ContractCommandRequest) (hash : String)
    (result : ContractCommandResult) : Dict Key Record :=
  match records.get? (request.sessionId, request.idempotencyKey) with
  | some _ => records
  | none => records.set (request.sessionId, request.idempotencyKey) (hash, result)

/-- A command that nothing disturbs.  `put_completed` writes a record with its result, so
there is no record without one; there is no result when the command raises. -/
def execute (records : Dict Key Record) (world : ContractWorld G)
    (request : ContractCommandRequest) (input : ContractInput I) :
    Option ContractCommandResult × Dict Key Record × ContractWorld G :=
  let requestHash := service.hashRequest request
  match records.get? (request.sessionId, request.idempotencyKey) with
  | some (cachedHash, cached) =>
    if cachedHash ≠ requestHash then (some (conflictResult request), records, world)
    else (some cached, records, world)
  | none =>
    match service.run request input world with
    | .refused => (none, records, world)
    | .raised world => (none, records, world)
    | .replied result world =>
      (some result, putCompleted records request requestHash result, world)

/-! ### A key that is used again -/

variable {service} {records records' : Dict Key Record} {world world' : ContractWorld G}
  {request : ContractCommandRequest} {input : ContractInput I} {result : ContractCommandResult}

theorem execute_recorded
    (h : service.execute records world request input = (some result, records', world'))
    (hstatus : result.status ≠ .conflict) :
    records'.get? (request.sessionId, request.idempotencyKey) =
      some (service.hashRequest request, result) := by
  unfold execute at h
  simp only at h
  split at h
  · next hash cached hget =>
    split at h
    · cases h
      exact absurd rfl hstatus
    · next hhash =>
      cases h
      rw [hget, not_not.mp hhash]
  · next hget =>
    split at h
    · cases h
    · cases h
    · cases h
      simp only [putCompleted, hget, Dict.get?_set_self]

/-- **Under the key of another command nothing happens.** -/
theorem execute_conflict {hash : String} {cached : ContractCommandResult}
    (hget : records.get? (request.sessionId, request.idempotencyKey) = some (hash, cached))
    (hhash : hash ≠ service.hashRequest request) :
    service.execute records world request input =
      (some (conflictResult request), records, world) := by
  unfold execute
  simp only [hget, if_pos hhash]

end ContractRevisionCommandService

end Taskweavn
