import Taskweavn.Interaction.AskStore
import Taskweavn.Server.RouterPlanner
import Taskweavn.Server.UiGateways

/-!
# The runtime input router

`DefaultRuntimeInputRouter.route` of `taskweavn/server/runtime_input_router.py`, with the
dispatch of a planned proposal (`runtime_input_router_planner_dispatch.py`) and the task
requests for WeChat (`runtime_input_wechat.py`).  A route looks for the question and the
confirmation that are open, lets the planner propose something, and calls the service
that the proposal is for.

The world carries the list of the calls that change state; `issue` puts a call on it.
No branch of the router reads the list.  Explanations, messages and activities are for
the user, and are left out; a result keeps the contract result that its activity is made
from.
-/

namespace Taskweavn

open Lib Py

/-! ### Requests and snapshots -/

def RuntimeInputScopeKind.contract : RuntimeInputScopeKind → ContractCommandScopeKind
  | .session => .session
  | .plan => .plan
  | .task => .task

structure RuntimeInputSelection where
  scopeKind : RuntimeInputScopeKind
  planId : Option String := none
  taskNodeId : Option String := none
  valid : scopeIdentityOk scopeKind.contract planId taskNodeId none none = true

structure RuntimeInputRouteRequest where
  commandId : String
  sessionId : String
  workspaceId : Option String := none
  content : String
  mode : RuntimeInputMode := .auto
  selection : RuntimeInputSelection
  /-- The ids that the client shows as open. -/
  activeAskId : Option String := none
  activeConfirmationId : Option String := none

structure AskRequestView where
  id : String
  taskNodeId : Option String := none
  status : AskStatus := .pending
  blocking : Bool := true
  createdAt : DateTime
deriving DecidableEq

inductive ConfirmationStatus
  | pending
  | resolved
  | expired
deriving DecidableEq, Repr

structure ConfirmationActionView where
  id : String
  taskNodeId : String
  status : ConfirmationStatus := .pending
deriving DecidableEq

/-- A node of the task tree: its id, that of the task it stands for, and whether the task
waits for the user. -/
structure TaskNodeCardView where
  id : String
  taskRef : Option String := none
  waiting : Bool := false
deriving DecidableEq

/-- What the query gateway answers for the session.  A query that fails has no answer. -/
structure RouterSnapshot where
  asks : Option (List AskRequestView) := some []
  taskTree : Option (List TaskNodeCardView) := none
  confirmations : Option (List ConfirmationActionView) := some []

/-- `_node_task_ids` -/
def TaskNodeCardView.taskIds (node : TaskNodeCardView) : List String :=
  node.id :: node.taskRef.toList

/-- `_task_ids_for_filter`, for a task in a tree. -/
def taskIdsForFilter (taskId : String) (nodes : List TaskNodeCardView) : List String :=
  match nodes.find? (fun n => n.taskIds.contains taskId) with
  | some n => n.taskIds
  | none => [taskId]

def RouterSnapshot.taskIds (snapshot : RouterSnapshot) (taskId : String) : List String :=
  match snapshot.taskTree with
  | some nodes => taskIdsForFilter taskId nodes
  | none => [taskId]

/-- The oldest of some questions. -/
def oldestAsk (asks : List AskRequestView) : Option AskRequestView :=
  (sortOn (fun a : AskRequestView => (toLex (a.createdAt, a.id) : DateTime ×ₗ String)) asks).head?

/-- `select_active_ask`: the first waiting task of the tree that a blocking question is
about. -/
def selectActiveAsk (asks : List AskRequestView) (taskTree : Option (List TaskNodeCardView)) :
    Option AskRequestView :=
  let pending := asks.filter (fun a => a.status == .pending)
  match taskTree with
  | some nodes =>
    (nodes.filter TaskNodeCardView.waiting).findSome? (fun n =>
      oldestAsk (pending.filter (fun a => a.taskNodeId.any n.taskIds.contains && a.blocking)))
  | none =>
    let blocking := pending.filter AskRequestView.blocking
    oldestAsk (if blocking = [] then pending else blocking)

/-- `list_asks` for pending questions, and the active one of them. -/
def RouterSnapshot.listAsks (snapshot : RouterSnapshot) (taskNodeId : Option String) :
    Option (List AskRequestView × Option AskRequestView) :=
  snapshot.asks.map (fun asks =>
    let listed := asks.filter (fun a => a.status == .pending &&
      (match taskNodeId with
       | none => true
       | some taskId => a.taskNodeId.any (snapshot.taskIds taskId).contains))
    (listed, selectActiveAsk listed snapshot.taskTree))

def RouterSnapshot.getAsk (snapshot : RouterSnapshot) (askId : String) : Option AskRequestView :=
  snapshot.asks.bind (fun asks => asks.find? (fun a => a.id == askId))

def RouterSnapshot.activeAsk (snapshot : RouterSnapshot) (request : RuntimeInputRouteRequest) :
    Option AskRequestView :=
  match request.activeAskId with
  | some askId => (snapshot.getAsk askId).filter (fun a => a.status == .pending)
  | none =>
    match snapshot.listAsks request.selection.taskNodeId with
    | none => none
    | some (asks, active) =>
      match active with
      | some ask => some ask
      | none =>
        match asks with
        | [ask] => some ask
        | _ => none

def only {α : Type} : List α → Option α
  | [a] => some a
  | _ => none

def RouterSnapshot.activeConfirmation (snapshot : RouterSnapshot)
    (request : RuntimeInputRouteRequest) : Option ConfirmationActionView :=
  match snapshot.confirmations with
  | none => none
  | some confirmations =>
    let pending := confirmations.filter (fun c => c.status == .pending)
    match request.activeConfirmationId with
    | some confirmationId => pending.find? (fun c => c.id == confirmationId)
    | none =>
      match request.selection.taskNodeId with
      | some taskNodeId =>
        match only (pending.filter (fun c => c.taskNodeId == taskNodeId)) with
        | some confirmation => some confirmation
        | none => only pending
      | none => only pending

/-! ### Task requests -/

structure CapabilityPolicy where
  requiredCapability : String
  allowedTools : List String := []
  requiresHumanConfirmation : Bool := false
  riskLevel : RouterTaskRiskLevel := .medium
  workspaceScope : Option String := none
deriving DecidableEq

structure TaskRequest where
  idempotencyKey : String
  externalRefId : String
  taskType : String
  intent : String
  input : Dict String PyValue
  policy : CapabilityPolicy
  metadata : Dict String PyValue
deriving DecidableEq

inductive TaskExecutionStatus
  | accepted
  | pending
  | claimed
  | running
  | waitingForUser
  | done
  | failed
  | cancelled
  | leaseExpired
  | rejected
deriving DecidableEq, Repr

structure TaskExecution where
  executionId : String
  requestId : String
  sessionId : String
  status : TaskExecutionStatus
deriving DecidableEq

/-- The answer of `publish_task`. -/
inductive PublishAnswer
  | published (execution : TaskExecution)
  /-- an `ExecutionPlaneError` -/
  | refused
  | raised

structure WeChatSendResolution where
  contactDisplayName : String
  messageText : String

/-- `wechat_send_task_request`; the digest of the content is the last argument. -/
def wechatSendTaskRequest (resolution : WeChatSendResolution) (request : RuntimeInputRouteRequest)
    (contentHash : String) : TaskRequest where
  idempotencyKey := "runtime-input:" ++ request.sessionId ++ ":" ++ request.commandId
  externalRefId := request.commandId
  taskType := wechatSendTaskType
  intent := "Use WeChat to send a message to " ++ resolution.contactDisplayName ++ "."
  input := Dict.ofList
    [("contactDisplayName", .str resolution.contactDisplayName),
     ("messageText", .str resolution.messageText),
     ("operatorNote", .str "Created from Plato Main Page input.")]
  policy :=
    { requiredCapability := wechatSendCapability
      allowedTools := ["computer_use", "wechat_desktop"]
      requiresHumanConfirmation := true
      riskLevel := .high
      workspaceScope := request.workspaceId }
  metadata := Dict.ofList
    [("sessionId", .str request.sessionId), ("source", .str "main_page_runtime_input"),
     ("routerCommandId", .str request.commandId), ("originalUserInputHash", .str contentHash)]

def executionTaskPayload (request : RuntimeInputRouteRequest)
    (draft : Option RouterTaskRequestDraft) : Dict String PyValue :=
  match draft with
  | none => Dict.ofList [("intent", .str request.content)]
  | some draft =>
    Dict.ofList
      ([("intent", .str request.content), ("instructions", .str draft.instructions),
        ("required_capability", .str draft.policy.requiredCapability),
        ("constraints", .tuple [.str ("Task type: " ++ draft.taskType)]),
        ("acceptance_criteria", .tuple [.str "Complete the requested execution handoff."])] ++
        match draft.title with
        | none => []
        | some title => [("title", .str title), ("summary", .str title)])

/-! ### Worlds and results -/

inductive StateCall
  | contract (request : ContractCommandRequest)
  | answerAsk (askId : String) (request : CommandRequest AnswerAskPayload)
  | resolveConfirmation (confirmationId : String)
      (request : CommandRequest ResolveConfirmationPayload)
  | stopTask (taskNodeId : String) (request : CommandRequest StopTaskPayload)
  | retryTask (taskNodeId : String) (request : CommandRequest RetryTaskPayload)
  | publishTask (request : TaskRequest)
deriving DecidableEq

structure RouterWorld (G : Type) where
  contract : ContractWorld G
  records : Dict ContractRevisionCommandService.Key ContractRevisionCommandService.Record :=
    Dict.empty
  /-- The calls so far. -/
  calls : List StateCall := []

inductive RuntimeInputOutcomeStatus
  | dispatched
  | answered
  | needsClarification
  | unsupported
  | rejected
deriving DecidableEq, Repr

inductive ReadOnlyInquiryStatus
  | answered
  | needsClarification
  | unsupported
  | rejected
deriving DecidableEq, Repr

/-- `_runtime_outcome_status` -/
def ReadOnlyInquiryStatus.outcome : ReadOnlyInquiryStatus → RuntimeInputOutcomeStatus
  | .answered => .answered
  | .needsClarification => .needsClarification
  | .rejected => .rejected
  | .unsupported => .unsupported

structure RuntimeInputRouteResult where
  decisionId : String
  intent : RuntimeInputIntent
  dispatchTarget : RuntimeInputDispatchTarget
  sideEffect : SessionActivitySideEffect
  status : RuntimeInputOutcomeStatus
  commandResponse : Option CommandResponse := none
  contractResult : Option ContractCommandResult := none
deriving DecidableEq

/-- What a route draws and asks for: the id of its decision, the outputs of the model, the
answer to an inquiry, the queries, and the inputs of the services. -/
structure RouterInput (I : Type) where
  decisionId : String
  outputs : LLMOutputs
  inquiry : Option ReadOnlyInquiryStatus
  snapshot : RouterSnapshot
  contentHash : String
  contract : ContractInput I
  gateway : I

structure DefaultRuntimeInputRouter (G I : Type) where
  commandGateway : UiCommandGateway (ContractWorld G) I
  executionTrigger : Option (ExecutionTriggerGateway (ContractWorld G) I) := none
  contractService : Option (ContractRevisionCommandService G I) := none
  executionPlane : Option (TaskRequest → I → ContractWorld G → PublishAnswer × ContractWorld G) :=
    none
  routePlanner : Option LLMRuntimeInputRoutePlanner := none

variable {G I : Type}

def issue {α : Type} (call : StateCall) (service : ContractWorld G → α × ContractWorld G)
    (world : RouterWorld G) : α × RouterWorld G :=
  let answered := service world.contract
  (answered.1, { world with contract := answered.2, calls := world.calls ++ [call] })

def issueContract (service : ContractRevisionCommandService G I)
    (request : ContractCommandRequest) (input : ContractInput I) (world : RouterWorld G) :
    Option ContractCommandResult × RouterWorld G :=
  let executed := service.execute world.records world.contract request input
  (executed.1,
    { contract := executed.2.2, records := executed.2.1,
      calls := world.calls ++ [.contract request] })

namespace DefaultRuntimeInputRouter

variable (router : DefaultRuntimeInputRouter G I)

/-- The routes return a result, or nothing when something raises. -/
abbrev Routed (G : Type) := Option RuntimeInputRouteResult × RouterWorld G

/-! ### The handlers -/

def unsupported (input : RouterInput I) (intent : RuntimeInputIntent)
    (target : RuntimeInputDispatchTarget) (sideEffect : SessionActivitySideEffect)
    (world : RouterWorld G) : Routed G :=
  (some
    { decisionId := input.decisionId, intent := intent, dispatchTarget := target,
      sideEffect := sideEffect, status := .unsupported }, world)

def notDispatched (input : RouterInput I) (intent : RuntimeInputIntent) (world : RouterWorld G) :
    Routed G :=
  unsupported input intent .unsupported .noEffect world

/-- The result of a contract command: it is dispatched when it is accepted or there was
nothing to do. -/
def contractRouted (input : RouterInput I) (intent : RuntimeInputIntent)
    (target : RuntimeInputDispatchTarget) (sideEffect : SessionActivitySideEffect)
    (withResponse : Bool) :
    Option ContractCommandResult × RouterWorld G → Routed G
  | (none, world) => (none, world)
  | (some result, world) =>
    (some
      { decisionId := input.decisionId, intent := intent, dispatchTarget := target,
        sideEffect := sideEffect,
        status :=
          if result.status = .accepted ∨ result.status = .noop then .dispatched else .rejected,
        commandResponse := if withResponse then result.commandResponse else none,
        contractResult := some result }, world)

def gatewayRouted (input : RouterInput I) (intent : RuntimeInputIntent)
    (target : RuntimeInputDispatchTarget) (sideEffect : SessionActivitySideEffect) :
    Option CommandResponse × RouterWorld G → Routed G
  | (none, world) => (none, world)
  | (some response, world) =>
    (some
      { decisionId := input.decisionId, intent := intent, dispatchTarget := target,
        sideEffect := sideEffect,
        status := if response.accepted then .dispatched else .rejected,
        commandResponse := some response }, world)

/-- The command that `_record_guidance` sends. -/
def guidanceCommand (request : RuntimeInputRouteRequest) (decisionId : String) :
    ContractCommandRequest where
  commandId := request.commandId
  idempotencyKey := request.commandId
  commandKind := .recordGuidance
  workspaceId := textOr request.workspaceId "current"
  sessionId := request.sessionId
  scopeKind := request.selection.scopeKind.contract
  planId := request.selection.planId
  taskNodeId := request.selection.taskNodeId
  routerDecisionId := some decisionId
  payload :=
    Dict.ofList [("guidanceText", .str request.content), ("guidanceKind", .str "instruction")]
  scope_ok := request.selection.valid

def recordGuidance (request : RuntimeInputRouteRequest) (input : RouterInput I)
    (world : RouterWorld G) : Routed G :=
  match router.contractService with
  | none => unsupported input .guidance .recordGuidance .contextEffect world
  | some service =>
    contractRouted input .guidance .recordGuidance .contextEffect false
      (issueContract service (guidanceCommand request input.decisionId) input.contract world)

/-- The command that `_create_execution_task` sends. -/
def executionCommand (request : RuntimeInputRouteRequest) (draft : Option RouterTaskRequestDraft)
    (decisionId : String) : ContractCommandRequest where
  commandId := request.commandId
  idempotencyKey := request.commandId
  commandKind := .createExecutionTask
  workspaceId := textOr request.workspaceId "current"
  sessionId := request.sessionId
  scopeKind := if request.selection.planId.isSome then .plan else .session
  planId := request.selection.planId
  routerDecisionId := some decisionId
  payload := executionTaskPayload request draft
  scope_ok := by cases request.selection.planId <;> rfl

/-- `_required_input_str`; nothing when it raises. -/
def requiredInputStr (draft : RouterTaskRequestDraft) (key : String) : Option String :=
  (inputText draft key).map strip

/-- `wechat_resolution_from_task_request_draft`, for a draft of its type; nothing when it
raises. -/
def wechatResolution (draft : RouterTaskRequestDraft) : Option WeChatSendResolution :=
  (requiredInputStr draft "contactDisplayName").bind fun contact =>
    (requiredInputStr draft "messageText").map fun message => ⟨contact, message⟩

/-- `_publish_wechat_send_task_request`; what the dispatcher raises is not caught here. -/
def publishWechatSendTaskRequest
    (plane : TaskRequest → I → ContractWorld G → PublishAnswer × ContractWorld G)
    (request : RuntimeInputRouteRequest) (resolution : WeChatSendResolution)
    (input : RouterInput I) (world : RouterWorld G) : Routed G :=
  let result (status : RuntimeInputOutcomeStatus) : RuntimeInputRouteResult :=
    { decisionId := input.decisionId, intent := .executionRequest,
      dispatchTarget := .executionHandoff, sideEffect := .executionRequest, status := status }
  let taskRequest := wechatSendTaskRequest resolution request input.contentHash
  match issue (.publishTask taskRequest) (plane taskRequest input.gateway) world with
  | (.raised, world) => (none, world)
  | (.refused, world) => (some (result .rejected), world)
  | (.published execution, world) =>
    let status := if execution.status = .failed then .rejected else .dispatched
    match router.executionTrigger with
    | some trigger =>
      if execution.status = .pending then
        match trigger.requestDispatch
            ⟨execution.sessionId, .publishStartImmediately, execution.requestId⟩ input.gateway
            world.contract with
        | (true, contract) => (some (result status), { world with contract := contract })
        | (false, contract) => (none, { world with contract := contract })
      else (some (result status), world)
    | none => (some (result status), world)

def createWechatSendTaskRequest (request : RuntimeInputRouteRequest)
    (resolution : WeChatSendResolution) (input : RouterInput I) (world : RouterWorld G) :
    Routed G :=
  match router.executionPlane with
  | some plane => router.publishWechatSendTaskRequest plane request resolution input world
  | none =>
    (some
      { decisionId := input.decisionId, intent := .executionRequest,
        dispatchTarget := .executionHandoff, sideEffect := .executionRequest,
        status := .rejected }, world)

/-- `_create_execution_task`, for drafts that are not for WeChat. -/
def createContractTask (request : RuntimeInputRouteRequest)
    (draft : Option RouterTaskRequestDraft) (input : RouterInput I) (world : RouterWorld G) :
    Routed G :=
  match router.contractService with
  | none => unsupported input .executionRequest .executionHandoff .stateEffect world
  | some service =>
    contractRouted input .executionRequest .executionHandoff .stateEffect false
      (issueContract service (executionCommand request draft input.decisionId) input.contract world)

def createExecutionTask (request : RuntimeInputRouteRequest)
    (draft : Option RouterTaskRequestDraft) (input : RouterInput I) (world : RouterWorld G) :
    Routed G :=
  match draft with
  | some d =>
    if d.taskType = wechatSendTaskType then
      match wechatResolution d with
      | none => (none, world)
      | some resolution => router.createWechatSendTaskRequest request resolution input world
    else router.createContractTask request draft input world
  | none => router.createContractTask request draft input world

/-- The command that `_answer_ask` sends. -/
def askCommand (request : RuntimeInputRouteRequest) (askId text decisionId : String) :
    ContractCommandRequest where
  commandId := request.commandId
  idempotencyKey := request.commandId
  commandKind := .resolveAsk
  workspaceId := textOr request.workspaceId "current"
  sessionId := request.sessionId
  scopeKind := .ask
  askId := some askId
  routerDecisionId := some decisionId
  payload := Dict.ofList [("text", .str text)]
  scope_ok := rfl

/-- An envelope of the router for the gateway; it has no idempotency key. -/
def gatewayRequest {α : Type} (request : RuntimeInputRouteRequest) (payload : α) :
    CommandRequest α where
  commandId := request.commandId
  sessionId := request.sessionId
  payload := payload

def answerAsk (request : RuntimeInputRouteRequest) (ask : AskRequestView) (answerText : String)
    (input : RouterInput I) (world : RouterWorld G) : Routed G :=
  let text := textOr (some answerText) request.content
  match router.contractService with
  | some service =>
    contractRouted input .askAnswer .resolveAsk .resumeEffect true
      (issueContract service (askCommand request ask.id text input.decisionId) input.contract world)
  | none =>
    let command := gatewayRequest request { text := some text : AnswerAskPayload }
    gatewayRouted input .askAnswer .resolveAsk .resumeEffect
      (issue (.answerAsk ask.id command)
        (answerAskWithResumeDispatch router.commandGateway router.executionTrigger ask.id command
          input.gateway) world)

/-- The command that `_resolve_confirmation` sends. -/
def confirmationCommand (request : RuntimeInputRouteRequest) (confirmationId value decisionId :
    String) : ContractCommandRequest where
  commandId := request.commandId
  idempotencyKey := request.commandId
  commandKind := .resolveConfirmation
  workspaceId := textOr request.workspaceId "current"
  sessionId := request.sessionId
  scopeKind := .confirmation
  confirmationId := some confirmationId
  routerDecisionId := some decisionId
  payload := Dict.ofList [("value", .str value), ("note", .str request.content)]
  scope_ok := rfl

def resolveConfirmation (request : RuntimeInputRouteRequest)
    (confirmation : ConfirmationActionView) (value : String) (input : RouterInput I)
    (world : RouterWorld G) : Routed G :=
  match router.contractService with
  | some service =>
    contractRouted input .confirmationResponse .resolveConfirmation .authorizationEffect true
      (issueContract service
        (confirmationCommand request confirmation.id value input.decisionId) input.contract world)
  | none =>
    let command := gatewayRequest request
      { value := value, note := some request.content : ResolveConfirmationPayload }
    gatewayRouted input .confirmationResponse .resolveConfirmation .authorizationEffect
      (issue (.resolveConfirmation confirmation.id command)
        (router.commandGateway.resolveConfirmation confirmation.id command input.gateway) world)

/-- A clarification, from the planner or for want of a selected task. -/
def clarification (input : RouterInput I) (world : RouterWorld G) : Routed G :=
  (some
    { decisionId := input.decisionId, intent := .clarification, dispatchTarget := .clarification,
      sideEffect := .noEffect, status := .needsClarification }, world)

def selectedTask (request : RuntimeInputRouteRequest) : Option String :=
  if request.selection.scopeKind = .task then request.selection.taskNodeId else none

def stopSelectedTask (request : RuntimeInputRouteRequest) (input : RouterInput I)
    (world : RouterWorld G) : Routed G :=
  match selectedTask request with
  | none => clarification input world
  | some taskNodeId =>
    let command := gatewayRequest request { reason := some request.content : StopTaskPayload }
    gatewayRouted input .command .existingCommand .stateEffect
      (issue (.stopTask taskNodeId command)
        (router.commandGateway.stopTask taskNodeId command input.gateway) world)

def retrySelectedTask (request : RuntimeInputRouteRequest) (input : RouterInput I)
    (world : RouterWorld G) : Routed G :=
  match selectedTask request with
  | none => clarification input world
  | some taskNodeId =>
    let command := gatewayRequest request
      { instruction := some request.content, startImmediately := true : RetryTaskPayload }
    gatewayRouted input .command .existingCommand .stateEffect
      (issue (.retryTask taskNodeId command)
        (retryTaskWithOptionalDispatch router.commandGateway router.executionTrigger taskNodeId
          command input.gateway) world)

/-- `_answer_read_only_inquiry`; an inquiry that fails has no answer. -/
def answerReadOnlyInquiry (input : RouterInput I) (world : RouterWorld G) : Routed G :=
  match input.inquiry with
  | none => unsupported input .question .readOnlyInquiry .noEffect world
  | some status =>
    (some
      { decisionId := input.decisionId, intent := .question, dispatchTarget := .readOnlyInquiry,
        sideEffect := .noEffect, status := status.outcome }, world)

/-! ### The dispatch of a proposal -/

def plannerResolveAsk (request : RuntimeInputRouteRequest) (proposal : RuntimeInputRouteProposal)
    (activeAsk : Option AskRequestView) (input : RouterInput I) (world : RouterWorld G) :
    Routed G :=
  match activeAsk, proposal.askAnswerDraft with
  | none, _ => notDispatched input proposal.intent world
  | some _, none => notDispatched input proposal.intent world
  | some ask, some draft =>
    if draft.askId.any (· != ask.id) then notDispatched input proposal.intent world
    else router.answerAsk request ask draft.answerText input world

def plannerResolveConfirmation (request : RuntimeInputRouteRequest)
    (proposal : RuntimeInputRouteProposal) (activeConfirmation : Option ConfirmationActionView)
    (input : RouterInput I) (world : RouterWorld G) : Routed G :=
  match activeConfirmation, proposal.confirmationResponseDraft with
  | none, _ => notDispatched input proposal.intent world
  | some _, none => notDispatched input proposal.intent world
  | some confirmation, some draft =>
    if draft.confirmationId.any (· != confirmation.id) then
      notDispatched input proposal.intent world
    else
      router.resolveConfirmation request confirmation draft.resolution.toText input world

def dispatchExistingCommand (request : RuntimeInputRouteRequest)
    (proposal : RuntimeInputRouteProposal) (input : RouterInput I) (world : RouterWorld G) :
    Routed G :=
  match proposal.commandDraft with
  | none => notDispatched input proposal.intent world
  | some draft =>
    match draft.commandKind with
    | .stopTask => router.stopSelectedTask request input world
    | .retryTask => router.retrySelectedTask request input world
    | _ => notDispatched input proposal.intent world

def dispatchExecutionHandoff (request : RuntimeInputRouteRequest)
    (proposal : RuntimeInputRouteProposal) (input : RouterInput I) (world : RouterWorld G) :
    Routed G :=
  match proposal.taskRequestDraft with
  | none => notDispatched input proposal.intent world
  | some draft => router.createExecutionTask request (some draft) input world

def dispatchPlannerProposal (request : RuntimeInputRouteRequest)
    (proposal : RuntimeInputRouteProposal) (activeAsk : Option AskRequestView)
    (activeConfirmation : Option ConfirmationActionView) (input : RouterInput I)
    (world : RouterWorld G) : Routed G :=
  match proposal.dispatchTarget with
  | .readOnlyInquiry => answerReadOnlyInquiry input world
  | .recordGuidance => router.recordGuidance request input world
  | .existingCommand => router.dispatchExistingCommand request proposal input world
  | .resolveAsk => router.plannerResolveAsk request proposal activeAsk input world
  | .resolveConfirmation =>
    router.plannerResolveConfirmation request proposal activeConfirmation input world
  | .executionHandoff => router.dispatchExecutionHandoff request proposal input world
  | .clarification => clarification input world
  | .unsupported => notDispatched input proposal.intent world

def allowedDispatchTargets (activeAsk activeConfirmation : Bool) :
    List RuntimeInputDispatchTarget :=
  [.readOnlyInquiry, .recordGuidance, .existingCommand, .executionHandoff, .clarification,
    .unsupported] ++ (if activeAsk then [.resolveAsk] else []) ++
    (if activeConfirmation then [.resolveConfirmation] else [])

/-- What the planner says to a request; nothing without a planner. -/
def planned (request : RuntimeInputRouteRequest) (input : RouterInput I) :
    Option RouterPlannerResult :=
  router.routePlanner.map fun planner =>
    let ask := (input.snapshot.activeAsk request).isSome
    let confirmation := (input.snapshot.activeConfirmation request).isSome
    planner.plan (allowedDispatchTargets ask confirmation) ask confirmation input.outputs

/-- `route_planner_result`, with what happens when there is no planner. -/
def routePlannerResult (request : RuntimeInputRouteRequest) (input : RouterInput I)
    (world : RouterWorld G) (otherwise : Routed G) : Routed G :=
  match router.planned request input with
  | none => otherwise
  | some (.unavailable _) => notDispatched input .unsupported world
  | some (.planned proposal) =>
    router.dispatchPlannerProposal request proposal (input.snapshot.activeAsk request)
      (input.snapshot.activeConfirmation request) input world

def route (request : RuntimeInputRouteRequest) (input : RouterInput I) (world : RouterWorld G) :
    Routed G :=
  match request.mode with
  | .ask => answerReadOnlyInquiry input world
  | .guide => router.recordGuidance request input world
  | .change =>
    router.routePlannerResult request input world
      (router.createExecutionTask request none input world)
  | .auto =>
    router.routePlannerResult request input world (notDispatched input .unsupported world)

end DefaultRuntimeInputRouter

end Taskweavn
