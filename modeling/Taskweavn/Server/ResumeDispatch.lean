import Taskweavn.Server.RouterSafety
import Taskweavn.Server.UiHttpCommands
import Taskweavn.Task.UserCommands

/-!
# Who wakes the dispatcher

A task that has waited for the user goes back to the queue when the user answers, and the
dispatcher sleeps until somebody tells it.  Three ways lead to the gateway: the routes of
the transport (`taskweavn/server/ui_http.py`), the input router with the contract service
behind it, and the recovery pass before a snapshot (`taskweavn/server/ask_recovery.py`).
An answer to a question asks for a dispatch on each of them.  The response to a
confirmation resumes its task in the same way and asks for none, on any of them.

`wakes_iff` says that no other wake-up is forgotten, and that a request is in vain only when
the worker has had its last tick of the session, or has died.
-/

namespace Taskweavn

open Lib Py

/-! ### The gateway -/

structure DeferAskPayload where
  reason : Option String := none
deriving DecidableEq

structure CancelAskPayload where
  reason : String
deriving DecidableEq

/-- What a command of the gateway draws, and whether a node is one of a draft. -/
structure GatewayInput where
  user : UserInput
  isDraft : String → String → Bool := fun _ _ => false

abbrev PageContract := ContractWorld UserWorld

/-- `_command_response` and `_command_exception_response`, for a result of a service. -/
def coreResponse (commandId : String) : Option CoreCommandResult → CommandResponse
  | none =>
    .failedWith commandId
      { code := "internal_error", message := "Unable to process command", retryable := true }
  | some result =>
    if result.accepted then .acceptedWith commandId result.message
    else
      { requestId := commandId
        ok := false
        result := some { commandId := commandId, status := .rejected, message := result.message }
        error := some { code := "command_rejected", message := result.message }
        valid := rfl }

/-- A command of the gateway that a service carries out. -/
def byService (commandId : String) (world : PageContract)
    (service : UserWorld → Option CoreCommandResult × UserWorld) :
    Option CommandResponse × PageContract :=
  (some (coreResponse commandId (service world.gateway).1),
    { world with gateway := (service world.gateway).2 })

/-- `MainPageTaskRefResolver.resolve`; nothing for an unknown node. -/
def resolveTaskRef (world : PageContract) (input : GatewayInput) (sessionId taskNodeId : String) :
    Option TaskRef :=
  if input.isDraft sessionId taskNodeId then some (.draft taskNodeId)
  else if (world.gateway.bus.get sessionId taskNodeId).isSome then some (.published taskNodeId)
  else (world.plans.getTaskNode sessionId taskNodeId).bind PlanTaskNode.publishedRef

def onPublished (commandId : String) (world : PageContract) (ref : Option TaskRef)
    (refusal : String) (service : String → UserWorld → Option CoreCommandResult × UserWorld) :
    Option CommandResponse × PageContract :=
  match ref with
  | none =>
    (some (.failedWith commandId { code := "not_found", message := "task node not found" }), world)
  | some ref =>
    if ref.kind ≠ .published then
      byService commandId world (fun u => (rejectedResult refusal, u))
    else byService commandId world (service ref.id)

/-- `DefaultUiCommandGateway`, with its services. -/
def defaultUiCommandGateway : UiCommandGateway PageContract GatewayInput where
  answerAsk askId request input world :=
    byService request.commandId world fun u =>
      DefaultTaskAskCommandService.answerAsk u request.sessionId askId
        request.payload.selectedOptionIds request.payload.text request.idempotencyKey input.user
  resolveConfirmation confirmationId request input world :=
    byService request.commandId world fun u =>
      DefaultTaskCommandService.resolveConfirmation u request.sessionId confirmationId
        request.payload.value request.payload.note input.user
  stopTask taskNodeId request input world :=
    onPublished request.commandId world (resolveTaskRef world input request.sessionId taskNodeId)
      "only published pending or running tasks can be stopped" fun taskId u =>
        DefaultTaskCommandService.stopTask u request.sessionId taskId request.payload.reason
          (some request.commandId) input.user
  retryTask taskNodeId request input world :=
    onPublished request.commandId world (resolveTaskRef world input request.sessionId taskNodeId)
      "only published failed tasks can be retried" fun taskId u =>
        DefaultTaskCommandService.retryTask u request.sessionId taskId
          request.payload.instruction input.user

def deferAsk (askId : String) (request : CommandRequest DeferAskPayload) (input : GatewayInput)
    (world : PageContract) : Option CommandResponse × PageContract :=
  byService request.commandId world fun u =>
    DefaultTaskAskCommandService.deferAsk u request.sessionId askId request.payload.reason
      request.idempotencyKey input.user

def cancelAsk (askId : String) (request : CommandRequest CancelAskPayload) (input : GatewayInput)
    (world : PageContract) : Option CommandResponse × PageContract :=
  byService request.commandId world fun u =>
    DefaultTaskAskCommandService.cancelAsk u request.sessionId askId request.payload.reason
      request.idempotencyKey input.user

def dispatcherTrigger : ExecutionTriggerGateway PageContract GatewayInput where
  requestDispatch request _ world :=
    (true, { world with gateway := world.gateway.requestDispatch request.sessionId })

/-! ### The recovery pass -/

/-- The loop of `_recover_execution`; a bus that refuses to resume ends it. -/
def recoverAsks (sessionId : String) (env : CallEnv) : List AskRequest → UserWorld → UserWorld
  | [], u => u
  | ask :: rest, u =>
    match (if ask.blocking then ask.taskId else none).bind (u.bus.get sessionId) with
    | none => recoverAsks sessionId env rest u
    | some t =>
      if t.status = .waitingForUser ∧ t.waitingForAskId = some ask.askId then
        if u.takes sessionId t.taskId (.resumeAfterUser ask.askId) env then
          recoverAsks sessionId env rest
            ((u.move sessionId t.taskId (.resumeAfterUser ask.askId) env).requestDispatch sessionId)
        else u
      else if t.status = .pending ∧ t.waitingForAskId = none then
        recoverAsks sessionId env rest (u.requestDispatch sessionId)
      else recoverAsks sessionId env rest u

def recoverExecution (sessionId : String) (env : CallEnv) (u : UserWorld) : UserWorld :=
  recoverAsks sessionId env (u.asks.listForSession sessionId (some [.answered]) none) u

/-! ### The page -/

/-- How the transport reads the payloads and writes the responses; the routes of other
commands are a parameter. -/
structure HttpCommands where
  sha256 : CommandContent → String
  dump : CommandResponse → PyValue
  answerAsk : PyValue → Option AnswerAskPayload
  deferAsk : PyValue → Option DeferAskPayload
  cancelAsk : PyValue → Option CancelAskPayload
  resolveConfirmation : PyValue → Option ResolveConfirmationPayload
  stopTask : PyValue → Option StopTaskPayload
  retryTask : PyValue → Option RetryTaskPayload
  others : Route → CommandRequest PyValue → GatewayInput → PageContract →
    Option PyValue × PageContract

/-- The parts of the page that are parameters. -/
structure MainPage where
  http : HttpCommands
  service : Option (ContractRevisionCommandService UserWorld GatewayInput) := none
  executionPlane : Option (TaskRequest → GatewayInput → PageContract →
    PublishAnswer × PageContract) := none
  routePlanner : Option LLMRuntimeInputRoutePlanner := none

/-- An envelope with its payload read. -/
def CommandRequest.typed {α : Type} (request : CommandRequest PyValue) (payload : α) :
    CommandRequest α where
  commandId := request.commandId
  sessionId := request.sessionId
  idempotencyKey := request.idempotencyKey
  expectedVersion := request.expectedVersion
  payload := payload

/-- A route of the transport: the payload is read and the command run.  A payload that
cannot be read is refused before. -/
def HttpCommands.handle {α : Type} (http : HttpCommands) (read : PyValue → Option α)
    (request : CommandRequest PyValue) (world : PageContract)
    (command : CommandRequest α → Option CommandResponse × PageContract) :
    Option PyValue × PageContract :=
  match read request.payload with
  | none => (none, world)
  | some payload =>
    let response := command (request.typed payload)
    (response.1.map http.dump, response.2)

/-- The routes of `PlatoUiHttpTransport` for commands. -/
def HttpCommands.dispatch (http : HttpCommands) (route : Route) (request : CommandRequest PyValue)
    (input : GatewayInput) (world : PageContract) : Option PyValue × PageContract :=
  match route.name with
  | .answerAsk =>
    http.handle http.answerAsk request world fun r =>
      answerAskWithResumeDispatch defaultUiCommandGateway (some dispatcherTrigger) route.askId r
        input world
  | .deferAsk =>
    http.handle http.deferAsk request world fun r => Taskweavn.deferAsk route.askId r input world
  | .cancelAsk =>
    http.handle http.cancelAsk request world fun r => Taskweavn.cancelAsk route.askId r input world
  | .resolveConfirmation =>
    http.handle http.resolveConfirmation request world fun r =>
      defaultUiCommandGateway.resolveConfirmation route.confirmationId r input world
  | .stopTask =>
    http.handle http.stopTask request world fun r =>
      defaultUiCommandGateway.stopTask route.taskNodeId r input world
  | .retryTask =>
    http.handle http.retryTask request world fun r =>
      retryTaskWithOptionalDispatch defaultUiCommandGateway (some dispatcherTrigger)
        route.taskNodeId r input world
  | _ => http.others route request input world

namespace MainPage

variable (page : MainPage)

def transport : CommandServer GatewayInput PageContract where
  sha256 := page.http.sha256
  dispatch := page.http.dispatch

def contractService : Option (ContractRevisionCommandService UserWorld GatewayInput) :=
  page.service.map fun service =>
    { service with
      interactionHandler :=
        some (uiGatewayInteraction defaultUiCommandGateway (some dispatcherTrigger)) }

def router : DefaultRuntimeInputRouter UserWorld GatewayInput where
  commandGateway := defaultUiCommandGateway
  executionTrigger := some dispatcherTrigger
  contractService := page.contractService
  executionPlane := page.executionPlane
  routePlanner := page.routePlanner

structure World where
  router : RouterWorld UserWorld
  responses : Dict CommandKey CommandRecord := Dict.empty

/-- The ways in which a user gets to the tasks. -/
inductive Entry
  | http (route : Route) (request : CommandRequest PyValue) (input : GatewayInput)
  | route (request : RuntimeInputRouteRequest) (input : RouterInput GatewayInput)
  | snapshot (sessionId : String) (env : CallEnv)

def step (world : World) : Entry → World
  | .http route request input =>
    let answered := page.transport.commandResponse world.responses world.router.contract route
      request input
    { router := { world.router with contract := answered.2.2 }, responses := answered.2.1 }
  | .route request input =>
    { world with router := (page.router.route request input world.router).2 }
  | .snapshot sessionId env =>
    { world with
      router :=
        { world.router with
          contract :=
            { world.router.contract with
              gateway := recoverExecution sessionId env world.router.contract.gateway } } }

end MainPage

def ContractWorld.dispatch (world : PageContract) : DispatchState := world.gateway.dispatch

/-! ### Commands that wake the dispatcher -/

open DispatchState

section

variable {world : PageContract} {input : GatewayInput}

/-- From the world before a command to the one after it. -/
def Wakeful (world : PageContract) (world' : PageContract) : Prop :=
  world.dispatch.Heeds world'.dispatch

def Forgetful (world : PageContract) (world' : PageContract) : Prop :=
  world.dispatch.Forgets world'.dispatch

theorem Wakeful.refl (world : PageContract) : Wakeful world world :=
  heeds_of_not_resumed fun _ _ => not_resumed_of_bus_eq rfl

theorem wakeful_of_gateway_eq {world' : PageContract} (h : world'.gateway = world.gateway) :
    Wakeful world world' := by
  refine heeds_of_not_resumed fun _ _ => not_resumed_of_bus_eq ?_
  rw [ContractWorld.dispatch, ContractWorld.dispatch, h]

theorem accepted_coreResponse {commandId : String} {result : Option CoreCommandResult} :
    (coreResponse commandId result).accepted = result.any CoreCommandResult.accepted := by
  cases result with
  | none => rfl
  | some r =>
    by_cases h : r.accepted = true
    · simp [coreResponse, h, CommandResponse.acceptedWith, CommandResponse.accepted]
    · simp [coreResponse, h, CommandResponse.accepted]

/-- **An answer wakes the dispatcher.** -/
theorem wakeful_answerAsk (askId : String) (request : CommandRequest AnswerAskPayload) :
    Wakeful world (answerAskWithResumeDispatch defaultUiCommandGateway (some dispatcherTrigger)
      askId request input world).2 := by
  have hresponse : (defaultUiCommandGateway.answerAsk askId request input world) =
      byService request.commandId world fun u =>
        DefaultTaskAskCommandService.answerAsk u request.sessionId askId
          request.payload.selectedOptionIds request.payload.text request.idempotencyKey
          input.user := rfl
  unfold answerAskWithResumeDispatch
  rw [hresponse]
  simp only [byService, thenDispatch, accepted_coreResponse]
  rcases DefaultTaskAskCommandService.answerAsk_cases world.gateway request.sessionId
    request.idempotencyKey input.user askId request.payload.selectedOptionIds
    request.payload.text with heq | ⟨taskId, id, hacc, heq⟩
  · -- the task has not moved, whether the dispatcher is told or not
    refine heeds_of_not_resumed fun s i => not_resumed_of_bus_eq ?_
    split
    · show ((_ : UserWorld).dispatch.request _).bus = _
      rw [bus_request, heq]
      rfl
    · show (_ : UserWorld).dispatch.bus = _
      rw [heq]
      rfl
  · rw [if_pos hacc]
    show world.dispatch.Heeds ((_ : UserWorld).dispatch.request request.sessionId)
    rw [heq]
    exact heeds_request rfl fun s i hr => (resumed_operate hr).1

theorem wakeful_byService {commandId : String}
    {service : UserWorld → Option CoreCommandResult × UserWorld}
    (h : ∀ s i, ¬world.dispatch.Resumed (service world.gateway).2.dispatch s i) :
    Wakeful world (byService commandId world service).2 :=
  heeds_of_not_resumed h

theorem not_resumed_onPublished {commandId refusal : String} {ref : Option TaskRef}
    {service : String → UserWorld → Option CoreCommandResult × UserWorld}
    (h : ∀ taskId s i, ¬world.dispatch.Resumed (service taskId world.gateway).2.dispatch s i)
    (s i : String) :
    ¬world.dispatch.Resumed (onPublished commandId world ref refusal service).2.dispatch s i := by
  unfold onPublished
  split
  · exact not_resumed_of_bus_eq rfl
  · split
    · exact not_resumed_of_bus_eq rfl
    · exact h _ s i

theorem wakeful_stopTask (taskNodeId : String) (request : CommandRequest StopTaskPayload) :
    Wakeful world (defaultUiCommandGateway.stopTask taskNodeId request input world).2 :=
  heeds_of_not_resumed
    (not_resumed_onPublished fun _ => DefaultTaskCommandService.not_resumed_stopTask)

theorem bus_thenDispatch {trigger : Option (ExecutionTriggerGateway PageContract GatewayInput)}
    (ht : trigger = none ∨ trigger = some dispatcherTrigger) {request : DispatchRequest}
    (r : Option CommandResponse × PageContract) :
    (thenDispatch trigger request input r).2.dispatch.bus = r.2.dispatch.bus := by
  unfold thenDispatch
  split
  · split
    · rcases ht with rfl | rfl <;> rfl
    · rfl
  · rfl

theorem wakeful_retryTask (taskNodeId : String) (request : CommandRequest RetryTaskPayload) :
    Wakeful world (retryTaskWithOptionalDispatch defaultUiCommandGateway (some dispatcherTrigger)
      taskNodeId request input world).2 := by
  have hretry : ∀ s i, ¬world.dispatch.Resumed
      (defaultUiCommandGateway.retryTask taskNodeId request input world).2.dispatch s i :=
    not_resumed_onPublished fun _ => DefaultTaskCommandService.not_resumed_retryTask
  refine heeds_of_not_resumed fun s i hr => hretry s i ?_
  obtain ⟨hw, t, ht, hp⟩ := hr
  unfold retryTaskWithOptionalDispatch at ht
  rw [bus_thenDispatch] at ht
  · exact ⟨hw, t, ht, hp⟩
  · split
    · exact .inr rfl
    · exact .inl rfl

theorem wakeful_deferAsk (askId : String) (request : CommandRequest DeferAskPayload) :
    Wakeful world (deferAsk askId request input world).2 := by
  refine wakeful_byService fun s i => ?_
  exact DefaultTaskAskCommandService.not_resumed_follow_fail _ _ _ _ _ _ s i

theorem wakeful_cancelAsk (askId : String) (request : CommandRequest CancelAskPayload) :
    Wakeful world (cancelAsk askId request input world).2 := by
  refine wakeful_byService fun s i => ?_
  unfold DefaultTaskAskCommandService.cancelAsk
  split
  · exact not_resumed_of_bus_eq rfl
  · exact DefaultTaskAskCommandService.not_resumed_follow_fail _ _ _ _ _ _ s i

theorem forgetful_resolveConfirmation (confirmationId : String)
    (request : CommandRequest ResolveConfirmationPayload) :
    Forgetful world
      (defaultUiCommandGateway.resolveConfirmation confirmationId request input world).2 :=
  DefaultTaskCommandService.forgets_resolveConfirmation

end

/-! ### The recovery pass wakes the dispatcher -/

/-- What the pass has done to the session so far: the other sessions are left alone, a request
is in vain only if it was so before, and either no task has moved or the dispatcher was asked
last. -/
structure RecoverInv (sessionId : String) (st st' : DispatchState) : Prop where
  others : ∀ s i, s ≠ sessionId → st'.bus.get s i = st.bus.get s i
  prepared : st'.Prepared sessionId ↔ st.Prepared sessionId
  asked : st'.bus = st.bus ∨ ∀ i, st'.Wakes sessionId i ↔ st.Prepared sessionId

theorem RecoverInv.heeds {sessionId : String} {st st' : DispatchState}
    (h : RecoverInv sessionId st st') : st.Heeds st' := by
  intro s i hr
  by_cases hs : s = sessionId
  · subst hs
    rcases h.asked with heq | hasked
    · exact absurd hr (not_resumed_of_bus_eq heq)
    · exact hasked i
  · obtain ⟨⟨t, ht, hw⟩, t', ht', hp⟩ := hr
    rw [h.others s i hs, ht] at ht'
    cases ht'
    rw [hw] at hp
    cases hp

theorem RecoverInv.request {sessionId : String} {st st' st'' : DispatchState}
    (h : RecoverInv sessionId st st') (hdisp : st''.dispatcher = st'.dispatcher)
    (hothers : ∀ s i, s ≠ sessionId → st''.bus.get s i = st'.bus.get s i) :
    RecoverInv sessionId st (st''.request sessionId) := by
  have hprepared : st''.Prepared sessionId ↔ st.Prepared sessionId := by
    rw [← h.prepared, Prepared, Ready, TickComes, hdisp]
    rfl
  refine ⟨fun s i hs => (hothers s i hs).trans (h.others s i hs), ?_, .inr fun i => ?_⟩
  · exact prepared_request_iff.trans hprepared
  · exact wakes_request_iff.trans hprepared

theorem recoverInv_asks {sessionId : String} {env : CallEnv} {st : DispatchState} :
    ∀ (asks : List AskRequest) {u : UserWorld}, RecoverInv sessionId st u.dispatch →
      RecoverInv sessionId st (recoverAsks sessionId env asks u).dispatch := by
  intro asks
  induction asks with
  | nil => exact fun h => h
  | cons ask rest ih =>
    intro u h
    unfold recoverAsks
    split
    · exact ih h
    · next t _ =>
      split
      · split
        · -- the task is resumed, and then the dispatcher is asked
          refine ih (h.request rfl fun s i hs => ?_)
          show (u.dispatch.bus.transition sessionId t.taskId (.resumeAfterUser ask.askId) env).2.get
            s i = u.dispatch.bus.get s i
          rcases u.dispatch.bus.transition_cases sessionId t.taskId (.resumeAfterUser ask.askId) env
            with ⟨e, he⟩ | ⟨_, _, _, _, _, he⟩
          · rw [he]
          · rw [he]
            refine Dict.get?_set_ne _ _ ?_
            intro hk
            exact hs (congrArg Prod.fst hk).symm
        · exact h
      · split
        · exact ih (h.request rfl fun _ _ _ => rfl)
        · exact ih h

/-- **The recovery pass wakes the dispatcher.** -/
theorem heeds_recoverExecution (sessionId : String) (env : CallEnv) (u : UserWorld) :
    u.dispatch.Heeds (recoverExecution sessionId env u).dispatch :=
  (recoverInv_asks _ ⟨fun _ _ _ => rfl, .rfl, .inl rfl⟩).heeds

/-! ### The contract service -/

namespace ContractRevisionCommandService

variable {G I : Type} {service : ContractRevisionCommandService G I}
  {records : Dict Key Record} {world : ContractWorld G} {request : ContractCommandRequest}
  {input : ContractInput I}

/-- The world that a run leaves. -/
def ranWorld (world : ContractWorld G) : Outcome (ContractWorld G) ContractCommandResult →
    ContractWorld G
  | .refused => world
  | .raised world => world
  | .replied _ world => world

theorem execute_world_of_some {v : Record}
    (hget : records.get? (request.sessionId, request.idempotencyKey) = some v) :
    (service.execute records world request input).2.2 = world := by
  obtain ⟨hash, cached⟩ := v
  unfold execute
  simp only [hget]
  split <;> rfl

theorem execute_world_of_none
    (hget : records.get? (request.sessionId, request.idempotencyKey) = none) :
    (service.execute records world request input).2.2 =
      ranWorld world (service.run request input world) := by
  unfold execute
  simp only [hget]
  cases service.run request input world <;> rfl

theorem gateway_recordGuidance :
    (ranWorld world (service.recordGuidance request input world)).gateway = world.gateway := by
  unfold recordGuidance
  split
  · rfl
  · split
    · rfl
    · split <;> rfl

theorem gateway_createExecutionTask :
    (ranWorld world (service.createExecutionTask request input world)).gateway = world.gateway := by
  unfold createExecutionTask taskNodeCommand
  split
  · rfl
  · split
    · rfl
    · unfold onPlans
      split <;> rfl

theorem world_interact {sideEffect : SessionActivitySideEffect} {messageKey : String}
    {answered : Option ContractInteractionCommandOutcome × ContractWorld G} :
    ranWorld world (interact request sideEffect messageKey answered) = answered.2 := by
  obtain ⟨_ | outcome, w⟩ := answered <;> rfl

end ContractRevisionCommandService

/-! ### The router -/

namespace MainPage

open ContractRevisionCommandService DefaultRuntimeInputRouter

variable (page : MainPage) {request : RuntimeInputRouteRequest} {input : RouterInput GatewayInput}
  {world : RouterWorld UserWorld}

/-- The other parts of the page resume no task: they publish new tasks, or work on drafts,
plans and guidance. -/
structure KeepsWaiting : Prop where
  others : ∀ route request input world s i,
    ¬(world : PageContract).dispatch.Resumed
      (page.http.others route request input world).2.dispatch s i
  plane : ∀ plane, page.executionPlane = some plane → ∀ request input world s i,
    ¬(world : PageContract).dispatch.Resumed (plane request input world).2.dispatch s i

variable {page}

theorem contract_contractRouted {intent : RuntimeInputIntent} {target : RuntimeInputDispatchTarget}
    {sideEffect : SessionActivitySideEffect} {withResponse : Bool}
    {service : ContractRevisionCommandService UserWorld GatewayInput}
    {command : ContractCommandRequest} {ci : ContractInput GatewayInput} :
    (contractRouted input intent target sideEffect withResponse
      (issueContract service command ci world)).2.contract =
      (service.execute world.records world.contract command ci).2.2 := by
  unfold issueContract
  simp only
  cases (service.execute world.records world.contract command ci).1 <;> rfl

theorem contract_gatewayRouted {intent : RuntimeInputIntent} {target : RuntimeInputDispatchTarget}
    {sideEffect : SessionActivitySideEffect} {call : StateCall}
    {service : PageContract → Option CommandResponse × PageContract} :
    (gatewayRouted input intent target sideEffect (issue call service world)).2.contract =
      (service world.contract).2 := by
  unfold issue
  simp only
  cases (service world.contract).1 <;> rfl

theorem wakeful_execute {service : ContractRevisionCommandService UserWorld GatewayInput}
    {command : ContractCommandRequest} {ci : ContractInput GatewayInput}
    {records : Dict Key Record} {w : PageContract}
    (h : Wakeful w (ranWorld w (service.run command ci w))) :
    Wakeful w (service.execute records w command ci).2.2 := by
  cases hget : records.get? (command.sessionId, command.idempotencyKey) with
  | some v =>
    rw [execute_world_of_some hget]
    exact .refl w
  | none =>
    rw [execute_world_of_none hget]
    exact h

theorem wakeful_recordGuidance :
    Wakeful world.contract (page.router.recordGuidance request input world).2.contract := by
  unfold DefaultRuntimeInputRouter.recordGuidance
  split
  · exact .refl _
  · rw [contract_contractRouted]
    exact wakeful_execute (wakeful_of_gateway_eq gateway_recordGuidance)

theorem wakeful_createContractTask (draft : Option RouterTaskRequestDraft) :
    Wakeful world.contract (page.router.createContractTask request draft input
    world).2.contract := by
  unfold createContractTask
  split
  · exact .refl _
  · rw [contract_contractRouted]
    exact wakeful_execute (wakeful_of_gateway_eq gateway_createExecutionTask)

theorem wakeful_askContract {service : ContractRevisionCommandService UserWorld GatewayInput}
    (hs : page.contractService = some service) (askId text decisionId : String)
    {ci : ContractInput GatewayInput} {w : PageContract} :
    Wakeful w (ranWorld w (service.run (askCommand request askId text decisionId) ci w)) := by
  have hrun : service.run (askCommand request askId text decisionId) ci w =
      service.resolveAsk (askCommand request askId text decisionId) ci w := rfl
  rw [hrun]
  obtain ⟨base, _, rfl⟩ := Option.map_eq_some_iff.mp hs
  unfold ContractRevisionCommandService.resolveAsk
  simp only
  split
  · exact .refl w
  · rw [world_interact]
    exact wakeful_answerAsk _ _

theorem wakeful_routedAsk (ask : AskRequestView) (text : String) :
    Wakeful world.contract (page.router.answerAsk request ask text input world).2.contract := by
  unfold answerAsk
  simp only
  split
  · next service hs =>
    rw [contract_contractRouted]
    exact wakeful_execute (wakeful_askContract hs _ _ _)
  · rw [contract_gatewayRouted]
    exact wakeful_answerAsk _ _

theorem wakeful_wechat (hkeeps : page.KeepsWaiting) (resolution : WeChatSendResolution) :
    Wakeful world.contract
      (page.router.createWechatSendTaskRequest request resolution input world).2.contract := by
  unfold createWechatSendTaskRequest
  split
  · next plane hplane =>
    have hnot := hkeeps.plane plane hplane
      (wechatSendTaskRequest resolution request input.contentHash) input.gateway world.contract
    unfold publishWechatSendTaskRequest issue
    cases hanswer : plane (wechatSendTaskRequest resolution request input.contentHash)
        input.gateway world.contract with
    | mk answer contract =>
      rw [hanswer] at hnot
      simp only [hanswer]
      refine heeds_of_not_resumed fun s i hr => hnot s i ?_
      cases answer with
      | raised => exact hr
      | refused => exact hr
      | published execution =>
        obtain ⟨hw, t, ht, hp⟩ := hr
        refine ⟨hw, t, ?_, hp⟩
        simp only [router] at ht
        split at ht
        · exact ht
        · exact ht
  · exact .refl _

/-! ### Confirmations -/

variable (page request input) in
def Confirming (confirmationId value : String) : Prop :=
  ∃ p draft confirmation, page.router.RoutedBy request input p ∧
    p.dispatchTarget = .resolveConfirmation ∧ p.confirmationResponseDraft = some draft ∧
    input.snapshot.activeConfirmation request = some confirmation ∧
    draft.confirmationId.any (· != confirmation.id) = false ∧
    confirmation.id = confirmationId ∧ draft.resolution.toText = value

/-- **A route that responds to no confirmation wakes the dispatcher.** -/
theorem wakeful_route (hkeeps : page.KeepsWaiting)
    (hno : ∀ c v, ¬page.Confirming request input c v) :
    Wakeful world.contract (page.router.route request input world).2.contract := by
  have hplanned : ∀ otherwise : Routed UserWorld,
      (request.mode = .auto ∨ request.mode = .change) →
      Wakeful world.contract otherwise.2.contract →
      Wakeful world.contract
        (page.router.routePlannerResult request input world otherwise).2.contract := by
    intro otherwise hmode ho
    unfold routePlannerResult
    split
    · exact ho
    · exact .refl _
    · next p hp =>
      unfold dispatchPlannerProposal
      split
      · rw [calls_answerReadOnlyInquiry]
        exact .refl _
      · exact wakeful_recordGuidance
      · unfold dispatchExistingCommand
        split
        · exact .refl _
        · split
          · unfold stopSelectedTask
            split
            · exact .refl _
            · rw [contract_gatewayRouted]
              exact wakeful_stopTask _ _
          · unfold retrySelectedTask
            split
            · exact .refl _
            · rw [contract_gatewayRouted]
              exact wakeful_retryTask _ _
          · exact .refl _
      · unfold plannerResolveAsk
        split
        · exact .refl _
        · exact .refl _
        · split
          · exact .refl _
          · exact wakeful_routedAsk _ _
      · next ht =>
        unfold plannerResolveConfirmation
        split
        · exact .refl _
        · exact .refl _
        · next confirmation draft hconf hdraft =>
          split
          · exact .refl _
          · next hid =>
            refine absurd ?_ (hno confirmation.id draft.resolution.toText)
            exact ⟨p, draft, confirmation,
              ⟨hmode, hp⟩, ht, hdraft, hconf, by simpa using hid, rfl, rfl⟩
      · unfold dispatchExecutionHandoff
        split
        · exact .refl _
        · unfold DefaultRuntimeInputRouter.createExecutionTask
          simp only
          split
          · split
            · exact .refl _
            · exact wakeful_wechat hkeeps _
          · exact wakeful_createContractTask _
      · exact .refl _
      · exact .refl _
  unfold route
  split
  · rw [calls_answerReadOnlyInquiry]
    exact .refl _
  · exact wakeful_recordGuidance
  · next hmode => exact hplanned _ (.inr hmode) (wakeful_createContractTask none)
  · next hmode => exact hplanned _ (.inl hmode) (.refl _)

/-- **A routed response resumes a task and tells nobody**, with the contract service or
without. -/
theorem forgetful_routedConfirmation (confirmation : ConfirmationActionView) (value : String) :
    Forgetful world.contract
      (page.router.resolveConfirmation request confirmation value input world).2.contract := by
  unfold DefaultRuntimeInputRouter.resolveConfirmation
  split
  · next service hs =>
    obtain ⟨base, _, rfl⟩ := Option.map_eq_some_iff.mp hs
    rw [contract_contractRouted]
    cases hget : world.records.get? (request.sessionId, request.commandId) with
    | some v =>
      rw [execute_world_of_some hget]
      exact forgets_of_not_resumed fun _ _ => not_resumed_of_bus_eq rfl
    | none =>
      rw [execute_world_of_none hget]
      have hrun : ∀ (service : ContractRevisionCommandService UserWorld GatewayInput)
          (command : ContractCommandRequest), command.commandKind = .resolveConfirmation →
          service.run command input.contract world.contract =
            service.resolveConfirmation command input.contract world.contract := by
        intro service command hk
        unfold ContractRevisionCommandService.run
        rw [hk]
      rw [hrun _ _ rfl]
      unfold ContractRevisionCommandService.resolveConfirmation
      simp only
      split
      · exact forgets_of_not_resumed fun _ _ => not_resumed_of_bus_eq rfl
      · rw [world_interact]
        exact forgetful_resolveConfirmation _ _
  · rw [contract_gatewayRouted]
    exact forgetful_resolveConfirmation _ _

theorem route_of_confirming {p : RuntimeInputRouteProposal}
    {draft : RouterConfirmationResponseDraft} {confirmation : ConfirmationActionView}
    (hp : page.router.RoutedBy request input p) (ht : p.dispatchTarget = .resolveConfirmation)
    (hd : p.confirmationResponseDraft = some draft)
    (hc : input.snapshot.activeConfirmation request = some confirmation)
    (hid : draft.confirmationId.any (· != confirmation.id) = false) :
    page.router.route request input world =
      page.router.resolveConfirmation request confirmation draft.resolution.toText input world := by
  rw [hp.route_eq, dispatchPlannerProposal, ht]
  simp only [plannerResolveConfirmation, hc, hd, hid, Bool.false_eq_true, if_false]

/-! ### All ways -/

variable (page) in
/-- The request is a response to a confirmation. -/
def Confirms : Entry → Prop
  | .http route _ _ => route.name = .resolveConfirmation
  | .route request input => ∃ confirmationId value,
      page.Confirming request input confirmationId value
  | .snapshot _ _ => False

theorem handle_cases {α : Type} (read : PyValue → Option α) (r : CommandRequest PyValue)
    (w : PageContract) (command : CommandRequest α → Option CommandResponse × PageContract) :
    (page.http.handle read r w command).2 = w ∨
      ∃ payload, (page.http.handle read r w command).2 = (command (r.typed payload)).2 := by
  unfold HttpCommands.handle
  split
  · exact .inl rfl
  · next payload _ => exact .inr ⟨payload, rfl⟩

theorem wakeful_handle {α : Type} {read : PyValue → Option α} {r : CommandRequest PyValue}
    {w : PageContract} {command : CommandRequest α → Option CommandResponse × PageContract}
    (h : ∀ request, Wakeful w (command request).2) :
    Wakeful w (page.http.handle read r w command).2 := by
  rcases page.handle_cases read r w command with heq | ⟨payload, heq⟩
  · rw [heq]
    exact .refl w
  · rw [heq]
    exact h _

theorem wakeful_dispatch (hkeeps : page.KeepsWaiting) {route : Route} {r : CommandRequest PyValue}
    {gi : GatewayInput} {w : PageContract} (hne : route.name ≠ .resolveConfirmation) :
    Wakeful w (page.http.dispatch route r gi w).2 := by
  unfold HttpCommands.dispatch
  split
  · exact wakeful_handle (wakeful_answerAsk _)
  · exact wakeful_handle (wakeful_deferAsk _)
  · exact wakeful_handle (wakeful_cancelAsk _)
  · next hname => exact absurd hname hne
  · exact wakeful_handle (wakeful_stopTask _)
  · exact wakeful_handle (wakeful_retryTask _)
  · exact heeds_of_not_resumed (hkeeps.others route r gi w)

theorem forgetful_dispatch {route : Route} {r : CommandRequest PyValue} {gi : GatewayInput}
    {w : PageContract} (hname : route.name = .resolveConfirmation) :
    Forgetful w (page.http.dispatch route r gi w).2 := by
  unfold HttpCommands.dispatch
  rw [hname]
  simp only
  rcases page.handle_cases page.http.resolveConfirmation r w fun r =>
    defaultUiCommandGateway.resolveConfirmation route.confirmationId r gi w with heq | ⟨_, heq⟩
  · rw [heq]
    exact forgets_of_not_resumed fun _ _ => not_resumed_of_bus_eq rfl
  · rw [heq]
    exact forgetful_resolveConfirmation _ _

variable (page) in
/-- A request with a key that has a record is answered without a command. -/
theorem commandResponse_world (store : Dict CommandKey CommandRecord) (w : PageContract)
    (route : Route) (r : CommandRequest PyValue) (gi : GatewayInput) :
    (page.transport.commandResponse store w route r gi).2.2 = w ∨
      (page.transport.commandResponse store w route r gi).2.2 =
        (page.http.dispatch route r gi w).2 := by
  unfold CommandServer.commandResponse
  have hdispatch : page.transport.dispatch = page.http.dispatch := rfl
  rw [hdispatch]
  cases r.idempotencyKey with
  | none =>
    right
    simp only
    split <;> next h => rw [h]
  | some key =>
    cases hget : store.get? (r.sessionId, key) with
    | some v =>
      left
      obtain ⟨hash, cached⟩ := v
      simp only [hget]
      split <;> rfl
    | none =>
      right
      simp only [hget]
      split <;> next h => rw [h]

theorem heeds_step (hkeeps : page.KeepsWaiting) (world : World) {entry : Entry}
    (hno : ¬page.Confirms entry) :
    world.router.contract.dispatch.Heeds (page.step world entry).router.contract.dispatch := by
  cases entry with
  | http route r gi =>
    show Wakeful world.router.contract (page.transport.commandResponse world.responses
      world.router.contract route r gi).2.2
    rcases page.commandResponse_world world.responses world.router.contract route r gi with hw | hw
    · rw [hw]
      exact .refl _
    · rw [hw]
      exact wakeful_dispatch hkeeps hno
  | route r ri => exact wakeful_route hkeeps fun c v h => hno ⟨c, v, h⟩
  | snapshot sessionId env =>
    exact heeds_recoverExecution sessionId env world.router.contract.gateway

theorem forgets_step (world : World) {entry : Entry} (h : page.Confirms entry) :
    world.router.contract.dispatch.Forgets (page.step world entry).router.contract.dispatch := by
  cases entry with
  | http route r gi =>
    show Forgetful world.router.contract (page.transport.commandResponse world.responses
      world.router.contract route r gi).2.2
    rcases page.commandResponse_world world.responses world.router.contract route r gi with hw | hw
    · rw [hw]
      exact forgets_of_not_resumed fun _ _ => not_resumed_of_bus_eq rfl
    · rw [hw]
      exact forgetful_dispatch h
  | route r ri =>
    obtain ⟨_, _, p, draft, confirmation, hp, ht, hd, hc, hid, -, -⟩ := h
    show Forgetful world.router.contract (page.router.route r ri world.router).2.contract
    rw [route_of_confirming hp ht hd hc hid]
    exact forgetful_routedConfirmation _ _
  | snapshot _ _ => exact h.elim

/-- **A resumed task wakes the dispatcher**, unless it has waited for a confirmation or the
request for its session is in vain. -/
theorem wakes_iff (hkeeps : page.KeepsWaiting) (world : World) (entry : Entry) {s i : String}
    (hr : world.router.contract.dispatch.Resumed
      (page.step world entry).router.contract.dispatch s i) :
    (page.step world entry).router.contract.dispatch.Wakes s i ↔
      ¬page.Confirms entry ∧ world.router.contract.dispatch.Prepared s := by
  by_cases hconf : page.Confirms entry
  · have howed := forgets_step world hconf s i hr
    exact ⟨fun hw => absurd howed hw.1, fun h => absurd hconf h.1⟩
  · rw [heeds_step hkeeps world hconf s i hr]
    exact ⟨fun h => ⟨hconf, h⟩, And.right⟩

/-! ### Concrete requests -/

/-- The task `a` waits for the user: it was published, claimed and made to wait. -/
def waitingBus (tr : Transition) : InMemoryTaskBus :=
  TaskBus.run {}
    [⟨.publish (.sample "s" "a") TaskDomain.valid_sample, .sample⟩,
     ⟨.claimNext "s" (TaskDomain.sample "s" "a").requiredCapability "agent", .sample⟩,
     ⟨.transition "s" "a" tr, .sample⟩]

/-- The page, whose readers take one payload. -/
def samplePage : MainPage where
  http :=
    { sha256 := fun _ => ""
      dump := fun _ => .none
      answerAsk := fun _ => some { text := some "yes" }
      deferAsk := fun _ => none
      cancelAsk := fun _ => none
      resolveConfirmation := fun _ => some { value := "confirmed" }
      stopTask := fun _ => none
      retryTask := fun _ => none
      others := fun _ _ _ world => (none, world) }

theorem samplePage_keeps : samplePage.KeepsWaiting := by
  refine ⟨fun _ _ _ world _ _ => not_resumed_of_bus_eq rfl, ?_⟩
  intro plane h
  cases h

/-- The question `q` and the confirmation `m` are open, both about the task `a`. -/
def sampleWorld (tr : Transition) : World where
  router :=
    { contract :=
        { gateway :=
            { dispatch := { bus := waitingBus tr, dispatcher := {} }
              asks :=
                { requests := Dict.empty.set ("s", "q")
                    { askId := "q", sessionId := "s", taskId := some "a", question := "Where?"
                      reason := "The trip needs a place.", createdAt := Moment.utc .noon
                      questions_ok := nodup_no_questions,
                      blocking_scope := fun _ => rfl, answer_ref := pending_answer_ref } }
              messages :=
                { messages := [{ messageId := "m", sessionId := "s", taskId := some "a"
                                 messageType := .actionable, content := "send?" }] } } } }

def sampleCommand (commandId : String) : CommandRequest PyValue where
  commandId := commandId
  sessionId := "s"
  payload := .none

def sampleGatewayInput : GatewayInput := { user := ⟨"n", .noon, .sample⟩ }

def answerEntry : Entry :=
  .http { name := .answerAsk, sessionId := "s", askId := "q" } (sampleCommand "c")
    sampleGatewayInput

def respondEntry : Entry :=
  .http { name := .resolveConfirmation, sessionId := "s", confirmationId := "m" }
    (sampleCommand "c") sampleGatewayInput

theorem resumed_of_any {st st' : DispatchState} {sessionId taskId : String}
    (h : (st.bus.get sessionId taskId).any (fun t => t.status == .waitingForUser) = true)
    (h' : (st'.bus.get sessionId taskId).any (fun t => t.status == .pending) = true) :
    st.Resumed st' sessionId taskId := by
  obtain ⟨t, ht, hw⟩ := (Option.any_eq_true _ _).mp h
  obtain ⟨t', ht', hp⟩ := (Option.any_eq_true _ _).mp h'
  exact ⟨⟨t, ht, beq_iff_eq.mp hw⟩, t', ht', beq_iff_eq.mp hp⟩

/-- An answer resumes the task and wakes the dispatcher. -/
theorem wakes_answer :
    (sampleWorld (.waitForUser "q")).router.contract.dispatch.Resumed
        (samplePage.step (sampleWorld (.waitForUser "q")) answerEntry).router.contract.dispatch
        "s" "a" ∧
      (samplePage.step (sampleWorld (.waitForUser "q")) answerEntry).router.contract.dispatch.Wakes
        "s" "a" := by
  have hresumed : (sampleWorld (.waitForUser "q")).router.contract.dispatch.Resumed
      (samplePage.step (sampleWorld (.waitForUser "q")) answerEntry).router.contract.dispatch
      "s" "a" :=
    resumed_of_any (by decide +kernel) (by decide +kernel)
  refine ⟨hresumed, (wakes_iff samplePage_keeps _ answerEntry hresumed).mpr ⟨?_, ?_⟩⟩
  · intro h
    cases h
  · -- the worker is not started yet
    exact fun _ _ _ => .inr ⟨List.not_mem_nil, nofun, .inl rfl⟩

/-- The response resumes the task, and the dispatcher sleeps. -/
theorem confirmation_sleeps :
    (sampleWorld (.waitForConfirmation "m")).router.contract.dispatch.Resumed
        (samplePage.step (sampleWorld (.waitForConfirmation "m"))
          respondEntry).router.contract.dispatch "s" "a" ∧
      ¬(samplePage.step (sampleWorld (.waitForConfirmation "m"))
        respondEntry).router.contract.dispatch.Wakes "s" "a" := by
  have howed : "s" ∈ (samplePage.step (sampleWorld (.waitForConfirmation "m"))
      respondEntry).router.contract.dispatch.owed := by
    decide +kernel
  exact ⟨resumed_of_any (by decide +kernel) (by decide +kernel), fun hwakes => hwakes.1 howed⟩

end MainPage

end Taskweavn
