import Taskweavn.Contract.Service

/-!
# The command gateway and the dispatcher behind it

The commands that resume, stop and retry tasks, as the transport, the router and the
contract service call them.  Some callers tell the dispatcher afterwards that there is
work again (`taskweavn/server/ui_http_commands.py`); a dispatcher that raises does not
undo the command.

What the commands do is a parameter, over any world.  The interaction handler of the
contract service is built from them
(`taskweavn/contract_revision/interaction_commands.py`).
-/

namespace Taskweavn

open Lib Py

structure AnswerAskPayload where
  selectedOptionIds : List String := []
  text : Option String := none
deriving DecidableEq

structure ResolveConfirmationPayload where
  value : String
  note : Option String := none
deriving DecidableEq

structure StopTaskPayload where
  reason : Option String := none
deriving DecidableEq

structure RetryTaskPayload where
  instruction : Option String := none
  startImmediately : Bool := true
deriving DecidableEq

/-- The commands of `UiCommandGateway` on questions and published tasks; there is no
response when one raises. -/
structure UiCommandGateway (W I : Type) where
  answerAsk : String → CommandRequest AnswerAskPayload → I → W → Option CommandResponse × W
  resolveConfirmation : String → CommandRequest ResolveConfirmationPayload → I → W →
    Option CommandResponse × W
  stopTask : String → CommandRequest StopTaskPayload → I → W → Option CommandResponse × W
  retryTask : String → CommandRequest RetryTaskPayload → I → W → Option CommandResponse × W

inductive DispatchReason
  | publishStartImmediately
  | retryStartImmediately
  | askAnswerResume
  | manualControlRoute
  | startupRecovery
deriving DecidableEq, Repr

/-- The arguments of `request_dispatch`. -/
structure DispatchRequest where
  sessionId : String
  reason : DispatchReason
  requestId : String
deriving DecidableEq

/-- `request_dispatch`; it answers `false` when it raises. -/
structure ExecutionTriggerGateway (W I : Type) where
  requestDispatch : DispatchRequest → I → W → Bool × W

variable {W I : Type}

/-- Run a command, and ask for a dispatch when it is accepted.  What the dispatcher
raises is caught. -/
def thenDispatch (trigger : Option (ExecutionTriggerGateway W I)) (request : DispatchRequest)
    (input : I) : Option CommandResponse × W → Option CommandResponse × W
  | (some response, world) =>
    if response.accepted then
      match trigger with
      | some trigger => (some response, (trigger.requestDispatch request input world).2)
      | none => (some response, world)
    else (some response, world)
  | (none, world) => (none, world)

def answerAskWithResumeDispatch (gateway : UiCommandGateway W I)
    (trigger : Option (ExecutionTriggerGateway W I)) (askId : String)
    (request : CommandRequest AnswerAskPayload) (input : I) (world : W) :
    Option CommandResponse × W :=
  thenDispatch trigger ⟨request.sessionId, .askAnswerResume, request.commandId⟩ input
    (gateway.answerAsk askId request input world)

def retryTaskWithOptionalDispatch (gateway : UiCommandGateway W I)
    (trigger : Option (ExecutionTriggerGateway W I)) (taskNodeId : String)
    (request : CommandRequest RetryTaskPayload) (input : I) (world : W) :
    Option CommandResponse × W :=
  thenDispatch (if request.payload.startImmediately then trigger else none)
    ⟨request.sessionId, .retryStartImmediately, request.commandId⟩ input
    (gateway.retryTask taskNodeId request input world)

/-! ### Interactions of the contract service -/

/-- `_outcome_from_command_response` -/
def interactionOutcomeOf (response : CommandResponse) : ContractInteractionCommandOutcome :=
  match response.ok, response.result with
  | true, some result =>
    { accepted := true, message := result.message, commandResponse := some response }
  | _, _ =>
    { accepted := false
      message := (response.error.map ApiError.message).getD "Command was rejected."
      commandResponse := some response
      reasonCode := some ((response.error.map ApiError.code).getD "command_rejected") }

def ContractCommandRequest.envelope {α : Type} (request : ContractCommandRequest) (payload : α) :
    CommandRequest α where
  commandId := request.commandId
  sessionId := request.sessionId
  idempotencyKey := some request.idempotencyKey
  expectedVersion := request.expectedVersion
  payload := payload

def missingTarget (message : String) : ContractInteractionCommandOutcome where
  accepted := false
  message := message
  reasonCode := some "target_not_found"

/-- `UiGatewayContractInteractionCommandHandler`: an answer asks for a dispatch, the
response to a confirmation does not. -/
def uiGatewayInteraction {G : Type} (gateway : UiCommandGateway (ContractWorld G) I)
    (trigger : Option (ExecutionTriggerGateway (ContractWorld G) I)) :
    ContractInteractionCommandHandler G I where
  resolveAsk request payload input world :=
    match request.askId with
    | none => (some (missingTarget "ASK target is missing."), world)
    | some askId =>
      let answered := answerAskWithResumeDispatch gateway trigger askId
        (request.envelope
          { selectedOptionIds := payload.selectedOptionIds, text :=
            payload.text : AnswerAskPayload })
        input world
      (answered.1.map interactionOutcomeOf, answered.2)
  resolveConfirmation request payload input world :=
    match request.confirmationId with
    | none => (some (missingTarget "Confirmation target is missing."), world)
    | some confirmationId =>
      let resolved := gateway.resolveConfirmation confirmationId
        (request.envelope
          { value := payload.value, note := payload.note : ResolveConfirmationPayload })
        input world
      (resolved.1.map interactionOutcomeOf, resolved.2)

end Taskweavn
