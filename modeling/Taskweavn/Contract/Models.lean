import Taskweavn.Task.Models
import Taskweavn.Server.Envelopes

/-!
# Contract revision commands

Whatever is said while a plan runs becomes a command that revises the contract: a
guidance is recorded, a task node is created, changed or removed, a question is
answered (`taskweavn/contract_revision/models.py`).  The constructors check their
fields, and the structures carry the checks.

The descriptors for the activity feed, the audit and the diagnostics that a result
has are only shown to somebody, and are left out.
-/

namespace Taskweavn

open Lib Py

inductive ContractCommandKind
  | recordGuidance
  | patchTaskNode
  | createTaskNode
  | deleteTaskNode
  | createExecutionTask
  | resolveAsk
  | resolveConfirmation
deriving DecidableEq, Repr

inductive ContractCommandStatus
  | accepted
  | rejected
  | needsConfirmation
  | conflict
  | noop
  | unsupported
deriving DecidableEq, Repr

inductive ContractCommandScopeKind
  | session
  | plan
  | task
  | ask
  | confirmation
deriving DecidableEq, Repr

inductive ContractCommandSource
  | runtimeInput
  | explicitUi
  | systemRecovery
  | testFixture
deriving DecidableEq, Repr

inductive GuidanceKind
  | preference
  | constraint
  | instruction
  | correction
  | contextNote
deriving DecidableEq, Repr

/-- What a command does besides answering. -/
inductive SessionActivitySideEffect
  | noEffect
  | contextEffect
  | stateEffect
  | authorizationEffect
  | resumeEffect
  | executionRequest
  | evidenceEffect
deriving DecidableEq, Repr

inductive ObjectRefKind
  | rawTask
  | rawTaskAsk
  | plan
  | draftTask
  | draftTree
  | draftSubtree
  | publishedTask
  | ask
  | message
  | command
deriving DecidableEq, Repr

structure ObjectRef where
  kind : ObjectRefKind
  id : String
deriving DecidableEq

/-! ### Payloads -/

structure RecordGuidancePayload where
  guidanceText : String
  guidanceKind : GuidanceKind := .instruction
  appliesToFutureTasks : Bool := false
  /-- The text is stripped before it is checked. -/
  text_ok : strip guidanceText = guidanceText ∧ guidanceText ≠ "" ∧ guidanceText.length ≤ 8000

structure ResolveAskPayload where
  selectedOptionIds : List String := []
  text : Option String := none
  answers : selectedOptionIds ≠ [] ∨ text ≠ none

structure ResolveConfirmationContractPayload where
  value : String
  note : Option String := none
  value_ok : value ≠ ""

inductive UpdateMode
  | nodeFields
  | replaceChildren
  | replaceSubtree
deriving DecidableEq, Repr

structure PatchTaskNodePayload where
  title : Option String := none
  summary : Option String := none
  intent : Option String := none
  fullIntent : Option String := none
  constraints : Option (List String) := none
  updateMode : UpdateMode := .nodeFields
  preserveRootId : Bool := true
  patches : title ≠ none ∨ summary ≠ none ∨ intent ≠ none ∨ fullIntent ≠ none ∨ constraints ≠ none
  one_intent : intent = none ∨ fullIntent = none

def createFieldsOk (title intent : String) (summary requiredCapability afterTaskNodeId :
    Option String) : Bool :=
  Codec.text.accepts title && Codec.text.accepts intent && optText.accepts summary &&
    optText.accepts requiredCapability && optText.accepts afterTaskNodeId

structure CreateTaskNodePayload where
  title : String
  intent : String
  summary : Option String := none
  instructions : String := ""
  requiredCapability : Option String := some "general"
  constraints : List String := []
  acceptanceCriteria : List String := []
  dependsOn : List String := []
  afterTaskNodeId : Option String := none
  fields_ok : createFieldsOk title intent summary requiredCapability afterTaskNodeId = true

structure CreateExecutionTaskPayload where
  intent : String
  title : Option String := none
  summary : Option String := none
  instructions : String := ""
  requiredCapability : Option String := some "general"
  constraints : List String := []
  acceptanceCriteria : List String := []
  fields_ok : (Codec.text.accepts intent && optText.accepts title && optText.accepts summary &&
    optText.accepts requiredCapability) = true

structure DeleteTaskNodePayload where
  reason : Option String := none

/-- The `model_validate` of the payload models, on the payload of a request; the source
gives it to a library.  Nothing is read out of a payload that does not validate. -/
structure PayloadReader where
  recordGuidance : Dict String PyValue → Option RecordGuidancePayload
  resolveAsk : Dict String PyValue → Option ResolveAskPayload
  resolveConfirmation : Dict String PyValue → Option ResolveConfirmationContractPayload
  patchTaskNode : Dict String PyValue → Option PatchTaskNodePayload
  createTaskNode : Dict String PyValue → Option CreateTaskNodePayload
  deleteTaskNode : Dict String PyValue → Option DeleteTaskNodePayload
  createExecutionTask : Dict String PyValue → Option CreateExecutionTaskPayload

/-! ### Requests, results and facts -/

def scopeIdentityOk (scopeKind : ContractCommandScopeKind)
    (planId taskNodeId askId confirmationId : Option String) : Bool :=
  match scopeKind with
  | .session => true
  | .plan => planId.isSome
  | .task => taskNodeId.isSome
  | .ask => askId.isSome
  | .confirmation => confirmationId.isSome

theorem session_scope_ok : scopeIdentityOk .session none none none none = true := rfl

structure ContractCommandRequest where
  commandId : String
  idempotencyKey : String
  commandKind : ContractCommandKind
  workspaceId : String
  sessionId : String
  scopeKind : ContractCommandScopeKind
  planId : Option String := none
  taskNodeId : Option String := none
  askId : Option String := none
  confirmationId : Option String := none
  source : ContractCommandSource := .runtimeInput
  routerDecisionId : Option String := none
  inputMessageRef : Option ObjectRef := none
  expectedVersion : Option ℕ := none
  payload : Dict String PyValue := Dict.empty
  scope_ok : scopeIdentityOk scopeKind planId taskNodeId askId confirmationId = true
deriving DecidableEq

structure ContractCommandResult where
  commandId : String
  idempotencyKey : String
  commandKind : ContractCommandKind
  status : ContractCommandStatus
  sideEffect : SessionActivitySideEffect
  scopeKind : ContractCommandScopeKind
  sessionId : String
  planId : Option String := none
  taskNodeId : Option String := none
  askId : Option String := none
  confirmationId : Option String := none
  commandResponse : Option CommandResponse := none
  newVersion : Option ℕ := none
  reasonCode : Option String := none
  messageKey : Option String := none
  guidanceId : Option String := none
deriving DecidableEq

def ContractCommandResult.accepted (r : ContractCommandResult) : Bool := r.status == .accepted

inductive GuidanceScope
  | session
  | plan
  | task
deriving DecidableEq, Repr

def guidanceScopeOk (scopeKind : GuidanceScope) (planId taskNodeId : Option String) : Bool :=
  match scopeKind with
  | .session => true
  | .plan => planId.isSome
  | .task => taskNodeId.isSome

structure GuidanceFact where
  guidanceId : String
  workspaceId : String
  sessionId : String
  scopeKind : GuidanceScope
  planId : Option String := none
  taskNodeId : Option String := none
  guidanceKind : GuidanceKind
  guidanceText : String
  appliesToFutureTasks : Bool := false
  sourceCommandId : String
  sourceRouterDecisionId : Option String := none
  sourceMessageRef : Option ObjectRef := none
  version : ℕ := 1
  createdAt : DateTime
  archivedAt : Option DateTime := none
  text_ok : strip guidanceText = guidanceText ∧ guidanceText ≠ "" ∧ guidanceText.length ≤ 8000
  scope_ok : guidanceScopeOk scopeKind planId taskNodeId = true
deriving DecidableEq

end Taskweavn
