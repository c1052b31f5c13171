import Mathlib.Data.PNat.Basic
import Taskweavn.Task.Models

/-!
# Task requests of the execution plane

The service-level models above the task bus (`taskweavn/execution_plane/models.py`).  They are
frozen and validated, so the fields carry what the validators check: `Text` is
`Field(min_length=1)`, and a rule over several fields is a field of its own.

`TaskRequest.content` is what `request_hash` digests: the document of the request with its
keys sorted, in which the entries of `input` and `metadata` have no order.
-/

namespace Taskweavn.ExecutionPlane

open Lib Py

/-- A text of at least one character. -/
abbrev Text := { s : String // s ≠ "" }

inductive TaskRequesterKind
  | plato
  | externalApp
  | system
  | test
deriving DecidableEq, Repr

def TaskRequesterKind.toText : TaskRequesterKind → String
  | plato => "plato"
  | externalApp => "external_app"
  | system => "system"
  | test => "test"

theorem TaskRequesterKind.toText_injective : Function.Injective toText := by
  intro a b h
  cases a <;> cases b <;> first | rfl | exact absurd h (by decide)

theorem TaskRequesterKind.colon_notMem (k : TaskRequesterKind) : ':' ∉ k.toText.toList := by
  cases k <;> decide

inductive TaskExecutionStatus
  | accepted
  | pending
  | claimed
  | running
  | waitingForUser
  | done
  | failed
  | cancelled
  | leaseExpired
  | rejected
deriving DecidableEq, Repr

inductive TaskEventKind
  | accepted
  | claimed
  | started
  | progress
  | waitingForUser
  | resultReady
  | failed
  | cancelled
  | leaseExpired
  | evidenceAdded
deriving DecidableEq, Repr

inductive EvidenceKind
  | resultSummary
  | errorSummary
  | fileChangeSummary
  | toolObservation
  | screenshot
  | textExtract
  | diff
  | auditRecord
deriving DecidableEq, Repr

inductive CallbackMode
  | none
  | poll
  | sse
  | webhook
deriving DecidableEq, Repr

inductive ExecutionEnvStatus
  | online
  | offline
  | draining
  | disabled
deriving DecidableEq, Repr

inductive RiskLevel
  | low
  | medium
  | high
deriving DecidableEq, Repr

structure TaskRequester where
  kind : TaskRequesterKind
  id : Text
  displayName : Option Text := none
  trustScope : Option Text := none
deriving DecidableEq

namespace TaskRequester

def scopedId (r : TaskRequester) : String := r.kind.toText ++ ":" ++ r.id.val

/-- `model_dump(mode="json", by_alias=True)` -/
def modelDump (r : TaskRequester) : PyValue :=
  let optional : Option Text → PyValue := fun o => o.elim .none fun t => .str t.val
  .dict
    [("kind", .str r.kind.toText), ("id", .str r.id.val), ("displayName", optional r.displayName),
     ("trustScope", optional r.trustScope)]

end TaskRequester

structure ExternalRef where
  system : Text
  kind : Text
  id : Text
  url : Option Text := none
deriving DecidableEq

def ExternalRef.modelDump (r : ExternalRef) : PyValue :=
  .dict
    [("system", .str r.system.val), ("kind", .str r.kind.val), ("id", .str r.id.val),
     ("url", r.url.elim .none fun t => .str t.val)]

structure CapabilityPolicy where
  requiredCapability : Text
  allowedTools : List String := []
  deniedTools : List String := []
  requiresHumanConfirmation : Bool := false
  maxRuntimeSeconds : Option ℕ+ := none
  maxLlmTokens : Option ℕ+ := none
  workspaceScope : Option Text := none
  riskLevel : RiskLevel := .medium
  /-- allowed_tools and denied_tools must not overlap -/
  disjoint : ∀ tool ∈ allowedTools, tool ∉ deniedTools
deriving DecidableEq

structure EvidenceRequirement where
  required : List EvidenceKind := [.resultSummary]
  optional : List EvidenceKind := []
  retentionPolicy : Option Text := none
  redactForDiagnostics : Bool := true
deriving DecidableEq

structure CallbackPolicy where
  mode : CallbackMode := .none
  url : Option Text := none
  signingKeyRef : Option Text := none
  eventKinds : List TaskEventKind := []
  /-- webhook callback requires url -/
  webhookUrl : mode = .webhook → url ≠ none
  /-- signing_key_ref is only valid for webhook callbacks -/
  webhookKey : mode ≠ .webhook → signingKeyRef = none
deriving DecidableEq

/-- The characters of `^[a-zA-Z0-9_.:-]+$`. -/
def isTaskTypeChar (c : Char) : Bool := c.isAlphanum || c == '_' || c == '.' || c == ':' || c == '-'

structure TaskRequest where
  idempotencyKey : Text
  requester : TaskRequester
  externalRef : Option ExternalRef := none
  taskType : Text
  intent : Text
  input : Dict String PyValue := Dict.empty
  policy : CapabilityPolicy
  evidence : EvidenceRequirement := {}
  callback : CallbackPolicy
  metadata : Dict String PyValue := Dict.empty
  taskTypePattern : taskType.val.toList.all isTaskTypeChar = true
  /-- task_type must be namespaced, for example plato.default -/
  taskTypeNamespaced : '.' ∈ taskType.val.toList
  /-- external_app requester cannot publish plato.* task types -/
  taskTypeAllowed : requester.kind = .externalApp → ¬"plato.".toList <+: taskType.val.toList
deriving DecidableEq

namespace TaskRequest

/-- The request as a document with sorted keys. -/
def content (r : TaskRequest) : TaskRequest :=
  { r with
    input := PyValue.sortedDict r.input
    metadata := PyValue.sortedDict r.metadata }

/-- `d.get(key) or d.get(other)`; a missing value counts as `None`. -/
def getOr (d : Dict String PyValue) (key other : String) : PyValue :=
  let value := (d.get? key).getD .none
  if value.truthy then value else (d.get? other).getD .none

/-- The session that the metadata asks for. -/
def requestedSession (r : TaskRequest) : Option String :=
  match getOr r.metadata "sessionId" "session_id" with
  | .str s => if isBlank s then none else some (strip s)
  | _ => none

theorem getOr_sortedDict (d : Dict String PyValue) (key other : String) :
    getOr (PyValue.sortedDict d) key other = (getOr d key other).sortedDoc := by
  have hget : ∀ k, ((PyValue.sortedDict d).get? k).getD .none =
      ((d.get? k).getD .none).sortedDoc := by
    intro k
    rw [PyValue.get?_sortedDict]
    cases d.get? k <;> rfl
  rw [getOr, getOr, hget, hget, PyValue.truthy_sortedDoc]
  split <;> rfl

theorem requestedSession_eq_some_iff {r : TaskRequest} {s : String} :
    r.requestedSession = some s ↔
      ∃ t, getOr r.metadata "sessionId" "session_id" = .str t ∧ isBlank t = false ∧
        strip t = s := by
  unfold requestedSession
  cases getOr r.metadata "sessionId" "session_id" with
  | str t => by_cases hb : isBlank t = true <;> simp [hb]
  | _ => simp

theorem requestedSession_content (r : TaskRequest) :
    r.content.requestedSession = r.requestedSession := by
  refine Option.ext fun s => ?_
  rw [requestedSession_eq_some_iff, requestedSession_eq_some_iff]
  simp only [content, getOr_sortedDict, PyValue.sortedDoc_eq_str_iff]

end TaskRequest

/-- A published request as its requester sees it.  It is changed by `model_copy`, without
validation. -/
structure TaskExecution where
  executionId : String
  taskId : String
  requestId : String
  status : TaskExecutionStatus
  requester : TaskRequester
  externalRef : Option ExternalRef := none
  taskType : String
  requiredCapability : String
  envId : Option String := none
  leaseId : Option String := none
  createdAt : DateTime
  updatedAt : DateTime
  startedAt : Option DateTime := none
  completedAt : Option DateTime := none
  resultRef : Option String := none
  errorRef : Option String := none
  evidenceRefs : List String := []
  sessionId : String
deriving DecidableEq

structure TaskEvent where
  eventId : String
  executionId : String
  taskId : String
  kind : TaskEventKind
  occurredAt : DateTime
  summary : String
  data : Dict String PyValue := Dict.empty
  evidenceRefs : List String := []
deriving DecidableEq

structure ExecutionEnv where
  envId : Text
  status : ExecutionEnvStatus := .online
  capabilities : List String := []
  toolPool : List String := []
deriving DecidableEq

/-- The environment is online, has the capability, and has every tool that is asked for. -/
def ExecutionEnv.supports (env : ExecutionEnv) (policy : CapabilityPolicy) : Bool :=
  if env.status ≠ .online then false
  else if policy.requiredCapability.val ∉ env.capabilities then false
  else if policy.allowedTools ≠ [] then policy.allowedTools.all env.toolPool.contains
  else true

end Taskweavn.ExecutionPlane
