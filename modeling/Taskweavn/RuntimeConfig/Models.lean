import Taskweavn.Py.DateTime
import Taskweavn.Py.Value

/-!
# Runtime configuration

A registry says which keys there are, a layer gives values to some of them, and the
effective configuration has for every key the value of the highest layer that gives one
(`taskweavn/runtime_config/models.py`).  A patch asks for new values, and a change is what
became of it: the keys that were accepted, those that were rejected, and the hashes of the
configuration before and after.

A patch carries what its validator checks.  What is there for display only, such as the
description and the domain of a key, is left out.
-/

namespace Taskweavn

open Lib Py

inductive RuntimeConfigScopeLevel
  | global
  | workspace
  | session
  | task
  | agentRun
  | process
deriving DecidableEq, Repr

def RuntimeConfigScopeLevel.toText : RuntimeConfigScopeLevel → String
  | global => "global"
  | workspace => "workspace"
  | session => "session"
  | task => "task"
  | agentRun => "agent_run"
  | process => "process"

inductive RuntimeConfigSourceKind
  | builtInDefault
  | environment
  | cli
  | settingsStore
  | workspaceFile
  | sessionOverride
  | taskOverride
  | runtimePatch
  | processInput
deriving DecidableEq, Repr

inductive RuntimeConfigMutability
  | live
  | nextContextBuild
  | nextLlmCall
  | nextAction
  | nextAgentRun
  | nextTask
  | nextSession
  | startupOnly
  | migrationOnly
deriving DecidableEq, Repr

inductive RuntimeConfigEffectiveStatus
  | active
  | pendingNextContextBuild
  | pendingNextLlmCall
  | pendingNextAction
  | pendingNextAgentRun
  | pendingNextTask
  | pendingNextSession
  | pendingRestart
deriving DecidableEq, Repr

inductive RuntimeConfigValueType
  | bool
  | int
  | float
  | string
  | stringList
  | object
deriving DecidableEq, Repr

inductive RuntimeConfigActorType
  | user
  | system
  | test
  | migration
deriving DecidableEq, Repr

inductive RuntimeConfigChangeStatus
  | accepted
  | rejected
  | noOp
deriving DecidableEq, Repr

inductive RuntimeConfigRejectionCode
  | unknownKey
  | unsupportedScope
  | invalidValue
  | secretNotPatchable
  | startupOnlyNotPatchable
  | staleBaseConfig
  | higherPrioritySourceActive
  | policyDenied
deriving DecidableEq, Repr

structure RuntimeConfigScope where
  level : RuntimeConfigScopeLevel := .process
  workspaceId : Option String := none
  sessionId : Option String := none
  taskId : Option String := none
  agentRunId : Option String := none
deriving DecidableEq

/-- `_validate_scope_identifiers` -/
def RuntimeConfigScope.HasIdentifiers (scope : RuntimeConfigScope) : Prop :=
  match scope.level with
  | .global => True
  | .process => True
  | .workspace => scope.workspaceId.isSome = true
  | .session => scope.workspaceId.isSome = true ∧ scope.sessionId.isSome = true
  | .task =>
    scope.workspaceId.isSome = true ∧ scope.sessionId.isSome = true ∧ scope.taskId.isSome = true
  | .agentRun =>
    scope.workspaceId.isSome = true ∧ scope.sessionId.isSome = true ∧
      scope.taskId.isSome = true ∧ scope.agentRunId.isSome = true

/-- What the registry says of a key. -/
structure RuntimeConfigKey where
  key : String
  valueType : RuntimeConfigValueType
  defaultValue : PyValue
  scopeLevels : List RuntimeConfigScopeLevel
  mutability : RuntimeConfigMutability
  secret : Bool := false

/-- `RuntimeConfigRegistry`: the keys by their names. -/
structure RuntimeConfigRegistry where
  keys : Dict String RuntimeConfigKey
  keys_ok : ∀ name key, keys.get? name = some key → key.key = name

structure RuntimeConfigSource where
  sourceId : String
  kind : RuntimeConfigSourceKind
  scope : RuntimeConfigScope := {}
  priority : ℤ := 0
deriving DecidableEq

structure RuntimeConfigLayer where
  source : RuntimeConfigSource
  values : Dict String PyValue := Dict.empty

structure EffectiveRuntimeConfigValue where
  key : String
  value : PyValue
  source : RuntimeConfigSource
  mutability : RuntimeConfigMutability
  effectiveStatus : RuntimeConfigEffectiveStatus
  redacted : Bool := false
deriving DecidableEq

/-- An effective configuration; the time at which it was resolved is read by nobody. -/
structure EffectiveRuntimeConfig where
  configId : String
  scope : RuntimeConfigScope
  values : Dict String EffectiveRuntimeConfigValue
  sourceLayers : List RuntimeConfigSource
  configHash : String

structure RuntimeConfigActor where
  actorType : RuntimeConfigActorType
  actorId : Option String := none
  displayName : Option String := none
deriving DecidableEq

/-- A request for new values; the last two fields are its validators. -/
structure RuntimeConfigPatch where
  patchId : String
  idempotencyKey : Option String := none
  scope : RuntimeConfigScope
  actor : RuntimeConfigActor
  reason : Option String := none
  values : Dict String PyValue
  expectedBaseConfigHash : Option String := none
  dryRun : Bool := false
  allowPartialAcceptance : Bool := true
  requestedAt : DateTime
  values_ne : values.entries ≠ []
  scope_ok : scope.HasIdentifiers

structure RuntimeConfigRejection where
  code : RuntimeConfigRejectionCode
  message : String
  details : List (String × PyValue) := []
deriving DecidableEq

/-- What became of a patch. -/
structure RuntimeConfigChange where
  changeId : String
  patchId : String
  idempotencyKey : Option String := none
  scope : RuntimeConfigScope
  actor : RuntimeConfigActor
  reason : Option String := none
  status : RuntimeConfigChangeStatus
  requestedValues : Dict String PyValue := Dict.empty
  acceptedValues : Dict String PyValue := Dict.empty
  rejectedValues : Dict String RuntimeConfigRejection := Dict.empty
  redactedKeys : List String := []
  baseConfigHash : String
  resultingConfigHash : Option String := none
  effectiveStatusByKey : List (String × RuntimeConfigEffectiveStatus) := []
  createdAt : DateTime

structure RuntimeConfigSnapshotRecord where
  snapshotId : String
  configHash : String
  scope : RuntimeConfigScope
  effectiveConfig : EffectiveRuntimeConfig
  createdByChangeId : Option String := none
  createdAt : DateTime

end Taskweavn
