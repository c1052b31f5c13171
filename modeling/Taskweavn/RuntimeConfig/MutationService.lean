import Taskweavn.RuntimeConfig.Resolver

/-!
# Runtime config patches

`DefaultRuntimeConfigMutationService` of `taskweavn/runtime_config/mutation_service.py`
validates a patch against the configuration of its base layers, key by key, and writes what
became of it into a ledger (`taskweavn/runtime_config/sqlite_store.py`): a row for the
change and, unless the patch was rejected, one for a snapshot of the configuration.

`keyVerdict` is what the loop over the keys decides for one of them.  The bus on which
accepted changes are announced is left out.
-/

namespace Taskweavn

open Lib Py

/-! ### The ledger -/

namespace RuntimeConfigChange

/-- The row of a change: its JSON columns have their keys sorted. -/
def row (change : RuntimeConfigChange) : RuntimeConfigChange :=
  { change with
    requestedValues := PyValue.sortedDict change.requestedValues
    acceptedValues := PyValue.sortedDict change.acceptedValues
    rejectedValues := Dict.ofList (sortOn Prod.fst (change.rejectedValues.entries.map fun e =>
      (e.1, { e.2 with details := sortOn Prod.fst (PyValue.sortedItems e.2.details) })))
    effectiveStatusByKey := sortOn Prod.fst change.effectiveStatusByKey }

end RuntimeConfigChange

/-- `SqliteRuntimeConfigChangeStore`: the rows of its two tables, oldest first. -/
structure RuntimeConfigChangeStore where
  changes : List RuntimeConfigChange := []
  snapshots : List RuntimeConfigSnapshotRecord := []

namespace RuntimeConfigScope

/-- A scope as the unique index has it, with `COALESCE(..., '')`. -/
def indexed (scope : RuntimeConfigScope) :
    RuntimeConfigScopeLevel × String × String × String × String :=
  (scope.level, scope.workspaceId.getD "", scope.sessionId.getD "", scope.taskId.getD "",
    scope.agentRunId.getD "")

end RuntimeConfigScope

namespace RuntimeConfigChangeStore

def taken (store : RuntimeConfigChangeStore) (changeId : String) (idempotencyKey : Option String)
    (scope : RuntimeConfigScope) : Bool :=
  store.changes.any fun row => row.changeId == changeId ||
    (idempotencyKey.isSome && row.idempotencyKey == idempotencyKey &&
      row.scope.indexed == scope.indexed)

def appendChange (store : RuntimeConfigChangeStore) (change : RuntimeConfigChange) :
    Except RuntimeConfigError RuntimeConfigChangeStore :=
  if store.taken change.changeId change.idempotencyKey change.scope then
    .error (.store
      "runtime config change already exists or idempotency key was reused in the same scope")
  else .ok { store with changes := store.changes ++ [change.row] }

def saveSnapshot (store : RuntimeConfigChangeStore) (snapshot : RuntimeConfigSnapshotRecord) :
    Except RuntimeConfigError RuntimeConfigChangeStore :=
  if store.snapshots.any (fun row => row.snapshotId == snapshot.snapshotId) then
    .error (.store "runtime config snapshot already exists")
  else .ok { store with snapshots := store.snapshots ++ [snapshot] }

def getChangeByIdempotencyKey (store : RuntimeConfigChangeStore) (idempotencyKey : String)
    (scope : RuntimeConfigScope) : Option RuntimeConfigChange :=
  (sortOn (fun row : RuntimeConfigChange => (toLex (row.createdAt, row.changeId) :
      DateTime ×ₗ String))
    (store.changes.filter fun row =>
      row.idempotencyKey == some idempotencyKey && row.scope == scope)).head?

end RuntimeConfigChangeStore

/-! ### The service -/

structure RuntimeConfigMutationService where
  resolver : RuntimeConfigResolver
  baseLayers : List RuntimeConfigLayer := []

/-- What a call draws: the id of its change, and the clock. -/
structure RuntimeConfigReadings where
  changeId : String
  now : DateTime

def runtimePatchPriority : ℤ := 80

def runtimePatchLayer (scope : RuntimeConfigScope) (patchId : String)
    (values : Dict String PyValue) : RuntimeConfigLayer where
  source := ⟨"runtime_patch:" ++ patchId, .runtimePatch, scope, runtimePatchPriority⟩
  values := values

/-- The levels of `_DURABLE_PATCH_SCOPE_LEVELS`. -/
def RuntimeConfigScopeLevel.durable : RuntimeConfigScopeLevel → Bool
  | global | workspace | session | task => true
  | agentRun | process => false

def redactedValue : PyValue := .str "<redacted>"

/-- What the loop over the keys of a patch decides for a key. -/
inductive KeyVerdict
  | rejected (rejection : RuntimeConfigRejection)
  | redacted (rejection : RuntimeConfigRejection)
  | accepted (value : PyValue)

/-- What the loop has collected. -/
structure PatchVerdict where
  requestedValues : Dict String PyValue
  acceptedValues : Dict String PyValue := Dict.empty
  rejectedValues : Dict String RuntimeConfigRejection := Dict.empty
  redactedKeys : List String := []

namespace PatchVerdict

def add (v : PatchVerdict) (name : String) : KeyVerdict → PatchVerdict
  | .rejected rejection => { v with rejectedValues := v.rejectedValues.set name rejection }
  | .redacted rejection =>
    { v with
      requestedValues := v.requestedValues.set name redactedValue
      redactedKeys := v.redactedKeys ++ [name]
      rejectedValues := v.rejectedValues.set name rejection }
  | .accepted value => { v with acceptedValues := v.acceptedValues.set name value }

end PatchVerdict

def jsonEquivalent (left right : PyValue) : Bool := decide (left.sortedDoc = right.sortedDoc)

/-- `_patch_is_no_op`; the accepted keys are keys of the configuration. -/
def patchIsNoOp (baseConfig : EffectiveRuntimeConfig) (accepted : Dict String PyValue) : Bool :=
  accepted.entries.all fun e =>
    (baseConfig.values.get? e.1).any fun current => jsonEquivalent current.value e.2

namespace RuntimeConfigMutationService

variable (svc : RuntimeConfigMutationService)

def resolveBase (scope : RuntimeConfigScope) : Except RuntimeConfigError EffectiveRuntimeConfig :=
  svc.resolver.resolve scope svc.baseLayers

def resolveCandidate (scope : RuntimeConfigScope) (patchId : String)
    (values : Dict String PyValue) : Except RuntimeConfigError EffectiveRuntimeConfig :=
  svc.resolver.resolve scope (svc.baseLayers ++ [runtimePatchLayer scope patchId values])

def normalizePatchValue (scope : RuntimeConfigScope) (patchId name : String) (value : PyValue) :
    Except RuntimeConfigError PyValue := do
  let config ← svc.resolver.resolve scope
    [runtimePatchLayer scope patchId (Dict.ofList [(name, value)])]
  match config.values.get? name with
  | some effective => .ok effective.value
  | none => .error (.registry name)

def unknownKey (name : String) : RuntimeConfigRejection where
  code := .unknownKey
  message := "Unknown runtime config key: " ++ name
  details := [("key", .str name)]

def notDurable (level : RuntimeConfigScopeLevel) : RuntimeConfigRejection where
  code := .unsupportedScope
  message := "Runtime config patches for scope '" ++ level.toText ++ "' are not durable in C5."
  details := [("scopeLevel", .str level.toText)]

def unsupportedScope (key : RuntimeConfigKey) (name : String) (level : RuntimeConfigScopeLevel) :
    RuntimeConfigRejection where
  code := .unsupportedScope
  message :=
    "Runtime config key '" ++ name ++ "' does not support scope '" ++ level.toText ++ "'."
  details :=
    [("scopeLevel", .str level.toText),
     ("supportedScopeLevels", .list (key.scopeLevels.map fun l => .str l.toText))]

def secretNotPatchable : RuntimeConfigRejection where
  code := .secretNotPatchable
  message := "Secrets are owned by the Settings secret boundary."
  details := [("redacted", .bool true)]

def invalidValue (name message : String) : RuntimeConfigRejection where
  code := .invalidValue
  message := message
  details := [("key", .str name)]

def policyDenied (name : String) : RuntimeConfigRejection where
  code := .policyDenied
  message := "Runtime config patch was rejected because partial acceptance is disabled and " ++
    "another key failed validation."
  details := [("key", .str name), ("partialAcceptance", .bool false)]

def staleBaseConfig (expected current : String) : RuntimeConfigRejection where
  code := .staleBaseConfig
  message := "Patch base config hash does not match current effective config."
  details :=
    [("expectedBaseConfigHash", .str expected), ("currentBaseConfigHash", .str current)]

/-- The body of the loop over the keys of a patch. -/
def keyVerdict (scope : RuntimeConfigScope) (patchId name : String) (raw : PyValue) :
    Except RuntimeConfigError KeyVerdict :=
  match svc.resolver.registry.keys.get? name with
  | none => .ok (.rejected (unknownKey name))
  | some key =>
    if scope.level.durable = false then .ok (.rejected (notDurable scope.level))
    else if scope.level ∉ key.scopeLevels then
      .ok (.rejected (unsupportedScope key name scope.level))
    else if key.secret then .ok (.redacted secretNotPatchable)
    else
      match svc.normalizePatchValue scope patchId name raw with
      | .ok value => .ok (.accepted value)
      | .error (.resolver message) => .ok (.rejected (invalidValue name message))
      | .error e => .error e

/-- The loop. -/
def collect (scope : RuntimeConfigScope) (patchId : String) : List (String × PyValue) →
    PatchVerdict → Except RuntimeConfigError PatchVerdict
  | [], verdict => .ok verdict
  | (name, raw) :: items, verdict => do
    let v ← svc.keyVerdict scope patchId name raw
    collect scope patchId items (verdict.add name v)

/-- `_build_rejected_change` -/
def rejectedChange (patch : RuntimeConfigPatch) (changeId : String)
    (requested : Dict String PyValue) (rejected : Dict String RuntimeConfigRejection)
    (redactedKeys : List String) (baseConfig : EffectiveRuntimeConfig) : RuntimeConfigChange where
  changeId := changeId
  patchId := patch.patchId
  idempotencyKey := patch.idempotencyKey
  scope := patch.scope
  actor := patch.actor
  reason := patch.reason
  status := .rejected
  requestedValues := requested
  rejectedValues := rejected
  redactedKeys := redactedKeys
  baseConfigHash := baseConfig.configHash
  createdAt := patch.requestedAt

/-- The expected hash is not that of the configuration. -/
def stale (patch : RuntimeConfigPatch) (config : EffectiveRuntimeConfig) : Bool :=
  patch.expectedBaseConfigHash.any fun expected => expected != config.configHash

/-- Every key of a stale patch is rejected. -/
def staleChange (patch : RuntimeConfigPatch) (changeId : String)
    (baseConfig : EffectiveRuntimeConfig) : RuntimeConfigChange :=
  rejectedChange patch changeId patch.values
    (patch.values.map fun _ =>
      staleBaseConfig (patch.expectedBaseConfigHash.getD "") baseConfig.configHash)
    [] baseConfig

/-- What became of a patch whose keys were looked at. -/
def conclude (patch : RuntimeConfigPatch) (changeId : String) (baseConfig : EffectiveRuntimeConfig)
    (verdict : PatchVerdict) : Except RuntimeConfigError RuntimeConfigChange :=
  if verdict.acceptedValues.entries = [] then
    .ok (rejectedChange patch changeId verdict.requestedValues verdict.rejectedValues
      verdict.redactedKeys baseConfig)
  else if verdict.rejectedValues.entries ≠ [] ∧ patch.allowPartialAcceptance = false then
    .ok (rejectedChange patch changeId verdict.requestedValues
      (verdict.rejectedValues.update
        (verdict.acceptedValues.keys.map fun name => (name, policyDenied name)))
      verdict.redactedKeys baseConfig)
  else if verdict.rejectedValues.entries = [] ∧
      patchIsNoOp baseConfig verdict.acceptedValues = true then
    .ok {
      changeId := changeId
      patchId := patch.patchId
      idempotencyKey := patch.idempotencyKey
      scope := patch.scope
      actor := patch.actor
      reason := patch.reason
      status := .noOp
      requestedValues := verdict.requestedValues
      redactedKeys := verdict.redactedKeys
      baseConfigHash := baseConfig.configHash
      resultingConfigHash := some baseConfig.configHash
      createdAt := patch.requestedAt }
  else do
    let candidate ← svc.resolveCandidate patch.scope patch.patchId verdict.acceptedValues
    return {
      changeId := changeId
      patchId := patch.patchId
      idempotencyKey := patch.idempotencyKey
      scope := patch.scope
      actor := patch.actor
      reason := patch.reason
      status := .accepted
      requestedValues := verdict.requestedValues
      acceptedValues := verdict.acceptedValues
      rejectedValues := verdict.rejectedValues
      redactedKeys := verdict.redactedKeys
      baseConfigHash := baseConfig.configHash
      resultingConfigHash := some candidate.configHash
      effectiveStatusByKey := verdict.acceptedValues.keys.filterMap fun name =>
        (candidate.values.get? name).map fun effective => (name, effective.effectiveStatus)
      createdAt := patch.requestedAt }

def validatePatch (patch : RuntimeConfigPatch) (changeId : String) :
    Except RuntimeConfigError RuntimeConfigChange := do
  let baseConfig ← svc.resolveBase patch.scope
  if stale patch baseConfig then return staleChange patch changeId baseConfig
  else do
    let verdict ← svc.collect patch.scope patch.patchId patch.values.entries
      { requestedValues := patch.values }
    svc.conclude patch changeId baseConfig verdict

def snapshotForChange (change : RuntimeConfigChange) (now : DateTime) :
    Except RuntimeConfigError (Option RuntimeConfigSnapshotRecord) :=
  let record : EffectiveRuntimeConfig → Option RuntimeConfigSnapshotRecord := fun config =>
    some {
      snapshotId := "runtime_config_snapshot:" ++ change.changeId
      configHash := config.configHash
      scope := change.scope
      effectiveConfig := config
      createdByChangeId := some change.changeId
      createdAt := now }
  match change.status with
  | .rejected => .ok none
  | .noOp => (svc.resolveBase change.scope).map record
  | .accepted => (svc.resolveCandidate change.scope change.patchId change.acceptedValues).map record

/-- The change and its snapshot are written. -/
def record (store : RuntimeConfigChangeStore) (change : RuntimeConfigChange) (now : DateTime) :
    Except RuntimeConfigError RuntimeConfigChange × RuntimeConfigChangeStore :=
  match store.appendChange change with
  | .error e => (.error e, store)
  | .ok store =>
    match svc.snapshotForChange change now with
    | .error e => (.error e, store)
    | .ok none => (.ok change, store)
    | .ok (some snapshot) =>
      match store.saveSnapshot snapshot with
      | .error e => (.error e, store)
      | .ok store => (.ok change, store)

/-- The change that was recorded under the key of the patch. -/
def replayed (store : RuntimeConfigChangeStore) (patch : RuntimeConfigPatch) :
    Option RuntimeConfigChange :=
  patch.idempotencyKey.bind fun key => store.getChangeByIdempotencyKey key patch.scope

def applyPatch (store : RuntimeConfigChangeStore) (patch : RuntimeConfigPatch)
    (readings : RuntimeConfigReadings) :
    Except RuntimeConfigError RuntimeConfigChange × RuntimeConfigChangeStore :=
  match replayed store patch with
  | some existing => (.ok existing, store)
  | none =>
    match svc.validatePatch patch readings.changeId with
    | .error e => (.error e, store)
    | .ok change =>
      if patch.dryRun then (.ok change, store) else svc.record store change readings.now

end RuntimeConfigMutationService

end Taskweavn
