import Taskweavn.Py.Model
import Taskweavn.RuntimeConfig.Models

/-!
# Effective configurations

`RuntimeConfigResolver.resolve` of `taskweavn/runtime_config/resolver.py` starts from the
defaults of the registry and applies the layers in the order of their priority, layers of one
priority in the order in which they are given.  Every value is checked against the type of
its key.
-/

namespace Taskweavn

open Lib Py

/-- What resolving raises. -/
inductive RuntimeConfigError
  /-- `RuntimeConfigRegistryError` -/
  | registry (message : String)
  /-- `RuntimeConfigResolverError` -/
  | resolver (message : String)
  /-- int too large to convert to float -/
  | overflow
  /-- `RuntimeConfigChangeStoreError` -/
  | store (message : String)
deriving DecidableEq

/-- What the code takes from Python: SHA-256 of a JSON text, and the float of an integer,
if it has one. -/
structure RuntimeConfigPrimitives where
  sha256 : PyValue → String
  floatOf : ℤ → Option ℚ

namespace RuntimeConfigRegistry

/-- `RuntimeConfigRegistry.get` -/
def get (registry : RuntimeConfigRegistry) (name : String) :
    Except RuntimeConfigError RuntimeConfigKey :=
  match registry.keys.get? name with
  | some key => .ok key
  | none => .error (.registry ("unknown runtime config key: " ++ name))

/-- `RuntimeConfigRegistry.all` -/
def all (registry : RuntimeConfigRegistry) : List RuntimeConfigKey :=
  sortOn RuntimeConfigKey.key registry.keys.values

end RuntimeConfigRegistry

def allTexts (values : List PyValue) : Bool :=
  values.all fun v =>
    match v with
    | .str _ => true
    | _ => false

def normalizeTyped (P : RuntimeConfigPrimitives) (name : String) :
    RuntimeConfigValueType → PyValue → Except RuntimeConfigError PyValue
  | _, .none => .ok .none
  | .bool, .bool b => .ok (.bool b)
  | .bool, _ => .error (.resolver (name ++ " must be bool"))
  | .int, .int n => .ok (.int n)
  | .int, _ => .error (.resolver (name ++ " must be int"))
  | .float, .float x => .ok (.float x)
  | .float, .int n =>
    match P.floatOf n with
    | some x => .ok (.float x)
    | none => .error .overflow
  | .float, _ => .error (.resolver (name ++ " must be float"))
  | .string, .str s => .ok (.str s)
  | .string, _ => .error (.resolver (name ++ " must be string"))
  | .stringList, .list values =>
    if allTexts values then .ok (.tuple values)
    else .error (.resolver (name ++ " must contain only strings"))
  | .stringList, .tuple values =>
    if allTexts values then .ok (.tuple values)
    else .error (.resolver (name ++ " must contain only strings"))
  | .stringList, _ => .error (.resolver (name ++ " must be string list"))
  | .object, .dict items => .ok (.dict items)
  | .object, _ => .error (.resolver (name ++ " must be object"))

def normalizeValue (P : RuntimeConfigPrimitives) (key : RuntimeConfigKey) (value : PyValue) :
    Except RuntimeConfigError PyValue :=
  normalizeTyped P key.key key.valueType value

theorem normalizeTyped_normalized {P : RuntimeConfigPrimitives} {name : String}
    {type : RuntimeConfigValueType} {value normal : PyValue}
    (h : normalizeTyped P name type value = .ok normal) :
    normalizeTyped P name type normal = .ok normal := by
  unfold normalizeTyped at h
  split at h
  case h_11 | h_12 =>
    split at h
    · next htexts =>
      cases h
      simp only [normalizeTyped, htexts, if_pos]
    · cases h
  case h_7 =>
    split at h
    · cases h
      rfl
    · cases h
  case h_1 =>
    cases h
    rw [normalizeTyped]
  all_goals
    cases h
  all_goals rfl

def effectiveStatus (mutability : RuntimeConfigMutability) (source : RuntimeConfigSource) :
    RuntimeConfigEffectiveStatus :=
  if source.kind ≠ .runtimePatch then .active
  else
    match mutability with
    | .live => .active
    | .nextContextBuild => .pendingNextContextBuild
    | .nextLlmCall => .pendingNextLlmCall
    | .nextAction => .pendingNextAction
    | .nextAgentRun => .pendingNextAgentRun
    | .nextTask => .pendingNextTask
    | .nextSession => .pendingNextSession
    | .startupOnly => .pendingRestart
    | .migrationOnly => .pendingRestart

def RuntimeConfigSourceKind.toText : RuntimeConfigSourceKind → String
  | builtInDefault => "built_in_default"
  | environment => "environment"
  | cli => "cli"
  | settingsStore => "settings_store"
  | workspaceFile => "workspace_file"
  | sessionOverride => "session_override"
  | taskOverride => "task_override"
  | runtimePatch => "runtime_patch"
  | processInput => "process_input"

def RuntimeConfigMutability.toText : RuntimeConfigMutability → String
  | live => "live"
  | nextContextBuild => "next_context_build"
  | nextLlmCall => "next_llm_call"
  | nextAction => "next_action"
  | nextAgentRun => "next_agent_run"
  | nextTask => "next_task"
  | nextSession => "next_session"
  | startupOnly => "startup_only"
  | migrationOnly => "migration_only"

def RuntimeConfigEffectiveStatus.toText : RuntimeConfigEffectiveStatus → String
  | active => "active"
  | pendingNextContextBuild => "pending_next_context_build"
  | pendingNextLlmCall => "pending_next_llm_call"
  | pendingNextAction => "pending_next_action"
  | pendingNextAgentRun => "pending_next_agent_run"
  | pendingNextTask => "pending_next_task"
  | pendingNextSession => "pending_next_session"
  | pendingRestart => "pending_restart"

def EffectiveRuntimeConfigValue.hashDoc (v : EffectiveRuntimeConfigValue) : PyValue :=
  .dict
    [("value", v.value), ("source", .str v.source.sourceId), ("kind", .str v.source.kind.toText),
     ("mutability", .str v.mutability.toText), ("effectiveStatus", .str v.effectiveStatus.toText),
     ("redacted", .bool v.redacted)]

/-- The document that `_config_hash` digests. -/
def configDoc (values : Dict String EffectiveRuntimeConfigValue) : PyValue :=
  (PyValue.dict (values.entries.map fun e => (e.1, e.2.hashDoc))).sortedDoc

def uniqueSources (sources : List RuntimeConfigSource) : List RuntimeConfigSource :=
  (sortOn RuntimeConfigSource.priority sources).foldl
    (fun result source =>
      if source.sourceId ∈ result.map RuntimeConfigSource.sourceId then result
      else result ++ [source]) []

def defaultSource : RuntimeConfigSource :=
  ⟨"built_in_defaults", .builtInDefault, { level := .global }, 0⟩

structure RuntimeConfigResolver where
  registry : RuntimeConfigRegistry
  primitives : RuntimeConfigPrimitives

namespace RuntimeConfigResolver

variable (resolver : RuntimeConfigResolver)

def effectiveValue (key : RuntimeConfigKey) (source : RuntimeConfigSource) (raw : PyValue) :
    Except RuntimeConfigError EffectiveRuntimeConfigValue := do
  let value ← normalizeValue resolver.primitives key raw
  return {
    key := key.key, value, source
    mutability := key.mutability
    effectiveStatus := effectiveStatus key.mutability source
    redacted := key.secret }

def applyDefaults : List RuntimeConfigKey → Dict String EffectiveRuntimeConfigValue →
    Except RuntimeConfigError (Dict String EffectiveRuntimeConfigValue)
  | [], values => .ok values
  | key :: keys, values => do
    let value ← resolver.effectiveValue key defaultSource key.defaultValue
    applyDefaults keys (values.set key.key value)

def applyItems (source : RuntimeConfigSource) : List (String × PyValue) →
    Dict String EffectiveRuntimeConfigValue →
      Except RuntimeConfigError (Dict String EffectiveRuntimeConfigValue)
  | [], values => .ok values
  | (name, raw) :: items, values => do
    let key ← resolver.registry.get name
    let value ← resolver.effectiveValue key source raw
    applyItems source items (values.set name value)

/-- `_apply_layer`, for one layer after the other. -/
def applyLayers : List RuntimeConfigLayer → Dict String EffectiveRuntimeConfigValue →
    Except RuntimeConfigError (Dict String EffectiveRuntimeConfigValue)
  | [], values => .ok values
  | layer :: layers, values => do
    let values ← resolver.applyItems layer.source layer.values.entries values
    applyLayers layers values

/-- Layers in the order in which they are applied. -/
def normalizedLayers (layers : List RuntimeConfigLayer) : List RuntimeConfigLayer :=
  sortOn (fun layer => layer.source.priority) layers

def resolveValues (layers : List RuntimeConfigLayer) :
    Except RuntimeConfigError (Dict String EffectiveRuntimeConfigValue) := do
  let values ← resolver.applyDefaults resolver.registry.all Dict.empty
  resolver.applyLayers (normalizedLayers layers) values

def resolve (scope : RuntimeConfigScope) (layers : List RuntimeConfigLayer) :
    Except RuntimeConfigError EffectiveRuntimeConfig := do
  let values ← resolver.resolveValues layers
  let configHash := resolver.primitives.sha256 (configDoc values)
  return {
    configId := "runtime_config:" ++ String.ofList (configHash.toList.take 16)
    scope, values, configHash
    sourceLayers := uniqueSources (defaultSource :: layers.map RuntimeConfigLayer.source) }

variable {resolver} {layers : List RuntimeConfigLayer} {source : RuntimeConfigSource}
  {key : RuntimeConfigKey} {name : String}

theorem resolve_ok {scope : RuntimeConfigScope} {config : EffectiveRuntimeConfig}
    (h : resolver.resolve scope layers = .ok config) :
    resolver.resolveValues layers = .ok config.values ∧
      config.configHash = resolver.primitives.sha256 (configDoc config.values) := by
  obtain ⟨values, hvalues, h⟩ := bind_eq_ok.mp h
  cases h
  exact ⟨hvalues, rfl⟩

theorem resolve_isOk {scope : RuntimeConfigScope} :
    (∃ config, resolver.resolve scope layers = .ok config) ↔
      ∃ values, resolver.resolveValues layers = .ok values := by
  constructor
  · rintro ⟨config, h⟩
    exact ⟨config.values, (resolve_ok h).1⟩
  · rintro ⟨values, h⟩
    simp only [resolve, h]
    exact ⟨_, rfl⟩

theorem resolveValues_single {raw : PyValue} {defaults : Dict String EffectiveRuntimeConfigValue}
    (hdefaults : resolver.applyDefaults resolver.registry.all Dict.empty = .ok defaults)
    (hkey : resolver.registry.keys.get? name = some key) :
    resolver.resolveValues [⟨source, Dict.ofList [(name, raw)]⟩] =
      (resolver.effectiveValue key source raw).map fun value => defaults.set name value := by
  have hget : resolver.registry.get name = .ok key := by
    rw [RuntimeConfigRegistry.get, hkey]
  have hone : normalizedLayers [⟨source, Dict.ofList [(name, raw)]⟩] =
      [⟨source, Dict.ofList [(name, raw)]⟩] := rfl
  have hitems : (Dict.ofList [(name, raw)]).entries = [(name, raw)] := rfl
  simp only [resolveValues, hdefaults, hone, applyLayers, hitems, applyItems, hget, bind,
    Except.bind]
  cases resolver.effectiveValue key source raw <;> rfl

/-! ### When a configuration can be resolved -/

/-- The registry has the key of an item, and the key takes the value. -/
def Takes (resolver : RuntimeConfigResolver) (e : String × PyValue) : Prop :=
  ∃ key value, resolver.registry.keys.get? e.1 = some key ∧
    normalizeValue resolver.primitives key e.2 = .ok value

theorem get_eq_ok :
    resolver.registry.get name = .ok key ↔ resolver.registry.keys.get? name = some key := by
  unfold RuntimeConfigRegistry.get
  split
  · next found hfound =>
    rw [hfound]
    simp
  · next hnone =>
    rw [hnone]
    simp

theorem effectiveValue_ok {raw : PyValue} {effective : EffectiveRuntimeConfigValue} :
    resolver.effectiveValue key source raw = .ok effective ↔
      ∃ value, normalizeValue resolver.primitives key raw = .ok value ∧
        effective = ⟨key.key, value, source, key.mutability,
          effectiveStatus key.mutability source, key.secret⟩ := by
  unfold effectiveValue
  rw [bind_eq_ok]
  constructor
  · rintro ⟨value, hvalue, h⟩
    cases h
    exact ⟨value, hvalue, rfl⟩
  · rintro ⟨value, hvalue, rfl⟩
    exact ⟨value, hvalue, rfl⟩

theorem applyItems_isOk :
    ∀ {items : List (String × PyValue)} {values : Dict String EffectiveRuntimeConfigValue},
      (∃ values', resolver.applyItems source items values = .ok values') ↔
        ∀ e ∈ items, resolver.Takes e := by
  intro items
  induction items with
  | nil => intro values; exact iff_of_true ⟨values, rfl⟩ (by simp)
  | cons e items ih =>
    intro values
    obtain ⟨name, raw⟩ := e
    rw [List.forall_mem_cons]
    constructor
    · rintro ⟨values', h⟩
      obtain ⟨key, hkey, h⟩ := bind_eq_ok.mp h
      obtain ⟨effective, heff, h⟩ := bind_eq_ok.mp h
      obtain ⟨value, hvalue, -⟩ := effectiveValue_ok.mp heff
      exact ⟨⟨key, value, get_eq_ok.mp hkey, hvalue⟩, ih.mp ⟨values', h⟩⟩
    · rintro ⟨⟨key, value, hkey, hvalue⟩, hrest⟩
      obtain ⟨values', hvalues'⟩ := ih.mpr hrest
      exact ⟨values', bind_eq_ok.mpr ⟨key, get_eq_ok.mpr hkey,
        bind_eq_ok.mpr ⟨_, effectiveValue_ok.mpr ⟨value, hvalue, rfl⟩, hvalues'⟩⟩⟩

theorem applyLayers_isOk : ∀ {layers : List RuntimeConfigLayer}
    {values : Dict String EffectiveRuntimeConfigValue},
    (∃ values', resolver.applyLayers layers values = .ok values') ↔
      ∀ layer ∈ layers, ∀ e ∈ layer.values.entries, resolver.Takes e := by
  intro layers
  induction layers with
  | nil => intro values; exact iff_of_true ⟨values, rfl⟩ (by simp)
  | cons layer layers ih =>
    intro values
    rw [List.forall_mem_cons]
    constructor
    · rintro ⟨values', h⟩
      obtain ⟨between, hitems, h⟩ := bind_eq_ok.mp h
      exact ⟨applyItems_isOk.mp ⟨between, hitems⟩, ih.mp ⟨values', h⟩⟩
    · rintro ⟨hitems, hrest⟩
      obtain ⟨between, hbetween⟩ := applyItems_isOk.mpr hitems
      obtain ⟨values', hvalues'⟩ := ih.mpr hrest
      exact ⟨values', bind_eq_ok.mpr ⟨between, hbetween, hvalues'⟩⟩

/-- **A configuration can be resolved** when the defaults can and the keys of all layers take
their values. -/
theorem resolveValues_isOk :
    (∃ values, resolver.resolveValues layers = .ok values) ↔
      (∃ defaults, resolver.applyDefaults resolver.registry.all Dict.empty = .ok defaults) ∧
        ∀ layer ∈ layers, ∀ e ∈ layer.values.entries, resolver.Takes e := by
  have hsorted : (∀ layer ∈ normalizedLayers layers, ∀ e ∈ layer.values.entries,
      resolver.Takes e) ↔ ∀ layer ∈ layers, ∀ e ∈ layer.values.entries, resolver.Takes e := by
    simp only [normalizedLayers, mem_sortOn]
  constructor
  · rintro ⟨values, h⟩
    obtain ⟨defaults, hdefaults, h⟩ := bind_eq_ok.mp h
    exact ⟨⟨defaults, hdefaults⟩, hsorted.mp (applyLayers_isOk.mp ⟨values, h⟩)⟩
  · rintro ⟨⟨defaults, hdefaults⟩, hlayers⟩
    obtain ⟨values, hvalues⟩ := applyLayers_isOk.mpr (hsorted.mpr hlayers)
    exact ⟨values, bind_eq_ok.mpr ⟨defaults, hdefaults, hvalues⟩⟩

/-! ### What a key gets -/

def given (name : String) : List RuntimeConfigLayer → Option (RuntimeConfigSource × PyValue)
  | [] => none
  | layer :: layers =>
    (given name layers).orElse fun _ => (layer.values.get? name).map fun raw => (layer.source, raw)

theorem given_append (name : String) (xs ys : List RuntimeConfigLayer) :
    given name (xs ++ ys) = (given name ys).orElse fun _ => given name xs := by
  induction xs with
  | nil =>
    rw [List.nil_append]
    cases given name ys <;> rfl
  | cons layer xs ih =>
    rw [List.cons_append, given, given, ih]
    cases given name ys <;> rfl

/-- What the key makes of a value. -/
def effectiveOf (resolver : RuntimeConfigResolver) (name : String)
    (e : RuntimeConfigSource × PyValue) : Option EffectiveRuntimeConfigValue :=
  (resolver.registry.keys.get? name).bind fun key => (resolver.effectiveValue key e.1 e.2).toOption

theorem applyItems_get? :
    ∀ {items : List (String × PyValue)} {values values' : Dict String EffectiveRuntimeConfigValue},
      (items.map Prod.fst).Nodup → resolver.applyItems source items values = .ok values' →
        values'.get? name = (lookupEntries name items).elim (values.get? name)
          fun raw => resolver.effectiveOf name (source, raw) := by
  intro items
  induction items with
  | nil =>
    intro values values' _ h
    cases h
    rfl
  | cons e items ih =>
    intro values values' hnodup h
    obtain ⟨n, raw⟩ := e
    rw [List.map_cons, List.nodup_cons] at hnodup
    obtain ⟨key, hkey, h⟩ := bind_eq_ok.mp h
    obtain ⟨effective, heffective, h⟩ := bind_eq_ok.mp h
    rw [ih hnodup.2 h, lookupEntries]
    by_cases hn : n = name
    · subst hn
      have hrest : lookupEntries n items = none := by
        rw [← Option.not_isSome_iff_eq_none, ← mem_keys_iff]
        exact hnodup.1
      rw [if_pos rfl, hrest, Option.elim_none, Dict.get?_set_self, Option.elim_some, effectiveOf,
        get_eq_ok.mp hkey, Option.bind_some, heffective]
      rfl
    · rw [if_neg hn, Dict.get?_set_ne _ _ hn]

/-- **A key gets the value of the last layer that gives one.** -/
theorem applyLayers_get? : ∀ {layers : List RuntimeConfigLayer}
    {values values' : Dict String EffectiveRuntimeConfigValue},
    resolver.applyLayers layers values = .ok values' →
      values'.get? name = (given name layers).elim (values.get? name)
      (resolver.effectiveOf name) := by
  intro layers
  induction layers with
  | nil =>
    intro values values' h
    cases h
    rfl
  | cons layer layers ih =>
    intro values values' h
    obtain ⟨between, hitems, h⟩ := bind_eq_ok.mp h
    rw [ih h, given]
    cases given name layers with
    | some e => rfl
    | none =>
      have hget : lookupEntries name layer.values.entries = layer.values.get? name := rfl
      rw [Option.elim_none, applyItems_get? layer.values.nodup hitems, Option.orElse_none, hget]
      cases layer.values.get? name <;> rfl

theorem resolveValues_get? {defaults values : Dict String EffectiveRuntimeConfigValue}
    (hdefaults : resolver.applyDefaults resolver.registry.all Dict.empty = .ok defaults)
    (h : resolver.resolveValues layers = .ok values) :
    values.get? name = (given name (normalizedLayers layers)).elim (defaults.get? name)
      (resolver.effectiveOf name) := by
  obtain ⟨defaults', hdefaults', h⟩ := bind_eq_ok.mp h
  obtain rfl := Except.ok.inj (hdefaults.symm.trans hdefaults')
  exact applyLayers_get? h

theorem given_normalizedLayers_append {patches : List RuntimeConfigLayer} {priority : ℤ}
    (h : ∀ layer ∈ patches, layer.source.priority = priority) :
    given name (normalizedLayers (layers ++ patches)) =
      (given name (normalizedLayers (layers.filter fun l => priority < l.source.priority))).orElse
        fun _ => (given name patches).orElse
          fun _ =>
          given name (normalizedLayers (layers.filter fun l => l.source.priority ≤ priority)) := by
  rw [normalizedLayers, sortOn_append_const h, given_append, given_append]
  rfl

end RuntimeConfigResolver

end Taskweavn
