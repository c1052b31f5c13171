import Taskweavn.Server.SettingsStore

/-!
# Updates of the settings

An update sets some of the sections `llm`, `logging` and `webSearch` and may bring API keys.
`updatedConfigData` is the configuration it writes, `validateUpdate` what it is refused for
(`_updated_config_data` and `_validate_update` of `taskweavn/server/settings_config.py`, with
`settings_llm.py` and `llm/provider_catalog.py`).

Of `effective_web_search_settings` only the status is modelled, which is all that a refusal looks
at.
-/

namespace Taskweavn

open Lib Py

/-- `str.lower`: the table is Unicode's, and the store relies on one entry. -/
structure Lowercase where
  lower : String → String
  lower_empty : lower "" = ""

/-! ### Payloads -/

/-- An integer field with the bounds `ge` and `le`. -/
abbrev IntBetween (lo hi : ℤ) := { n : ℤ // lo ≤ n ∧ n ≤ hi }

structure UpdateSettingsConfigLlmPayload where
  provider : String
  model : String
  baseUrl : Option String
  apiKey : Option String
  provider_ne : provider ≠ ""
  model_ne : model ≠ ""

structure UpdateSettingsConfigLoggingPayload where
  /-- `some` exactly if the field was given. -/
  selectedProfile : Option (Option String)

structure UpdateSettingsConfigWebSearchPayload where
  enabled : Bool
  provider : String
  maxResults : IntBetween 1 10
  fetchEnabled : Bool
  fetchMaxUrls : IntBetween 1 5
  fetchMaxCharsPerUrl : IntBetween 1000 20000
  fetchMaxTotalChars : IntBetween 1000 40000
  apiKey : Option String
  provider_ne : provider ≠ ""

structure UpdateSettingsConfigPayload where
  llm : Option UpdateSettingsConfigLlmPayload
  logging : Option UpdateSettingsConfigLoggingPayload
  webSearch : Option UpdateSettingsConfigWebSearchPayload

/-- What `DefaultSettingsConfigGateway` knows of its surroundings. -/
structure SettingsGateway where
  baseEnv : Dict String String
  /-- The profiles of the workspace's logging configuration, `none` where building it raises. -/
  loggingProfiles : Option (List String)
  /-- The text of the `ValueError` for an endpoint that is no URL as `urlsplit` sees it, has no
  host, or has credentials, a query, a fragment or a bad port. -/
  baseUrlIssue : String → Option String

/-! ### The catalog of LLM providers -/

def supportedLlmProviders : List String := ["litellm", "deepseek", "openrouter", "openai", "claude"]

def supportedWebSearchProviders : List String := ["tavily"]

section

variable (lc : Lowercase)

def requiredApiKeyEnvVars (provider : String) : List String :=
  let normalized := normalizeProvider lc.lower provider
  if normalized = "deepseek" then ["DEEPSEEK_API_KEY", "LLM_API_KEY"]
  else if normalized = "openrouter" then ["OPENROUTER_API_KEY", "LLM_API_KEY"]
  else if normalized = "openai" then ["OPENAI_API_KEY", "LLM_API_KEY"]
  else if normalized = "claude" then ["ANTHROPIC_API_KEY", "LLM_API_KEY"]
  else ["LLM_API_KEY"]

def baseUrlEnvVar (provider : String) : Option String :=
  let normalized := normalizeProvider lc.lower provider
  if normalized = "openai" then some "OPENAI_BASE_URL"
  else if normalized = "claude" then some "ANTHROPIC_BASE_URL"
  else none

def defaultBaseUrl (provider : String) : Option String :=
  let normalized := normalizeProvider lc.lower provider
  if normalized = "openai" then some "https://api.openai.com/v1"
  else if normalized = "claude" then some "https://api.anthropic.com"
  else none

/-- `value.strip().rstrip("/")` -/
def stripEndpoint (value : String) : String :=
  String.ofList ((strip value).toList.rdropWhile (· == '/'))

/-- The text of the error that `validate_provider_base_url` raises. -/
def validateProviderBaseUrl (gateway : SettingsGateway) (provider value : String) : Option String :=
  let normalizedProvider := normalizeProvider lc.lower provider
  if (baseUrlEnvVar lc normalizedProvider).isNone then none
  else
    let normalized := stripEndpoint value
    if normalized = "" then
      let label := if normalizedProvider = "openai" then "OpenAI" else "Claude"
      some ("base URL is required for the " ++ label ++ " provider")
    else gateway.baseUrlIssue normalized

/-! ### What an update writes -/

/-- The section `llm` of the configuration. -/
structure LlmSection where
  provider : String
  model : String
  baseUrl : Option String
deriving DecidableEq, Repr

def llmConfigUpdate (payload : UpdateSettingsConfigLlmPayload) : LlmSection :=
  let provider := normalizeProvider lc.lower payload.provider
  { provider
    model := strip payload.model
    baseUrl := (baseUrlEnvVar lc provider).map fun _ =>
      match payload.baseUrl.or (defaultBaseUrl lc provider) with
      | some configured => stripEndpoint configured
      | none => "" }

def LlmSection.doc (llm : LlmSection) : PyValue :=
  .dict ([("provider", .str llm.provider), ("model", .str llm.model)] ++
    (llm.baseUrl.map fun url => ("baseUrl", PyValue.str url)).toList)

/-- A text that is blank counts as none (`raw.strip() or None`). -/
def stripOrNone (raw : Option String) : Option String :=
  (raw.map strip).filter (· ≠ "")

/-- `llm_api_key_replacement` and `_web_search_api_key_replacement` -/
def apiKeyReplacement (apiKey : Option String) : Option String := stripOrNone apiKey

/-- `None` or a string -/
def profileValue (text : Option String) : PyValue := (text.map PyValue.str).getD .none

/-- The provider of the section `webSearch`. -/
def webSearchProvider (payload : UpdateSettingsConfigWebSearchPayload) : String :=
  normalizeProvider lc.lower payload.provider

/-- The section `webSearch` of the configuration. -/
def webSearchDoc (payload : UpdateSettingsConfigWebSearchPayload) : PyValue :=
  .dict [("enabled", .bool payload.enabled), ("provider", .str (webSearchProvider lc payload)),
    ("mode", .str "basic"), ("maxResults", .int payload.maxResults),
    ("fetchEnabled", .bool (payload.enabled && payload.fetchEnabled)),
    ("fetchMaxUrls", .int payload.fetchMaxUrls),
    ("fetchMaxCharsPerUrl", .int payload.fetchMaxCharsPerUrl),
    ("fetchMaxTotalChars", .int payload.fetchMaxTotalChars)]

inductive SettingsSection
  | llm
  | logging
  | webSearch
deriving DecidableEq, Repr

def SettingsSection.key : SettingsSection → String
  | .llm => "llm"
  | .logging => "logging"
  | .webSearch => "webSearch"

def sectionValue (parsed : UpdateSettingsConfigPayload) : SettingsSection → Option PyValue
  | .llm => parsed.llm.map fun llm => (llmConfigUpdate lc llm).doc
  | .logging => parsed.logging.bind fun logging => logging.selectedProfile.map fun rawProfile =>
      .dict [("selectedProfile", profileValue (stripOrNone rawProfile))]
  | .webSearch => parsed.webSearch.map (webSearchDoc lc)

def setSection (parsed : UpdateSettingsConfigPayload) (name : SettingsSection)
    (updated : Dict String PyValue) : Dict String PyValue :=
  match sectionValue lc parsed name with
  | some value => updated.set name.key value
  | none => updated

def updatedConfigData (stored : Dict String PyValue) (parsed : UpdateSettingsConfigPayload)
    (now : DateTime) : Dict String PyValue :=
  let updated := without ["schemaVersion", "updatedAt"] stored
  let updated := setSection lc parsed .llm updated
  let updated := setSection lc parsed .logging updated
  let updated := setSection lc parsed .webSearch updated
  updated.set "updatedAt" (.str now.jsonText)

/-- The payload of `write_config`. -/
def configPayload (data : Dict String PyValue) : Dict String PyValue :=
  (Dict.empty.set "schemaVersion" (.str "plato.local_settings_storage.v1")).update data.entries

theorem get?_setSection (parsed : UpdateSettingsConfigPayload) (name name' : SettingsSection)
    (updated : Dict String PyValue) :
    (setSection lc parsed name updated).get? name'.key =
      if name = name' then (sectionValue lc parsed name').or (updated.get? name'.key)
      else updated.get? name'.key := by
  unfold setSection
  by_cases h : name = name'
  · subst h
    rw [if_pos rfl]
    cases sectionValue lc parsed name with
    | none => rfl
    | some value => exact Dict.get?_set_self _ _ _
  · rw [if_neg h]
    have hkey : name.key ≠ name'.key := by
      revert h
      cases name <;> cases name' <;> decide
    cases sectionValue lc parsed name with
    | none => rfl
    | some value => exact Dict.get?_set_ne _ _ hkey

/-- **An update sets the sections it has a value for**, and takes the others over from what it has
read. -/
theorem get?_updatedConfigData (stored : Dict String PyValue) (parsed : UpdateSettingsConfigPayload)
    (now : DateTime) (name : SettingsSection) :
    (configPayload (updatedConfigData lc stored parsed now)).get? name.key =
      (sectionValue lc parsed name).or (stored.get? name.key) := by
  have hversion : "schemaVersion" ≠ name.key := by cases name <;> decide
  have hstamp : "updatedAt" ≠ name.key := by cases name <;> decide
  have hwithout : (without ["schemaVersion", "updatedAt"] stored).get? name.key =
      stored.get? name.key := by
    rw [get?_without, if_neg]
    cases name <;> decide
  rw [configPayload, Dict.get?_update, Dict.ofList_entries, Dict.get?_set_ne _ _ hversion,
    Dict.get?_empty, Option.or_none, updatedConfigData, Dict.get?_set_ne _ _ hstamp,
    get?_setSection, get?_setSection, get?_setSection, hwithout]
  cases name <;> simp

/-! ### What an update is refused for -/

def hasEnvValue (gateway : SettingsGateway) (name : String) : Bool :=
  !isBlank ((gateway.baseEnv.get? name).getD "")

def hasEffectiveLlmApiKey (gateway : SettingsGateway) (provider : String)
    (replacement : Option String) (secrets : SettingsFile) : Except SettingsError Bool :=
  if replacement.isSome then .ok true
  else do
    let data ← readJsonObject secrets
    if (readLlmProviderSecret lc.lower data provider).isSome then pure true
    else pure ((requiredApiKeyEnvVars lc provider).any (hasEnvValue gateway))

/-- `validate_llm_settings`, with the issues as field errors -/
def validateLlmSettings (gateway : SettingsGateway) (provider model : String)
    (baseUrl : Option String) (apiKeyAvailable : Bool) : List SettingsConfigFieldError :=
  (if provider ∈ supportedLlmProviders then []
    else [⟨"llm.provider", "unsupported provider", supportedLlmProviders, []⟩]) ++
  (if model = "" then [⟨"llm.model", "model must not be empty", [], []⟩] else []) ++
  (match baseUrlEnvVar lc provider with
    | none => []
    | some endpointEnvVar =>
      match validateProviderBaseUrl lc gateway provider (baseUrl.getD "") with
      | none => []
      | some message => [⟨"llm.baseUrl", message, [], [endpointEnvVar]⟩]) ++
  (if provider ∈ supportedLlmProviders ∧ apiKeyAvailable = false then
    [⟨"llm.apiKey", "an API key is required for the selected provider", [],
      requiredApiKeyEnvVars lc provider⟩]
    else [])

/-- The part of `_validate_update` about the section `llm`. -/
def validateLlm (gateway : SettingsGateway) (parsed : UpdateSettingsConfigPayload)
    (secrets : SettingsFile) : Except SettingsError (List SettingsConfigFieldError) :=
  match parsed.llm with
  | none => .ok []
  | some payload => do
    let llm := llmConfigUpdate lc payload
    let provider := normalizeProvider lc.lower llm.provider
    let apiKeyAvailable ←
      hasEffectiveLlmApiKey lc gateway provider (apiKeyReplacement payload.apiKey) secrets
    pure (validateLlmSettings lc gateway provider (strip llm.model) llm.baseUrl apiKeyAvailable)

/-- The part about the section `logging`, which may be one that the file had before. -/
def validateLogging (gateway : SettingsGateway) (parsed : UpdateSettingsConfigPayload)
    (updated : Dict String PyValue) : List SettingsConfigFieldError :=
  match parsed.logging, (items? (updated.get? "logging")).bind
      (fun logging => text? (lookupEntries "selectedProfile" logging)) with
  | some _, some selectedProfile =>
    if selectedProfile = "" ∨ selectedProfile ∈ gateway.loggingProfiles.getD [] then []
    else [⟨"logging.selectedProfile", "unknown logging profile",
      sortOn id (gateway.loggingProfiles.getD []), []⟩]
  | _, _ => []

def envFlag (value : Option String) : Option Bool :=
  value.bind fun text =>
    let normalized := lc.lower (strip text)
    if normalized ∈ ["1", "true", "yes", "on"] then some true
    else if normalized ∈ ["0", "false", "no", "off"] then some false
    else none

inductive WebSearchStatus
  | disabled
  | missingKey
  | ready
deriving DecidableEq, Repr

/-- The status of `effective_web_search_settings` for a configuration whose section `webSearch` was
set by the update. -/
def webSearchStatus (gateway : SettingsGateway) (payload : UpdateSettingsConfigWebSearchPayload)
    (secrets : SettingsFile) : Except SettingsError WebSearchStatus := do
  let enabled := (envFlag lc (gateway.baseEnv.get? "PLATO_WEB_SEARCH_ENABLED")).getD payload.enabled
  let envProvider := (gateway.baseEnv.get? "PLATO_WEB_SEARCH_PROVIDER").getD ""
  let provider :=
    if isBlank envProvider then
      if isBlank (webSearchProvider lc payload) then "tavily"
      else normalizeProvider lc.lower (webSearchProvider lc payload)
    else normalizeProvider lc.lower envProvider
  let hasKey ←
    if (apiKeyReplacement payload.apiKey).isSome then pure true
    else do
      let data ← readJsonObject secrets
      match readWebSearchSecret lc.lower data with
      | some secret => pure (secret.1 = provider || hasEnvValue gateway "TAVILY_API_KEY")
      | none => pure (hasEnvValue gateway "TAVILY_API_KEY")
  pure (if !enabled then .disabled else if hasKey then .ready else .missingKey)

/-- The part about the section `webSearch`. -/
def validateWebSearch (gateway : SettingsGateway) (parsed : UpdateSettingsConfigPayload)
    (secrets : SettingsFile) : Except SettingsError (List SettingsConfigFieldError) :=
  match parsed.webSearch with
  | none => .ok []
  | some payload => do
    let provider := normalizeProvider lc.lower (webSearchProvider lc payload)
    if provider ∉ supportedWebSearchProviders then
      pure [⟨"webSearch.provider", "unsupported web search provider",
        supportedWebSearchProviders, []⟩]
    else if payload.enabled then do
      let status ← webSearchStatus lc gateway payload secrets
      if status = .missingKey then
        pure [⟨"webSearch.apiKey", "an API key is required when web search is enabled", [],
          ["TAVILY_API_KEY"]⟩]
      else pure []
    else pure []

def validateUpdate (gateway : SettingsGateway) (parsed : UpdateSettingsConfigPayload)
    (updated : Dict String PyValue) (secrets : SettingsFile) :
    Except SettingsError (List SettingsConfigFieldError) := do
  let llm ← validateLlm lc gateway parsed secrets
  let webSearch ← validateWebSearch lc gateway parsed secrets
  pure (llm ++ validateLogging gateway parsed updated ++ webSearch)

end

end Taskweavn
