import Taskweavn.Py.SortedJson
import Taskweavn.Py.Text
import Taskweavn.Py.DateTime

/-!
# The settings store

`FileSettingsConfigStore` keeps two JSON objects: `config.json` with the sections of the settings,
and `secrets.json` with the API keys (`taskweavn/server/settings_config.py`, `settings_llm.py`).
The keys of the LLM providers are kept by provider; an older layout, which is still read and is
migrated by the next write, had one key for one provider.

`lower` is `str.lower`.  Nothing is asked of it: a provider's name is normalised in the same way
wherever it is written and read.
-/

namespace Taskweavn

open Lib Py

/-! ### Files -/

/-- What stands under the name of a settings file. -/
inductive SettingsFile
  | missing
  /-- Reading fails, or the text is no JSON. -/
  | unreadable
  /-- The text is JSON, but no object. -/
  | notObject
  | object (data : Dict String PyValue)
deriving DecidableEq

structure SettingsConfigFieldError where
  path : String
  message : String
  allowedValues : List String := []
  envVars : List String := []
deriving DecidableEq, Repr

/-- `SettingsConfigValidationError` and `SettingsConfigStorageError` -/
inductive SettingsError
  | validation (errors : List SettingsConfigFieldError)
  | storage (message : String)
deriving DecidableEq, Repr

def readJsonObject : SettingsFile → Except SettingsError (Dict String PyValue)
  | .missing => .ok Dict.empty
  | .unreadable => .error (.storage "local settings storage could not be read")
  | .notObject => .error (.storage "local settings storage is invalid")
  | .object data => .ok data

/-- What a reader finds in the file: nothing, where reading it raises. -/
def SettingsFile.data : SettingsFile → Dict String PyValue
  | .object data => data
  | _ => Dict.empty

/-- The file after `_write_private_json`, which sorts the keys. -/
def writePrivateJson (payload : Dict String PyValue) : SettingsFile :=
  .object (PyValue.sortedDict payload)

theorem get?_writePrivateJson (payload : Dict String PyValue) (name : String) :
    (writePrivateJson payload).data.get? name = (payload.get? name).map PyValue.sortedDoc :=
  PyValue.get?_sortedDict payload name

/-- The items whose names are not in the list. -/
def without (names : List String) (data : Dict String PyValue) : Dict String PyValue :=
  ⟨data.entries.filter (fun e => !names.contains e.1),
    data.nodup.sublist (List.filter_sublist.map Prod.fst)⟩

theorem get?_without (names : List String) (data : Dict String PyValue) (name : String) :
    (without names data).get? name = if names.contains name then none else data.get? name := by
  rw [Dict.get?, without, lookupEntries_filter (fun k => !names.contains k)]
  cases names.contains name <;> rfl

def items? : Option PyValue → Option (List (String × PyValue))
  | some (.dict items) => some items
  | _ => none

def text? : Option PyValue → Option String
  | some (.str s) => some s
  | _ => none

theorem items?_sortedDoc (v : Option PyValue) : items? (v.map PyValue.sortedDoc) =
    (items? v).map (fun items => sortOn Prod.fst (PyValue.sortedItems items)) := by
  cases v with
  | none => rfl
  | some v => cases v <;> rfl

theorem text?_sortedDoc (v : Option PyValue) : text? (v.map PyValue.sortedDoc) = text? v := by
  cases v with
  | none => rfl
  | some v => cases v <;> rfl

/-! ### Secrets -/

section Secrets

variable (lower : String → String)

/-- `provider.strip().lower()` -/
def normalizeProvider (provider : String) : String := lower (strip provider)

/-- An `apiKey` entry that can be used. -/
def readableKey (entry : Option PyValue) : Option String := do
  let secret ← items? entry
  let apiKey ← text? (lookupEntries "apiKey" secret)
  if isBlank apiKey then none else some apiKey

/-- A `provider` and an `apiKey` in one mapping. -/
def readProviderAndKey (entry : Option PyValue) : Option (String × String) := do
  let secret ← items? entry
  let provider ← text? (lookupEntries "provider" secret)
  let apiKey ← text? (lookupEntries "apiKey" secret)
  if isBlank provider || isBlank apiKey then none
  else some (normalizeProvider lower provider, apiKey)

def readLegacyLlmSecret (data : Dict String PyValue) : Option (String × String) :=
  readProviderAndKey lower (data.get? "llm")

/-- The entry of a provider under `llmProviders`. -/
def providerEntry (data : Dict String PyValue) (name : String) : Option PyValue :=
  (items? (data.get? "llmProviders")).bind (lookupEntries name)

/-- The key of the older layout, if it is the provider's. -/
def legacyKeyOf (data : Dict String PyValue) (name : String) : Option String :=
  (readLegacyLlmSecret lower data).bind fun legacy =>
    if legacy.1 = name then some legacy.2 else none

/-- `read_llm_provider_secret`, for a name that is normalised already. -/
def llmKeyOf (data : Dict String PyValue) (name : String) : Option String :=
  (readableKey (providerEntry data name)).or (legacyKeyOf lower data name)

def readLlmProviderSecret (data : Dict String PyValue) (provider : String) : Option String :=
  llmKeyOf lower data (normalizeProvider lower provider)

/-- `FileSettingsConfigStore.read_web_search_secret` -/
def readWebSearchSecret (data : Dict String PyValue) : Option (String × String) :=
  readProviderAndKey lower (data.get? "webSearch")

def settingsSecretsSchemaVersion : String := "plato.local_settings_secrets.v2"

/-- The providers of a write: those in the file, with the key of the older layout moved among them
unless its provider is there already. -/
def migratedProviders (data : Dict String PyValue) : List (String × PyValue) :=
  let providers := (items? (data.get? "llmProviders")).getD []
  match readLegacyLlmSecret lower data with
  | some (legacyProvider, apiKey) =>
    if (lookupEntries legacyProvider providers).isSome then providers
    else setEntries legacyProvider (.dict [("apiKey", .str apiKey)]) providers
  | none => providers

def llmProviderSecretPayload (data : Dict String PyValue) (provider apiKey : String)
    (updatedAt : DateTime) : Dict String PyValue :=
  let existing := without ["schemaVersion", "updatedAt", "llm", "llmProviders"] data
  let providers := setEntries (normalizeProvider lower provider) (.dict [("apiKey", .str apiKey)])
    (migratedProviders lower data)
  (((Dict.empty.set "schemaVersion" (.str settingsSecretsSchemaVersion)).set
    "updatedAt" (.str updatedAt.jsonText)).update existing.entries).set
      "llmProviders" (.dict providers)

/-- The payload of `write_web_search_secret`. -/
def webSearchSecretPayload (data : Dict String PyValue) (provider apiKey : String)
    (updatedAt : DateTime) : Dict String PyValue :=
  let existing := without ["schemaVersion", "updatedAt", "webSearch"] data
  (((Dict.empty.set "schemaVersion" (.str settingsSecretsSchemaVersion)).set
    "updatedAt" (.str updatedAt.jsonText)).update existing.entries).set
      "webSearch" (.dict [("provider", .str provider), ("apiKey", .str apiKey)])

/-! ### What is read after a write -/

theorem get?_payload {names : List String} {data : Dict String PyValue} {name key : String}
    {version stamp value : PyValue} (hv : name ≠ "schemaVersion") (hs : name ≠ "updatedAt") :
    ((((Dict.empty.set "schemaVersion" version).set "updatedAt" stamp).update
      (without names data).entries).set key value).get? name =
        if key = name then some value else if names.contains name then none
        else data.get? name := by
  rw [Dict.get?_set]
  split
  · rfl
  · rw [Dict.get?_update, Dict.ofList_entries, get?_without, Dict.get?_set_ne _ _ hs.symm,
      Dict.get?_set_ne _ _ hv.symm, Dict.get?_empty, Option.or_none]

theorem readableKey_sortedDoc (entry : Option PyValue) :
    readableKey (entry.map PyValue.sortedDoc) = readableKey entry := by
  rw [readableKey, readableKey, items?_sortedDoc]
  cases items? entry with
  | none => rfl
  | some secret =>
    show (text? (lookupEntries "apiKey" (sortOn Prod.fst (PyValue.sortedItems secret)))).bind _ =
      (text? (lookupEntries "apiKey" secret)).bind _
    rw [PyValue.lookupEntries_sortedItems, text?_sortedDoc]

theorem readProviderAndKey_sortedDoc (entry : Option PyValue) :
    readProviderAndKey lower (entry.map PyValue.sortedDoc) = readProviderAndKey lower entry := by
  rw [readProviderAndKey, readProviderAndKey, items?_sortedDoc]
  cases items? entry with
  | none => rfl
  | some secret =>
    show (text? (lookupEntries "provider" (sortOn Prod.fst (PyValue.sortedItems secret)))).bind
        (fun _ => (text? (lookupEntries "apiKey"
          (sortOn Prod.fst (PyValue.sortedItems secret)))).bind _) =
      (text? (lookupEntries "provider" secret)).bind
        (fun _ => (text? (lookupEntries "apiKey" secret)).bind _)
    rw [PyValue.lookupEntries_sortedItems, PyValue.lookupEntries_sortedItems, text?_sortedDoc,
      text?_sortedDoc]

theorem providerEntry_writePrivateJson (payload : Dict String PyValue) (name : String) :
    providerEntry (writePrivateJson payload).data name =
      (providerEntry payload name).map PyValue.sortedDoc := by
  rw [providerEntry, providerEntry, get?_writePrivateJson, items?_sortedDoc]
  cases items? (payload.get? "llmProviders") with
  | none => rfl
  | some providers => exact PyValue.lookupEntries_sortedItems name providers

theorem llmKeyOf_writePrivateJson (payload : Dict String PyValue) (name : String) :
    llmKeyOf lower (writePrivateJson payload).data name = llmKeyOf lower payload name := by
  rw [llmKeyOf, llmKeyOf, legacyKeyOf, legacyKeyOf, providerEntry_writePrivateJson,
    readableKey_sortedDoc, readLegacyLlmSecret, readLegacyLlmSecret, get?_writePrivateJson,
    readProviderAndKey_sortedDoc]

theorem readWebSearchSecret_writePrivateJson (payload : Dict String PyValue) :
    readWebSearchSecret lower (writePrivateJson payload).data =
      readWebSearchSecret lower payload := by
  rw [readWebSearchSecret, readWebSearchSecret, get?_writePrivateJson, readProviderAndKey_sortedDoc]

theorem providerEntry_llmPayload (data : Dict String PyValue) (provider apiKey : String)
    (updatedAt : DateTime) (name : String) :
    providerEntry (llmProviderSecretPayload lower data provider apiKey updatedAt) name =
      if normalizeProvider lower provider = name then some (.dict [("apiKey", .str apiKey)])
      else lookupEntries name (migratedProviders lower data) := by
  rw [providerEntry, llmProviderSecretPayload, Dict.get?_set_self]
  exact lookupEntries_setEntries _ _ _ _

theorem readLegacyLlmSecret_llmPayload (data : Dict String PyValue) (provider apiKey : String)
    (updatedAt : DateTime) :
    readLegacyLlmSecret lower (llmProviderSecretPayload lower data provider apiKey updatedAt) =
      none := by
  rw [readLegacyLlmSecret, llmProviderSecretPayload, get?_payload (by decide) (by decide),
    if_neg (by decide), if_pos (by decide)]
  rfl

theorem readableKey_single {apiKey : String} (h : isBlank apiKey = false) :
    readableKey (some (.dict [("apiKey", .str apiKey)])) = some apiKey := by
  show (if isBlank apiKey = true then none else some apiKey) = some apiKey
  rw [h]
  rfl

theorem not_isBlank_of_readProviderAndKey {entry : Option PyValue} {found : String × String}
    (h : readProviderAndKey lower entry = some found) : isBlank found.2 = false := by
  unfold readProviderAndKey at h
  obtain ⟨secret, -, h⟩ := Option.bind_eq_some_iff.mp h
  obtain ⟨provider, -, h⟩ := Option.bind_eq_some_iff.mp h
  obtain ⟨apiKey, -, h⟩ := Option.bind_eq_some_iff.mp h
  split at h
  · cases h
  · next hblank =>
    cases h
    rw [Bool.not_eq_true, Bool.or_eq_false_iff] at hblank
    exact hblank.2

/-- The key of the older layout has a place among the providers: its provider has no entry there,
or one with a key of its own. -/
def LegacyFits (data : Dict String PyValue) (provider : String) : Prop :=
  ∀ legacy, readLegacyLlmSecret lower data = some legacy → legacy.1 ≠ provider →
    (providerEntry data legacy.1).isSome → (readableKey (providerEntry data legacy.1)).isSome

theorem lookupEntries_providers (data : Dict String PyValue) (name : String) :
    lookupEntries name ((items? (data.get? "llmProviders")).getD []) = providerEntry data name := by
  rw [providerEntry]
  cases items? (data.get? "llmProviders") <;> rfl

theorem readableKey_migratedProviders {data : Dict String PyValue} {provider name : String}
    (hfits : LegacyFits lower data provider) (hne : provider ≠ name) :
    readableKey (lookupEntries name (migratedProviders lower data)) = llmKeyOf lower data name := by
  rw [llmKeyOf, legacyKeyOf]
  unfold migratedProviders
  cases hlegacy : readLegacyLlmSecret lower data with
  | none => rw [lookupEntries_providers, Option.bind_none, Option.or_none]
  | some legacy =>
    dsimp only
    rw [Option.bind_some, lookupEntries_providers]
    by_cases hname : legacy.1 = name
    · subst hname
      rw [if_pos rfl]
      by_cases hplace : (providerEntry data legacy.1).isSome
      · -- the entry stands in the way, and has a key of its own
        rw [if_pos hplace, lookupEntries_providers]
        obtain ⟨own, hown⟩ :=
          Option.isSome_iff_exists.mp (hfits legacy hlegacy (Ne.symm hne) hplace)
        rw [hown]
        rfl
      · have hnone := Option.not_isSome_iff_eq_none.mp hplace
        rw [if_neg hplace, lookupEntries_setEntries, if_pos rfl,
          readableKey_single (not_isBlank_of_readProviderAndKey lower hlegacy), hnone]
        rfl
    · rw [if_neg hname, Option.or_none]
      split
      · rw [lookupEntries_providers]
      · rw [lookupEntries_setEntries, if_neg hname, lookupEntries_providers]

/-- **A write of an LLM key** makes the provider's key the new one, and leaves the keys of the other
providers, if the key of the older layout has a place. -/
theorem llmKeyOf_llmPayload {data : Dict String PyValue} {provider apiKey : String}
    {updatedAt : DateTime} (hkey : isBlank apiKey = false)
    (hfits : LegacyFits lower data (normalizeProvider lower provider)) (name : String) :
    llmKeyOf lower (llmProviderSecretPayload lower data provider apiKey updatedAt) name =
      if normalizeProvider lower provider = name then some apiKey
      else llmKeyOf lower data name := by
  rw [llmKeyOf, legacyKeyOf, providerEntry_llmPayload, readLegacyLlmSecret_llmPayload,
    Option.bind_none, Option.or_none]
  split
  · exact readableKey_single hkey
  · next hne => exact readableKey_migratedProviders lower hfits hne

theorem readWebSearchSecret_llmPayload (data : Dict String PyValue) (provider apiKey : String)
    (updatedAt : DateTime) :
    readWebSearchSecret lower (llmProviderSecretPayload lower data provider apiKey updatedAt) =
      readWebSearchSecret lower data := by
  rw [readWebSearchSecret, llmProviderSecretPayload, get?_payload (by decide) (by decide),
    if_neg (by decide), if_neg (by decide)]
  rfl

/-- **A write of the key of the web search** makes it the new one. -/
theorem readWebSearchSecret_webPayload {data : Dict String PyValue} {provider apiKey : String}
    {updatedAt : DateTime} (hprovider : isBlank provider = false) (hkey : isBlank apiKey = false) :
    readWebSearchSecret lower (webSearchSecretPayload data provider apiKey updatedAt) =
      some (normalizeProvider lower provider, apiKey) := by
  rw [readWebSearchSecret, webSearchSecretPayload, Dict.get?_set_self]
  show (if (isBlank provider || isBlank apiKey) = true then none
    else some (normalizeProvider lower provider, apiKey)) = _
  rw [hprovider, hkey]
  rfl

theorem llmKeyOf_webPayload (data : Dict String PyValue) (provider apiKey : String)
    (updatedAt : DateTime) (name : String) :
    llmKeyOf lower (webSearchSecretPayload data provider apiKey updatedAt) name =
      llmKeyOf lower data name := by
  have hkeep : ∀ part, part = "llm" ∨ part = "llmProviders" →
      (webSearchSecretPayload data provider apiKey updatedAt).get? part = data.get? part := by
    rintro part (rfl | rfl) <;>
      rw [webSearchSecretPayload, get?_payload (by decide) (by decide), if_neg (by decide),
        if_neg (by decide)]
  rw [llmKeyOf, llmKeyOf, legacyKeyOf, legacyKeyOf, readLegacyLlmSecret, readLegacyLlmSecret,
    providerEntry, providerEntry, hkeep "llm" (.inl rfl), hkeep "llmProviders" (.inr rfl)]

end Secrets

end Taskweavn
