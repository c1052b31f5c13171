import Taskweavn.Server.SettingsConfig
import Taskweavn.Lib.Run
import Mathlib.Logic.Function.Basic

/-!
# Updates that overlap

`DefaultSettingsConfigGateway.update_config` reads `config.json`, checks the update, writes the
file, and then reads and writes `secrets.json` once for each key that was given; at last it reads
both files for its answer (`taskweavn/server/settings_config.py`).  Nothing holds these steps
together: each may fail, and the steps of other calls may come between them.  A write puts the
whole file in place or leaves it as it was.

`UpdatesIntact` is the property that is asked of a run, and `HarmlessCall` the condition on a step
under which it does no harm: what it takes over into the file it writes still stands there, and
once `config.json` is written nothing fails.  `readSlot_effect` is the frame of a step that meets
it: **it sets the slots that it saves, and no other**.
-/

namespace Taskweavn

open Lib Py Function

/-! ### The machine -/

structure SettingsFiles where
  config : SettingsFile
  secrets : SettingsFile
deriving DecidableEq

/-- Where a call of `update_config` stands. -/
inductive UpdateProgress
  | called
  | configRead (stored : Dict String PyValue)
  | validated (stored : Dict String PyValue)
  | configWritten
  | llmSecretsRead (data : Dict String PyValue)
  | llmKeyDone
  | webSecretsRead (data : Dict String PyValue)
  | keysDone
  | returned
  | raised
deriving DecidableEq

/-- The call has written `config.json`, and goes on or has returned. -/
def UpdateProgress.written : UpdateProgress → Bool
  | .called | .configRead _ | .validated _ | .raised => false
  | _ => true

def UpdateProgress.checked : UpdateProgress → Bool
  | .validated _ => true
  | progress => progress.written

def UpdateProgress.ended (progress : UpdateProgress) : Bool :=
  progress = .returned || progress = .raised

structure UpdateCall where
  gateway : SettingsGateway
  parsed : UpdateSettingsConfigPayload
  now : DateTime
  progress : UpdateProgress := .called

/-- What can be saved by itself. -/
inductive SettingsSlot
  | settings (name : SettingsSection)
  | llmKey (provider : String)
  | webSearchKey
deriving DecidableEq, Repr

section Machine

variable (lc : Lowercase)

/-- The provider and the key of the update's `write_llm_provider_secret`. -/
def llmKeyUpdate (parsed : UpdateSettingsConfigPayload) : Option (String × String) :=
  parsed.llm.bind fun llm => (apiKeyReplacement llm.apiKey).map fun apiKey =>
    ((llmConfigUpdate lc llm).provider, apiKey)

/-- The provider and the key of the update's `write_web_search_secret`. -/
def webKeyUpdate (parsed : UpdateSettingsConfigPayload) : Option (String × String) :=
  parsed.webSearch.bind fun webSearch => (apiKeyReplacement webSearch.apiKey).map fun apiKey =>
    (webSearchProvider lc webSearch, apiKey)

/-- What the readers of the store find: a section of `read_config`, with its keys in order,
`read_llm_provider_secret` and `read_web_search_secret`. -/
def readSlot (files : SettingsFiles) : SettingsSlot → Option PyValue
  | .settings name => (files.config.data.get? name.key).map PyValue.sortedDoc
  | .llmKey provider => (llmKeyOf lc.lower files.secrets.data provider).map PyValue.str
  | .webSearchKey => (readWebSearchSecret lc.lower files.secrets.data).map fun secret =>
      .tuple [.str secret.1, .str secret.2]

def savedSections (parsed : UpdateSettingsConfigPayload) : List (SettingsSlot × PyValue) :=
  [SettingsSection.llm, .logging, .webSearch].filterMap fun name =>
    (sectionValue lc parsed name).map fun value => (.settings name, value.sortedDoc)

/-- What a step does: where the call stands then, the files, and what was saved. -/
structure UpdateEffect where
  progress : UpdateProgress
  files : SettingsFiles
  saved : List (SettingsSlot × PyValue) := []

/-- The next step of `update_config`; `fault` says that its access to a file fails. -/
def advanceUpdate (call : UpdateCall) (files : SettingsFiles) (fault : Bool) :
    Option UpdateEffect :=
  match call.progress with
  | .called =>
    match fault, readJsonObject files.config with
    | false, .ok stored => some { progress := .configRead stored, files }
    | _, _ => some { progress := .raised, files }
  | .configRead stored =>
    let updated := updatedConfigData lc stored call.parsed call.now
    match fault, validateUpdate lc call.gateway call.parsed updated files.secrets with
    | false, .ok [] => some { progress := .validated stored, files }
    | _, _ => some { progress := .raised, files }
  | .validated stored =>
    if fault then some { progress := .raised, files }
    else
      let updated := updatedConfigData lc stored call.parsed call.now
      some
        { progress := .configWritten
          files := { files with config := writePrivateJson (configPayload updated) }
          saved := savedSections lc call.parsed }
  | .configWritten =>
    match llmKeyUpdate lc call.parsed with
    | none => some { progress := .llmKeyDone, files }
    | some _ =>
      match fault, readJsonObject files.secrets with
      | false, .ok data => some { progress := .llmSecretsRead data, files }
      | _, _ => some { progress := .raised, files }
  | .llmSecretsRead data =>
    (llmKeyUpdate lc call.parsed).map fun (provider, apiKey) =>
      if fault then { progress := .raised, files }
      else
        let payload := llmProviderSecretPayload lc.lower data provider apiKey call.now
        { progress := .llmKeyDone
          files := { files with secrets := writePrivateJson payload }
          saved := [(.llmKey (normalizeProvider lc.lower provider), .str apiKey)] }
  | .llmKeyDone =>
    match webKeyUpdate lc call.parsed with
    | none => some { progress := .keysDone, files }
    | some _ =>
      match fault, readJsonObject files.secrets with
      | false, .ok data => some { progress := .webSecretsRead data, files }
      | _, _ => some { progress := .raised, files }
  | .webSecretsRead data =>
    (webKeyUpdate lc call.parsed).map fun (provider, apiKey) =>
      if fault then { progress := .raised, files }
      else
        let payload := webSearchSecretPayload data provider apiKey call.now
        { progress := .keysDone
          files := { files with secrets := writePrivateJson payload }
          saved := [(.webSearchKey,
            .tuple [.str (normalizeProvider lc.lower provider), .str apiKey])] }
  | .keysDone =>
    -- the readiness report and the summary
    match fault, readJsonObject files.config, readJsonObject files.secrets with
    | false, .ok _, .ok _ => some { progress := .returned, files }
    | _, _, _ => some { progress := .raised, files }
  | .returned | .raised => none

/-- The files, the calls, and what was saved so far by which call, newest first. -/
structure SettingsState where
  files : SettingsFiles
  calls : ℕ → Option UpdateCall := fun _ => none
  saved : List (ℕ × SettingsSlot × PyValue) := []

inductive UpdateStep
  /-- A call whose payload is valid. -/
  | call (id : ℕ) (gateway : SettingsGateway)
      (parsed : UpdateSettingsConfigPayload) (now : DateTime)
  | advance (id : ℕ) (fault : Bool)

def settingsStep (s : SettingsState) : UpdateStep → Option SettingsState
  | .call id gateway parsed now =>
    if (s.calls id).isSome then none
    else some { s with calls := update s.calls id (some { gateway, parsed, now }) }
  | .advance id fault =>
    (s.calls id).bind fun call => (advanceUpdate lc call s.files fault).map fun effect =>
      { files := effect.files
        calls := update s.calls id (some { call with progress := effect.progress })
        saved := effect.saved.map (fun e => (id, e)) ++ s.saved }

/-! ### The property and the condition -/

/-- The call has come to this point. -/
def StandsAt (s : SettingsState) (id : ℕ) (P : UpdateProgress → Prop) : Prop :=
  ∃ call, s.calls id = some call ∧ P call.progress

/-- No step of a call that raises changes a file. -/
def RaisesLeaveFiles (start : SettingsFiles) (steps : List UpdateStep) : Prop :=
  ∀ done id fault rest before after last,
    steps = done ++ .advance id fault :: rest →
      execAll (settingsStep lc) { files := start } done = some before →
        settingsStep lc before (.advance id fault) = some after →
          execAll (settingsStep lc) after rest = some last →
            StandsAt last id (· = .raised) → after.files = before.files

def lastSaved (s : SettingsState) (slot : SettingsSlot) : Option PyValue :=
  lookupEntries slot ((s.saved.filter fun e =>
    (s.calls e.1).any (·.progress = .returned)).map Prod.snd)

/-- Every section and every key is the one that was saved last, or that of the start. -/
def HoldsSaved (start : SettingsFiles) (s : SettingsState) : Prop :=
  ∀ slot, readSlot lc s.files slot = (lastSaved s slot).or (readSlot lc start slot)

/-- The property of a run: calls that raise leave the files alone, and whenever no call is under
way the store holds what was saved. -/
def UpdatesIntact (start : SettingsFiles) (steps : List UpdateStep) : Prop :=
  RaisesLeaveFiles lc start steps ∧
    ∀ k s, execAll (settingsStep lc) { files := start } (steps.take k) = some s →
      (∀ id call, s.calls id = some call → call.progress.ended) → HoldsSaved lc start s

/-- What the step takes over into a file still stands there; and a call that has written
`config.json`, or is about to, gets through. -/
def HarmlessCall (call : UpdateCall) (files : SettingsFiles) (fault : Bool) : Prop :=
  match call.progress with
  | .validated stored => fault = false → (∃ data, readJsonObject files.secrets = .ok data) ∧
      ∀ name, sectionValue lc call.parsed name = none →
        (stored.get? name.key).map PyValue.sortedDoc = readSlot lc files (.settings name)
  | .configWritten => (llmKeyUpdate lc call.parsed).isSome → fault = false
  | .llmSecretsRead data => fault = false ∧
      readWebSearchSecret lc.lower data = readWebSearchSecret lc.lower files.secrets.data ∧
      ∀ secret, llmKeyUpdate lc call.parsed = some secret →
        LegacyFits lc.lower data (normalizeProvider lc.lower secret.1) ∧
        ∀ name, name ≠ normalizeProvider lc.lower secret.1 →
          llmKeyOf lc.lower data name = llmKeyOf lc.lower files.secrets.data name
  | .llmKeyDone => (webKeyUpdate lc call.parsed).isSome → fault = false
  | .webSecretsRead data => fault = false ∧
      ∀ name, llmKeyOf lc.lower data name = llmKeyOf lc.lower files.secrets.data name
  | .keysDone => fault = false
  | _ => True

def HarmlessStep (s : SettingsState) : UpdateStep → Prop
  | .call .. => True
  | .advance id fault => ∀ call, s.calls id = some call → HarmlessCall lc call s.files fault

/-! ### What a step can do -/

def BothReadable (files : SettingsFiles) : Prop :=
  (∃ config, readJsonObject files.config = .ok config) ∧
    ∃ secrets, readJsonObject files.secrets = .ok secrets

/-- The provider of the update's web search is a name. -/
def NamesProvider (parsed : UpdateSettingsConfigPayload) : Prop :=
  ∀ webSearch, parsed.webSearch = some webSearch → isBlank (webSearchProvider lc webSearch) = false

theorem not_supported_of_isBlank {provider : String} (h : isBlank provider = true) :
    normalizeProvider lc.lower provider ∉ supportedWebSearchProviders := by
  have hstrip : strip provider = "" := by simpa [isBlank] using h
  rw [normalizeProvider, hstrip, lc.lower_empty]
  decide

theorem namesProvider_of_validateUpdate {gateway : SettingsGateway}
    {parsed : UpdateSettingsConfigPayload} {updated : Dict String PyValue} {secrets : SettingsFile}
    (h : validateUpdate lc gateway parsed updated secrets = .ok []) : NamesProvider lc parsed := by
  intro webSearch hweb
  by_contra hblank
  rw [Bool.not_eq_false] at hblank
  have hissue : validateWebSearch lc gateway parsed secrets = .ok [⟨"webSearch.provider",
      "unsupported web search provider", supportedWebSearchProviders, []⟩] := by
    rw [validateWebSearch, hweb]
    dsimp only
    rw [if_pos (not_supported_of_isBlank lc hblank)]
    rfl
  unfold validateUpdate at h
  rw [hissue] at h
  cases hllm : validateLlm lc gateway parsed secrets with
  | error e => rw [hllm] at h; cases h
  | ok llm =>
    rw [hllm] at h
    have hnil := Except.ok.inj h
    simp at hnil

/-- The step leaves the files as they are. -/
structure UpdateEffect.Quiet (effect : UpdateEffect) (call : UpdateCall) (files : SettingsFiles) :
    Prop where
  files_eq : effect.files = files
  saved_eq : effect.saved = []
  written : effect.progress.written = true → call.progress.written = true
  checked : effect.progress.checked = true →
    call.progress.checked = true ∨ NamesProvider lc call.parsed

/-- The write of `config.json`. -/
def configEffect (call : UpdateCall) (files : SettingsFiles) (stored : Dict String PyValue) :
    UpdateEffect :=
  let updated := updatedConfigData lc stored call.parsed call.now
  { progress := .configWritten
    files := { files with config := writePrivateJson (configPayload updated) }
    saved := savedSections lc call.parsed }

/-- The write of the key of an LLM provider. -/
def llmEffect (call : UpdateCall) (files : SettingsFiles) (data : Dict String PyValue)
    (secret : String × String) : UpdateEffect :=
  let payload := llmProviderSecretPayload lc.lower data secret.1 secret.2 call.now
  { progress := .llmKeyDone
    files := { files with secrets := writePrivateJson payload }
    saved := [(.llmKey (normalizeProvider lc.lower secret.1), .str secret.2)] }

/-- The write of the key of the web search. -/
def webEffect (call : UpdateCall) (files : SettingsFiles) (data : Dict String PyValue)
    (secret : String × String) : UpdateEffect :=
  let payload := webSearchSecretPayload data secret.1 secret.2 call.now
  { progress := .keysDone
    files := { files with secrets := writePrivateJson payload }
    saved := [(.webSearchKey,
      .tuple [.str (normalizeProvider lc.lower secret.1), .str secret.2])] }

theorem UpdateProgress.checked_of_written {progress : UpdateProgress}
    (h : progress.written = true) :
    progress.checked = true := by
  cases progress <;> first | exact h | rfl

theorem quiet_raised (call : UpdateCall) (files : SettingsFiles) :
    UpdateEffect.Quiet lc { progress := .raised, files } call files :=
  ⟨rfl, rfl, fun h => absurd h Bool.false_ne_true, fun h => absurd h Bool.false_ne_true⟩

theorem quiet_of_written {call : UpdateCall} (files : SettingsFiles) (progress : UpdateProgress)
    (h : call.progress.written = true) : UpdateEffect.Quiet lc { progress, files } call files :=
  ⟨rfl, rfl, fun _ => h, fun _ => .inl (UpdateProgress.checked_of_written h)⟩

/-- **What a step can do**: leave the files as they are, or write one of them. -/
theorem advanceUpdate_cases {call : UpdateCall} {files : SettingsFiles} {fault : Bool}
    {effect : UpdateEffect} (h : advanceUpdate lc call files fault = some effect) :
    effect.Quiet lc call files ∨
    (∃ stored, call.progress = .validated stored ∧ fault = false ∧
      effect = configEffect lc call files stored) ∨
    (∃ data secret, call.progress = .llmSecretsRead data ∧
      llmKeyUpdate lc call.parsed = some secret ∧ effect = llmEffect lc call files data secret) ∨
    (∃ data secret, call.progress = .webSecretsRead data ∧
      webKeyUpdate lc call.parsed = some secret ∧ effect =
      webEffect lc call files data secret) := by
  have hwritten : ∀ {progress}, call.progress = progress → progress.written = true →
      call.progress.written = true := fun heq h => heq ▸ h
  unfold advanceUpdate at h
  cases hprogress : call.progress with
  | called =>
    rw [hprogress] at h
    dsimp only at h
    split at h <;> cases h
    · exact .inl ⟨rfl, rfl, fun h => absurd h (by simp [UpdateProgress.written]),
        fun h => absurd h (by simp [UpdateProgress.checked, UpdateProgress.written])⟩
    · exact .inl (quiet_raised lc call files)
  | configRead stored =>
    rw [hprogress] at h
    dsimp only at h
    split at h
    · next hvalid =>
      cases h
      exact .inl ⟨rfl, rfl, fun h => absurd h (by simp [UpdateProgress.written]),
        fun _ => .inr (namesProvider_of_validateUpdate lc hvalid)⟩
    · cases h
      exact .inl (quiet_raised lc call files)
  | validated stored =>
    rw [hprogress] at h
    dsimp only at h
    split at h
    · cases h
      exact .inl (quiet_raised lc call files)
    · next hfault =>
      cases h
      exact .inr (.inl ⟨stored, rfl, by simpa using hfault, rfl⟩)
  | configWritten =>
    rw [hprogress] at h
    dsimp only at h
    split at h
    · cases h
      exact .inl (quiet_of_written lc files _ (hwritten hprogress rfl))
    · split at h <;> cases h <;> exact .inl (quiet_of_written lc files _ (hwritten hprogress rfl))
  | llmSecretsRead data =>
    rw [hprogress] at h
    dsimp only at h
    obtain ⟨secret, hsecret, h⟩ := Option.map_eq_some_iff.mp h
    split at h <;> cases h
    · exact .inl (quiet_raised lc call files)
    · exact .inr (.inr (.inl ⟨data, secret, rfl, hsecret, rfl⟩))
  | llmKeyDone =>
    rw [hprogress] at h
    dsimp only at h
    split at h
    · cases h
      exact .inl (quiet_of_written lc files _ (hwritten hprogress rfl))
    · split at h <;> cases h <;> exact .inl (quiet_of_written lc files _ (hwritten hprogress rfl))
  | webSecretsRead data =>
    rw [hprogress] at h
    dsimp only at h
    obtain ⟨secret, hsecret, h⟩ := Option.map_eq_some_iff.mp h
    split at h <;> cases h
    · exact .inl (quiet_raised lc call files)
    · exact .inr (.inr (.inr ⟨data, secret, rfl, hsecret, rfl⟩))
  | keysDone =>
    rw [hprogress] at h
    dsimp only at h
    split at h <;> cases h <;> exact .inl (quiet_of_written lc files _ (hwritten hprogress rfl))
  | returned =>
    rw [hprogress] at h
    cases h
  | raised =>
    rw [hprogress] at h
    cases h

/-- **A call that has written `config.json` gets through** a step that meets the condition. -/
theorem written_of_fresh {call : UpdateCall} {files : SettingsFiles} {fault : Bool}
    {effect : UpdateEffect} (hharmless : HarmlessCall lc call files fault)
    (hread : BothReadable files)
    (hwritten : call.progress.written = true)
    (h : advanceUpdate lc call files fault = some effect) :
    effect.progress.written = true := by
  obtain ⟨⟨config, hconfig⟩, secrets, hsecrets⟩ := hread
  unfold advanceUpdate at h
  unfold HarmlessCall at hharmless
  cases hprogress : call.progress with
  | called => rw [hprogress] at hwritten; cases hwritten
  | configRead stored => rw [hprogress] at hwritten; cases hwritten
  | validated stored => rw [hprogress] at hwritten; cases hwritten
  | configWritten =>
    rw [hprogress] at h hharmless
    dsimp only at h hharmless
    split at h
    · cases h
      rfl
    · next hkey =>
      rw [hharmless (by rw [hkey]; rfl), hsecrets] at h
      cases h
      rfl
  | llmSecretsRead data =>
    rw [hprogress] at h hharmless
    dsimp only at h hharmless
    obtain ⟨secret, hsecret, h⟩ := Option.map_eq_some_iff.mp h
    rw [hharmless.1] at h
    cases h
    rfl
  | llmKeyDone =>
    rw [hprogress] at h hharmless
    dsimp only at h hharmless
    split at h
    · cases h
      rfl
    · next hkey =>
      rw [hharmless (by rw [hkey]; rfl), hsecrets] at h
      cases h
      rfl
  | webSecretsRead data =>
    rw [hprogress] at h hharmless
    dsimp only at h hharmless
    obtain ⟨secret, hsecret, h⟩ := Option.map_eq_some_iff.mp h
    rw [hharmless.1] at h
    cases h
    rfl
  | keysDone =>
    rw [hprogress] at h hharmless
    dsimp only at h hharmless
    rw [hharmless, hconfig, hsecrets] at h
    cases h
    rfl
  | returned => rw [hprogress] at h; cases h
  | raised => rw [hprogress] at h; cases h

/-! ### What a write leaves -/

theorem lookupEntries_savedSections (parsed : UpdateSettingsConfigPayload) (slot : SettingsSlot) :
    lookupEntries slot (savedSections lc parsed) =
      match slot with
      | .settings name => (sectionValue lc parsed name).map PyValue.sortedDoc
      | _ => none := by
  unfold savedSections
  cases hllm : sectionValue lc parsed .llm <;> cases hlogging : sectionValue lc parsed .logging <;>
    cases hweb : sectionValue lc parsed .webSearch <;> cases slot with
    | settings name => cases name <;> simp [lookupEntries, hllm, hlogging, hweb]
    | _ => simp [lookupEntries, hllm, hlogging, hweb]

theorem not_isBlank_of_apiKeyReplacement {apiKey : Option String} {replacement : String}
    (h : apiKeyReplacement apiKey = some replacement) : isBlank replacement = false := by
  obtain ⟨hmap, hne⟩ := Option.filter_eq_some_iff.mp h
  obtain ⟨raw, -, rfl⟩ := Option.map_eq_some_iff.mp hmap
  rw [isBlank_strip]
  simpa [isBlank] using hne

/-- **The frame of a step**: a slot holds what the step has saved, or what it held before. -/
theorem readSlot_effect {call : UpdateCall} {files : SettingsFiles} {fault : Bool}
    {effect : UpdateEffect} (hharmless : HarmlessCall lc call files fault)
    (hchecked : call.progress.checked = true → NamesProvider lc call.parsed)
    (h : advanceUpdate lc call files fault = some effect) (slot : SettingsSlot) :
    readSlot lc effect.files slot =
      (lookupEntries slot effect.saved).or (readSlot lc files slot) := by
  unfold HarmlessCall at hharmless
  rcases advanceUpdate_cases lc h with hquiet | ⟨stored, hprogress, hfault, rfl⟩ |
    ⟨data, secret, hprogress, hsecret, rfl⟩ | ⟨data, secret, hprogress, hsecret, rfl⟩
  · rw [hquiet.files_eq, hquiet.saved_eq]
    rfl
  · rw [hprogress] at hharmless
    obtain ⟨-, hkeep⟩ := hharmless hfault
    show readSlot lc _ slot = (lookupEntries slot (savedSections lc call.parsed)).or _
    rw [lookupEntries_savedSections]
    cases slot with
    | settings name =>
      show ((writePrivateJson _).data.get? name.key).map PyValue.sortedDoc = _
      rw [get?_writePrivateJson, get?_updatedConfigData, Option.map_map]
      have htwice : PyValue.sortedDoc ∘ PyValue.sortedDoc = PyValue.sortedDoc :=
        funext PyValue.sortedDoc_sortedDoc
      rw [htwice]
      dsimp only
      cases hvalue : sectionValue lc call.parsed name with
      | none => exact hkeep name hvalue
      | some value => rfl
    | llmKey provider => rfl
    | webSearchKey => rfl
  · rw [hprogress] at hharmless
    obtain ⟨-, hweb, hkeep⟩ := hharmless
    obtain ⟨hfits, hkeep⟩ := hkeep secret hsecret
    have hkey : isBlank secret.2 = false := by
      obtain ⟨llm, -, hmap⟩ := Option.bind_eq_some_iff.mp hsecret
      obtain ⟨apiKey, hreplace, rfl⟩ := Option.map_eq_some_iff.mp hmap
      exact not_isBlank_of_apiKeyReplacement hreplace
    cases slot with
    | settings name => rfl
    | llmKey provider =>
      show (llmKeyOf lc.lower (writePrivateJson _).data provider).map PyValue.str = _
      rw [llmKeyOf_writePrivateJson, llmKeyOf_llmPayload lc.lower hkey hfits]
      show _ = (if SettingsSlot.llmKey _ = _ then some (PyValue.str secret.2) else none).or _
      by_cases hname : normalizeProvider lc.lower secret.1 = provider
      · rw [if_pos hname, if_pos (congrArg _ hname)]
        rfl
      · rw [if_neg hname, if_neg (fun h => hname (SettingsSlot.llmKey.inj h)),
          hkeep provider (Ne.symm hname)]
        rfl
    | webSearchKey =>
      show (readWebSearchSecret lc.lower (writePrivateJson _).data).map _ = _
      rw [readWebSearchSecret_writePrivateJson, readWebSearchSecret_llmPayload, hweb]
      rfl
  · rw [hprogress] at hharmless hchecked
    obtain ⟨-, hkeep⟩ := hharmless
    cases slot with
    | settings name => rfl
    | llmKey provider =>
      show (llmKeyOf lc.lower (writePrivateJson _).data provider).map PyValue.str = _
      rw [llmKeyOf_writePrivateJson, llmKeyOf_webPayload, hkeep]
      rfl
    | webSearchKey =>
      obtain ⟨webSearch, hwebSearch, hmap⟩ := Option.bind_eq_some_iff.mp hsecret
      obtain ⟨apiKey, hreplace, rfl⟩ := Option.map_eq_some_iff.mp hmap
      show (readWebSearchSecret lc.lower (writePrivateJson _).data).map _ = _
      rw [readWebSearchSecret_writePrivateJson, readWebSearchSecret_webPayload lc.lower
        (hchecked rfl webSearch hwebSearch) (not_isBlank_of_apiKeyReplacement hreplace)]
      rfl

end Machine

end Taskweavn
