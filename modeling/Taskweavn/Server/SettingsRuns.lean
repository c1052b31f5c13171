import Taskweavn.Server.SettingsUpdates

/-!
# Runs of overlapping updates

`SettingsSound` is what holds along a run of harmless steps: every slot holds what was saved
last, by a call that has written `config.json` and that will get through.  `updates_intact` is
the result for the runs of `update_config`: **a call that raises changes neither file, and every
section and every key is the one that was saved last**.
-/

namespace Taskweavn

open Lib Py Function

section

variable (lc : Lowercase) {start files : SettingsFiles} {s s' : SettingsState} {id : ℕ}
  {call : UpdateCall} {fault : Bool} {steps : List UpdateStep}

/-- What holds along a run of such steps. -/
structure SettingsSound (start : SettingsFiles) (s : SettingsState) : Prop where
  slots : ∀ slot, readSlot lc s.files slot =
    (lookupEntries slot (s.saved.map Prod.snd)).or (readSlot lc start slot)
  owners : ∀ e ∈ s.saved, StandsAt s e.1 (·.written = true)
  readable : ∀ id, StandsAt s id (·.written = true) → BothReadable s.files
  checked : ∀ id call, s.calls id = some call → call.progress.checked = true →
    NamesProvider lc call.parsed

theorem settingsSound_start (start : SettingsFiles) : SettingsSound lc start
    { files := start } where
  slots _ := rfl
  owners _ he := absurd he List.not_mem_nil
  readable _ h := by
    obtain ⟨_, hcall, -⟩ := h
    cases hcall
  checked _ _ hcall := by cases hcall

theorem settingsStep_advance (h : settingsStep lc s (.advance id fault) = some s') :
    ∃ call effect, s.calls id = some call ∧ advanceUpdate lc call s.files fault = some effect ∧
      s' = { files := effect.files
             calls := update s.calls id (some { call with progress := effect.progress })
             saved := effect.saved.map (fun e => (id, e)) ++ s.saved } := by
  obtain ⟨call, hcall, h⟩ := Option.bind_eq_some_iff.mp h
  obtain ⟨effect, heffect, rfl⟩ := Option.map_eq_some_iff.mp h
  exact ⟨call, effect, hcall, heffect, rfl⟩

theorem settingsStep_call {gateway : SettingsGateway} {parsed : UpdateSettingsConfigPayload}
    {now : DateTime} (h : settingsStep lc s (.call id gateway parsed now) = some s') :
    s.calls id = none ∧
      s' = { s with calls := update s.calls id (some { gateway, parsed, now }) } := by
  unfold settingsStep at h
  dsimp only at h
  split at h
  · cases h
  · next hnone =>
    cases h
    exact ⟨Option.not_isSome_iff_eq_none.mp hnone, rfl⟩

theorem standsAt_written {label : UpdateStep} (hs : SettingsSound lc start s)
    (hharmless : HarmlessStep lc s label) (h : settingsStep lc s label = some s')
    (hid : StandsAt s id (·.written = true)) : StandsAt s' id (·.written = true) := by
  obtain ⟨call, hcall, hwritten⟩ := hid
  cases label with
  | call id' gateway parsed now =>
    obtain ⟨hnone, rfl⟩ := settingsStep_call lc h
    have hne : id ≠ id' := fun heq => by rw [heq, hnone] at hcall; cases hcall
    exact ⟨call, (update_of_ne hne _ _).trans hcall, hwritten⟩
  | advance id' fault =>
    obtain ⟨call', effect, hcall', heffect, rfl⟩ := settingsStep_advance lc h
    by_cases hne : id = id'
    · subst hne
      obtain rfl : call = call' := Option.some.inj (hcall.symm.trans hcall')
      have hread := hs.readable id ⟨call, hcall, hwritten⟩
      exact ⟨_, update_self _ _ _,
        written_of_fresh lc (hharmless call hcall) hread hwritten heffect⟩
    · exact ⟨call, (update_of_ne hne _ _).trans hcall, hwritten⟩

theorem written_of_not_quiet {effect : UpdateEffect}
    (h : advanceUpdate lc call files fault = some effect) :
    effect.Quiet lc call files ∨ effect.progress.written = true ∧ call.progress.checked = true := by
  rcases advanceUpdate_cases lc h with hquiet | ⟨stored, hprogress, -, rfl⟩ |
    ⟨data, secret, hprogress, -, rfl⟩ | ⟨data, secret, hprogress, -, rfl⟩
  · exact .inl hquiet
  all_goals exact .inr ⟨rfl, by rw [hprogress]; rfl⟩

theorem readable_effect {effect : UpdateEffect} (hharmless : HarmlessCall lc call files fault)
    (hread : call.progress.written = true → BothReadable files)
    (h : advanceUpdate lc call files fault = some effect)
    (hwritten : effect.progress.written = true) : BothReadable effect.files := by
  unfold HarmlessCall at hharmless
  rcases advanceUpdate_cases lc h with hquiet | ⟨stored, hprogress, hfault, rfl⟩ |
    ⟨data, secret, hprogress, -, rfl⟩ | ⟨data, secret, hprogress, -, rfl⟩
  · rw [hquiet.files_eq]
    exact hread (hquiet.written hwritten)
  · rw [hprogress] at hharmless
    exact ⟨⟨_, rfl⟩, (hharmless hfault).1⟩
  · exact ⟨(hread (by rw [hprogress]; rfl)).1, _, rfl⟩
  · exact ⟨(hread (by rw [hprogress]; rfl)).1, _, rfl⟩

theorem readable_keep {effect : UpdateEffect} (hread : BothReadable files)
    (h : advanceUpdate lc call files fault = some effect) : BothReadable effect.files := by
  rcases advanceUpdate_cases lc h with hquiet | ⟨stored, -, -, rfl⟩ | ⟨data, secret, -, -, rfl⟩ |
    ⟨data, secret, -, -, rfl⟩
  · rwa [hquiet.files_eq]
  · exact ⟨⟨_, rfl⟩, hread.2⟩
  · exact ⟨hread.1, _, rfl⟩
  · exact ⟨hread.1, _, rfl⟩

/-- **The step lemma.** -/
theorem SettingsSound.step {label : UpdateStep} (hs : SettingsSound lc start s)
    (hharmless : HarmlessStep lc s label) (h : settingsStep lc s label = some s') :
    SettingsSound lc start s' := by
  cases label with
  | call id gateway parsed now =>
    have howners := fun e he => standsAt_written lc hs hharmless h (hs.owners e he)
    obtain ⟨hnone, rfl⟩ := settingsStep_call lc h
    refine ⟨hs.slots, howners, fun id' hid' => ?_, fun id' call' hcall' hchecked => ?_⟩
    · obtain ⟨call', hcall', hwritten⟩ := hid'
      dsimp only at hcall'
      rw [update_apply] at hcall'
      split at hcall'
      · cases hcall'
        cases hwritten
      · exact hs.readable id' ⟨call', hcall', hwritten⟩
    · dsimp only at hcall'
      rw [update_apply] at hcall'
      split at hcall'
      · cases hcall'
        cases hchecked
      · exact hs.checked id' call' hcall' hchecked
  | advance id fault =>
    have howners := fun e he => standsAt_written lc hs hharmless h (hs.owners e he)
    obtain ⟨call, effect, hcall, heffect, rfl⟩ := settingsStep_advance lc h
    have hchecked := hs.checked id call hcall
    refine ⟨fun slot => ?_, fun e he => ?_, fun id' hid' =>
      ?_, fun id' call' hcall' hchecked' => ?_⟩
    · have hmap : ((effect.saved.map (fun e => (id, e)) ++ s.saved).map Prod.snd) =
          effect.saved ++ s.saved.map Prod.snd := by
        rw [List.map_append, List.map_map]
        exact congrArg (· ++ _) (List.map_id _)
      show readSlot lc effect.files slot = (lookupEntries slot (List.map Prod.snd _)).or _
      rw [hmap, lookupEntries_append, Option.or_assoc, ← hs.slots,
        readSlot_effect lc (hharmless call hcall) hchecked heffect]
    · rcases List.mem_append.mp he with he | he
      · obtain ⟨saved, hsaved, rfl⟩ := List.mem_map.mp he
        rcases written_of_not_quiet lc heffect with hquiet | ⟨hwritten, -⟩
        · rw [hquiet.saved_eq] at hsaved
          cases hsaved
        · exact ⟨_, update_self _ _ _, hwritten⟩
      · exact howners e he
    · obtain ⟨call', hcall', hwritten⟩ := hid'
      dsimp only at hcall'
      rw [update_apply] at hcall'
      split at hcall'
      · cases hcall'
        exact readable_effect lc (hharmless call hcall) (fun hw => hs.readable id ⟨call, hcall, hw⟩)
          heffect hwritten
      · exact readable_keep lc (hs.readable id' ⟨call', hcall', hwritten⟩) heffect
    · dsimp only at hcall'
      rw [update_apply] at hcall'
      split at hcall'
      · cases hcall'
        rcases written_of_not_quiet lc heffect with hquiet | ⟨-, hwas⟩
        · exact (hquiet.checked hchecked').elim hchecked fun hnames => hnames
        · exact hchecked hwas
      · exact hs.checked id' call' hcall' hchecked'

/-- **The run lemma.** -/
theorem SettingsSound.run (hs : SettingsSound lc start s)
    (hharmless : Along (settingsStep lc) (HarmlessStep lc) s steps)
    (h : execAll (settingsStep lc) s steps = some s') : SettingsSound lc start s' :=
  execAll_invariant (fun _ _ _ hs hharmless h => hs.step lc hharmless h) steps s s' hs hharmless h

theorem written_run (hs : SettingsSound lc start s) (hid : StandsAt s id (·.written = true))
    (hharmless : Along (settingsStep lc) (HarmlessStep lc) s steps)
    (h : execAll (settingsStep lc) s steps = some s') : StandsAt s' id (·.written = true) :=
  (execAll_invariant (I := fun s => SettingsSound lc start s ∧ StandsAt s id (·.written = true))
    (fun _ _ _ hs hharmless h =>
      ⟨hs.1.step lc hharmless h, standsAt_written lc hs.1 hharmless h hs.2⟩)
    steps s s' ⟨hs, hid⟩ hharmless h).2

theorem raisesLeaveFiles_of_fresh
    (hharmless : Along (settingsStep lc) (HarmlessStep lc) { files := start } steps) :
    RaisesLeaveFiles lc start steps := by
  rintro done id fault rest before after last rfl hbefore hafter hlast hraised
  obtain ⟨hdone, hharmless⟩ := hharmless.append hbefore
  have hs := (settingsSound_start lc start).run lc hdone hbefore
  have hs' := hs.step lc hharmless.1 hafter
  obtain ⟨call, effect, hcall, heffect, heq⟩ := settingsStep_advance lc hafter
  rcases written_of_not_quiet lc heffect with hquiet | ⟨hwritten, -⟩
  · rw [heq]
    exact hquiet.files_eq
  · -- a call that has written goes on to the end
    have hid : StandsAt after id (·.written = true) := by
      rw [heq]
      exact ⟨_, update_self _ _ _, hwritten⟩
    obtain ⟨call', hcall', hwritten'⟩ := written_run lc hs' hid (hharmless.2 after hafter) hlast
    obtain ⟨call'', hcall'', hraised⟩ := hraised
    obtain rfl : call' = call'' := Option.some.inj (hcall'.symm.trans hcall'')
    rw [hraised] at hwritten'
    cases hwritten'

theorem holdsSaved_of_sound (hs : SettingsSound lc start s)
    (hended : ∀ id call, s.calls id = some call → call.progress.ended) : HoldsSaved lc start s := by
  have hall : s.saved.filter (fun e => (s.calls e.1).any (·.progress = .returned)) = s.saved := by
    refine List.filter_eq_self.mpr fun e he => ?_
    obtain ⟨call, hcall, hwritten⟩ := hs.owners e he
    have hend := hended e.1 call hcall
    rw [hcall, Option.any_some]
    revert hwritten hend
    cases call.progress <;> simp [UpdateProgress.written, UpdateProgress.ended]
  intro slot
  rw [lastSaved, hall]
  exact hs.slots slot

/-- **Updates whose steps take over only what still stands, and do not fail once `config.json` is
written, are atomic, and none is lost.** -/
theorem updates_intact {start : SettingsFiles} {steps : List UpdateStep}
    (hharmless : Along (settingsStep lc) (HarmlessStep lc) { files := start } steps) :
    UpdatesIntact lc start steps := by
  refine ⟨raisesLeaveFiles_of_fresh lc hharmless, fun k s hs hended => ?_⟩
  rw [← List.take_append_drop k steps] at hharmless
  exact holdsSaved_of_sound lc ((settingsSound_start lc start).run lc (hharmless.append hs).1 hs)
    hended

end

/-! ### Instances -/

/-- `str.lower` for texts in ASCII. -/
def asciiLower : Lowercase where
  lower s := String.ofList (s.toList.map Char.toLower)
  lower_empty := by decide

def plainGateway : SettingsGateway where
  baseEnv := Dict.empty
  loggingProfiles := some ["normal"]
  baseUrlIssue _ := none

/-- An update of the section `llm` that brings a key. -/
def litellmUpdate : UpdateSettingsConfigPayload where
  llm := some
    { provider := "LiteLLM", model := "gpt-4o", baseUrl := none, apiKey := some "sk-1"
      provider_ne := by decide, model_ne := by decide }
  logging := none
  webSearch := none

/-- No configuration, and a key in the older layout. -/
def olderFiles : SettingsFiles where
  config := .missing
  secrets := .object (Dict.empty.set "llm"
    (.dict [("provider", .str "deepseek"), ("apiKey", .str "sk-0")]))

def undisturbedUpdate : List UpdateStep :=
  .call 0 plainGateway litellmUpdate DateTime.noon :: List.replicate 7 (.advance 0 false)

theorem updates_intact_undisturbed : UpdatesIntact asciiLower olderFiles undisturbedUpdate := by
  have hlegacy : LegacyFits asciiLower.lower olderFiles.secrets.data "litellm" := by
    intro legacy hlegacy _ hplace
    cases hlegacy
    cases hplace
  apply updates_intact
  refine along_cons trivial rfl (along_cons ?_ rfl (along_cons ?_ rfl (along_cons ?_ rfl
    (along_cons ?_ rfl (along_cons ?_ rfl (along_cons ?_ rfl (along_cons ?_ rfl trivial))))))) <;>
    intro call hcall <;> cases hcall
  · trivial
  · trivial
  · exact fun _ => ⟨⟨_, rfl⟩, fun _ _ => rfl⟩
  · exact fun _ => rfl
  · refine ⟨rfl, rfl, fun secret hsecret => ?_⟩
    cases hsecret
    exact ⟨hlegacy, fun _ _ => rfl⟩
  · exact fun h => absurd h Bool.false_ne_true
  · rfl

/-- An update whose key cannot be written raises when its sections are in `config.json`. -/
theorem half_written : ¬ UpdatesIntact asciiLower olderFiles
    [.call 0 plainGateway litellmUpdate DateTime.noon, .advance 0 false, .advance 0 false,
      .advance 0 false, .advance 0 false, .advance 0 true] := by
  intro h
  -- the step that writes `config.json`
  have hsame := h.1
    [.call 0 plainGateway litellmUpdate DateTime.noon, .advance 0 false, .advance 0 false] 0 false
    [.advance 0 false, .advance 0 true] _ _ _ rfl rfl rfl rfl ⟨_, rfl, rfl⟩
  cases congrArg SettingsFiles.config hsame

end Taskweavn
