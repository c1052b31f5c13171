import Taskweavn.RuntimeConfig.Secrets

/-!
# Whether changes compose

The current configuration of a scope is that of the base layers and of the changes that were
accepted for the scope, one layer for each.  The service never reads it: staleness, the no-op
decision and the snapshot are all taken from the base layers alone, so that each change is
judged, and shown, as if it were the first.

`composes_iff`: **a call does what the current configuration asks for exactly when the base
layers give the same answers**: the same staleness, the same no-op decision, and the same
value for every key that the patch does not set itself.
-/

namespace Taskweavn

open Lib Py

/-- The accepted changes of a scope as layers, oldest first. -/
def RuntimeConfigChangeStore.history (store : RuntimeConfigChangeStore)
    (scope : RuntimeConfigScope) : List RuntimeConfigLayer :=
  (store.changes.filter fun row => row.status == .accepted && row.scope == scope).map fun row =>
    runtimePatchLayer row.scope row.patchId row.acceptedValues

/-- The value of a key, as `_json_equivalent` compares it. -/
def docAt (values : Dict String EffectiveRuntimeConfigValue) (name : String) : Option PyValue :=
  (values.get? name).map fun effective => effective.value.sortedDoc

def RuntimeConfigChange.RejectedAsStale (change : RuntimeConfigChange) : Prop :=
  change.status = .rejected ∧ ∃ r ∈ change.rejectedValues.values, r.code = .staleBaseConfig

namespace RuntimeConfigMutationService

def resolveCurrent (svc : RuntimeConfigMutationService) (store : RuntimeConfigChangeStore)
    (scope : RuntimeConfigScope) : Except RuntimeConfigError EffectiveRuntimeConfig :=
  svc.resolver.resolve scope (svc.baseLayers ++ store.history scope)

/-- The value to which a key is set, if the requested one is accepted. -/
def acceptedValue (svc : RuntimeConfigMutationService) (scope : RuntimeConfigScope)
    (patchId name : String) (raw : PyValue) : Option PyValue :=
  match svc.keyVerdict scope patchId name raw with
  | .ok (.accepted value) => some value
  | _ => none

def setsTo (svc : RuntimeConfigMutationService) (patch : RuntimeConfigPatch) (name : String) :
    Option PyValue :=
  (patch.values.get? name).bind (svc.acceptedValue patch.scope patch.patchId name)

/-- The patch sets every key that it names, to the value that the key has already. -/
def Held (svc : RuntimeConfigMutationService) (patch : RuntimeConfigPatch)
    (values : Dict String EffectiveRuntimeConfigValue) : Prop :=
  ∀ name ∈ patch.values.keys, ∃ value, svc.setsTo patch name = some value ∧
    docAt values name = some value.sortedDoc

/-- The call returns such a change, and writes it. -/
def Records (store : RuntimeConfigChangeStore)
    (r : Except RuntimeConfigError RuntimeConfigChange × RuntimeConfigChangeStore)
    (p : RuntimeConfigChange → Prop) : Prop :=
  ∃ change, r.1 = .ok change ∧ r.2.changes = store.changes ++ [change.row] ∧ p change

/-- An accepted change comes with a snapshot that shows the current configuration, and over it
what the change sets. -/
def ShowsCurrent (svc : RuntimeConfigMutationService) (store : RuntimeConfigChangeStore)
    (patch : RuntimeConfigPatch)
    (r : Except RuntimeConfigError RuntimeConfigChange × RuntimeConfigChangeStore) : Prop :=
  ∀ change, r.1 = .ok change → change.status = .accepted → ∃ snapshot expected,
    r.2.snapshots = store.snapshots ++ [snapshot] ∧
      snapshot.createdByChangeId = some change.changeId ∧
      svc.resolver.resolve patch.scope (svc.baseLayers ++ (store.history patch.scope ++
        [runtimePatchLayer patch.scope patch.patchId change.acceptedValues])) = .ok expected ∧
      ∀ name, docAt snapshot.effectiveConfig.values name = docAt expected.values name

/-- **The call does what the current configuration asks for.** -/
structure Composes (svc : RuntimeConfigMutationService) (store : RuntimeConfigChangeStore)
    (patch : RuntimeConfigPatch) (readings : RuntimeConfigReadings)
    (current : EffectiveRuntimeConfig) : Prop where
  stale_iff : Records store (svc.applyPatch store patch readings)
    RuntimeConfigChange.RejectedAsStale ↔ stale patch current = true
  noOp_iff : Records store (svc.applyPatch store patch readings) (fun change =>
    change.status = .noOp) ↔ stale patch current = false ∧ svc.Held patch current.values
  snapshot : svc.ShowsCurrent store patch (svc.applyPatch store patch readings)

/-- The patch is neither stale nor a no-op, and enough of its values can be set. -/
structure Adopted (svc : RuntimeConfigMutationService) (patch : RuntimeConfigPatch)
    (base : EffectiveRuntimeConfig) : Prop where
  fresh : stale patch base = false
  noOverflow : ∀ e ∈ patch.values.entries, ¬svc.Overflows patch.scope e
  some_set : ∃ name, (svc.setsTo patch name).isSome = true
  all_set : patch.allowPartialAcceptance = true ∨
    ∀ name ∈ patch.values.keys, (svc.setsTo patch name).isSome = true
  news : ¬svc.Held patch base.values

/-- **The base layers answer for the current configuration.** -/
structure Orderly (svc : RuntimeConfigMutationService) (patch : RuntimeConfigPatch)
    (base current : EffectiveRuntimeConfig) : Prop where
  /-- The expected hash is that of both configurations, or of neither. -/
  hash : ∀ expected, patch.expectedBaseConfigHash = some expected →
    (expected = base.configHash ↔ expected = current.configHash)
  /-- The requested values are there already in both, or in neither. -/
  held : stale patch base = false → (svc.Held patch base.values ↔ svc.Held patch current.values)
  /-- Keys that the patch does not set have the same value in both. -/
  kept : svc.Adopted patch base → ∀ name, svc.setsTo patch name = none →
    docAt base.values name = docAt current.values name

variable {svc : RuntimeConfigMutationService} {scope : RuntimeConfigScope} {patchId name : String}
  {raw : PyValue} {verdict verdict' : PatchVerdict} {items : List (String × PyValue)}

/-! ### What the loop accepts -/

theorem acceptedValue_eq_some {value : PyValue} :
    svc.acceptedValue scope patchId name raw = some value ↔
      svc.keyVerdict scope patchId name raw = .ok (.accepted value) := by
  unfold acceptedValue
  split
  · next hv => simp [hv]
  · next hv => exact ⟨nofun, fun h => absurd h (hv value)⟩

theorem acceptedValues_add {v : KeyVerdict} (hv : svc.keyVerdict scope patchId name raw = .ok v)
    (n : String) : (verdict.add name v).acceptedValues.get? n =
      if name = n then (svc.acceptedValue scope patchId name raw).or (verdict.acceptedValues.get? n)
      else verdict.acceptedValues.get? n := by
  cases v with
  | accepted value =>
    rw [acceptedValue_eq_some.mpr hv]
    exact Dict.get?_set _ _ _ _
  | rejected r =>
    have hnone : svc.acceptedValue scope patchId name raw = none := by
      simp only [acceptedValue, hv]
    rw [hnone, Option.none_or, ite_self]
    rfl
  | redacted r =>
    have hnone : svc.acceptedValue scope patchId name raw = none := by
      simp only [acceptedValue, hv]
    rw [hnone, Option.none_or, ite_self]
    rfl

theorem rejectedValues_add {v : KeyVerdict} (hv : svc.keyVerdict scope patchId name raw = .ok v) :
    (verdict.add name v).rejectedValues.entries = [] ↔
      verdict.rejectedValues.entries = [] ∧
        (svc.acceptedValue scope patchId name raw).isSome = true := by
  have hset : ∀ r, (verdict.rejectedValues.set name r).entries ≠ [] := by
    intro r hnil
    have hmem := Dict.get?_eq_some_iff.mp (Dict.get?_set_self verdict.rejectedValues name r)
    rw [hnil] at hmem
    cases hmem
  cases v with
  | accepted value =>
    rw [acceptedValue_eq_some.mpr hv]
    simp [PatchVerdict.add]
  | rejected r => simp [PatchVerdict.add, hset, acceptedValue, hv]
  | redacted r => simp [PatchVerdict.add, hset, acceptedValue, hv]

theorem collect_acceptedValues : ∀ {items : List (String × PyValue)} {verdict : PatchVerdict},
    (items.map Prod.fst).Nodup → svc.collect scope patchId items verdict = .ok verdict' →
    verdict'.acceptedValues.get? name =
      ((lookupEntries name items).bind (svc.acceptedValue scope patchId name)).or
        (verdict.acceptedValues.get? name) := by
  intro items
  induction items with
  | nil =>
    intro verdict _ h
    cases h
    rfl
  | cons e items ih =>
    intro verdict hnodup h
    obtain ⟨n, raw⟩ := e
    rw [List.map_cons, List.nodup_cons] at hnodup
    obtain ⟨v, hv, h⟩ := bind_eq_ok.mp h
    rw [ih hnodup.2 h, acceptedValues_add hv, lookupEntries]
    by_cases hn : n = name
    · subst hn
      have hrest : lookupEntries n items = none := by
        rw [← Option.not_isSome_iff_eq_none, ← mem_keys_iff]
        exact hnodup.1
      rw [if_pos rfl, if_pos rfl, hrest]
      rfl
    · rw [if_neg hn, if_neg hn]

theorem collect_rejectedValues : ∀ {items : List (String × PyValue)} {verdict : PatchVerdict},
    svc.collect scope patchId items verdict = .ok verdict' →
    (verdict'.rejectedValues.entries = [] ↔ verdict.rejectedValues.entries = [] ∧
      ∀ e ∈ items, (svc.acceptedValue scope patchId e.1 e.2).isSome = true) := by
  intro items
  induction items with
  | nil =>
    intro verdict h
    cases h
    simp
  | cons e items ih =>
    intro verdict h
    obtain ⟨n, raw⟩ := e
    obtain ⟨v, hv, h⟩ := bind_eq_ok.mp h
    rw [ih h, rejectedValues_add hv, List.forall_mem_cons, and_assoc]

theorem keyVerdict_code {r : RuntimeConfigRejection}
    (hv : svc.keyVerdict scope patchId name raw = .ok (.rejected r) ∨
      svc.keyVerdict scope patchId name raw = .ok (.redacted r)) : r.code ≠ .staleBaseConfig := by
  intro hcode
  unfold keyVerdict at hv
  split at hv
  · rcases hv with hv | hv <;> cases hv
    cases hcode
  · split at hv
    · rcases hv with hv | hv <;> cases hv
      cases hcode
    · split at hv
      · rcases hv with hv | hv <;> cases hv
        cases hcode
      · split at hv
        · rcases hv with hv | hv <;> cases hv
          cases hcode
        · split at hv
          · rcases hv with hv | hv <;> cases hv
          · rcases hv with hv | hv <;> cases hv
            cases hcode
          · rcases hv with hv | hv <;> cases hv

theorem collect_codes : ∀ {items : List (String × PyValue)} {verdict : PatchVerdict},
    svc.collect scope patchId items verdict = .ok verdict' →
    (∀ r ∈ verdict.rejectedValues.values, r.code ≠ .staleBaseConfig) →
      ∀ r ∈ verdict'.rejectedValues.values, r.code ≠ .staleBaseConfig := by
  intro items
  induction items with
  | nil =>
    intro verdict h hcodes
    cases h
    exact hcodes
  | cons e items ih =>
    intro verdict h hcodes
    obtain ⟨n, raw⟩ := e
    obtain ⟨v, hv, h⟩ := bind_eq_ok.mp h
    refine ih h fun r hr => ?_
    cases v with
    | accepted value => exact hcodes r hr
    | rejected r' =>
      rcases Dict.mem_values_set hr with rfl | hr
      · exact keyVerdict_code (.inl hv)
      · exact hcodes r hr
    | redacted r' =>
      rcases Dict.mem_values_set hr with rfl | hr
      · exact keyVerdict_code (.inr hv)
      · exact hcodes r hr

/-! ### What becomes of a patch -/

section

variable {patch : RuntimeConfigPatch} {changeId : String} {baseConfig : EffectiveRuntimeConfig}
  {change : RuntimeConfigChange}

theorem collect_setsTo (h : svc.collect patch.scope patch.patchId patch.values.entries
      { requestedValues := patch.values } = .ok verdict) (name : String) :
    verdict.acceptedValues.get? name = svc.setsTo patch name := by
  rw [collect_acceptedValues patch.values.nodup h]
  exact Option.or_none

theorem collect_whole (h : svc.collect patch.scope patch.patchId patch.values.entries
      { requestedValues := patch.values } = .ok verdict) :
    verdict.rejectedValues.entries = [] ↔
      ∀ name ∈ patch.values.keys, (svc.setsTo patch name).isSome = true := by
  have hsets : ∀ e ∈ patch.values.entries, svc.setsTo patch e.1 =
      svc.acceptedValue patch.scope patch.patchId e.1 e.2 := by
    intro e he
    rw [setsTo, Dict.get?_eq_some_iff.mpr he]
    rfl
  rw [collect_rejectedValues h]
  constructor
  · rintro ⟨-, hall⟩ name hname
    obtain ⟨e, he, rfl⟩ := List.mem_map.mp hname
    rw [hsets e he]
    exact hall e he
  · refine fun hall => ⟨rfl, fun e he => ?_⟩
    rw [← hsets e he]
    exact hall e.1 (List.mem_map_of_mem he)

theorem patchIsNoOp_iff {accepted : Dict String PyValue} :
    patchIsNoOp baseConfig accepted = true ↔ ∀ name value, accepted.get? name = some value →
      docAt baseConfig.values name = some value.sortedDoc := by
  have hitem : ∀ e : String × PyValue, ((baseConfig.values.get? e.1).any fun current =>
      jsonEquivalent current.value e.2) = true ↔
        docAt baseConfig.values e.1 = some e.2.sortedDoc := by
    intro e
    rw [docAt]
    cases baseConfig.values.get? e.1 with
    | none => simp
    | some current => simp [jsonEquivalent]
  rw [patchIsNoOp, List.all_eq_true]
  constructor
  · intro h name value hget
    exact (hitem (name, value)).mp (h _ (Dict.get?_eq_some_iff.mp hget))
  · intro h e he
    exact (hitem e).mpr (h e.1 e.2 (Dict.get?_eq_some_iff.mpr he))

theorem held_iff (h : svc.collect patch.scope patch.patchId patch.values.entries
      { requestedValues := patch.values } = .ok verdict) :
    svc.Held patch baseConfig.values ↔ verdict.rejectedValues.entries = [] ∧
      patchIsNoOp baseConfig verdict.acceptedValues = true := by
  rw [collect_whole h, patchIsNoOp_iff]
  constructor
  · intro hheld
    constructor
    · intro name hname
      obtain ⟨value, hvalue, -⟩ := hheld name hname
      rw [hvalue]
      rfl
    · intro name value hget
      rw [collect_setsTo h] at hget
      have hname : name ∈ patch.values.keys := by
        obtain ⟨raw, hraw, -⟩ := Option.bind_eq_some_iff.mp hget
        rw [Dict.mem_keys, hraw]
        rfl
      obtain ⟨value', hvalue', hdoc⟩ := hheld name hname
      rw [hget] at hvalue'
      cases hvalue'
      exact hdoc
  · rintro ⟨hall, hdocs⟩ name hname
    obtain ⟨value, hvalue⟩ := Option.isSome_iff_exists.mp (hall name hname)
    exact ⟨value, hvalue, hdocs name value ((collect_setsTo h name).trans hvalue)⟩

theorem some_set_iff (h : svc.collect patch.scope patch.patchId patch.values.entries
      { requestedValues := patch.values } = .ok verdict) :
    (∃ name, (svc.setsTo patch name).isSome = true) ↔ verdict.acceptedValues.entries ≠ [] := by
  simp only [← collect_setsTo h, ← Dict.mem_keys]
  rw [Dict.keys]
  cases verdict.acceptedValues.entries with
  | nil => simp
  | cons e rest => exact iff_of_true ⟨e.1, List.mem_cons_self⟩ (List.cons_ne_nil _ _)

/-- **What a validated patch comes to.** -/
inductive Outcome (svc : RuntimeConfigMutationService) (patch : RuntimeConfigPatch)
    (baseConfig : EffectiveRuntimeConfig) (change : RuntimeConfigChange) : Prop
  | stale (hstale : stale patch baseConfig = true) (h : change.RejectedAsStale)
  | rejected (hfresh : RuntimeConfigMutationService.stale patch baseConfig = false)
      (hstatus : change.status = .rejected) (h : ¬change.RejectedAsStale)
      (hheld : ¬svc.Held patch baseConfig.values) (hadopted : ¬svc.Adopted patch baseConfig)
  | noOp (hfresh : RuntimeConfigMutationService.stale patch baseConfig = false)
      (hstatus : change.status = .noOp) (hheld : svc.Held patch baseConfig.values)
  | accepted (hstatus : change.status = .accepted) (hadopted : svc.Adopted patch baseConfig)
      (hvalues : ∀ name, change.acceptedValues.get? name = svc.setsTo patch name)
      (hpatch : change.scope = patch.scope ∧ change.patchId = patch.patchId)
      (candidate : EffectiveRuntimeConfig)
      (hcandidate : svc.resolveCandidate patch.scope patch.patchId change.acceptedValues =
        .ok candidate)

theorem not_rejectedAsStale (h : ∀ r ∈ change.rejectedValues.values, r.code ≠ .staleBaseConfig) :
    ¬change.RejectedAsStale := by
  rintro ⟨-, r, hr, hcode⟩
  exact h r hr hcode

theorem values_update {d : Dict String RuntimeConfigRejection} {p : RuntimeConfigRejection → Prop} :
    ∀ {items : List (String × RuntimeConfigRejection)}, (∀ e ∈ items, p e.2) →
      (∀ r ∈ d.values, p r) → ∀ r ∈ (d.update items).values, p r := by
  intro items
  induction items generalizing d with
  | nil => exact fun _ hd => hd
  | cons e items ih =>
    intro hitems hd
    rw [List.forall_mem_cons] at hitems
    refine ih (d := d.set e.1 e.2) hitems.2 fun r hr => ?_
    rcases Dict.mem_values_set hr with rfl | hr
    · exact hitems.1
    · exact hd r hr

theorem conclude_outcome (hfresh : stale patch baseConfig = false)
    (hover : ∀ e ∈ patch.values.entries, ¬svc.Overflows patch.scope e)
    (hc : svc.collect patch.scope patch.patchId patch.values.entries
      { requestedValues := patch.values } = .ok verdict)
    (h : svc.conclude patch changeId baseConfig verdict = .ok change) :
    svc.Outcome patch baseConfig change := by
  have hcodes := collect_codes hc (fun r hr => by cases hr)
  unfold conclude at h
  split at h
  · next hnone =>
    cases h
    refine .rejected hfresh rfl (not_rejectedAsStale hcodes) (fun hheld => ?_)
      fun hadopted => (some_set_iff hc).mp hadopted.some_set hnone
    cases hentries : patch.values.entries with
    | nil => exact patch.values_ne hentries
    | cons e rest =>
      have hname : e.1 ∈ patch.values.keys := by
        rw [Dict.keys, hentries]
        exact List.mem_cons_self
      obtain ⟨value, hvalue, -⟩ := hheld e.1 hname
      refine (some_set_iff hc).mp ⟨e.1, ?_⟩ hnone
      rw [hvalue]
      rfl
  · next hsome =>
    split at h
    · next hpolicy =>
      cases h
      refine .rejected hfresh rfl (not_rejectedAsStale ?_)
        (fun hheld => hpolicy.1 ((held_iff hc).mp hheld).1) fun hadopted => ?_
      · refine values_update (fun e he => ?_) hcodes
        obtain ⟨name, -, rfl⟩ := List.mem_map.mp he
        intro hcode
        cases hcode
      · rcases hadopted.all_set with hpartial | hall
        · rw [hpolicy.2] at hpartial
          cases hpartial
        · exact hpolicy.1 ((collect_whole hc).mpr hall)
    · next hpolicy =>
      split at h
      · next hnoOp =>
        cases h
        exact .noOp hfresh rfl ((held_iff hc).mpr hnoOp)
      · next hnews =>
        obtain ⟨candidate, hcandidate, h⟩ := bind_eq_ok.mp h
        cases h
        refine .accepted rfl ⟨hfresh, hover, (some_set_iff hc).mpr hsome, ?_,
          fun hheld => hnews ((held_iff hc).mp hheld)⟩ (collect_setsTo hc) ⟨rfl, rfl⟩ candidate
          hcandidate
        cases hpartial : patch.allowPartialAcceptance with
        | true => exact .inl rfl
        | false =>
          refine .inr ((collect_whole hc).mp ?_)
          by_contra hrejected
          exact hpolicy ⟨hrejected, hpartial⟩

theorem staleChange_rejectedAsStale : (staleChange patch changeId baseConfig).RejectedAsStale := by
  refine ⟨rfl, ?_⟩
  cases hentries : patch.values.entries with
  | nil => exact absurd hentries patch.values_ne
  | cons e rest =>
    refine ⟨staleBaseConfig (patch.expectedBaseConfigHash.getD "") baseConfig.configHash, ?_, rfl⟩
    rw [staleChange, rejectedChange, Dict.values_map, Dict.values, hentries]
    exact List.mem_cons_self

theorem validatePatch_outcome (hbase : svc.resolveBase patch.scope = .ok baseConfig)
    (h : svc.validatePatch patch changeId = .ok change) : svc.Outcome patch baseConfig change := by
  cases hstale : stale patch baseConfig with
  | true =>
    rw [validatePatch_stale hbase hstale] at h
    cases h
    exact .stale hstale staleChange_rejectedAsStale
  | false =>
    rw [validatePatch_fresh hbase hstale] at h
    obtain ⟨verdict, hc, h⟩ := bind_eq_ok.mp h
    have hresolves : svc.BaseResolves := RuntimeConfigResolver.resolve_isOk.mp ⟨_, hbase⟩
    refine conclude_outcome hstale (fun e he hover => ?_) hc h
    rw [collect_overflow hresolves ⟨e, he, hover⟩] at hc
    cases hc

theorem setsTo_of_overflows (hbase : svc.BaseResolves) {e : String × PyValue}
    (he : e ∈ patch.values.entries) (hover : svc.Overflows patch.scope e) :
    svc.setsTo patch e.1 = none := by
  obtain ⟨name, raw⟩ := e
  rcases keyVerdict_cases hbase patch.scope patch.patchId name raw with ⟨-, hv⟩ | ⟨hno, -⟩
  · rw [setsTo, Dict.get?_eq_some_iff.mpr he, Option.bind_some]
    simp only [acceptedValue, hv]
  · exact absurd hover hno

theorem validatePatch_raises (hbase : svc.resolveBase patch.scope = .ok baseConfig)
    {e : RuntimeConfigError} (h : svc.validatePatch patch changeId = .error e) :
    stale patch baseConfig = false ∧ ¬svc.Held patch baseConfig.values ∧
      ¬svc.Adopted patch baseConfig := by
  have hresolves : svc.BaseResolves := RuntimeConfigResolver.resolve_isOk.mp ⟨_, hbase⟩
  have hno : ¬(stale patch baseConfig = true ∨
      ∀ e ∈ patch.values.entries, ¬svc.Overflows patch.scope e) := by
    intro hok
    obtain ⟨change, hchange⟩ := validatePatch_isOk changeId hbase hok
    rw [h] at hchange
    cases hchange
  rw [not_or, Bool.not_eq_true] at hno
  obtain ⟨hfresh, hover⟩ := hno
  refine ⟨hfresh, fun hheld => hover fun e he ho => ?_, fun hadopted => hover hadopted.noOverflow⟩
  obtain ⟨value, hvalue, -⟩ := hheld e.1 (List.mem_map_of_mem he)
  rw [setsTo_of_overflows hresolves he ho] at hvalue
  cases hvalue

end

/-! ### What is written -/

section

variable {store : RuntimeConfigChangeStore} {patch : RuntimeConfigPatch}
  {readings : RuntimeConfigReadings} {base current : EffectiveRuntimeConfig}
  {change : RuntimeConfigChange}

def snapshotIdOf (changeId : String) : String := "runtime_config_snapshot:" ++ changeId

theorem snapshotIdOf_inj {changeId changeId' : String} :
    snapshotIdOf changeId = snapshotIdOf changeId' ↔ changeId = changeId' :=
  String.append_right_inj _

/-- The call is a new one for the ledger. -/
structure Free (store : RuntimeConfigChangeStore) (patch : RuntimeConfigPatch)
    (readings : RuntimeConfigReadings) : Prop where
  durable : patch.dryRun = false
  unrecorded : replayed store patch = none
  unused : store.taken readings.changeId patch.idempotencyKey patch.scope = false
  unshown : ∀ row ∈ store.snapshots, row.snapshotId ≠ snapshotIdOf readings.changeId

theorem snapshotForChange_ok (now : DateTime) (hbase : svc.resolveBase patch.scope = .ok base)
    (hscope : change.scope = patch.scope) (h : svc.Outcome patch base change) :
    ∃ snapshot, svc.snapshotForChange change now = .ok snapshot ∧
      ∀ row ∈ snapshot, row.snapshotId = snapshotIdOf change.changeId := by
  have hrejected : change.status = .rejected → svc.snapshotForChange change now = .ok none := by
    intro hstatus
    simp only [snapshotForChange, hstatus]
  cases h with
  | stale _ h => exact ⟨none, hrejected h.1, fun _ hrow => by cases hrow⟩
  | rejected _ hstatus => exact ⟨none, hrejected hstatus, fun _ hrow => by cases hrow⟩
  | noOp _ hstatus =>
    rw [← hscope] at hbase
    simp only [snapshotForChange, hstatus, hbase, Except.map]
    exact ⟨_, rfl, fun row hrow => by cases hrow; rfl⟩
  | accepted hstatus _ _ hpatch candidate hcandidate =>
    rw [← hpatch.1, ← hpatch.2] at hcandidate
    simp only [snapshotForChange, hstatus, hcandidate, Except.map]
    exact ⟨_, rfl, fun row hrow => by cases hrow; rfl⟩

/-- **A new call that does not raise** writes its change, and its snapshot. -/
theorem applyPatch_recorded (hfree : Free store patch readings)
    (h : svc.validatePatch patch readings.changeId = .ok change)
    {snapshot : Option RuntimeConfigSnapshotRecord}
    (hsnapshot : svc.snapshotForChange change readings.now = .ok snapshot)
    (hid : ∀ row ∈ snapshot, row.snapshotId = snapshotIdOf change.changeId) :
    svc.applyPatch store patch readings = (.ok change,
      { changes := store.changes ++ [change.row]
        snapshots := store.snapshots ++ snapshot.toList }) := by
  obtain ⟨hchangeId, hkey, hscope⟩ := validatePatch_ids h
  have happend : store.appendChange change =
      .ok { store with changes := store.changes ++ [change.row] } := by
    rw [RuntimeConfigChangeStore.appendChange, hchangeId, hkey, hscope, hfree.unused]
    rfl
  rw [applyPatch_ok hfree.unrecorded h, hfree.durable, if_neg Bool.false_ne_true]
  simp only [record, happend, hsnapshot]
  cases snapshot with
  | none => simp
  | some row =>
    have hnew : (store.snapshots.any fun s => s.snapshotId == row.snapshotId) = false := by
      rw [List.any_eq_false]
      intro s hs hid'
      rw [hid row rfl, hchangeId] at hid'
      exact hfree.unshown s hs (by simpa using hid')
    simp only [RuntimeConfigChangeStore.saveSnapshot, hnew]
    rfl

theorem records_iff (hfree : Free store patch readings)
    (hbase : svc.resolveBase patch.scope = .ok base)
    (h : svc.validatePatch patch readings.changeId = .ok change)
    {p : RuntimeConfigChange → Prop} :
    Records store (svc.applyPatch store patch readings) p ↔ p change := by
  obtain ⟨snapshot, hsnapshot, hid⟩ := snapshotForChange_ok readings.now hbase
    (validatePatch_ids h).2.2 (validatePatch_outcome hbase h)
  rw [applyPatch_recorded hfree h hsnapshot hid]
  constructor
  · rintro ⟨change', hchange', -, hp⟩
    cases hchange'
    exact hp
  · exact fun hp => ⟨change, rfl, rfl, hp⟩

theorem not_records (hfree : Free store patch readings) {e : RuntimeConfigError}
    (h : svc.validatePatch patch readings.changeId = .error e)
    {p : RuntimeConfigChange → Prop} :
    ¬Records store (svc.applyPatch store patch readings) p := by
  rw [applyPatch_error hfree.unrecorded h]
  rintro ⟨change, hchange, -⟩
  cases hchange

/-! ### What the service decides -/

theorem records_stale_iff (hfree : Free store patch readings)
    (hbase : svc.resolveBase patch.scope = .ok base) :
    Records store (svc.applyPatch store patch readings) RuntimeConfigChange.RejectedAsStale ↔
      stale patch base = true := by
  cases h : svc.validatePatch patch readings.changeId with
  | error e =>
    rw [(validatePatch_raises hbase h).1]
    exact iff_of_false (not_records hfree h) Bool.false_ne_true
  | ok change =>
    rw [records_iff hfree hbase h]
    cases validatePatch_outcome hbase h with
    | stale hstale h => exact iff_of_true h hstale
    | rejected hfresh _ h =>
      rw [hfresh]
      exact iff_of_false h Bool.false_ne_true
    | noOp hfresh hstatus =>
      rw [hfresh]
      refine iff_of_false (fun h => ?_) Bool.false_ne_true
      rw [h.1] at hstatus
      cases hstatus
    | accepted hstatus hadopted =>
      rw [hadopted.fresh]
      refine iff_of_false (fun h => ?_) Bool.false_ne_true
      rw [h.1] at hstatus
      cases hstatus

theorem records_noOp_iff (hfree : Free store patch readings)
    (hbase : svc.resolveBase patch.scope = .ok base) :
    Records store (svc.applyPatch store patch readings) (fun change => change.status = .noOp) ↔
      stale patch base = false ∧ svc.Held patch base.values := by
  cases h : svc.validatePatch patch readings.changeId with
  | error e =>
    exact iff_of_false (not_records hfree h) fun hheld => (validatePatch_raises hbase h).2.1 hheld.2
  | ok change =>
    rw [records_iff hfree hbase h]
    cases validatePatch_outcome hbase h with
    | stale hstale h =>
      rw [h.1, hstale]
      simp
    | rejected _ hstatus _ hheld =>
      rw [hstatus]
      exact iff_of_false (by decide) fun h => hheld h.2
    | noOp hfresh hstatus hheld => exact iff_of_true hstatus ⟨hfresh, hheld⟩
    | accepted hstatus hadopted =>
      rw [hstatus]
      exact iff_of_false (by decide) fun h => hadopted.news h.2

theorem get?_congr {layers patches patches' : List RuntimeConfigLayer}
    {values values' : Dict String EffectiveRuntimeConfigValue}
    (hp : ∀ layer ∈ patches, layer.source.priority = runtimePatchPriority)
    (hp' : ∀ layer ∈ patches', layer.source.priority = runtimePatchPriority)
    (hvalues : svc.resolver.resolveValues (layers ++ patches) = .ok values)
    (hvalues' : svc.resolver.resolveValues (layers ++ patches') = .ok values')
    (hgiven : RuntimeConfigResolver.given name patches =
      RuntimeConfigResolver.given name patches') : values.get? name = values'.get? name := by
  obtain ⟨⟨defaults, hdefaults⟩, -⟩ := RuntimeConfigResolver.resolveValues_isOk.mp ⟨_, hvalues⟩
  rw [RuntimeConfigResolver.resolveValues_get? hdefaults hvalues,
    RuntimeConfigResolver.resolveValues_get? hdefaults hvalues',
    RuntimeConfigResolver.given_normalizedLayers_append hp,
    RuntimeConfigResolver.given_normalizedLayers_append hp', hgiven]

theorem history_priority {scope : RuntimeConfigScope} :
    ∀ layer ∈ store.history scope, layer.source.priority = runtimePatchPriority := by
  intro layer hlayer
  obtain ⟨row, -, rfl⟩ := List.mem_map.mp hlayer
  rfl

/-- A patch on top of the base layers shows the same as on top of the current configuration,
when the keys that it does not set show the same in both. -/
theorem docAt_patched_iff {accepted : Dict String PyValue}
    {candidate expected : EffectiveRuntimeConfig}
    (hbase : svc.resolveBase patch.scope = .ok base)
    (hcurrent : svc.resolveCurrent store patch.scope = .ok current)
    (hcandidate : svc.resolveCandidate patch.scope patch.patchId accepted = .ok candidate)
    (hexpected : svc.resolver.resolve patch.scope (svc.baseLayers ++ (store.history patch.scope ++
      [runtimePatchLayer patch.scope patch.patchId accepted])) = .ok expected) :
    (∀ name, docAt candidate.values name = docAt expected.values name) ↔
      ∀ name, accepted.get? name = none →
        docAt base.values name = docAt current.values name := by
  have hlayer : ∀ layer ∈ [runtimePatchLayer patch.scope patch.patchId accepted],
      layer.source.priority = runtimePatchPriority := by
    intro layer hlayer
    rw [List.mem_singleton.mp hlayer]
    rfl
  have hboth : ∀ layer ∈ store.history patch.scope ++
      [runtimePatchLayer patch.scope patch.patchId accepted],
      layer.source.priority = runtimePatchPriority := by
    intro layer hmem
    rcases List.mem_append.mp hmem with hmem | hmem
    · exact history_priority layer hmem
    · exact hlayer layer hmem
  have hbase' : svc.resolver.resolveValues (svc.baseLayers ++ []) = .ok base.values := by
    rw [List.append_nil]
    exact (RuntimeConfigResolver.resolve_ok hbase).1
  have hcurrent' := (RuntimeConfigResolver.resolve_ok hcurrent).1
  have hcandidate' := (RuntimeConfigResolver.resolve_ok hcandidate).1
  have hexpected' := (RuntimeConfigResolver.resolve_ok hexpected).1
  have hunset : ∀ name, accepted.get? name = none →
      docAt candidate.values name = docAt base.values name ∧
        docAt expected.values name = docAt current.values name := by
    intro name hnone
    have hgiven : RuntimeConfigResolver.given name
        [runtimePatchLayer patch.scope patch.patchId accepted] = none := by
      rw [RuntimeConfigResolver.given, runtimePatchLayer, hnone]
      rfl
    constructor
    · rw [docAt, docAt, get?_congr hlayer (fun _ h => by cases h) hcandidate' hbase' hgiven]
    · rw [docAt, docAt, get?_congr hboth history_priority hexpected' hcurrent' ?_]
      rw [RuntimeConfigResolver.given_append, hgiven]
      rfl
  have hset : ∀ name value, accepted.get? name = some value →
      docAt candidate.values name = docAt expected.values name := by
    intro name value hvalue
    have hgiven : RuntimeConfigResolver.given name
        [runtimePatchLayer patch.scope patch.patchId accepted] =
          some ((runtimePatchLayer patch.scope patch.patchId accepted).source, value) := by
      rw [RuntimeConfigResolver.given, runtimePatchLayer, hvalue]
      rfl
    rw [docAt, docAt, get?_congr hlayer hboth hcandidate' hexpected' ?_]
    rw [RuntimeConfigResolver.given_append, hgiven]
    rfl
  constructor
  · intro hall name hnone
    rw [← (hunset name hnone).1, ← (hunset name hnone).2]
    exact hall name
  · intro hkept name
    cases hget : accepted.get? name with
    | none => rw [(hunset name hget).1, (hunset name hget).2, hkept name hget]
    | some value => exact hset name value hget

theorem resolve_patched {accepted : Dict String PyValue} {candidate : EffectiveRuntimeConfig}
    (hcurrent : svc.resolveCurrent store patch.scope = .ok current)
    (hcandidate : svc.resolveCandidate patch.scope patch.patchId accepted = .ok candidate) :
    ∃ expected, svc.resolver.resolve patch.scope (svc.baseLayers ++ (store.history patch.scope ++
      [runtimePatchLayer patch.scope patch.patchId accepted])) = .ok expected := by
  have hcurrent' := RuntimeConfigResolver.resolve_isOk.mp ⟨_, hcurrent⟩
  have hcandidate' := RuntimeConfigResolver.resolve_isOk.mp ⟨_, hcandidate⟩
  obtain ⟨hdefaults, hlayers⟩ := RuntimeConfigResolver.resolveValues_isOk.mp hcurrent'
  obtain ⟨-, hlayer⟩ := RuntimeConfigResolver.resolveValues_isOk.mp hcandidate'
  refine RuntimeConfigResolver.resolve_isOk.mpr (RuntimeConfigResolver.resolveValues_isOk.mpr
    ⟨hdefaults, fun layer hmem => ?_⟩)
  rw [← List.append_assoc] at hmem
  rcases List.mem_append.mp hmem with hmem | hmem
  · exact hlayers layer hmem
  · exact hlayer layer (List.mem_append_right _ hmem)

theorem snapshot_iff (hfree : Free store patch readings)
    (hbase : svc.resolveBase patch.scope = .ok base)
    (hcurrent : svc.resolveCurrent store patch.scope = .ok current) :
    svc.ShowsCurrent store patch (svc.applyPatch store patch readings) ↔
      (svc.Adopted patch base → ∀ name, svc.setsTo patch name = none →
        docAt base.values name = docAt current.values name) := by
  cases h : svc.validatePatch patch readings.changeId with
  | error e =>
    rw [applyPatch_error hfree.unrecorded h]
    exact iff_of_true (fun _ hchange => by cases hchange)
      fun hadopted => absurd hadopted (validatePatch_raises hbase h).2.2
  | ok change =>
    have houtcome := validatePatch_outcome hbase h
    obtain ⟨snapshot, hsnapshot, hid⟩ := snapshotForChange_ok readings.now hbase
      (validatePatch_ids h).2.2 houtcome
    have happly := applyPatch_recorded hfree h hsnapshot hid
    have hother : change.status ≠ .accepted → ¬svc.Adopted patch base →
        (svc.ShowsCurrent store patch (svc.applyPatch store patch readings) ↔
          (svc.Adopted patch base → ∀ name, svc.setsTo patch name = none →
            docAt base.values name = docAt current.values name)) := by
      intro hstatus hadopted
      refine iff_of_true (fun change' hchange' hstatus' => ?_) fun h => absurd h hadopted
      rw [happly] at hchange'
      cases hchange'
      exact absurd hstatus' hstatus
    cases houtcome with
    | stale hstale h =>
      refine hother (by rw [h.1]; decide) fun hadopted => ?_
      rw [hadopted.fresh] at hstale
      cases hstale
    | rejected _ hstatus _ _ hadopted => exact hother (by rw [hstatus]; decide) hadopted
    | noOp _ hstatus hheld =>
      exact hother (by rw [hstatus]; decide) fun hadopted => hadopted.news hheld
    | accepted hstatus hadopted hvalues hpatch candidate hcandidate =>
      have hshown : snapshot = some ⟨snapshotIdOf change.changeId, candidate.configHash,
          change.scope, candidate, some change.changeId, readings.now⟩ := by
        rw [← hpatch.1, ← hpatch.2] at hcandidate
        simp only [snapshotForChange, hstatus, hcandidate, Except.map] at hsnapshot
        exact (Except.ok.inj hsnapshot).symm
      simp only [← hvalues]
      rw [happly]
      constructor
      · intro hshow _
        obtain ⟨row, expected, hrow, -, hexpected, hdocs⟩ := hshow change rfl hstatus
        rw [hshown] at hrow
        obtain rfl := (List.cons.inj (List.append_cancel_left hrow)).1
        exact (docAt_patched_iff hbase hcurrent hcandidate hexpected).mp hdocs
      · intro hkept change' hchange' _
        cases hchange'
        obtain ⟨expected, hexpected⟩ := resolve_patched hcurrent hcandidate
        refine ⟨_, expected, by rw [hshown]; rfl, rfl, hexpected, ?_⟩
        exact (docAt_patched_iff hbase hcurrent hcandidate hexpected).mpr (hkept hadopted)

theorem stale_congr_iff : (stale patch base = true ↔ stale patch current = true) ↔
    ∀ expected, patch.expectedBaseConfigHash = some expected →
      (expected = base.configHash ↔ expected = current.configHash) := by
  unfold stale
  cases patch.expectedBaseConfigHash with
  | none => simp
  | some expected => simp [not_iff_not]

/-- **A new call composes exactly when the base layers answer for the current configuration.** -/
theorem composes_iff_of_free (hfree : Free store patch readings)
    (hbase : svc.resolveBase patch.scope = .ok base)
    (hcurrent : svc.resolveCurrent store patch.scope = .ok current) :
    svc.Composes store patch readings current ↔ svc.Orderly patch base current := by
  have hfreshIff : (stale patch base = true ↔ stale patch current = true) →
      stale patch base = stale patch current := Bool.eq_iff_iff.mpr
  constructor
  · intro h
    have hstale : stale patch base = true ↔ stale patch current = true :=
      (records_stale_iff hfree hbase).symm.trans h.stale_iff
    refine ⟨stale_congr_iff.mp hstale, fun hfresh => ?_, (snapshot_iff hfree hbase hcurrent).mp
      h.snapshot⟩
    have hheld := (records_noOp_iff hfree hbase).symm.trans h.noOp_iff
    rw [← hfreshIff hstale] at hheld
    simpa [hfresh] using hheld
  · intro h
    have hstale := stale_congr_iff.mpr h.hash
    refine ⟨(records_stale_iff hfree hbase).trans hstale, (records_noOp_iff hfree hbase).trans ?_,
      (snapshot_iff hfree hbase hcurrent).mpr h.kept⟩
    rw [← hfreshIff hstale]
    exact and_congr_right h.held

end

/-! ### Runs -/

/-- The calls one after the other, each with the ledger that it finds. -/
def found (svc : RuntimeConfigMutationService) : RuntimeConfigChangeStore →
    List (RuntimeConfigPatch × RuntimeConfigReadings) →
      List (RuntimeConfigChangeStore × RuntimeConfigPatch × RuntimeConfigReadings)
  | _, [] => []
  | store, call :: calls =>
    (store, call) :: found svc (svc.applyPatch store call.1 call.2).2 calls

/-- No call is a dry run, and each has its own key and draws its own id. -/
structure Distinct (calls : List (RuntimeConfigPatch × RuntimeConfigReadings)) : Prop where
  durable : ∀ call ∈ calls, call.1.dryRun = false
  keys : (calls.filterMap fun call => call.1.idempotencyKey).Nodup
  ids : (calls.map fun call => call.2.changeId).Nodup

/-- What the ledger holds comes from these calls, and can be laid over the base layers. -/
structure Behind (svc : RuntimeConfigMutationService)
    (calls : List (RuntimeConfigPatch × RuntimeConfigReadings))
    (store : RuntimeConfigChangeStore) : Prop where
  changes : ∀ row ∈ store.changes, ∃ call ∈ calls,
    row.changeId = call.2.changeId ∧ row.idempotencyKey = call.1.idempotencyKey
  snapshots : ∀ row ∈ store.snapshots, ∃ call ∈ calls,
    row.snapshotId = snapshotIdOf call.2.changeId
  takes : ∀ row ∈ store.changes, row.status = .accepted →
    ∀ e ∈ row.acceptedValues.entries, svc.resolver.Takes e

section

variable {store : RuntimeConfigChangeStore} {patch : RuntimeConfigPatch}
  {readings : RuntimeConfigReadings} {change : RuntimeConfigChange}
  {calls earlier : List (RuntimeConfigPatch × RuntimeConfigReadings)}

theorem behind_nil : svc.Behind [] {} where
  changes row hrow := by cases hrow
  snapshots row hrow := by cases hrow
  takes row hrow := by cases hrow

theorem Behind.mono (h : svc.Behind earlier store)
    (call : RuntimeConfigPatch × RuntimeConfigReadings) :
    svc.Behind (earlier ++ [call]) store := by
  refine ⟨fun row hrow => ?_, fun row hrow => ?_, h.takes⟩
  · obtain ⟨c, hc, hids⟩ := h.changes row hrow
    exact ⟨c, List.mem_append_left _ hc, hids⟩
  · obtain ⟨c, hc, hid⟩ := h.snapshots row hrow
    exact ⟨c, List.mem_append_left _ hc, hid⟩

theorem Behind.free (h : svc.Behind earlier store)
    (hdistinct : Distinct (earlier ++ (patch, readings) :: calls)) :
    Free store patch readings := by
  have hid : ∀ call ∈ earlier, call.2.changeId ≠ readings.changeId := by
    intro call hcall heq
    have hnodup := hdistinct.ids
    rw [List.map_append, List.nodup_append] at hnodup
    exact hnodup.2.2 _ (List.mem_map_of_mem hcall) _ (List.mem_map_of_mem List.mem_cons_self) heq
  have hkey : ∀ call ∈ earlier, ∀ key, call.1.idempotencyKey = some key →
      patch.idempotencyKey ≠ some key := by
    intro call hcall key hcallKey hpatchKey
    have hnodup := hdistinct.keys
    rw [List.filterMap_append, List.nodup_append] at hnodup
    exact hnodup.2.2 key (List.mem_filterMap.mpr ⟨call, hcall, hcallKey⟩) key
      (List.mem_filterMap.mpr ⟨_, List.mem_cons_self, hpatchKey⟩) rfl
  refine ⟨hdistinct.durable (patch, readings) (by simp), ?_, ?_, ?_⟩
  · rw [replayed]
    cases hpatchKey : patch.idempotencyKey with
    | none => rfl
    | some key =>
      have hnone : (store.changes.filter fun row =>
          row.idempotencyKey == some key && row.scope == patch.scope) = [] := by
        refine List.filter_eq_nil_iff.mpr fun row hrow hmatch => ?_
        rw [Bool.and_eq_true, beq_iff_eq] at hmatch
        obtain ⟨call, hcall, -, hcallKey⟩ := h.changes row hrow
        exact hkey call hcall key (hcallKey.symm.trans hmatch.1) hpatchKey
      rw [Option.bind_some, RuntimeConfigChangeStore.getChangeByIdempotencyKey, hnone]
      rfl
  · refine List.any_eq_false.mpr fun row hrow htaken => ?_
    obtain ⟨call, hcall, hcallId, hcallKey⟩ := h.changes row hrow
    rw [Bool.or_eq_true, Bool.and_eq_true, Bool.and_eq_true, beq_iff_eq, beq_iff_eq] at htaken
    rcases htaken with hsame | ⟨⟨hsome, hsame⟩, -⟩
    · exact hid call hcall (hcallId.symm.trans hsame)
    · obtain ⟨key, hpatchKey⟩ := Option.isSome_iff_exists.mp hsome
      exact hkey call hcall key (hcallKey.symm.trans (hsame.trans hpatchKey)) hpatchKey
  · intro row hrow heq
    obtain ⟨call, hcall, hcallId⟩ := h.snapshots row hrow
    exact hid call hcall (snapshotIdOf_inj.mp (hcallId.symm.trans heq))

theorem normalizeTyped_sortedDoc {P : RuntimeConfigPrimitives} {type : RuntimeConfigValueType}
    {value normal : PyValue} (h : normalizeTyped P name type value = .ok normal) :
    ∃ again, normalizeTyped P name type value.sortedDoc = .ok again := by
  have htexts : ∀ {values : List PyValue}, allTexts values = true →
      allTexts (PyValue.sortedDocs values) = true := by
    intro values hvalues
    induction values with
    | nil => rfl
    | cons v values ih =>
      rw [allTexts, List.all_cons, Bool.and_eq_true] at hvalues
      rw [PyValue.sortedDocs, allTexts, List.all_cons, Bool.and_eq_true]
      refine ⟨?_, ih hvalues.2⟩
      cases v with
      | str s => rfl
      | _ => cases hvalues.1
  unfold normalizeTyped at h
  split at h
  case h_11 | h_12 =>
    split at h
    · next hall => exact ⟨_, by rw [PyValue.sortedDoc, normalizeTyped, if_pos (htexts hall)]⟩
    · cases h
  case h_7 =>
    split at h
    · next x hfloat => exact ⟨.float x, by simp only [PyValue.sortedDoc, normalizeTyped, hfloat]⟩
    · cases h
  case h_1 => exact ⟨.none, by simp only [PyValue.sortedDoc, normalizeTyped]⟩
  all_goals cases h
  all_goals exact ⟨_, rfl⟩

theorem takes_sortedDict {values : Dict String PyValue}
    (h : ∀ e ∈ values.entries, svc.resolver.Takes e) :
    ∀ e ∈ (PyValue.sortedDict values).entries, svc.resolver.Takes e := by
  rintro ⟨name, doc⟩ he
  have hget := Dict.get?_eq_some_iff.mpr he
  rw [PyValue.get?_sortedDict, Option.map_eq_some_iff] at hget
  obtain ⟨value, hvalue, rfl⟩ := hget
  obtain ⟨key, normal, hkey, hnormal⟩ := h _ (Dict.get?_eq_some_iff.mp hvalue)
  obtain ⟨again, hagain⟩ := normalizeTyped_sortedDoc hnormal
  exact ⟨key, again, hkey, hagain⟩

theorem takes_of_validatePatch (h : svc.validatePatch patch readings.changeId = .ok change)
    (hstatus : change.status = .accepted) :
    ∀ e ∈ change.acceptedValues.entries, svc.resolver.Takes e := by
  obtain ⟨base, hbase, -⟩ := bind_eq_ok.mp h
  cases validatePatch_outcome hbase h with
  | stale _ h =>
    rw [h.1] at hstatus
    cases hstatus
  | rejected _ hstatus' =>
    rw [hstatus'] at hstatus
    cases hstatus
  | noOp _ hstatus' =>
    rw [hstatus'] at hstatus
    cases hstatus
  | accepted _ _ _ _ candidate hcandidate =>
    have hresolves := RuntimeConfigResolver.resolve_isOk.mp ⟨_, hcandidate⟩
    exact (RuntimeConfigResolver.resolveValues_isOk.mp hresolves).2 _
      (List.mem_append_right _ List.mem_cons_self)

/-- **One call.** -/
theorem Behind.step (h : svc.Behind earlier store)
    (hdistinct : Distinct (earlier ++ (patch, readings) :: calls)) :
    svc.Behind (earlier ++ [(patch, readings)]) (svc.applyPatch store patch readings).2 := by
  have hfree := h.free hdistinct
  cases hc : svc.validatePatch patch readings.changeId with
  | error e =>
    rw [applyPatch_error hfree.unrecorded hc]
    exact h.mono _
  | ok change =>
    obtain ⟨base, hbase, -⟩ := bind_eq_ok.mp hc
    obtain ⟨hid, hkey, hscope⟩ := validatePatch_ids hc
    obtain ⟨snapshot, hsnapshot, hsnapshotId⟩ := snapshotForChange_ok readings.now hbase hscope
      (validatePatch_outcome hbase hc)
    rw [applyPatch_recorded hfree hc hsnapshot hsnapshotId]
    have hearlier := h.mono (patch, readings)
    have hnew : (patch, readings) ∈ earlier ++ [(patch, readings)] := by simp
    refine ⟨fun row hrow => ?_, fun row hrow => ?_, fun row hrow hstatus => ?_⟩
    · rcases List.mem_append.mp hrow with hrow | hrow
      · exact hearlier.changes row hrow
      · rw [List.mem_singleton.mp hrow]
        exact ⟨_, hnew, hid, hkey⟩
    · rcases List.mem_append.mp hrow with hrow | hrow
      · exact hearlier.snapshots row hrow
      · refine ⟨_, hnew, ?_⟩
        rw [hsnapshotId row (Option.mem_toList.mp hrow), hid]
    · rcases List.mem_append.mp hrow with hrow | hrow
      · exact h.takes row hrow hstatus
      · rw [List.mem_singleton.mp hrow] at hstatus ⊢
        exact takes_sortedDict (takes_of_validatePatch hc hstatus)

/-- **A run of calls.** -/
theorem behind_of_found : ∀ {calls earlier : List (RuntimeConfigPatch × RuntimeConfigReadings)}
    {store : RuntimeConfigChangeStore}, svc.Behind earlier store →
    Distinct (earlier ++ calls) → ∀ e ∈ svc.found store calls, ∃ before after,
      earlier ++ calls = before ++ e.2 :: after ∧ svc.Behind before e.1 := by
  intro calls
  induction calls with
  | nil => exact fun _ _ _ he => by cases he
  | cons call calls ih =>
    intro earlier store hbehind hdistinct e he
    rcases List.mem_cons.mp he with rfl | he
    · exact ⟨earlier, calls, rfl, hbehind⟩
    · have hstep := hbehind.step hdistinct
      have happend : earlier ++ call :: calls = earlier ++ [call] ++ calls := by
        rw [List.append_assoc, List.singleton_append]
      rw [happend] at hdistinct ⊢
      exact ih hstep hdistinct e he

theorem resolveBase_isOk {scope : RuntimeConfigScope} {current : EffectiveRuntimeConfig}
    (h : svc.resolveCurrent store scope = .ok current) :
    ∃ base, svc.resolveBase scope = .ok base := by
  obtain ⟨hdefaults, hlayers⟩ := RuntimeConfigResolver.resolveValues_isOk.mp
    (RuntimeConfigResolver.resolve_isOk.mp ⟨_, h⟩)
  exact RuntimeConfigResolver.resolve_isOk.mpr (RuntimeConfigResolver.resolveValues_isOk.mpr
    ⟨hdefaults, fun layer hlayer => hlayers layer (List.mem_append_left _ hlayer)⟩)

/-- **In a run, a call does what the current configuration asks for exactly when the base
layers answer for it.** -/
theorem composes_iff (hcalls : Distinct calls) : ∀ e ∈ svc.found {} calls, ∀ current,
    svc.resolveCurrent e.1 e.2.1.scope = .ok current →
      ∃ base, svc.resolveBase e.2.1.scope = .ok base ∧
        (svc.Composes e.1 e.2.1 e.2.2 current ↔ svc.Orderly e.2.1 base current) := by
  intro e he current hcurrent
  obtain ⟨before, after, hsplit, hbehind⟩ := behind_of_found behind_nil hcalls e he
  rw [List.nil_append] at hsplit
  rw [hsplit] at hcalls
  obtain ⟨base, hbase⟩ := resolveBase_isOk hcurrent
  exact ⟨base, hbase, composes_iff_of_free (hbehind.free hcalls) hbase hcurrent⟩

end

/-! ### Two patches -/

/-- An integer that an agent run reads when it starts. -/
def agentRunKey (name : String) (defaultValue : ℤ) : RuntimeConfigKey where
  key := name
  valueType := .int
  defaultValue := .int defaultValue
  scopeLevels := [.workspace, .session, .agentRun]
  mutability := .nextAgentRun

def maxSteps : String := "agent_loop.default_max_steps"

def checkpointInterval : String := "context_manager.checkpoint_interval_steps"

/-- What the hash digests of the value of such a key. -/
def agentRunDoc (status kind source : String) (value : ℤ) : PyValue :=
  .dict [("effectiveStatus", .str status), ("kind", .str kind),
    ("mutability", .str "next_agent_run"),
    ("redacted", .bool false), ("source", .str source), ("value", .int value)]

/-- The two keys, with their defaults, and the hashes of the configurations below. -/
def agentRunService : RuntimeConfigMutationService where
  resolver :=
    { registry := {
        keys := Dict.ofList
          [(maxSteps, agentRunKey maxSteps 20),
            (checkpointInterval, agentRunKey checkpointInterval 5)]
        keys_ok := by
          intro name key h
          rw [Dict.get?_ofList (by decide), List.mem_cons, List.mem_singleton] at h
          rcases h with h | h <;> cases h <;> rfl }
      primitives := {
        sha256 := fun doc =>
          if doc = .dict
              [(maxSteps, agentRunDoc "active" "built_in_default" "built_in_defaults" 20),
                (checkpointInterval, agentRunDoc "active" "built_in_default" "built_in_defaults" 5)]
          then "e6c16c397fe2b8d2e4a2964e638b9f79ca2e0ce66f10690915b58a6993453b8a"
          else if doc = .dict
              [(maxSteps,
                  agentRunDoc "pending_next_agent_run" "runtime_patch" "runtime_patch:patch-1" 40),
                (checkpointInterval, agentRunDoc "active" "built_in_default" "built_in_defaults" 5)]
          then "3df3c54f481b4f67ef2039584ee9365a7310bc9d082f569727d1a7db538105e6"
          else "8b801884a2e3d76167062932939036a41a3085e8455f0f4b68e21e3bcf214551"
        floatOf := fun n => some n } }

def agentRunPatch (patchId name : String) (value : ℤ) : RuntimeConfigPatch :=
  workspacePatch patchId name (.int value) none

/-- The first patch sets one of the keys, the second the other. -/
def agentRunCalls : List (RuntimeConfigPatch × RuntimeConfigReadings) :=
  [(agentRunPatch "patch-1" maxSteps 40, ⟨"change-1", DateTime.noon⟩),
    (agentRunPatch "patch-2" checkpointInterval 8, ⟨"change-2", DateTime.noon⟩)]

theorem agentRunCalls_distinct : Distinct agentRunCalls where
  durable call hcall := by
    rcases List.mem_cons.mp hcall with rfl | hcall
    · rfl
    · rw [List.mem_singleton.mp hcall]
      rfl
  keys := List.nodup_nil
  ids := by decide

/-- The ledger after the first patch. -/
def agentRunStore : RuntimeConfigChangeStore :=
  (agentRunService.applyPatch {} (agentRunPatch "patch-1" maxSteps 40)
    ⟨"change-1", DateTime.noon⟩).2

theorem mem_found_agentRun :
    (agentRunStore, agentRunPatch "patch-2" checkpointInterval 8, ⟨"change-2", DateTime.noon⟩) ∈
      agentRunService.found {} agentRunCalls :=
  List.mem_cons_of_mem _ List.mem_cons_self

theorem eq_ok_of_toOption {α : Type} {x : Except RuntimeConfigError α} {a : α}
    (h : x.toOption = some a) : x = .ok a := by
  cases x with
  | error e => cases h
  | ok b =>
    cases h
    rfl

theorem agentRun_current : ∃ current, agentRunService.resolveCurrent agentRunStore
      (agentRunPatch "patch-2" checkpointInterval 8).scope = .ok current ∧
    docAt current.values maxSteps = some (.int 40) := by
  have h : (agentRunService.resolveCurrent agentRunStore
      (agentRunPatch "patch-2" checkpointInterval 8).scope).toOption.map
        (fun current => docAt current.values maxSteps) = some (some (.int 40)) := by
    decide +kernel
  obtain ⟨current, hcurrent, hdoc⟩ := Option.map_eq_some_iff.mp h
  exact ⟨current, eq_ok_of_toOption hcurrent, hdoc⟩

theorem agentRun_first : ∃ current, agentRunService.resolveCurrent {}
    (agentRunPatch "patch-1" maxSteps 40).scope = .ok current := by
  have h : (agentRunService.resolveCurrent {}
      (agentRunPatch "patch-1" maxSteps 40).scope).isOk = true := by
    decide +kernel
  cases hcurrent : agentRunService.resolveCurrent {}
    (agentRunPatch "patch-1" maxSteps 40).scope with
  | error e =>
    rw [hcurrent] at h
    cases h
  | ok current => exact ⟨current, rfl⟩

/-- **The first patch composes**, and the second is held against the current configuration. -/
theorem second_patch_judged :
    (∃ current, agentRunService.resolveCurrent {} (agentRunPatch "patch-1" maxSteps 40).scope =
        .ok current ∧
      agentRunService.Composes {} (agentRunPatch "patch-1" maxSteps 40)
        ⟨"change-1", DateTime.noon⟩ current) ∧
    ∃ current base, agentRunService.resolveCurrent agentRunStore
        (agentRunPatch "patch-2" checkpointInterval 8).scope = .ok current ∧
      agentRunService.resolveBase (agentRunPatch "patch-2" checkpointInterval 8).scope = .ok base ∧
        (agentRunService.Composes agentRunStore (agentRunPatch "patch-2" checkpointInterval 8)
            ⟨"change-2", DateTime.noon⟩ current ↔
          agentRunService.Orderly (agentRunPatch "patch-2" checkpointInterval 8) base current) := by
  constructor
  · obtain ⟨current, hcurrent⟩ := agentRun_first
    obtain ⟨base, hbase, hiff⟩ := composes_iff agentRunCalls_distinct _ List.mem_cons_self current
      hcurrent
    obtain rfl : base = current := Except.ok.inj (hbase.symm.trans hcurrent)
    exact ⟨base, hcurrent, hiff.mpr ⟨fun _ _ => Iff.rfl, fun _ => Iff.rfl, fun _ _ _ => rfl⟩⟩
  · obtain ⟨current, hcurrent, -⟩ := agentRun_current
    obtain ⟨base, hbase, hiff⟩ := composes_iff agentRunCalls_distinct _ mem_found_agentRun current
      hcurrent
    exact ⟨current, base, hcurrent, hbase, hiff⟩

/-- **The snapshot of the second patch has lost the first.** -/
theorem second_patch_forgets : ¬∀ e ∈ agentRunService.found {} agentRunCalls, ∀ current,
    agentRunService.resolveCurrent e.1 e.2.1.scope = .ok current →
      agentRunService.Composes e.1 e.2.1 e.2.2 current := by
  intro h
  obtain ⟨current, hcurrent, hdoc⟩ := agentRun_current
  have hcomposes := h _ mem_found_agentRun current hcurrent
  have hvalidated : (agentRunService.validatePatch (agentRunPatch "patch-2" checkpointInterval 8)
      "change-2").toOption.map (fun change => change.status) = some .accepted := by
    decide +kernel
  have hbaseDoc : (agentRunService.resolveBase
      (agentRunPatch "patch-2" checkpointInterval 8).scope).toOption.map
        (fun base => docAt base.values maxSteps) = some (some (.int 20)) := by
    decide +kernel
  obtain ⟨change, hchange, hstatus⟩ := Option.map_eq_some_iff.mp hvalidated
  obtain ⟨base, hbase, hdoc'⟩ := Option.map_eq_some_iff.mp hbaseDoc
  have hbase := eq_ok_of_toOption hbase
  have hbehind : agentRunService.Behind [] {} := behind_nil
  have hfree := (hbehind.step agentRunCalls_distinct).free agentRunCalls_distinct
  have horderly := (composes_iff_of_free hfree hbase hcurrent).mp hcomposes
  have hunset : agentRunService.setsTo (agentRunPatch "patch-2" checkpointInterval 8) maxSteps =
      none := by
    decide +kernel
  cases validatePatch_outcome hbase (eq_ok_of_toOption hchange) with
  | stale _ h =>
    rw [h.1] at hstatus
    cases hstatus
  | rejected _ hstatus' =>
    rw [hstatus'] at hstatus
    cases hstatus
  | noOp _ hstatus' =>
    rw [hstatus'] at hstatus
    cases hstatus
  | accepted _ hadopted =>
    have hkept := horderly.kept hadopted maxSteps hunset
    rw [hdoc, hdoc'] at hkept
    cases hkept

end RuntimeConfigMutationService

end Taskweavn
