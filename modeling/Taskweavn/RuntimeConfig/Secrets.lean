import Taskweavn.RuntimeConfig.MutationService

/-!
# Secrets in patches

The value of a secret key is replaced before a change is built, but only by the loop over the
keys, and there behind the checks of the scope.  A patch with a stale hash never comes to
the loop, and a scope that is not durable or not one of the key's is rejected first; in each
case the requested values are written as they came.

`keepsSecrets_iff`: **what a call stores and returns is independent of the secret values of its
patch exactly when the patch is guarded**, that is, gets as far as the replacement with every
secret key, or does not get as far as an answer of its own.
-/

namespace Taskweavn

open Lib Py

def RuntimeConfigRegistry.secret (registry : RuntimeConfigRegistry) (name : String) : Bool :=
  (registry.keys.get? name).any RuntimeConfigKey.secret

def SameButSecrets (registry : RuntimeConfigRegistry)
    (values values' : Dict String PyValue) : Prop :=
  List.Forall₂ (fun e e' => e.1 = e'.1 ∧ (registry.secret e.1 = false → e.2 = e'.2))
    values.entries values'.entries

namespace SameButSecrets

variable {registry : RuntimeConfigRegistry} {values values' : Dict String PyValue} {name : String}

theorem keys_eq (h : SameButSecrets registry values values') : values.keys = values'.keys := by
  unfold SameButSecrets at h
  unfold Dict.keys
  generalize values.entries = items, values'.entries = items' at h ⊢
  induction h with
  | nil => rfl
  | cons he _ ih => rw [List.map_cons, List.map_cons, ih, he.1]

theorem get?_eq (h : SameButSecrets registry values values') (hn : registry.secret name = false) :
    values.get? name = values'.get? name := by
  unfold SameButSecrets at h
  unfold Dict.get?
  generalize values.entries = items, values'.entries = items' at h ⊢
  induction h with
  | nil => rfl
  | @cons e e' _ _ he _ ih =>
    obtain ⟨hname, hvalue⟩ := he
    rw [lookupEntries, lookupEntries, ← hname, ih]
    by_cases h : e.1 = name
    · rw [if_pos h, if_pos h, hvalue (h ▸ hn)]
    · rw [if_neg h, if_neg h]

theorem eq_of_plain (h : SameButSecrets registry values values')
    (hplain : ∀ name ∈ values.keys, registry.secret name = false) : values = values' := by
  refine Dict.ext_get? h.keys_eq fun name => ?_
  by_cases hname : name ∈ values.keys
  · exact h.get?_eq (hplain name hname)
  · have hname' : name ∉ values'.keys := h.keys_eq ▸ hname
    rw [Dict.mem_keys, Option.not_isSome_iff_eq_none] at hname hname'
    rw [hname, hname']

theorem set {raw : PyValue} (hget : values.get? name = some raw)
    (hsecret : registry.secret name = true) (other : PyValue) :
    SameButSecrets registry values (values.set name other) := by
  unfold SameButSecrets
  rw [Dict.entries_set_of_some hget, List.forall₂_map_right_iff, List.forall₂_same]
  intro e _
  by_cases he : e.1 = name
  · rw [if_pos he]
    refine ⟨he, fun hno => ?_⟩
    rw [he, hsecret] at hno
    cases hno
  · rw [if_neg he]
    exact ⟨rfl, fun _ => rfl⟩

end SameButSecrets

theorem exists_sortedDoc_ne (raw : PyValue) : ∃ other : PyValue, other.sortedDoc ≠
    raw.sortedDoc := by
  by_cases h : raw.sortedDoc = .none
  · exact ⟨.bool true, fun h' => by rw [h] at h'; cases h'⟩
  · exact ⟨.none, fun h' => h h'.symm⟩

def RuntimeConfigPatch.withValues (patch : RuntimeConfigPatch) (values : Dict String PyValue)
    (h : values.entries ≠ []) : RuntimeConfigPatch :=
  { patch with values := values, values_ne := h }

/-- What the loop has decided, but for the requested values. -/
def PatchVerdict.decided (v : PatchVerdict) :
    Dict String PyValue × Dict String RuntimeConfigRejection × List String :=
  (v.acceptedValues, v.rejectedValues, v.redactedKeys)

namespace RuntimeConfigMutationService

variable {svc : RuntimeConfigMutationService} {scope : RuntimeConfigScope} {patchId name : String}
  {raw raw' : PyValue} {verdict verdict' : PatchVerdict} {items items' : List (String × PyValue)}

/-! ### The verdict on a key -/

/-- The key comes to the check for secrets, and does not pass it. -/
def redacts (svc : RuntimeConfigMutationService) (scope : RuntimeConfigScope)
    (name : String) : Bool :=
  (svc.resolver.registry.keys.get? name).any fun key =>
    scope.level.durable && decide (scope.level ∈ key.scopeLevels) && key.secret

theorem keyVerdict_redacts (h : svc.redacts scope name = true) :
    svc.keyVerdict scope patchId name raw = .ok (.redacted secretNotPatchable) := by
  unfold redacts at h
  cases hkey : svc.resolver.registry.keys.get? name with
  | none =>
    rw [hkey] at h
    cases h
  | some key =>
    simp only [hkey, Option.any_some, Bool.and_eq_true, decide_eq_true_eq] at h
    obtain ⟨⟨hdurable, hlevel⟩, hsecret⟩ := h
    simp only [keyVerdict, hkey]
    rw [if_neg (by simp [hdurable]), if_neg (not_not.mpr hlevel), if_pos hsecret]

theorem requestedValues_add {v : KeyVerdict} (h : svc.redacts scope name = false)
    (hv : svc.keyVerdict scope patchId name raw = .ok v) :
    (verdict.add name v).requestedValues = verdict.requestedValues := by
  cases v with
  | rejected r => rfl
  | accepted value => rfl
  | redacted r =>
    exfalso
    unfold keyVerdict at hv
    split at hv
    · cases hv
    · next key hkey =>
      split at hv
      · cases hv
      · next hdurable =>
        split at hv
        · cases hv
        · next hlevel =>
          split at hv
          · next hsecret =>
            rw [redacts, hkey, Option.any_some, hsecret, Bool.and_true, Bool.and_eq_false_iff] at h
            rcases h with h | h
            · exact hdurable h
            · exact hlevel (by simpa using h)
          · split at hv <;> cases hv

theorem keyVerdict_secret (h : svc.resolver.registry.secret name = true) :
    svc.keyVerdict scope patchId name raw = svc.keyVerdict scope patchId name raw' := by
  unfold RuntimeConfigRegistry.secret at h
  cases hkey : svc.resolver.registry.keys.get? name with
  | none => simp only [keyVerdict, hkey]
  | some key =>
    rw [hkey, Option.any_some] at h
    simp only [keyVerdict, hkey]
    split
    · rfl
    · split
      · rfl
      · rfl

/-! ### The loop -/

theorem decided_add {v : KeyVerdict} (h : verdict.decided = verdict'.decided) :
    (verdict.add name v).decided = (verdict'.add name v).decided := by
  obtain ⟨ha, hr⟩ := Prod.mk.inj h
  obtain ⟨hr, hk⟩ := Prod.mk.inj hr
  cases v <;> simp [PatchVerdict.add, PatchVerdict.decided, ha, hr, hk]

/-- **The loop decides the same** about patches that differ in secret values. -/
theorem collect_decided
    (hitems : List.Forall₂ (fun e e' : String × PyValue => e.1 = e'.1 ∧
      (svc.resolver.registry.secret e.1 = false → e.2 = e'.2)) items items') :
    ∀ {verdict verdict' : PatchVerdict}, verdict.decided = verdict'.decided →
      (svc.collect scope patchId items verdict).map PatchVerdict.decided =
        (svc.collect scope patchId items' verdict').map PatchVerdict.decided := by
  induction hitems with
  | nil =>
    intro verdict verdict' h
    exact congrArg Except.ok h
  | @cons e e' items items' he _ ih =>
    intro verdict verdict' h
    obtain ⟨name, raw⟩ := e
    obtain ⟨name', raw'⟩ := e'
    obtain ⟨hname, hraw⟩ := he
    simp only at hname hraw
    subst hname
    have hv : svc.keyVerdict scope patchId name raw = svc.keyVerdict scope patchId name raw' := by
      cases hs : svc.resolver.registry.secret name with
      | true => exact keyVerdict_secret hs
      | false => rw [hraw hs]
    simp only [collect, hv]
    cases svc.keyVerdict scope patchId name raw' with
    | error e => rfl
    | ok v => exact ih (decided_add h)

theorem collect_requestedValues : ∀ {items : List (String × PyValue)} {verdict : PatchVerdict},
    svc.collect scope patchId items verdict = .ok verdict' → ∀ n,
      verdict'.requestedValues.get? n =
        if svc.redacts scope n = true ∧ n ∈ items.map Prod.fst then some redactedValue
        else verdict.requestedValues.get? n := by
  intro items
  induction items with
  | nil =>
    intro verdict h n
    cases h
    simp
  | cons e items ih =>
    intro verdict h n
    obtain ⟨name, raw⟩ := e
    obtain ⟨v, hv, h⟩ := bind_eq_ok.mp h
    rw [ih h n]
    by_cases hred : svc.redacts scope n = true
    · by_cases hmem : n ∈ items.map Prod.fst
      · rw [if_pos ⟨hred, hmem⟩, if_pos ⟨hred, List.mem_cons_of_mem _ hmem⟩]
      · rw [if_neg fun hh => hmem hh.2]
        by_cases hn : name = n
        · subst hn
          rw [if_pos ⟨hred, List.mem_cons_self⟩]
          rw [keyVerdict_redacts hred] at hv
          cases hv
          exact Dict.get?_set_self _ _ _
        · rw [if_neg fun hh => hmem ((List.mem_cons.mp hh.2).resolve_left (Ne.symm hn))]
          cases hr : svc.redacts scope name with
          | false => rw [requestedValues_add hr hv]
          | true =>
            rw [keyVerdict_redacts hr] at hv
            cases hv
            exact Dict.get?_set_ne _ _ hn
    · rw [if_neg fun hh => hred hh.1, if_neg fun hh => hred hh.1]
      cases hr : svc.redacts scope name with
      | false => rw [requestedValues_add hr hv]
      | true =>
        rw [keyVerdict_redacts hr] at hv
        cases hv
        refine Dict.get?_set_ne _ _ ?_
        rintro rfl
        exact hred hr

theorem collect_keys : ∀ {items : List (String × PyValue)} {verdict : PatchVerdict},
    svc.collect scope patchId items verdict = .ok verdict' →
    (∀ e ∈ items, (verdict.requestedValues.get? e.1).isSome = true) →
    verdict'.requestedValues.keys = verdict.requestedValues.keys := by
  intro items
  induction items with
  | nil =>
    intro verdict h _
    cases h
    rfl
  | cons e items ih =>
    intro verdict h hkeys
    obtain ⟨name, raw⟩ := e
    rw [List.forall_mem_cons] at hkeys
    obtain ⟨v, hv, h⟩ := bind_eq_ok.mp h
    have hadd : (verdict.add name v).requestedValues.keys = verdict.requestedValues.keys := by
      cases hr : svc.redacts scope name with
      | false => rw [requestedValues_add hr hv]
      | true =>
        rw [keyVerdict_redacts hr] at hv
        cases hv
        obtain ⟨w, hw⟩ := Option.isSome_iff_exists.mp hkeys.1
        exact Dict.keys_set_of_some hw
    rw [ih h, hadd]
    intro e he
    rw [← Dict.mem_keys, hadd, Dict.mem_keys]
    exact hkeys.2 e he

/-! ### When a call raises -/

def BaseResolves (svc : RuntimeConfigMutationService) : Prop :=
  ∃ values, svc.resolver.resolveValues svc.baseLayers = .ok values

theorem normalizePatchValue_eq {key : RuntimeConfigKey} (hbase : svc.BaseResolves)
    (hkey : svc.resolver.registry.keys.get? name = some key) :
    svc.normalizePatchValue scope patchId name raw =
      normalizeValue svc.resolver.primitives key raw := by
  obtain ⟨⟨defaults, hdefaults⟩, -⟩ := RuntimeConfigResolver.resolveValues_isOk.mp hbase
  have hvalues : svc.resolver.resolveValues
        [runtimePatchLayer scope patchId (Dict.ofList [(name, raw)])] =
      (svc.resolver.effectiveValue key (runtimePatchLayer scope patchId Dict.empty).source raw).map
        fun value => defaults.set name value :=
    RuntimeConfigResolver.resolveValues_single hdefaults hkey
  simp only [normalizePatchValue, RuntimeConfigResolver.resolve]
  rw [hvalues]
  cases hn : normalizeValue svc.resolver.primitives key raw with
  | error e => simp [RuntimeConfigResolver.effectiveValue, hn, bind, Except.bind, Except.map]
  | ok value =>
    simp [RuntimeConfigResolver.effectiveValue, hn, bind, Except.bind, Except.map, pure,
      Except.pure]

/-- The loop comes to the value, which is an integer that has no float. -/
def Overflows (svc : RuntimeConfigMutationService) (scope : RuntimeConfigScope)
    (e : String × PyValue) : Prop :=
  ∃ key, svc.resolver.registry.keys.get? e.1 = some key ∧ scope.level.durable = true ∧
    scope.level ∈ key.scopeLevels ∧ key.secret = false ∧
    normalizeValue svc.resolver.primitives key e.2 = .error .overflow

theorem normalizeTyped_error {P : RuntimeConfigPrimitives} {type : RuntimeConfigValueType}
    {e : RuntimeConfigError} (h : normalizeTyped P name type raw = .error e) :
    e = .overflow ∨ ∃ message, e = .resolver message := by
  unfold normalizeTyped at h
  split at h
  case h_7 | h_11 | h_12 =>
    split at h
    · cases h
    · cases h
      simp
  all_goals cases h
  all_goals simp

theorem keyVerdict_cases (hbase : svc.BaseResolves) (scope : RuntimeConfigScope)
    (patchId name : String) (raw : PyValue) :
    (svc.Overflows scope (name, raw) ∧
        svc.keyVerdict scope patchId name raw = .error .overflow) ∨
    (¬svc.Overflows scope (name, raw) ∧
      ((∃ value, svc.keyVerdict scope patchId name raw = .ok (.accepted value) ∧
          svc.resolver.Takes (name, value)) ∨
        (∃ rejection, svc.keyVerdict scope patchId name raw = .ok (.rejected rejection)) ∨
        ∃ rejection, svc.keyVerdict scope patchId name raw = .ok (.redacted rejection))) := by
  cases hkey : svc.resolver.registry.keys.get? name with
  | none =>
    right
    refine ⟨?_, .inr (.inl ⟨unknownKey name, by simp only [keyVerdict, hkey]⟩)⟩
    rintro ⟨key, hkey', -⟩
    rw [hkey] at hkey'
    cases hkey'
  | some key =>
    have hover : svc.Overflows scope (name, raw) ↔ scope.level.durable = true ∧
        scope.level ∈ key.scopeLevels ∧ key.secret = false ∧
        normalizeValue svc.resolver.primitives key raw = .error .overflow := by
      constructor
      · rintro ⟨key', hkey', h⟩
        rw [hkey] at hkey'
        cases hkey'
        exact h
      · exact fun h => ⟨key, hkey, h⟩
    rw [hover]
    simp only [keyVerdict, hkey, normalizePatchValue_eq hbase hkey]
    by_cases hdurable : scope.level.durable = false
    · rw [if_pos hdurable]
      exact .inr ⟨fun h => by simp [hdurable] at h, .inr (.inl ⟨_, rfl⟩)⟩
    · rw [if_neg hdurable]
      by_cases hlevel : scope.level ∈ key.scopeLevels
      · rw [if_neg (not_not.mpr hlevel)]
        cases hsecret : key.secret with
        | true =>
          rw [if_pos rfl]
          exact .inr ⟨fun h => by simp at h, .inr (.inr ⟨_, rfl⟩)⟩
        | false =>
          rw [if_neg (by simp)]
          cases hnorm : normalizeValue svc.resolver.primitives key raw with
          | ok value =>
            exact .inr ⟨fun h => by simp at h, .inl ⟨value, rfl, key, value, hkey,
              normalizeTyped_normalized hnorm⟩⟩
          | error e =>
            rcases normalizeTyped_error hnorm with rfl | ⟨message, rfl⟩
            · exact .inl ⟨⟨by simpa using hdurable, hlevel, rfl, rfl⟩, rfl⟩
            · exact .inr ⟨fun h => by simp at h, .inr (.inl ⟨_, rfl⟩)⟩
      · rw [if_pos hlevel]
        exact .inr ⟨fun h => hlevel h.2.1, .inr (.inl ⟨_, rfl⟩)⟩

/-- The loop comes to its end when no value overflows, and what it has accepted can be
resolved. -/
theorem collect_ok (hbase : svc.BaseResolves) : ∀ {items : List (String × PyValue)}
    {verdict : PatchVerdict}, (∀ e ∈ items, ¬svc.Overflows scope e) →
    (∀ e ∈ verdict.acceptedValues.entries, svc.resolver.Takes e) →
    ∃ verdict', svc.collect scope patchId items verdict = .ok verdict' ∧
      ∀ e ∈ verdict'.acceptedValues.entries, svc.resolver.Takes e := by
  intro items
  induction items with
  | nil => exact fun _ htakes => ⟨_, rfl, htakes⟩
  | cons e items ih =>
    intro verdict hover htakes
    obtain ⟨name, raw⟩ := e
    rw [List.forall_mem_cons] at hover
    rcases keyVerdict_cases hbase scope patchId name raw with ⟨hno, -⟩ | ⟨-, hv⟩
    · exact absurd hno hover.1
    · rcases hv with ⟨value, hv, hvalue⟩ | ⟨rejection, hv⟩ | ⟨rejection, hv⟩
      · simp only [collect, hv, bind, Except.bind]
        refine ih hover.2 fun e he => ?_
        rw [PatchVerdict.add] at he
        obtain ⟨n, v⟩ := e
        have hget := Dict.get?_eq_some_iff.mpr he
        rw [Dict.get?_set] at hget
        split at hget
        · next hn =>
          cases hget
          subst hn
          exact hvalue
        · exact htakes _ (Dict.get?_eq_some_iff.mp hget)
      · simp only [collect, hv, bind, Except.bind]
        exact ih hover.2 htakes
      · simp only [collect, hv, bind, Except.bind]
        exact ih hover.2 htakes

theorem collect_overflow (hbase : svc.BaseResolves) : ∀ {items : List (String × PyValue)}
    {verdict : PatchVerdict}, (∃ e ∈ items, svc.Overflows scope e) →
    svc.collect scope patchId items verdict = .error .overflow := by
  intro items
  induction items with
  | nil => intro verdict ⟨e, he, _⟩; cases he
  | cons e items ih =>
    intro verdict hover
    obtain ⟨name, raw⟩ := e
    rcases keyVerdict_cases hbase scope patchId name raw with ⟨-, hv⟩ | ⟨hno, hv⟩
    · simp only [collect, hv, bind, Except.bind]
    · obtain ⟨e, he, ho⟩ := hover
      have hrest : ∃ e ∈ items, svc.Overflows scope e := by
        rcases List.mem_cons.mp he with rfl | he
        · exact absurd ho hno
        · exact ⟨e, he, ho⟩
      rcases hv with ⟨_, hv, -⟩ | ⟨_, hv⟩ | ⟨_, hv⟩ <;>
      · simp only [collect, hv, bind, Except.bind]
        exact ih hrest

/-! ### The change -/

variable {patch : RuntimeConfigPatch} {changeId : String} {baseConfig : EffectiveRuntimeConfig}
  {change : RuntimeConfigChange}

theorem conclude_fields (h : svc.conclude patch changeId baseConfig verdict = .ok change) :
    (change.changeId = changeId ∧ change.idempotencyKey = patch.idempotencyKey ∧
      change.scope = patch.scope) ∧ change.requestedValues = verdict.requestedValues := by
  unfold conclude at h
  split at h
  · cases h
    exact ⟨⟨rfl, rfl, rfl⟩, rfl⟩
  · split at h
    · cases h
      exact ⟨⟨rfl, rfl, rfl⟩, rfl⟩
    · split at h
      · cases h
        exact ⟨⟨rfl, rfl, rfl⟩, rfl⟩
      · obtain ⟨candidate, -, h⟩ := bind_eq_ok.mp h
        cases h
        exact ⟨⟨rfl, rfl, rfl⟩, rfl⟩

theorem validatePatch_ids (h : svc.validatePatch patch changeId = .ok change) :
    change.changeId = changeId ∧ change.idempotencyKey = patch.idempotencyKey ∧
      change.scope = patch.scope := by
  obtain ⟨baseConfig, -, h⟩ := bind_eq_ok.mp h
  split at h
  · cases h
    exact ⟨rfl, rfl, rfl⟩
  · obtain ⟨verdict, -, h⟩ := bind_eq_ok.mp h
    exact (conclude_fields h).1

theorem validatePatch_stale (hbase : svc.resolveBase patch.scope = .ok baseConfig)
    (hstale : stale patch baseConfig = true) :
    svc.validatePatch patch changeId = .ok (staleChange patch changeId baseConfig) := by
  simp only [validatePatch, hbase, bind, Except.bind, if_pos hstale]
  rfl

theorem validatePatch_fresh (hbase : svc.resolveBase patch.scope = .ok baseConfig)
    (hfresh : stale patch baseConfig = false) :
    svc.validatePatch patch changeId =
      svc.collect patch.scope patch.patchId patch.values.entries
        { requestedValues := patch.values } >>= svc.conclude patch changeId baseConfig := by
  simp only [validatePatch, hbase, bind, Except.bind, hfresh]
  rfl

theorem validatePatch_unresolved {e : RuntimeConfigError}
    (hbase : svc.resolveBase patch.scope = .error e) :
    svc.validatePatch patch changeId = .error e := by
  simp only [validatePatch, hbase, bind, Except.bind]

theorem requestedValues_validatePatch (hbase : svc.resolveBase patch.scope = .ok baseConfig)
    (hraw : stale patch baseConfig = true ∨ svc.redacts patch.scope name = false)
    (h : svc.validatePatch patch changeId = .ok change) :
    change.requestedValues.get? name = patch.values.get? name := by
  obtain ⟨base, hbase', h⟩ := bind_eq_ok.mp h
  obtain rfl := Except.ok.inj (hbase.symm.trans hbase')
  split at h
  · cases h
    rfl
  · next hfresh =>
    obtain ⟨verdict, hverdict, h⟩ := bind_eq_ok.mp h
    rw [(conclude_fields h).2, collect_requestedValues hverdict, if_neg]
    rintro ⟨hred, -⟩
    rcases hraw with hstale | hno
    · exact hfresh hstale
    · rw [hred] at hno
      cases hno

/-- **A call gets an answer of its own** when no value overflows. -/
theorem validatePatch_isOk (changeId : String)
    (hbase : svc.resolveBase patch.scope = .ok baseConfig)
    (hover : stale patch baseConfig = true ∨
      ∀ e ∈ patch.values.entries, ¬svc.Overflows patch.scope e) :
    ∃ change, svc.validatePatch patch changeId = .ok change := by
  have hresolves : svc.BaseResolves := RuntimeConfigResolver.resolve_isOk.mp ⟨_, hbase⟩
  by_cases hstale : stale patch baseConfig = true
  · exact ⟨_, validatePatch_stale hbase hstale⟩
  · rw [validatePatch_fresh hbase (Bool.eq_false_iff.mpr hstale)]
    obtain ⟨verdict, hverdict, htakes⟩ : ∃ verdict, svc.collect patch.scope patch.patchId
        patch.values.entries { requestedValues := patch.values } = .ok verdict ∧
          ∀ e ∈ verdict.acceptedValues.entries, svc.resolver.Takes e :=
      collect_ok hresolves (hover.resolve_left hstale) fun e he => by cases he
    rw [hverdict]
    have hcandidate : ∃ candidate, svc.resolveCandidate patch.scope patch.patchId
        verdict.acceptedValues = .ok candidate := by
      refine RuntimeConfigResolver.resolve_isOk.mpr
        (RuntimeConfigResolver.resolveValues_isOk.mpr ?_)
      obtain ⟨hdefaults, hlayers⟩ := RuntimeConfigResolver.resolveValues_isOk.mp hresolves
      refine ⟨hdefaults, fun layer hlayer => ?_⟩
      rcases List.mem_append.mp hlayer with hlayer | hlayer
      · exact hlayers layer hlayer
      · rw [List.mem_singleton.mp hlayer]
        exact htakes
    obtain ⟨candidate, hcandidate⟩ := hcandidate
    simp only [conclude, hcandidate, bind, Except.bind]
    split
    · exact ⟨_, rfl⟩
    · split
      · exact ⟨_, rfl⟩
      · split <;> exact ⟨_, rfl⟩

/-! ### Two patches -/

variable {values : Dict String PyValue} {hne : values.entries ≠ []}
  {store : RuntimeConfigChangeStore} {readings : RuntimeConfigReadings}

theorem collect_pair (hsame : SameButSecrets svc.resolver.registry patch.values values) :
    (∃ e, svc.collect patch.scope patch.patchId patch.values.entries
          { requestedValues := patch.values } = .error e ∧
        svc.collect patch.scope patch.patchId values.entries { requestedValues := values } =
          .error e) ∨
      ∃ v v', svc.collect patch.scope patch.patchId patch.values.entries
          { requestedValues := patch.values } = .ok v ∧
        svc.collect patch.scope patch.patchId values.entries { requestedValues := values } =
          .ok v' ∧
        v.decided = v'.decided := by
  have hdecided : (svc.collect patch.scope patch.patchId patch.values.entries
        { requestedValues := patch.values }).map PatchVerdict.decided =
      (svc.collect patch.scope patch.patchId values.entries
        { requestedValues := values }).map PatchVerdict.decided :=
    collect_decided hsame rfl
  cases hc : svc.collect patch.scope patch.patchId patch.values.entries
      { requestedValues := patch.values } with
  | error e =>
    cases hc' : svc.collect patch.scope patch.patchId values.entries
        { requestedValues := values } with
    | error e' =>
      rw [hc, hc'] at hdecided
      cases hdecided
      exact .inl ⟨e, rfl, rfl⟩
    | ok v' =>
      rw [hc, hc'] at hdecided
      cases hdecided
  | ok v =>
    cases hc' : svc.collect patch.scope patch.patchId values.entries
        { requestedValues := values } with
    | error e' =>
      rw [hc, hc'] at hdecided
      cases hdecided
    | ok v' =>
      rw [hc, hc'] at hdecided
      exact .inr ⟨v, v', rfl, rfl, Except.ok.inj hdecided⟩

theorem conclude_unit (h : verdict.decided = verdict'.decided) :
    (svc.conclude (patch.withValues values hne) changeId baseConfig verdict').map (fun _ => ()) =
      (svc.conclude patch changeId baseConfig verdict).map (fun _ => ()) := by
  obtain ⟨requested, accepted, rejected, redacted⟩ := verdict
  obtain ⟨requested', accepted', rejected', redacted'⟩ := verdict'
  cases h
  have hpartial : (patch.withValues values hne).allowPartialAcceptance =
    patch.allowPartialAcceptance := rfl
  have hcandidate : svc.resolveCandidate (patch.withValues values hne).scope
      (patch.withValues values hne).patchId accepted =
    svc.resolveCandidate patch.scope patch.patchId accepted := rfl
  simp only [conclude, hpartial, hcandidate]
  split
  · rfl
  · split
    · rfl
    · split
      · rfl
      · cases svc.resolveCandidate patch.scope patch.patchId accepted <;> rfl

theorem collect_withValues {r : Except RuntimeConfigError PatchVerdict}
    (h : svc.collect patch.scope patch.patchId values.entries { requestedValues := values } = r) :
    svc.collect (patch.withValues values hne).scope (patch.withValues values hne).patchId
      (patch.withValues values hne).values.entries
      { requestedValues := (patch.withValues values hne).values } = r := h

theorem validatePatch_unit (hne : values.entries ≠ []) (changeId : String)
    (hsame : SameButSecrets svc.resolver.registry patch.values values) :
    (svc.validatePatch (patch.withValues values hne) changeId).map (fun _ => ()) =
      (svc.validatePatch patch changeId).map (fun _ => ()) := by
  have hscope : (patch.withValues values hne).scope = patch.scope := rfl
  cases hbase : svc.resolveBase patch.scope with
  | error e =>
    rw [validatePatch_unresolved hbase, validatePatch_unresolved (hscope ▸ hbase)]
  | ok base =>
    have hbase' : svc.resolveBase (patch.withValues values hne).scope = .ok base := hbase
    cases hstale : stale patch base with
    | true =>
      have hstale' : stale (patch.withValues values hne) base = true := hstale
      rw [validatePatch_stale hbase hstale, validatePatch_stale hbase' hstale']
      rfl
    | false =>
      have hstale' : stale (patch.withValues values hne) base = false := hstale
      rw [validatePatch_fresh hbase hstale, validatePatch_fresh hbase' hstale']
      rcases collect_pair hsame with ⟨e, hc, hc'⟩ | ⟨v, v', hc, hc', hdecided⟩
      · rw [hc, collect_withValues hc']
        rfl
      · rw [hc, collect_withValues hc']
        exact conclude_unit hdecided

theorem requestedValues_congr (hsame : SameButSecrets svc.resolver.registry patch.values values)
    (hred : ∀ n ∈ patch.values.keys, svc.resolver.registry.secret n = true →
      svc.redacts patch.scope n = true)
    (hc : svc.collect patch.scope patch.patchId patch.values.entries
      { requestedValues := patch.values } = .ok verdict)
    (hc' : svc.collect patch.scope patch.patchId values.entries { requestedValues := values } =
      .ok verdict') : verdict.requestedValues = verdict'.requestedValues := by
  have hmem : ∀ {d : Dict String PyValue}, ∀ e ∈ d.entries, (d.get? e.1).isSome = true :=
    fun e he => Dict.mem_keys.mp (List.mem_map_of_mem he)
  refine Dict.ext_get? ?_ fun n => ?_
  · rw [collect_keys hc hmem, collect_keys hc' hmem]
    exact hsame.keys_eq
  · rw [collect_requestedValues hc, collect_requestedValues hc']
    have hkeys : n ∈ patch.values.entries.map Prod.fst ↔ n ∈ values.entries.map Prod.fst := by
      rw [show patch.values.entries.map Prod.fst = values.entries.map Prod.fst from hsame.keys_eq]
    by_cases hn : svc.redacts patch.scope n = true ∧ n ∈ patch.values.entries.map Prod.fst
    · rw [if_pos hn, if_pos ⟨hn.1, hkeys.mp hn.2⟩]
    · rw [if_neg hn, if_neg fun h => hn ⟨h.1, hkeys.mpr h.2⟩]
      by_cases hmem : n ∈ patch.values.keys
      · refine hsame.get?_eq (Bool.eq_false_iff.mpr fun hsecret => hn ⟨hred n hmem hsecret, hmem⟩)
      · have hmem' : n ∉ values.keys := hsame.keys_eq ▸ hmem
        rw [Dict.mem_keys, Option.not_isSome_iff_eq_none] at hmem hmem'
        simp only [hmem, hmem']

/-! ### What is written -/

theorem record_changes {now : DateTime}
    (h : store.taken change.changeId change.idempotencyKey change.scope = false) :
    (svc.record store change now).2.changes = store.changes ++ [change.row] := by
  have happend : store.appendChange change =
      .ok { store with changes := store.changes ++ [change.row] } := by
    rw [RuntimeConfigChangeStore.appendChange, h]
    rfl
  simp only [record, happend]
  cases svc.snapshotForChange change now with
  | error e => rfl
  | ok snapshot =>
    cases snapshot with
    | none => rfl
    | some snapshot =>
      simp only [RuntimeConfigChangeStore.saveSnapshot]
      split <;> rename_i hsave
      · split at hsave
        · cases hsave
          rfl
        · cases hsave
      · split at hsave
        · cases hsave
        · cases hsave
          rfl

theorem record_taken {now : DateTime}
    (h : store.taken change.changeId change.idempotencyKey change.scope = true) :
    svc.record store change now = (.error (.store
      "runtime config change already exists or idempotency key was reused in the same scope"),
        store) := by
  have happend : store.appendChange change = .error (.store
      "runtime config change already exists or idempotency key was reused in the same scope") := by
    rw [RuntimeConfigChangeStore.appendChange, h]
    rfl
  simp only [record, happend]

theorem applyPatch_replayed {existing : RuntimeConfigChange}
    (h : replayed store patch = some existing) :
    svc.applyPatch store patch readings = (.ok existing, store) := by
  simp only [applyPatch, h]

theorem applyPatch_error {e : RuntimeConfigError} (hnew : replayed store patch = none)
    (h : svc.validatePatch patch readings.changeId = .error e) :
    svc.applyPatch store patch readings = (.error e, store) := by
  simp only [applyPatch, hnew, h]

theorem applyPatch_ok (hnew : replayed store patch = none)
    (h : svc.validatePatch patch readings.changeId = .ok change) :
    svc.applyPatch store patch readings =
      if patch.dryRun then (.ok change, store) else svc.record store change readings.now := by
  simp only [applyPatch, hnew, h]

theorem applyPatch_congr
    (h : svc.validatePatch (patch.withValues values hne) readings.changeId =
      svc.validatePatch patch readings.changeId) :
    svc.applyPatch store (patch.withValues values hne) readings =
      svc.applyPatch store patch readings := by
  have hreplayed : replayed store (patch.withValues values hne) = replayed store patch := rfl
  have hdry : (patch.withValues values hne).dryRun = patch.dryRun := rfl
  simp only [applyPatch, hreplayed, hdry, h]

/-! ### The guard -/

/-- What a call returns and what it leaves in the ledger are independent of the secret values
of its patch. -/
def KeepsSecrets (svc : RuntimeConfigMutationService) (store : RuntimeConfigChangeStore)
    (patch : RuntimeConfigPatch) (readings : RuntimeConfigReadings) : Prop :=
  ∀ values (hne : values.entries ≠ []),
    SameButSecrets svc.resolver.registry patch.values values →
      svc.applyPatch store (patch.withValues values hne) readings =
        svc.applyPatch store patch readings

/-- **A guarded call** comes to the replacement with every secret key of its patch, or does not
come to an answer of its own. -/
inductive Guarded (svc : RuntimeConfigMutationService) (store : RuntimeConfigChangeStore)
    (patch : RuntimeConfigPatch) (changeId : String) : Prop
  /-- The change of an earlier call is returned. -/
  | replayed (h : (replayed store patch).isSome = true)
  /-- The base layers cannot be resolved. -/
  | unresolved (h : ¬svc.BaseResolves)
  /-- The store has the id of the change already, or its key. -/
  | taken (hdry : patch.dryRun = false)
      (h : store.taken changeId patch.idempotencyKey patch.scope = true)
  /-- There are no secret keys. -/
  | plain (h : ∀ name ∈ patch.values.keys, svc.resolver.registry.secret name = false)
  /-- The call raises at a value that is not secret. -/
  | overflow (baseConfig : EffectiveRuntimeConfig)
      (hbase : svc.resolveBase patch.scope = .ok baseConfig)
      (hfresh : stale patch baseConfig = false)
      (h : ∃ e ∈ patch.values.entries, svc.Overflows patch.scope e)
  /-- The hash is current, and the secret keys support the scope, which is durable. -/
  | redacted (baseConfig : EffectiveRuntimeConfig)
      (hbase : svc.resolveBase patch.scope = .ok baseConfig)
      (hfresh : stale patch baseConfig = false)
      (h : ∀ name ∈ patch.values.keys, svc.resolver.registry.secret name = true →
        svc.redacts patch.scope name = true)

theorem Guarded.keepsSecrets (h : svc.Guarded store patch readings.changeId) :
    svc.KeepsSecrets store patch readings := by
  intro values hne hsame
  cases h with
  | replayed h =>
    obtain ⟨existing, hexisting⟩ := Option.isSome_iff_exists.mp h
    have hexisting' : RuntimeConfigMutationService.replayed store (patch.withValues values hne) =
      some existing := hexisting
    rw [applyPatch_replayed hexisting, applyPatch_replayed hexisting']
  | unresolved h =>
    refine applyPatch_congr ?_
    cases hbase : svc.resolveBase patch.scope with
    | error e =>
      have hbase' : svc.resolveBase (patch.withValues values hne).scope = .error e := hbase
      rw [validatePatch_unresolved hbase, validatePatch_unresolved hbase']
    | ok base => exact absurd (RuntimeConfigResolver.resolve_isOk.mp ⟨base, hbase⟩) h
  | taken hdry h =>
    have hunit := validatePatch_unit hne readings.changeId hsame
    cases hc : svc.validatePatch patch readings.changeId with
    | error e =>
      refine applyPatch_congr ?_
      rw [hc] at hunit ⊢
      cases hc' : svc.validatePatch (patch.withValues values hne) readings.changeId with
      | error e' =>
        rw [hc'] at hunit
        cases hunit
        rfl
      | ok change' =>
        rw [hc'] at hunit
        cases hunit
    | ok change =>
      cases hc' : svc.validatePatch (patch.withValues values hne) readings.changeId with
      | error e' =>
        rw [hc, hc'] at hunit
        cases hunit
      | ok change' =>
        cases hnew : RuntimeConfigMutationService.replayed store patch with
        | some existing =>
          have hnew' : RuntimeConfigMutationService.replayed store (patch.withValues values hne) =
            some existing := hnew
          rw [applyPatch_replayed hnew, applyPatch_replayed hnew']
        | none =>
          have hnew' : RuntimeConfigMutationService.replayed store (patch.withValues values hne) =
            none := hnew
          have hdry' : (patch.withValues values hne).dryRun = false := hdry
          obtain ⟨hid, hkey, hscope⟩ := validatePatch_ids hc
          obtain ⟨hid', hkey', hscope'⟩ := validatePatch_ids hc'
          rw [applyPatch_ok hnew hc, applyPatch_ok hnew' hc', hdry, hdry',
            if_neg Bool.false_ne_true, if_neg Bool.false_ne_true, record_taken, record_taken]
          · rw [hid, hkey, hscope]
            exact h
          · rw [hid', hkey', hscope']
            exact h
  | plain h =>
    obtain rfl := hsame.eq_of_plain h
    rfl
  | overflow base hbase hfresh h =>
    refine applyPatch_congr ?_
    have hunit := validatePatch_unit hne readings.changeId hsame
    have hresolves : svc.BaseResolves := RuntimeConfigResolver.resolve_isOk.mp ⟨base, hbase⟩
    have herror : svc.validatePatch patch readings.changeId = .error .overflow := by
      rw [validatePatch_fresh hbase hfresh, collect_overflow hresolves h]
      rfl
    rw [herror] at hunit ⊢
    cases hc' : svc.validatePatch (patch.withValues values hne) readings.changeId with
    | error e' =>
      rw [hc'] at hunit
      cases hunit
      rfl
    | ok change' =>
      rw [hc'] at hunit
      cases hunit
  | redacted base hbase hfresh h =>
    refine applyPatch_congr ?_
    have hbase' : svc.resolveBase (patch.withValues values hne).scope = .ok base := hbase
    have hfresh' : stale (patch.withValues values hne) base = false := hfresh
    rw [validatePatch_fresh hbase hfresh, validatePatch_fresh hbase' hfresh']
    rcases collect_pair hsame with ⟨e, hc, hc'⟩ | ⟨v, v', hc, hc', hdecided⟩
    · rw [hc, collect_withValues hc']
      rfl
    · rw [hc, collect_withValues hc']
      have hrequested := requestedValues_congr hsame h hc hc'
      obtain ⟨requested, accepted, rejected, redacted⟩ := v
      obtain ⟨requested', accepted', rejected', redacted'⟩ := v'
      cases hdecided
      cases hrequested
      rfl

theorem not_keepsSecrets (hnew : replayed store patch = none)
    (hfree : patch.dryRun = true ∨
      store.taken readings.changeId patch.idempotencyKey patch.scope = false)
    (hbase : svc.resolveBase patch.scope = .ok baseConfig)
    (hover : stale patch baseConfig = true ∨
      ∀ e ∈ patch.values.entries, ¬svc.Overflows patch.scope e)
    (hname : name ∈ patch.values.keys) (hsecret : svc.resolver.registry.secret name = true)
    (hraw : stale patch baseConfig = true ∨ svc.redacts patch.scope name = false) :
    ¬svc.KeepsSecrets store patch readings := by
  intro hkeeps
  obtain ⟨raw, hget⟩ := Option.isSome_iff_exists.mp (Dict.mem_keys.mp hname)
  obtain ⟨other, hother⟩ := exists_sortedDoc_ne raw
  have hset : (patch.values.set name other).get? name = some other := Dict.get?_set_self _ _ _
  have hne : (patch.values.set name other).entries ≠ [] := by
    intro hnil
    have hmem := Dict.get?_eq_some_iff.mp hset
    rw [hnil] at hmem
    cases hmem
  have hsame := SameButSecrets.set hget hsecret other
  obtain ⟨change, hc⟩ := validatePatch_isOk readings.changeId hbase hover
  have hunit := validatePatch_unit hne readings.changeId hsame
  obtain ⟨change', hc'⟩ : ∃ change', svc.validatePatch
      (patch.withValues (patch.values.set name other) hne) readings.changeId = .ok change' := by
    cases hc' : svc.validatePatch (patch.withValues (patch.values.set name other) hne)
        readings.changeId with
    | ok change' => exact ⟨change', rfl⟩
    | error e =>
      rw [hc, hc'] at hunit
      cases hunit
  have hreq : change.requestedValues.get? name = some raw :=
    (requestedValues_validatePatch hbase hraw hc).trans hget
  have hbase' : svc.resolveBase (patch.withValues (patch.values.set name other) hne).scope =
    .ok baseConfig := hbase
  have hnew' : replayed store (patch.withValues (patch.values.set name other) hne) = none := hnew
  have hreq' : change'.requestedValues.get? name = some other :=
    (requestedValues_validatePatch hbase' hraw hc').trans hset
  have hcall := hkeeps _ hne hsame
  rw [applyPatch_ok hnew hc, applyPatch_ok hnew' hc',
    show (patch.withValues (patch.values.set name other) hne).dryRun =
      patch.dryRun from rfl] at hcall
  cases hdry : patch.dryRun with
  | true =>
    rw [hdry, if_pos rfl, if_pos rfl] at hcall
    cases hcall
    rw [hreq] at hreq'
    cases hreq'
    exact hother rfl
  | false =>
    obtain ⟨hid, hkey, hscope⟩ := validatePatch_ids hc
    obtain ⟨hid', hkey', hscope'⟩ := validatePatch_ids hc'
    have htaken := hfree.resolve_left (by rw [hdry]; exact Bool.false_ne_true)
    have htaken' : store.taken change'.changeId change'.idempotencyKey change'.scope = false := by
      rw [hid', hkey', hscope']
      exact htaken
    rw [hdry, if_neg Bool.false_ne_true, if_neg Bool.false_ne_true] at hcall
    have hrows := congrArg (fun r => r.2.changes) hcall
    simp only [record_changes htaken'] at hrows
    rw [record_changes (by rw [hid, hkey, hscope]; exact htaken)] at hrows
    have hrow := (List.cons.inj (List.append_cancel_left hrows)).1
    have hget' := congrArg (fun row => row.requestedValues.get? name) hrow
    simp only [RuntimeConfigChange.row, PyValue.get?_sortedDict, hreq, hreq',
      Option.map_some] at hget'
    exact hother (Option.some.inj hget')

/-- **A call keeps the secrets of its patch exactly when it is guarded.** -/
theorem keepsSecrets_iff :
    svc.KeepsSecrets store patch readings ↔ svc.Guarded store patch readings.changeId := by
  refine ⟨fun hkeeps => ?_, Guarded.keepsSecrets⟩
  by_contra hopen
  have hnew : replayed store patch = none := by
    rw [← Option.not_isSome_iff_eq_none]
    exact fun h => hopen (.replayed h)
  have hfree : patch.dryRun = true ∨
      store.taken readings.changeId patch.idempotencyKey patch.scope = false := by
    cases hdry : patch.dryRun with
    | true => exact .inl rfl
    | false => exact .inr (Bool.eq_false_iff.mpr fun h => hopen (.taken hdry h))
  obtain ⟨base, hbase⟩ : ∃ base, svc.resolveBase patch.scope = .ok base :=
    RuntimeConfigResolver.resolve_isOk.mpr (Classical.byContradiction fun h =>
      hopen (.unresolved h))
  cases hstale : stale patch base with
  | true =>
    -- every secret value is requested as it came
    obtain ⟨name, hname, hsecret⟩ : ∃ name ∈ patch.values.keys,
        svc.resolver.registry.secret name = true := by
      by_contra hnone
      refine hopen (.plain fun name hname => Bool.eq_false_iff.mpr fun hsecret => ?_)
      exact hnone ⟨name, hname, hsecret⟩
    exact not_keepsSecrets hnew hfree hbase (.inl hstale) hname hsecret (.inl hstale) hkeeps
  | false =>
    -- some secret key does not come to the replacement
    obtain ⟨name, hname, hsecret, hred⟩ : ∃ name ∈ patch.values.keys,
        svc.resolver.registry.secret name = true ∧ svc.redacts patch.scope name = false := by
      by_contra hnone
      refine hopen (.redacted base hbase hstale fun name hname hsecret => ?_)
      by_contra hred
      exact hnone ⟨name, hname, hsecret, Bool.eq_false_iff.mpr hred⟩
    refine not_keepsSecrets hnew hfree hbase (.inr fun e he hover => ?_) hname hsecret (.inr hred)
      hkeeps
    exact hopen (.overflow base hbase hstale ⟨e, he, hover⟩)

/-! ### A secret in the ledger -/

/-- A registry with one key, which is secret. -/
def apiKey : RuntimeConfigKey where
  key := "llm.api_key"
  valueType := .string
  defaultValue := .none
  scopeLevels := [.workspace]
  mutability := .nextLlmCall
  secret := true

def apiKeyRegistry : RuntimeConfigRegistry where
  keys := Dict.ofList [("llm.api_key", apiKey)]
  keys_ok := by
    intro name key h
    rw [Dict.get?_ofList (by simp), List.mem_singleton] at h
    cases h
    rfl

/-- No other configuration is resolved with it than that of the defaults. -/
def apiKeyService : RuntimeConfigMutationService where
  resolver :=
    ⟨apiKeyRegistry, {
      sha256 := fun _ => "e027cdf52729fd10cd77bc4612a642d9fba19659cc7bbcedfea6eddb1d61116f"
      floatOf := fun n => some n }⟩

/-- A user's patch of one key, in a workspace. -/
def workspacePatch (patchId name : String) (value : PyValue) (expected : Option String) :
    RuntimeConfigPatch where
  patchId := patchId
  scope := { level := .workspace, workspaceId := some "workspace-1" }
  actor := { actorType := .user }
  values := Dict.ofList [(name, value)]
  expectedBaseConfigHash := expected
  requestedAt := DateTime.noon
  values_ne := List.cons_ne_nil _ _
  scope_ok := rfl

/-- A patch made on top of a configuration that is no longer current. -/
def apiKeyPatch : RuntimeConfigPatch :=
  workspacePatch "patch-1" "llm.api_key" (.str "sk-live") (some "stale")

/-- **The stale patch writes its secret into the ledger.** -/
theorem stale_patch_leaks :
    ¬apiKeyService.KeepsSecrets {} apiKeyPatch ⟨"change-1", DateTime.noon⟩ := by
  have hname : "llm.api_key" ∈ apiKeyPatch.values.keys := List.mem_singleton.mpr rfl
  have hbase :
      (apiKeyService.resolveBase apiKeyPatch.scope).map (stale apiKeyPatch) = .ok true := by
    decide +kernel
  cases hconfig : apiKeyService.resolveBase apiKeyPatch.scope with
  | error e =>
    rw [hconfig] at hbase
    cases hbase
  | ok config =>
    have hstale : stale apiKeyPatch config = true := by
      rw [hconfig] at hbase
      exact Except.ok.inj hbase
    exact not_keepsSecrets rfl (.inr rfl) hconfig (.inl hstale) hname (by decide) (.inl hstale)

end RuntimeConfigMutationService

end Taskweavn
