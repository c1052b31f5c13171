import Taskweavn.Task.Pipeline
import Taskweavn.Task.PublishServiceRuns

/-!
# A dry run before a publish

A request with `dry_run` goes the same way as any other: it is looked up, previewed,
handed to the publisher, which says that it was skipped, and then its result is stored
under the idempotency key of the request.  The hash that is stored with it covers the
options, so the real request finds a record with another hash, and is refused as a
conflict.

`Spared` says when this does not happen: the request has no key, or its key was used
before, or it does not pass the preview, or the bus already holds tasks under its ids
that make the publisher refuse it.  `undisturbed_iff` says that these are all such cases.
-/

namespace Taskweavn

open Lib Py

namespace DefaultTaskPublisher

section

variable {B : Type} [TaskBus B] {bus : B}

/-- The bus answers for all tasks of the request, holds one of them, and does not hold
all of them as the request would publish them. -/
structure Refused (bus : B) (sessionId : String) (tasks : List TaskDomain) : Prop where
  answers : ∀ t ∈ tasks, (TaskBus.get bus sessionId t.taskId).isOk = true
  held : ∃ t ∈ tasks, ∃ u, TaskBus.get bus sessionId t.taskId = .ok (some u)
  differs : ∃ t ∈ tasks, ∀ u, TaskBus.get bus sessionId t.taskId = .ok (some u) →
    taskMatchesExpected u t = false

theorem existingTasks_of_answers {s : String} : ∀ (tasks : List TaskDomain),
    (∀ t ∈ tasks, (TaskBus.get bus s t.taskId).isOk = true) →
    ∃ found, existingTasks bus s tasks = .ok found := by
  intro tasks
  induction tasks with
  | nil => intro _; exact ⟨_, rfl⟩
  | cons t rest ih =>
    intro h
    obtain ⟨found, hfound⟩ := ih (fun t' ht' => h t' (List.mem_cons_of_mem _ ht'))
    have ht := h t List.mem_cons_self
    cases hg : TaskBus.get bus s t.taskId with
    | error e =>
      rw [hg] at ht
      cases ht
    | ok o => exact ⟨(t.taskId, o) :: found, by simp only [existingTasks, hg, hfound]⟩

theorem get?_found {s : String} {tasks : List TaskDomain}
    {found : List (String × Option TaskDomain)}
    (hn : (tasks.map TaskDomain.taskId).Nodup) (hf : existingTasks bus s tasks = .ok found)
    {t u : TaskDomain} (ht : t ∈ tasks) :
    (Dict.ofList (found.filterMap (fun e => e.2.map (fun t => (e.1, t))))).get? t.taskId = some u ↔
      TaskBus.get bus s t.taskId = .ok (some u) := by
  obtain ⟨hk, hget⟩ := existingTasks_ok tasks hf
  have hnod : ((found.filterMap (fun e => e.2.map (fun t => (e.1, t)))).map Prod.fst).Nodup :=
    (hk ▸ hn).sublist (present_sublist found)
  rw [Dict.get?_ofList hnod, List.mem_filterMap]
  constructor
  · rintro ⟨e, he, hpair⟩
    obtain ⟨v, hv, hpair'⟩ := Option.map_eq_some_iff.mp hpair
    obtain ⟨hid, rfl⟩ := Prod.mk.inj hpair'
    rw [← hid, hget e he, hv]
  · intro hu
    have hmem : t.taskId ∈ found.map Prod.fst := by
      rw [hk]
      exact List.mem_map.mpr ⟨t, ht, rfl⟩
    obtain ⟨e, he, hid⟩ := List.mem_map.mp hmem
    refine ⟨e, he, ?_⟩
    have := hget e he
    rw [hid, hu] at this
    rw [← Except.ok.inj this, hid]
    rfl

theorem exists_missing {s : String} {tasks : List TaskDomain}
    {found : List (String × Option TaskDomain)} (hf : existingTasks bus s tasks = .ok found)
    (hlen : (found.filterMap (fun e => e.2.map (fun t => (e.1, t)))).length ≠ tasks.length) :
    ∃ t ∈ tasks, TaskBus.get bus s t.taskId = .ok none := by
  obtain ⟨hk, hget⟩ := existingTasks_ok tasks hf
  have hsize : found.length = tasks.length := by
    simpa using congrArg List.length hk
  by_contra hno
  refine hlen ?_
  rw [← hsize]
  have hall : ∀ e ∈ found, (e.2.map (fun t => (e.1, t))).isSome = true := by
    intro e he
    rw [Option.isSome_map]
    cases hv : e.2 with
    | some u => rfl
    | none =>
      have hmem : e.1 ∈ tasks.map TaskDomain.taskId := by
        rw [← hk]
        exact List.mem_map.mpr ⟨e, he, rfl⟩
      obtain ⟨t, ht, hid⟩ := List.mem_map.mp hmem
      refine absurd ⟨t, ht, ?_⟩ hno
      rw [hid, hget e he, hv]
  exact List.filterMap_length_eq_length.mpr hall

/-- **The check of the existing tasks** skips a request exactly when the bus refuses it. -/
theorem skipped_iff_refused (request : PublishRequest) {tasks : List TaskDomain}
    (ids : Dict String String) (roots : List String) (env : PublishEnv)
    (hn : (tasks.map TaskDomain.taskId).Nodup) :
    (∃ r, resultFromExistingIdempotentTasks bus request tasks ids roots env = .ok (some r) ∧
        r.skipped = true ∧ r.publishedTaskIds = [] ∧ r.rootTaskIds = []) ↔
      Refused bus request.sessionId tasks := by
  unfold resultFromExistingIdempotentTasks
  cases hf : existingTasks bus request.sessionId tasks with
  | error e =>
    simp only [reduceCtorEq, false_and, exists_false, false_iff]
    intro h
    obtain ⟨found, hok⟩ := existingTasks_of_answers tasks h.answers
    rw [hf] at hok
    cases hok
  | ok found =>
    obtain ⟨hk, hanswer⟩ := existingTasks_ok tasks hf
    have hfound : (Dict.ofList found).entries = found := Dict.entries_ofList (by rw [hk]; exact hn)
    have hnod : ((found.filterMap (fun e => e.2.map (fun t => (e.1, t)))).map Prod.fst).Nodup :=
      (hk ▸ hn).sublist (present_sublist found)
    have hget := fun (t u : TaskDomain) (ht : t ∈ tasks) => get?_found (u := u) hn hf ht
    have hanswers : ∀ t ∈ tasks, (TaskBus.get bus request.sessionId t.taskId).isOk = true := by
      intro t ht
      have hmem : t.taskId ∈ found.map Prod.fst := by
        rw [hk]
        exact List.mem_map.mpr ⟨t, ht, rfl⟩
      obtain ⟨e, he, hid⟩ := List.mem_map.mp hmem
      rw [← hid, hanswer e he]
      rfl
    have hheld : (found.filterMap (fun e => e.2.map (fun t => (e.1, t)))).isEmpty = false →
        ∃ t ∈ tasks, ∃ u, TaskBus.get bus request.sessionId t.taskId = .ok (some u) := by
      intro hne
      obtain ⟨x, hx⟩ := List.exists_mem_of_ne_nil _ (List.isEmpty_eq_false_iff.mp hne)
      obtain ⟨e, he, hpair⟩ := List.mem_filterMap.mp hx
      obtain ⟨u, hu, -⟩ := Option.map_eq_some_iff.mp hpair
      have hmem : e.1 ∈ tasks.map TaskDomain.taskId := by
        rw [← hk]
        exact List.mem_map.mpr ⟨e, he, rfl⟩
      obtain ⟨t, ht, hid⟩ := List.mem_map.mp hmem
      exact ⟨t, ht, u, by rw [hid, hanswer e he, hu]⟩
    have hentries := Dict.entries_ofList hnod
    simp only [hfound, hentries]
    by_cases h1 : (found.filterMap (fun e => e.2.map (fun t => (e.1, t)))).isEmpty = true
    · -- none of the tasks is there
      rw [if_pos h1]
      simp only [Except.ok.injEq, reduceCtorEq, false_and, exists_false, false_iff]
      intro h
      obtain ⟨t, ht, u, hu⟩ := h.held
      have := (hget t u ht).mpr hu
      rw [List.isEmpty_iff.mp h1] at this
      cases this
    · rw [if_neg h1]
      have hsome := hheld (Bool.eq_false_iff.mpr h1)
      by_cases h2 : (found.filterMap (fun e => e.2.map (fun t => (e.1, t)))).length ≠ tasks.length
      · -- some of them are missing
        rw [if_pos h2]
        obtain ⟨t, ht, hnone⟩ := exists_missing hf h2
        refine iff_of_true ⟨_, rfl, rfl, rfl, rfl⟩ ⟨hanswers, hsome, t, ht, fun u hu => ?_⟩
        rw [hnone] at hu
        cases hu
      · rw [if_neg h2]
        split
        · next h3 =>
          obtain ⟨i, hi⟩ := List.exists_mem_of_ne_nil _ h3
          obtain ⟨t, ht, -⟩ := List.mem_map.mp hi
          obtain ⟨ht, hbad⟩ := List.mem_filter.mp ht
          refine iff_of_true ⟨_, rfl, rfl, rfl, rfl⟩ ⟨hanswers, hsome, t, ht, fun u hu => ?_⟩
          rw [(hget t u ht).mpr hu] at hbad
          simpa using hbad
        · next h3 =>
          -- all of them are there as expected
          refine iff_of_false ?_ ?_
          · rintro ⟨r, hr, hskip, -⟩
            cases hr
            cases hskip
          · intro h
            obtain ⟨t, ht, hbad⟩ := h.differs
            rw [ne_eq, not_not, List.map_eq_nil_iff, List.filter_eq_nil_iff] at h3
            have hany := h3 t ht
            rw [Bool.not_eq_true, Bool.not_eq_false', Option.any_eq_true] at hany
            obtain ⟨u, hu, hmatch⟩ := hany
            rw [hbad u ((hget t u ht).mp hu)] at hmatch
            cases hmatch

end

end DefaultTaskPublisher

namespace TaskPublishService

section

variable (svc : TaskPublishService) {B : Type} [TaskBus B]

/-- What a caller and everybody else sees of a publish: whether the request was accepted,
its tasks, and the bus. -/
def outcome (out : Except BusError PublishResult × B × InMemoryPublishIdempotencyStore) :
    Except BusError (Bool × List String × List String) × B :=
  (out.1.map (fun r => (r.accepted, r.publishedTaskIds, r.rootTaskIds)), out.2.1)

def publishAfterDryRun (bus : B) (store : InMemoryPublishIdempotencyStore)
    (request : PublishRequest) (dryEnv env : PublishEnv) :
    Except BusError PublishResult × B × InMemoryPublishIdempotencyStore :=
  let out := svc.publish bus store (request.withDryRun true) dryEnv
  svc.publish out.2.1 out.2.2 request env

/-- The dry run makes no difference. -/
def Undisturbed (bus : B) (store : InMemoryPublishIdempotencyStore) (request : PublishRequest)
    (dryEnv env : PublishEnv) : Prop :=
  outcome (svc.publishAfterDryRun bus store request dryEnv env) =
    outcome (svc.publish bus store request env)

/-- A request that would be published, and whose key was not used before, is refused
because of tasks that the bus holds under its ids. -/
def Spared (bus : B) (store : InMemoryPublishIdempotencyStore) (request : PublishRequest)
    (env : PublishEnv) : Prop :=
  ∀ r, svc.expandPipelineOrNone request = some r → ∀ tree key, r.taskTree = some tree →
    r.idempotencyKey = some key → DefaultTaskPublisher.preview r = [] →
    store.get r.sessionId r.publisher.kind key = none →
    DefaultTaskPublisher.Refused bus r.sessionId
      (DefaultTaskPublisher.wanted svc.uuid5 r tree env).1

/-- The loader does not look at the dry-run option, and keeps it. -/
def LoaderIgnoresDryRun : Prop :=
  ∀ request dryRun, svc.expandPipelineOrNone (request.withDryRun dryRun) =
    (svc.expandPipelineOrNone request).map (·.withDryRun dryRun)

end

variable {svc : TaskPublishService} {B : Type} [TaskBus B] {bus : B}
  {store : InMemoryPublishIdempotencyStore} {request r : PublishRequest} {dryEnv env : PublishEnv}

theorem loaderIgnoresDryRun_none (h : svc.pipelineLoader = none) : svc.LoaderIgnoresDryRun := by
  intro request dryRun
  simp only [expandPipelineOrNone, h, Option.map_some]

theorem loaderIgnoresDryRun_default (svc : TaskPublishService)
    (loader : DefaultPipelineTaskLoader) :
    LoaderIgnoresDryRun { svc with pipelineLoader := some loader.expandForPublish } :=
  DefaultPipelineTaskLoader.expandForPublish_withDryRun

theorem dryRun_expanded (hl : svc.LoaderIgnoresDryRun) (hreal : request.options.dryRun = false)
    (h : svc.expandPipelineOrNone request = some r) : r.options.dryRun = false := by
  have hself := hl request false
  rw [← hreal, PublishRequest.withDryRun_self, h, Option.map_some, hreal] at hself
  rw [Option.some.inj hself]
  rfl

/-- A skipped result without tasks. -/
def PublishedNothing (r : PublishResult) : Prop :=
  r.accepted = false ∧ r.publishedTaskIds = [] ∧ r.rootTaskIds = []

omit [TaskBus B] in
theorem outcome_of_publishedNothing {result : PublishResult} (h : PublishedNothing result)
    (store : InMemoryPublishIdempotencyStore) :
    outcome (.ok result, bus, store) = (.ok (false, [], []), bus) := by
  obtain ⟨h1, h2, h3⟩ := h
  rw [outcome, Except.map, h1, h2, h3]

/-- Under a key that was not used a result is found by the next request with the key,
which publishes nothing if the result did not. -/
theorem check_storeIdempotency (svc : TaskPublishService) {key : String} (dry : PublishRequest)
    (result : PublishResult) (hkey : r.idempotencyKey = some key) (hs : dry.sessionId = r.sessionId)
    (hp : dry.publisher = r.publisher) (hk : dry.idempotencyKey = r.idempotencyKey)
    (hnew : store.get r.sessionId r.publisher.kind key = none) (hr : PublishedNothing result)
    (hmeta : result.metadata = Dict.empty) :
    ∃ replay, svc.checkIdempotency (svc.storeIdempotency store dry result) r = some replay ∧
      PublishedNothing replay := by
  have hget : (svc.storeIdempotency store dry result).get r.sessionId r.publisher.kind key =
      some
        { sessionId := r.sessionId, publisherKind := r.publisher.kind, idempotencyKey := key
          requestHash := svc.requestHash dry, publishResult := result } := by
    have hfree : store.records.get? (r.sessionId, r.publisher.kind, key) = none := hnew
    simp only [storeIdempotency, hk, hkey, hmeta, hs, hp, Dict.get?_empty, reduceCtorEq, if_false,
      InMemoryPublishIdempotencyStore.put, PublishIdempotencyRecord.key, hfree]
    exact Dict.get?_set_self _ _ _
  simp only [checkIdempotency, hkey, hget]
  split
  · exact ⟨_, rfl, rfl, rfl, rfl⟩
  · exact ⟨_, rfl, hr⟩

theorem publish_of_check {replay : PublishResult} (hex : svc.expandPipelineOrNone request = some r)
    (hc : svc.checkIdempotency store r = some replay) :
    svc.publish bus store request env = (.ok replay, bus, store) := by
  simp only [publish, hex, hc]

theorem publish_of_rejected (hex : svc.expandPipelineOrNone request = some r)
    (hc : svc.checkIdempotency store r = none) (hprev : DefaultTaskPublisher.preview r ≠ []) :
    svc.publish bus store request env =
      (.ok (rejectedResult r), bus, svc.storeIdempotency store r (rejectedResult r)) := by
  simp only [publish, hex, hc, if_pos hprev]

theorem publish_of_dryRun (hex : svc.expandPipelineOrNone request = some r)
    (hc : svc.checkIdempotency store r = none) (hprev : DefaultTaskPublisher.preview r = [])
    (hdry : r.options.dryRun = true) :
    svc.publish bus store request env =
      (.ok (DefaultTaskPublisher.skippedResult r .dryRun Dict.empty), bus,
        svc.storeIdempotency store r
        (DefaultTaskPublisher.skippedResult r .dryRun Dict.empty)) := by
  have hno : ¬DefaultTaskPublisher.preview r ≠ [] := not_not.mpr hprev
  simp only [publish, hex, hc, if_neg hno, DefaultTaskPublisher.publish, if_pos hdry]

theorem checkIdempotency_of_keyless (h : r.idempotencyKey = none) :
    svc.checkIdempotency store r = none := by
  simp only [checkIdempotency, h]

theorem checkIdempotency_of_new {key : String} (hkey : r.idempotencyKey = some key)
    (hnew : store.get r.sessionId r.publisher.kind key = none) :
    svc.checkIdempotency store r = none := by
  simp only [checkIdempotency, hkey, hnew]

/-- A real request with a new key publishes nothing, and leaves the bus alone, exactly
when the bus refuses it. -/
theorem publishedNothing_iff {tree : NormalizedTaskTree} {key : String}
    (hex : svc.expandPipelineOrNone request = some r) (hreal : r.options.dryRun = false)
    (htree : r.taskTree = some tree) (hkey : r.idempotencyKey = some key)
    (hprev : DefaultTaskPublisher.preview r = []) (hc : svc.checkIdempotency store r = none) :
    (.ok (false, [], []), bus) = outcome (svc.publish bus store request env) ↔
      DefaultTaskPublisher.Refused bus r.sessionId
        (DefaultTaskPublisher.wanted svc.uuid5 r tree env).1 := by
  have hno : ¬DefaultTaskPublisher.preview r ≠ [] := not_not.mpr hprev
  rw [← DefaultTaskPublisher.skipped_iff_refused r
    (DefaultTaskPublisher.wanted svc.uuid5 r tree env).2.1
    (DefaultTaskPublisher.wanted svc.uuid5 r tree env).2.2 env
    (DefaultTaskPublisher.nodup_wanted hkey)]
  simp only [publish, hex, hc, if_neg hno, DefaultTaskPublisher.publish_eq hprev hreal htree hkey]
  cases DefaultTaskPublisher.resultFromExistingIdempotentTasks bus r
      (DefaultTaskPublisher.wanted svc.uuid5 r tree env).1
      (DefaultTaskPublisher.wanted svc.uuid5 r tree env).2.1
      (DefaultTaskPublisher.wanted svc.uuid5 r tree env).2.2 env with
  | error e => simp [outcome, Except.map]
  | ok existing =>
    cases existing with
    | some result =>
      simp only [outcome, Except.map, PublishResult.accepted, Prod.mk.injEq, Except.ok.injEq,
        Option.some.injEq, and_true]
      constructor
      · rintro ⟨h1, h2, h3⟩
        exact ⟨result, rfl, by simpa using h1, h2.symm, h3.symm⟩
      · rintro ⟨_, rfl, h1, h2, h3⟩
        exact ⟨by simp [h1], h2.symm, h3.symm⟩
    | none =>
      refine iff_of_false ?_ (by simp)
      -- the tasks are put on the bus
      rcases DefaultTaskPublisher.publishAll bus
        (DefaultTaskPublisher.wanted svc.uuid5 r tree env).1 with ⟨_ | published, bus'⟩
      · simp [outcome, Except.map]
      · simp [outcome, Except.map, PublishResult.accepted, DefaultTaskPublisher.publishedResult]

theorem tree_of_preview (hprev : DefaultTaskPublisher.preview r = []) :
    ∃ tree, r.taskTree = some tree := by
  cases htree : r.taskTree with
  | none => simp [DefaultTaskPublisher.preview, htree] at hprev
  | some tree => exact ⟨tree, rfl⟩

/-- **A dry run before a publish** makes no difference exactly when the request is spared. -/
theorem undisturbed_iff (hl : svc.LoaderIgnoresDryRun) (bus : B)
    (store : InMemoryPublishIdempotencyStore) (request : PublishRequest) (dryEnv env : PublishEnv)
    (hreal : request.options.dryRun = false) :
    svc.Undisturbed bus store request dryEnv env ↔ svc.Spared bus store request env := by
  have hdex := hl request true
  cases hex : svc.expandPipelineOrNone request with
  | none =>
    rw [hex, Option.map_none] at hdex
    refine iff_of_true ?_ (fun r hr => by rw [hex] at hr; cases hr)
    simp only [Undisturbed, publishAfterDryRun, publish, hdex]
  | some r =>
    rw [hex, Option.map_some] at hdex
    have hr := dryRun_expanded hl hreal hex
    have hsame : ∀ {tree key}, r.taskTree = some tree → r.idempotencyKey = some key →
        DefaultTaskPublisher.preview r = [] → store.get r.sessionId r.publisher.kind key = none →
        (svc.Spared bus store request env ↔ DefaultTaskPublisher.Refused bus r.sessionId
          (DefaultTaskPublisher.wanted svc.uuid5 r tree env).1) := by
      intro tree key htree hkey hprev hnew
      constructor
      · intro h
        exact h r hex tree key htree hkey hprev hnew
      · intro h r' hr' tree' key' htree' _ _ _
        obtain rfl : r = r' := Option.some.inj (hex.symm.trans hr')
        obtain rfl : tree = tree' := Option.some.inj (htree.symm.trans htree')
        exact h
    have hspared : (∀ tree key, r.taskTree = some tree → r.idempotencyKey = some key →
        DefaultTaskPublisher.preview r = [] → store.get r.sessionId r.publisher.kind key = none →
        False) → svc.Spared bus store request env := by
      intro h r' hr' tree key htree hkey hprev hnew
      obtain rfl : r = r' := Option.some.inj (hex.symm.trans hr')
      exact (h tree key htree hkey hprev hnew).elim
    cases hkey : r.idempotencyKey with
    | none =>
      -- nothing is recorded without a key
      refine iff_of_true ?_ (hspared (fun tree key _ hk => by rw [hkey] at hk; cases hk))
      have hdry : (svc.publish bus store (request.withDryRun true) dryEnv).2 = (bus, store) := by
        have hc : svc.checkIdempotency store (r.withDryRun true) = none :=
          checkIdempotency_of_keyless hkey
        have hst : ∀ result, svc.storeIdempotency store (r.withDryRun true) result = store := by
          intro result
          simp only [storeIdempotency, show (r.withDryRun true).idempotencyKey = none from hkey]
        by_cases hprev : DefaultTaskPublisher.preview (r.withDryRun true) = []
        · rw [publish_of_dryRun hdex hc hprev rfl, hst]
        · rw [publish_of_rejected hdex hc hprev, hst]
      rw [Undisturbed, publishAfterDryRun, hdry]
    | some key =>
      cases hrec : store.get r.sessionId r.publisher.kind key with
      | some record =>
        -- the dry run is answered from the record
        refine iff_of_true ?_ (hspared (fun tree key' _ hk _ hnew => ?_))
        · have hc : ∃ replay, svc.checkIdempotency store (r.withDryRun true) = some replay := by
            simp only [checkIdempotency, show (r.withDryRun true).idempotencyKey =
              some key from hkey,
              show store.get (r.withDryRun true).sessionId (r.withDryRun true).publisher.kind key =
                some record from hrec]
            split <;> exact ⟨_, rfl⟩
          obtain ⟨replay, hreplay⟩ := hc
          rw [Undisturbed, publishAfterDryRun, publish_of_check hdex hreplay]
        · obtain rfl : key = key' := Option.some.inj (hkey.symm.trans hk)
          rw [hrec] at hnew
          cases hnew
      | none =>
        have hc : svc.checkIdempotency store r = none := checkIdempotency_of_new hkey hrec
        have hcd : svc.checkIdempotency store (r.withDryRun true) = none :=
          checkIdempotency_of_new (r := r.withDryRun true) hkey hrec
        by_cases hprev : DefaultTaskPublisher.preview r = []
        · obtain ⟨tree, htree⟩ := tree_of_preview hprev
          obtain ⟨replay, hreplay, hnothing⟩ := check_storeIdempotency svc
            (r.withDryRun true)
            (DefaultTaskPublisher.skippedResult (r.withDryRun true) .dryRun Dict.empty)
            hkey rfl rfl rfl hrec ⟨rfl, rfl, rfl⟩ rfl
          rw [hsame htree hkey hprev hrec,
            ← publishedNothing_iff hex hr htree hkey hprev hc, Undisturbed, publishAfterDryRun,
            publish_of_dryRun hdex hcd hprev rfl, publish_of_check hex hreplay,
            outcome_of_publishedNothing hnothing]
        · -- the request is rejected with or without a record
          refine iff_of_true ?_ (hspared (fun _ _ _ _ h _ => hprev h))
          obtain ⟨replay, hreplay, hnothing⟩ := check_storeIdempotency svc
            (r.withDryRun true) (rejectedResult (r.withDryRun true))
            hkey rfl rfl rfl hrec ⟨rfl, rfl, rfl⟩ rfl
          rw [Undisturbed, publishAfterDryRun, publish_of_rejected hdex hcd hprev,
            publish_of_check hex hreplay, outcome_of_publishedNothing hnothing,
            publish_of_rejected hex hc hprev, outcome_of_publishedNothing ⟨rfl, rfl, rfl⟩]

/-- A request without a key. -/
def keyless : PublishRequest :=
  { PublishRequest.sample Dict.empty with idempotencyKey := none, fields_ok := rfl }

/-- A service whose hash tells a dry run from a publish. -/
def telling : TaskPublishService :=
  { sample with
    sha256 := fun c =>
      if c.options.dryRun then "676c7e15672d57d15a2b91bfffc28999e8eff6ee66586bfeb2e4ae65c0c7501a"
      else sample.sha256 c }

theorem undisturbed_keyless :
    telling.Undisturbed InMemoryTaskBus.empty {} keyless .sample .sample ∧
      (outcome (telling.publish InMemoryTaskBus.empty {} keyless .sample)).1.toOption.map
        Prod.fst = some true := by
  refine ⟨(undisturbed_iff (loaderIgnoresDryRun_none rfl) _ _ _ _ _ rfl).mpr ?_, by decide +kernel⟩
  intro r hr tree key _ hkey
  obtain rfl : keyless = r := Option.some.inj hr
  cases hkey

/-- After a dry run with the key `k` the real request is refused as a conflict. -/
theorem dry_run_disturbs :
    ¬telling.Undisturbed InMemoryTaskBus.empty {} (.sample Dict.empty) .sample .sample ∧
      (telling.publishAfterDryRun InMemoryTaskBus.empty {} (.sample Dict.empty) .sample
        .sample).1.toOption.map PublishResult.reason = some (some .conflict) := by
  refine ⟨fun h => ?_, by decide +kernel⟩
  have hout := congrArg (fun o => o.1.toOption.map Prod.fst) h
  revert hout
  decide +kernel

end TaskPublishService

end Taskweavn
