import Taskweavn.Task.DraftPublished
import Taskweavn.Task.PlanPublished

/-!
# What a publication brings to a bus

A call of the task publisher leaves the bus alone, or it publishes the tasks of its request
one after the other, and may stop between two of them.  The bus then has what it had before,
and tasks of the request (`Grows`, `publishAll_grows`).

* `publish_new`: a task that was not there before is the task of a node of the request.
* `publish_fresh`: a request with a key is published on a bus that has no task of its session.
* `comesFrom_taskForNode`: a task names the source of its request.
-/

namespace Taskweavn

open Lib Py

namespace DefaultTaskPublisher

open ShadowedBus PublishRequest

/-- What publishing some tasks may do to a bus, seen at its shadow. -/
structure Grows (tasks : List TaskDomain) (m m' : InMemoryTaskBus) : Prop where
  kept : ∀ s i u, m.get s i = some u → m'.get s i = some u
  added : ∀ s i u, m'.get s i = some u → m.get s i = some u ∨ u ∈ tasks

theorem Grows.refl (tasks : List TaskDomain) (m : InMemoryTaskBus) : Grows tasks m m :=
  ⟨fun _ _ _ h => h, fun _ _ _ h => .inl h⟩

theorem Grows.cons {t : TaskDomain} {rest : List TaskDomain} {m m₁ m₂ : InMemoryTaskBus}
    (h : Grows [t] m m₁) (h' : Grows rest m₁ m₂) : Grows (t :: rest) m m₂ where
  kept s i u hu := h'.kept s i u (h.kept s i u hu)
  added s i u hu := by
    rcases h'.added s i u hu with hu | hmem
    · rcases h.added s i u hu with hu | hmem
      · exact .inl hu
      · exact .inr (List.mem_cons.mpr (.inl (List.mem_singleton.mp hmem)))
    · exact .inr (List.mem_cons_of_mem t hmem)

theorem grows_publish {m : InMemoryTaskBus} (hm : m.Keyed) {t : TaskDomain} (ht : t.Valid) :
    Grows [t] m (m.publish t).2 where
  kept _ _ _ hu := get_publish hm t ht hu
  added s i u hu := by
    by_cases hkey : (t.sessionId, t.taskId) = (s, i)
    · unfold InMemoryTaskBus.publish at hu
      split at hu
      · exact .inl hu
      · cases hkey
        have hself : (m.tasks.set t.key t).get? t.key = some u := hu
        rw [Dict.get?_set_self] at hself
        cases hself
        exact .inr (List.mem_singleton_self _)
    · left
      cases hget : m.get s i with
      | none =>
        rw [get_publish_absent hget hkey] at hu
        cases hu
      | some v =>
        rw [get_publish hm t ht hget] at hu
        exact hu

section

variable {B : Type} [ShadowedBus B] {b : B} {m : InMemoryTaskBus} {U : Uuid5}
  {request : PublishRequest} {tree : NormalizedTaskTree} {env : PublishEnv} {s i : String}

/-- **Publishing tasks**, all of them or some. -/
theorem publishAll_grows : ∀ (tasks : List TaskDomain) {b : B} {m : InMemoryTaskBus},
    Shadow m b → (∀ t ∈ tasks, t.Valid) →
    ∃ m', Shadow m' (publishAll b tasks).2 ∧ Grows tasks m m' := by
  intro tasks
  induction tasks with
  | nil =>
    intro b m h _
    exact ⟨m, h, .refl [] m⟩
  | cons t rest ih =>
    intro b m h hv
    have ht := hv t List.mem_cons_self
    rcases hp : TaskBus.publish b t with ⟨e | u, b'⟩
    · have hsh := publish_refused_shadow h ht (congrArg Prod.fst hp)
      rw [hp] at hsh
      simp only [publishAll, hp]
      exact ⟨m, hsh, .refl _ m⟩
    · obtain ⟨-, hsh, -, -⟩ := publish_shadow h ht (congrArg Prod.fst hp)
      rw [hp] at hsh
      obtain ⟨m', hm', hgrows⟩ := ih hsh fun t' ht' => hv t' (List.mem_cons_of_mem t ht')
      refine ⟨m', ?_, (grows_publish (keyed h) ht).cons hgrows⟩
      simp only [publishAll, hp]
      rcases hrest : publishAll b' rest with ⟨_ | others, b''⟩
      · rw [hrest] at hm'
        exact hm'
      · rw [hrest] at hm'
        exact hm'

theorem publish_moves (U : Uuid5) (b : B) (request : PublishRequest) (env : PublishEnv) :
    (publish U b request env).2 = b ∨
      (∀ r, (publish U b request env).1 = .ok r → r.accepted = true) ∧
      ∃ tree, request.taskTree = some tree ∧
        (publish U b request env).2 = (publishAll b (wanted U request tree env).1).2 := by
  unfold publish
  split
  · exact .inl rfl
  split
  · exact .inl rfl
  cases htree : request.taskTree with
  | none => exact .inl rfl
  | some tree =>
    dsimp only
    split
    · exact .inl rfl
    · exact .inl rfl
    · right
      rcases hall : publishAll b (wanted U request tree env).1 with ⟨e | tasks, b'⟩
      · refine ⟨fun r hr => ?_, tree, rfl, by rw [hall]⟩
        cases hr
      · refine ⟨fun r hr => ?_, tree, rfl, by rw [hall]⟩
        cases hr
        rfl

theorem valid_wanted : ∀ t ∈ (wanted U request tree env).1, t.Valid := by
  intro t ht
  obtain ⟨node, hnode, n, rfl⟩ := mem_wanted ht
  exact valid_taskForNode hnode n

/-- **A task that came to the bus** is the task of a node. -/
theorem publish_new {t : TaskDomain} (h : Shadow m b) (habsent : TaskBus.get b s i = .ok none)
    (hget : TaskBus.get (publish U b request env).2 s i = .ok (some t)) :
    ∃ tree, request.taskTree = some tree ∧ ∃ node ∈ tree.iterNodes, ∃ n,
      t = (request.taskForNode tree (request.taskIdsForRequest U tree env) tree.rootByNode env node
        n).mapConstraints (norm B) := by
  rcases publish_moves U b request env with hsame | ⟨-, tree, htree, hall⟩
  · rw [hsame, habsent] at hget
    cases hget
  · rw [hall] at hget
    obtain ⟨m', hshadow, hgrows⟩ := publishAll_grows _ h valid_wanted
    obtain ⟨u, hu, -, rfl⟩ := (get_eq_some hshadow).mp hget
    rcases hgrows.added s i u hu with hold | hmem
    · rw [(shadow_absent h).mp habsent] at hold
      cases hold
    · obtain ⟨node, hnode, n, rfl⟩ := mem_wanted hmem
      exact ⟨tree, htree, node, hnode, n, rfl⟩

/-! ### A bus without a task of the session -/

theorem existingTasks_absent {sessionId : String} : ∀ (tasks : List TaskDomain),
    (∀ t ∈ tasks, TaskBus.get b sessionId t.taskId = .ok none) →
    existingTasks b sessionId tasks = .ok (tasks.map fun t => (t.taskId, none)) := by
  intro tasks
  induction tasks with
  | nil => intro _; rfl
  | cons t rest ih =>
    intro h
    rw [existingTasks, h t List.mem_cons_self, ih fun t' ht' => h t' (List.mem_cons_of_mem _ ht')]
    rfl

theorem resultFromExisting_absent {tasks : List TaskDomain} (ids : Dict String String)
    (roots : List String) (env : PublishEnv) (hn : (tasks.map TaskDomain.taskId).Nodup)
    (h : ∀ t ∈ tasks, TaskBus.get b request.sessionId t.taskId = .ok none) :
    resultFromExistingIdempotentTasks b request tasks ids roots env = .ok none := by
  have hentries :
      (Dict.ofList (tasks.map fun t => (t.taskId, (none : Option TaskDomain)))).entries =
        tasks.map fun t => (t.taskId, none) :=
    Dict.entries_ofList (by simpa [Function.comp_def] using hn)
  have hnone : (tasks.map fun t => (t.taskId, (none : Option TaskDomain))).filterMap
      (fun e => e.2.map fun t => (e.1, t)) = [] := by
    rw [List.filterMap_map, List.filterMap_eq_nil_iff]
    intro t _
    rfl
  rw [resultFromExistingIdempotentTasks, existingTasks_absent tasks h]
  dsimp only
  rw [hentries, hnone]
  rfl

section

open AcceptingBus

variable {B : Type} [AcceptingBus B] {b : B}

theorem publish_fresh {key : String} (h : Shadow m b) (htree : request.taskTree = some tree)
    (hkey : request.idempotencyKey = some key) (hprev : preview request = [])
    (hdry : request.options.dryRun = false)
    (habsent : ∀ i, TaskBus.get b request.sessionId i = .ok none)
    (hfits : ∀ i < tree.iterNodes.length, FitsOrder B i) :
    ∃ r, publish U b request env = (.ok r, (publishAll b (wanted U request tree env).1).2) ∧
      r.accepted = true ∧
      (publishAll b (wanted U request tree env).1).1 = .ok (wanted U request tree env).1 := by
  have hall : (publishAll b (wanted U request tree env).1).1 =
      .ok (wanted U request tree env).1 := by
    refine publishAll_fresh request.sessionId _ h (fun t ht => ?_) (nodup_wanted hkey)
      (parentsFirst_wanted tree) (fun k hk => by cases hk)
    obtain ⟨node, hnode, n, rfl⟩ := mem_wanted ht
    exact {
      valid := valid_taskForNode hnode n
      pending := rfl
      session := rfl
      fits := hfits _ (tree.orderIndex_lt hnode)
      absent := absent_shadow h (habsent _) }
  rw [publish_eq hprev hdry htree hkey,
    resultFromExisting_absent _ _ _ (nodup_wanted hkey) fun t _ => habsent _]
  rcases hrun : publishAll b (wanted U request tree env).1 with ⟨out, b'⟩
  rw [hrun] at hall
  obtain rfl := hall
  exact ⟨_, rfl, rfl, rfl⟩

end

end

end DefaultTaskPublisher

/-! ### The source of a task -/

def TaskDomain.metadataText (t : TaskDomain) (key : String) : Option String :=
  match t.dispatchConstraints.bind fun c => c.metadata.get? key with
  | some (.str s) => some s
  | _ => none

def TaskDomain.ComesFrom (t : TaskDomain) (kind : PublishSourceKind) (sourceId : String) : Prop :=
  t.metadataText "source_type" = some kind.toText ∧ t.metadataText "source_id" = some sourceId

theorem TaskDomain.ComesFrom.unique {t : TaskDomain} {kind kind' : PublishSourceKind}
    {sourceId sourceId' : String} (h : t.ComesFrom kind sourceId)
    (h' : t.ComesFrom kind' sourceId') : kind = kind' ∧ sourceId = sourceId' := by
  have hkind : kind.toText = kind'.toText := Option.some.inj (h.1.symm.trans h'.1)
  have hid : sourceId = sourceId' := Option.some.inj (h.2.symm.trans h'.2)
  refine ⟨?_, hid⟩
  cases kind <;> cases kind' <;> first | rfl | exact absurd hkind (by decide)

namespace PublishRequest

open ShadowedBus

/-- The store keeps the texts in the metadata of a task. -/
def KeepsTexts (B : Type) [ShadowedBus B] : Prop :=
  ∀ (c : TaskDispatchConstraints) (key s : String), c.metadata.get? key = some (.str s) →
    ((norm B (some c)).bind fun c => c.metadata.get? key) = some (.str s)

theorem keepsTexts_inMemory : KeepsTexts InMemoryTaskBus := fun _ _ _ h => h

theorem keepsTexts_sqlite : KeepsTexts SqliteTaskBus := by
  intro c key s h
  show (Codec.metadataDoc c.metadata).get? key = some (.str s)
  rw [Codec.metadataDoc, Dict.get?_map, h]
  rfl

variable {B : Type} [ShadowedBus B] {request : PublishRequest} {tree : NormalizedTaskTree}
  {node : NormalizedTaskNode} {ids roots : Dict String String} {env : PublishEnv}

theorem get?_dispatchConstraints {key : String} {v : PyValue}
    (hmem : (key, v) ∈ request.baseMetadata tree node) (htree : tree.metadata.get? key = none)
    (hnode : node.metadata.get? key = none) :
    (request.dispatchConstraints tree node).metadata.get? key = some v := by
  rw [dispatchConstraints, Dict.get?_ofList_append, Dict.get?_ofList_append, Dict.ofList_entries,
    Dict.ofList_entries, hnode, htree]
  exact (Dict.get?_ofList (DefaultTaskPublisher.nodup_baseMetadata request tree node)).mpr hmem

/-- **A task names the source of its request.** -/
theorem comesFrom_taskForNode (hkeeps : KeepsTexts B) {sourceId : String}
    (hsource : request.source.sourceId = some sourceId)
    (htree : ∀ key ∈ ["source_type", "source_id"], tree.metadata.get? key = none)
    (hnode : ∀ key ∈ ["source_type", "source_id"], node.metadata.get? key = none) (n : ℕ) :
    ((request.taskForNode tree ids roots env node n).mapConstraints (norm B)).ComesFrom
      request.source.sourceType sourceId := by
  have htext : ∀ key ∈ ["source_type", "source_id"], ∀ s,
      (key, PyValue.str s) ∈ request.baseMetadata tree node →
      ((request.taskForNode tree ids roots env node n).mapConstraints (norm B)).metadataText key =
        some s := by
    intro key hkey s hmem
    have hget := get?_dispatchConstraints hmem (htree key hkey) (hnode key hkey)
    have hkept : (((request.taskForNode tree ids roots env node n).mapConstraints
        (norm B)).dispatchConstraints.bind fun c => c.metadata.get? key) = some (.str s) :=
      hkeeps _ key s hget
    rw [TaskDomain.metadataText, hkept]
  refine ⟨htext _ (by simp) _ (by simp [baseMetadata]), htext _ (by simp) _ ?_⟩
  simp [baseMetadata, hsource, optText, Codec.optional, Codec.text]

end PublishRequest

/-! ### The publication of a plan -/

namespace DefaultPlanPublisher

open ShadowedBus AcceptingBus DefaultTaskPublisher PublishRequest

section

variable {B : Type} [TaskBus B]

theorem publishPlan_moves (U : Uuid5) (b : B) (store : SqlitePlanStore)
    (command : PublishPlanCommand) (env : PlanPublishEnv) :
    (publishPlan U b store command env).2.1 = b ∨
      ∃ plan nodes, ∃ h : PlanRequestOk command plan ((orderedPlanNodes nodes).map
          PlanTaskNode.normalized), plan.planId = command.planId ∧
        (publishPlan U b store command env).2.1 =
          (DefaultTaskPublisher.publish U b (planRequest command plan _ h) env.publish).2 := by
  unfold publishPlan
  split
  · exact .inl rfl
  · next plan hplan =>
    have hid := (SqlitePlanStore.plan_key_of_get (requirePlan_cases hplan)).2
    dsimp only
    split
    · exact .inl rfl
    split
    · exact .inl rfl
    split
    · split
      · exact .inl rfl
      · split <;> exact .inl rfl
    split
    · exact .inl rfl
    unfold publishNodes
    split
    · next h =>
      refine .inr ⟨plan, _, h, hid, ?_⟩
      rcases hpub : DefaultTaskPublisher.publish U b (planRequest command plan _ h) env.publish with
        ⟨e | r, b'⟩
      · rfl
      · dsimp only
        split
        · rfl
        · split <;> rfl
    · exact .inl rfl

end

variable {B : Type} [ShadowedBus B] {b : B} {m : InMemoryTaskBus} {U : Uuid5}
  {store : SqlitePlanStore} {command : PublishPlanCommand} {env : PlanPublishEnv} {plan : Plan}

/-- **A task that a publication of a plan has brought to the bus.** -/
theorem publishPlan_new (hkeeps : KeepsTexts B) (hsh : Shadow m b) {s i : String} {t : TaskDomain}
    (habsent : TaskBus.get b s i = .ok none)
    (hget : TaskBus.get (publishPlan U b store command env).2.1 s i = .ok (some t)) :
    t.ComesFrom .plan command.planId ∧ t.sessionId = command.sessionId := by
  rcases publishPlan_moves U b store command env with hsame | ⟨plan, nodes, h, hid, heq⟩
  · rw [hsame, habsent] at hget
    cases hget
  · rw [heq] at hget
    obtain ⟨tree, htree, node, hnode, n, rfl⟩ := publish_new hsh habsent hget
    cases htree
    rw [iterNodes_planTree] at hnode
    obtain ⟨node, -, rfl⟩ := List.mem_map.mp hnode
    have hmeta : ∀ key ∈ ["source_type", "source_id"],
        (planTree command plan _ h).metadata.get? key = none ∧
          node.normalized.metadata.get? key = none := by
      intro key hkey
      simp only [List.mem_cons, List.not_mem_nil, or_false] at hkey
      rcases hkey with rfl | rfl <;> exact ⟨rfl, rfl⟩
    rw [← hid]
    exact ⟨comesFrom_taskForNode hkeeps rfl (fun key hkey => (hmeta key hkey).1)
      (fun key hkey => (hmeta key hkey).2) n, rfl⟩

omit [ShadowedBus B] in
theorem publishPlan_cancelled [TaskBus B]
    (hplan : store.getPlan command.sessionId command.planId = some plan)
    (hstatus : plan.status = .cancelled) :
    (publishPlan U b store command env).2.1 = b ∧
      ∀ out, (publishPlan U b store command env).1 = .ok out → out.accepted = false := by
  unfold publishPlan
  split
  · exact ⟨rfl, fun out h => by cases h⟩
  · next plan' hrequire =>
    obtain rfl : plan' = plan := Option.some.inj ((requirePlan_cases hrequire).symm.trans hplan)
    dsimp only
    split
    · refine ⟨rfl, fun out h => ?_⟩
      cases h
      rfl
    · rw [if_pos (.inl hstatus)]
      refine ⟨rfl, fun out h => ?_⟩
      cases h
      rfl

/-- **A plan that is published for the first time**, on a bus without a task of its session. -/
theorem publishPlan_fresh {B : Type} [AcceptingBus B] {b : B} (hsh : Shadow m b)
    (hnorm : ∀ d c, dispatchConstraintsMatch (norm B d) (some c) = true → Kept B c)
    (hplan : store.getPlan command.sessionId command.planId = some plan)
    (hversion : command.expectedPlanVersion = none)
    (hstatus : ¬(plan.status = .cancelled ∨ plan.status = .archived))
    (hne : store.nodesOf command.sessionId command.planId ≠ [])
    (hnone : ∀ n ∈ store.nodesOf command.sessionId command.planId, n.publishedRef = none)
    (hreq : PlanRequestOk command plan ((orderedPlanNodes (store.nodesOf command.sessionId
      command.planId)).map PlanTaskNode.normalized))
    (hprev : DefaultTaskPublisher.preview (planRequest command plan _ hreq) = [])
    (hdry : command.publishOptions.dryRun = false)
    (habsent : ∀ i, TaskBus.get b command.sessionId i = .ok none)
    (hfits : ∀ i < (store.nodesOf command.sessionId command.planId).length, FitsOrder B i)
    (hwork : env.Working store command) :
    (∃ out, (publishPlan U b store command env).1 = .ok out ∧ out.accepted = true) ∧
      ∃ i t, TaskBus.get (publishPlan U b store command env).2.1 command.sessionId i =
        .ok (some t) := by
  have hlength : (planTree command plan _ hreq).iterNodes.length =
      (store.nodesOf command.sessionId command.planId).length := by
    rw [iterNodes_planTree, List.length_map]
    exact (sortOn_perm _ _).length_eq
  obtain ⟨r, hpub, hacc, -⟩ := @publish_fresh _ U (planRequest command plan _ hreq) _ env.publish
    B _ b command.idempotencyKey hsh rfl rfl hprev hdry habsent (by rwa [hlength])
  obtain ⟨b₁, hpub⟩ : ∃ b₁, DefaultTaskPublisher.publish U b (planRequest command plan _ hreq)
    env.publish = (.ok r, b₁) := ⟨_, hpub⟩
  have hrequire : requirePlan store command = .ok plan := by
    rw [requirePlan, hplan, hversion]
    rfl
  have hmeta := accepted_metadata rfl rfl (congrArg Prod.fst hpub) hacc
  obtain ⟨-, -, -, hstored⟩ := accepted_stored hsh rfl rfl hnorm hpub hacc
  have htasks : TasksStored U b₁ command (store.nodesOf command.sessionId command.planId) := by
    intro n hn
    obtain ⟨_, u, hu, hintent, -⟩ := hstored _ (mem_iterNodes_planTree (h := hreq) hn)
    exact ⟨u, hu, hintent⟩
  have hskip : ¬r.skipped = true := by simpa [PublishResult.accepted] using hacc
  have hdone := completed_finish hwork hplan hnone (nodeTaskIds_of_textDict hmeta)
    (fun n hn => get?_taskIds_planRequest env.publish hn) htasks rfl
  rw [publishPlan_eq hrequire hne hstatus hnone, publishNodes, dif_pos hreq, hpub]
  dsimp only
  rw [if_neg hskip, if_neg (by simp [hwork.no_fault])]
  refine ⟨hdone.accepted, ?_⟩
  obtain ⟨n, hn⟩ := List.exists_mem_of_ne_nil _ hne
  obtain ⟨u, hu, -⟩ := htasks n hn
  exact ⟨_, u, hu⟩

end DefaultPlanPublisher

end Taskweavn

