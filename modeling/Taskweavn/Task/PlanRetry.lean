import Taskweavn.Task.PlanPublisher

/-!
# Retrying a plan publish

A call of `publish_plan` that stops in the middle leaves tasks on the bus and
perhaps some references in the plan.  `retry_iff` says what the same command does
then, when nobody fails any more.

When the last write is missing the references are all there, and the second call
finds its own lineage.  When no reference was written, the task publisher is asked
again and compares the stored tasks with the plan; a database has made lists of the
tuples in their metadata, so this works on the in-memory bus only.  In between, the
plan is partially published, and stays so.
-/

namespace Taskweavn

open Lib Py

namespace DefaultTaskPublisher

section

open ShadowedBus PublishRequest

variable {B : Type} [ShadowedBus B] {b b₁ : B} {m : InMemoryTaskBus} {U : Uuid5}
  {request : PublishRequest} {tree : NormalizedTaskTree} {key : String} {env : PublishEnv}
  {r : PublishResult}

theorem accepted_metadata (hkey : request.idempotencyKey = some key)
    (htree : request.taskTree = some tree) (hpub : (publish U b request env).1 = .ok r)
    (hacc : r.accepted = true) :
    r.metadata.get? "node_task_ids" = some (textDict (request.taskIdsForRequest U tree env)) := by
  rcases accepted_publish hkey htree (Prod.ext hpub rfl) hacc with ⟨-, hex⟩ | ⟨out, -, rfl⟩
  · obtain ⟨rfl, _⟩ := resultFromExisting_accepted (nodup_wanted hkey) hex hacc
    simp [replayedResult, wanted, Dict.get?_ofList]
  · simp [publishedResult, wanted, Dict.get?_ofList]

/-- A request that was accepted is replayed at once, or refused because the store
did not keep its constraints. -/
theorem publish_again (h : Shadow m b) (hkey : request.idempotencyKey = some key)
    (htree : request.taskTree = some tree)
    (hnorm : ∀ d c, dispatchConstraintsMatch (norm B d) (some c) = true → Kept B c)
    (hpub : publish U b request env = (.ok r, b₁)) (hacc : r.accepted = true)
    (env' : PublishEnv) :
    ((∀ node ∈ tree.iterNodes, Kept B (request.dispatchConstraints tree node)) ∧
      ∃ r', publish U b₁ request env' = (.ok r', b₁) ∧ r'.accepted = true) ∨
    (¬(∀ node ∈ tree.iterNodes, Kept B (request.dispatchConstraints tree node)) ∧
      ∃ r', publish U b₁ request env' = (.ok r', b₁) ∧ r'.accepted = false) := by
  obtain ⟨hprev, hdry⟩ := accepted_cases (congrArg Prod.fst hpub) hacc
  obtain ⟨_, _, _, hstored⟩ := accepted_stored h hkey htree hnorm hpub hacc
  have hids : request.taskIdsForRequest U tree env' = request.taskIdsForRequest U tree env := by
    simp only [taskIdsForRequest, hkey]
  -- the stored task of a node, and what the comparison says of it
  have hfound : ∀ t ∈ (wanted U request tree env').1, ∃ u,
      TaskBus.get b₁ request.sessionId t.taskId = .ok (some u) ∧
      ∃ node ∈ tree.iterNodes, t.taskId = request.idempotentTaskId U key node ∧
        (taskMatchesExpected u t = true ↔ Kept B (request.dispatchConstraints tree node)) := by
    intro t ht
    obtain ⟨node, hnode, n', rfl⟩ := mem_wanted ht
    obtain ⟨n, u, hu, _, hmatch⟩ := hstored node hnode
    refine ⟨u, by rw [taskId_taskForNode hkey hnode]; exact hu, node, hnode,
      taskId_taskForNode hkey hnode n', ?_⟩
    rw [hids, ← hmatch]
    exact Iff.rfl
  have hsome : ∀ t, ∃ u, t ∈ (wanted U request tree env').1 →
      TaskBus.get b₁ request.sessionId t.taskId = .ok (some u) := by
    intro t
    by_cases ht : t ∈ (wanted U request tree env').1
    · obtain ⟨u, hu, _⟩ := hfound t ht
      exact ⟨u, fun _ => hu⟩
    · exact ⟨t, fun h => absurd h ht⟩
  choose u hu using hsome
  rw [publish_eq hprev hdry htree hkey]
  rcases resultFromExisting_present (wanted U request tree env').2.1
    (wanted U request tree env').2.2 env' wanted_ne_nil (nodup_wanted hkey) hu with
    ⟨hall, hres⟩ | ⟨⟨t, ht, hbad⟩, d, hres⟩
  · left
    rw [hres]
    refine ⟨?_, _, rfl, rfl⟩
    intro node hnode
    obtain ⟨n, hmem⟩ := exists_wanted U request env' hnode
    obtain ⟨v, hv, node', hnode', hid, hiff⟩ := hfound _ hmem
    rw [taskId_taskForNode hkey hnode] at hid
    obtain rfl : u _ = v := Option.some.inj (Except.ok.inj ((hu _ hmem).symm.trans hv))
    have hsame : node.nodeId = node'.nodeId := congrArg IdPayload.sourceNodeId (U.injective hid)
    obtain rfl : node = node' := List.inj_on_of_nodup_map tree.ids_nodup hnode hnode' hsame
    exact hiff.mp (hall _ hmem)
  · right
    rw [hres]
    refine ⟨?_, _, rfl, rfl⟩
    intro hkept
    obtain ⟨v, hv, node, hnode, _, hiff⟩ := hfound t ht
    obtain rfl : u t = v := Option.some.inj (Except.ok.inj ((hu t ht).symm.trans hv))
    rw [hiff.mpr (hkept node hnode)] at hbad
    cases hbad

end

end DefaultTaskPublisher

namespace DefaultPlanPublisher

/-! ### Where a call can stop -/

section

variable {B : Type} [TaskBus B] {b b₁ : B} {U : Uuid5} {store store' store₁ : SqlitePlanStore}
  {command : PublishPlanCommand} {plan : Plan} {nodes : List PlanTaskNode} {env : PlanPublishEnv}
  {r : PublishResult} {ids : Dict String String}

theorem publishPlan_eq (hplan : requirePlan store command = .ok plan)
    (hne : store.nodesOf command.sessionId command.planId ≠ [])
    (hstatus : ¬(plan.status = .cancelled ∨ plan.status = .archived))
    (hnone : ∀ n ∈ store.nodesOf command.sessionId command.planId, n.publishedRef = none) :
    publishPlan U b store command env =
      publishNodes U b store command plan (store.nodesOf command.sessionId command.planId) env := by
  have hall : ¬(store.nodesOf command.sessionId command.planId).all
      (fun n => n.publishedRef.isSome) = true := by
    obtain ⟨n, hn⟩ := List.exists_mem_of_ne_nil _ hne
    intro h
    have := List.all_eq_true.mp h n hn
    rw [hnone n hn] at this
    cases this
  have hany : ¬(store.nodesOf command.sessionId command.planId).any
      (fun n => n.publishedRef.isSome) = true := by
    intro h
    obtain ⟨n, hn, hsome⟩ := List.any_eq_true.mp h
    rw [hnone n hn] at hsome
    cases hsome
  have hlineage : existingLineage command (store.nodesOf command.sessionId command.planId) = none :=
    if_pos (.inr hall)
  unfold publishPlan
  simp only [hplan]
  rw [if_neg hne, if_neg hstatus, hlineage]
  exact if_neg hany

theorem stopped_cases
    (hnone : ∀ n ∈ store.nodesOf command.sessionId command.planId, n.publishedRef = none)
    (hstop : publishPlan U b store command env = (.error .collaborator, b₁, store₁)) :
    ∃ plan, requirePlan store command = .ok plan ∧
      store.nodesOf command.sessionId command.planId ≠ [] ∧
      ¬(plan.status = .cancelled ∨ plan.status = .archived) ∧
      publishNodes U b store command plan (store.nodesOf command.sessionId command.planId) env =
        (.error .collaborator, b₁, store₁) := by
  cases hplan : requirePlan store command with
  | error e =>
    simp only [publishPlan, hplan] at hstop
    cases hstop
  | ok plan =>
    by_cases hne : store.nodesOf command.sessionId command.planId = []
    · simp only [publishPlan, hplan] at hstop
      rw [if_pos hne] at hstop
      cases hstop
    · by_cases hstatus : plan.status = .cancelled ∨ plan.status = .archived
      · simp only [publishPlan, hplan] at hstop
        rw [if_neg hne, if_pos hstatus] at hstop
        cases hstop
      · rw [publishPlan_eq hplan hne hstatus hnone] at hstop
        exact ⟨plan, rfl, hne, hstatus, hstop⟩

theorem stopped_nodes (hstop : publishNodes U b store command plan nodes env =
      (.error .collaborator, b₁, store₁)) :
    ∃ h r, DefaultTaskPublisher.publish U b
        (planRequest command plan ((orderedPlanNodes nodes).map PlanTaskNode.normalized) h)
        env.publish = (.ok r, b₁) ∧ r.accepted = true ∧
      (env.fault = some .publisher ∧ store₁ = store ∨
        finish store command plan nodes r env = (.error .collaborator, store₁)) := by
  unfold publishNodes at hstop
  by_cases h : PlanRequestOk command plan ((orderedPlanNodes nodes).map PlanTaskNode.normalized)
  · rw [dif_pos h] at hstop
    rcases hpub : DefaultTaskPublisher.publish U b (planRequest command plan _ h) env.publish with
      ⟨_ | r, b'⟩
    · simp only [hpub] at hstop
      cases hstop
    · simp only [hpub] at hstop
      by_cases hskip : r.skipped = true
      · rw [if_pos hskip] at hstop
        cases hstop
      · rw [if_neg hskip] at hstop
        have hacc : r.accepted = true := by
          simpa [PublishResult.accepted] using hskip
        by_cases hf : env.fault = some .publisher
        · rw [if_pos hf] at hstop
          cases hstop
          exact ⟨h, r, hpub, hacc, .inl ⟨hf, rfl⟩⟩
        · rw [if_neg hf] at hstop
          obtain ⟨hout, hb, hs⟩ : (finish store command plan nodes r env).1 = .error .collaborator ∧
              b' = b₁ ∧ (finish store command plan nodes r env).2 = store₁ := by
            simpa only [Prod.mk.injEq] using hstop
          exact ⟨h, r, hb ▸ hpub, hacc, .inr (Prod.ext hout hs)⟩
  · rw [dif_neg h] at hstop
    cases hstop

theorem savePublishedPlan_cases (env : PlanPublishEnv) (store : SqlitePlanStore) (plan : Plan) :
    (env.fault = some .plan ∧ savePublishedPlan env store plan = (.error .collaborator, store)) ∨
    (∃ e, savePublishedPlan env store plan = (.error (.store e), store)) ∨
    ∃ current h, store.getPlan plan.sessionId plan.planId = some current ∧
      savePublishedPlan env store plan =
        (.ok (), store.putPlan (({ plan with status := .published } : Plan).copied current
          env.planClock) h) := by
  unfold savePublishedPlan
  by_cases hf : env.fault = some .plan
  · rw [if_pos hf]
    exact .inl ⟨hf, rfl⟩
  · rw [if_neg hf]
    rcases SqlitePlanStore.savePlan_cases store { plan with status := .published } plan.version
      env.planClock with ⟨e, he⟩ | ⟨current, h, hcur, _, hok⟩
    · exact .inr (.inl ⟨e, by rw [he]⟩)
    · exact .inr (.inr ⟨current, h, hcur, by rw [hok]⟩)

theorem stopped_finish (hids : nodeTaskIds r = .ok ids)
    (hstop : finish store command plan nodes r env = (.error .collaborator, store₁)) :
    savePublishedNodes env 0 store (nodes.map (fun n => (n, (ids.get? n.taskNodeId).getD ""))) =
      (.error .collaborator, store₁) ∨
    (env.fault = some .plan ∧
      savePublishedNodes env 0 store (nodes.map (fun n => (n, (ids.get? n.taskNodeId).getD ""))) =
        (.ok (), store₁)) := by
  unfold finish at hstop
  simp only [hids] at hstop
  rcases hsave : savePublishedNodes env 0 store
    (nodes.map (fun n => (n, (ids.get? n.taskNodeId).getD ""))) with ⟨e | u, store₂⟩
  · simp only [hsave] at hstop
    cases hstop
    exact .inl rfl
  · simp only [hsave] at hstop
    right
    rcases savePublishedPlan_cases env store₂ plan with ⟨hf, heq⟩ | ⟨e, heq⟩ | ⟨_, _, _, heq⟩
    · rw [heq] at hstop
      cases hstop
      exact ⟨hf, rfl⟩
    · rw [heq] at hstop
      cases hstop
    · rw [heq] at hstop
      cases hstop

theorem requirePlan_cases (h : requirePlan store command = .ok plan) :
    store.getPlan command.sessionId command.planId = some plan := by
  unfold requirePlan at h
  cases hget : store.getPlan command.sessionId command.planId with
  | none =>
    rw [hget] at h
    cases h
  | some p =>
    simp only [hget] at h
    cases hc : SqlitePlanStore.checkExpected p.version command.expectedPlanVersion
      command.planId with
    | error e =>
      rw [hc] at h
      cases h
    | ok _ =>
      rw [hc] at h
      cases h
      rfl

theorem requirePlan_again (hversion : command.expectedPlanVersion = none)
    (h : requirePlan store command = .ok plan) (hplans : store₁.plans = store.plans) :
    requirePlan store₁ command = .ok plan := by
  have hget := requirePlan_cases h
  rw [SqlitePlanStore.getPlan, ← hplans] at hget
  unfold requirePlan
  rw [SqlitePlanStore.getPlan, hget]
  simp only [SqlitePlanStore.checkExpected, hversion]

end

end DefaultPlanPublisher

/-! ### The second call -/

/-- Nobody fails: no collaborator raises, and no clock is behind the rows. -/
structure PlanPublishEnv.Working (env : PlanPublishEnv) (store : SqlitePlanStore)
    (command : PublishPlanCommand) : Prop where
  no_fault : env.fault = none
  node_clock : ∀ n ∈ store.nodesOf command.sessionId command.planId, ∀ i,
    n.createdAt ≤ env.nodeClock i
  plan_clock : ∀ plan, store.getPlan command.sessionId command.planId = some plan →
    plan.createdAt ≤ env.planClock

namespace DefaultPlanPublisher

/-- **The publish is completed**: the command was accepted, the plan is published,
every node that it had is still there and has the reference of its task, which is on
the bus; and no task was added to those of the first call. -/
structure Completed {B : Type} [TaskBus B] (U : Uuid5) (command : PublishPlanCommand)
    (nodes : List PlanTaskNode) (b₁ : B)
    (out : Except PlanPublishError PublishPlanResult × B × SqlitePlanStore) : Prop where
  accepted : ∃ r, out.1 = .ok r ∧ r.accepted = true
  same_tasks : out.2.1 = b₁
  plan_published : ∃ plan, out.2.2.getPlan command.sessionId command.planId = some plan ∧
    plan.status = .published
  same_nodes : ∀ n ∈ nodes, ∃ n' ∈ out.2.2.nodesOf command.sessionId command.planId,
    n'.taskNodeId = n.taskNodeId
  nodes_published : ∀ n ∈ out.2.2.nodesOf command.sessionId command.planId,
    n.publishedRef = some (.published (command.taskId U n.taskNodeId)) ∧
    ∃ u, TaskBus.get b₁ command.sessionId (command.taskId U n.taskNodeId) = .ok (some u) ∧
      u.intent = n.intent

section

variable {B : Type} [TaskBus B] {b b₁ : B} {U : Uuid5} {store store' store₁ : SqlitePlanStore}
  {command : PublishPlanCommand} {plan : Plan} {nodes : List PlanTaskNode} {env : PlanPublishEnv}
  {r : PublishResult} {ids : Dict String String}
  {out : Except PlanPublishError PublishPlanResult}

theorem savePublishedPlan_ok (hplan : store.getPlan command.sessionId command.planId = some plan)
    (hfault : env.fault = none) (hclock : plan.createdAt ≤ env.planClock) :
    ∃ h, savePublishedPlan env store plan =
      (.ok (), store.putPlan (({ plan with status := .published } : Plan).copied plan
        env.planClock) h) := by
  obtain ⟨hs, hp⟩ := SqlitePlanStore.plan_key_of_get hplan
  obtain ⟨hfields, _, _, harch⟩ := (store.plans_ok _ _ hplan).2
  have hv : (({ plan with status := .published } : Plan).copied plan env.planClock).Valid :=
    ⟨hfields, Nat.le_add_left 1 _, hclock, harch⟩
  rw [← hs, ← hp] at hplan
  obtain ⟨h, hok⟩ := SqlitePlanStore.savePlan_ok
    (show store.getPlan ({ plan with status := .published } : Plan).sessionId _ = _ from hplan) hv
  refine ⟨h, ?_⟩
  unfold savePublishedPlan
  rw [if_neg (by simp [hfault]), hok]

theorem pairs_of_ids
    (hids : ∀ n ∈ nodes, ids.get? n.taskNodeId = some (command.taskId U n.taskNodeId)) :
    nodes.map (fun n => (n, (ids.get? n.taskNodeId).getD "")) =
      nodes.map (fun n => (n, command.taskId U n.taskNodeId)) := by
  refine List.map_congr_left ?_
  intro n hn
  rw [hids n hn]
  rfl

def TasksStored (U : Uuid5) (b₁ : B) (command : PublishPlanCommand) (nodes : List PlanTaskNode) :
    Prop :=
  ∀ n ∈ nodes, ∃ u,
    TaskBus.get b₁ command.sessionId (command.taskId U n.taskNodeId) = .ok (some u) ∧
      u.intent = n.intent

theorem completed_finish (hwork : env.Working store command)
    (hplan : store.getPlan command.sessionId command.planId = some plan)
    (hnone : ∀ n ∈ store.nodesOf command.sessionId command.planId, n.publishedRef = none)
    (hnode : nodeTaskIds r = .ok ids)
    (hids : ∀ n ∈ store.nodesOf command.sessionId command.planId,
      ids.get? n.taskNodeId = some (command.taskId U n.taskNodeId))
    (htasks : TasksStored U b₁ command (store.nodesOf command.sessionId command.planId))
    (hfin : finish store command plan (store.nodesOf command.sessionId command.planId) r env =
      (out, store')) :
    Completed U command (store.nodesOf command.sessionId command.planId) b₁ (out, b₁, store') := by
  have hfault : ∀ j, env.fault ≠ some (.node j) := by
    intro j
    rw [hwork.no_fault]
    simp
  obtain ⟨hget, hnodup⟩ := pairs_ok store (s := command.sessionId)
    (p := command.planId) (command.taskId U)
  have hsaved : (savePublishedNodes env 0 store ((store.nodesOf command.sessionId
      command.planId).map (fun n => (n, command.taskId U n.taskNodeId)))).1 = .ok () := by
    refine savePublishedNodes_ok _ 0 hget hnodup ?_ ?_ hfault
    · intro x hx
      obtain ⟨n, _, rfl⟩ := List.mem_map.mp hx
      exact U.ne_empty _
    · intro x hx j
      obtain ⟨n, hn, rfl⟩ := List.mem_map.mp hx
      exact hwork.node_clock n hn j
  rcases hsave : savePublishedNodes env 0 store ((store.nodesOf command.sessionId
      command.planId).map (fun n => (n, command.taskId U n.taskNodeId))) with ⟨res, store₂⟩
  rw [hsave] at hsaved
  obtain rfl : res = .ok () := hsaved
  obtain ⟨hplans, _, hthere, hall, _⟩ := nodesOf_saved hnone hsave
  have hplan₂ : store₂.getPlan command.sessionId command.planId = some plan := by
    rw [SqlitePlanStore.getPlan, hplans]
    exact hplan
  obtain ⟨hv, hok⟩ := savePublishedPlan_ok hplan₂ hwork.no_fault (hwork.plan_clock plan hplan)
  have hkey := SqlitePlanStore.plan_key_of_get hplan
  unfold finish at hfin
  simp only [hnode, pairs_of_ids hids, hsave, hok] at hfin
  cases hfin
  refine ⟨⟨_, rfl, rfl⟩, rfl,
    ⟨({ plan with status := .published } : Plan).copied plan env.planClock, ?_, rfl⟩, ?_, ?_⟩
  · rw [← hkey.1, ← hkey.2]
    exact SqlitePlanStore.getPlan_putPlan hv
  · exact hthere
  · intro n' hn'
    obtain ⟨n, hn, now, rfl⟩ := hall rfl n' hn'
    exact ⟨rfl, htasks n hn⟩

theorem completed_lineage (hwork : env.Working store command)
    (hplan : requirePlan store command = .ok plan)
    (hne : store.nodesOf command.sessionId command.planId ≠ [])
    (hstatus : ¬(plan.status = .cancelled ∨ plan.status = .archived))
    (hrefs : ∀ n ∈ store.nodesOf command.sessionId command.planId,
      n.publishedRef = some (.published (command.taskId U n.taskNodeId)))
    (hthere : ∀ n ∈ nodes, ∃ n' ∈ store.nodesOf command.sessionId command.planId,
      n'.taskNodeId = n.taskNodeId)
    (htasks : TasksStored U b₁ command (store.nodesOf command.sessionId command.planId)) :
    Completed U command nodes b₁ (publishPlan U b₁ store command env) := by
  have hget := requirePlan_cases hplan
  have hall : (store.nodesOf command.sessionId command.planId).all
      (fun n => n.publishedRef.isSome) = true := by
    refine List.all_eq_true.mpr ?_
    intro n hn
    rw [hrefs n hn]
    rfl
  obtain ⟨result, hlineage, hacc⟩ : ∃ result, existingLineage command
      (store.nodesOf command.sessionId command.planId) = some result ∧ result.accepted = true := by
    unfold existingLineage
    rw [if_neg (by simp [hne, hall])]
    exact ⟨_, rfl, rfl⟩
  have hnodes : ∀ n ∈ store.nodesOf command.sessionId command.planId,
      n.publishedRef = some (.published (command.taskId U n.taskNodeId)) ∧
      ∃ u, TaskBus.get b₁ command.sessionId (command.taskId U n.taskNodeId) = .ok (some u) ∧
        u.intent = n.intent := fun n hn => ⟨hrefs n hn, htasks n hn⟩
  unfold publishPlan
  simp only [hplan]
  rw [if_neg hne, if_neg hstatus, hlineage]
  by_cases hpub : plan.status = .published
  · simp only [hpub, if_true]
    exact ⟨⟨_, rfl, hacc⟩, rfl, ⟨plan, hget, hpub⟩, hthere, hnodes⟩
  · obtain ⟨hv, hok⟩ := savePublishedPlan_ok hget hwork.no_fault (hwork.plan_clock plan hget)
    have hkey := SqlitePlanStore.plan_key_of_get hget
    simp only [hpub, if_false, hok]
    refine ⟨⟨_, rfl, hacc⟩, rfl,
      ⟨({ plan with status := .published } : Plan).copied plan env.planClock, ?_, rfl⟩,
      hthere, hnodes⟩
    rw [← hkey.1, ← hkey.2]
    exact SqlitePlanStore.getPlan_putPlan hv

theorem skipped_mixed (hplan : requirePlan store command = .ok plan)
    (hstatus : ¬(plan.status = .cancelled ∨ plan.status = .archived))
    (hsome : ∃ n ∈ store.nodesOf command.sessionId command.planId, n.publishedRef ≠ none)
    (hnone : ∃ n ∈ store.nodesOf command.sessionId command.planId, n.publishedRef = none) :
    publishPlan U b₁ store command env =
      (.ok (skipped command plan.planId .partiallyPublished), b₁, store) := by
  obtain ⟨n, hn, hn'⟩ := hsome
  obtain ⟨n', hmem, hn''⟩ := hnone
  have hne : store.nodesOf command.sessionId command.planId ≠ [] := List.ne_nil_of_mem hn
  have hall : ¬(store.nodesOf command.sessionId command.planId).all
      (fun n => n.publishedRef.isSome) = true := by
    intro h
    have := List.all_eq_true.mp h n' hmem
    rw [hn''] at this
    cases this
  have hany : (store.nodesOf command.sessionId command.planId).any
      (fun n => n.publishedRef.isSome) = true :=
    List.any_eq_true.mpr ⟨n, hn, Option.isSome_iff_ne_none.mpr hn'⟩
  have hlineage : existingLineage command (store.nodesOf command.sessionId command.planId) = none :=
    if_pos (.inr hall)
  unfold publishPlan
  simp only [hplan]
  rw [if_neg hne, if_neg hstatus, hlineage]
  exact if_pos hany

end

/-! ### When a retry completes the publish -/

open ShadowedBus DefaultTaskPublisher

section

variable {B : Type} [ShadowedBus B] {b b₁ : B} {m : InMemoryTaskBus} {U : Uuid5}
  {store store₁ : SqlitePlanStore} {command : PublishPlanCommand} {env : PlanPublishEnv}

/-- Every task of the plan is kept by the store as the publisher compares it. -/
def KeptPlan (B : Type) [ShadowedBus B] (store : SqlitePlanStore) (command : PublishPlanCommand) :
    Prop :=
  ∀ plan h, requirePlan store command = .ok plan →
    ∀ node ∈ (planTree command plan ((orderedPlanNodes (store.nodesOf command.sessionId
      command.planId)).map PlanTaskNode.normalized) h).iterNodes,
      Kept B ((planRequest command plan _ h).dispatchConstraints (planTree command plan _ h) node)

theorem retry_unwritten {plan : Plan} {r : PublishResult} (h : Shadow m b)
    (hnorm : ∀ d c, dispatchConstraintsMatch (norm B d) (some c) = true → Kept B c)
    (hplan : requirePlan store command = .ok plan)
    (hne : store.nodesOf command.sessionId command.planId ≠ [])
    (hstatus : ¬(plan.status = .cancelled ∨ plan.status = .archived))
    (hnone : ∀ n ∈ store.nodesOf command.sessionId command.planId, n.publishedRef = none)
    (hreq : PlanRequestOk command plan ((orderedPlanNodes (store.nodesOf command.sessionId
      command.planId)).map PlanTaskNode.normalized))
    (hpub : DefaultTaskPublisher.publish U b (planRequest command plan _ hreq) env.publish =
      (.ok r, b₁)) (hacc : r.accepted = true)
    (htasks : TasksStored U b₁ command (store.nodesOf command.sessionId command.planId))
    {env' : PlanPublishEnv} (hwork : env'.Working store command) :
    Completed U command (store.nodesOf command.sessionId command.planId) b₁
        (publishPlan U b₁ store command env') ↔ KeptPlan B store command := by
  have hiff : KeptPlan B store command ↔ ∀ node ∈ (planTree command plan _ hreq).iterNodes,
      Kept B ((planRequest command plan _ hreq).dispatchConstraints
        (planTree command plan _ hreq) node) := by
    constructor
    · intro hkept
      exact hkept plan hreq hplan
    · intro hkept plan' h' hplan'
      obtain rfl : plan = plan' := Except.ok.inj (hplan.symm.trans hplan')
      exact hkept
  rw [publishPlan_eq hplan hne hstatus hnone, hiff]
  unfold publishNodes
  rw [dif_pos hreq]
  rcases publish_again h rfl rfl hnorm hpub hacc env'.publish with
    ⟨hkept, r', hr', hacc'⟩ | ⟨hkept, r', hr', hacc'⟩
  · refine iff_of_true ?_ hkept
    have hskip : ¬r'.skipped = true := by simpa [PublishResult.accepted] using hacc'
    have hmeta := accepted_metadata rfl rfl (congrArg Prod.fst hr') hacc'
    simp only [hr']
    rw [if_neg hskip, if_neg (by simp [hwork.no_fault])]
    exact completed_finish hwork (requirePlan_cases hplan) hnone (nodeTaskIds_of_textDict hmeta)
      (fun n hn => get?_taskIds_planRequest env'.publish hn) htasks rfl
  · refine iff_of_false ?_ hkept
    have hskip : r'.skipped = true := by simpa [PublishResult.accepted] using hacc'
    simp only [hr']
    rw [if_pos hskip]
    rintro ⟨⟨res, hres, hgood⟩, _⟩
    cases hres
    cases hgood

/-- **A retry completes the publish exactly when** only the status of the plan was
missing, or no reference at all and the store keeps the tasks. -/
theorem retry_iff (h : Shadow m b)
    (hnorm : ∀ d c, dispatchConstraintsMatch (norm B d) (some c) = true → Kept B c)
    (hversion : command.expectedPlanVersion = none)
    (hnone : ∀ n ∈ store.nodesOf command.sessionId command.planId, n.publishedRef = none)
    (hstop : publishPlan U b store command env = (.error .collaborator, b₁, store₁))
    {env' : PlanPublishEnv} (hwork : env'.Working store₁ command) :
    Completed U command (store.nodesOf command.sessionId command.planId) b₁
        (publishPlan U b₁ store₁ command env') ↔
      env.fault = some .plan ∨
      ((env.fault = some .publisher ∨ env.fault = some (.node 0)) ∧ KeptPlan B store command) := by
  obtain ⟨plan, hplan, hne, hstatus, hnodes⟩ := stopped_cases hnone hstop
  obtain ⟨hreq, r, hpub, hacc, hwhere⟩ := stopped_nodes hnodes
  have hmeta := accepted_metadata rfl rfl (congrArg Prod.fst hpub) hacc
  have hids := fun n hn => get?_taskIds_planRequest (U := U) (h := hreq) (n := n) env.publish hn
  obtain ⟨_, _, _, hstored⟩ := accepted_stored h rfl rfl hnorm hpub hacc
  have htasks : TasksStored U b₁ command (store.nodesOf command.sessionId command.planId) := by
    intro n hn
    obtain ⟨_, u, hu, hint, _⟩ := hstored _ (mem_iterNodes_planTree (h := hreq) hn)
    exact ⟨u, hu, hint⟩
  have hunwritten : store₁ = store → (Completed U command (store.nodesOf command.sessionId
      command.planId) b₁ (publishPlan U b₁ store₁ command env') ↔ KeptPlan B store command) := by
    rintro rfl
    exact retry_unwritten h hnorm hplan hne hstatus hnone hreq hpub hacc htasks hwork
  rcases hwhere with ⟨hf, hs⟩ | hfin
  · rw [hunwritten hs]
    simp [hf]
  · rcases stopped_finish (nodeTaskIds_of_textDict hmeta) hfin with hsave | ⟨hf, hsave⟩
    · -- some nodes were saved, or none
      rw [pairs_of_ids hids] at hsave
      obtain ⟨hplans, _, _, _, hfault⟩ := nodesOf_saved hnone hsave
      obtain ⟨k, hf, hzero, hleft, hwritten⟩ := hfault rfl
      by_cases hk : k = 0
      · rw [hunwritten (hzero hk)]
        simp [hf, hk]
      · rw [skipped_mixed (requirePlan_again hversion hplan hplans) hstatus (hwritten hk) hleft]
        refine iff_of_false ?_ (by simp [hf, hk])
        rintro ⟨⟨res, hres, hgood⟩, _⟩
        cases hres
        cases hgood
    · -- all nodes were saved
      rw [pairs_of_ids hids] at hsave
      obtain ⟨hplans, hback, hthere, hall, _⟩ := nodesOf_saved hnone hsave
      refine iff_of_true ?_ (.inl hf)
      have hne₁ : store₁.nodesOf command.sessionId command.planId ≠ [] := by
        obtain ⟨n, hn⟩ := List.exists_mem_of_ne_nil _ hne
        obtain ⟨n', hn', _⟩ := hthere n hn
        exact List.ne_nil_of_mem hn'
      refine completed_lineage hwork (requirePlan_again hversion hplan hplans) hne₁ hstatus ?_
        hthere ?_
      · intro n' hn'
        obtain ⟨n, _, now, rfl⟩ := hall rfl n' hn'
        rfl
      · intro n' hn'
        obtain ⟨n, hn, now, rfl⟩ := hall rfl n' hn'
        exact htasks n hn

end

theorem not_kept_sqlite {command : PublishPlanCommand} {plan : Plan}
    {roots : List NormalizedTaskNode} (h : PlanRequestOk command plan roots) (n : PlanTaskNode) :
    ¬Kept SqliteTaskBus ((planRequest command plan _ h).dispatchConstraints
      (planTree command plan _ h) n.normalized) := by
  rw [kept_sqlite_node_iff]
  intro hstable
  have hget : ((planRequest command plan _ h).suppliedMetadata (planTree command plan _ h)
      n.normalized).get? "depends_on" = some (textTuple n.dependsOn) := by
    rw [PublishRequest.suppliedMetadata, ← List.cons_append, Dict.get?_ofList_append,
      Dict.ofList_entries]
    have : n.normalized.metadata.get? "depends_on" = some (textTuple n.dependsOn) := by
      rw [PlanTaskNode.normalized, Dict.get?_ofList (by simp)]
      simp
    rw [this, Option.some_or]
  have hjson := hstable "depends_on" _ hget (by decide)
  cases hjson

/-- **Which publishes a retry can complete.**  For every plan none of whose nodes is
published, every point at which the first call can stop, and every bus as it can be
reached. -/
theorem completed_iff (U : Uuid5) (pre : List BusCall) (store store₁ : SqlitePlanStore)
    (command : PublishPlanCommand) (hversion : command.expectedPlanVersion = none)
    (hnone : ∀ n ∈ store.nodesOf command.sessionId command.planId, n.publishedRef = none)
    (env env' : PlanPublishEnv) (hwork : env'.Working store₁ command) :
    (∀ b₁, publishPlan U (TaskBus.run InMemoryTaskBus.empty pre) store command env =
        (.error .collaborator, b₁, store₁) →
      (Completed U command (store.nodesOf command.sessionId command.planId) b₁
          (publishPlan U b₁ store₁ command env') ↔
        env.fault = some .plan ∨ env.fault = some .publisher ∨ env.fault = some (.node 0))) ∧
    (∀ b₁, publishPlan U (TaskBus.run SqliteTaskBus.empty pre) store command env =
        (.error .collaborator, b₁, store₁) →
      (Completed U command (store.nodesOf command.sessionId command.planId) b₁
          (publishPlan U b₁ store₁ command env') ↔
        env.fault = some .plan)) := by
  constructor
  · intro b₁ hstop
    obtain ⟨m, hm⟩ := shadow_run shadow_inMemory_empty pre
    rw [retry_iff hm (fun _ c _ => kept_inMemory c) hversion hnone hstop hwork]
    have hkept : KeptPlan InMemoryTaskBus store command :=
      fun _ _ _ _ _ => kept_inMemory _
    simp only [hkept, and_true]
  · intro b₁ hstop
    obtain ⟨m, hm⟩ := shadow_run shadow_sqlite_empty pre
    rw [retry_iff hm kept_of_match_sqlite hversion hnone hstop hwork]
    have hnot : ¬KeptPlan SqliteTaskBus store command := by
      intro hkept
      obtain ⟨plan, hplan, hne, _, hnodes⟩ := stopped_cases hnone hstop
      obtain ⟨hreq, _⟩ := stopped_nodes hnodes
      obtain ⟨n, hn⟩ := List.exists_mem_of_ne_nil _ hne
      exact not_kept_sqlite hreq n (hkept plan hreq hplan _ (mem_iterNodes_planTree hn))
    simp only [hnot, and_false, or_false]

/-! ### A concrete plan -/

def sampleCommand : PublishPlanCommand where
  commandId := "command"
  sessionId := "s"
  planId := "p"
  idempotencyKey := "k"
  fields_ok := by decide

def sampleEnv (fault : Option PlanFault) : PlanPublishEnv where
  publish := .sample
  nodeClock _ := .afterNoon
  planClock := .afterNoon
  fault := fault

/-- A first call that stops. -/
abbrev sampleStop {B : Type} [TaskBus B] (bus : B) (fault : PlanFault) :
    Except PlanPublishError PublishPlanResult × B × SqlitePlanStore :=
  publishPlan Uuid5.sample bus .sample sampleCommand (sampleEnv (some fault))

theorem working_sample (store : SqlitePlanStore)
    (hnodes : (store.nodesOf "s" "p").all (fun n => decide (n.createdAt = Plan.sample.createdAt)) =
      true)
    (hplan : (store.getPlan "s" "p").all (fun p => decide (p.createdAt = Plan.sample.createdAt)) =
      true) : (sampleEnv none).Working store sampleCommand := by
  have hle : Plan.sample.createdAt ≤ (sampleEnv none).planClock := by decide
  refine ⟨rfl, ?_, ?_⟩
  · intro n hn i
    rw [of_decide_eq_true (List.all_eq_true.mp hnodes n hn)]
    exact hle
  · intro plan hget
    rw [show store.getPlan "s" "p" = some plan from hget] at hplan
    rw [of_decide_eq_true (Option.all_some.symm.trans hplan)]
    exact hle

/-- The writes into the plan are missing, and the write of its status. -/
theorem completed_sample :
    (∃ b₁ store₁, sampleStop InMemoryTaskBus.empty .publisher = (.error .collaborator, b₁, store₁) ∧
      Completed Uuid5.sample sampleCommand (SqlitePlanStore.sample.nodesOf "s" "p") b₁
        (publishPlan Uuid5.sample b₁ store₁ sampleCommand (sampleEnv none))) ∧
    (∃ b₁ store₁, sampleStop SqliteTaskBus.empty .plan = (.error .collaborator, b₁, store₁) ∧
      Completed Uuid5.sample sampleCommand (SqlitePlanStore.sample.nodesOf "s" "p") b₁
        (publishPlan Uuid5.sample b₁ store₁ sampleCommand (sampleEnv none))) := by
  have hnone : ∀ n ∈ SqlitePlanStore.sample.nodesOf "s" "p", n.publishedRef = none := by
    have :
        (SqlitePlanStore.sample.nodesOf "s" "p").all (fun n => n.publishedRef.isNone) = true := by
      decide +kernel
    intro n hn
    simpa using List.all_eq_true.mp this n hn
  constructor
  · have hstop : (sampleStop InMemoryTaskBus.empty .publisher).1 = .error .collaborator := by
      decide +kernel
    have hwork := working_sample (sampleStop InMemoryTaskBus.empty .publisher).2.2
      (by decide +kernel) (by decide +kernel)
    refine ⟨_, _, Prod.ext hstop rfl, ?_⟩
    exact ((completed_iff Uuid5.sample [] .sample _ sampleCommand rfl hnone
      (sampleEnv (some .publisher)) (sampleEnv none) hwork).1 _ (Prod.ext hstop rfl)).mpr
        (.inr (.inl rfl))
  · have hstop : (sampleStop SqliteTaskBus.empty .plan).1 = .error .collaborator := by
      decide +kernel
    have hwork := working_sample (sampleStop SqliteTaskBus.empty .plan).2.2
      (by decide +kernel) (by decide +kernel)
    refine ⟨_, _, Prod.ext hstop rfl, ?_⟩
    exact ((completed_iff Uuid5.sample [] .sample _ sampleCommand rfl hnone
      (sampleEnv (some .plan)) (sampleEnv none) hwork).2 _ (Prod.ext hstop rfl)).mpr rfl

/-- One node was saved; and a database does not keep the tasks. -/
theorem retry_fails :
    (∃ b₁ store₁, sampleStop InMemoryTaskBus.empty (.node 1) = (.error .collaborator, b₁, store₁) ∧
      ∃ r, (publishPlan Uuid5.sample b₁ store₁ sampleCommand (sampleEnv none)).1 = .ok r ∧
        r.accepted = false) ∧
    (∃ b₁ store₁, sampleStop SqliteTaskBus.empty .publisher = (.error .collaborator, b₁, store₁) ∧
      ∃ r, (publishPlan Uuid5.sample b₁ store₁ sampleCommand (sampleEnv none)).1 = .ok r ∧
        r.accepted = false) := by
  have hrefused : ∀ {out : Except PlanPublishError PublishPlanResult},
      out.toOption.map PublishPlanResult.accepted = some false →
        ∃ r, out = .ok r ∧ r.accepted = false := by
    intro out h
    cases out with
    | error e => cases h
    | ok r => exact ⟨r, rfl, Option.some.inj h⟩
  constructor
  · have hstop : (sampleStop InMemoryTaskBus.empty (.node 1)).1 = .error .collaborator := by
      decide +kernel
    refine ⟨_, _, Prod.ext hstop rfl, hrefused ?_⟩
    decide +kernel
  · have hstop : (sampleStop SqliteTaskBus.empty .publisher).1 = .error .collaborator := by
      decide +kernel
    refine ⟨_, _, Prod.ext hstop rfl, hrefused ?_⟩
    decide +kernel

end DefaultPlanPublisher

end Taskweavn
