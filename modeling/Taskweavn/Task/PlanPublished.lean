import Taskweavn.Task.PlanRetry

/-!
# What an accepted publication has done

A call of `publish_plan` that is accepted either finds every node published, and then it
writes no node and no task, or it finds none published, and then every node has its task on
the bus and its reference in the plan, whatever its readiness was (`accepted_publishPlan`).
No task comes to the bus beside those of the nodes (`publish_absent`).
-/

namespace Taskweavn

open Lib Py

/-! ### The bus -/

namespace DefaultTaskPublisher

open ShadowedBus PublishRequest

variable {B : Type} [ShadowedBus B] {b b₁ : B} {m : InMemoryTaskBus} {U : Uuid5}
  {request : PublishRequest} {tree : NormalizedTaskTree} {key : String} {env : PublishEnv}
  {r : PublishResult} {s i : String}

theorem shadow_absent (h : Shadow m b) : TaskBus.get b s i = .ok none ↔ m.get s i = none := by
  constructor
  · intro hb
    cases hm : m.get s i with
    | none => rfl
    | some t =>
      by_cases hr : Readable B t
      · rw [get_readable h hm hr] at hb
        cases hb
      · obtain ⟨-, e, he⟩ := get_broken h hm hr
        rw [he] at hb
        cases hb
  · exact get_none h

theorem publishAll_absent : ∀ (tasks : List TaskDomain) {b b₁ : B} {m : InMemoryTaskBus}
    {out : List TaskDomain}, Shadow m b → (∀ t ∈ tasks, t.Valid) →
    publishAll b tasks = (.ok out, b₁) → TaskBus.get b s i = .ok none →
    (∀ t ∈ tasks, (t.sessionId, t.taskId) ≠ (s, i)) → TaskBus.get b₁ s i = .ok none := by
  intro tasks
  induction tasks with
  | nil =>
    intro b b₁ m out _ _ hpub habsent _
    cases hpub
    exact habsent
  | cons t rest ih =>
    intro b b₁ m out h hv hpub habsent hne
    rcases hp : TaskBus.publish b t with ⟨_ | u, b'⟩
    · simp only [publishAll, hp] at hpub
      cases hpub
    · obtain ⟨-, hsh, -, -⟩ := publish_shadow h (hv t List.mem_cons_self) (congrArg Prod.fst hp)
      rw [hp] at hsh
      rcases hrest : publishAll b' rest with ⟨_ | others, b''⟩
      · simp only [publishAll, hp, hrest] at hpub
        cases hpub
      · simp only [publishAll, hp, hrest] at hpub
        cases hpub
        refine ih hsh (fun t' ht' => hv t' (List.mem_cons_of_mem _ ht')) hrest ?_
          (fun t' ht' => hne t' (List.mem_cons_of_mem _ ht'))
        rw [shadow_absent hsh]
        exact get_publish_absent ((shadow_absent h).mp habsent) (hne t List.mem_cons_self)

/-- **No other task comes to the bus.** -/
theorem publish_absent (h : Shadow m b) (hkey : request.idempotencyKey = some key)
    (htree : request.taskTree = some tree) (hpub : publish U b request env = (.ok r, b₁))
    (hacc : r.accepted = true) (habsent : TaskBus.get b s i = .ok none)
    (hne : request.sessionId = s → ∀ node ∈ tree.iterNodes,
      request.idempotentTaskId U key node ≠ i) : TaskBus.get b₁ s i = .ok none := by
  rcases accepted_publish hkey htree hpub hacc with ⟨rfl, -⟩ | ⟨out, hall, -⟩
  · exact habsent
  · refine publishAll_absent _ h ?_ hall habsent ?_
    · intro t ht
      obtain ⟨node, hnode, n, rfl⟩ := mem_wanted ht
      exact valid_taskForNode hnode n
    · intro t ht heq
      obtain ⟨node, hnode, n, rfl⟩ := mem_wanted ht
      refine hne (congrArg Prod.fst heq) node hnode ?_
      rw [← taskId_taskForNode hkey hnode n]
      exact congrArg Prod.snd heq

end DefaultTaskPublisher

/-! ### The plan -/

namespace DefaultPlanPublisher

open DefaultTaskPublisher ShadowedBus

variable {B : Type} [ShadowedBus B] {U : Uuid5} {b b₁ : B} {m : InMemoryTaskBus}
  {store store₁ : SqlitePlanStore} {command : PublishPlanCommand} {plan : Plan}
  {nodes : List PlanTaskNode} {env : PlanPublishEnv} {r : PublishResult} {out : PublishPlanResult}

/-- An accepted publication of nodes that were not published. -/
structure Published (U : Uuid5) (b b₁ : B) (store store₁ : SqlitePlanStore)
    (command : PublishPlanCommand) : Prop where
  unpublished : ∀ n ∈ store.nodesOf command.sessionId command.planId, n.publishedRef = none
  shadow : ∃ m, Shadow m b₁
  tasks : TasksStored U b₁ command (store.nodesOf command.sessionId command.planId)
  others : ∀ s i, TaskBus.get b s i = .ok none →
    (command.sessionId = s → ∀ n ∈ store.nodesOf command.sessionId command.planId,
      command.taskId U n.taskNodeId ≠ i) → TaskBus.get b₁ s i = .ok none
  written : ∀ n ∈ store.nodesOf command.sessionId command.planId,
    Wrote store₁ n (command.taskId U n.taskNodeId)
  rest : ∀ s i, (∀ n ∈ store.nodesOf command.sessionId command.planId, n.key ≠ (s, i)) →
    store₁.getTaskNode s i = store.getTaskNode s i

theorem accepted_publishNodes
    (hpub : publishNodes U b store command plan nodes env = (.ok out, b₁, store₁))
    (hacc : out.accepted = true) :
    ∃ h r, DefaultTaskPublisher.publish U b
        (planRequest command plan ((orderedPlanNodes nodes).map PlanTaskNode.normalized) h)
        env.publish = (.ok r, b₁) ∧ r.accepted = true ∧
      finish store command plan nodes r env = (.ok out, store₁) := by
  unfold publishNodes at hpub
  by_cases h : PlanRequestOk command plan ((orderedPlanNodes nodes).map PlanTaskNode.normalized)
  · rw [dif_pos h] at hpub
    rcases hp : DefaultTaskPublisher.publish U b (planRequest command plan _ h) env.publish with
      ⟨_ | r, b'⟩
    · simp only [hp] at hpub
      cases hpub
    · simp only [hp] at hpub
      by_cases hskip : r.skipped = true
      · rw [if_pos hskip] at hpub
        cases hpub
        cases hacc
      · rw [if_neg hskip] at hpub
        have hr : r.accepted = true := by simpa [PublishResult.accepted] using hskip
        by_cases hf : env.fault = some .publisher
        · rw [if_pos hf] at hpub
          cases hpub
        · rw [if_neg hf] at hpub
          obtain ⟨hout, hb, hs⟩ : (finish store command plan nodes r env).1 = .ok out ∧
              b' = b₁ ∧ (finish store command plan nodes r env).2 = store₁ := by
            simpa only [Prod.mk.injEq] using hpub
          exact ⟨h, r, hb ▸ hp, hr, Prod.ext hout hs⟩
  · rw [dif_neg h] at hpub
    cases hpub

theorem accepted_finish {ids : Dict String String} (hids : nodeTaskIds r = .ok ids)
    (hfin : finish store command plan nodes r env = (.ok out, store₁)) :
    ∃ store₂, savePublishedNodes env 0 store
        (nodes.map (fun n => (n, (ids.get? n.taskNodeId).getD ""))) = (.ok (), store₂) ∧
      ∀ s i, store₁.getTaskNode s i = store₂.getTaskNode s i := by
  unfold finish at hfin
  simp only [hids] at hfin
  rcases hsave : savePublishedNodes env 0 store
    (nodes.map (fun n => (n, (ids.get? n.taskNodeId).getD ""))) with ⟨e | u, store₂⟩
  · simp only [hsave] at hfin
    cases hfin
  · simp only [hsave] at hfin
    refine ⟨store₂, rfl, ?_⟩
    rcases savePublishedPlan_cases env store₂ plan with ⟨-, heq⟩ | ⟨e, heq⟩ | ⟨_, h, -, heq⟩
    · rw [heq] at hfin
      cases hfin
    · rw [heq] at hfin
      cases hfin
    · rw [heq] at hfin
      cases hfin
      intro s i
      exact SqlitePlanStore.getTaskNode_putPlan h

theorem published_of_accepted (hsh : Shadow m b)
    (hnorm : ∀ d c, dispatchConstraintsMatch (norm B d) (some c) = true → Kept B c)
    (hnone : ∀ n ∈ store.nodesOf command.sessionId command.planId, n.publishedRef = none)
    (hpub : publishNodes U b store command plan (store.nodesOf command.sessionId command.planId)
      env = (.ok out, b₁, store₁)) (hacc : out.accepted = true) :
    Published U b b₁ store store₁ command := by
  obtain ⟨hreq, r, hp, hr, hfin⟩ := accepted_publishNodes hpub hacc
  have hmeta := nodeTaskIds_of_textDict (accepted_metadata rfl rfl (congrArg Prod.fst hp) hr)
  obtain ⟨store₂, hsave, hsame⟩ := accepted_finish hmeta hfin
  have hids := fun n hn => get?_taskIds_planRequest (U := U) (h := hreq) (n := n) env.publish hn
  rw [pairs_of_ids hids] at hsave
  obtain ⟨hget, hnodup⟩ := pairs_ok store (s := command.sessionId) (p := command.planId)
    (command.taskId U)
  obtain ⟨l₁, l₂, hsplit, -, -, hwrote, hrest, hdone, -⟩ := savePublishedNodes_cases _ 0 hget hnodup
    (by
      intro x hx
      obtain ⟨n, hn, rfl⟩ := List.mem_map.mp hx
      exact hnone n hn) hsave
  -- the list of what was written is the whole list
  rw [hdone rfl, List.append_nil] at hsplit
  obtain ⟨hshadow, -, -, htasks⟩ := accepted_stored hsh rfl rfl hnorm hp hr
  refine ⟨hnone, hshadow, ?_, ?_, ?_, ?_⟩
  · intro n hn
    obtain ⟨_, u, hu, hint, -⟩ := htasks n.normalized (mem_iterNodes_planTree hn)
    exact ⟨u, hu, hint⟩
  · intro s i habsent hne
    refine publish_absent hsh rfl rfl hp hr habsent ?_
    intro hs node hnode
    rw [iterNodes_planTree] at hnode
    obtain ⟨n, hn, rfl⟩ := List.mem_map.mp hnode
    exact hne hs n (mem_sortOn.mp hn)
  · intro n hn
    obtain ⟨now, hnow⟩ := hwrote (n, command.taskId U n.taskNodeId)
      (hsplit ▸ List.mem_map_of_mem hn)
    exact ⟨now, (hsame _ _).trans hnow⟩
  · intro s i hne
    rw [hsame, hrest s i]
    intro x hx
    rw [← hsplit] at hx
    obtain ⟨n, hn, rfl⟩ := List.mem_map.mp hx
    exact hne n hn

/-- **An accepted publication inverted**: all nodes were published, or none was. -/
theorem accepted_publishPlan (hsh : Shadow m b)
    (hnorm : ∀ d c, dispatchConstraintsMatch (norm B d) (some c) = true → Kept B c)
    (hpub : publishPlan U b store command env = (.ok out, b₁, store₁))
    (hacc : out.accepted = true) :
    (b₁ = b ∧ (∀ s i, store₁.getTaskNode s i = store.getTaskNode s i) ∧
      ∀ n ∈ store.nodesOf command.sessionId command.planId, n.publishedRef ≠ none) ∨
    Published U b b₁ store store₁ command := by
  unfold publishPlan at hpub
  cases hplan : requirePlan store command with
  | error e =>
    simp only [hplan] at hpub
    cases hpub
  | ok plan =>
    simp only [hplan] at hpub
    split at hpub
    · cases hpub
      cases hacc
    · split at hpub
      · cases hpub
        cases hacc
      · cases hl : existingLineage command (store.nodesOf command.sessionId command.planId) with
        | some result =>
          left
          have hall : ∀ n ∈ store.nodesOf command.sessionId command.planId,
              n.publishedRef ≠ none := by
            unfold existingLineage at hl
            split at hl
            · cases hl
            · next h =>
              rw [not_or, not_not] at h
              intro n hn
              exact Option.isSome_iff_ne_none.mp (List.all_eq_true.mp h.2 n hn)
          simp only [hl] at hpub
          split at hpub
          · cases hpub
            exact ⟨rfl, fun _ _ => rfl, hall⟩
          · rcases savePublishedPlan_cases env store plan with
              ⟨-, heq⟩ | ⟨e, heq⟩ | ⟨_, h, -, heq⟩
            · rw [heq] at hpub
              cases hpub
            · rw [heq] at hpub
              cases hpub
            · rw [heq] at hpub
              cases hpub
              exact ⟨rfl, fun _ _ => SqlitePlanStore.getTaskNode_putPlan h, hall⟩
        | none =>
          simp only [hl] at hpub
          split at hpub
          · cases hpub
            cases hacc
          · next hany =>
            right
            refine published_of_accepted hsh hnorm ?_ hpub hacc
            intro n hn
            rw [List.any_eq_true] at hany
            cases href : n.publishedRef with
            | none => rfl
            | some ref => exact absurd ⟨n, hn, by rw [href]; rfl⟩ hany

end DefaultPlanPublisher

end Taskweavn
