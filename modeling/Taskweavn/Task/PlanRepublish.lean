import Taskweavn.Task.PlanLifecycle
import Taskweavn.Task.PlanRetry

/-!
# Publishing a published plan

When every node of a plan has a published reference, `publish_plan` answers from the nodes and
does not go to the task publisher (`taskweavn/task/plan_publisher.py`).  It still writes the
plan when its status is not `published`, and by then `PlanTaskNodeLifecycleSync` has set the
status to how the tasks stand (`taskweavn/task/plan_lifecycle.py`).

`Repeats` says that such a call returns the tasks of the nodes and changes nothing, and
`repeats_iff` says when it does.
-/

namespace Taskweavn

open Lib Py

namespace DefaultPlanPublisher

def lineage (command : PublishPlanCommand) (nodes : List PlanTaskNode) :
    List PlanTaskPublishMapping :=
  nodes.map fun n =>
    { sessionId := command.sessionId
      planId := command.planId
      taskNodeId := n.taskNodeId
      taskIndex := n.taskIndex
      taskId := (n.publishedRef.map TaskRef.id).getD ""
      publishCommandId := command.commandId }

def lineageResult (command : PublishPlanCommand) (nodes : List PlanTaskNode) :
    PublishPlanResult where
  commandId := command.commandId
  requestId := command.commandId
  sessionId := command.sessionId
  planId := command.planId
  publishedTaskIds := (lineage command nodes).map PlanTaskPublishMapping.taskId
  rootTaskIds := (lineage command nodes).map PlanTaskPublishMapping.taskId
  mappings := lineage command nodes

variable {B : Type} [TaskBus B]

/-- The call returns the tasks that the nodes have, and leaves bus, plans and nodes alone. -/
structure Repeats (U : Uuid5) (bus : B) (store : SqlitePlanStore) (command : PublishPlanCommand)
    (env : PlanPublishEnv) (result : PublishPlanResult) : Prop where
  returned : (publishPlan U bus store command env).1 = .ok result
  mappings : result.mappings =
    lineage command (store.nodesOf command.sessionId command.planId)
  task_ids : result.publishedTaskIds = result.mappings.map PlanTaskPublishMapping.taskId
  root_ids : result.rootTaskIds = result.mappings.map PlanTaskPublishMapping.taskId
  bus_same : (publishPlan U bus store command env).2.1 = bus
  plans_same : ∀ s p, (publishPlan U bus store command env).2.2.getPlan s p = store.getPlan s p
  nodes_same : ∀ s i,
    (publishPlan U bus store command env).2.2.getTaskNode s i = store.getTaskNode s i

variable {U : Uuid5} {bus : B} {store : SqlitePlanStore} {command : PublishPlanCommand}
  {env : PlanPublishEnv} {plan : Plan}

theorem requirePlan_eq (hplan : store.getPlan command.sessionId command.planId = some plan) :
    requirePlan store command = .ok plan ∧
        command.expectedPlanVersion ∈ [none, some plan.version] ∨
      (∃ e, requirePlan store command = .error e) ∧
        command.expectedPlanVersion ∉ [none, some plan.version] := by
  unfold requirePlan
  rw [hplan]
  cases hversion : command.expectedPlanVersion with
  | none => exact .inl ⟨rfl, by simp⟩
  | some v =>
    simp only [SqlitePlanStore.checkExpected, SqlitePlanStore.checkVersion]
    by_cases hv : plan.version = v
    · rw [if_neg (not_not.mpr hv), hv]
      exact .inl ⟨rfl, by simp⟩
    · rw [if_pos hv]
      exact .inr ⟨⟨_, rfl⟩, by simpa using fun h => hv h.symm⟩

theorem existingLineage_eq {nodes : List PlanTaskNode} (hne : nodes ≠ [])
    (hall : ∀ n ∈ nodes, n.publishedRef ≠ none) (horder : orderedPlanNodes nodes = nodes) :
    existingLineage command nodes = some (lineageResult command nodes) := by
  have hrefs : nodes.all (fun n => n.publishedRef.isSome) = true :=
    List.all_eq_true.mpr fun n hn => Option.isSome_iff_ne_none.mpr (hall n hn)
  rw [existingLineage, if_neg (by simp [hne, hrefs]), horder]
  rfl

theorem repeats_of_eq {result : PublishPlanResult}
    (hrun : publishPlan U bus store command env = (.ok result, bus, store))
    (hmappings : result.mappings = lineage command (store.nodesOf command.sessionId command.planId))
    (htasks : result.publishedTaskIds = result.mappings.map PlanTaskPublishMapping.taskId)
    (hroots : result.rootTaskIds = result.mappings.map PlanTaskPublishMapping.taskId) :
    Repeats U bus store command env result := by
  refine ⟨congrArg Prod.fst hrun, hmappings, htasks, hroots, ?_, ?_, ?_⟩
  · rw [hrun]
  · intro s p
    rw [hrun]
  · intro s i
    rw [hrun]

/-- **Publishing a published plan again is a no-op** exactly when the command names no version
or the current one, and the plan has no nodes or still the status `published`. -/
theorem repeats_iff (hplan : store.getPlan command.sessionId command.planId = some plan)
    (hall : ∀ n ∈ store.nodesOf command.sessionId command.planId, n.publishedRef ≠ none) :
    (∃ result, Repeats U bus store command env result) ↔
      command.expectedPlanVersion ∈ [none, some plan.version] ∧
        (store.nodesOf command.sessionId command.planId = [] ∨ plan.status = .published) := by
  have hordered : orderedPlanNodes (store.nodesOf command.sessionId command.planId) =
      store.nodesOf command.sessionId command.planId := sortOn_eq_self (sortOn_pairwise _ _)
  rcases requirePlan_eq hplan with ⟨hreq, hversion⟩ | ⟨⟨e, hreq⟩, hversion⟩
  swap
  · -- a stale version is refused
    refine iff_of_false ?_ (fun h => hversion h.1)
    rintro ⟨result, hrep⟩
    have hret := hrep.returned
    rw [publishPlan, hreq] at hret
    cases hret
  by_cases hnil : store.nodesOf command.sessionId command.planId = []
  · refine iff_of_true ?_ ⟨hversion, .inl hnil⟩
    have hrun : publishPlan U bus store command env =
        (.ok (skipped command plan.planId .noNodes), bus, store) := by
      simp only [publishPlan, hreq, if_pos hnil]
    exact ⟨_, repeats_of_eq hrun (by rw [hnil]; rfl) rfl rfl⟩
  have hlineage := @existingLineage_eq command _ hnil hall hordered
  constructor
  · rintro ⟨result, hrep⟩
    refine ⟨hversion, .inr ?_⟩
    by_contra hstatus
    by_cases hend : plan.status = .cancelled ∨ plan.status = .archived
    · -- the plan is skipped, and a skipped result has no mappings
      have hret := hrep.returned
      simp only [publishPlan, hreq, if_neg hnil, if_pos hend] at hret
      have hmap := hrep.mappings
      rw [← Except.ok.inj hret] at hmap
      exact hnil (List.map_eq_nil_iff.mp hmap.symm)
    · have hret := hrep.returned
      have hplans := hrep.plans_same command.sessionId command.planId
      simp only [publishPlan, hreq, if_neg hnil, if_neg hend, hlineage, if_neg hstatus]
        at hret hplans
      rcases savePublishedPlan_cases env store plan with ⟨-, heq⟩ | ⟨e, heq⟩ |
        ⟨current, h, hcur, heq⟩
      · rw [heq] at hret
        cases hret
      · rw [heq] at hret
        cases hret
      · rw [heq] at hplans
        obtain ⟨hs, hp⟩ := SqlitePlanStore.plan_key_of_get hplan
        rw [← hs, ← hp] at hplans hplan
        -- the plan has been written with the next version
        obtain rfl : plan = current := Option.some.inj (hplan.symm.trans hcur)
        have hwritten : (store.putPlan (({ plan with status := .published } : Plan).copied plan
            env.planClock) h).getPlan plan.sessionId plan.planId = some _ :=
          SqlitePlanStore.getPlan_putPlan h
        have hsame := Option.some.inj (hwritten.symm.trans (hplans.trans hplan))
        have hv := congrArg Plan.version hsame
        change plan.version + 1 = plan.version at hv
        omega
  · rintro ⟨-, hnil' | hstatus⟩
    · exact absurd hnil' hnil
    have hend : ¬(plan.status = .cancelled ∨ plan.status = .archived) := by
      rw [hstatus]
      decide
    refine ⟨lineageResult command _, repeats_of_eq ?_ rfl rfl rfl⟩
    simp only [publishPlan, hreq, if_neg hnil, if_neg hend, hlineage, if_pos hstatus]

/-! ### The sample plan is published twice -/

abbrev publishedSample : Except PlanPublishError PublishPlanResult × InMemoryTaskBus ×
    SqlitePlanStore :=
  publishPlan Uuid5.sample InMemoryTaskBus.empty .sample sampleCommand (sampleEnv none)

/-- The store after the lifecycle of the first task has come back to the plan. -/
abbrev syncedSample : SqlitePlanStore :=
  (publishedSample.2.2.syncTask (.sample "s" "8209de3db1755a50987967d8820cfdeb") .afterNoon
    .afterNoon).2

/-- The nodes of the sample plan are published, and its status is as given. -/
def PublishedWith (store : SqlitePlanStore) (status : PlanStatus) : Bool :=
  (store.getPlan "s" "p").map Plan.status == some status &&
    (store.nodesOf "s" "p").all (fun n => n.publishedRef.isSome)

/-- Right after the publication the call is repeated. -/
theorem repeats_at_once : ∃ result,
    Repeats Uuid5.sample publishedSample.2.1 publishedSample.2.2 sampleCommand (sampleEnv none)
      result := by
  have hstate : PublishedWith publishedSample.2.2 .published = true := by
    decide +kernel
  obtain ⟨hplan, hnodes⟩ := Bool.and_eq_true_iff.mp hstate
  obtain ⟨plan, hget, hstatus⟩ := Option.map_eq_some_iff.mp (beq_iff_eq.mp hplan)
  refine (repeats_iff hget fun n hn => ?_).mpr ⟨List.mem_cons_self, .inr hstatus⟩
  exact Option.isSome_iff_ne_none.mp (List.all_eq_true.mp hnodes n hn)

/-- After the lifecycle of a task has come back to the plan, the plan is written again. -/
theorem republished_plan_written : ¬∀ (U : Uuid5) (bus : InMemoryTaskBus) (store : SqlitePlanStore)
    (command : PublishPlanCommand) (env : PlanPublishEnv) (plan : Plan),
    store.getPlan command.sessionId command.planId = some plan →
    (∀ n ∈ store.nodesOf command.sessionId command.planId, n.publishedRef ≠ none) →
    plan.status ∈ [.published, .running, .failed, .awaitingAcceptance] →
    command.expectedPlanVersion = none → ∃ result, Repeats U bus store command env result := by
  intro hall
  have hstate : PublishedWith syncedSample .running = true := by
    decide +kernel
  obtain ⟨hplan, hnodes⟩ := Bool.and_eq_true_iff.mp hstate
  obtain ⟨plan, hget, hstatus⟩ := Option.map_eq_some_iff.mp (beq_iff_eq.mp hplan)
  obtain ⟨result, hrep⟩ := hall Uuid5.sample publishedSample.2.1 syncedSample sampleCommand
    (sampleEnv none) plan hget
    (fun n hn => Option.isSome_iff_ne_none.mp (List.all_eq_true.mp hnodes n hn))
    (by rw [hstatus]; decide) rfl
  have hbefore : (syncedSample.getPlan "s" "p").map Plan.version = some 3 := by
    decide +kernel
  have hafter : ((publishPlan Uuid5.sample publishedSample.2.1 syncedSample sampleCommand
      (sampleEnv none)).2.2.getPlan "s" "p").map Plan.version = some 4 := by
    decide +kernel
  rw [hrep.plans_same, hbefore] at hafter
  exact absurd hafter (by decide)

end DefaultPlanPublisher

end Taskweavn
