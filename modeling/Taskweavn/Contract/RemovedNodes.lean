import Taskweavn.Contract.TaskNodeCommands
import Taskweavn.Task.PlanLifecycle
import Taskweavn.Task.PlanPublished

/-!
# Removed nodes

A plan is edited, published and followed: nodes are created and removed, `publish_plan`
makes tasks of them, and `sync_task` brings the tasks back into the nodes.  A run here is a
list of such operations, all of them accepted, with anything on the bus between them.

A removed node has no reference, so a sync does not find it, and no command writes its row
again.  `publish_plan` does: it takes every node of the plan, whatever its readiness, so a
removed node becomes a published one, with a task.  A run keeps its removed nodes exactly
when it publishes no plan that has one (`removed_stay_iff`).
-/

namespace Taskweavn

open Lib Py
open SqlitePlanStore (deleteBlockReason cancelledNode)

/-- The bus, the plans, and the nodes that the run has removed. -/
structure PlanWorld (B : Type) where
  bus : B
  store : SqlitePlanStore
  removed : List (String × String) := []

inductive PlanOp
  | createTaskNode (request : ContractCommandRequest) (payload : CreateTaskNodePayload)
      (input : TaskNodeInput)
  | createExecutionTask (request : ContractCommandRequest) (payload : CreateExecutionTaskPayload)
      (input : TaskNodeInput)
  | deleteTaskNode (request : ContractCommandRequest) (now : DateTime)
  | publishPlan (command : PublishPlanCommand) (env : PlanPublishEnv)
  | syncTask (task : TaskDomain) (nodeNow planNow : DateTime)
  | busCall (call : BusCall)

namespace PlanWorld

section

variable {B : Type} [TaskBus B] (w : PlanWorld B)

def afterCommand (out : Option ContractTaskNodeCommandOutcome × SqlitePlanStore) :
    Option (PlanWorld B) :=
  match out with
  | (some o, store) => if o.accepted then some { w with store := store } else none
  | (none, _) => none

/-- A node that was cancelled before is not removed again. -/
def afterRemoval (request : ContractCommandRequest)
    (out : Option ContractTaskNodeCommandOutcome × SqlitePlanStore) : Option (PlanWorld B) :=
  match out with
  | (some o, store) =>
    if o.accepted then
      some
        { w with
          store := store
          removed :=
            match request.taskNodeId with
            | some i =>
              if o.status = .noop then w.removed else (request.sessionId, i) :: w.removed
            | none => w.removed }
    else none
  | (none, _) => none

def afterPublication (out : Except PlanPublishError PublishPlanResult × B × SqlitePlanStore) :
    Option (PlanWorld B) :=
  match out with
  | (.ok r, bus, store) => if r.accepted then some { w with bus := bus, store := store } else none
  | (.error _, _, _) => none

/-- One operation, if it is accepted. -/
def step (U : Uuid5) (w : PlanWorld B) : PlanOp → Option (PlanWorld B)
  | .createTaskNode request payload input =>
    w.afterCommand (w.store.createTaskNode request payload input)
  | .createExecutionTask request payload input =>
    w.afterCommand (w.store.createExecutionTask request payload input)
  | .deleteTaskNode request now => w.afterRemoval request (w.store.deleteTaskNode request now)
  | .publishPlan command env =>
    w.afterPublication (DefaultPlanPublisher.publishPlan U w.bus w.store command env)
  | .syncTask task nodeNow planNow =>
    match w.store.syncTask task nodeNow planNow with
    | (.ok _, store) => some { w with store := store }
    | (.error _, _) => none
  | .busCall call => some { w with bus := (TaskBus.step w.bus call).2 }

/-- A plan with a removed node is not published. -/
def Heeds (w : PlanWorld B) : PlanOp → Prop
  | .publishPlan command _ =>
    ∀ n ∈ w.store.nodesOf command.sessionId command.planId, n.key ∉ w.removed
  | _ => True

/-- What a publication does for the other nodes of its plan: they have a reference, and
those without one have got a task. -/
def OthersPublished (U : Uuid5) (w : PlanWorld B) (op : PlanOp) (w' : PlanWorld B) : Prop :=
  ∀ command env, op = .publishPlan command env →
    ∀ n ∈ w.store.nodesOf command.sessionId command.planId, n.key ∉ w.removed →
      ∃ n', w'.store.getTaskNode n.sessionId n.taskNodeId = some n' ∧ n'.publishedRef ≠ none ∧
        (n.publishedRef = none → ∃ t, TaskBus.get w'.bus command.sessionId
          (command.taskId U n.taskNodeId) = .ok (some t))

/-- No publication brings a task of a removed node to the bus. -/
def NoTask (U : Uuid5) (w : PlanWorld B) (op : PlanOp) (w' : PlanWorld B) : Prop :=
  ∀ command env, op = .publishPlan command env → ∀ key ∈ w.removed, ∀ kind idempotencyKey,
    TaskBus.get w.bus key.1 (U.hex ⟨key.1, kind, idempotencyKey, key.2⟩) = .ok none →
      TaskBus.get w'.bus key.1 (U.hex ⟨key.1, kind, idempotencyKey, key.2⟩) = .ok none

/-- Every removed node is cancelled. -/
def AllCancelled (w : PlanWorld B) : Prop :=
  ∀ key ∈ w.removed, ∃ n, w.store.getTaskNode key.1 key.2 = some n ∧ n.readiness = .cancelled ∧
    n.execution = .cancelled

/-- The step keeps the removed nodes, and publishes the others. -/
structure RemovedStay (U : Uuid5) (w : PlanWorld B) (op : PlanOp) (w' : PlanWorld B) : Prop where
  cancelled : w'.AllCancelled
  no_task : NoTask U w op w'
  others : OthersPublished U w op w'

end

/-! ### The row of a removed node -/

/-- The row is that of a removed node, and has no reference. -/
def Gone (store : SqlitePlanStore) (key : String × String) : Prop :=
  ∃ n, store.getTaskNode key.1 key.2 = some n ∧ n.readiness = .cancelled ∧
    n.execution = .cancelled ∧ n.publishedRef = none

variable {store store' : SqlitePlanStore} {key : String × String}

theorem Gone.congr (h : Gone store key)
    (hsame : store'.getTaskNode key.1 key.2 = store.getTaskNode key.1 key.2) : Gone store' key := by
  obtain ⟨n, hn, hrest⟩ := h
  exact ⟨n, hsame.trans hn, hrest⟩

theorem Gone.insert {node : PlanTaskNode} (h : Gone store key)
    (hfresh : store.getTaskNode node.sessionId node.taskNodeId = none)
    (hnodes : ∀ s i, store'.getTaskNode s i = if node.key = (s, i) then some node
      else store.getTaskNode s i) : Gone store' key := by
  refine h.congr ?_
  rw [hnodes, if_neg]
  intro hkey
  obtain ⟨n, hn, -⟩ := h
  rw [← show node.sessionId = key.1 from congrArg Prod.fst hkey,
    ← show node.taskNodeId = key.2 from congrArg Prod.snd hkey, hfresh] at hn
  cases hn

theorem Gone.sync (h : Gone store key) (task : TaskDomain) (nodeNow planNow : DateTime) :
    Gone (store.syncTask task nodeNow planNow).2 key := by
  rcases store.syncTask_cases task nodeNow planNow key.1 key.2 with hsame | ⟨n, hn, href, -⟩
  · exact h.congr hsame
  · obtain ⟨n', hn', -, -, hnone⟩ := h
    obtain rfl : n = n' := Option.some.inj (hn.symm.trans hn')
    rw [hnone] at href
    cases href

theorem publishedRef_of_deletable {node : PlanTaskNode} (h : deleteBlockReason node = none) :
    node.publishedRef = none := by
  unfold deleteBlockReason at h
  split at h
  · cases h
  · next hnot => exact not_not.mp fun hne => hnot (.inr hne)

theorem gone_deleteTaskNode {request : ContractCommandRequest} {now : DateTime}
    {o : ContractTaskNodeCommandOutcome}
    (h : store.deleteTaskNode request now = (some o, store')) (hacc : o.accepted = true) :
    (∀ key, Gone store key → Gone store' key) ∧
      (o.status ≠ .noop →
        ∀ i, request.taskNodeId = some i → Gone store' (request.sessionId, i)) := by
  rcases SqlitePlanStore.deleteTaskNode_cases h with
    ⟨rfl, hnoop⟩ | ⟨node, hn, hp, hi, hget, hreq, hblock, hout, rfl⟩
  · exact ⟨fun _ hg => hg, fun hne => absurd (hnoop o rfl hacc).1 hne⟩
  · have hs := (SqlitePlanStore.key_of_get hget).1
    have hgone : Gone (store.putNode _ hn hp hi) (request.sessionId, node.taskNodeId) := by
      refine ⟨(cancelledNode node).copied node now, ?_, rfl, rfl,
        (publishedRef_of_deletable hblock : node.publishedRef = none)⟩
      rw [SqlitePlanStore.getTaskNode_putNode, if_pos]
      rw [← hs]
      rfl
    refine ⟨?_, ?_⟩
    · intro key hg
      by_cases hkey : key = (request.sessionId, node.taskNodeId)
      · rw [hkey]
        exact hgone
      · refine hg.congr ?_
        rw [SqlitePlanStore.getTaskNode_putNode, if_neg]
        intro heq
        apply hkey
        rw [← hs]
        exact heq.symm
    · intro _ i hi'
      rw [hreq] at hi'
      cases hi'
      exact hgone

/-! ### One step -/

section

open DefaultPlanPublisher DefaultTaskPublisher ShadowedBus

variable {B : Type} [ShadowedBus B] {U : Uuid5} {w w' : PlanWorld B} {op : PlanOp}

/-- The invariant: the rows of the removed nodes, and a bus as it can be reached. -/
structure Sound (w : PlanWorld B) : Prop where
  shadow : ∃ m, Shadow m w.bus
  gone : ∀ key ∈ w.removed, Gone w.store key

theorem Sound.allCancelled (h : w.Sound) : w.AllCancelled := by
  intro key hkey
  obtain ⟨n, hn, hr, he, -⟩ := h.gone key hkey
  exact ⟨n, hn, hr, he⟩

theorem sound_step (hi : w.Sound) (hop : ∀ command env, op ≠ .publishPlan command env)
    (h : step U w op = some w') : w'.Sound := by
  cases op with
  | createTaskNode request payload input =>
    rcases hc : w.store.createTaskNode request payload input with ⟨_ | o, store⟩
    · simp only [step, hc, afterCommand] at h
      cases h
    · simp only [step, hc, afterCommand, Option.ite_none_right_eq_some] at h
      obtain ⟨-, rfl⟩ : _ ∧ { w with store := store } = w' := by simpa using h
      refine ⟨hi.shadow, fun key hkey => ?_⟩
      rcases SqlitePlanStore.createTaskNode_cases hc with ⟨rfl, -⟩ | ⟨n, -, -, -, -, -, -, hadd⟩
      · exact hi.gone key hkey
      · exact (hi.gone key hkey).insert hadd.fresh hadd.nodes
  | createExecutionTask request payload input =>
    rcases hc : w.store.createExecutionTask request payload input with ⟨_ | o, store⟩
    · simp only [step, hc, afterCommand] at h
      cases h
    · simp only [step, hc, afterCommand, Option.ite_none_right_eq_some] at h
      obtain ⟨-, rfl⟩ : _ ∧ { w with store := store } = w' := by simpa using h
      refine ⟨hi.shadow, fun key hkey => ?_⟩
      rcases SqlitePlanStore.createExecutionTask_cases hc with
        ⟨rfl, -⟩ | ⟨n, -, -, -, -, -, -, hadd | ⟨plan, hnew⟩⟩
      · exact hi.gone key hkey
      · exact (hi.gone key hkey).insert hadd.fresh hadd.nodes
      · exact (hi.gone key hkey).insert hnew.fresh hnew.nodes
  | deleteTaskNode request now =>
    rcases hc : w.store.deleteTaskNode request now with ⟨_ | o, store⟩
    · simp only [step, hc, afterRemoval] at h
      cases h
    · simp only [step, hc, afterRemoval, Option.ite_none_right_eq_some] at h
      obtain ⟨hacc, hw⟩ := h
      obtain ⟨hkeep, hnew⟩ := gone_deleteTaskNode hc hacc
      cases hw
      refine ⟨hi.shadow, ?_⟩
      cases hreq : request.taskNodeId with
      | none => exact fun key hkey => hkeep key (hi.gone key hkey)
      | some i =>
        intro key hkey
        by_cases hnoop : o.status = .noop
        · simp only [if_pos hnoop] at hkey
          exact hkeep key (hi.gone key hkey)
        · simp only [if_neg hnoop, List.mem_cons] at hkey
          rcases hkey with rfl | hkey
          · exact hnew hnoop i hreq
          · exact hkeep key (hi.gone key hkey)
  | publishPlan command env => exact absurd rfl (hop command env)
  | syncTask task nodeNow planNow =>
    rcases hc : w.store.syncTask task nodeNow planNow with ⟨_ | o, store⟩
    · simp only [step, hc] at h
      cases h
    · simp only [step, hc] at h
      cases h
      refine ⟨hi.shadow, fun key hkey => ?_⟩
      have hg := (hi.gone key hkey).sync task nodeNow planNow
      rw [hc] at hg
      exact hg
  | busCall call =>
    cases h
    obtain ⟨m, hm⟩ := hi.shadow
    exact ⟨shadow_step hm call, hi.gone⟩

theorem publishPlan_cases (hi : w.Sound)
    (hnorm : ∀ d c, dispatchConstraintsMatch (norm B d) (some c) = true → Kept B c)
    {command : PublishPlanCommand} {env : PlanPublishEnv}
    (h : step U w (.publishPlan command env) = some w') :
    w'.removed = w.removed ∧
      ((w'.bus = w.bus ∧ (∀ s i, w'.store.getTaskNode s i = w.store.getTaskNode s i) ∧
        ∀ n ∈ w.store.nodesOf command.sessionId command.planId, n.publishedRef ≠ none) ∨
      Published U w.bus w'.bus w.store w'.store command) := by
  obtain ⟨m, hm⟩ := hi.shadow
  rcases hp : publishPlan U w.bus w.store command env with ⟨_ | r, bus, store⟩
  · simp only [step, hp, afterPublication] at h
    cases h
  · simp only [step, hp, afterPublication, Option.ite_none_right_eq_some] at h
    obtain ⟨hacc, hw⟩ := h
    cases hw
    exact ⟨rfl, accepted_publishPlan hm hnorm hp hacc⟩

theorem Sound.publishedRef (hi : w.Sound) {s p : String} {n : PlanTaskNode}
    (hn : n ∈ w.store.nodesOf s p) (hkey : n.key ∈ w.removed) : n.publishedRef = none := by
  obtain ⟨hget, hs, -⟩ := SqlitePlanStore.mem_nodesOf.mp hn
  obtain ⟨n', hn', -, -, hnone⟩ := hi.gone n.key hkey
  rw [show n.key.1 = s from hs] at hn'
  obtain rfl : n = n' := Option.some.inj (hget.symm.trans hn')
  exact hnone

/-- **A publication and the removed nodes**: they stay if and only if the plan has none. -/
theorem removedStay_publish (hi : w.Sound)
    (hnorm : ∀ d c, dispatchConstraintsMatch (norm B d) (some c) = true → Kept B c)
    {command : PublishPlanCommand} {env : PlanPublishEnv}
    (h : step U w (.publishPlan command env) = some w') :
    (RemovedStay U w (.publishPlan command env) w' ↔ Heeds w (.publishPlan command env)) ∧
      (Heeds w (.publishPlan command env) → w'.Sound) := by
  obtain ⟨hremoved, ⟨hbus, hrows, hall⟩ | hpub⟩ := publishPlan_cases hi hnorm h
  · -- there was nothing to publish
    have hheeds : Heeds w (.publishPlan command env) :=
      fun n hn hkey => hall n hn (hi.publishedRef hn hkey)
    have hsound : w'.Sound := by
      refine ⟨hbus ▸ hi.shadow, fun key hkey => ?_⟩
      exact (hi.gone key (hremoved ▸ hkey)).congr (hrows _ _)
    refine ⟨iff_of_true ⟨hsound.allCancelled, ?_, ?_⟩ hheeds, fun _ => hsound⟩
    · intro _ _ _ key _ kind idempotencyKey habsent
      rw [hbus]
      exact habsent
    · intro _ _ hop n hn _
      cases hop
      obtain ⟨hget, hs, -⟩ := SqlitePlanStore.mem_nodesOf.mp hn
      exact ⟨n, by rw [hrows, hs]; exact hget, hall n hn, fun hnone => absurd hnone (hall n hn)⟩
  · have hothers : OthersPublished U w (.publishPlan command env) w' := by
      intro _ _ hop n hn _
      cases hop
      obtain ⟨now, hnow⟩ := hpub.written n hn
      obtain ⟨t, ht, -⟩ := hpub.tasks n hn
      exact ⟨_, hnow, Option.some_ne_none _, fun _ => ⟨t, ht⟩⟩
    have hsound : Heeds w (.publishPlan command env) → w'.Sound := by
      intro hheeds
      refine ⟨hpub.shadow, fun key hkey => ?_⟩
      rw [hremoved] at hkey
      refine (hi.gone key hkey).congr (hpub.rest _ _ fun n hn heq => ?_)
      exact hheeds n hn (heq ▸ hkey)
    refine ⟨⟨?_, ?_⟩, hsound⟩
    · intro hstay n hn hkey
      -- the row of the node says that it is published
      obtain ⟨now, hnow⟩ := hpub.written n hn
      obtain ⟨n', hn', hr, -⟩ := hstay.cancelled n.key (hremoved ▸ hkey)
      cases hnow.symm.trans hn'
      cases hr
    · intro hheeds
      refine ⟨(hsound hheeds).allCancelled, ?_, hothers⟩
      intro _ _ _ key hkey kind idempotencyKey habsent
      refine hpub.others _ _ habsent fun hs n hn heq => ?_
      -- the id of a task says which node it is for
      have hid := congrArg IdPayload.sourceNodeId (U.injective heq)
      refine hheeds n hn ?_
      rw [show n.key = key from Prod.ext ((SqlitePlanStore.mem_nodesOf.mp hn).2.1.trans hs) hid]
      exact hkey

theorem removedStay_step (hi : w.Sound)
    (hnorm : ∀ d c, dispatchConstraintsMatch (norm B d) (some c) = true → Kept B c)
    (h : step U w op = some w') :
    (RemovedStay U w op w' ↔ Heeds w op) ∧ (Heeds w op → w'.Sound) := by
  by_cases hop : ∃ command env, op = .publishPlan command env
  · obtain ⟨command, env, rfl⟩ := hop
    exact removedStay_publish hi hnorm h
  · have hne : ∀ command env, op ≠ .publishPlan command env :=
      fun command env heq => hop ⟨command, env, heq⟩
    have hsound := sound_step hi hne h
    refine ⟨iff_of_true ⟨hsound.allCancelled, ?_, ?_⟩ ?_, fun _ => hsound⟩
    · exact fun command env heq => absurd heq (hne command env)
    · exact fun command env heq => absurd heq (hne command env)
    · cases op with
      | publishPlan command env => exact absurd rfl (hne command env)
      | _ => trivial

/-! ### Runs -/

/-- Every step of the run keeps the removed nodes. -/
def AlwaysStay (U : Uuid5) (w : PlanWorld B) (ops : List PlanOp) : Prop :=
  Along (step U) (fun w op => ∀ w', step U w op = some w' → RemovedStay U w op w') w ops

theorem removed_stay_run
    (hnorm : ∀ d c, dispatchConstraintsMatch (norm B d) (some c) = true → Kept B c)
    (ops : List PlanOp) (hi : w.Sound) (h : execAll (step U) w ops = some w') :
    AlwaysStay U w ops ↔ Along (step U) Heeds w ops := by
  induction ops generalizing w with
  | nil => exact Iff.rfl
  | cons op ops ih =>
    obtain ⟨t, ht, hrest⟩ := execAll_cons h
    obtain ⟨hiff, hsound⟩ := removedStay_step hi hnorm ht
    have hstep : (∀ w', step U w op = some w' → RemovedStay U w op w') ↔ Heeds w op := by
      rw [← hiff]
      refine ⟨fun hstay => hstay t ht, fun hstay w' hw' => ?_⟩
      obtain rfl : t = w' := Option.some.inj (ht.symm.trans hw')
      exact hstay
    constructor
    · rintro ⟨hstay, halong⟩
      have hheeds := hstep.mp hstay
      exact along_cons hheeds ht ((ih (hsound hheeds) hrest).mp (halong t ht))
    · rintro ⟨hheeds, halong⟩
      exact along_cons (hstep.mpr hheeds) ht ((ih (hsound hheeds) hrest).mpr (halong t ht))

end

/-- **Removed nodes stay removed, and have no task, as long as no plan that has one is
published.**  For both buses, as they can be reached, every store and every run. -/
theorem removed_stay_iff (U : Uuid5) (pre : List BusCall) (store : SqlitePlanStore)
    (ops : List PlanOp) :
    (∀ w', execAll (step U) ⟨TaskBus.run InMemoryTaskBus.empty pre, store, []⟩ ops = some w' →
      (AlwaysStay U ⟨TaskBus.run InMemoryTaskBus.empty pre, store, []⟩ ops ↔
        Along (step U) Heeds ⟨TaskBus.run InMemoryTaskBus.empty pre, store, []⟩ ops)) ∧
    (∀ w', execAll (step U) ⟨TaskBus.run SqliteTaskBus.empty pre, store, []⟩ ops = some w' →
      (AlwaysStay U ⟨TaskBus.run SqliteTaskBus.empty pre, store, []⟩ ops ↔
        Along (step U) Heeds ⟨TaskBus.run SqliteTaskBus.empty pre, store, []⟩ ops)) := by
  constructor
  · intro w' h
    refine removed_stay_run (fun _ c _ => DefaultTaskPublisher.kept_inMemory c) ops ⟨?_, ?_⟩ h
    · exact shadow_run shadow_inMemory_empty pre
    · intro key hkey
      cases hkey
  · intro w' h
    refine removed_stay_run DefaultTaskPublisher.kept_of_match_sqlite ops ⟨?_, ?_⟩ h
    · exact shadow_run shadow_sqlite_empty pre
    · intro key hkey
      cases hkey

/-! ### Concrete runs -/

open DefaultPlanPublisher (sampleCommand sampleEnv)

/-- The removal of a node of the session `s`. -/
def removalOf (taskNodeId : String) : PlanOp :=
  .deleteTaskNode
    { commandId := "command", idempotencyKey := "key", commandKind := .deleteTaskNode,
      workspaceId := "w", sessionId := "s", scopeKind := .task, taskNodeId := some taskNodeId,
      scope_ok := rfl } .afterNoon

def sampleInput (taskNodeId planId : String) : TaskNodeInput where
  planId := planId
  taskNodeId := taskNodeId
  planCreatedAt := .noon
  planUpdatedAt := .noon
  nodeCreatedAt := .noon
  nodeUpdatedAt := .noon
  now := .afterNoon

/-- Work for a plan of its own, when the other one cannot be edited. -/
def sampleExecution : PlanOp :=
  .createExecutionTask
    { commandId := "command", idempotencyKey := "key", commandKind := .createExecutionTask,
      workspaceId := "w", sessionId := "s", scopeKind := .session, scope_ok := session_scope_ok }
    { intent := "look around", fields_ok := by decide } (sampleInput "c" "q")

/-- The plan is published, and the node of another plan is removed. -/
def heedfulRun : List PlanOp :=
  [.publishPlan sampleCommand (sampleEnv none), sampleExecution, removalOf "c",
   .syncTask (.sample "s" "8209de3db1755a50987967d8820cfdeb") .afterNoon .afterNoon]

/-- The node `b` is removed, and its plan is published. -/
def heedlessRun : List PlanOp :=
  [removalOf "b", .publishPlan sampleCommand (sampleEnv none)]

def afterOps {B : Type} [TaskBus B] (bus : B) (ops : List PlanOp) : PlanWorld B :=
  (execAll (step Uuid5.sample) ⟨bus, .sample, []⟩ ops).getD ⟨bus, .sample, []⟩

theorem execAll_afterOps {B : Type} [TaskBus B] {bus : B} {ops : List PlanOp}
    (h : (execAll (step Uuid5.sample) ⟨bus, .sample, []⟩ ops).isSome = true) :
    execAll (step Uuid5.sample) ⟨bus, .sample, []⟩ ops = some (afterOps bus ops) := by
  obtain ⟨w, hw⟩ := Option.isSome_iff_exists.mp h
  rw [afterOps, hw, Option.getD_some]

instance {B : Type} (w : PlanWorld B) (op : PlanOp) : Decidable (Heeds w op) :=
  match op with
  | .publishPlan command _ =>
    inferInstanceAs (Decidable (∀ n ∈ w.store.nodesOf command.sessionId command.planId,
      n.key ∉ w.removed))
  | .createTaskNode _ _ _ | .createExecutionTask _ _ _ | .deleteTaskNode _ _ | .syncTask _ _ _
  | .busCall _ => .isTrue trivial

/-- A run with a publication and a removal. -/
theorem removed_stay_heedful :
    ("s", "c") ∈ (afterOps InMemoryTaskBus.empty heedfulRun).removed ∧
      AlwaysStay Uuid5.sample ⟨InMemoryTaskBus.empty, .sample, []⟩ heedfulRun ∧
      AlwaysStay Uuid5.sample ⟨SqliteTaskBus.empty, .sample, []⟩ heedfulRun := by
  refine ⟨by decide +kernel, ?_, ?_⟩
  · exact ((removed_stay_iff Uuid5.sample [] .sample heedfulRun).1 _
      (execAll_afterOps (by decide +kernel))).mpr (by decide +kernel)
  · exact ((removed_stay_iff Uuid5.sample [] .sample heedfulRun).2 _
      (execAll_afterOps (by decide +kernel))).mpr (by decide +kernel)

/-- The removed node is published, and has a task. -/
theorem removed_published :
    execAll (step Uuid5.sample) ⟨SqliteTaskBus.empty, .sample, []⟩ heedlessRun =
        some (afterOps SqliteTaskBus.empty heedlessRun) ∧
      (afterOps SqliteTaskBus.empty heedlessRun).removed = [("s", "b")] ∧
      ((afterOps SqliteTaskBus.empty heedlessRun).store.getTaskNode "s" "b").map
        PlanTaskNode.readiness = some .published ∧
      (TaskBus.get (afterOps SqliteTaskBus.empty heedlessRun).bus "s"
        "8209de3db1755a50987967d8820cfdeb").toOption.join.isSome = true ∧
      ¬AlwaysStay Uuid5.sample ⟨SqliteTaskBus.empty, .sample, []⟩ heedlessRun := by
  have hrow : ((afterOps SqliteTaskBus.empty heedlessRun).store.getTaskNode "s" "b").map
      PlanTaskNode.readiness = some .published := by
    decide +kernel
  have hremoved : (afterOps SqliteTaskBus.empty heedlessRun).removed = [("s", "b")] := by
    decide +kernel
  refine ⟨execAll_afterOps (by decide +kernel), hremoved, hrow, by decide +kernel, ?_⟩
  intro hstay
  have hrun : execAll (step Uuid5.sample) ⟨SqliteTaskBus.empty, .sample, []⟩ heedlessRun =
      some (afterOps SqliteTaskBus.empty heedlessRun) := execAll_afterOps (by decide +kernel)
  obtain ⟨t, ht, hrest⟩ := execAll_cons hrun
  obtain ⟨t', ht', hnil⟩ := execAll_cons hrest
  obtain rfl : t' = afterOps SqliteTaskBus.empty heedlessRun := Option.some.inj hnil
  -- the second step has not kept the removed node
  have hcancelled := ((hstay.2 t ht).1 _ ht').cancelled
  obtain ⟨n, hn, hr, -⟩ := hcancelled ("s", "b") (by rw [hremoved]; exact List.mem_cons_self)
  rw [show (afterOps SqliteTaskBus.empty heedlessRun).store.getTaskNode "s" "b" = some n from hn,
    Option.map_some, hr] at hrow
  cases hrow

end PlanWorld

end Taskweavn
