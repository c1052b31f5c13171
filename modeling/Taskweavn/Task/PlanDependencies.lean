import Taskweavn.Lib.Acyclic
import Taskweavn.Lib.Run
import Taskweavn.Task.PlanStore

/-!
# The dependencies inside a plan

A node of a plan names the nodes that it waits for in `depends_on`.  A plan can be
executed when these names are nodes of the plan and no chain of them comes back to
where it started: this is `SqlitePlanStore.WellFormed`.

The three writers of `depends_on` do not check the same thing.  `addTaskNode` looks
the names up among the nodes of the plan and the new node, and that is enough: a
new node is not yet waited for.  `createPlan` looks them up among the nodes that
come with the plan, and these may wait for each other.  `saveTaskNode` looks
nothing up, and it may also take a node out of its plan.

`KeepsDependencies` says what is missing, call by call, and
`plan_dependencies_iff` that it is all that is missing.
-/

namespace Taskweavn

open Lib Py Relation

/-- The node with the first id waits for the second id. -/
def WaitsFor (nodes : List PlanTaskNode) (i j : String) : Prop :=
  ∃ n ∈ nodes, n.taskNodeId = i ∧ j ∈ n.dependsOn

namespace SqlitePlanStore

/-- What a plan needs to be executed: every name in a `depends_on` is a node of
the plan, and no node waits for itself through others. -/
structure WellFormed (store : SqlitePlanStore) : Prop where
  known : ∀ s p, ∀ n ∈ store.nodesOf s p, ∀ d ∈ n.dependsOn,
    ∃ m ∈ store.nodesOf s p, m.taskNodeId = d
  acyclic : ∀ s p, Acyclic (WaitsFor (store.nodesOf s p))

theorem wellFormed_empty : empty.WellFormed where
  known s p n hn := by cases (mem_nodesOf.mp hn).1
  acyclic s p a h := by
    obtain ⟨b, ⟨n, hn, -⟩, -⟩ := TransGen.head'_iff.mp h
    cases (mem_nodesOf.mp hn).1

variable {store : SqlitePlanStore} {s p : String} {n m : PlanTaskNode}

theorem WellFormed.congr {store' : SqlitePlanStore}
    (h : ∀ s p, ∀ n, n ∈ store'.nodesOf s p ↔ n ∈ store.nodesOf s p) :
    store'.WellFormed ↔ store.WellFormed := by
  have hw : ∀ s p i j, WaitsFor (store'.nodesOf s p) i j ↔ WaitsFor (store.nodesOf s p) i j := by
    intro s p i j
    simp only [WaitsFor, h]
  constructor
  · intro hwf
    refine ⟨fun s p n hn d hd => ?_, fun s p => (hwf.acyclic s p).mono fun a b => (hw s p a b).mpr⟩
    simpa only [h] using hwf.known s p n ((h s p n).mpr hn) d hd
  · intro hwf
    refine ⟨fun s p n hn d hd => ?_, fun s p => (hwf.acyclic s p).mono fun a b => (hw s p a b).mp⟩
    simpa only [h] using hwf.known s p n ((h s p n).mp hn) d hd

theorem mem_nodesOf_putNode (h : n.Valid)
    (hp : (store.plans.get? (n.sessionId, n.planId)).isSome = true)
    (hi : indexTaken store.nodes n = false) :
    m ∈ (store.putNode n h hp hi).nodesOf s p ↔
      (m = n ∧ n.sessionId = s ∧ n.planId = p) ∨ (m ∈ store.nodesOf s p ∧ m.key ≠ n.key) := by
  rw [mem_nodesOf, mem_nodesOf, getTaskNode_putNode]
  by_cases hk : n.key = (s, m.taskNodeId)
  · rw [if_pos hk]
    constructor
    · rintro ⟨hm, hs, hpl⟩
      rw [← Option.some.inj hm] at hs hpl ⊢
      exact .inl ⟨rfl, hs, hpl⟩
    · rintro (⟨rfl, hs, hpl⟩ | ⟨⟨-, hs, -⟩, hne⟩)
      · exact ⟨rfl, hs, hpl⟩
      · refine absurd ?_ hne
        rw [hk, PlanTaskNode.key, hs]
  · rw [if_neg hk]
    constructor
    · rintro ⟨hm, hs, hpl⟩
      refine .inr ⟨⟨hm, hs, hpl⟩, fun hkey => hk ?_⟩
      rw [← hkey, PlanTaskNode.key, hs]
    · rintro (⟨rfl, hs, -⟩ | ⟨hm, -⟩)
      · refine absurd ?_ hk
        rw [PlanTaskNode.key, hs]
      · exact hm

/-! ### Writing one node -/

/-- What a written node must bring: it waits for nodes of its plan, none of which
waits for it, and when it leaves another plan nobody there waits for it. -/
structure Fits (store : SqlitePlanStore) (n : PlanTaskNode) : Prop where
  known : ∀ d ∈ n.dependsOn, ∃ m ∈ store.nodesOf n.sessionId n.planId, m.taskNodeId = d
  noWayBack : ∀ d ∈ n.dependsOn,
    ¬ReflTransGen (WaitsFor (store.nodesOf n.sessionId n.planId)) d n.taskNodeId
  notMissed : ∀ current, store.getTaskNode n.sessionId n.taskNodeId = some current →
    current.planId ≠ n.planId →
    ∀ m ∈ store.nodesOf n.sessionId current.planId, n.taskNodeId ∉ m.dependsOn

section putNode

variable (h : n.Valid) (hp : (store.plans.get? (n.sessionId, n.planId)).isSome = true)
  (hi : indexTaken store.nodes n = false)

theorem mem_putNode_of_ne (hid : m.taskNodeId ≠ n.taskNodeId) :
    m ∈ (store.putNode n h hp hi).nodesOf s p ↔ m ∈ store.nodesOf s p := by
  rw [mem_nodesOf_putNode]
  constructor
  · rintro (⟨rfl, -, -⟩ | ⟨hm, -⟩)
    · exact absurd rfl hid
    · exact hm
  · intro hm
    exact .inr ⟨hm, fun hk => hid (congrArg Prod.snd hk)⟩

theorem waitsFor_putNode {i j : String} (hid : i ≠ n.taskNodeId) :
    WaitsFor (store.nodesOf s p) i j ↔ WaitsFor ((store.putNode n h hp hi).nodesOf s p) i j := by
  constructor
  · rintro ⟨m, hm, rfl, hd⟩
    exact ⟨m, (mem_putNode_of_ne h hp hi hid).mpr hm, rfl, hd⟩
  · rintro ⟨m, hm, rfl, hd⟩
    exact ⟨m, (mem_putNode_of_ne h hp hi hid).mp hm, rfl, hd⟩

theorem waitsFor_putNode_self {d : String} :
    WaitsFor ((store.putNode n h hp hi).nodesOf n.sessionId n.planId) n.taskNodeId d ↔
      d ∈ n.dependsOn := by
  constructor
  · rintro ⟨m, hm, hid, hd⟩
    rcases (mem_nodesOf_putNode h hp hi).mp hm with ⟨rfl, -, -⟩ | ⟨hm, hk⟩
    · exact hd
    · refine absurd ?_ hk
      rw [PlanTaskNode.key, PlanTaskNode.key, hid, (mem_nodesOf.mp hm).2.1]
  · intro hd
    exact ⟨n, (mem_nodesOf_putNode h hp hi).mpr (.inl ⟨rfl, rfl, rfl⟩), rfl, hd⟩

theorem WellFormed.fits (hwf : store.WellFormed) (hwf' : (store.putNode n h hp hi).WellFormed) :
    store.Fits n where
  known d hd := by
    have hn : n ∈ (store.putNode n h hp hi).nodesOf n.sessionId n.planId :=
      (mem_nodesOf_putNode h hp hi).mpr (.inl ⟨rfl, rfl, rfl⟩)
    obtain ⟨m, hm, hid⟩ := hwf'.known _ _ n hn d hd
    have hne : m.taskNodeId ≠ n.taskNodeId := by
      rintro heq
      rw [← hid, heq] at hd
      exact h.2.2.2 hd
    exact ⟨m, (mem_putNode_of_ne h hp hi hne).mp hm, hid⟩
  noWayBack d hd :=
    (acyclic_rewire_iff (hwf.acyclic n.sessionId n.planId)
      (fun _ _ hid => waitsFor_putNode h hp hi hid)).mp (hwf'.acyclic n.sessionId n.planId) d
      ((waitsFor_putNode_self h hp hi).mpr hd)
  notMissed current hcur hplan m hm hd := by
    have hne : m.taskNodeId ≠ n.taskNodeId := by
      rintro heq
      rw [← heq] at hd
      exact (valid_of_mem hm).2.2.2 hd
    obtain ⟨k, hk, hid⟩ := hwf'.known _ _ m ((mem_putNode_of_ne h hp hi hne).mpr hm) _ hd
    rcases (mem_nodesOf_putNode h hp hi).mp hk with ⟨-, -, hpl⟩ | ⟨hk, hkey⟩
    · exact hplan hpl.symm
    · refine hkey ?_
      rw [PlanTaskNode.key, PlanTaskNode.key, hid, (mem_nodesOf.mp hk).2.1]

theorem WellFormed.putNode (hwf : store.WellFormed) (hf : store.Fits n) :
    (store.putNode n h hp hi).WellFormed where
  known s p m hm d hd := by
    rcases (mem_nodesOf_putNode h hp hi).mp hm with ⟨rfl, rfl, rfl⟩ | ⟨hm, hkey⟩
    · obtain ⟨k, hk, rfl⟩ := hf.known d hd
      have hne : k.taskNodeId ≠ m.taskNodeId := by
        rintro heq
        rw [heq] at hd
        exact h.2.2.2 hd
      exact ⟨k, (mem_putNode_of_ne h hp hi hne).mpr hk, rfl⟩
    · obtain ⟨k, hk, rfl⟩ := hwf.known s p m hm d hd
      by_cases hne : k.taskNodeId = n.taskNodeId
      · -- the node that `m` waits for is the one written: it has not left the plan
        obtain ⟨hget, hks, hkp⟩ := mem_nodesOf.mp hk
        by_cases hs : n.sessionId = s
        · subst hs
          rw [hne] at hget
          by_cases hpl : k.planId = n.planId
          · refine ⟨n, (mem_nodesOf_putNode h hp hi).mpr (.inl ⟨rfl, rfl, ?_⟩), hne.symm⟩
            rw [← hpl, hkp]
          · have := hf.notMissed k hget hpl m (by rwa [hkp])
            exact absurd (hne ▸ hd) this
        · refine ⟨k, (mem_nodesOf_putNode h hp hi).mpr (.inr ⟨hk, fun hkey => hs ?_⟩), rfl⟩
          rw [← hks]
          exact (congrArg Prod.fst hkey).symm
      · exact ⟨k, (mem_putNode_of_ne h hp hi hne).mpr hk, rfl⟩
  acyclic s p := by
    by_cases hsp : n.sessionId = s ∧ n.planId = p
    · obtain ⟨rfl, rfl⟩ := hsp
      refine (acyclic_rewire_iff (hwf.acyclic n.sessionId n.planId)
        (fun _ _ hid => waitsFor_putNode h hp hi hid)).mpr ?_
      intro d hd
      exact hf.noWayBack d ((waitsFor_putNode_self h hp hi).mp hd)
    · refine (hwf.acyclic s p).mono ?_
      rintro a b ⟨m, hm, hid, hd⟩
      rcases (mem_nodesOf_putNode h hp hi).mp hm with ⟨-, hs, hpl⟩ | ⟨hm, -⟩
      · exact absurd ⟨hs, hpl⟩ hsp
      · exact ⟨m, hm, hid, hd⟩

/-- **One node written.** The plans stay well formed exactly when the node fits. -/
theorem wellFormed_putNode_iff (hwf : store.WellFormed) :
    (store.putNode n h hp hi).WellFormed ↔ store.Fits n :=
  ⟨hwf.fits h hp hi, hwf.putNode h hp hi⟩

end putNode

theorem fits_of_new (hwf : store.WellFormed) (h : n.Valid)
    (hnew : store.getTaskNode n.sessionId n.taskNodeId = none)
    (hdeps : ∀ d ∈ n.dependsOn, ∃ m ∈ store.nodesOf n.sessionId n.planId, m.taskNodeId = d) :
    store.Fits n where
  known := hdeps
  noWayBack d hd hback := by
    have hdn : d = n.taskNodeId := by
      refine eq_of_reach ?_ hback
      rintro a ⟨m, hm, -, hmd⟩
      obtain ⟨k, hk, hid⟩ := hwf.known _ _ m hm _ hmd
      have := (mem_nodesOf.mp hk).1
      rw [hid, hnew] at this
      cases this
    rw [hdn] at hd
    exact h.2.2.2 hd
  notMissed current hcur := by
    rw [hnew] at hcur
    cases hcur

/-! ### The checks of the writers -/

theorem validateNodeDependencies_eq_ok {nodes : List PlanTaskNode} :
    validateNodeDependencies nodes = .ok () ↔
      ∀ n ∈ nodes, ∀ d ∈ n.dependsOn, ∃ m ∈ nodes, m.taskNodeId = d := by
  have hno : validateNodeDependencies nodes = .ok () ↔
      nodes.find? (fun n =>
        n.dependsOn.any (fun i => !nodes.any (fun m => m.taskNodeId == i))) = none := by
    unfold validateNodeDependencies
    split
    · next n hn => simp [hn]
    · next hn => simp [hn]
  rw [hno, List.find?_eq_none]
  simp

theorem validatePlanNodes_ok {plan : Plan} : ∀ {nodes : List PlanTaskNode}
    {ids indexes : List String}, validatePlanNodes plan ids indexes nodes = .ok () →
    ∀ n ∈ nodes, n.sessionId = plan.sessionId ∧ n.planId = plan.planId := by
  intro nodes
  induction nodes with
  | nil => intro _ _ _ n hn; cases hn
  | cons m rest ih =>
    intro ids indexes h
    rw [validatePlanNodes] at h
    split at h
    · cases h
    · next hs =>
      split at h
      · cases h
      · next hp =>
        split at h
        · cases h
        · split at h
          · cases h
          · intro n hn
            rcases List.mem_cons.mp hn with rfl | hn
            · exact ⟨not_not.mp hs, not_not.mp hp⟩
            · exact ih h n hn

theorem mem_nodesOf_insertTaskNodes {nodes : List PlanTaskNode} :
    ∀ {store store' : SqlitePlanStore}, store.insertTaskNodes nodes = .ok store' →
      ∀ s p n, n ∈ store'.nodesOf s p ↔
        (n ∈ nodes ∧ n.sessionId = s ∧ n.planId = p) ∨ n ∈ store.nodesOf s p := by
  induction nodes with
  | nil =>
    intro store store' h s p n
    cases h
    simp
  | cons m rest ih =>
    intro store store' h s p n
    rw [insertTaskNodes] at h
    rcases store.insertTaskNode_cases m with ⟨e, he⟩ | ⟨hv, hp, hi, hnew, hins⟩
    · rw [he] at h
      cases h
    · rw [hins] at h
      rw [ih h s p n, mem_nodesOf_putNode, List.mem_cons]
      have hfresh : n ∈ store.nodesOf s p → n.key ≠ m.key := by
        intro hn hkey
        obtain ⟨hget, hs, -⟩ := mem_nodesOf.mp hn
        have hms : m.sessionId = s := (congrArg Prod.fst hkey).symm.trans hs
        rw [hms, ← show n.taskNodeId = m.taskNodeId from congrArg Prod.snd hkey, hget] at hnew
        cases hnew
      constructor
      · rintro (⟨hn, hs, hp⟩ | ⟨rfl, hs, hp⟩ | ⟨hn, -⟩)
        · exact .inl ⟨.inr hn, hs, hp⟩
        · exact .inl ⟨.inl rfl, hs, hp⟩
        · exact .inr hn
      · rintro (⟨rfl | hn, hs, hp⟩ | hn)
        · exact .inr (.inl ⟨rfl, hs, hp⟩)
        · exact .inl ⟨hn, hs, hp⟩
        · exact .inr (.inr ⟨hn, hfresh hn⟩)

/-- **A new plan inverted**: it was not there, and its nodes wait for each other. -/
theorem createPlan_ok {store' : SqlitePlanStore} {plan p' : Plan} {hplan : plan.Valid}
    {taskNodes : List PlanTaskNode}
    (h : store.createPlan plan hplan taskNodes = (.ok p', store')) :
    store.getPlan plan.sessionId plan.planId = none ∧
      (∀ n ∈ taskNodes, n.sessionId = plan.sessionId ∧ n.planId = plan.planId) ∧
      (∀ n ∈ taskNodes, ∀ d ∈ n.dependsOn, ∃ m ∈ taskNodes, m.taskNodeId = d) ∧
      ∀ s p n, n ∈ store'.nodesOf s p ↔
        (n ∈ taskNodes ∧ n.sessionId = s ∧ n.planId = p) ∨ n ∈ store.nodesOf s p := by
  unfold createPlan at h
  simp only at h
  split at h
  · cases h
  · next hplace =>
    split at h
    · cases h
    · next hdeps =>
      split at h
      · cases h
      · next hnone =>
        split at h
        · cases h
        · next st hst =>
          cases h
          refine ⟨hnone, ?_, ?_, ?_⟩
          · simpa only [mem_sortOn] using validatePlanNodes_ok hplace
          · simpa only [mem_sortOn] using validateNodeDependencies_eq_ok.mp hdeps
          · intro s p n
            rw [mem_nodesOf_insertTaskNodes hst, mem_sortOn, nodesOf_putPlan]

/-- **A new plan.** It keeps the plans well formed exactly when its nodes do not
wait for each other in a circle. -/
theorem wellFormed_createPlan_iff (hwf : store.WellFormed) {store' : SqlitePlanStore}
    {plan p' : Plan}
    {hplan : plan.Valid} {taskNodes : List PlanTaskNode}
    (h : store.createPlan plan hplan taskNodes = (.ok p', store')) :
    store'.WellFormed ↔ Acyclic (WaitsFor taskNodes) := by
  obtain ⟨hnone, hplace, hdeps, hmem⟩ := createPlan_ok h
  -- a plan that is not there has no nodes
  have hempty : ∀ n, n ∉ store.nodesOf plan.sessionId plan.planId := by
    intro n hn
    obtain ⟨hget, hs, hp⟩ := mem_nodesOf.mp hn
    have := (store.nodes_ok _ _ hget).2.2
    rw [hs, hp, show store.plans.get? (plan.sessionId, plan.planId) = none from hnone] at this
    cases this
  have hself : ∀ n, n ∈ store'.nodesOf plan.sessionId plan.planId ↔ n ∈ taskNodes := by
    intro n
    rw [hmem]
    constructor
    · rintro (⟨hn, -⟩ | hn)
      · exact hn
      · exact absurd hn (hempty n)
    · intro hn
      exact .inl ⟨hn, hplace n hn⟩
  constructor
  · intro hwf'
    refine (hwf'.acyclic plan.sessionId plan.planId).mono ?_
    rintro a b ⟨n, hn, hid, hd⟩
    exact ⟨n, (hself n).mpr hn, hid, hd⟩
  · intro hac
    constructor
    · intro s p n hn d hd
      rcases (hmem s p n).mp hn with ⟨hin, rfl, rfl⟩ | hn
      · obtain ⟨m, hm, hid⟩ := hdeps n hin d hd
        obtain ⟨hs, hp⟩ := hplace n hin
        rw [hs, hp]
        exact ⟨m, (hself m).mpr hm, hid⟩
      · obtain ⟨m, hm, hid⟩ := hwf.known s p n hn d hd
        exact ⟨m, (hmem s p m).mpr (.inr hm), hid⟩
    · intro s p
      by_cases hsp : s = plan.sessionId ∧ p = plan.planId
      · obtain ⟨rfl, rfl⟩ := hsp
        refine hac.mono ?_
        rintro a b ⟨n, hn, hid, hd⟩
        exact ⟨n, (hself n).mp hn, hid, hd⟩
      · refine (hwf.acyclic s p).mono ?_
        rintro a b ⟨n, hn, hid, hd⟩
        rcases (hmem s p n).mp hn with ⟨hn, hs, hp⟩ | hn
        · obtain ⟨hs', hp'⟩ := hplace n hn
          exact absurd ⟨hs.symm.trans hs', hp.symm.trans hp'⟩ hsp
        · exact ⟨n, hn, hid, hd⟩

theorem addTaskNode_known {store' : SqlitePlanStore} {node : PlanTaskNode} {v : Option ℕ}
    {now : DateTime} (h : store.addTaskNode n v now = (.ok node, store')) :
    ∀ d ∈ n.dependsOn, ∃ m ∈ n :: store.nodesOf n.sessionId n.planId, m.taskNodeId = d := by
  unfold addTaskNode at h
  split at h
  · cases h
  · split at h
    · cases h
    · split at h
      · cases h
      · next hdeps => exact validateNodeDependencies_eq_ok.mp hdeps n (List.mem_cons_self ..)

/-- **A node added.** The look-up of `addTaskNode` is enough. -/
theorem WellFormed.addTaskNode (hwf : store.WellFormed) {store' : SqlitePlanStore}
    {node : PlanTaskNode} {v : Option ℕ} {now : DateTime}
    (h : store.addTaskNode n v now = (.ok node, store')) : store'.WellFormed := by
  have hknown := addTaskNode_known h
  rcases store.addTaskNode_cases n v now with ⟨e, he⟩ | ⟨plan, hn, hp, hi, hv, hplan, hnew, heq⟩
  · rw [he] at h
    cases h
  · rw [heq] at h
    cases h
    refine (WellFormed.congr fun s p m => by rw [nodesOf_putPlan]).mpr (hwf.putNode hn hp hi ?_)
    refine fits_of_new hwf hn hnew ?_
    intro d hd
    obtain ⟨m, hm, hid⟩ := hknown d hd
    rcases List.mem_cons.mp hm with rfl | hm
    · rw [← hid] at hd
      exact absurd hd hn.2.2.2
    · exact ⟨m, hm, hid⟩

theorem archivePlan_cases (store : SqlitePlanStore) (s p : String) (v : Option ℕ) (now : DateTime) :
    (∃ e, store.archivePlan s p v now = (.error e, store)) ∨
    ∃ plan h, plan.status = .archived ∧ plan.key = (s, p) ∧
      store.archivePlan s p v now = (.ok plan, store.putPlan plan h) := by
  unfold archivePlan
  split
  · exact .inl ⟨_, rfl⟩
  · next hplan =>
    obtain ⟨hs, hp⟩ := plan_key_of_get hplan
    split
    · exact .inl ⟨_, rfl⟩
    · split
      · exact .inl ⟨_, rfl⟩
      · simp only
        split
        · next h => exact .inr ⟨_, h, rfl, Prod.ext hs hp, rfl⟩
        · exact .inl ⟨_, rfl⟩

end SqlitePlanStore

/-! ### Runs -/

inductive PlanCall
  | createPlan (plan : Plan) (hplan : plan.Valid) (taskNodes : List PlanTaskNode)
  | addTaskNode (node : PlanTaskNode) (expectedPlanVersion : Option ℕ) (now : DateTime)
  | saveTaskNode (node : PlanTaskNode) (expectedVersion : ℕ) (now : DateTime)
  | savePlan (plan : Plan) (expectedVersion : ℕ) (now : DateTime)
  | archivePlan (sessionId planId : String) (expectedVersion : Option ℕ) (now : DateTime)

/-- The store that a call leaves, when it is accepted. -/
def accepted {E R S : Type} : Except E R × S → Option S
  | (.ok _, s) => some s
  | (.error _, _) => none

namespace PlanCall

def step (store : SqlitePlanStore) : PlanCall → Option SqlitePlanStore
  | createPlan plan hplan taskNodes => accepted (store.createPlan plan hplan taskNodes)
  | addTaskNode node v now => accepted (store.addTaskNode node v now)
  | saveTaskNode node v now => accepted (store.saveTaskNode node v now)
  | savePlan plan v now => accepted (store.savePlan plan v now)
  | archivePlan s p v now => accepted (store.archivePlan s p v now)

/-- What no writer checks: the nodes of a new plan do not wait for each other in a
circle, and a node that is saved fits. -/
def KeepsDependencies (store : SqlitePlanStore) : PlanCall → Prop
  | createPlan _ _ taskNodes => Acyclic (WaitsFor taskNodes)
  | saveTaskNode node _ _ => store.Fits node
  | _ => True

end PlanCall

theorem accepted_eq_some {E R S : Type} {r : Except E R × S} {s : S} (h : accepted r = some s) :
    ∃ a, r = (.ok a, s) := by
  obtain ⟨_ | a, t⟩ := r
  · cases h
  · cases h
    exact ⟨a, rfl⟩

open SqlitePlanStore in
theorem wellFormed_step_iff {store store' : SqlitePlanStore} {call : PlanCall}
    (hwf : store.WellFormed) (h : call.step store = some store') :
    store'.WellFormed ↔ call.KeepsDependencies store := by
  cases call with
  | createPlan plan hplan taskNodes =>
    obtain ⟨p, hp⟩ := accepted_eq_some h
    exact wellFormed_createPlan_iff hwf hp
  | addTaskNode node v now =>
    obtain ⟨n, hn⟩ := accepted_eq_some h
    exact iff_of_true (hwf.addTaskNode hn) trivial
  | saveTaskNode node v now =>
    obtain ⟨n, hn⟩ := accepted_eq_some h
    rcases store.saveTaskNode_cases node v now with ⟨e, he⟩ | ⟨current, hv, hp, hi, -, -, heq⟩
    · rw [he] at hn
      cases hn
    · rw [heq] at hn
      cases hn
      -- the version and the stamps of a node are no part of its place
      exact (wellFormed_putNode_iff hv hp hi hwf).trans
        ⟨fun ⟨a, b, c⟩ => ⟨a, b, c⟩, fun ⟨a, b, c⟩ => ⟨a, b, c⟩⟩
  | savePlan plan v now =>
    obtain ⟨p, hp⟩ := accepted_eq_some h
    rcases store.savePlan_cases plan v now with ⟨e, he⟩ | ⟨current, hv, -, -, heq⟩
    · rw [he] at hp
      cases hp
    · rw [heq] at hp
      cases hp
      exact iff_of_true ((WellFormed.congr fun _ _ _ => by rw [nodesOf_putPlan]).mpr hwf) trivial
  | archivePlan s p v now =>
    obtain ⟨p', hp⟩ := accepted_eq_some h
    rcases store.archivePlan_cases s p v now with ⟨e, he⟩ | ⟨plan, hv, -, -, heq⟩
    · rw [he] at hp
      cases hp
    · rw [heq] at hp
      cases hp
      exact iff_of_true ((WellFormed.congr fun _ _ _ => by rw [nodesOf_putPlan]).mpr hwf) trivial

/-- **The dependencies inside the plans.** Along a run of accepted calls every store has
well-formed plans exactly when no new plan comes with a circle, and no saved node
waits for a name outside its plan, closes a circle, or leaves a plan that misses it. -/
theorem plan_dependencies_iff {calls : List PlanCall}
    (h : (execAll PlanCall.step .empty calls).isSome) :
    (∀ k store, execAll PlanCall.step .empty (calls.take k) = some store → store.WellFormed) ↔
      Along PlanCall.step (fun store call => call.KeepsDependencies store) .empty calls :=
  always_iff_along (fun _ _ _ hwf hs => wellFormed_step_iff hwf hs) calls _
    SqlitePlanStore.wellFormed_empty h

/-- A plan of two nodes, the second of which waits for the first, and a save of the first. -/
def PlanCall.inOrder : List PlanCall :=
  [.createPlan .sample Plan.valid_sample
    [.sample "a" "1", { PlanTaskNode.sample "b" "2" with dependsOn := ["a"] }],
   .saveTaskNode { PlanTaskNode.sample "a" "1" with title := "first" } 1 .noon]

theorem plan_dependencies_inOrder :
    (∀ k store, execAll PlanCall.step .empty (PlanCall.inOrder.take k) = some store →
      store.WellFormed) ↔
      Along PlanCall.step (fun store call => call.KeepsDependencies store) .empty
      PlanCall.inOrder :=
  plan_dependencies_iff (by decide)

/-- A plan whose two nodes wait for each other is accepted. -/
theorem circle_accepted :
    ∃ store, execAll PlanCall.step .empty
        [.createPlan .sample Plan.valid_sample
          [{ PlanTaskNode.sample "a" "1" with dependsOn := ["b"] },
           { PlanTaskNode.sample "b" "2" with dependsOn := ["a"] }]] = some store ∧
      ¬store.WellFormed := by
  refine ⟨_, rfl, ?_⟩
  intro hwf
  refine hwf.acyclic "s" "p" "a" (.tail (.single (b := "b") ?_) ?_)
  · refine ⟨{ PlanTaskNode.sample "a" "1" with dependsOn := ["b"] }, ?_, rfl,
      List.mem_singleton.mpr rfl⟩
    decide
  · refine ⟨{ PlanTaskNode.sample "b" "2" with dependsOn := ["a"] }, ?_, rfl,
      List.mem_singleton.mpr rfl⟩
    decide

end Taskweavn
