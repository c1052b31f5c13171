import Taskweavn.Task.PlanArchive

/-!
# What an archived plan leaves behind

An archive call is accepted when the plan that it has read is up for acceptance or has failed.
A plan is up for acceptance when all its nodes are done, and then its tasks are done for good.
It has failed as soon as one of its nodes has: the other tasks may go on, and a failed task may
have been retried since.

`Cautious` says of a step that it steers clear of these cases.  `Keeps` is what then holds of
the bus, the rows and the callbacks under way, and `archived_plan_idle`: **in a run of cautious
steps, no accepted archive call leaves a live task behind**.
-/

namespace Taskweavn

open Lib Py

def PlanTaskNodeExecutionStatus.live : PlanTaskNodeExecutionStatus → Bool
  | .pending | .running | .waitingForUser => true
  | _ => false

theorem live_executionFromTask (task : TaskDomain) :
    (executionFromTask task).live = task.status.live := by
  unfold executionFromTask
  cases task.status <;> rfl

namespace SqlitePlanStore

def TaskOf (store : SqlitePlanStore) (s p i : String) : Prop :=
  ∃ n ∈ store.nodesOf s p, n.publishedRef = some (.published i)

instance (store : SqlitePlanStore) (s p i : String) : Decidable (store.TaskOf s p i) :=
  inferInstanceAs (Decidable (∃ n ∈ store.nodesOf s p, _))

end SqlitePlanStore

def BusCall.retried (c : BusCall) : Option (String × String) :=
  match c.op with
  | .transition sessionId taskId (.retry _) => some (sessionId, taskId)
  | _ => none

def LifecycleSync.row : LifecycleSync → Option PlanTaskNode
  | found _ _ node => some node
  | _ => none

namespace ArchiveWorld

variable {B : Type} [AnsweringBus B]

/-- A task of the plan is live on the bus. -/
def Busy (w : ArchiveWorld B) (s p : String) : Prop :=
  ∃ i t, w.store.TaskOf s p i ∧ TaskBus.get w.bus s i = .ok (some t) ∧ t.status.live = true

/-- The step steers clear of what an archive call overlooks.

* A task is retried when no callback is due that has found it done or failed.
* The clock of a node's write is not before the creation of the node.
* A callback with a live task is not lost, when the node says that the task is closed.
* A plan that was read as failed is archived when none of its nodes is live, and no callback
  is due that has found a task of it live. -/
def Cautious (s p : String) (w : ArchiveWorld B) : ArchiveStep → Prop
  | .bus call => ∀ key ∈ call.retried, key.1 = s → w.store.TaskOf s p key.2 →
      ∀ c ∈ w.syncs, ∀ t ∈ c.snapshot, t.key = key → t.status.live = true
  | .sync k now => ∀ c ∈ w.syncs[k]?, ∀ n ∈ c.row, n.createdAt ≤ now
  | .lose k => ∀ c ∈ w.syncs[k]?, ∀ t ∈ c.snapshot, t.sessionId = s → t.status.live = true →
      ∀ n ∈ w.store.nodesOf s p, n.publishedRef = some (.published t.taskId) →
        n.execution.live = true
  | .archive .. => True
  | .write k _ => ∀ a ∈ w.archives[k]?, a.plan.key = (s, p) → a.plan.status = .failed →
      (∀ n ∈ w.store.nodesOf s p, n.execution.live = false) ∧
      ∀ c ∈ w.syncs, ∀ t ∈ c.snapshot, t.sessionId = s → w.store.TaskOf s p t.taskId →
        t.status.live = false

instance (s p : String) (w : ArchiveWorld B) : ∀ l, Decidable (w.Cautious s p l)
  | .bus call => inferInstanceAs (Decidable (∀ key ∈ call.retried, _))
  | .sync k _ => inferInstanceAs (Decidable (∀ c ∈ w.syncs[k]?, _))
  | .lose k => inferInstanceAs (Decidable (∀ c ∈ w.syncs[k]?, _))
  | .archive .. => isTrue trivial
  | .write k _ => inferInstanceAs (Decidable (∀ a ∈ w.archives[k]?, _))

/-- The archive call that is accepted leaves no live task behind. -/
def Idle (s p : String) (w : ArchiveWorld B) (l : ArchiveStep) : Prop :=
  ∀ plan ∈ (w.step l).1, plan.key = (s, p) → ¬w.Busy s p

/-! ### The invariant -/

section

variable (s p : String) (m : InMemoryTaskBus) (store : SqlitePlanStore)

def AllDone : Prop := ∀ i, store.TaskOf s p i → m.HasStatus s i .done

/-- A status under which the plan is archived tells the truth, or it is `failed`. -/
def Fits (status : PlanStatus) : Prop :=
  status ∈ archiveablePlanStatuses →
    status = .failed ∨ status = .awaitingAcceptance ∧ AllDone s p m store

/-- The callback is going to write into the node that its task is live. -/
inductive Reopens (n : PlanTaskNode) (i : String) : LifecycleSync → Prop
  | committed (t : TaskDomain) (hkey : t.key = (s, i)) (hlive : t.status.live = true) :
      Reopens n i (.committed t)
  | found (t : TaskDomain) (plan : Plan) (hkey : t.key = (s, i)) (hlive : t.status.live = true) :
      Reopens n i (.found t plan n)

theorem Reopens.snapshot {s : String} {n : PlanTaskNode} {i : String} {c : LifecycleSync}
    (h : Reopens s n i c) :
    ∃ t, c.snapshot = some t ∧ t.sessionId = s ∧ t.taskId = i ∧ t.status.live = true := by
  cases h with
  | committed t hkey hlive =>
    exact ⟨t, rfl, congrArg Prod.fst hkey, congrArg Prod.snd hkey, hlive⟩
  | found t plan hkey hlive =>
    exact ⟨t, rfl, congrArg Prod.fst hkey, congrArg Prod.snd hkey, hlive⟩

/-- What holds of the bus, the rows and the calls under way. -/
structure Keeps (syncs : List LifecycleSync) (archives : List ArchiveCall) : Prop where
  present : ∀ i, store.TaskOf s p i → (m.get s i).isSome = true
  /-- No other node refers to a task of the plan. -/
  sole : ∀ i n r id, n ∈ store.nodesOf s p → n.publishedRef = some (.published i) →
    store.getTaskNode s id = some r → r.publishedRef = n.publishedRef → r = n
  /-- A node that a callback has read is still the row, or an older version of it. -/
  found : ∀ t plan n, .found t plan n ∈ syncs → n.publishedRef = some (.published t.taskId) ∧
    n.sessionId = t.sessionId ∧ ∃ r, store.getTaskNode n.sessionId n.taskNodeId = some r ∧
      (r = n ∨ n.version < r.version)
  /-- What a callback tells of a closed task is true. -/
  told : ∀ c ∈ syncs, ∀ t, c.snapshot = some t → t.sessionId = s → store.TaskOf s p t.taskId →
    (t.status = .done → m.HasStatus s t.taskId .done) ∧
    (t.status.live = false → m.Closed s t.taskId)
  row_done : ∀ n ∈ store.nodesOf s p, ∀ i, n.publishedRef = some (.published i) →
    n.execution = .done → m.HasStatus s i .done
  /-- What a row tells of a closed task is true, or a callback is going to correct it. -/
  row_closed : ∀ n ∈ store.nodesOf s p, ∀ i, n.publishedRef = some (.published i) →
    n.execution.live = false → m.Closed s i ∨ ∃ c ∈ syncs, Reopens s n i c
  plan_fits : ∀ plan, store.getPlan s p = some plan → Fits s p m store plan.status
  decided_fits : ∀ plan status, .decided plan status ∈ syncs → plan.key = (s, p) →
    Fits s p m store status
  archive_fits : ∀ a ∈ archives, a.plan.key = (s, p) → a.plan.status ∈ archiveablePlanStatuses ∧
    Fits s p m store a.plan.status

end

end ArchiveWorld

/-! ### The rows after a write of a callback -/

namespace SqlitePlanStore

section

variable {store : SqlitePlanStore} {n r : PlanTaskNode} {t : TaskDomain} {now : DateTime}
  {s p i : String} (hn : store.getTaskNode n.sessionId n.taskNodeId = some n)
  (h : ((nodeFromTask n t).copied n now).Valid)
  (hp : (store.plans.get? (((nodeFromTask n t).copied n now).sessionId,
    ((nodeFromTask n t).copied n now).planId)).isSome = true)
  (hi : indexTaken store.nodes ((nodeFromTask n t).copied n now) = false)

include hn

theorem mem_nodesOf_written :
    r ∈ (store.putNode ((nodeFromTask n t).copied n now) h hp hi).nodesOf s p ↔
      (r = (nodeFromTask n t).copied n now ∧ n ∈ store.nodesOf s p) ∨
      (r ∈ store.nodesOf s p ∧ r.key ≠ n.key) := by
  have hkey : ((nodeFromTask n t).copied n now).key = n.key := rfl
  rw [mem_nodesOf, getTaskNode_putNode, hkey]
  constructor
  · rintro ⟨hget, hs, hplan⟩
    split at hget
    · cases hget
      refine .inl ⟨rfl, mem_nodesOf.mpr ⟨?_, hs, hplan⟩⟩
      rw [← show n.sessionId = s from hs]
      exact hn
    · next hne =>
      refine .inr ⟨mem_nodesOf.mpr ⟨hget, hs, hplan⟩, fun heq => hne ?_⟩
      rw [← heq, PlanTaskNode.key, hs]
  · rintro (⟨rfl, hmem⟩ | ⟨hmem, hne⟩)
    · obtain ⟨-, hs, hplan⟩ := mem_nodesOf.mp hmem
      refine ⟨if_pos ?_, hs, hplan⟩
      rw [PlanTaskNode.key, hs]
      rfl
    · obtain ⟨hget, hs, hplan⟩ := mem_nodesOf.mp hmem
      refine ⟨?_, hs, hplan⟩
      rw [if_neg fun heq => hne ?_]
      · exact hget
      · rw [heq, PlanTaskNode.key, hs]

theorem taskOf_written :
    (store.putNode ((nodeFromTask n t).copied n now) h hp hi).TaskOf s p i ↔
    store.TaskOf s p i := by
  constructor
  · rintro ⟨r, hr, href⟩
    rcases (mem_nodesOf_written hn h hp hi).mp hr with ⟨rfl, hmem⟩ | ⟨hmem, -⟩
    · exact ⟨n, hmem, href⟩
    · exact ⟨r, hmem, href⟩
  · rintro ⟨r, hr, href⟩
    by_cases hkey : r.key = n.key
    · have hrn : r = n := by
        obtain ⟨hget, hs, -⟩ := mem_nodesOf.mp hr
        rw [show r.taskNodeId = n.taskNodeId from congrArg Prod.snd hkey, ← hs,
          show r.sessionId = n.sessionId from congrArg Prod.fst hkey, hn] at hget
        exact (Option.some.inj hget).symm
      subst hrn
      exact ⟨_, (mem_nodesOf_written hn h hp hi).mpr (.inl ⟨rfl, hr⟩), href⟩
    · exact ⟨r, (mem_nodesOf_written hn h hp hi).mpr (.inr ⟨hr, hkey⟩), href⟩

end

/-- **The write of a callback** that has read the row, or an older version of it. -/
theorem saveChanged_of_read {store : SqlitePlanStore} {n r : PlanTaskNode} (t : TaskDomain)
    (now : DateTime) (hr : store.getTaskNode n.sessionId n.taskNodeId = some r)
    (hread : r = n ∨ n.version < r.version) :
    (store.saveChanged (nodeFromTask n t) n now).2 = store ∨
    ∃ h hp hi, r = n ∧ (store.saveChanged (nodeFromTask n t) n now).2 =
      store.putNode ((nodeFromTask n t).copied n now) h hp hi := by
  rcases hread with rfl | hlt
  · rcases saveChanged_cases hr t now with ⟨e, he⟩ | ⟨-, hok⟩ | ⟨h, hp, hi, hok⟩
    · exact .inl (by rw [he])
    · exact .inl (by rw [hok])
    · exact .inr ⟨h, hp, hi, rfl, by rw [hok]⟩
  · left
    unfold saveChanged
    split
    · rfl
    · rcases store.saveTaskNode_cases (nodeFromTask n t) n.version now with
        ⟨e, he⟩ | ⟨current, -, -, -, hcur, hv, -⟩
      · rw [he]
      · obtain rfl : current = r := Option.some.inj (hcur.symm.trans hr)
        omega

theorem saveChanged_live {store : SqlitePlanStore} {n : PlanTaskNode} {t : TaskDomain}
    {now : DateTime} (hn : store.getTaskNode n.sessionId n.taskNodeId = some n)
    (hclosed : n.execution.live = false) (hlive : t.status.live = true) (hnow : n.createdAt ≤ now) :
    (store.saveChanged (nodeFromTask n t) n now).2 ≠ store := by
  have hexecution : (nodeFromTask n t).execution.live = true := by
    rw [← hlive, ← live_executionFromTask]
    rfl
  have hne : nodeFromTask n t ≠ n := by
    intro heq
    rw [heq, hclosed] at hexecution
    cases hexecution
  have hdone : executionFromTask t ≠ .done ∧ executionFromTask t ≠ .failed := by
    unfold executionFromTask
    cases hs : t.status <;> simp [hs, TaskStatus.live] at hlive ⊢
  obtain ⟨hfields, hversion, horder, hself⟩ := (store.nodes_ok _ _ hn).2.1
  have hvalid : ((nodeFromTask n t).copied n now).Valid := by
    refine ⟨?_, by simp [PlanTaskNode.copied], hnow, hself⟩
    simp only [PlanTaskNode.fieldsOk, Bool.and_eq_true] at hfields ⊢
    simp only [PlanTaskNode.copied, nodeFromTask, hdone.1, hdone.2, if_false]
    obtain ⟨⟨⟨⟨hrest, -⟩, -⟩, hfile⟩, haudit⟩ := hfields
    exact ⟨⟨⟨⟨hrest, rfl⟩, rfl⟩, hfile⟩, haudit⟩
  obtain ⟨h, hp, hi, hok⟩ := saveTaskNode_ok (n := nodeFromTask n t) hn rfl rfl hvalid
  intro heq
  rw [saveChanged, if_neg hne, hok] at heq
  have hget := congrArg (fun store => store.getTaskNode n.sessionId n.taskNodeId) heq
  simp only [getTaskNode_putNode] at hget
  have hkey : ((nodeFromTask n t).copied n now).key = (n.sessionId, n.taskNodeId) := rfl
  rw [if_pos hkey, hn] at hget
  have hversions := congrArg PlanTaskNode.version (Option.some.inj hget)
  simp [PlanTaskNode.copied] at hversions

end SqlitePlanStore

/-! ### What the steps keep -/

namespace ArchiveWorld

variable {s p : String} {m : InMemoryTaskBus} {store : SqlitePlanStore} {plan : Plan}
  {n : PlanTaskNode} {t : TaskDomain} {now : DateTime}
  {syncs syncs' : List LifecycleSync} {archives archives' : List ArchiveCall}

theorem Keeps.of_syncs (h : Keeps s p m store syncs archives)
    (hnew : ∀ c ∈ syncs', c ∈ syncs ∨ c.snapshot = none ∧
      ∀ plan status, c = .decided plan status → plan.key = (s, p) → Fits s p m store status)
    (hstay : ∀ c ∈ syncs, ∀ n ∈ store.nodesOf s p, ∀ i, n.publishedRef = some (.published i) →
      n.execution.live = false → Reopens s n i c → c ∈ syncs') :
    Keeps s p m store syncs' archives where
  present := h.present
  sole := h.sole
  found t plan n hmem := by
    rcases hnew _ hmem with hold | ⟨hnone, -⟩
    · exact h.found t plan n hold
    · cases hnone
  told c hmem t hsnapshot := by
    rcases hnew c hmem with hold | ⟨hnone, -⟩
    · exact h.told c hold t hsnapshot
    · rw [hnone] at hsnapshot
      cases hsnapshot
  row_done := h.row_done
  row_closed n hn i href hclosed := by
    refine (h.row_closed n hn i href hclosed).imp_right ?_
    rintro ⟨c, hmem, hreopens⟩
    exact ⟨c, hstay c hmem n hn i href hclosed hreopens, hreopens⟩
  plan_fits := h.plan_fits
  decided_fits plan status hmem := by
    rcases hnew _ hmem with hold | ⟨-, hfits⟩
    · exact h.decided_fits plan status hold
    · exact hfits plan status rfl
  archive_fits := h.archive_fits

theorem Keeps.putPlan (h : Keeps s p m store syncs archives) (hv : plan.Valid)
    (hfits : plan.key = (s, p) → Fits s p m store plan.status) :
    Keeps s p m (store.putPlan plan hv) syncs archives where
  present := h.present
  sole := h.sole
  found := h.found
  told := h.told
  row_done := h.row_done
  row_closed := h.row_closed
  plan_fits plan' hplan := by
    by_cases hkey : plan.key = (s, p)
    · have hget :=
        (SqlitePlanStore.getPlan_putPlan hv : (store.putPlan plan hv).getPlan _ _ = some plan)
      rw [show plan.sessionId = s from congrArg Prod.fst hkey,
        show plan.planId = p from congrArg Prod.snd hkey, hplan] at hget
      cases hget
      exact hfits hkey
    · rw [SqlitePlanStore.getPlan_putPlan_ne hv hkey] at hplan
      exact h.plan_fits plan' hplan
  decided_fits := h.decided_fits
  archive_fits := h.archive_fits

theorem Keeps.putNode (h : Keeps s p m store (.found t plan n :: syncs) archives)
    (hn : store.getTaskNode n.sessionId n.taskNodeId = some n)
    (hv : ((nodeFromTask n t).copied n now).Valid)
    (hp : (store.plans.get? (((nodeFromTask n t).copied n now).sessionId,
      ((nodeFromTask n t).copied n now).planId)).isSome = true)
    (hi : indexTaken store.nodes ((nodeFromTask n t).copied n now) = false) :
    Keeps s p m (store.putNode ((nodeFromTask n t).copied n now) hv hp hi) syncs archives := by
  obtain ⟨href, hsession, -⟩ := h.found t plan n List.mem_cons_self
  have htask : ∀ i, (store.putNode ((nodeFromTask n t).copied n now) hv hp hi).TaskOf s p i ↔
      store.TaskOf s p i := fun i => SqlitePlanStore.taskOf_written hn hv hp hi
  have hmem : ∀ r, r ∈ (store.putNode ((nodeFromTask n t).copied n now) hv hp hi).nodesOf s p ↔
      (r = (nodeFromTask n t).copied n now ∧ n ∈ store.nodesOf s p) ∨
      (r ∈ store.nodesOf s p ∧ r.key ≠ n.key) := fun r =>
        SqlitePlanStore.mem_nodesOf_written hn hv hp hi
  have hfits : ∀ status, Fits s p m store status →
      Fits s p m (store.putNode ((nodeFromTask n t).copied n now) hv hp hi) status :=
    fun status hstatus harchive => (hstatus harchive).imp_right fun hdone =>
      ⟨hdone.1, fun i hi' => hdone.2 i ((htask i).mp hi')⟩
  -- what the callback tells of the task of a node of the plan
  have htold : n ∈ store.nodesOf s p → (t.status = .done → m.HasStatus s t.taskId .done) ∧
      (t.status.live = false → m.Closed s t.taskId) := fun hmember =>
    h.told _ List.mem_cons_self t rfl (hsession ▸ (SqlitePlanStore.mem_nodesOf.mp hmember).2.1)
      ⟨n, hmember, href⟩
  have hsame : ∀ i, ((nodeFromTask n t).copied n now).publishedRef = some (.published i) →
      t.taskId = i := by
    intro i hi'
    rw [show ((nodeFromTask n t).copied n now).publishedRef = n.publishedRef from rfl, href] at hi'
    cases hi'
    rfl
  refine ⟨fun i hi' => h.present i ((htask i).mp hi'), ?_, ?_, fun c hc t' hsnapshot hs hi' =>
    h.told c (List.mem_cons_of_mem _ hc) t' hsnapshot hs ((htask _).mp hi'), ?_, ?_,
    fun plan' hplan => hfits _ (h.plan_fits plan' hplan), fun plan' status hc hkey =>
    hfits _ (h.decided_fits plan' status (List.mem_cons_of_mem _ hc) hkey), fun a ha hkey =>
    ⟨(h.archive_fits a ha hkey).1, hfits _ (h.archive_fits a ha hkey).2⟩⟩
  · -- the reference of the row stays
    intro i r q id hr hri hq hqr
    rw [SqlitePlanStore.getTaskNode_putNode] at hq
    rcases (hmem r).mp hr with ⟨rfl, hmember⟩ | ⟨hmember, hne⟩
    · split at hq
      · exact (Option.some.inj hq).symm
      · next hkey =>
        have hqn : q = n := h.sole i n q id hmember hri hq hqr
        obtain ⟨hs, hid⟩ := SqlitePlanStore.key_of_get hq
        rw [hqn] at hs hid
        exact absurd (Prod.ext hs hid) hkey
    · split at hq
      · next hkey =>
        cases hq
        have hs : n.sessionId = s := congrArg Prod.fst hkey
        have hid : n.taskNodeId = id := congrArg Prod.snd hkey
        rw [hs, hid] at hn
        exact absurd (congrArg PlanTaskNode.key (h.sole i r n id hmember hri hn hqr)).symm hne
      · exact h.sole i r q id hmember hri hq hqr
  · -- the version of the row grows
    intro t' plan' n₁ hc
    obtain ⟨href₁, hsession₁, r₁, hr₁, hread₁⟩ := h.found t' plan' n₁ (List.mem_cons_of_mem _ hc)
    refine ⟨href₁, hsession₁, ?_⟩
    rw [SqlitePlanStore.getTaskNode_putNode]
    split
    · next hkey =>
      have hs : n.sessionId = n₁.sessionId := congrArg Prod.fst hkey
      have hid : n.taskNodeId = n₁.taskNodeId := congrArg Prod.snd hkey
      rw [← hs, ← hid, hn] at hr₁
      refine ⟨_, rfl, .inr ?_⟩
      show n₁.version < n.version + 1
      rcases hread₁ with heq | hlt
      · rw [← heq, ← Option.some.inj hr₁]
        omega
      · rw [← Option.some.inj hr₁] at hlt
        omega
    · exact ⟨r₁, hr₁, hread₁⟩
  · intro r hr i hri hdone
    rcases (hmem r).mp hr with ⟨rfl, hmember⟩ | ⟨hmember, -⟩
    · have hstatus : t.status = .done := by
        have hexecution : executionFromTask t = .done := hdone
        unfold executionFromTask at hexecution
        cases ht : t.status <;> rw [ht] at hexecution <;> cases hexecution
      rw [← hsame i hri]
      exact (htold hmember).1 hstatus
    · exact h.row_done r hmember i hri hdone
  · intro r hr i hri hclosed
    rcases (hmem r).mp hr with ⟨rfl, hmember⟩ | ⟨hmember, hne⟩
    · have hlive : t.status.live = false := by
        rw [← live_executionFromTask]
        exact hclosed
      rw [← hsame i hri]
      exact .inl ((htold hmember).2 hlive)
    · refine (h.row_closed r hmember i hri hclosed).imp_right ?_
      rintro ⟨c, hc, hreopens⟩
      rcases List.mem_cons.mp hc with rfl | hc
      · cases hreopens
        exact absurd rfl hne
      · exact ⟨c, hc, hreopens⟩

theorem Keeps.fits_planStatusFromNodes (h : Keeps s p m store syncs archives)
    (hne : planStatusFromNodes plan (store.nodesOf s p) ≠ plan.status) :
    Fits s p m store (planStatusFromNodes plan (store.nodesOf s p)) := by
  unfold planStatusFromNodes at hne ⊢
  split at hne
  · exact absurd rfl hne
  next hopen =>
  rw [if_neg hopen]
  split at hne
  · exact absurd rfl hne
  next hsome =>
  rw [if_neg hsome]
  split at hne
  · next hfailed =>
    rw [if_pos hfailed]
    exact fun _ => .inl rfl
  next hfailed =>
  rw [if_neg hfailed]
  split at hne
  · next hall =>
    rw [if_pos hall]
    refine fun _ => .inr ⟨rfl, fun i hi => ?_⟩
    obtain ⟨n, hn, href⟩ := hi
    exact h.row_done n hn i href (beq_iff_eq.mp (List.all_eq_true.mp hall n hn))
  next hall =>
  rw [if_neg hall]
  split at hne
  · next hlive =>
    rw [if_pos hlive]
    intro harchive
    simp [archiveablePlanStatuses] at harchive
  · exact absurd rfl hne

theorem Keeps.findNode (h : Keeps s p m store syncs archives) {i : String}
    (hn : n ∈ store.nodesOf s p) (href : n.publishedRef = some (.published i)) :
    ∃ plan, store.findNode s i = some (plan, n) := by
  obtain ⟨⟨plan, n'⟩, hfind⟩ := Option.isSome_iff_exists.mp
    (SqlitePlanStore.findNode_isSome (SqlitePlanStore.mem_nodesOf.mp hn).1 href)
  obtain ⟨-, hn', href'⟩ := SqlitePlanStore.findNode_some hfind
  have hsole := h.sole i n n' _ hn href (SqlitePlanStore.mem_nodesOf.mp hn').1
    (href'.trans href.symm)
  exact ⟨plan, hsole ▸ hfind⟩

theorem Keeps.committed (h : Keeps s p m store (.committed t :: syncs) archives)
    (hfind : store.findNode t.sessionId t.taskId = some (plan, n)) :
    Keeps s p m store (syncs ++ [.found t plan n]) archives := by
  obtain ⟨-, hn, href⟩ := SqlitePlanStore.findNode_some hfind
  obtain ⟨hget, hsession, -⟩ := SqlitePlanStore.mem_nodesOf.mp hn
  have hmem : ∀ c ∈ syncs ++ [.found t plan n], c ∈ syncs ∨ c = .found t plan n := by
    intro c hc
    exact (List.mem_append.mp hc).imp_right List.mem_singleton.mp
  refine ⟨h.present, h.sole, ?_, ?_, h.row_done, ?_, h.plan_fits, ?_, h.archive_fits⟩
  · intro t' plan' n' hc
    rcases hmem _ hc with hc | heq
    · exact h.found t' plan' n' (List.mem_cons_of_mem _ hc)
    · cases heq
      exact ⟨href, hsession, n, hsession ▸ hget, .inl rfl⟩
  · intro c hc t' hsnapshot
    rcases hmem c hc with hc | rfl
    · exact h.told c (List.mem_cons_of_mem _ hc) t' hsnapshot
    · exact h.told (.committed t) List.mem_cons_self t' hsnapshot
  · intro r hr i hri hclosed
    refine (h.row_closed r hr i hri hclosed).imp_right ?_
    rintro ⟨c, hc, hreopens⟩
    rcases List.mem_cons.mp hc with rfl | hc
    · -- the row that it reopens is the one that it has found
      cases hreopens with
      | committed _ hkey hlive =>
        obtain ⟨plan', hfind'⟩ := h.findNode hr hri
        rw [← show t.sessionId = s from congrArg Prod.fst hkey,
          ← show t.taskId = i from congrArg Prod.snd hkey, hfind] at hfind'
        cases hfind'
        exact ⟨_, List.mem_append_right _ (List.mem_singleton.mpr rfl), .found t plan hkey hlive⟩
    · exact ⟨c, List.mem_append_left _ hc, hreopens⟩
  · intro plan' status hc
    rcases hmem _ hc with hc | heq
    · exact h.decided_fits plan' status (List.mem_cons_of_mem _ hc)
    · cases heq

/-- **A step of a callback.** -/
theorem Keeps.advance {c : LifecycleSync} (h : Keeps s p m store (c :: syncs) archives)
    (hnow : ∀ t plan n, c = .found t plan n → n.createdAt ≤ now) :
    Keeps s p m (c.advance store now).2 (syncs ++ (c.advance store now).1.toList) archives := by
  -- a callback that has written its node reopens nothing any more
  have hover : ∀ {store' : SqlitePlanStore} {next : Option LifecycleSync},
      Keeps s p m store' (c :: syncs) archives → c.snapshot = none →
      (∀ c' ∈ next, c'.snapshot = none ∧ ∀ plan status, c' = .decided plan status →
        plan.key = (s, p) → Fits s p m store' status) →
      Keeps s p m store' (syncs ++ next.toList) archives := by
    intro store' next h' hnone hnext
    refine h'.of_syncs ?_ ?_
    · intro c' hc'
      rcases List.mem_append.mp hc' with hc' | hc'
      · exact .inl (List.mem_cons_of_mem _ hc')
      · exact .inr (hnext c' (Option.mem_toList.mp hc'))
    · intro c' hc' n _ i _ _ hreopens
      rcases List.mem_cons.mp hc' with rfl | hc'
      · cases hreopens <;> cases hnone
      · exact List.mem_append_left _ hc'
  cases c with
  | committed t =>
    rw [LifecycleSync.advance]
    cases hfind : store.findNode t.sessionId t.taskId with
    | none =>
      refine h.of_syncs (fun c hc => .inl (List.mem_cons_of_mem _ ?_)) ?_
      · simpa using hc
      · intro c hc n hn i href hclosed hreopens
        rcases List.mem_cons.mp hc with rfl | hc
        · cases hreopens with
          | committed _ hkey hlive =>
            obtain ⟨plan, hfind'⟩ := h.findNode hn href
            rw [← show t.sessionId = s from congrArg Prod.fst hkey,
              ← show t.taskId = i from congrArg Prod.snd hkey, hfind] at hfind'
            cases hfind'
        · simpa using hc
    | some found =>
      obtain ⟨plan, n⟩ := found
      exact h.committed hfind
  | found t plan n =>
    obtain ⟨href, hsession, r, hr, hread⟩ := h.found t plan n List.mem_cons_self
    have hstore : (LifecycleSync.advance store now (.found t plan n)).2 =
        (store.saveChanged (nodeFromTask n t) n now).2 := by
      simp only [LifecycleSync.advance]
      rcases store.saveChanged (nodeFromTask n t) n now with ⟨_ | _, _⟩ <;> rfl
    have hnext : ∀ c' ∈ (LifecycleSync.advance store now (.found t plan n)).1,
        c'.snapshot = none ∧ ∀ plan status, c' ≠ .decided plan status := by
      intro c' hc'
      simp only [LifecycleSync.advance] at hc'
      split at hc'
      · cases hc'
      · cases hc'
        exact ⟨rfl, fun _ _ heq => by cases heq⟩
    rw [hstore]
    rcases SqlitePlanStore.saveChanged_of_read t now hr hread with hkept |
      ⟨hv, hp, hi, rfl, hwritten⟩
    · rw [hkept]
      refine h.of_syncs ?_ ?_
      · intro c' hc'
        rcases List.mem_append.mp hc' with hc' | hc'
        · exact .inl (List.mem_cons_of_mem _ hc')
        · obtain ⟨hnone, hnot⟩ := hnext c' (Option.mem_toList.mp hc')
          exact .inr ⟨hnone, fun plan status heq => absurd heq (hnot plan status)⟩
      · -- a live task would have been written into the closed row
        intro c' hc' n' hn' i _ hclosed hreopens
        rcases List.mem_cons.mp hc' with rfl | hc'
        · cases hreopens with
          | found _ _ _ hlive =>
            obtain ⟨hget, hs, -⟩ := SqlitePlanStore.mem_nodesOf.mp hn'
            rw [← hs] at hget
            exact absurd hkept (SqlitePlanStore.saveChanged_live hget hclosed hlive
              (hnow t plan _ rfl))
        · exact List.mem_append_left _ hc'
    · rw [hwritten]
      refine (h.putNode hr hv hp hi).of_syncs ?_ ?_
      · intro c' hc'
        rcases List.mem_append.mp hc' with hc' | hc'
        · exact .inl hc'
        · obtain ⟨hnone, hnot⟩ := hnext c' (Option.mem_toList.mp hc')
          exact .inr ⟨hnone, fun plan status heq => absurd heq (hnot plan status)⟩
      · exact fun c' hc' _ _ _ _ _ _ => List.mem_append_left _ hc'
  | written s' p' =>
    rw [LifecycleSync.advance]
    cases hplan : store.getPlan s' p' with
    | none => exact hover h rfl fun c' hc' => by cases hc'
    | some plan =>
      refine hover h rfl fun c' hc' => ?_
      cases hc'
      exact ⟨rfl, fun _ _ heq => by cases heq⟩
  | read plan =>
    rw [LifecycleSync.advance]
    by_cases hsame : planStatusFromNodes plan (store.nodesOf plan.sessionId plan.planId) =
      plan.status
    · simp only [hsame, if_true]
      exact hover h rfl fun c' hc' => by cases hc'
    · simp only [hsame, if_false]
      refine hover h rfl fun c' hc' => ?_
      cases hc'
      refine ⟨rfl, fun plan' status heq hkey => ?_⟩
      cases heq
      rw [show plan.sessionId = s from congrArg Prod.fst hkey,
        show plan.planId = p from congrArg Prod.snd hkey] at hsame ⊢
      exact h.fits_planStatusFromNodes hsame
  | decided plan status =>
    rw [LifecycleSync.advance]
    refine hover ?_ rfl fun c' hc' => by cases hc'
    rcases store.savePlan_cases { plan with status := status } plan.version now with
      ⟨e, he⟩ | ⟨current, hv, -, -, hok⟩
    · rw [he]
      exact h
    · rw [hok]
      exact h.putPlan hv fun hkey => h.decided_fits plan status List.mem_cons_self hkey

/-! ### Calls on the bus -/

variable {B : Type} [AnsweringBus B] {w : ArchiveWorld B}

theorem retry_notified {b : B} (hsh : ShadowedBus.Shadow m b) {call : BusCall} {i : String}
    {instruction : Option String} (hop : call.op = .transition s i (.retry instruction))
    (hok : (TaskBus.step b call).1.isOk = (TaskBus.step m call).1.isOk) (hclosed : m.Closed s i)
    (hopened : ¬(TaskBus.step m call).2.Closed s i) :
    ∃ u ∈ call.notified (TaskBus.step b call).1, u.key = (s, i) ∧ u.status.live = true := by
  have hanswer : (TaskBus.step m call).1.isOk = true := by
    rcases InMemoryTaskBus.changed_cases (ShadowedBus.keyed hsh) call (s, i) with
      hsame | ⟨t', -, hch⟩
    · obtain ⟨t, ht, hlive⟩ := hclosed
      exact absurd ⟨t, hsame.trans ht, hlive⟩ hopened
    · generalize (TaskBus.step m call).1 = reply at hch ⊢
      cases hch <;> rfl
  rw [hanswer] at hok
  obtain ⟨op, env⟩ := call
  obtain rfl : op = _ := hop
  cases hout : (TaskBus.transition b s i (.retry instruction) env).1 with
  | error e =>
    simp only [TaskBus.step, Prod.map, hout] at hok
    cases hok
  | ok u =>
    have hwritten : u ∈ BusCall.written ⟨.transition s i (.retry instruction), env⟩
        (TaskBus.step b ⟨.transition s i (.retry instruction), env⟩).1 := by
      simp only [TaskBus.step, Prod.map, hout]
      exact List.mem_singleton.mpr rfl
    have hkey := AnsweringBus.transition_key hsh hout
    refine ⟨u, hwritten, hkey, ?_⟩
    obtain ⟨v, hv, hstatus⟩ := AnsweringBus.answered hsh _ hwritten
    rw [show u.sessionId = s from congrArg Prod.fst hkey,
      show u.taskId = i from congrArg Prod.snd hkey] at hv
    by_contra hlive
    rw [Bool.not_eq_true] at hlive
    exact hopened ⟨v, hv, hstatus ▸ hlive⟩

/-- **A call on the bus.** -/
theorem Keeps.bus (hsh : ShadowedBus.Shadow m w.bus) (h : Keeps s p m w.store w.syncs w.archives)
    {call : BusCall} (hcautious : w.Cautious s p (.bus call)) :
    ∃ m', ShadowedBus.Shadow m' (TaskBus.step w.bus call).2 ∧
      Keeps s p m' w.store
        (w.syncs ++ (call.notified (TaskBus.step w.bus call).1).map .committed) w.archives := by
  rcases ShadowedBus.step_shadow hsh call with ⟨e, he⟩ | ⟨hnext, hok⟩
  · -- the bus has refused the call
    rw [he]
    have hnone : call.notified (.error e) = [] := by
      unfold BusCall.notified BusCall.written
      split <;> rfl
    rw [hnone, List.map_nil, List.append_nil]
    exact ⟨m, hsh, h⟩
  have hkeyed := ShadowedBus.keyed hsh
  have hwritten : ∀ {t}, t ∈ call.notified (TaskBus.step w.bus call).1 →
      (TaskBus.step m call).2.HasStatus t.sessionId t.taskId t.status := by
    intro t ht
    refine AnsweringBus.answered hsh call ?_
    unfold BusCall.notified at ht
    split at ht
    · cases ht
    · exact ht
  have hdone : ∀ {i}, m.HasStatus s i .done → (TaskBus.step m call).2.HasStatus s i .done :=
    fun hdone => hdone.done_step hkeyed call
  have hfits : ∀ {status}, Fits s p m w.store status →
    Fits s p (TaskBus.step m call).2 w.store status :=
    fun hstatus harchive => (hstatus harchive).imp_right fun hall =>
      ⟨hall.1, fun i hi => hdone (hall.2 i hi)⟩
  have hmem : ∀ c ∈ w.syncs ++ (call.notified (TaskBus.step w.bus call).1).map .committed,
      c ∈ w.syncs ∨ ∃ t ∈ call.notified (TaskBus.step w.bus call).1, c = .committed t := by
    intro c hc
    refine (List.mem_append.mp hc).imp_right fun hc => ?_
    obtain ⟨t, ht, rfl⟩ := List.mem_map.mp hc
    exact ⟨t, ht, rfl⟩
  refine ⟨_, hnext, fun i hi => InMemoryTaskBus.stays_step hkeyed call (h.present i hi), h.sole,
    ?_, ?_, fun n hn i href hexecution => hdone (h.row_done n hn i href hexecution), ?_,
    fun plan hplan => hfits (h.plan_fits plan hplan), ?_,
    fun a ha hkey => ⟨(h.archive_fits a ha hkey).1, hfits (h.archive_fits a ha hkey).2⟩⟩
  · intro t plan n hc
    rcases hmem _ hc with hc | ⟨u, -, heq⟩
    · exact h.found t plan n hc
    · cases heq
  · intro c hc t hsnapshot hs hi
    rcases hmem c hc with hold | ⟨u, hu, rfl⟩
    · obtain ⟨htoldDone, htoldClosed⟩ := h.told c hold t hsnapshot hs hi
      refine ⟨fun hstatus => hdone (htoldDone hstatus), fun hlive => ?_⟩
      rcases InMemoryTaskBus.closed_step hkeyed (htoldClosed hlive) call with hstill |
        ⟨instruction, hop⟩
      · exact hstill
      · -- a cautious retry finds no such callback
        obtain ⟨op, env⟩ := call
        obtain rfl : op = _ := hop
        have hlive' := hcautious (s, t.taskId) rfl rfl hi c hold t hsnapshot (Prod.ext hs rfl)
        rw [hlive] at hlive'
        cases hlive'
    · cases hsnapshot
      have hstatus := hwritten hu
      rw [hs] at hstatus
      refine ⟨fun heq => heq ▸ hstatus, fun hlive => ?_⟩
      obtain ⟨v, hv, heq⟩ := hstatus
      exact ⟨v, hv, heq ▸ hlive⟩
  · intro n hn i href hclosed
    rcases h.row_closed n hn i href hclosed with hstatus | ⟨c, hc, hreopens⟩
    · rcases InMemoryTaskBus.closed_step hkeyed hstatus call with hstill | ⟨instruction, hop⟩
      · exact .inl hstill
      · by_cases hopened : (TaskBus.step m call).2.Closed s i
        · exact .inl hopened
        · obtain ⟨u, hu, hkey, hlive⟩ := retry_notified hsh hop hok hstatus hopened
          exact .inr ⟨.committed u, List.mem_append_right _ (List.mem_map_of_mem hu),
            .committed u hkey hlive⟩
    · exact .inr ⟨c, List.mem_append_left _ hc, hreopens⟩
  · intro plan status hc hkey
    rcases hmem _ hc with hc | ⟨u, -, heq⟩
    · exact hfits (h.decided_fits plan status hc hkey)
    · cases heq

/-! ### Runs -/

theorem mem_eraseIdx_or {α : Type*} {l : List α} {k : ℕ} {a : α} (h : l[k]? = some a) (x : α) :
    x ∈ l ↔ x ∈ a :: l.eraseIdx k := by
  rw [List.mem_cons, List.mem_eraseIdx_iff_getElem?, List.mem_iff_getElem?]
  constructor
  · rintro ⟨j, hj⟩
    by_cases hjk : j = k
    · rw [hjk, h] at hj
      exact .inl (Option.some.inj hj).symm
    · exact .inr ⟨j, hjk, hj⟩
  · rintro (rfl | ⟨j, -, hj⟩)
    · exact ⟨k, h⟩
    · exact ⟨j, hj⟩

def Sound (s p : String) (w : ArchiveWorld B) : Prop :=
  ∃ m, ShadowedBus.Shadow m w.bus ∧ Keeps s p m w.store w.syncs w.archives

theorem archiveWrite_cases (store : SqlitePlanStore) (s' p' : String) (v : Option ℕ)
    (now : DateTime) :
    (∃ e, archiveWrite store s' p' v now = (.error e, store)) ∨
    ∃ plan h, plan.status = .archived ∧ plan.key = (s', p') ∧
      archiveWrite store s' p' v now = (.ok plan, store.putPlan plan h) := by
  unfold archiveWrite
  rcases store.archivePlan_cases s' p' v now with ⟨e, he⟩ | ⟨plan, h, hstatus, hkey, hok⟩
  · rw [he]
    exact .inl ⟨_, rfl⟩
  · rw [hok]
    exact .inr ⟨plan, h, hstatus, hkey, rfl⟩

/-- **A cautious step.** -/
theorem Sound.step (h : w.Sound s p) {l : ArchiveStep} (hcautious : w.Cautious s p l) :
    (w.step l).2.Sound s p := by
  obtain ⟨m, hsh, h⟩ := h
  cases l with
  | bus call => exact h.bus hsh hcautious
  | sync k now =>
    simp only [ArchiveWorld.step]
    cases hk : w.syncs[k]? with
    | none => exact ⟨m, hsh, h⟩
    | some c =>
      refine ⟨m, hsh, Keeps.advance ?_ ?_⟩
      · refine h.of_syncs (fun c' hc' => .inl ((mem_eraseIdx_or hk c').mpr hc')) ?_
        exact fun c' hc' _ _ _ _ _ _ => (mem_eraseIdx_or hk c').mp hc'
      · rintro t plan n rfl
        exact hcautious _ hk n rfl
  | lose k =>
    refine ⟨m, hsh, h.of_syncs (fun c hc => .inl (List.mem_of_mem_eraseIdx hc)) ?_⟩
    intro c hc n hn i href hclosed hreopens
    cases hk : w.syncs[k]? with
    | none =>
      show c ∈ w.syncs.eraseIdx k
      rw [List.eraseIdx_of_length_le (List.getElem?_eq_none_iff.mp hk)]
      exact hc
    | some c' =>
      rcases List.mem_cons.mp ((mem_eraseIdx_or hk c).mp hc) with rfl | hc
      · -- the lost callback would have reopened the node
        exfalso
        obtain ⟨t, hsnapshot, hs, rfl, hlive⟩ := hreopens.snapshot
        have hrow := hcautious _ hk t hsnapshot hs hlive n hn href
        rw [hclosed] at hrow
        cases hrow
      · exact hc
  | archive s' p' v =>
    simp only [ArchiveWorld.step]
    cases hcheck : archiveCheck w.store s' p' with
    | error e => exact ⟨m, hsh, h⟩
    | ok plan =>
      refine ⟨m, hsh, { h with archive_fits := ?_ }⟩
      intro a ha hkey
      rcases List.mem_append.mp ha with ha | ha
      · exact h.archive_fits a ha hkey
      · obtain rfl := List.mem_singleton.mp ha
        obtain ⟨hplan, hstatus⟩ := archiveCheck_ok hcheck
        obtain ⟨hs, hp⟩ := SqlitePlanStore.plan_key_of_get hplan
        rw [← hs, ← hp, show plan.sessionId = s from congrArg Prod.fst hkey,
          show plan.planId = p from congrArg Prod.snd hkey] at hplan
        exact ⟨hstatus, h.plan_fits plan hplan⟩
  | write k now =>
    simp only [ArchiveWorld.step]
    cases hk : w.archives[k]? with
    | none => exact ⟨m, hsh, h⟩
    | some call =>
      have h' : Keeps s p m w.store w.syncs (w.archives.eraseIdx k) :=
        { h with archive_fits := fun a ha => h.archive_fits a (List.mem_of_mem_eraseIdx ha) }
      rcases archiveWrite_cases w.store call.plan.sessionId call.plan.planId
        call.expectedVersion now with ⟨e, he⟩ | ⟨plan, hv, hstatus, -, hok⟩
      · simp only [he]
        exact ⟨m, hsh, h'⟩
      · simp only [hok]
        refine ⟨m, hsh, h'.putPlan hv fun _ harchive => ?_⟩
        rw [hstatus] at harchive
        simp [archiveablePlanStatuses] at harchive

/-- **An archive call that is accepted in a cautious step** leaves no live task behind. -/
theorem Sound.idle (h : w.Sound s p) {l : ArchiveStep} (hcautious : w.Cautious s p l) :
    w.Idle s p l := by
  obtain ⟨m, hsh, h⟩ := h
  intro plan hplan hkey
  cases l with
  | write k now =>
    simp only [ArchiveWorld.step] at hplan
    cases hk : w.archives[k]? with
    | none =>
      rw [hk] at hplan
      cases hplan
    | some call =>
      rw [hk] at hplan
      rcases archiveWrite_cases w.store call.plan.sessionId call.plan.planId
        call.expectedVersion now with ⟨e, he⟩ | ⟨archived, hv, -, hkey', hok⟩
      · simp only [he] at hplan
        cases hplan
      · simp only [hok] at hplan
        cases hplan
        rw [hkey] at hkey'
        have hread : call.plan.key = (s, p) := hkey'.symm
        obtain ⟨hstatus, hfits⟩ := h.archive_fits call (List.mem_of_getElem? hk) hread
        have hall : ∀ i, w.store.TaskOf s p i → m.Closed s i := by
          intro i hi
          rcases hfits hstatus with hfailed | ⟨-, hdone⟩
          · obtain ⟨hrows, hsyncs⟩ := hcautious call hk hread hfailed
            obtain ⟨n, hn, href⟩ := hi
            rcases h.row_closed n hn i href (hrows n hn) with hclosed | ⟨c, hc, hreopens⟩
            · exact hclosed
            · exfalso
              obtain ⟨t, hsnapshot, hs, rfl, hlive⟩ := hreopens.snapshot
              have hnot := hsyncs c hc t hsnapshot hs ⟨n, hn, href⟩
              rw [hlive] at hnot
              cases hnot
          · obtain ⟨t, ht, hstatus⟩ := hdone i hi
            exact ⟨t, ht, by rw [hstatus]; rfl⟩
        rintro ⟨i, t, hi, hget, hlive⟩
        obtain ⟨u, hu, hclosed⟩ := hall i hi
        obtain ⟨v, hv', -, rfl⟩ := (get_eq_some hsh).mp hget
        obtain rfl : u = v := Option.some.inj (hu.symm.trans hv')
        rw [show (u.mapConstraints _).status = u.status from rfl, hclosed] at hlive
        cases hlive
  | bus call => cases hplan
  | sync k now =>
    simp only [ArchiveWorld.step] at hplan
    split at hplan <;> cases hplan
  | lose k => cases hplan
  | archive s' p' v =>
    simp only [ArchiveWorld.step] at hplan
    split at hplan <;> cases hplan

/-- A plan that is published: its nodes and its tasks are pending, nobody else refers to its
tasks, and nothing is under way. -/
structure Start (s p : String) (w : ArchiveWorld B) : Prop where
  shadow : ∃ m, ShadowedBus.Shadow m w.bus
  plan : ∃ plan, w.store.getPlan s p = some plan ∧ plan.status = .published
  pending : ∀ n ∈ w.store.nodesOf s p, n.execution = .pending
  tasks : ∀ i, w.store.TaskOf s p i →
    ∃ t, TaskBus.get w.bus s i = .ok (some t) ∧ t.status = .pending
  sole : ∀ i n r id, n ∈ w.store.nodesOf s p → n.publishedRef = some (.published i) →
    w.store.getTaskNode s id = some r → r.publishedRef = n.publishedRef → r = n
  syncs : w.syncs = []
  archives : w.archives = []

theorem Start.sound (h : w.Start s p) : w.Sound s p := by
  obtain ⟨m, hsh⟩ := h.shadow
  refine ⟨m, hsh, ?_⟩
  rw [h.syncs, h.archives]
  refine ⟨fun i hi => ?_, h.sole, ?_, ?_, ?_, ?_, ?_, ?_, ?_⟩
  · obtain ⟨t, ht, -⟩ := h.tasks i hi
    obtain ⟨u, hu, -⟩ := (get_eq_some hsh).mp ht
    rw [hu]
    rfl
  · intro t plan n hc
    cases hc
  · intro c hc
    cases hc
  · intro n hn i _ hdone
    rw [h.pending n hn] at hdone
    cases hdone
  · intro n hn i _ hclosed
    rw [h.pending n hn] at hclosed
    cases hclosed
  · intro plan hplan harchive
    obtain ⟨plan', hplan', hstatus⟩ := h.plan
    obtain rfl := Option.some.inj (hplan.symm.trans hplan')
    rw [hstatus] at harchive
    simp [archiveablePlanStatuses] at harchive
  · intro plan status hc
    cases hc
  · intro a ha
    cases ha

/-- **No accepted archive call leaves a live task behind**, in a run of cautious steps from a
published plan. -/
theorem archived_plan_idle (h : w.Start s p) (ls : List ArchiveStep)
    (hcautious : Throughout ArchiveWorld.step (Cautious s p) w ls) :
    Throughout ArchiveWorld.step (Idle s p) w ls :=
  Throughout.of_invariant (fun _ _ hsound hl => Sound.idle hsound hl)
    (fun _ _ hsound hl => Sound.step hsound hl) ls w h.sound hcautious

/-! ### A plan with two tasks -/

def sampleNode (taskNodeId taskIndex taskId : String) : PlanTaskNode :=
  { PlanTaskNode.sample taskNodeId taskIndex with
    readiness := .published, execution := .pending, publishedRef := some (.published taskId) }

/-- The nodes `a` and `b`, published as the tasks `ta` and `tb`. -/
def sample : ArchiveWorld InMemoryTaskBus where
  bus := TaskBus.run InMemoryTaskBus.empty
    [⟨.publish (TaskDomain.sample "s" "ta") (by decide), .sample⟩,
      ⟨.publish (TaskDomain.sample "s" "tb") (by decide), .sample⟩]
  store := (SqlitePlanStore.empty.createPlan { Plan.sample with status := .published } (by decide)
    [sampleNode "a" "1" "ta", sampleNode "b" "2" "tb"]).2

/-- A task is skipped, and its callback runs through. -/
def skipped (taskId : String) : List ArchiveStep :=
  .bus ⟨.transition "s" taskId (.skip "not needed"), .sample⟩ :: List.replicate 5 (.sync 0 .noon)

def archived : List ArchiveStep := [.archive "s" "p" none, .write 0 .noon]

theorem start_sample : sample.Start "s" "p" := by
  have hnodes :
      sample.store.nodesOf "s" "p" = [sampleNode "a" "1" "ta", sampleNode "b" "2" "tb"] := by
    decide +kernel
  have hrows : sample.store.nodes.values = [sampleNode "a" "1" "ta", sampleNode "b" "2" "tb"] := by
    decide +kernel
  refine ⟨⟨sample.bus, rfl, ?_⟩,
    ⟨{ Plan.sample with status := .published }, by decide +kernel, rfl⟩,
    ?_, ?_, ?_, rfl, rfl⟩
  · exact InMemoryTaskBus.keyed_run InMemoryTaskBus.keyed_empty _
  · rw [hnodes]
    decide
  · rintro i ⟨n, hn, href⟩
    rw [hnodes] at hn
    rcases List.mem_cons.mp hn with rfl | hn
    · cases href
      exact ⟨TaskDomain.sample "s" "ta", by decide +kernel, rfl⟩
    · obtain rfl := List.mem_singleton.mp hn
      cases href
      exact ⟨TaskDomain.sample "s" "tb", by decide +kernel, rfl⟩
  · intro i n r id hn href hr heq
    have hmem : r ∈ sample.store.nodes.values := Dict.mem_values.mpr ⟨_, hr⟩
    rw [hnodes] at hn
    rw [hrows] at hmem
    simp only [List.mem_cons, List.not_mem_nil, or_false] at hn hmem
    rcases hn with rfl | rfl <;> rcases hmem with rfl | rfl <;> first | rfl |
      (exfalso; revert heq; decide)

/-- Both tasks are skipped before the plan is archived. -/
theorem archived_plan_idle_skipped :
    Throughout ArchiveWorld.step (Idle "s" "p") sample (skipped "ta" ++ skipped "tb" ++ archived) :=
  archived_plan_idle start_sample _ (by decide +kernel)

/-- One of the two tasks has failed, so the plan is archived while the other one is pending. -/
theorem live_task_archived : sample.Start "s" "p" ∧
    ¬Throughout ArchiveWorld.step (Idle "s" "p") sample (skipped "ta" ++ archived) := by
  refine ⟨start_sample, fun h => ?_⟩
  have hlast := Throughout.last (skipped "ta" ++ [.archive "s" "p" none]) sample h
  have hout : ((final ArchiveWorld.step sample (skipped "ta" ++ [.archive "s" "p" none])).step
      (.write 0 .noon)).1.map Plan.key = some ("s", "p") := by decide +kernel
  obtain ⟨plan, hplan, hkey⟩ := Option.map_eq_some_iff.mp hout
  exact hlast plan hplan hkey
    ⟨"tb", TaskDomain.sample "s" "tb", by decide +kernel, by decide +kernel, rfl⟩

end ArchiveWorld

end Taskweavn
