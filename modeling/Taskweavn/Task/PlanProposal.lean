import Mathlib.Data.List.Induction
import Taskweavn.Lib.CycleCheck
import Taskweavn.Task.Models

/-!
# The dependencies of a proposed plan

A `PlanProposal` is a flat list of tasks (`taskweavn/task/authoring.py`).  A task is referred to
by its `client_task_id` or by its `task_index`, written in decimal, and names in `depends_on` the
tasks it waits for.  The constructor builds one dictionary from both kinds of reference, in which
a later task takes a reference over from an earlier one, and searches the edges for a cycle.

* `get?_refToIndex`: a reference means the last task that has it.
* `validatePlanDependencies_iff`: what the constructor checks of `depends_on`.
* `dependencies_exact_iff`: the check is exact, except where one reference belongs to two tasks.
-/

namespace Taskweavn

open Lib Py Relation

structure PlanTaskNodeProposal where
  clientTaskId : Option String := none
  taskIndex : Option ℕ := none
  dependsOn : List String := []
  fields_ok : (optText.accepts clientTaskId && taskIndex.all (1 ≤ ·)) = true

inductive PlanProposalError
  /-- a `ValidationError` of `tasks` -/
  | noTasks
  /-- PlanProposal task_index values must be unique -/
  | duplicateIndex
  /-- PlanProposal client_task_id values must be unique -/
  | duplicateClientId
  /-- PlanProposal depends_on references unknown task … -/
  | unknownTask (dependencyRef : String)
  /-- PlanProposal task must not depend on itself: … -/
  | selfDependency (dependencyRef : String)
  /-- PlanProposal depends_on must not contain cycles -/
  | cycle
  /-- a search that comes to no end -/
  | endless
deriving DecidableEq

def PlanTaskNodeProposal.refs (task : PlanTaskNodeProposal) : List String :=
  task.clientTaskId.toList ++ (task.taskIndex.map toString).toList

/-- `ref_to_index`, filled in the order of the tasks. -/
def refToIndex (tasks : List PlanTaskNodeProposal) : Dict String ℕ :=
  Dict.ofList (tasks.zipIdx.flatMap fun (task, index) => task.refs.map fun ref => (ref, index))

/-- `edges[index]` of a task, after the checks of its references. -/
def dependencyIndexes (refToIndex : Dict String ℕ) (task : PlanTaskNodeProposal) :
    Except PlanProposalError (List ℕ) :=
  task.dependsOn.mapM fun dependencyRef =>
    match refToIndex.get? dependencyRef with
    | none => .error (.unknownTask dependencyRef)
    | some dependencyIndex =>
      if dependencyRef ∈ task.refs then .error (.selfDependency dependencyRef)
      else .ok dependencyIndex

def rejectPlanDependencyCycles (edges : List (List ℕ)) : Except PlanProposalError Unit :=
  match findCycle (fun index => (edges[index]?).getD []) (List.range edges.length) with
  | .ok _ => .ok ()
  | .error .cycle => .error .cycle
  | .error .bound => .error .endless

def validatePlanDependencies (tasks : List PlanTaskNodeProposal) :
    Except PlanProposalError Unit := do
  let edges ← tasks.mapM (dependencyIndexes (refToIndex tasks))
  rejectPlanDependencyCycles edges

/-- What the constructor of a `PlanProposal` checks of its tasks: there is one, and
`_validate_task_identity`. -/
def validateTaskIdentity (tasks : List PlanTaskNodeProposal) : Except PlanProposalError Unit :=
  if tasks = [] then .error .noTasks
  else if ¬(tasks.filterMap PlanTaskNodeProposal.taskIndex).Nodup then .error .duplicateIndex
  else if ¬(tasks.filterMap PlanTaskNodeProposal.clientTaskId).Nodup then
    .error .duplicateClientId
  else validatePlanDependencies tasks

/-! ### What references mean -/

def RefersTo (tasks : List PlanTaskNodeProposal) (ref : String) (index : ℕ) : Prop :=
  ∃ task, tasks[index]? = some task ∧
    (task.clientTaskId = some ref ∨ task.taskIndex.map toString = some ref)

def WaitsOn (tasks : List PlanTaskNodeProposal) (index : ℕ) (ref : String) : Prop :=
  ∃ task, tasks[index]? = some task ∧ ref ∈ task.dependsOn

/-- The induced graph: a task waits for each task that one of its references belongs to. -/
def DependsOn (tasks : List PlanTaskNodeProposal) (i j : ℕ) : Prop :=
  ∃ ref, WaitsOn tasks i ref ∧ RefersTo tasks ref j

/-- A reference belongs to two tasks. -/
def Ambiguous (tasks : List PlanTaskNodeProposal) : Prop :=
  ∃ i ref j k, WaitsOn tasks i ref ∧ RefersTo tasks ref j ∧ RefersTo tasks ref k ∧ j ≠ k

def RefersLastTo (tasks : List PlanTaskNodeProposal) (ref : String) (index : ℕ) : Prop :=
  RefersTo tasks ref index ∧ ∀ k, RefersTo tasks ref k → k ≤ index

/-- The graph in which a reference means the last task that it belongs to. -/
def DependsOnLast (tasks : List PlanTaskNodeProposal) (i j : ℕ) : Prop :=
  ∃ ref, WaitsOn tasks i ref ∧ RefersLastTo tasks ref j

/-- A plan has tasks, and no two of them have one id or one index. -/
structure Identified (tasks : List PlanTaskNodeProposal) : Prop where
  nonempty : tasks ≠ []
  indexes : (tasks.filterMap PlanTaskNodeProposal.taskIndex).Nodup
  clientIds : (tasks.filterMap PlanTaskNodeProposal.clientTaskId).Nodup

/-- Every reference belongs to one task, and no task waits for itself in the end. -/
structure DependenciesOk (tasks : List PlanTaskNodeProposal) : Prop where
  names_one : ∀ i ref, WaitsOn tasks i ref → ∃! j, RefersTo tasks ref j
  acyclic : Acyclic (DependsOn tasks)

/-- The constructor accepts what it should, and the search ends. -/
def DependenciesExact (tasks : List PlanTaskNodeProposal) : Prop :=
  (validateTaskIdentity tasks = .ok () ↔ Identified tasks ∧ DependenciesOk tasks) ∧
    validateTaskIdentity tasks ≠ .error .endless

/-- The tasks are refused, whatever else is ambiguous about them. -/
inductive RefusedAnyway (tasks : List PlanTaskNodeProposal) : Prop
  | identity (h : ¬Identified tasks)
  | unknown (i : ℕ) (ref : String) (waits : WaitsOn tasks i ref)
      (nobody : ∀ j, ¬RefersTo tasks ref j)
  | itself (i : ℕ) (ref : String) (waits : WaitsOn tasks i ref) (own : RefersTo tasks ref i)
  | cycle (h : ¬Acyclic (DependsOnLast tasks))

section

variable {tasks : List PlanTaskNodeProposal} {ref : String} {i j : ℕ}

theorem mem_refs {task : PlanTaskNodeProposal} :
    ref ∈ task.refs ↔ task.clientTaskId = some ref ∨ task.taskIndex.map toString = some ref := by
  rw [PlanTaskNodeProposal.refs, List.mem_append, Option.mem_toList, Option.mem_toList]

theorem get?_ofList_ascending {l : List (String × ℕ)} (h : l.Pairwise (fun e e' => e.2 ≤ e'.2))
    {v : ℕ} : (Dict.ofList l).get? ref = some v ↔ (ref, v) ∈ l ∧ ∀ w, (ref, w) ∈ l → w ≤ v := by
  induction l using List.reverseRecOn generalizing v with
  | nil =>
    constructor
    · intro hget
      cases hget
    · intro hmem
      exact absurd hmem.1 List.not_mem_nil
  | append_singleton l e ih =>
    obtain ⟨hl, -, hbelow⟩ := List.pairwise_append.mp h
    rw [Dict.get?_ofList_append]
    by_cases hkey : e.1 = ref
    · have hget : (Dict.ofList [e]).get? ref = some e.2 := by
        rw [← hkey]
        exact Dict.get?_set_self _ _ _
      have hmax : ∀ w, (ref, w) ∈ l ++ [e] → w ≤ e.2 := by
        intro w hw
        rcases List.mem_append.mp hw with hw | hw
        · exact hbelow _ hw e (List.mem_singleton.mpr rfl)
        · exact (congrArg Prod.snd (List.mem_singleton.mp hw)).le
      have hmem : (ref, e.2) ∈ l ++ [e] := by
        rw [← hkey]
        exact List.mem_append_right _ (List.mem_singleton.mpr rfl)
      rw [hget, Option.some_or, Option.some.injEq]
      constructor
      · rintro rfl
        exact ⟨hmem, hmax⟩
      · rintro ⟨hv, hle⟩
        exact le_antisymm (hle _ hmem) (hmax _ hv)
    · have hget : (Dict.ofList [e]).get? ref = none := Dict.get?_set_ne _ _ hkey
      have hmem : ∀ w, (ref, w) ∈ l ++ [e] ↔ (ref, w) ∈ l := by
        intro w
        rw [List.mem_append, List.mem_singleton]
        refine or_iff_left fun heq => hkey ?_
        rw [← heq]
      rw [hget, Option.none_or, ih hl]
      simp only [hmem]

theorem mem_entries_refToIndex :
    (ref, j) ∈ (tasks.zipIdx.flatMap fun (task, index) => task.refs.map fun ref => (ref, index)) ↔
      RefersTo tasks ref j := by
  rw [List.mem_flatMap]
  constructor
  · rintro ⟨⟨task, index⟩, hmem, hentry⟩
    obtain ⟨ref', href, heq⟩ := List.mem_map.mp hentry
    cases heq
    exact ⟨task, List.mem_zipIdx_iff_getElem?.mp hmem, mem_refs.mp href⟩
  · rintro ⟨task, hget, href⟩
    exact ⟨(task, j), List.mem_zipIdx_iff_getElem?.mpr hget,
      List.mem_map.mpr ⟨ref, mem_refs.mpr href, rfl⟩⟩

/-- **A reference means the last task that it belongs to.** -/
theorem get?_refToIndex : (refToIndex tasks).get? ref = some j ↔ RefersLastTo tasks ref j := by
  have hsorted : (tasks.zipIdx.flatMap fun (task, index) =>
      task.refs.map fun ref => (ref, index)).Pairwise (fun e e' => e.2 ≤ e'.2) := by
    rw [List.pairwise_flatMap]
    refine ⟨fun x _ => ?_, ?_⟩
    · rw [List.pairwise_map]
      exact List.pairwise_of_forall fun _ _ => le_refl _
    · have hindexes : (tasks.zipIdx.map Prod.snd).Pairwise (· < ·) := by
        rw [List.zipIdx_map_snd]
        exact List.pairwise_lt_range'
      refine (List.pairwise_map.mp hindexes).imp fun hlt e he e' he' => ?_
      obtain ⟨_, -, rfl⟩ := List.mem_map.mp he
      obtain ⟨_, -, rfl⟩ := List.mem_map.mp he'
      exact hlt.le
  rw [refToIndex, get?_ofList_ascending hsorted, mem_entries_refToIndex]
  simp only [mem_entries_refToIndex]
  rfl

theorem get?_refToIndex_eq_none :
    (refToIndex tasks).get? ref = none ↔ ∀ j, ¬RefersTo tasks ref j := by
  constructor
  · intro hnone j hrefers
    have hmem := mem_entries_refToIndex.mpr hrefers
    rcases Dict.get?_update_cases (k := ref)
      (l := tasks.zipIdx.flatMap fun (task, index) => task.refs.map fun ref => (ref, index))
      Dict.empty with ⟨hno, -⟩ | ⟨w, -, hget⟩
    · exact hno j hmem
    · have hsome : (refToIndex tasks).get? ref = some w := hget
      rw [hnone] at hsome
      cases hsome
  · intro hno
    cases hget : (refToIndex tasks).get? ref with
    | none => rfl
    | some j => exact absurd (get?_refToIndex.mp hget).1 (hno j)

/-! ### What the constructor checks -/

theorem refersTo_lt (h : RefersTo tasks ref j) : j < tasks.length := by
  obtain ⟨task, hget, -⟩ := h
  exact (List.getElem?_eq_some_iff.mp hget).1

theorem dependencyIndex_iff {task : PlanTaskNodeProposal} :
    (match (refToIndex tasks).get? ref with
      | none => .error (.unknownTask ref)
      | some dependencyIndex =>
        if ref ∈ task.refs then .error (.selfDependency ref) else .ok dependencyIndex :
      Except PlanProposalError ℕ) = .ok j ↔ RefersLastTo tasks ref j ∧ ref ∉ task.refs := by
  cases hget : (refToIndex tasks).get? ref with
  | none =>
    constructor
    · intro h
      cases h
    · intro h
      exact absurd h.1.1 (get?_refToIndex_eq_none.mp hget j)
  | some k =>
    show (if ref ∈ task.refs then Except.error _ else Except.ok k) = _ ↔ _
    rw [← get?_refToIndex, hget, Option.some.injEq]
    by_cases hown : ref ∈ task.refs
    · rw [if_pos hown]
      exact ⟨fun h => (nomatch h), fun h => absurd hown h.2⟩
    · rw [if_neg hown, Except.ok.injEq]
      exact (and_iff_left hown).symm

theorem dependencyIndexes_eq_ok_iff {task : PlanTaskNodeProposal} {indexes : List ℕ} :
    dependencyIndexes (refToIndex tasks) task = .ok indexes ↔
      List.Forall₂ (fun ref j => RefersLastTo tasks ref j ∧ ref ∉ task.refs)
        task.dependsOn indexes := by
  rw [dependencyIndexes, mapM_eq_ok_iff]
  simp only [dependencyIndex_iff]

variable {edges : List (List ℕ)}

theorem edge_iff (h : tasks.mapM (dependencyIndexes (refToIndex tasks)) = .ok edges) :
    Edge (fun index => (edges[index]?).getD []) i j ↔ DependsOnLast tasks i j := by
  obtain ⟨hlength, hget⟩ := List.forall₂_iff_get.mp (mapM_eq_ok_iff.mp h)
  have hall : ∀ (hi : i < tasks.length), List.Forall₂
      (fun ref j => RefersLastTo tasks ref j ∧ ref ∉ tasks[i].refs) tasks[i].dependsOn
        (edges.get ⟨i, hlength ▸ hi⟩) := fun hi => dependencyIndexes_eq_ok_iff.mp (hget i hi _)
  constructor
  · intro hedge
    have hi : i < edges.length := by
      by_contra hge
      rw [Edge, List.getElem?_eq_none (not_lt.mp hge)] at hedge
      cases hedge
    rw [Edge, List.getElem?_eq_getElem hi] at hedge
    have hi' : i < tasks.length := hlength ▸ hi
    obtain ⟨ref, href, hlast, -⟩ := exists_of_mem_forall₂ (hall hi') hedge
    exact ⟨ref, ⟨tasks[i], List.getElem?_eq_getElem hi', href⟩, hlast⟩
  · rintro ⟨ref, ⟨task, htask, href⟩, hlast⟩
    obtain ⟨hi, rfl⟩ := List.getElem?_eq_some_iff.mp htask
    obtain ⟨k, hk, hlast', -⟩ := exists_of_mem_forall₂ (hall hi).flip href
    have hjk : j = k := le_antisymm (hlast'.2 j hlast.1) (hlast.2 k hlast'.1)
    rw [Edge, List.getElem?_eq_getElem (hlength ▸ hi), hjk]
    exact hk

theorem dependsOnLast_lt (h : DependsOnLast tasks i j) : i < tasks.length ∧ j < tasks.length := by
  obtain ⟨ref, ⟨task, htask, -⟩, hlast⟩ := h
  exact ⟨(List.getElem?_eq_some_iff.mp htask).1, refersTo_lt hlast.1⟩

/-- **The search for a cycle ends** on every graph. -/
theorem rejectPlanDependencyCycles_ne_endless
    (hclosed : ∀ i : ℕ, ∀ j ∈ (edges[i]?).getD [], j < edges.length) :
    rejectPlanDependencyCycles edges ≠ .error .endless := by
  have hbound := findCycle_ne_bound (fun index => (edges[index]?).getD [])
    (List.range edges.length)
    (fun i _ j hj => List.mem_range.mpr (hclosed i j hj))
  intro h
  rw [rejectPlanDependencyCycles] at h
  split at h
  · cases h
  · cases h
  · exact hbound (by assumption)

/-- **The search is exact** on the edges of a plan. -/
theorem rejectPlanDependencyCycles_iff
    (h : tasks.mapM (dependencyIndexes (refToIndex tasks)) = .ok edges) :
    rejectPlanDependencyCycles edges = .ok () ↔ Acyclic (DependsOnLast tasks) := by
  have hlength : tasks.length = edges.length := (mapM_eq_ok_iff.mp h).length_eq
  have hsame : Edge (fun index => (edges[index]?).getD []) = DependsOnLast tasks := by
    funext i j
    exact propext (edge_iff h)
  have hinside : ∀ i j, Edge (fun index => (edges[index]?).getD []) i j →
      i < edges.length ∧ j < edges.length := by
    intro i j hedge
    rw [← hlength]
    exact dependsOnLast_lt ((edge_iff h).mp hedge)
  rw [← hsame, ← findCycle_isOk_iff _ (List.range edges.length)
    (fun i _ j hj => List.mem_range.mpr (hinside i j hj).2)
    (fun i j hedge => List.mem_range.mpr (hinside i j hedge).1), rejectPlanDependencyCycles]
  cases findCycle (fun index => (edges[index]?).getD []) (List.range edges.length) with
  | ok visited => exact ⟨fun _ => ⟨visited, rfl⟩, fun _ => rfl⟩
  | error stop =>
    constructor
    · intro hok
      cases stop <;> cases hok
    · rintro ⟨_, hok⟩
      cases hok

/-- Every reference belongs to a task, and not to the one that waits for it. -/
structure ReferencesOk (tasks : List PlanTaskNodeProposal) : Prop where
  known : ∀ i ref, WaitsOn tasks i ref → ∃ j, RefersTo tasks ref j
  other : ∀ i ref, WaitsOn tasks i ref → ¬RefersTo tasks ref i

theorem exists_refersLastTo (h : RefersTo tasks ref j) : ∃ k, RefersLastTo tasks ref k := by
  cases hget : (refToIndex tasks).get? ref with
  | none => exact absurd h (get?_refToIndex_eq_none.mp hget j)
  | some k => exact ⟨k, get?_refToIndex.mp hget⟩

theorem mem_refs_iff {task : PlanTaskNodeProposal} (htask : tasks[i]? = some task) :
    ref ∈ task.refs ↔ RefersTo tasks ref i := by
  rw [mem_refs]
  constructor
  · intro h
    exact ⟨task, htask, h⟩
  · rintro ⟨task', htask', h⟩
    rw [htask] at htask'
    cases htask'
    exact h

theorem referencesOk_iff :
    (∃ edges, tasks.mapM (dependencyIndexes (refToIndex tasks)) = .ok edges) ↔
      ReferencesOk tasks := by
  constructor
  · rintro ⟨edges, h⟩
    have hall : ∀ i ref, WaitsOn tasks i ref →
        ∃ j, RefersLastTo tasks ref j ∧ ¬RefersTo tasks ref i := by
      rintro i ref ⟨task, htask, href⟩
      obtain ⟨indexes, -, hindexes⟩ := exists_of_mem_forall₂ (mapM_eq_ok_iff.mp h).flip
        (List.mem_of_getElem? htask)
      obtain ⟨j, -, hlast, hother⟩ := exists_of_mem_forall₂
        (dependencyIndexes_eq_ok_iff.mp hindexes).flip href
      exact ⟨j, hlast, fun hown => hother ((mem_refs_iff htask).mpr hown)⟩
    constructor
    · intro i ref hwaits
      obtain ⟨j, hlast, -⟩ := hall i ref hwaits
      exact ⟨j, hlast.1⟩
    · intro i ref hwaits
      obtain ⟨_, -, hother⟩ := hall i ref hwaits
      exact hother
  · intro h
    have hevery : ∀ task ∈ tasks, ∃ indexes,
        dependencyIndexes (refToIndex tasks) task = .ok indexes ∧ True := by
      intro task hmem
      obtain ⟨i, htask⟩ := List.mem_iff_getElem?.mp hmem
      have hone : ∀ ref ∈ task.dependsOn, ∃ j, (match (refToIndex tasks).get? ref with
          | none => .error (.unknownTask ref)
          | some dependencyIndex =>
            if ref ∈ task.refs then .error (.selfDependency ref) else .ok dependencyIndex :
          Except PlanProposalError ℕ) = .ok j ∧ True := by
        intro ref href
        obtain ⟨j, hrefers⟩ := h.known i ref ⟨task, htask, href⟩
        obtain ⟨k, hlast⟩ := exists_refersLastTo hrefers
        refine ⟨k, dependencyIndex_iff.mpr ⟨hlast, fun hown => ?_⟩, trivial⟩
        exact h.other i ref ⟨task, htask, href⟩ ((mem_refs_iff htask).mp hown)
      obtain ⟨indexes, hindexes, -⟩ := exists_mapM hone
      exact ⟨indexes, hindexes, trivial⟩
    obtain ⟨edges, hedges, -⟩ := exists_mapM hevery
    exact ⟨edges, hedges⟩

/-- **What the constructor checks of `depends_on`.** -/
theorem validatePlanDependencies_iff : validatePlanDependencies tasks = .ok () ↔
    ReferencesOk tasks ∧ Acyclic (DependsOnLast tasks) := by
  rw [validatePlanDependencies, bind_eq_ok, ← referencesOk_iff]
  constructor
  · rintro ⟨edges, hedges, hcycles⟩
    exact ⟨⟨edges, hedges⟩, (rejectPlanDependencyCycles_iff hedges).mp hcycles⟩
  · rintro ⟨⟨edges, hedges⟩, hacyclic⟩
    exact ⟨edges, hedges, (rejectPlanDependencyCycles_iff hedges).mpr hacyclic⟩

theorem validatePlanDependencies_ne_endless :
    validatePlanDependencies tasks ≠ .error .endless := by
  rw [validatePlanDependencies]
  intro h
  cases hedges : tasks.mapM (dependencyIndexes (refToIndex tasks)) with
  | error e =>
    rw [hedges] at h
    cases h
    obtain ⟨task, -, htask⟩ := exists_of_mapM_error hedges
    obtain ⟨ref, -, href⟩ := exists_of_mapM_error htask
    split at href
    · cases href
    · split at href <;> cases href
  | ok edges =>
    rw [hedges] at h
    refine rejectPlanDependencyCycles_ne_endless (fun i j hj => ?_) h
    rw [← (mapM_eq_ok_iff.mp hedges).length_eq]
    exact (dependsOnLast_lt ((edge_iff hedges).mp hj)).2

theorem validateTaskIdentity_iff : validateTaskIdentity tasks = .ok () ↔
    Identified tasks ∧ ReferencesOk tasks ∧ Acyclic (DependsOnLast tasks) := by
  rw [validateTaskIdentity]
  by_cases hempty : tasks = []
  · rw [if_pos hempty]
    exact ⟨fun h => (nomatch h), fun h => absurd hempty h.1.nonempty⟩
  rw [if_neg hempty]
  by_cases hindexes : (tasks.filterMap PlanTaskNodeProposal.taskIndex).Nodup
  case neg =>
    rw [if_pos hindexes]
    exact ⟨fun h => (nomatch h), fun h => absurd h.1.indexes hindexes⟩
  rw [if_neg (not_not.mpr hindexes)]
  by_cases hids : (tasks.filterMap PlanTaskNodeProposal.clientTaskId).Nodup
  case neg =>
    rw [if_pos hids]
    exact ⟨fun h => (nomatch h), fun h => absurd h.1.clientIds hids⟩
  rw [if_neg (not_not.mpr hids), validatePlanDependencies_iff]
  exact (and_iff_right ⟨hempty, hindexes, hids⟩).symm

theorem validateTaskIdentity_ne_endless : validateTaskIdentity tasks ≠ .error .endless := by
  rw [validateTaskIdentity]
  split
  · exact fun h => nomatch h
  split
  · exact fun h => nomatch h
  split
  · exact fun h => nomatch h
  exact validatePlanDependencies_ne_endless

/-! ### Where the check is exact -/

theorem dependsOnLast_eq (h : ¬Ambiguous tasks) : DependsOnLast tasks = DependsOn tasks := by
  funext i j
  refine propext ⟨?_, ?_⟩
  · rintro ⟨ref, hwaits, hlast⟩
    exact ⟨ref, hwaits, hlast.1⟩
  · rintro ⟨ref, hwaits, hrefers⟩
    obtain ⟨k, hlast⟩ := exists_refersLastTo hrefers
    by_cases hjk : j = k
    · rw [hjk]
      exact ⟨ref, hwaits, hlast⟩
    · exact absurd ⟨i, ref, j, k, hwaits, hrefers, hlast.1, hjk⟩ h

theorem not_ambiguous (h : DependenciesOk tasks) : ¬Ambiguous tasks := by
  rintro ⟨i, ref, j, k, hwaits, hj, hk, hne⟩
  exact hne ((h.names_one i ref hwaits).unique hj hk)

theorem dependenciesOk_iff (h : ¬Ambiguous tasks) :
    DependenciesOk tasks ↔ ReferencesOk tasks ∧ Acyclic (DependsOnLast tasks) := by
  rw [dependsOnLast_eq h]
  constructor
  · intro hok
    refine ⟨⟨fun i ref hwaits => (hok.names_one i ref hwaits).exists, ?_⟩, hok.acyclic⟩
    intro i ref hwaits hown
    exact hok.acyclic i (TransGen.single ⟨ref, hwaits, hown⟩)
  · rintro ⟨hrefs, hacyclic⟩
    refine ⟨fun i ref hwaits => ?_, hacyclic⟩
    obtain ⟨j, hj⟩ := hrefs.known i ref hwaits
    refine ⟨j, hj, fun k hk => ?_⟩
    by_contra hne
    exact h ⟨i, ref, k, j, hwaits, hk, hj, hne⟩

theorem refusedAnyway_iff :
    RefusedAnyway tasks ↔ ¬(Identified tasks ∧ ReferencesOk tasks ∧ Acyclic
    (DependsOnLast tasks)) := by
  constructor
  · rintro (h | ⟨i, ref, waits, nobody⟩ | ⟨i, ref, waits, own⟩ | h) ⟨hid, hrefs, hacyclic⟩
    · exact h hid
    · obtain ⟨j, hj⟩ := hrefs.known i ref waits
      exact nobody j hj
    · exact hrefs.other i ref waits own
    · exact h hacyclic
  · intro h
    by_contra hno
    refine h ⟨?_, ⟨fun i ref waits => ?_, fun i ref waits own => ?_⟩, ?_⟩
    · exact not_not.mp fun hid => hno (.identity hid)
    · by_contra hnobody
      exact hno (.unknown i ref waits fun j hj => hnobody ⟨j, hj⟩)
    · exact hno (.itself i ref waits own)
    · exact not_not.mp fun hcycle => hno (.cycle hcycle)

end

/-- **The check of the dependencies** accepts a proposal exactly when every reference belongs to
one task and no task waits for itself, where no reference belongs to two tasks, and nowhere else
unless the proposal is refused anyway; and the search for a cycle ends on every graph. -/
theorem dependencies_exact_iff (tasks : List PlanTaskNodeProposal) :
    (DependenciesExact tasks ↔ (Ambiguous tasks → RefusedAnyway tasks)) ∧
      ∀ edges : List (List ℕ), (∀ i : ℕ, ∀ j ∈ (edges[i]?).getD [], j < edges.length) →
        rejectPlanDependencyCycles edges ≠ .error .endless := by
  refine ⟨?_, fun edges hclosed => rejectPlanDependencyCycles_ne_endless hclosed⟩
  rw [DependenciesExact, validateTaskIdentity_iff, refusedAnyway_iff]
  constructor
  · rintro ⟨hexact, -⟩ hambiguous haccepted
    exact not_ambiguous (hexact.mp haccepted).2 hambiguous
  · intro h
    refine ⟨?_, validateTaskIdentity_ne_endless⟩
    by_cases hambiguous : Ambiguous tasks
    · refine iff_of_false (h hambiguous) fun hok => ?_
      exact not_ambiguous hok.2 hambiguous
    · rw [dependenciesOk_iff hambiguous]

/-- Three tasks: one is called "2", one has the index 2, and one waits for "2". -/
def ambiguousTasks : List PlanTaskNodeProposal :=
  [{ clientTaskId := some "2", fields_ok := by decide },
    { clientTaskId := some "b", taskIndex := some 2, fields_ok := by decide },
    { clientTaskId := some "c", taskIndex := some 3, dependsOn := ["2"], fields_ok := by decide }]

/-- The proposal is accepted, though its reference belongs to two tasks. -/
theorem ambiguousTasks_accepted :
    validateTaskIdentity ambiguousTasks = .ok () ∧
      (WaitsOn ambiguousTasks 2 "2" ∧ ¬∃! j, RefersTo ambiguousTasks "2" j) ∧
      ¬DependenciesExact ambiguousTasks := by
  have haccepted : validateTaskIdentity ambiguousTasks = .ok () := by decide +kernel
  have hwaits : WaitsOn ambiguousTasks 2 "2" := ⟨_, rfl, List.mem_singleton.mpr rfl⟩
  have hfirst : RefersTo ambiguousTasks "2" 0 := ⟨_, rfl, .inl rfl⟩
  have hsecond : RefersTo ambiguousTasks "2" 1 := ⟨_, rfl, .inr (by decide)⟩
  have htwo : ¬∃! j, RefersTo ambiguousTasks "2" j := by
    intro hone
    exact absurd (hone.unique hfirst hsecond) (by decide)
  refine ⟨haccepted, ⟨hwaits, htwo⟩, fun hexact => ?_⟩
  exact htwo ((hexact.1.mp haccepted).2.names_one 2 "2" hwaits)

end Taskweavn
