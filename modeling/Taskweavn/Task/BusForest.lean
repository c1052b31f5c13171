import Taskweavn.Lib.ForestOrder
import Taskweavn.Task.BusRefinement

/-!
# The forest of a session

What a bus lists for a session is a forest (`Listed`): a task is published behind its parent, with
the root of its parent, and nothing that the bus does later moves it.  The fields of a listed task
are those that its constructor accepts, but for a result reference, which may be empty.

* `InMemoryTaskBus.listed`, `SqliteTaskBus.listed`: after any run.
-/

namespace Taskweavn

open Lib Py

namespace TaskDomain

def withoutResult (t : TaskDomain) : TaskDomain := { t with resultRef := none }

/-- The task is valid, or was completed with a result reference that is not. -/
def ValidButResult (t : TaskDomain) : Prop := t.Valid ∨ (t.status = .done ∧ t.withoutResult.Valid)

theorem Valid.withoutResult {t : TaskDomain} (h : t.Valid) : t.withoutResult.Valid := by
  obtain ⟨hf, hr, hw⟩ := h
  refine ⟨?_, hr, hw⟩
  simp only [fieldsOk, Bool.and_eq_true] at hf ⊢
  simp only [TaskDomain.withoutResult, hf, accepts_optText_none, and_self]

theorem ValidButResult.withoutResult {t : TaskDomain} (h : t.ValidButResult) :
    t.withoutResult.Valid := by
  rcases h with h | h
  · exact h.withoutResult
  · exact h.2

theorem Valid.jsonNormal {t : TaskDomain} (h : t.Valid) : t.jsonNormal.Valid := by
  obtain ⟨hf, hr, hw⟩ := h
  have hsame : constraintsField.accepts t.jsonNormal.dispatchConstraints =
      constraintsField.accepts t.dispatchConstraints := by
    show constraintsField.accepts (t.dispatchConstraints.map _) = _
    cases t.dispatchConstraints <;> rfl
  refine ⟨?_, hr, hw⟩
  rw [fieldsOk, hsame]
  exact hf

theorem not_done_of_updated {tr : Transition} {env : CallEnv} {t t' : TaskDomain}
    (h : tr.updated env t = .ok t') : t.status ≠ .done := by
  intro hd
  obtain ⟨_, _, hs, _⟩ | ⟨_, _, hs | hs, _⟩ | ⟨_, _, _, hs, _⟩ | ⟨_, _, hs, _⟩ |
    ⟨_, _, hs | hs, _⟩ | ⟨_, _, hs, _⟩ | ⟨_, _, _, _, ⟨hs, _⟩ | ⟨hs, _⟩⟩ :=
    Transition.updated_cases h
  all_goals
    rw [hd] at hs
    cases hs

theorem ValidButResult.updated {tr : Transition} {env : CallEnv} {t t' : TaskDomain}
    (hargs : tr.checkArgs = .ok ()) (h : tr.updated env t = .ok t') (ht : t.ValidButResult) :
    t'.ValidButResult := by
  have hvalid : t.Valid := ht.resolve_right fun hdone => not_done_of_updated h hdone.1
  by_cases hres : tr = .complete (some "")
  · subst hres
    obtain ⟨hs, rfl⟩ := ite_raise_eq_ok.mp h
    have hnone : (Transition.complete none).updated env t = .ok
        { t with status := .done, resultRef := none, errorRef := none,
                 completedAt := some (env.clock 0) } := ite_raise_eq_ok.mpr ⟨hs, rfl⟩
    exact .inr ⟨rfl, valid_updated rfl (fun heq => (by cases heq)) hnone hvalid⟩
  · exact .inl (valid_updated hargs hres h hvalid)

end TaskDomain

structure Listed (sessionId : String) (tasks : List TaskDomain) : Prop where
  session : ∀ t ∈ tasks, t.sessionId = sessionId
  nodup : (tasks.map TaskDomain.taskId).Nodup
  parent : ∀ t ∈ tasks, ∀ p, t.parentId = some p → ∃ u ∈ tasks, u.taskId = p ∧ u.rootId = t.rootId
  rank : ∃ rank : String → ℕ, ∀ t ∈ tasks, ∀ p, t.parentId = some p → rank p < rank t.taskId
  valid : ∀ t ∈ tasks, t.withoutResult.Valid

theorem Listed.parentLinks {s : String} {tasks : List TaskDomain} (h : Listed s tasks) :
    ParentLinks TaskDomain.taskId TaskDomain.parentId tasks := by
  obtain ⟨rank, hrank⟩ := h.rank
  refine ⟨h.nodup, fun t ht p hp => ?_, ?_⟩
  · obtain ⟨u, hu, hid, -⟩ := h.parent t ht p hp
    exact ⟨u, hu, hid⟩
  · exact acyclic_of_lt (f := fun t => rank t.taskId) fun t u htu => hrank t htu.1 _ htu.2.2

namespace InMemoryTaskBus

variable {bus : InMemoryTaskBus} {c : BusCall} {k : String × String}

theorem Changed.published_or_same {t' : TaskDomain} {r : Except BusError Reply}
    (h : Changed bus c k t' r) :
    (∃ valid, c.op = .publish t' valid ∧ t'.key = k ∧ bus.tasks.get? k = none ∧
      ∀ p, t'.parentId = some p → ∃ u, bus.get t'.sessionId p = some u ∧ u.rootId = t'.rootId) ∨
    ∃ t, bus.tasks.get? k = some t ∧ t.SameTask t' := by
  cases h with
  | published valid hop hk absent _ parent => exact .inl ⟨valid, hop, hk, absent, parent⟩
  | claimed t _ agentId _ _ hg _ _ he =>
    rw [he]
    exact .inr ⟨t, hg, t.sameTask_claimed agentId c.env⟩
  | moved t tr _ _ hg he => exact .inr ⟨t, hg, Transition.sameTask_updated he⟩
  | recovered t now _ _ hg _ _ he =>
    rw [he]
    exact .inr ⟨t, hg, t.sameTask_recovered now⟩

/-- Every parent is there, with the root of its child, and a task has a rank above its parent's. -/
structure Rooted (bus : InMemoryTaskBus) : Prop where
  keyed : bus.Keyed
  parent : ∀ k t, bus.tasks.get? k = some t → ∀ p, t.parentId = some p →
    ∃ u, bus.get t.sessionId p = some u ∧ u.rootId = t.rootId
  rank : ∃ rank : String × String → ℕ, ∀ k t, bus.tasks.get? k = some t →
    ∀ p, t.parentId = some p → rank (t.sessionId, p) < rank k

theorem rooted_empty : empty.Rooted :=
  ⟨keyed_empty, fun _ _ h => (by cases h), fun _ => 0, fun _ _ h => (by cases h)⟩

theorem exists_same_of_get? (hb : bus.Keyed) {u : TaskDomain} (h : bus.tasks.get? k = some u) :
    ∃ u', (TaskBus.step bus c).2.tasks.get? k = some u' ∧ u.SameTask u' := by
  rcases changed_cases hb c k with hsame | ⟨u', hu', hch⟩
  · exact ⟨u, hsame.trans h, .refl u⟩
  · rcases hch.published_or_same with ⟨_, _, _, habsent, _⟩ | ⟨t, ht, hs⟩
    · rw [h] at habsent
      cases habsent
    · rw [h] at ht
      cases ht
      exact ⟨u', hu', hs⟩

theorem stored_cases (hb : bus.Keyed) {t : TaskDomain}
    (h : (TaskBus.step bus c).2.tasks.get? k = some t) :
    (∃ valid, c.op = .publish t valid ∧ t.key = k ∧ bus.tasks.get? k = none ∧
      ∀ p, t.parentId = some p → ∃ u, bus.get t.sessionId p = some u ∧ u.rootId = t.rootId) ∨
    ∃ u, bus.tasks.get? k = some u ∧ u.SameTask t := by
  rcases changed_cases hb c k with hsame | ⟨u, hu, hch⟩
  · exact .inr ⟨t, hsame.symm.trans h, .refl t⟩
  · rw [h] at hu
    cases hu
    exact hch.published_or_same

/-- **One call keeps the forest.** -/
theorem Rooted.step (h : bus.Rooted) (c : BusCall) : (TaskBus.step bus c).2.Rooted := by
  obtain ⟨hb, hparent, rank, hrank⟩ := h
  have hbefore : ∀ k t, (TaskBus.step bus c).2.tasks.get? k = some t → ∀ p, t.parentId = some p →
      ∃ u, bus.get t.sessionId p = some u ∧ u.rootId = t.rootId := by
    intro k t ht p hp
    rcases stored_cases hb ht with ⟨_, _, _, _, hnew⟩ | ⟨u, hu, hs⟩
    · exact hnew p hp
    · rw [hs.sessionId, hs.rootId]
      exact hparent k u hu p (hs.parentId ▸ hp)
  refine ⟨keyed_step hb c, fun k t ht p hp => ?_, ?_⟩
  · obtain ⟨u, hu, hroot⟩ := hbefore k t ht p hp
    obtain ⟨u', hu', hs⟩ := exists_same_of_get? (c := c) hb hu
    exact ⟨u', hu', hs.rootId.trans hroot⟩
  · -- a task that is published gets a rank above the one of its parent
    let above : TaskDomain → ℕ := fun t => t.parentId.elim 0 fun p => rank (t.sessionId, p) + 1
    refine ⟨fun k => if (bus.tasks.get? k).isSome then rank k else
      ((TaskBus.step bus c).2.tasks.get? k).elim 0 above, fun k t ht p hp => ?_⟩
    obtain ⟨u, hu, -⟩ := hbefore k t ht p hp
    have hold : (bus.tasks.get? (t.sessionId, p)).isSome := by
      rw [show bus.tasks.get? (t.sessionId, p) = some u from hu]
      rfl
    dsimp only
    rw [if_pos hold]
    rcases stored_cases hb ht with ⟨_, _, _, habsent, _⟩ | ⟨u', hu', hs⟩
    · rw [habsent, ht, if_neg (by simp), Option.elim_some]
      show rank (t.sessionId, p) < t.parentId.elim 0 fun p => rank (t.sessionId, p) + 1
      rw [hp, Option.elim_some]
      exact Nat.lt_succ_self _
    · rw [hu', if_pos (by simp), hs.sessionId]
      exact hrank k u' hu' p (hs.parentId ▸ hp)

theorem rooted_run (calls : List BusCall) : (TaskBus.run empty calls).Rooted :=
  final_invariant (I := Rooted) (A := fun _ => True) (fun _ c h _ => h.step c) calls empty
    rooted_empty (fun _ _ => trivial)

theorem validButResult_run (calls : List BusCall) {t : TaskDomain}
    (h : (TaskBus.run empty calls).tasks.get? k = some t) : t.ValidButResult := by
  refine stored_invariant (A := fun _ => True) ?_ calls (fun _ _ => trivial) h
  intro bus c k t' r _ hp _ hch
  cases hch with
  | published valid => exact .inl valid
  | claimed t _ agentId _ hag hg hpend _ he =>
    rw [he]
    refine .inl (TaskDomain.valid_claimed ((hp k t hg).resolve_right ?_) hpend hag c.env)
    rintro ⟨hd, -⟩
    rw [hpend] at hd
    cases hd
  | moved t tr _ hargs hg he => exact (hp k t hg).updated hargs he
  | recovered t now _ _ hg hrun _ he =>
    rw [he]
    refine .inl (TaskDomain.valid_recovered ((hp k t hg).resolve_right ?_) now)
    rintro ⟨hd, -⟩
    rw [hrun] at hd
    cases hd

/-- **What the bus lists is a forest**, after any run. -/
theorem listed (calls : List BusCall) (s : String) :
    Listed s ((TaskBus.run empty calls).listForSession s) := by
  obtain ⟨hb, hparent, rank, hrank⟩ := rooted_run calls
  have hkey : ∀ t ∈ (TaskBus.run empty calls).listForSession s,
      (TaskBus.run empty calls).tasks.get? (s, t.taskId) = some t := by
    intro t ht
    obtain ⟨hv, hs⟩ := mem_listForSession.mp ht
    have hg := get?_of_mem_values hb hv
    rwa [TaskDomain.key, hs] at hg
  refine ⟨fun t ht => (mem_listForSession.mp ht).2, nodup_taskId hb s, fun t ht p hp => ?_,
    ⟨fun i => rank (s, i), fun t ht p hp => ?_⟩, fun t ht => ?_⟩
  · obtain ⟨u, hu, hroot⟩ := hparent _ t (hkey t ht) p hp
    rw [(mem_listForSession.mp ht).2] at hu
    have hkeyu := hb _ u hu
    refine ⟨u, mem_listForSession.mpr ⟨Dict.mem_values.mpr ⟨_, hu⟩, congrArg Prod.fst hkeyu⟩,
      congrArg Prod.snd hkeyu, hroot⟩
  · have hlt := hrank _ t (hkey t ht) p hp
    rwa [(mem_listForSession.mp ht).2] at hlt
  · exact (validButResult_run calls (hkey t ht)).withoutResult

end InMemoryTaskBus

theorem exists_refined_run (calls : List BusCall) :
    ∃ calls', Refines (TaskBus.run InMemoryTaskBus.empty calls')
      (TaskBus.run SqliteTaskBus.empty calls) := by
  induction calls using List.reverseRecOn with
  | nil => exact ⟨[], .empty⟩
  | append_singleton calls c ih =>
    obtain ⟨calls', h⟩ := ih
    have hlast : ∀ {B : Type} [TaskBus B] (b : B) (l : List BusCall),
        TaskBus.run b (l ++ [c]) = (TaskBus.step (TaskBus.run b l) c).2 := by
      intro B _ b l
      rw [TaskBus.run, final_append]
      rfl
    rcases h.step_refines c with ⟨e, -, heq⟩ | ⟨-, hnext⟩
    · exact ⟨calls', by rw [hlast, heq]; exact h⟩
    · exact ⟨calls' ++ [c], by rw [hlast, hlast]; exact hnext⟩

/-- **What the database lists is a forest**, after any run; it lists valid tasks only. -/
theorem SqliteTaskBus.listed (calls : List BusCall) {s : String} {tasks : List TaskDomain}
    (h : (TaskBus.run SqliteTaskBus.empty calls).listForSession s = .ok tasks) :
    Listed s tasks := by
  obtain ⟨calls', hrefines⟩ := exists_refined_run calls
  rcases hrefines.listForSession_cases s with ⟨-, hok⟩ | ⟨_, _, _, _, _, herr⟩
  · rw [h] at hok
    cases hok
    have hl := InMemoryTaskBus.listed calls' s
    refine ⟨?_, ?_, ?_, ?_, ?_⟩
    · intro t ht
      obtain ⟨u, hu, rfl⟩ := List.mem_map.mp ht
      exact hl.session u hu
    · rw [List.map_map]
      exact hl.nodup
    · intro t ht p hp
      obtain ⟨u, hu, rfl⟩ := List.mem_map.mp ht
      obtain ⟨v, hv, hid, hroot⟩ := hl.parent u hu p hp
      exact ⟨v.jsonNormal, List.mem_map_of_mem hv, hid, hroot⟩
    · obtain ⟨rank, hrank⟩ := hl.rank
      refine ⟨rank, fun t ht p hp => ?_⟩
      obtain ⟨u, hu, rfl⟩ := List.mem_map.mp ht
      exact hrank u hu p hp
    · intro t ht
      obtain ⟨u, hu, rfl⟩ := List.mem_map.mp ht
      exact (hl.valid u hu).jsonNormal
  · rw [h] at herr
    cases herr

end Taskweavn
