import Taskweavn.Task.BusRefinement
import Taskweavn.Task.BusShadow

/-!
# What the answers of a bus tell

After a lifecycle call the caller hands the task that the bus has answered with to a
callback.  `AnsweringBus`: the answer shows the status that the call has written.  Both buses
are answering.

A task that is done stays done, and a task that is done or failed is live again only by a
retry (`closed_step`).
-/

namespace Taskweavn

open Lib Py

def TaskStatus.live : TaskStatus → Bool
  | .pending | .running | .waitingForUser => true
  | .done | .failed => false

/-! ### What a call writes -/

/-- The tasks that a call has written, as its answer shows them. -/
def BusCall.written (c : BusCall) : Except BusError Reply → List TaskDomain
  | .error _ => []
  | .ok r =>
    match c.op with
    | .publish .. | .claimNext .. | .transition .. | .recoverInterruptedRunningTasks .. => r.all
    | .get .. | .listForSession .. | .listChildren .. => []

def recordWritten (log : Dict (String × String) TaskDomain) (c : BusCall)
    (out : Except BusError Reply) : Dict (String × String) TaskDomain :=
  log.update ((c.written out).map (fun t => (t.key, t)))

theorem InMemoryTaskBus.tasks_step {m : InMemoryTaskBus} (hb : m.Keyed) (c : BusCall) :
    (TaskBus.step m c).2.tasks = recordWritten m.tasks c (TaskBus.step m c).1 := by
  obtain ⟨op, env⟩ := c
  cases op with
  | publish task valid =>
    simp only [TaskBus.step, TaskBus.publish, publish]
    split <;> rfl
  | claimNext s capability agentId =>
    simp only [TaskBus.step, TaskBus.claimNext, claimNext]
    by_cases hcap : isBlank capability = true
    · simp only [hcap, if_true]; rfl
    · by_cases hag : isBlank agentId = true
      · simp only [hcap, hag, if_true]; rfl
      · simp only [hcap, hag]
        cases hh : (sortOn TaskDomain.sessionOrder
            (m.tasks.values.filter (m.claimable s capability))).head? with
        | none => rfl
        | some t =>
          obtain ⟨hg, _, _⟩ := head?_claimable hb hh
          have hk : (t.claimed agentId env).key = (s, t.taskId) :=
            (t.sameTask_claimed agentId env).key.trans (hb _ t hg)
          show m.tasks.set (s, t.taskId) _ = m.tasks.set (t.claimed agentId env).key _
          rw [hk]
  | transition s i tr =>
    simp only [TaskBus.step, TaskBus.transition, transition]
    cases ha : tr.checkArgs with
    | error e => rfl
    | ok _ =>
      simp only [Except.bind, requireTask]
      cases hg : m.get s i with
      | none => rfl
      | some t =>
        cases hu : tr.updated env t with
        | error e => simp only [hu]; rfl
        | ok t' =>
          have hk : t'.key = (s, i) := (Transition.sameTask_updated hu).key.trans (hb _ t hg)
          simp only [hu]
          show m.tasks.set (s, i) t' = m.tasks.set t'.key t'
          rw [hk]
  | recoverInterruptedRunningTasks s =>
    have hfold : ∀ (l : List TaskDomain) (b : InMemoryTaskBus), (∀ u ∈ l, u.sessionId = s) →
        (l.foldl (fun b t => b.store s t) b).tasks =
          b.tasks.update (l.map (fun t => (t.key, t))) := by
      intro l
      induction l with
      | nil => intro b _; rfl
      | cons u rest ih =>
        intro b hl
        have hk : u.key = (s, u.taskId) := by rw [TaskDomain.key, hl u List.mem_cons_self]
        rw [List.foldl_cons, ih _ (fun v hv => hl v (List.mem_cons_of_mem _ hv)), List.map_cons,
          Dict.update, Dict.update, List.foldl_cons, hk]
        rfl
    refine hfold _ m ?_
    intro u hu
    obtain ⟨t, ht, _, _, now, rfl⟩ := mem_recoveredTasks _ _ hu
    exact (mem_listForSession.mp ht).2
  | get s i => rfl
  | listForSession s => rfl
  | listChildren s p => rfl

/-! ### What a call does to a closed task -/

namespace InMemoryTaskBus

variable {bus : InMemoryTaskBus} {s i : String}

def HasStatus (bus : InMemoryTaskBus) (s i : String) (status : TaskStatus) : Prop :=
  ∃ t, bus.get s i = some t ∧ t.status = status

def Closed (bus : InMemoryTaskBus) (s i : String) : Prop :=
  ∃ t, bus.get s i = some t ∧ t.status.live = false

theorem HasStatus.done_step (hb : bus.Keyed) (h : bus.HasStatus s i .done) (c : BusCall) :
    (TaskBus.step bus c).2.HasStatus s i .done := by
  obtain ⟨t, hget, hstatus⟩ := h
  exact ⟨t, InMemoryTaskBus.done_step hb c hget hstatus, hstatus⟩

/-- **A closed task is opened by a retry only.** -/
theorem closed_step (hb : bus.Keyed) (h : bus.Closed s i) (c : BusCall) :
    (TaskBus.step bus c).2.Closed s i ∨
      ∃ instruction, c.op = .transition s i (.retry instruction) := by
  obtain ⟨t, hget, hclosed⟩ := h
  rcases changed_cases hb c (s, i) with hsame | ⟨t', ht', hch⟩
  · exact .inl ⟨t, hsame.trans hget, hclosed⟩
  have hpresent : ∀ {u : TaskDomain}, bus.tasks.get? (s, i) = some u → u = t := fun hu =>
    Option.some.inj (hu.symm.trans hget)
  generalize (TaskBus.step bus c).1 = reply at hch
  cases hch with
  | published _ _ _ absent =>
    rw [show bus.tasks.get? (s, i) = some t from hget] at absent
    cases absent
  | claimed u _ _ _ _ hu hp _ he =>
    obtain rfl := hpresent hu
    rw [hp] at hclosed
    cases hclosed
  | recovered u now _ _ hu hr _ he =>
    obtain rfl := hpresent hu
    rw [hr] at hclosed
    cases hclosed
  | moved u tr hop _ hu he =>
    obtain rfl := hpresent hu
    by_cases hretry : ∃ instruction, tr = .retry instruction
    · obtain ⟨instruction, rfl⟩ := hretry
      exact .inr ⟨instruction, hop⟩
    · refine .inl ⟨t', ht', ?_⟩
      obtain ⟨_, _, hs, rfl⟩ | ⟨_, _, hs, rfl⟩ | ⟨_, _, _, hs, rfl⟩ | ⟨_, _, hs, rfl⟩ |
        ⟨_, _, hs, rfl⟩ | ⟨i, rfl, -⟩ | ⟨_, _, _, _, ⟨hs, rfl⟩ | ⟨hs, rfl⟩⟩ :=
        Transition.updated_cases he
      · rfl
      · rfl
      · rw [hs] at hclosed
        cases hclosed
      · rw [hs] at hclosed
        cases hclosed
      · rfl
      · exact absurd ⟨i, rfl⟩ hretry
      · rfl
      · rw [hs] at hclosed
        cases hclosed

/-! ### The answers -/

theorem written_status (bus : InMemoryTaskBus) (c : BusCall) {t u : TaskDomain}
    (ht : t ∈ c.written (TaskBus.step bus c).1) (hu : u ∈ c.written (TaskBus.step bus c).1) :
    u.status = t.status := by
  obtain ⟨op, env⟩ := c
  cases op with
  | recoverInterruptedRunningTasks s =>
    obtain ⟨_, _, _, _, _, rfl⟩ := mem_recoveredTasks _ _ ht
    obtain ⟨_, _, _, _, _, rfl⟩ := mem_recoveredTasks _ _ hu
    rfl
  | publish task valid =>
    simp only [TaskBus.step, Prod.map] at ht hu
    cases hout : (TaskBus.publish bus task).1 with
    | error e =>
      rw [hout] at ht
      cases ht
    | ok v =>
      rw [hout] at ht hu
      rw [show t = v from List.mem_singleton.mp ht, show u = v from List.mem_singleton.mp hu]
  | claimNext s capability agentId =>
    simp only [TaskBus.step, Prod.map] at ht hu
    rcases hout : (TaskBus.claimNext bus s capability agentId env).1 with e | _ | v
    · rw [hout] at ht
      cases ht
    · rw [hout] at ht
      cases ht
    · rw [hout] at ht hu
      rw [show t = v from List.mem_singleton.mp ht, show u = v from List.mem_singleton.mp hu]
  | transition s i tr =>
    simp only [TaskBus.step, Prod.map] at ht hu
    cases hout : (TaskBus.transition bus s i tr env).1 with
    | error e =>
      rw [hout] at ht
      cases ht
    | ok v =>
      rw [hout] at ht hu
      rw [show t = v from List.mem_singleton.mp ht, show u = v from List.mem_singleton.mp hu]
  | get s i => cases h : TaskBus.get bus s i <;>
    simp [BusCall.written, TaskBus.step, h, Except.map] at ht
  | listForSession s =>
    cases h : TaskBus.listForSession bus s <;>
      simp [BusCall.written, TaskBus.step, h, Except.map] at ht
  | listChildren s p =>
    cases h : TaskBus.listChildren bus s p <;>
      simp [BusCall.written, TaskBus.step, h, Except.map] at ht

theorem hasStatus_written (hb : bus.Keyed) (c : BusCall) {t : TaskDomain}
    (ht : t ∈ c.written (TaskBus.step bus c).1) :
    (TaskBus.step bus c).2.HasStatus t.sessionId t.taskId t.status := by
  have hentry : (t.key, t) ∈ (c.written (TaskBus.step bus c).1).map fun t => (t.key, t) :=
    List.mem_map_of_mem ht
  rcases Dict.get?_update_cases (k := t.key)
    (l := (c.written (TaskBus.step bus c).1).map fun t => (t.key, t)) bus.tasks with
    ⟨hno, -⟩ | ⟨u, hu, hget⟩
  · exact absurd hentry (hno t)
  · obtain ⟨v, hmem, heq⟩ := List.mem_map.mp hu
    obtain ⟨-, rfl⟩ := Prod.mk.inj heq
    refine ⟨v, ?_, written_status bus c ht hmem⟩
    have htasks := tasks_step hb c
    rw [recordWritten] at htasks
    rw [InMemoryTaskBus.get, htasks]
    exact hget

end InMemoryTaskBus

/-- A bus whose answers show the statuses that its calls have written, and whose transitions
answer with the task that they are called for. -/
class AnsweringBus (B : Type) extends ShadowedBus B where
  answered : ∀ {m : InMemoryTaskBus} {b : B}, ShadowedBus.Shadow m b →
    ∀ (c : BusCall) {t : TaskDomain}, t ∈ c.written (TaskBus.step b c).1 →
      (TaskBus.step m c).2.HasStatus t.sessionId t.taskId t.status
  transition_key : ∀ {m : InMemoryTaskBus} {b : B}, ShadowedBus.Shadow m b →
    ∀ {s i : String} {tr : Transition} {env : CallEnv} {t : TaskDomain},
      (TaskBus.transition b s i tr env).1 = .ok t → t.key = (s, i)

theorem InMemoryTaskBus.key_transition {bus : InMemoryTaskBus} (hb : bus.Keyed) {s i : String}
    {tr : Transition} {env : CallEnv} {t : TaskDomain} (h : (bus.transition s i tr env).1 = .ok t) :
    t.key = (s, i) := by
  rcases bus.transition_cases s i tr env with ⟨e, he⟩ | ⟨u, u', hu, -, hupdated, hok⟩
  · rw [he] at h
    cases h
  · rw [hok] at h
    cases h
    exact (Transition.sameTask_updated hupdated).key.trans (hb _ _ hu)

instance : AnsweringBus InMemoryTaskBus where
  answered := by
    rintro m _ ⟨rfl, hb⟩ c t ht
    exact InMemoryTaskBus.hasStatus_written hb c ht
  transition_key := by
    rintro m _ ⟨rfl, hb⟩ s i tr env t h
    exact InMemoryTaskBus.key_transition hb h

theorem Reply.all_jsonNormal (r : Reply) : r.jsonNormal.all = r.all.map TaskDomain.jsonNormal := by
  cases r with
  | task t => rfl
  | optional o => cases o <;> rfl
  | tasks l => rfl

theorem BusCall.written_jsonNormal (c : BusCall) (out : Except BusError Reply) :
    c.written (out.map Reply.jsonNormal) = (c.written out).map TaskDomain.jsonNormal := by
  obtain ⟨op, env⟩ := c
  cases out with
  | error e => rfl
  | ok r => cases op <;> first | exact r.all_jsonNormal | rfl

instance : AnsweringBus SqliteTaskBus where
  answered := by
    rintro m b ⟨hrefines, -⟩ c t ht
    rcases hrefines.step_refines c with ⟨e, -, he⟩ | ⟨hagree | hagree, -⟩
    · rw [he] at ht
      cases ht
    · rw [hagree] at ht
      exact InMemoryTaskBus.hasStatus_written hrefines.keyed c ht
    · rw [hagree, BusCall.written_jsonNormal] at ht
      obtain ⟨u, hu, rfl⟩ := List.mem_map.mp ht
      show (TaskBus.step m c).2.HasStatus u.sessionId u.taskId u.status
      exact InMemoryTaskBus.hasStatus_written hrefines.keyed c hu
  transition_key := by
    rintro m b ⟨hrefines, -⟩ s i tr env t h
    have hstep : (TaskBus.step b ⟨.transition s i tr, env⟩).1 = .ok (.task t) := by
      simp only [TaskBus.step, Prod.map, h, Except.map]
    have hkey : ∀ {u}, (TaskBus.step m ⟨.transition s i tr, env⟩).1 = .ok (.task u) →
        u.key = (s, i) := by
      intro u hu
      simp only [TaskBus.step, Prod.map] at hu
      cases hout : (TaskBus.transition m s i tr env).1 with
      | error e =>
        rw [hout] at hu
        cases hu
      | ok v =>
        rw [hout] at hu
        cases hu
        exact InMemoryTaskBus.key_transition hrefines.keyed hout
    rcases hrefines.step_refines ⟨.transition s i tr, env⟩ with ⟨e, -, he⟩ | ⟨hagree | hagree, -⟩
    · rw [he] at hstep
      cases hstep
    · rw [hagree] at hstep
      exact hkey hstep
    · rw [hagree] at hstep
      rcases hout : (TaskBus.step m ⟨.transition s i tr, env⟩).1 with e | (u | o | l)
      · rw [hout] at hstep
        cases hstep
      · rw [hout] at hstep
        cases hstep
        show u.key = (s, i)
        exact hkey hout
      · rw [hout] at hstep
        cases hstep
      · rw [hout] at hstep
        cases hstep

end Taskweavn
