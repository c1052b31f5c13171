import Taskweavn.Lib.Run
import Taskweavn.Task.Lifecycle

/-!
# The task bus

`TaskBus` is the protocol: publish, claim, the lifecycle transitions, recovery
and the reads.  A method answers with a value or an error and with the bus it
leaves behind.  `TaskBus.step` runs one call, so that a run of a bus is a list
of calls.

`InMemoryTaskBus` keeps the tasks in a dictionary by session and id, and an
index of the children of a task (`taskweavn/task/bus.py`).  `changed_cases` says
once what a call can do to a stored task; the invariants of the bus are read
off it.
-/

namespace Taskweavn

open Lib Py

/-- The published task state authority. -/
class TaskBus (B : Type) where
  publish : B → TaskDomain → Except BusError TaskDomain × B
  claimNext : B → (sessionId capability agentId : String) → CallEnv →
    Except BusError (Option TaskDomain) × B
  transition : B → (sessionId taskId : String) → Transition → CallEnv →
    Except BusError TaskDomain × B
  recoverInterruptedRunningTasks : B → (sessionId : String) → CallEnv →
    Except BusError (List TaskDomain) × B
  get : B → (sessionId taskId : String) → Except BusError (Option TaskDomain)
  listForSession : B → (sessionId : String) → Except BusError (List TaskDomain)
  listChildren : B → (sessionId : String) → (parentId : Option String) →
    Except BusError (List TaskDomain)

/-- A call of a bus method.  A task that is published was built by its
constructor, so it is valid. -/
inductive BusOp
  | publish (task : TaskDomain) (valid : task.Valid)
  | claimNext (sessionId capability agentId : String)
  | transition (sessionId taskId : String) (tr : Transition)
  | recoverInterruptedRunningTasks (sessionId : String)
  | get (sessionId taskId : String)
  | listForSession (sessionId : String)
  | listChildren (sessionId : String) (parentId : Option String)

/-- The session that an operation is about. -/
def BusOp.session : BusOp → String
  | publish task _ => task.sessionId
  | claimNext s .. | transition s .. | recoverInterruptedRunningTasks s | get s _
  | listForSession s | listChildren s _ => s

structure BusCall where
  op : BusOp
  env : CallEnv

/-- What a call returns. -/
inductive Reply
  | task (t : TaskDomain)
  | optional (o : Option TaskDomain)
  | tasks (l : List TaskDomain)
deriving DecidableEq

def TaskBus.step {B : Type} [TaskBus B] (b : B) (c : BusCall) : Except BusError Reply × B :=
  match c.op with
  | .publish task _ => (publish b task).map (Except.map .task) id
  | .claimNext sessionId capability agentId =>
    (claimNext b sessionId capability agentId c.env).map (Except.map .optional) id
  | .transition sessionId taskId tr =>
    (transition b sessionId taskId tr c.env).map (Except.map .task) id
  | .recoverInterruptedRunningTasks sessionId =>
    (recoverInterruptedRunningTasks b sessionId c.env).map (Except.map .tasks) id
  | .get sessionId taskId => ((get b sessionId taskId).map .optional, b)
  | .listForSession sessionId => ((listForSession b sessionId).map .tasks, b)
  | .listChildren sessionId parentId => ((listChildren b sessionId parentId).map .tasks, b)

/-- The checks of `publish`, over the bus's own way to look a task up. -/
def publishCheck (get : String → String → Except BusError (Option TaskDomain))
    (task : TaskDomain) : Except BusError Unit := do
  if task.status ≠ .pending then throw (.store .publishNotPending)
  if (← get task.sessionId task.taskId).isSome then throw (.store (.taskExists task.taskId))
  match task.parentId with
  | none => pure ()
  | some parentId =>
    match ← get task.sessionId parentId with
    | none => throw (.store (.parentNotFound parentId))
    | some parent => if parent.rootId ≠ task.rootId then throw (.store .rootMismatch)

/-- The order of a session's tasks: creation time, order index, id. -/
def TaskDomain.sessionOrder (t : TaskDomain) : DateTime ×ₗ ℕ ×ₗ String :=
  toLex (t.createdAt, toLex (t.orderIndex, t.taskId))

/-- The order of a task's children: order index, creation time, id. -/
def TaskDomain.childOrder (t : TaskDomain) : ℕ ×ₗ DateTime ×ₗ String :=
  toLex (t.orderIndex, toLex (t.createdAt, t.taskId))

/-! ### The in-memory bus -/

structure InMemoryTaskBus where
  tasks : Dict (String × String) TaskDomain := Dict.empty
  children : Dict (String × Option String) (List String) := Dict.empty

namespace InMemoryTaskBus

def empty : InMemoryTaskBus := {}

def get (bus : InMemoryTaskBus) (sessionId taskId : String) : Option TaskDomain :=
  bus.tasks.get? (sessionId, taskId)

/-- `self._tasks[(session_id, task_id)] = updated` -/
def store (bus : InMemoryTaskBus) (sessionId : String) (t : TaskDomain) : InMemoryTaskBus :=
  { bus with tasks := bus.tasks.set (sessionId, t.taskId) t }

/-- `publish` with `_load`. -/
def publish (bus : InMemoryTaskBus) (task : TaskDomain) :
    Except BusError TaskDomain × InMemoryTaskBus :=
  match publishCheck (fun s i => .ok (bus.get s i)) task with
  | .error e => (.error e, bus)
  | .ok _ =>
    let slot := (task.sessionId, task.parentId)
    (.ok task,
      { tasks := bus.tasks.set task.key task
        children := bus.children.set slot ((bus.children.get? slot).getD [] ++ [task.taskId]) })

def parentIsDone (bus : InMemoryTaskBus) (t : TaskDomain) : Bool :=
  match t.parentId with
  | none => true
  | some parentId =>
    match bus.get t.sessionId parentId with
    | none => false
    | some parent => parent.status == .done

/-- The tasks that `claim_next` chooses from. -/
def claimable (bus : InMemoryTaskBus) (sessionId capability : String) (t : TaskDomain) : Bool :=
  t.sessionId == sessionId && t.status == .pending && t.requiredCapability == capability &&
    bus.parentIsDone t

def claimNext (bus : InMemoryTaskBus) (sessionId capability agentId : String) (env : CallEnv) :
    Except BusError (Option TaskDomain) × InMemoryTaskBus :=
  if isBlank capability then (.error (.store .emptyCapability), bus)
  else if isBlank agentId then (.error (.store .emptyAgentId), bus)
  else
    match (sortOn TaskDomain.sessionOrder
        (bus.tasks.values.filter (bus.claimable sessionId capability))).head? with
    | none => (.ok none, bus)
    | some t =>
      let updated := t.claimed agentId env
      (.ok (some updated), bus.store sessionId updated)

def requireTask (bus : InMemoryTaskBus) (sessionId taskId : String) : Except BusError TaskDomain :=
  match bus.get sessionId taskId with
  | none => .error (.store (.taskNotFound taskId))
  | some t => .ok t

/-- The common body of the lifecycle methods. -/
def transition (bus : InMemoryTaskBus) (sessionId taskId : String) (tr : Transition)
    (env : CallEnv) : Except BusError TaskDomain × InMemoryTaskBus :=
  match tr.checkArgs.bind fun _ => (bus.requireTask sessionId taskId).bind (tr.updated env) with
  | .error e => (.error e, bus)
  | .ok updated => (.ok updated, { bus with tasks := bus.tasks.set (sessionId, taskId) updated })

def listForSession (bus : InMemoryTaskBus) (sessionId : String) : List TaskDomain :=
  sortOn TaskDomain.sessionOrder (bus.tasks.values.filter (fun t => t.sessionId == sessionId))

def recoverInterruptedRunningTasks (bus : InMemoryTaskBus) (sessionId : String) (env : CallEnv) :
    Except BusError (List TaskDomain) × InMemoryTaskBus :=
  let recovered := recoveredTasks env 0 (bus.listForSession sessionId)
  (.ok recovered, recovered.foldl (fun b t => b.store sessionId t) bus)

def listChildren (bus : InMemoryTaskBus) (sessionId : String) (parentId : Option String) :
    List TaskDomain :=
  sortOn TaskDomain.childOrder
    (((bus.children.get? (sessionId, parentId)).getD []).filterMap (bus.get sessionId))

end InMemoryTaskBus

instance : TaskBus InMemoryTaskBus where
  publish := InMemoryTaskBus.publish
  claimNext := InMemoryTaskBus.claimNext
  transition := InMemoryTaskBus.transition
  recoverInterruptedRunningTasks := InMemoryTaskBus.recoverInterruptedRunningTasks
  get bus sessionId taskId := .ok (bus.get sessionId taskId)
  listForSession bus sessionId := .ok (bus.listForSession sessionId)
  listChildren bus sessionId parentId := .ok (bus.listChildren sessionId parentId)

def TaskBus.run {B : Type} [TaskBus B] (b : B) (calls : List BusCall) : B :=
  final TaskBus.step b calls

/-- What a run of calls returns. -/
def TaskBus.replies {B : Type} [TaskBus B] (b : B) (calls : List BusCall) :
    List (Except BusError Reply) :=
  outputs TaskBus.step b calls

section

variable {B : Type} [TaskBus B] (b : B)

theorem TaskBus.run_append (l l' : List BusCall) :
    TaskBus.run b (l ++ l') = TaskBus.run (TaskBus.run b l) l' :=
  final_append _ b l l'

theorem TaskBus.run_transition (s i : String) (tr : Transition) (env : CallEnv) :
    TaskBus.run b [⟨.transition s i tr, env⟩] = (TaskBus.transition b s i tr env).2 := rfl

theorem TaskBus.run_claimNext (s capability agentId : String) (env : CallEnv) :
    TaskBus.run b [⟨.claimNext s capability agentId, env⟩] =
      (TaskBus.claimNext b s capability agentId env).2 := rfl

end

/-! ### What a call can do -/

theorem mem_recoveredTasks {env : CallEnv} {u : TaskDomain} :
    ∀ (l : List TaskDomain) (i : ℕ), u ∈ recoveredTasks env i l →
      ∃ t ∈ l, t.status = .running ∧ t.interruptRequested = true ∧
        ∃ now, u = t.recoverInterruptedRunningUpdates now := by
  intro l
  induction l with
  | nil => intro i h; simp [recoveredTasks] at h
  | cons t rest ih =>
    intro i h
    by_cases hc : t.status ≠ .running ∨ t.interruptRequested = false
    · rw [recoveredTasks, if_pos hc] at h
      obtain ⟨t', ht', hrest⟩ := ih i h
      exact ⟨t', List.mem_cons_of_mem _ ht', hrest⟩
    · rw [recoveredTasks, if_neg hc] at h
      rw [not_or, not_not, Bool.not_eq_false] at hc
      rcases List.mem_cons.mp h with rfl | h
      · exact ⟨t, List.mem_cons_self, hc.1, hc.2, _, rfl⟩
      · obtain ⟨t', ht', hrest⟩ := ih (i + 1) h
        exact ⟨t', List.mem_cons_of_mem _ ht', hrest⟩

theorem publishCheck_eq_ok {get : String → String → Option TaskDomain} {task : TaskDomain}
    {u : Unit} (h : publishCheck (fun s i => .ok (get s i)) task = .ok u) :
    task.status = .pending ∧ get task.sessionId task.taskId = none ∧
      ∀ p, task.parentId = some p →
        ∃ parent, get task.sessionId p = some parent ∧ parent.rootId = task.rootId := by
  unfold publishCheck at h
  by_cases hs : task.status = .pending
  · cases hg : get task.sessionId task.taskId with
    | some t => simp [hs, hg, bind, Except.bind, throw, throwThe, MonadExceptOf.throw] at h
    | none =>
      refine ⟨hs, rfl, ?_⟩
      intro p hp
      cases hq : get task.sessionId p with
      | none =>
        simp [hs, hg, hp, hq, bind, Except.bind, throw, throwThe, MonadExceptOf.throw] at h
      | some parent =>
        refine ⟨parent, rfl, ?_⟩
        by_contra hr
        simp [hs, hg, hp, hq, hr, bind, Except.bind, throw, throwThe, MonadExceptOf.throw] at h
  · simp [hs, bind, Except.bind, throw, throwThe, MonadExceptOf.throw] at h

theorem publishCheck_error {get : String → String → Option TaskDomain} {task : TaskDomain}
    {e : BusError} (h : publishCheck (fun s i => .ok (get s i)) task = .error e) :
    ∃ x, e = .store x := by
  unfold publishCheck at h
  simp only [bind, Except.bind, throw, throwThe, MonadExceptOf.throw, pure, Except.pure] at h
  repeat' split at h
  all_goals cases h
  all_goals exact ⟨_, rfl⟩

namespace InMemoryTaskBus

variable {bus : InMemoryTaskBus} {c : BusCall} {k : String × String}

/-- Every task is stored under its own key. -/
def Keyed (bus : InMemoryTaskBus) : Prop := ∀ k t, bus.tasks.get? k = some t → t.key = k

/-- The ways in which a call puts the task `t'` under the key `k`, with the reply
of the call. -/
inductive Changed (bus : InMemoryTaskBus) (c : BusCall) (k : String × String) (t' : TaskDomain) :
    Except BusError Reply → Prop
  | published (valid : t'.Valid) (hop : c.op = .publish t' valid) (hk : t'.key = k)
      (absent : bus.tasks.get? k = none) (pending : t'.status = .pending)
      (parent : ∀ p, t'.parentId = some p →
        ∃ u, bus.get t'.sessionId p = some u ∧ u.rootId = t'.rootId) :
      Changed bus c k t' (.ok (.task t'))
  | claimed (t : TaskDomain) (capability agentId : String)
      (hop : c.op = .claimNext k.1 capability agentId) (agent : isBlank agentId = false)
      (present : bus.tasks.get? k = some t) (pending : t.status = .pending)
      (parent : bus.parentIsDone t = true) (eq : t' = t.claimed agentId c.env) :
      Changed bus c k t' (.ok (.optional (some t')))
  | moved (t : TaskDomain) (tr : Transition) (hop : c.op = .transition k.1 k.2 tr)
      (args : tr.checkArgs = .ok ()) (present : bus.tasks.get? k = some t)
      (eq : tr.updated c.env t = .ok t') :
      Changed bus c k t' (.ok (.task t'))
  | recovered (t : TaskDomain) (now : DateTime) (l : List TaskDomain)
      (hop : c.op = .recoverInterruptedRunningTasks k.1)
      (present : bus.tasks.get? k = some t) (running : t.status = .running)
      (interrupted : t.interruptRequested = true)
      (eq : t' = t.recoverInterruptedRunningUpdates now) :
      Changed bus c k t' (.ok (.tasks l))

theorem get?_of_mem_values (hb : bus.Keyed) {t : TaskDomain} (h : t ∈ bus.tasks.values) :
    bus.tasks.get? t.key = some t := by
  obtain ⟨k, hk⟩ := Dict.mem_values.mp h
  rwa [hb k t hk]

theorem mem_listForSession {s : String} {t : TaskDomain} :
    t ∈ bus.listForSession s ↔ t ∈ bus.tasks.values ∧ t.sessionId = s := by
  rw [listForSession, mem_sortOn, List.mem_filter, beq_iff_eq]

theorem nodup_taskId (hb : bus.Keyed) (s : String) :
    ((bus.listForSession s).map TaskDomain.taskId).Nodup := by
  have hperm : ((bus.listForSession s).map TaskDomain.key).Perm
      ((bus.tasks.values.filter (fun t => t.sessionId == s)).map TaskDomain.key) :=
    (sortOn_perm _ _).map _
  have hn : ((bus.listForSession s).map TaskDomain.key).Nodup :=
    hperm.nodup_iff.mpr ((Dict.nodup_map_values hb).sublist (List.filter_sublist.map _))
  have hmap : (bus.listForSession s).map TaskDomain.key =
      ((bus.listForSession s).map TaskDomain.taskId).map (fun i => (s, i)) := by
    rw [List.map_map]
    refine List.map_congr_left ?_
    intro t ht
    rw [TaskDomain.key, (mem_listForSession.mp ht).2]
    rfl
  rw [hmap] at hn
  exact List.Nodup.of_map _ hn

/-- Looking a task up by its id among the tasks of its session, which may have
been changed on the way. -/
theorem get?_taskById (hb : bus.Keyed) {f : TaskDomain → TaskDomain}
    (hf : ∀ t, (f t).taskId = t.taskId) (s p : String) :
    (Dict.ofList (((bus.listForSession s).map f).map (fun t => (t.taskId, t)))).get? p =
      (bus.get s p).map f := by
  have hn : (((bus.listForSession s).map f).map TaskDomain.taskId).Nodup := by
    rw [List.map_map, show TaskDomain.taskId ∘ f = TaskDomain.taskId from funext hf]
    exact nodup_taskId hb s
  cases hg : bus.get s p with
  | some t =>
    have hk : t.key = (s, p) := hb _ t hg
    have hm : f t ∈ (bus.listForSession s).map f :=
      List.mem_map_of_mem (mem_listForSession.mpr
        ⟨Dict.mem_values.mpr ⟨_, hg⟩, congrArg Prod.fst hk⟩)
    have hp : (f t).taskId = p := (hf t).trans (congrArg Prod.snd hk)
    have := Dict.get?_ofList_map hn hm
    rw [hp] at this
    exact this
  | none =>
    refine Dict.get?_ofList_map_eq_none hn ?_
    intro u hu hup
    obtain ⟨t, ht, rfl⟩ := List.mem_map.mp hu
    obtain ⟨hv, hs⟩ := mem_listForSession.mp ht
    have hk := get?_of_mem_values hb hv
    have hid : t.taskId = p := (hf t).symm.trans hup
    rw [TaskDomain.key, hs, hid] at hk
    rw [get, hk] at hg
    cases hg

theorem get?_foldl_store (s : String) (k : String × String) :
    ∀ (l : List TaskDomain) (bus : InMemoryTaskBus),
      (l.foldl (fun b t => b.store s t) bus).tasks.get? k = bus.tasks.get? k ∨
      ∃ u ∈ l, k = (s, u.taskId) ∧
        (l.foldl (fun b t => b.store s t) bus).tasks.get? k = some u := by
  intro l
  induction l with
  | nil => intro bus; exact .inl rfl
  | cons t rest ih =>
    intro bus
    rcases ih (bus.store s t) with h | ⟨u, hu, hk, h⟩
    · by_cases hk : (s, t.taskId) = k
      · refine .inr ⟨t, List.mem_cons_self, hk.symm, ?_⟩
        rw [List.foldl_cons, h, store, ← hk, Dict.get?_set_self]
      · refine .inl ?_
        rw [List.foldl_cons, h, store, Dict.get?_set_ne _ _ hk]
    · exact .inr ⟨u, List.mem_cons_of_mem _ hu, hk, h⟩

theorem head?_claimable (hb : bus.Keyed) {s capability : String} {t : TaskDomain}
    (h : (sortOn TaskDomain.sessionOrder
      (bus.tasks.values.filter (bus.claimable s capability))).head? = some t) :
    bus.tasks.get? (s, t.taskId) = some t ∧ t.status = .pending ∧
      bus.parentIsDone t = true := by
  have hm := List.mem_of_head? h
  rw [mem_sortOn, List.mem_filter] at hm
  obtain ⟨hv, hc⟩ := hm
  simp only [claimable, Bool.and_eq_true, beq_iff_eq] at hc
  obtain ⟨⟨⟨hs, hp⟩, _⟩, hd⟩ := hc
  refine ⟨?_, hp, hd⟩
  rw [← hs]
  exact get?_of_mem_values hb hv

/-- **A call inverted.**  A call leaves a key alone, or puts a task there in one
of the ways of `Changed`. -/
theorem changed_cases (hb : bus.Keyed) (c : BusCall) (k : String × String) :
    (TaskBus.step bus c).2.tasks.get? k = bus.tasks.get? k ∨
    ∃ t', (TaskBus.step bus c).2.tasks.get? k = some t' ∧
      Changed bus c k t' (TaskBus.step bus c).1 := by
  obtain ⟨op, env⟩ := c
  cases op with
  | publish task valid =>
    simp only [TaskBus.step, TaskBus.publish, publish]
    cases hc : publishCheck (fun s i => .ok (bus.get s i)) task with
    | error e => exact .inl rfl
    | ok _ =>
      obtain ⟨hs, hn, hp⟩ := publishCheck_eq_ok hc
      by_cases hk : task.key = k
      · subst hk
        exact .inr ⟨task, Dict.get?_set_self _ _ _, .published valid rfl rfl hn hs hp⟩
      · exact .inl (Dict.get?_set_ne _ _ hk)
  | claimNext s capability agentId =>
    simp only [TaskBus.step, TaskBus.claimNext, claimNext]
    by_cases hcap : isBlank capability = true
    · rw [if_pos hcap]; exact .inl rfl
    · rw [if_neg hcap]
      by_cases hag : isBlank agentId = true
      · rw [if_pos hag]; exact .inl rfl
      · rw [if_neg hag]
        cases hh : (sortOn TaskDomain.sessionOrder
            (bus.tasks.values.filter (bus.claimable s capability))).head? with
        | none => exact .inl rfl
        | some t =>
          obtain ⟨hg, hp, hd⟩ := head?_claimable hb hh
          by_cases hk : (s, t.taskId) = k
          · subst hk
            exact .inr ⟨t.claimed agentId env, Dict.get?_set_self _ _ _,
              .claimed t capability agentId rfl (by simpa using hag) hg hp hd rfl⟩
          · exact .inl (Dict.get?_set_ne _ _ hk)
  | transition s i tr =>
    simp only [TaskBus.step, TaskBus.transition, transition]
    cases ha : tr.checkArgs with
    | error e => exact .inl rfl
    | ok _ =>
      simp only [requireTask, get, Except.bind]
      cases hg : bus.tasks.get? (s, i) with
      | none => exact .inl rfl
      | some t =>
        cases hu : tr.updated env t with
        | error e => simp only [hu]; exact .inl rfl
        | ok t' =>
          simp only [hu]
          by_cases hk : (s, i) = k
          · subst hk
            exact .inr ⟨t', Dict.get?_set_self _ _ _, .moved t tr rfl ha hg hu⟩
          · exact .inl (Dict.get?_set_ne _ _ hk)
  | recoverInterruptedRunningTasks s =>
    simp only [TaskBus.step, TaskBus.recoverInterruptedRunningTasks,
      recoverInterruptedRunningTasks]
    rcases get?_foldl_store s k (recoveredTasks env 0 (bus.listForSession s)) bus with
      h | ⟨u, hu, hk, h⟩
    · exact .inl h
    · refine .inr ⟨u, h, ?_⟩
      obtain ⟨t, ht, hr, hi, now, rfl⟩ := mem_recoveredTasks _ _ hu
      obtain ⟨hv, hs⟩ := mem_listForSession.mp ht
      have hg := get?_of_mem_values hb hv
      have hkey : t.key = k := by rw [hk, TaskDomain.key, hs]; rfl
      refine .recovered t now _ (by rw [hk]) ?_ hr hi rfl
      rwa [← hkey]
  | get s i => exact .inl rfl
  | listForSession s => exact .inl rfl
  | listChildren s p => exact .inl rfl

/-- **A transition inverted**: the bus refuses it, or it writes the task anew. -/
theorem transition_cases (bus : InMemoryTaskBus) (s i : String) (tr : Transition) (env : CallEnv) :
    (∃ e, bus.transition s i tr env = (.error e, bus)) ∨
    ∃ t t', bus.get s i = some t ∧ tr.checkArgs = .ok () ∧ tr.updated env t = .ok t' ∧
      bus.transition s i tr env = (.ok t', { bus with tasks := bus.tasks.set (s, i) t' }) := by
  unfold transition requireTask
  cases ha : tr.checkArgs with
  | error e => exact .inl ⟨e, rfl⟩
  | ok _ =>
    cases hg : bus.get s i with
    | none => exact .inl ⟨_, rfl⟩
    | some t =>
      cases hu : tr.updated env t with
      | error e => exact .inl ⟨e, by simp only [Except.bind, hu]⟩
      | ok t' => exact .inr ⟨t, t', rfl, rfl, hu, by simp only [Except.bind, hu]⟩

theorem claim_reply (hb : bus.Keyed) {s capability agentId : String} {t : TaskDomain}
    (hop : c.op = .claimNext s capability agentId)
    (h : (TaskBus.step bus c).1 = .ok (.optional (some t))) :
    ∃ u, bus.tasks.get? t.key = some u ∧ u.status = .pending ∧
      (TaskBus.step bus c).2.tasks.get? t.key = some t ∧ t.status = .running ∧
      t.sessionId = s := by
  obtain ⟨op, env⟩ := c
  obtain rfl : op = _ := hop
  simp only [TaskBus.step, TaskBus.claimNext, claimNext] at h ⊢
  by_cases hcap : isBlank capability = true
  · simp only [hcap, if_true] at h
    cases h
  · by_cases hag : isBlank agentId = true
    · simp only [hcap, hag, if_true] at h
      cases h
    · simp only [hcap, hag] at h ⊢
      cases hh : (sortOn TaskDomain.sessionOrder
          (bus.tasks.values.filter (bus.claimable s capability))).head? with
      | none => simp only [hh] at h; cases h
      | some u =>
        simp only [hh] at h ⊢
        cases h
        obtain ⟨hg, hp, _⟩ := head?_claimable hb hh
        have hk : (u.claimed agentId env).key = (s, u.taskId) :=
          (u.sameTask_claimed agentId env).key.trans (hb _ u hg)
        rw [hk]
        exact ⟨u, hg, hp, Dict.get?_set_self _ _ _, rfl, congrArg Prod.fst hk⟩

theorem Changed.key_eq (hb : bus.Keyed) {t' : TaskDomain} {r : Except BusError Reply}
    (h : Changed bus c k t' r) : t'.key = k := by
  cases h with
  | published _ _ hk => exact hk
  | claimed t _ agentId _ _ hg _ _ he => rw [he, (t.sameTask_claimed agentId c.env).key, hb k t hg]
  | moved t tr _ _ hg he => rw [(Transition.sameTask_updated he).key, hb k t hg]
  | recovered t now _ _ hg _ _ he => rw [he, (t.sameTask_recovered now).key, hb k t hg]

theorem Changed.session_eq {t' : TaskDomain} {r : Except BusError Reply}
    (h : Changed bus c k t' r) : c.op.session = k.1 := by
  cases h with
  | published _ hop hk => rw [hop, ← hk]; rfl
  | claimed _ _ _ hop => rw [hop]; rfl
  | moved _ _ hop => rw [hop]; rfl
  | recovered _ _ _ hop => rw [hop]; rfl

theorem get_step_of_ne (hb : bus.Keyed) {s : String} (h : c.op.session ≠ s) (i : String) :
    (TaskBus.step bus c).2.get s i = bus.get s i := by
  rcases changed_cases hb c (s, i) with hsame | ⟨_, _, hch⟩
  · exact hsame
  · exact absurd hch.session_eq h

theorem keyed_step (hb : bus.Keyed) (c : BusCall) : (TaskBus.step bus c).2.Keyed := by
  intro k t' h
  rcases changed_cases hb c k with hsame | ⟨u, hu, hch⟩
  · exact hb k t' (hsame ▸ h)
  · rw [h] at hu
    obtain rfl := Option.some.inj hu
    exact hch.key_eq hb

theorem keyed_empty : empty.Keyed := by
  intro k t h
  cases h

theorem keyed_run (hb : bus.Keyed) (calls : List BusCall) : (TaskBus.run bus calls).Keyed :=
  final_invariant (I := Keyed) (A := fun _ => True) (fun _ c h _ => keyed_step h c) calls bus hb
    (fun _ _ => trivial)

theorem stays_step (hb : bus.Keyed) (c : BusCall) (h : (bus.tasks.get? k).isSome = true) :
    ((TaskBus.step bus c).2.tasks.get? k).isSome = true := by
  rcases changed_cases hb c k with hsame | ⟨t', ht', _⟩
  · rw [hsame]; exact h
  · rw [ht']; rfl

theorem done_step (hb : bus.Keyed) (c : BusCall) {t : TaskDomain} (h : bus.tasks.get? k = some t)
    (hd : t.status = .done) : (TaskBus.step bus c).2.tasks.get? k = some t := by
  rcases changed_cases hb c k with hsame | ⟨t', _, hch⟩
  · exact hsame.trans h
  · exfalso
    generalize (TaskBus.step bus c).1 = reply at hch
    cases hch with
    | published _ _ _ absent => rw [h] at absent; cases absent
    | claimed u _ _ _ _ hg hp =>
      obtain rfl : t = u := Option.some.inj (h.symm.trans hg)
      rw [hd] at hp
      cases hp
    | recovered u _ _ _ hg hr =>
      obtain rfl : t = u := Option.some.inj (h.symm.trans hg)
      rw [hd] at hr
      cases hr
    | moved u tr _ _ hg he =>
      obtain rfl : t = u := Option.some.inj (h.symm.trans hg)
      have hmove := Transition.statusMove_updated he
      rw [hd] at hmove
      generalize t'.status = s' at hmove
      cases hmove with
      | fail _ hne => exact hne rfl
      | reopen _ hor => rcases hor with h | h <;> cases h

theorem get_run_of_ne (hb : bus.Keyed) {s : String} (calls : List BusCall)
    (h : ∀ c ∈ calls, c.op.session ≠ s) (i : String) :
    (TaskBus.run bus calls).get s i = bus.get s i := by
  have hinv : (TaskBus.run bus calls).Keyed ∧ (TaskBus.run bus calls).get s i = bus.get s i :=
    final_invariant (A := fun c : BusCall => c.op.session ≠ s)
      (I := fun b : InMemoryTaskBus => b.Keyed ∧ b.get s i = bus.get s i)
      (fun _ c hb' hc => ⟨keyed_step hb'.1 c, (get_step_of_ne hb'.1 hc i).trans hb'.2⟩)
      calls bus ⟨hb, rfl⟩ h
  exact hinv.2

/-- What holds of the stored tasks and of every task that a call puts in holds
of the stored tasks after the call. -/
theorem stored_step {P : TaskDomain → Prop} (hb : bus.Keyed)
    (hp : ∀ k t, bus.tasks.get? k = some t → P t)
    (hch : ∀ k t' r, Changed bus c k t' r → P t') :
    ∀ k t, (TaskBus.step bus c).2.tasks.get? k = some t → P t := by
  intro k t ht
  rcases changed_cases hb c k with hsame | ⟨u, hu, hchanged⟩
  · exact hp k t (hsame ▸ ht)
  · rw [ht] at hu
    obtain rfl := Option.some.inj hu
    exact hch k t _ hchanged

/-- **The invariant rule of the bus.**  A property of a task that published
tasks have and that every change of a stored task keeps holds of every stored
task after every run. -/
theorem stored_invariant {P : TaskDomain → Prop} {A : BusCall → Prop}
    (hstep : ∀ bus c k t' r, bus.Keyed → (∀ k t, bus.tasks.get? k = some t → P t) → A c →
      Changed bus c k t' r → P t')
    (calls : List BusCall) (hok : ∀ c ∈ calls, A c) {t : TaskDomain}
    (h : (TaskBus.run empty calls).tasks.get? k = some t) : P t := by
  have hinv : (TaskBus.run empty calls).Keyed ∧
      ∀ k t, (TaskBus.run empty calls).tasks.get? k = some t → P t := by
    refine final_invariant (I := fun b : InMemoryTaskBus =>
      b.Keyed ∧ ∀ k t, b.tasks.get? k = some t → P t) ?_ calls empty
      ⟨keyed_empty, fun k t h => by cases h⟩ hok
    intro bus c ⟨hb, hp⟩ hc
    exact ⟨keyed_step hb c, stored_step hb hp (fun k t' r => hstep bus c k t' r hb hp hc)⟩
  exact hinv.2 k t h

end InMemoryTaskBus

end Taskweavn
