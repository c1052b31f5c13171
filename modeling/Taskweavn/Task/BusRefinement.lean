import Taskweavn.Task.BusValidity
import Taskweavn.Task.SqliteBus

/-!
# The SQLite bus refines the in-memory bus

`Refines m s`: the table of `s` holds the rows of the tasks of `m`, in the same
order.  `step_refines` is the simulation, one call at a time.  Either the
database cannot do the call at all (`Broken`: a row that it has to read is not a
valid task any more, or an order index does not fit in an integer column), and
then the call raises and writes nothing, or the two buses do the same, and what
the database returns is the in-memory answer after a trip through JSON.

For runs, `replies_sqlite_eq_inMemory`: when no call is broken and no published
metadata is changed by JSON, the two buses give equal answers to every call.
-/

namespace Taskweavn

open Lib Py

/-- The answer after a trip through JSON. -/
def Reply.jsonNormal : Reply → Reply
  | .task t => .task t.jsonNormal
  | .optional o => .optional (o.map TaskDomain.jsonNormal)
  | .tasks l => .tasks (l.map TaskDomain.jsonNormal)

/-- The answer of the database: the other's, or the other's after a trip through
JSON.  A published task is returned as it came. -/
def Agrees (out out' : Except BusError Reply) : Prop :=
  out = out' ∨ out = out'.map Reply.jsonNormal

namespace InMemoryTaskBus

/-- The index lists the children of a task in the order of publication. -/
def Indexed (bus : InMemoryTaskBus) : Prop :=
  ∀ s p, (bus.children.get? (s, p)).getD [] =
    (bus.tasks.values.filter (fun t => t.sessionId == s && t.parentId == p)).map
      TaskDomain.taskId

theorem indexed_set {bus : InMemoryTaskBus} {k : String × String} {t t' : TaskDomain}
    (hi : bus.Indexed) (hg : bus.tasks.get? k = some t) (h : t.SameTask t') :
    ({ bus with tasks := bus.tasks.set k t' } : InMemoryTaskBus).Indexed := by
  intro s p
  have hproj : ∀ l : List TaskDomain,
      (l.filter (fun t => t.sessionId == s && t.parentId == p)).map TaskDomain.taskId =
        ((l.map (fun t => (t.sessionId, t.parentId, t.taskId))).filter
          (fun e => e.1 == s && e.2.1 == p)).map (fun e => e.2.2) := by
    intro l
    rw [List.filter_map, List.map_map]
    rfl
  have hsame : (bus.tasks.set k t').values.map (fun t => (t.sessionId, t.parentId, t.taskId)) =
      bus.tasks.values.map (fun t => (t.sessionId, t.parentId, t.taskId)) := by
    refine Dict.map_values_set hg ?_
    rw [h.sessionId, h.parentId, h.taskId]
  rw [hproj, hsame, ← hproj]
  exact hi s p

theorem indexed_publish {bus : InMemoryTaskBus} {t : TaskDomain} (hi : bus.Indexed)
    (hn : bus.tasks.get? t.key = none) :
    ({ tasks := bus.tasks.set t.key t
       children := bus.children.set (t.sessionId, t.parentId)
        ((bus.children.get? (t.sessionId, t.parentId)).getD [] ++ [t.taskId]) } :
      InMemoryTaskBus).Indexed := by
  intro s p
  rw [Dict.values_set_of_none hn, List.filter_append, List.map_append, Dict.get?_set]
  by_cases hk : (t.sessionId, t.parentId) = (s, p)
  · obtain ⟨rfl, rfl⟩ := Prod.mk.inj hk
    simp [hi t.sessionId t.parentId]
  · have hf : (t.sessionId == s && t.parentId == p) = false := by
      by_cases hs : t.sessionId = s
      · by_cases hp : t.parentId = p
        · exact absurd (by rw [hs, hp]) hk
        · simp [hp]
      · simp [hs]
    simp [hk, hf, hi s p]

theorem listChildren_eq {bus : InMemoryTaskBus} (hb : bus.Keyed) (hi : bus.Indexed) (s : String)
    (p : Option String) :
    bus.listChildren s p = sortOn TaskDomain.childOrder
      (bus.tasks.values.filter (fun t => t.sessionId == s && t.parentId == p)) := by
  unfold listChildren
  rw [hi s p]
  congr 1
  have hl : ∀ l : List TaskDomain, (∀ t ∈ l, t ∈ bus.tasks.values ∧ t.sessionId = s) →
      (l.map TaskDomain.taskId).filterMap (bus.get s) = l := by
    intro l
    induction l with
    | nil => intro _; rfl
    | cons t rest ih =>
      intro h
      obtain ⟨hm, hs⟩ := h t List.mem_cons_self
      have hg : bus.get s t.taskId = some t := by
        rw [← hs]
        exact get?_of_mem_values hb hm
      rw [List.map_cons, List.filterMap_cons_some hg,
        ih (fun u hu => h u (List.mem_cons_of_mem _ hu))]
  refine hl _ ?_
  intro t ht
  rw [List.mem_filter, Bool.and_eq_true, beq_iff_eq] at ht
  exact ⟨ht.1, ht.2.1⟩

end InMemoryTaskBus

/-- The table holds the rows of the tasks. -/
structure Refines (m : InMemoryTaskBus) (s : SqliteTaskBus) : Prop where
  rows : s.rows = m.tasks.map TaskRow.ofTask
  keyed : m.Keyed
  indexed : m.Indexed

/-- Why the database cannot do a call that the in-memory bus can do. -/
inductive Broken (m : InMemoryTaskBus) (c : BusCall) : BusError → Prop
  | row (k : String × String) (t : TaskDomain) (e : ValidationError)
      (present : m.tasks.get? k = some t) (invalid : ¬t.Valid) : Broken m c (.validation e)
  | index (t : TaskDomain) (valid : t.Valid) (hop : c.op = .publish t valid)
      (large : 2 ^ 63 ≤ t.orderIndex) : Broken m c .overflow

namespace Refines

variable {m : InMemoryTaskBus} {s : SqliteTaskBus}

theorem empty : Refines InMemoryTaskBus.empty SqliteTaskBus.empty :=
  ⟨rfl, InMemoryTaskBus.keyed_empty, fun _ _ => rfl⟩

theorem get_cases (h : Refines m s) (a b : String) :
    s.get a b = .ok ((m.get a b).map TaskDomain.jsonNormal) ∨
    ∃ t e, m.tasks.get? (a, b) = some t ∧ ¬t.Valid ∧ s.get a b = .error (.validation e) := by
  unfold SqliteTaskBus.get InMemoryTaskBus.get
  rw [h.rows, Dict.get?_map]
  cases hg : m.tasks.get? (a, b) with
  | none => exact .inl rfl
  | some t =>
    rcases taskFromRow_ofTask t with ⟨_, ht⟩ | ⟨hv, e, ht⟩
    · exact .inl (by simp only [Option.map, ht, Except.map])
    · exact .inr ⟨t, e, rfl, hv, by simp only [Option.map, ht, Except.map]⟩

theorem save (h : Refines m s) {k : String × String} {t t' : TaskDomain}
    (hg : m.tasks.get? k = some t) (hs : t.SameTask t') :
    Refines { m with tasks := m.tasks.set k t' } (s.saveTask t'.jsonNormal) := by
  have hk : t'.key = k := by rw [hs.key]; exact h.keyed k t hg
  have hkey : t'.jsonNormal.key = k := hk
  refine ⟨?_, ?_, InMemoryTaskBus.indexed_set h.indexed hg hs⟩
  · have hrow : s.rows.get? k = some (.ofTask t) := by rw [h.rows, Dict.get?_map, hg]; rfl
    simp only [SqliteTaskBus.saveTask, hkey, hrow]
    rw [Dict.map_set, ← h.rows, ← TaskRow.ofTask_sameTask hs, t'.modelDumpJson_jsonNormal]
    rfl
  · intro k' u hu
    rw [Dict.get?_set] at hu
    split at hu
    · next hkk => rw [← Option.some.inj hu, ← hkk, hk]
    · exact h.keyed k' u hu

theorem insert (h : Refines m s) {t : TaskDomain} (hn : m.tasks.get? t.key = none) :
    Refines
      { tasks := m.tasks.set t.key t
        children := m.children.set (t.sessionId, t.parentId)
          ((m.children.get? (t.sessionId, t.parentId)).getD [] ++ [t.taskId]) }
      { rows := s.rows.set t.key (.ofTask t) } := by
  refine ⟨?_, ?_, InMemoryTaskBus.indexed_publish h.indexed hn⟩
  · rw [Dict.map_set, ← h.rows]
  · intro k u hu
    rw [Dict.get?_set] at hu
    split at hu
    · next hk => rw [← Option.some.inj hu, hk]
    · exact h.keyed k u hu

theorem publishCheck_cases (h : Refines m s) (task : TaskDomain) :
    publishCheck s.get task = publishCheck (fun a b => .ok (m.get a b)) task ∨
    ∃ k t e, m.tasks.get? k = some t ∧ ¬t.Valid ∧
      publishCheck s.get task = .error (.validation e) := by
  unfold publishCheck
  by_cases hst : task.status = .pending
  · rcases h.get_cases task.sessionId task.taskId with hg | ⟨t, e, ht, hv, hg⟩
    · cases hm : m.get task.sessionId task.taskId with
      | some t =>
        left
        simp [hst, hg, hm, bind, Except.bind, throw, throwThe, MonadExceptOf.throw]
      | none =>
        cases hp : task.parentId with
        | none => left; simp [hst, hg, hm, bind, Except.bind]
        | some p =>
          rcases h.get_cases task.sessionId p with hgp | ⟨t, e, ht, hv, hgp⟩
          · left
            cases hmp : m.get task.sessionId p <;>
              simp [hst, hg, hm, hgp, hmp, bind, Except.bind, TaskDomain.jsonNormal]
          · right
            refine ⟨_, t, e, ht, hv, ?_⟩
            simp [hst, hg, hm, hgp, bind, Except.bind]
    · right
      refine ⟨_, t, e, ht, hv, ?_⟩
      simp [hst, hg, bind, Except.bind]
  · left
    simp [hst, bind, Except.bind, throw, throwThe, MonadExceptOf.throw]

theorem sorted_rows (h : Refines m s) {κ κ' : Type} [LinearOrder κ] [LinearOrder κ']
    {key : TaskDomain → κ} {key' : TaskRow → κ'}
    (hkey : ∀ a b, key a ≤ key b ↔ key' (.ofTask a) ≤ key' (.ofTask b)) (p : TaskRow → Bool) :
    sortOn key' (s.rows.values.filter p) =
      (sortOn key (m.tasks.values.filter (fun t => p (.ofTask t)))).map TaskRow.ofTask := by
  rw [h.rows, Dict.values_map, List.filter_map, map_sortOn (fun a _ b _ => hkey a b)]
  rfl

theorem mapM_sorted (h : Refines m s) {κ κ' : Type} [LinearOrder κ] [LinearOrder κ']
    {key : TaskDomain → κ} {key' : TaskRow → κ'}
    (hkey : ∀ a b, key a ≤ key b ↔ key' (.ofTask a) ≤ key' (.ofTask b)) (p : TaskRow → Bool) :
    ((∀ t ∈ m.tasks.values, p (.ofTask t) = true → t.Valid) ∧
      (sortOn key' (s.rows.values.filter p)).mapM taskFromRow =
        .ok ((sortOn key (m.tasks.values.filter (fun t => p (.ofTask t)))).map
          TaskDomain.jsonNormal)) ∨
      ∃ k t e, m.tasks.get? k = some t ∧ ¬t.Valid ∧
        (sortOn key' (s.rows.values.filter p)).mapM taskFromRow = .error (.validation e) := by
  rw [h.sorted_rows hkey]
  rcases mapM_taskFromRow (sortOn key (m.tasks.values.filter (fun t => p (.ofTask t)))) with
    ⟨hall, hok⟩ | ⟨⟨t, ht, hv⟩, e, herr⟩
  · refine .inl ⟨?_, hok⟩
    intro t ht hp
    exact hall t (mem_sortOn.mpr (List.mem_filter.mpr ⟨ht, hp⟩))
  · rw [mem_sortOn, List.mem_filter] at ht
    exact .inr ⟨t.key, t, e, InMemoryTaskBus.get?_of_mem_values h.keyed ht.1, hv, herr⟩

theorem listForSession_cases (h : Refines m s) (a : String) :
    ((∀ t ∈ m.tasks.values, t.sessionId = a → t.Valid) ∧
      s.listForSession a = .ok ((m.listForSession a).map TaskDomain.jsonNormal)) ∨
    ∃ k t e, m.tasks.get? k = some t ∧ ¬t.Valid ∧ s.listForSession a = .error (.validation e) := by
  rcases h.mapM_sorted (fun _ _ => TaskRow.sessionOrder_le) (fun r => r.sessionId == a) with
    ⟨hv, hok⟩ | herr
  · exact .inl ⟨fun t ht ha => hv t ht (beq_iff_eq.mpr ha), hok⟩
  · exact .inr herr

theorem listChildren_cases (h : Refines m s) (a : String) (p : Option String) :
    s.listChildren a p = .ok ((m.listChildren a p).map TaskDomain.jsonNormal) ∨
    ∃ k t e, m.tasks.get? k = some t ∧ ¬t.Valid ∧
      s.listChildren a p = .error (.validation e) := by
  rw [InMemoryTaskBus.listChildren_eq h.keyed h.indexed]
  rcases h.mapM_sorted (fun _ _ => TaskRow.childOrder_le)
    (fun r => r.sessionId == a && r.parentId == p) with ⟨_, hok⟩ | herr
  · exact .inl hok
  · exact .inr herr

/-! ### Claiming -/

theorem claimLoop_map {capability : String} {byId : Dict String TaskDomain}
    {l : List TaskDomain} (hv : ∀ t ∈ l, t.Valid) :
    SqliteTaskBus.claimLoop capability byId (l.map TaskRow.ofTask) =
      .ok ((l.find? (fun t => t.requiredCapability == capability &&
        SqliteTaskBus.parentIsDone byId t.jsonNormal)).map TaskDomain.jsonNormal) := by
  induction l with
  | nil => rfl
  | cons t rest ih =>
    have ih' := ih (fun u hu => hv u (List.mem_cons_of_mem _ hu))
    have ht : taskFromRow (.ofTask t) = .ok t.jsonNormal := by
      rcases taskFromRow_ofTask t with ⟨_, ht⟩ | ⟨hn, _⟩
      · exact ht
      · exact absurd (hv t List.mem_cons_self) hn
    have hc : t.jsonNormal.requiredCapability = t.requiredCapability := rfl
    simp only [List.map_cons, SqliteTaskBus.claimLoop, ht, bind, Except.bind, hc]
    by_cases hcap : t.requiredCapability = capability
    · cases hd : SqliteTaskBus.parentIsDone byId t.jsonNormal with
      | true => simp [hcap, hd]
      | false => simp [hcap, hd, ih']
    · simp [hcap, ih']

/-- The row that the database claims is the row of the task that the in-memory
bus claims. -/
theorem claimLoop_eq (h : Refines m s) (a capability : String)
    (hv : ∀ t ∈ m.tasks.values, t.sessionId = a → t.Valid) :
    SqliteTaskBus.claimLoop capability
        (Dict.ofList (((m.listForSession a).map TaskDomain.jsonNormal).map
          (fun t => (t.taskId, t))))
        (sortOn TaskRow.sessionOrder (s.rows.values.filter (s.pendingRow a))) =
      .ok ((sortOn TaskDomain.sessionOrder
        (m.tasks.values.filter (m.claimable a capability))).head?.map
          TaskDomain.jsonNormal) := by
  rw [h.sorted_rows (fun _ _ => TaskRow.sessionOrder_le), claimLoop_map, ← head?_sortOn_filter,
    List.filter_filter]
  · congr 4
    refine List.filter_congr ?_
    intro t ht
    simp only [InMemoryTaskBus.claimable, SqliteTaskBus.pendingRow, TaskRow.ofTask]
    by_cases ha : t.sessionId = a
    · have hst : (t.status.toText == TaskStatus.pending.toText) = (t.status == .pending) := by
        rw [Bool.eq_iff_iff, beq_iff_eq, beq_iff_eq]
        exact ⟨fun he => TaskStatus.toText_injective he, fun he => he ▸ rfl⟩
      have hjp : t.jsonNormal.parentId = t.parentId := rfl
      cases hp : t.parentId with
      | none =>
        simp [ha, hst, hp, hjp, SqliteTaskBus.parentIsDone, InMemoryTaskBus.parentIsDone,
          Bool.and_comm]
      | some p =>
        have hbyId := InMemoryTaskBus.get?_taskById h.keyed (f := TaskDomain.jsonNormal)
          (fun _ => rfl) a p
        simp only [SqliteTaskBus.parentIsDone, InMemoryTaskBus.parentIsDone, hjp, hp, hbyId, hst,
          ha, h.rows, Dict.get?_map]
        cases hg : m.get a p with
        | none => simp
        | some parent =>
          have hg' : m.tasks.get? (a, p) = some parent := hg
          have hps : parent.jsonNormal.status = parent.status := rfl
          simp [hg', hps, Bool.and_left_comm, Bool.and_comm]
    · have hb : (t.sessionId == a) = false := beq_eq_false_iff_ne.mpr ha
      simp only [hb, Bool.false_and, Bool.and_false]
  · intro t ht
    rw [mem_sortOn, List.mem_filter] at ht
    simp only [SqliteTaskBus.pendingRow, TaskRow.ofTask, Bool.and_eq_true, beq_iff_eq] at ht
    exact hv t ht.1 ht.2.1.1

/-! ### Recovery -/

theorem recoveredTasks_jsonNormal (env : CallEnv) :
    ∀ (l : List TaskDomain) (i : ℕ),
      recoveredTasks env i (l.map TaskDomain.jsonNormal) =
        (recoveredTasks env i l).map TaskDomain.jsonNormal := by
  intro l
  induction l with
  | nil => intro i; rfl
  | cons t rest ih =>
    intro i
    have hs : t.jsonNormal.status = t.status := rfl
    have hr : t.jsonNormal.interruptRequested = t.interruptRequested := rfl
    rw [List.map_cons, recoveredTasks, recoveredTasks, hs, hr]
    by_cases hc : t.status ≠ .running ∨ t.interruptRequested = false
    · rw [if_pos hc, if_pos hc, ih]
    · rw [if_neg hc, if_neg hc, ih, List.map_cons]
      rfl

theorem save_all {a : String} :
    ∀ (l : List TaskDomain) (m : InMemoryTaskBus) (s : SqliteTaskBus), Refines m s →
      (∀ u ∈ l, u.sessionId = a ∧ ∃ t, m.tasks.get? u.key = some t ∧ t.SameTask u) →
      Refines (l.foldl (fun b t => b.store a t) m)
        ((l.map TaskDomain.jsonNormal).foldl SqliteTaskBus.saveTask s) := by
  intro l
  induction l with
  | nil => intro m s h _; exact h
  | cons u rest ih =>
    intro m s h hl
    obtain ⟨ha, t, hg, hs⟩ := hl u List.mem_cons_self
    have hkey : u.key = (a, u.taskId) := by rw [TaskDomain.key, ha]
    have hstep : Refines (m.store a u) (s.saveTask u.jsonNormal) := by
      rw [InMemoryTaskBus.store, ← hkey]
      exact h.save hg hs
    refine ih _ _ hstep ?_
    intro v hv
    obtain ⟨hva, t', hg', hs'⟩ := hl v (List.mem_cons_of_mem _ hv)
    refine ⟨hva, ?_⟩
    have hget : (m.store a u).tasks.get? v.key =
        if u.key = v.key then some u else m.tasks.get? v.key := by
      rw [hkey]
      exact Dict.get?_set _ _ _ _
    rw [hget]
    by_cases hk : u.key = v.key
    · rw [hk, hg'] at hg
      obtain rfl := Option.some.inj hg
      exact ⟨u, if_pos hk, hs.symm.trans hs'⟩
    · exact ⟨t', by rw [if_neg hk, hg'], hs'⟩

/-! ### The simulation -/

/-- **One call.**  Either the call is broken and the database raises and writes
nothing, or both buses do the same. -/
theorem step_refines (h : Refines m s) (c : BusCall) :
    (∃ e, Broken m c e ∧ TaskBus.step s c = (.error e, s)) ∨
    (Agrees (TaskBus.step s c).1 (TaskBus.step m c).1 ∧
      Refines (TaskBus.step m c).2 (TaskBus.step s c).2) := by
  obtain ⟨op, env⟩ := c
  cases op with
  | publish task valid =>
    simp only [TaskBus.step, TaskBus.publish, SqliteTaskBus.publish, InMemoryTaskBus.publish]
    rcases h.publishCheck_cases task with heq | ⟨k, t, e, hg, hv, herr⟩
    · rw [heq]
      cases hc : publishCheck (fun a b => .ok (m.get a b)) task with
      | error e => exact .inr ⟨.inr rfl, h⟩
      | ok _ =>
        obtain ⟨_, hn, _⟩ := publishCheck_eq_ok hc
        by_cases hlarge : 2 ^ 63 ≤ task.orderIndex
        · simp only [hlarge, if_true]
          exact .inl ⟨.overflow, .index task valid rfl hlarge, rfl⟩
        · simp only [hlarge, if_false]
          exact .inr ⟨.inl rfl, h.insert hn⟩
    · rw [herr]
      exact .inl ⟨_, .row k t e hg hv, rfl⟩
  | claimNext a capability agentId =>
    simp only [TaskBus.step, TaskBus.claimNext, SqliteTaskBus.claimNext,
      InMemoryTaskBus.claimNext]
    by_cases hcap : isBlank capability = true
    · simp only [hcap, if_true]
      exact .inr ⟨.inr rfl, h⟩
    · by_cases hag : isBlank agentId = true
      · simp only [hcap, hag, if_true]
        exact .inr ⟨.inr rfl, h⟩
      · simp only [hcap, hag]
        rcases h.listForSession_cases a with ⟨hv, hl⟩ | ⟨k, t, e, hg, hv, herr⟩
        · simp only [hl, h.claimLoop_eq a capability hv]
          cases hh : (sortOn TaskDomain.sessionOrder
              (m.tasks.values.filter (m.claimable a capability))).head? with
          | none => exact .inr ⟨.inr rfl, h⟩
          | some t =>
            obtain ⟨hg, _, _⟩ := InMemoryTaskBus.head?_claimable h.keyed hh
            exact .inr ⟨.inr rfl, h.save hg (t.sameTask_claimed agentId env)⟩
        · simp only [herr]
          exact .inl ⟨_, .row k t e hg hv, rfl⟩
  | transition a i tr =>
    simp only [TaskBus.step, TaskBus.transition, SqliteTaskBus.transition,
      InMemoryTaskBus.transition]
    cases ha : tr.checkArgs with
    | error e => exact .inr ⟨.inr rfl, h⟩
    | ok _ =>
      simp only [Except.bind, SqliteTaskBus.requireTask, InMemoryTaskBus.requireTask]
      rcases h.get_cases a i with hget | ⟨t, e, hg, hv, herr⟩
      · rw [hget]
        cases hg : m.get a i with
        | none => exact .inr ⟨.inr rfl, h⟩
        | some t =>
          simp only [Option.map, Transition.updated_jsonNormal]
          cases hu : tr.updated env t with
          | error e => exact .inr ⟨.inr rfl, h⟩
          | ok t' => exact .inr ⟨.inr rfl, h.save hg (Transition.sameTask_updated hu)⟩
      · rw [herr]
        exact .inl ⟨_, .row _ t e hg hv, rfl⟩
  | recoverInterruptedRunningTasks a =>
    simp only [TaskBus.step, TaskBus.recoverInterruptedRunningTasks,
      SqliteTaskBus.recoverInterruptedRunningTasks,
      InMemoryTaskBus.recoverInterruptedRunningTasks]
    rcases h.listForSession_cases a with ⟨_, hl⟩ | ⟨k, t, e, hg, hv, herr⟩
    · rw [hl]
      refine .inr ⟨.inr ?_, ?_⟩
      · simp only [recoveredTasks_jsonNormal]
        rfl
      · simp only [recoveredTasks_jsonNormal]
        refine save_all _ m s h ?_
        intro u hu
        obtain ⟨t, ht, _, _, now, rfl⟩ := mem_recoveredTasks _ _ hu
        obtain ⟨hv, hsession⟩ := InMemoryTaskBus.mem_listForSession.mp ht
        exact ⟨hsession, t, InMemoryTaskBus.get?_of_mem_values h.keyed hv,
          t.sameTask_recovered now⟩
    · rw [herr]
      exact .inl ⟨_, .row k t e hg hv, rfl⟩
  | get a i =>
    simp only [TaskBus.step, TaskBus.get]
    rcases h.get_cases a i with hget | ⟨t, e, hg, hv, herr⟩
    · rw [hget]
      exact .inr ⟨.inr rfl, h⟩
    · rw [herr]
      exact .inl ⟨_, .row _ t e hg hv, rfl⟩
  | listForSession a =>
    simp only [TaskBus.step, TaskBus.listForSession]
    rcases h.listForSession_cases a with ⟨_, hl⟩ | ⟨k, t, e, hg, hv, herr⟩
    · rw [hl]
      exact .inr ⟨.inr rfl, h⟩
    · rw [herr]
      exact .inl ⟨_, .row k t e hg hv, rfl⟩
  | listChildren a p =>
    simp only [TaskBus.step, TaskBus.listChildren]
    rcases h.listChildren_cases a p with hl | ⟨k, t, e, hg, hv, herr⟩
    · rw [hl]
      exact .inr ⟨.inr rfl, h⟩
    · rw [herr]
      exact .inl ⟨_, .row k t e hg hv, rfl⟩

end Refines

/-! ### Equal answers -/

def Reply.all : Reply → List TaskDomain
  | .task t => [t]
  | .optional o => o.toList
  | .tasks l => l

theorem Reply.jsonNormal_eq_self {r : Reply} (h : ∀ t ∈ r.all, t.MetadataStable) :
    r.jsonNormal = r := by
  have hl : ∀ l : List TaskDomain, (∀ t ∈ l, t.MetadataStable) →
      l.map TaskDomain.jsonNormal = l := by
    intro l hl
    exact (List.map_congr_left (fun t ht => TaskDomain.jsonNormal_eq_self (hl t ht))).trans
      (List.map_id l)
  cases r with
  | task t => exact congrArg Reply.task (TaskDomain.jsonNormal_eq_self (h t (by simp [all])))
  | optional o =>
    cases o with
    | none => rfl
    | some t =>
      exact congrArg (fun t => Reply.optional (some t))
        (TaskDomain.jsonNormal_eq_self (h t (by simp [all])))
  | tasks l => exact congrArg Reply.tasks (hl l h)

namespace InMemoryTaskBus

variable {bus : InMemoryTaskBus} {c : BusCall}

theorem reply_sameTask (hb : bus.Keyed) (hi : bus.Indexed) {r : Reply}
    (hr : (TaskBus.step bus c).1 = .ok r) {t : TaskDomain} (ht : t ∈ r.all) :
    (∃ valid, c.op = .publish t valid) ∨
      ∃ k u, bus.tasks.get? k = some u ∧ u.SameTask t := by
  have hstored : t ∈ bus.tasks.values → ∃ k u, bus.tasks.get? k = some u ∧ u.SameTask t := by
    intro hm
    obtain ⟨k, hk⟩ := Dict.mem_values.mp hm
    exact ⟨k, t, hk, .refl t⟩
  obtain ⟨op, env⟩ := c
  cases op with
  | publish task valid =>
    simp only [TaskBus.step, TaskBus.publish, publish] at hr
    split at hr
    · cases hr
    · cases hr
      rw [Reply.all, List.mem_singleton] at ht
      exact .inl ⟨ht ▸ valid, by simp only [ht]⟩
  | claimNext s capability agentId =>
    simp only [TaskBus.step, TaskBus.claimNext, claimNext] at hr
    repeat' split at hr
    · cases hr
    · cases hr
    · cases hr
      simp [Reply.all] at ht
    · next u hh =>
      cases hr
      simp only [Reply.all, Option.toList_some, List.mem_singleton] at ht
      obtain ⟨hg, _, _⟩ := head?_claimable hb hh
      exact .inr ⟨_, u, hg, ht ▸ u.sameTask_claimed agentId env⟩
  | transition s i tr =>
    simp only [TaskBus.step, TaskBus.transition, transition] at hr
    split at hr
    · cases hr
    · next u hu =>
      cases hr
      rw [Reply.all, List.mem_singleton] at ht
      cases ha : tr.checkArgs with
      | error e => rw [ha] at hu; cases hu
      | ok _ =>
        rw [ha] at hu
        simp only [Except.bind, requireTask] at hu
        cases hg : bus.get s i with
        | none => simp [hg] at hu
        | some v =>
          simp only [hg] at hu
          exact .inr ⟨(s, i), v, hg, ht ▸ Transition.sameTask_updated hu⟩
  | recoverInterruptedRunningTasks s =>
    cases hr
    obtain ⟨u, hu, _, _, now, rfl⟩ := mem_recoveredTasks _ _ ht
    exact .inr ⟨u.key, u, get?_of_mem_values hb (mem_listForSession.mp hu).1,
      u.sameTask_recovered now⟩
  | get s i =>
    cases hr
    simp only [Reply.all, Option.mem_toList] at ht
    exact .inr ⟨(s, i), t, ht, .refl t⟩
  | listForSession s =>
    cases hr
    exact .inr (hstored (mem_listForSession.mp ht).1)
  | listChildren s p =>
    cases hr
    simp only [Reply.all, listChildren_eq hb hi, mem_sortOn, List.mem_filter] at ht
    exact .inr (hstored ht.1)

theorem raises_store {e : BusError} (h : (TaskBus.step bus c).1 = .error e) :
    ∃ x, e = .store x := by
  obtain ⟨op, env⟩ := c
  cases op with
  | publish task valid =>
    simp only [TaskBus.step, TaskBus.publish, publish] at h
    split at h
    · next e' hc =>
      cases h
      exact publishCheck_error hc
    · cases h
  | claimNext s capability agentId =>
    simp only [TaskBus.step, TaskBus.claimNext, claimNext] at h
    repeat' split at h
    all_goals cases h
    all_goals exact ⟨_, rfl⟩
  | transition s i tr =>
    simp only [TaskBus.step, TaskBus.transition, transition] at h
    split at h
    · next e' he =>
      cases h
      cases ha : tr.checkArgs with
      | error e' =>
        rw [ha] at he
        cases he
        exact tr.checkArgs_error ha
      | ok _ =>
        rw [ha] at he
        simp only [Except.bind, requireTask] at he
        cases hg : bus.get s i with
        | none =>
          simp only [hg] at he
          cases he
          exact ⟨_, rfl⟩
        | some v =>
          simp only [hg] at he
          exact tr.updated_error he
    · cases h
  | recoverInterruptedRunningTasks s => cases h
  | get s i => cases h
  | listForSession s => cases h
  | listChildren s p => cases h

end InMemoryTaskBus

/-- The simulation relation of runs in which the database can read every row and
JSON changes no task. -/
structure RefinesReadable (s : SqliteTaskBus) (m : InMemoryTaskBus) : Prop where
  refines : Refines m s
  valid : ∀ k t, m.tasks.get? k = some t → t.Valid
  stable : ∀ k t, m.tasks.get? k = some t → t.MetadataStable

theorem RefinesReadable.empty : RefinesReadable SqliteTaskBus.empty InMemoryTaskBus.empty := by
  refine ⟨.empty, ?_, ?_⟩ <;> intro k t h <;> cases h

theorem RefinesReadable.step_cases {s : SqliteTaskBus} {m : InMemoryTaskBus} {c : BusCall}
    (h : RefinesReadable s m) (hres : c.ResultRefOk) (hmeta : c.MetadataStable) :
    (¬c.OrderIndexFits ∧ TaskBus.step s c = (.error .overflow, s)) ∨
    ((TaskBus.step s c).1 = (TaskBus.step m c).1 ∧
      RefinesReadable (TaskBus.step s c).2 (TaskBus.step m c).2) := by
  have hb := h.refines.keyed
  rcases h.refines.step_refines c with ⟨e, hbroken, heq⟩ | ⟨hagree, hnext⟩
  · cases hbroken with
    | row k t _ hg hv => exact absurd (h.valid k t hg) hv
    | index t valid hop hlarge =>
      exact .inl ⟨fun hidx => absurd (hidx t valid hop) (by omega), heq⟩
  · refine .inr ⟨?_, hnext, ?_, ?_⟩
    · have hstable : (TaskBus.step m c).1.map Reply.jsonNormal = (TaskBus.step m c).1 := by
        cases hr : (TaskBus.step m c).1 with
        | error e => rfl
        | ok r =>
          refine congrArg Except.ok (Reply.jsonNormal_eq_self ?_)
          intro t ht
          rcases InMemoryTaskBus.reply_sameTask hb h.refines.indexed hr ht with
            ⟨valid, hop⟩ | ⟨k, u, hg, hsame⟩
          · exact hmeta t valid hop
          · exact hsame.metadataStable (h.stable k u hg)
      rcases hagree with heq | heq
      · exact heq
      · rw [heq, hstable]
    · exact InMemoryTaskBus.stored_step hb h.valid (fun _ _ _ hch => hch.valid hres h.valid)
    · exact InMemoryTaskBus.stored_step hb h.stable
        (fun _ _ _ hch => hch.metadataStable hmeta h.stable)

/-- **The two buses answer every run alike**, when the result references are not
empty, the published metadata is not changed by JSON and the order indices fit
in the integer column.  An error is a `TaskStoreError` on both sides. -/
theorem replies_sqlite_eq_inMemory (calls : List BusCall)
    (hres : ∀ c ∈ calls, c.ResultRefOk) (hmeta : ∀ c ∈ calls, c.MetadataStable)
    (hidx : ∀ c ∈ calls, c.OrderIndexFits) :
    TaskBus.replies SqliteTaskBus.empty calls = TaskBus.replies InMemoryTaskBus.empty calls ∧
      ∀ e, .error e ∈ TaskBus.replies InMemoryTaskBus.empty calls → ∃ x, e = .store x := by
  constructor
  · refine (simulation (R := RefinesReadable)
      (A := fun c => c.ResultRefOk ∧ c.MetadataStable ∧ c.OrderIndexFits) ?_ calls _ _
      .empty (fun c hc => ⟨hres c hc, hmeta c hc, hidx c hc⟩)).1
    intro s m c h ⟨hr, hm, hi⟩
    rcases h.step_cases hr hm with ⟨hbad, _⟩ | hgood
    · exact absurd hi hbad
    · exact hgood
  · intro e he
    obtain ⟨bus, c, hstep⟩ := mem_outputs _ _ he
    exact InMemoryTaskBus.raises_store hstep.symm

/-- A task is published, claimed and read. -/
def claimedRun : List BusCall :=
  [⟨.publish (.sample "s" "a") TaskDomain.valid_sample, .sample⟩,
   ⟨.claimNext "s" "general" "agent", .sample⟩,
   ⟨.listForSession "s", .sample⟩]

theorem replies_sqlite_eq_inMemory_claimedRun :
    TaskBus.replies SqliteTaskBus.empty claimedRun =
      TaskBus.replies InMemoryTaskBus.empty claimedRun := by
  refine (replies_sqlite_eq_inMemory claimedRun ?_ ?_ ?_).1 <;> intro c hc <;>
    simp only [claimedRun, List.mem_cons, List.not_mem_nil, or_false] at hc <;>
    rcases hc with rfl | rfl | rfl
  · intro s i h; cases h
  · intro s i h; cases h
  · intro s i h; cases h
  · intro t valid h; cases h; intro d hd; cases hd
  · intro t valid h; cases h
  · intro t valid h; cases h
  · intro t valid h; cases h; decide
  · intro t valid h; cases h
  · intro t valid h; cases h

/-- A task whose dispatch metadata holds a tuple, as the plan publisher writes
the dependencies of a node. -/
def tupleTask : TaskDomain :=
  { TaskDomain.sample "s" "a" with
    dispatchConstraints := some
      { metadata := ⟨[("depends_on", .tuple [.str "node-1"])], by decide⟩ } }

def tupleRun : List BusCall :=
  [⟨.publish tupleTask (by decide), .sample⟩, ⟨.get "s" "a", .sample⟩]

/-- The metadata entries that an answer shows under a name. -/
def Reply.metadata (name : String) (r : Reply) : List PyValue :=
  r.all.filterMap (fun t => t.dispatchConstraints.bind (fun d => d.metadata.get? name))

/-- The database returns a list where the in-memory bus returns a tuple. -/
theorem replies_tupleRun_differ :
    (∀ c ∈ tupleRun, c.ResultRefOk) ∧
    (TaskBus.replies InMemoryTaskBus.empty tupleRun).map (Except.map (Reply.metadata "depends_on"))
      = [.ok [.tuple [.str "node-1"]], .ok [.tuple [.str "node-1"]]] ∧
    (TaskBus.replies SqliteTaskBus.empty tupleRun).map (Except.map (Reply.metadata "depends_on"))
      = [.ok [.tuple [.str "node-1"]], .ok [.list [.str "node-1"]]] ∧
    PyValue.pyEq (.tuple [.str "node-1"]) (.list [.str "node-1"]) = false ∧
    TaskBus.replies SqliteTaskBus.empty tupleRun ≠
      TaskBus.replies InMemoryTaskBus.empty tupleRun := by
  refine ⟨?_, by decide, by decide, by decide, by decide⟩
  intro c hc s i h
  simp only [tupleRun, List.mem_cons, List.not_mem_nil, or_false] at hc
  rcases hc with rfl | rfl <;> cases h

end Taskweavn
