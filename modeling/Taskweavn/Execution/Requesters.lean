import Taskweavn.Execution.EmbeddedService
import Taskweavn.Task.SqliteBus

/-!
# Requesters of the execution plane

An idempotency key belongs to its requester, kind and id.  The scoped key joins the two and the
key by colons, and a session of an external requester is named after its id alone, with slashes
and colons replaced.

Requests with different names do not meet: publishing one of them leaves the record, the answer
and the session of the other alone (`leavesAlone_of_ne`), because a bus publishes a root task
under its own place only (`RootPublishing`).

`requesters_separated_iff`: **which requesters are kept apart.**  Two requests of different
requesters have different names, all four of them, and do not meet, unless a colon in one id lets
it go on into the key of the other, or the ids are the same once they are made safe.
-/

namespace Taskweavn.ExecutionPlane

open Lib Py

/-- The stores that a service gets to, over any bus. -/
inductive Served (B : Type) [TaskBus B] (svc : EmbeddedTaskApiService) :
    InMemoryExecutionPlaneStore → Prop
  | fresh : Served B svc {}
  | published {store : InMemoryExecutionPlaneStore} (h : Served B svc store) (bus : B)
      (r : TaskRequest) (readings : CallReadings) :
      Served B svc (svc.publishTask bus store r readings).2.2
  | read {store : InMemoryExecutionPlaneStore} (h : Served B svc store) (bus : B)
      (executionId : String) :
      Served B svc (EmbeddedTaskApiService.getTask bus store executionId).2

/-- Whatever the state of the service and of the bus, publishing `r` changes nothing for `r'`:
the record that is looked up for it, so that it replays or conflicts with what it did before; the
answer that it gets; and the tasks of its session. -/
structure LeavesAlone (B : Type) [TaskBus B] (svc : EmbeddedTaskApiService) (r r' : TaskRequest) :
    Prop where
  record : ∀ store, Served B svc store → ∀ (bus : B) readings,
    (svc.publishTask bus store r readings).2.2.getIdempotency (scopedIdempotencyKey r') =
      store.getIdempotency (scopedIdempotencyKey r')
  answer : ∀ store, Served B svc store → ∀ (bus : B) readings readings',
    (svc.publishTask (svc.publishTask bus store r readings).2.1
      (svc.publishTask bus store r readings).2.2 r' readings').1 =
      (svc.publishTask bus store r' readings').1
  task : ∀ store (bus : B) readings taskId,
    TaskBus.get (svc.publishTask bus store r readings).2.1 (svc.sessionIdForRequest r') taskId =
      TaskBus.get bus (svc.sessionIdForRequest r') taskId
  session : ∀ store (bus : B) readings,
    TaskBus.listForSession (svc.publishTask bus store r readings).2.1
      (svc.sessionIdForRequest r') = TaskBus.listForSession bus (svc.sessionIdForRequest r')

/-- The two requests have no name in common, and do not meet. -/
structure Separated (svc : EmbeddedTaskApiService) (r r' : TaskRequest) : Prop where
  scopedKey : scopedIdempotencyKey r ≠ scopedIdempotencyKey r'
  taskId : svc.taskIdForRequest r ≠ svc.taskIdForRequest r'
  executionId : executionIdForTaskId (svc.taskIdForRequest r) ≠
    executionIdForTaskId (svc.taskIdForRequest r')
  session : svc.sessionIdForRequest r ≠ svc.sessionIdForRequest r'
  inMemory : LeavesAlone InMemoryTaskBus svc r r' ∧ LeavesAlone InMemoryTaskBus svc r' r
  sqlite : LeavesAlone SqliteTaskBus svc r r' ∧ LeavesAlone SqliteTaskBus svc r' r

/-- The id of the second requester is that of the first and a part of the first key. -/
def GoesOn (r r' : TaskRequest) : Prop :=
  ∃ w, r'.requester.id.val = r.requester.id.val ++ ":" ++ w ∧
    r.idempotencyKey.val = w ++ ":" ++ r'.idempotencyKey.val

variable {svc : EmbeddedTaskApiService} {r r' : TaskRequest}

/-! ### Keys and ids -/

theorem taskId_eq_iff :
    svc.taskIdForRequest r = svc.taskIdForRequest r' ↔
      scopedIdempotencyKey r = scopedIdempotencyKey r' := by
  constructor
  · intro h
    exact String.append_right_inj _ |>.mp (svc.uuid5.injective h)
  · intro h
    exact congrArg (fun key => svc.uuid5.hex ("taskweavn.execution_plane.task:" ++ key)) h

theorem executionId_eq_iff {a b : String} :
    executionIdForTaskId a = executionIdForTaskId b ↔ a = b :=
  String.append_right_inj _

theorem scopedIdempotencyKey_eq_iff :
    scopedIdempotencyKey r = scopedIdempotencyKey r' ↔
      r.requester.kind = r'.requester.kind ∧
        r.requester.id.val ++ ":" ++ r.idempotencyKey.val =
          r'.requester.id.val ++ ":" ++ r'.idempotencyKey.val := by
  have hsplit : ∀ q : TaskRequest, scopedIdempotencyKey q = q.requester.kind.toText ++ ":" ++
      (q.requester.id.val ++ ":" ++ q.idempotencyKey.val) := by
    intro q
    simp only [scopedIdempotencyKey, TaskRequester.scopedId, String.append_assoc]
  rw [hsplit, hsplit]
  constructor
  · intro h
    obtain ⟨hkind, hrest⟩ :=
      append_colon_inj r.requester.kind.colon_notMem r'.requester.kind.colon_notMem h
    exact ⟨TaskRequesterKind.toText_injective hkind, hrest⟩
  · rintro ⟨hkind, hrest⟩
    rw [hkind, hrest]

theorem scopedIdempotencyKey_eq_iff_of_ne (hid : r.requester.id.val ≠ r'.requester.id.val) :
    scopedIdempotencyKey r = scopedIdempotencyKey r' ↔
      r.requester.kind = r'.requester.kind ∧ (GoesOn r r' ∨ GoesOn r' r) := by
  rw [scopedIdempotencyKey_eq_iff, append_colon_eq_iff_of_ne hid]
  rfl

/-! ### Sessions -/

theorem replaceChar_ne_empty {old new : Char} {s : String} (h : s ≠ "") :
    replaceChar old new s ≠ "" := by
  intro he
  apply h
  have hlist := congrArg String.toList he
  rw [replaceChar, String.toList_map] at hlist
  exact String.toList_injective (List.map_eq_nil_iff.mp hlist)

theorem sessionIdForRequest_external (hasked : r.requestedSession = none)
    (hplato : r.requester.kind ≠ .plato) :
    svc.sessionIdForRequest r = "external:" ++ safeRequester r.requester.id.val := by
  have hsafe : safeRequester r.requester.id.val ≠ "" :=
    replaceChar_ne_empty (replaceChar_ne_empty r.requester.id.property)
  simp only [EmbeddedTaskApiService.sessionIdForRequest, hasked, hplato, false_and, if_false]
  exact if_pos hsafe

theorem session_eq_iff (svc : EmbeddedTaskApiService) (hasked : r.requestedSession = none)
    (hasked' : r'.requestedSession = none) (hplato : r.requester.kind ≠ .plato)
    (hplato' : r'.requester.kind ≠ .plato) :
    svc.sessionIdForRequest r = svc.sessionIdForRequest r' ↔
      safeRequester r.requester.id.val = safeRequester r'.requester.id.val := by
  rw [sessionIdForRequest_external hasked hplato, sessionIdForRequest_external hasked' hplato']
  exact String.append_right_inj _

/-! ### Publishing for one requester -/

/-- A bus that publishes a root task under its own place: it looks there only, and leaves every
other place and every other session as they are. -/
class RootPublishing (B : Type) extends TaskBus B where
  get_publish : ∀ {b : B} {t : TaskDomain} {s i : String}, t.key ≠ (s, i) →
    TaskBus.get (TaskBus.publish b t).2 s i = TaskBus.get b s i
  list_publish : ∀ {b : B} {t : TaskDomain} {s : String}, t.sessionId ≠ s →
    TaskBus.listForSession (TaskBus.publish b t).2 s = TaskBus.listForSession b s
  publish_congr : ∀ {b b' : B} {t : TaskDomain}, t.parentId = none →
    TaskBus.get b t.sessionId t.taskId = TaskBus.get b' t.sessionId t.taskId →
    (TaskBus.publish b t).1 = (TaskBus.publish b' t).1 ∧
      TaskBus.get (TaskBus.publish b t).2 t.sessionId t.taskId =
        TaskBus.get (TaskBus.publish b' t).2 t.sessionId t.taskId

theorem publishCheck_congr {get get' : String → String → Except BusError (Option TaskDomain)}
    {t : TaskDomain} (hroot : t.parentId = none)
    (h : get t.sessionId t.taskId = get' t.sessionId t.taskId) :
    publishCheck get t = publishCheck get' t := by
  simp only [publishCheck, h, hroot]

theorem publishCheck_absent {get : String → String → Except BusError (Option TaskDomain)}
    {t : TaskDomain} {u : Unit} (h : publishCheck get t = .ok u) :
    get t.sessionId t.taskId = .ok none := by
  unfold publishCheck at h
  by_cases hs : t.status = .pending
  · cases hg : get t.sessionId t.taskId with
    | error e => simp [hs, hg, bind, Except.bind] at h
    | ok o =>
      cases o with
      | none => rfl
      | some v => simp [hs, hg, bind, Except.bind, throw, throwThe, MonadExceptOf.throw] at h
  · simp [hs, bind, Except.bind, throw, throwThe, MonadExceptOf.throw] at h

theorem filter_values_set_apart {V : Type} {d : Dict (String × String) V} {k : String × String}
    {v : V} {p : V → Bool} (habsent : d.get? k = none) (hp : p v = false) :
    (d.set k v).values.filter p = d.values.filter p := by
  rw [Dict.values_set_of_none habsent, List.filter_append, List.filter_cons_of_neg (by simp [hp]),
    List.filter_nil, List.append_nil]

instance : RootPublishing InMemoryTaskBus where
  get_publish := by
    intro b t s i hkey
    show Except.ok ((b.publish t).2.get s i) = .ok (b.get s i)
    unfold InMemoryTaskBus.publish
    split
    · rfl
    · exact congrArg Except.ok (Dict.get?_set_ne _ _ hkey)
  list_publish := by
    intro b t s hsession
    show Except.ok ((b.publish t).2.listForSession s) = .ok (b.listForSession s)
    unfold InMemoryTaskBus.publish
    split
    · rfl
    · next hcheck =>
      have habsent : b.tasks.get? t.key = none := Except.ok.inj (publishCheck_absent hcheck)
      rw [InMemoryTaskBus.listForSession, InMemoryTaskBus.listForSession,
        filter_values_set_apart habsent (by simpa using hsession)]
  publish_congr := by
    intro b b' t hroot hget
    have hcheck : publishCheck (fun s i => .ok (b.get s i)) t =
        publishCheck (fun s i => .ok (b'.get s i)) t := publishCheck_congr hroot hget
    show (b.publish t).1 = (b'.publish t).1 ∧
      Except.ok ((b.publish t).2.get t.sessionId t.taskId) =
        .ok ((b'.publish t).2.get t.sessionId t.taskId)
    unfold InMemoryTaskBus.publish
    rw [hcheck]
    split
    · exact ⟨rfl, hget⟩
    · refine ⟨rfl, congrArg Except.ok ?_⟩
      exact (Dict.get?_set_self _ _ _).trans (Dict.get?_set_self _ _ _).symm

instance : RootPublishing SqliteTaskBus where
  get_publish := by
    intro b t s i hkey
    show (b.publish t).2.get s i = b.get s i
    unfold SqliteTaskBus.publish
    split
    · rfl
    · split
      · rfl
      · simp only [SqliteTaskBus.get, Dict.get?_set_ne _ _ hkey]
  list_publish := by
    intro b t s hsession
    show (b.publish t).2.listForSession s = b.listForSession s
    unfold SqliteTaskBus.publish
    split
    · rfl
    · next hcheck =>
      split
      · rfl
      · have habsent : b.rows.get? t.key = none := by
          have hget := publishCheck_absent hcheck
          unfold SqliteTaskBus.get at hget
          split at hget
          · next h => exact h
          · next row _ => cases hrow : taskFromRow row <;> rw [hrow] at hget <;> cases hget
        rw [SqliteTaskBus.listForSession, SqliteTaskBus.listForSession,
          filter_values_set_apart habsent (by simpa [TaskRow.ofTask] using hsession)]
  publish_congr := by
    intro b b' t hroot hget
    have hcheck : publishCheck b.get t = publishCheck b'.get t := publishCheck_congr hroot hget
    show (b.publish t).1 = (b'.publish t).1 ∧
      (b.publish t).2.get t.sessionId t.taskId = (b'.publish t).2.get t.sessionId t.taskId
    unfold SqliteTaskBus.publish
    rw [hcheck]
    split
    · exact ⟨rfl, hget⟩
    · split
      · exact ⟨rfl, hget⟩
      · refine ⟨rfl, ?_⟩
        simp only [SqliteTaskBus.get,
          show (t.sessionId, t.taskId) = t.key from rfl, Dict.get?_set_self]

/-- A record leads to the execution of its own key, and an execution stands under its own id. -/
structure Filed (svc : EmbeddedTaskApiService) (store : InMemoryExecutionPlaneStore) : Prop where
  records : ∀ r record, store.idempotency.get? (scopedIdempotencyKey r) = some record →
    record.executionId = executionIdForTaskId (svc.taskIdForRequest r)
  executions : ∀ id e, store.executions.get? id = some e →
    e.executionId = id ∧ id = executionIdForTaskId e.taskId

section

open EmbeddedTaskApiService

variable {B : Type} {store : InMemoryExecutionPlaneStore}

theorem filed_putExecution (h : Filed svc store) {e : TaskExecution}
    (he : e.executionId = executionIdForTaskId e.taskId) : Filed svc (store.putExecution e) where
  records := h.records
  executions id e' hget := by
    rw [InMemoryExecutionPlaneStore.putExecution] at hget
    dsimp only at hget
    rw [Dict.get?_set] at hget
    split at hget
    · next hid =>
      cases hget
      exact ⟨hid, hid.symm.trans he⟩
    · exact h.executions id e' hget

section

variable [TaskBus B] {bus : B} {readings : CallReadings}

/-- What reading an execution leaves in the store. -/
theorem getTask_store (h : Filed svc store) (bus : B) (executionId : String) :
    (getTask bus store executionId).2 = store ∨
      ∃ e, e.executionId = executionId ∧ executionId = executionIdForTaskId e.taskId ∧
        (getTask bus store executionId).2 = store.putExecution e := by
  unfold getTask
  cases hexec : store.getExecution executionId with
  | none => exact .inl rfl
  | some execution =>
    dsimp only
    split
    · exact .inl rfl
    · exact .inl rfl
    · split
      · obtain ⟨hid, htask⟩ := h.executions executionId execution hexec
        exact .inr ⟨executionFromTask execution _, hid, htask, rfl⟩
      · exact .inl rfl

/-- What accepting a task leaves in the store. -/
theorem accept_store (svc : EmbeddedTaskApiService) (store : InMemoryExecutionPlaneStore)
    (r : TaskRequest) (readings : CallReadings) (env : ExecutionEnv) :
    (svc.accept store r readings env).2.executions =
        store.executions.set (executionIdForTaskId (svc.taskIdForRequest r))
          (svc.execution r readings env) ∧
      ((svc.accept store r readings env).2.idempotency = store.idempotency ∨
        (svc.accept store r readings env).2.idempotency =
          store.idempotency.set (scopedIdempotencyKey r) (svc.record r readings)) := by
  rcases hput : (store.putExecution (svc.execution r readings env)).putIdempotency
    (svc.record r readings) with ⟨out, after⟩
  have hafter : after.executions = (store.putExecution (svc.execution r readings env)).executions ∧
      (after.idempotency = store.idempotency ∨ after.idempotency =
        store.idempotency.set (scopedIdempotencyKey r) (svc.record r readings)) := by
    unfold InMemoryExecutionPlaneStore.putIdempotency at hput
    split at hput
    · cases hput
      exact ⟨rfl, .inr rfl⟩
    · split at hput <;> cases hput <;> exact ⟨rfl, .inl rfl⟩
  unfold accept
  cases out with
  | error e =>
    simp only [hput]
    exact hafter
  | ok record =>
    simp only [hput]
    exact hafter

/-- Publishing leaves the bus with the task, or as it was. -/
theorem publishTask_bus (svc : EmbeddedTaskApiService) (store : InMemoryExecutionPlaneStore)
    (bus : B) (r : TaskRequest) (readings : CallReadings) :
    (svc.publishTask bus store r readings).2.1 = bus ∨
      (svc.publishTask bus store r readings).2.1 =
        (TaskBus.publish bus (svc.task r readings)).2 := by
  unfold publishTask
  split
  · dsimp only
    split
    · exact .inl rfl
    · exact .inl rfl
  · split
    · exact .inl rfl
    · dsimp only
      split
      · exact .inl rfl
      · rcases hpub : TaskBus.publish bus (svc.task r readings) with ⟨(e | e | _) | u, bus'⟩
        · dsimp only [confirm]
          split <;> exact .inr rfl
        · exact .inr rfl
        · exact .inr rfl
        · exact .inr rfl

/-- The store differs under the names of the request only. -/
def DiffersFor (svc : EmbeddedTaskApiService) (r : TaskRequest) (readings : CallReadings)
    (store store' : InMemoryExecutionPlaneStore) : Prop :=
  (store'.idempotency = store.idempotency ∨
    store'.idempotency =
      store.idempotency.set (scopedIdempotencyKey r) (svc.record r readings)) ∧
  (store'.executions = store.executions ∨
    ∃ e, e.executionId = executionIdForTaskId e.taskId ∧
      e.executionId = executionIdForTaskId (svc.taskIdForRequest r) ∧
      store'.executions = store.executions.set e.executionId e)

theorem differsFor_publishTask (h : Filed svc store) (bus : B) (r : TaskRequest)
    (readings : CallReadings) :
    DiffersFor svc r readings store (svc.publishTask bus store r readings).2.2 := by
  have hsame : DiffersFor svc r readings store store := ⟨.inl rfl, .inl rfl⟩
  have haccept : ∀ env, DiffersFor svc r readings store (svc.accept store r readings env).2 := by
    intro env
    obtain ⟨hexecutions, hrecords⟩ := accept_store svc store r readings env
    exact ⟨hrecords, .inr ⟨svc.execution r readings env, rfl, rfl, hexecutions⟩⟩
  unfold publishTask
  cases hrecord : store.getIdempotency (scopedIdempotencyKey r) with
  | some existing =>
    dsimp only
    split
    · exact hsame
    · rcases getTask_store h bus existing.executionId with hget | ⟨e, hid, htask, hput⟩
      · rw [hget]
        exact hsame
      · rw [hput]
        exact ⟨.inl rfl, .inr ⟨e, hid.trans htask, hid.trans (h.records r existing hrecord), rfl⟩⟩
  | none =>
    dsimp only
    split
    · exact hsame
    · next env henv =>
      split
      · exact hsame
      · rcases hpub : TaskBus.publish bus (svc.task r readings) with ⟨(e | e | _) | u, bus'⟩
        · dsimp only [confirm]
          split
          · exact hsame
          · exact hsame
          · exact haccept env
        · exact hsame
        · exact hsame
        · exact haccept env

theorem Served.filed (h : Served B svc store) : Filed svc store := by
  induction h with
  | fresh => exact ⟨fun r record hget => (by cases hget), fun id e hget => (by cases hget)⟩
  | published h bus r readings ih =>
    obtain ⟨hrecords, hexecutions⟩ := differsFor_publishTask ih bus r readings
    constructor
    · intro q record hget
      rcases hrecords with hrecords | hrecords
      · rw [hrecords] at hget
        exact ih.records q record hget
      · rw [hrecords, Dict.get?_set] at hget
        split at hget
        · next hkey =>
          cases hget
          exact congrArg executionIdForTaskId (taskId_eq_iff.mpr hkey)
        · exact ih.records q record hget
    · rcases hexecutions with hexecutions | ⟨e, hid, -, hexecutions⟩
      · rw [hexecutions]
        exact ih.executions
      · rw [hexecutions]
        exact (filed_putExecution ih hid).executions
  | read h bus executionId ih =>
    rcases getTask_store ih bus executionId with hsame | ⟨e, hid, htask, hput⟩
    · rw [hsame]
      exact ih
    · rw [hput]
      exact filed_putExecution ih (hid.trans htask)

theorem accept_of_none (hrecord : store.getIdempotency (scopedIdempotencyKey r) = none)
    (readings : CallReadings) (env : ExecutionEnv) :
    (svc.accept store r readings env).1 = .ok (svc.execution r readings env) := by
  have hnone : store.idempotency.get? (svc.record r readings).scopedKey = none := hrecord
  simp only [accept, InMemoryExecutionPlaneStore.putIdempotency,
    InMemoryExecutionPlaneStore.putExecution, hnone]

end

variable [RootPublishing B] {bus bus' : B} {store' : InMemoryExecutionPlaneStore}

/-- An answer depends on the record of the request, on its execution, and on its place on the
bus. -/
theorem publishTask_congr (hfiled : Filed svc store)
    (hrecord : store'.getIdempotency (scopedIdempotencyKey r) =
      store.getIdempotency (scopedIdempotencyKey r))
    (hexecution : store'.getExecution (executionIdForTaskId (svc.taskIdForRequest r)) =
      store.getExecution (executionIdForTaskId (svc.taskIdForRequest r)))
    (hplace : ∀ session, TaskBus.get bus' session (svc.taskIdForRequest r) =
      TaskBus.get bus session (svc.taskIdForRequest r)) (readings : CallReadings) :
    (svc.publishTask bus' store' r readings).1 = (svc.publishTask bus store r readings).1 := by
  unfold publishTask
  rw [hrecord]
  cases hfound : store.getIdempotency (scopedIdempotencyKey r) with
  | some existing =>
    dsimp only
    split
    · rfl
    · dsimp only [getTask]
      rw [hfiled.records r existing hfound, hexecution]
      cases hexec : store.getExecution (executionIdForTaskId (svc.taskIdForRequest r)) with
      | none => rfl
      | some execution =>
        have htask : execution.taskId = svc.taskIdForRequest r :=
          (executionId_eq_iff.mp (hfiled.executions _ execution hexec).2).symm
        dsimp only
        rw [htask, hplace]
        split
        · rfl
        · rfl
        · split <;> rfl
  | none =>
    have hfound' : store'.getIdempotency (scopedIdempotencyKey r) = none := hrecord.trans hfound
    dsimp only
    split
    · rfl
    · next env henv =>
      split
      · rfl
      · obtain ⟨hreply, hget⟩ := @RootPublishing.publish_congr B _ bus' bus
          (svc.task r readings) rfl (hplace _)
        rcases hpub' : TaskBus.publish bus' (svc.task r readings) with ⟨out', after'⟩
        rcases hpub : TaskBus.publish bus (svc.task r readings) with ⟨out, after⟩
        rw [hpub', hpub] at hreply hget
        dsimp only at hreply hget
        subst hreply
        rcases out' with (e | e | _) | u
        · dsimp only [confirm]
          rw [hget]
          split
          · rfl
          · rfl
          · dsimp only
            rw [accept_of_none hfound, accept_of_none hfound']
        · rfl
        · rfl
        · dsimp only
          rw [accept_of_none hfound, accept_of_none hfound']

/-- **Publishing leaves a request of another name alone.** -/
theorem leavesAlone_of_ne (hkey : scopedIdempotencyKey r ≠ scopedIdempotencyKey r')
    (hsession : svc.sessionIdForRequest r ≠ svc.sessionIdForRequest r') :
    LeavesAlone B svc r r' := by
  have htask : svc.taskIdForRequest r ≠ svc.taskIdForRequest r' :=
    fun he => hkey (taskId_eq_iff.mp he)
  have hrecord : ∀ store, Served B svc store → ∀ (bus : B) readings,
      (svc.publishTask bus store r readings).2.2.getIdempotency (scopedIdempotencyKey r') =
        store.getIdempotency (scopedIdempotencyKey r') := by
    intro store hserved bus readings
    obtain ⟨hrecords | hrecords, -⟩ := differsFor_publishTask hserved.filed bus r readings
    · rw [InMemoryExecutionPlaneStore.getIdempotency, hrecords]
      rfl
    · rw [InMemoryExecutionPlaneStore.getIdempotency, hrecords]
      exact Dict.get?_set_ne _ _ hkey
  refine ⟨hrecord, fun store hserved bus readings readings' => ?_,
    fun store bus readings taskId => ?_, fun store bus readings => ?_⟩
  · refine publishTask_congr hserved.filed (hrecord store hserved bus readings) ?_
      (fun session => ?_) readings'
    · obtain ⟨-, hsame | ⟨e, -, hid, hset⟩⟩ :=
        differsFor_publishTask hserved.filed bus r readings
      · rw [InMemoryExecutionPlaneStore.getExecution, hsame]
        rfl
      · rw [InMemoryExecutionPlaneStore.getExecution, hset]
        refine Dict.get?_set_ne _ _ ?_
        rw [hid]
        exact fun he => htask (executionId_eq_iff.mp he)
    · rcases publishTask_bus svc store bus r readings with h | h
      · rw [h]
      · rw [h]
        exact RootPublishing.get_publish fun he => htask (congrArg Prod.snd he)
  · rcases publishTask_bus svc store bus r readings with h | h
    · rw [h]
    · rw [h]
      exact RootPublishing.get_publish fun he => hsession (congrArg Prod.fst he)
  · rcases publishTask_bus svc store bus r readings with h | h
    · rw [h]
    · rw [h]
      exact RootPublishing.list_publish hsession

end

/-- **Which requesters are kept apart.** -/
theorem requesters_separated_iff (svc : EmbeddedTaskApiService) (r r' : TaskRequest)
    (hasked : r.requestedSession = none) (hasked' : r'.requestedSession = none)
    (hplato : r.requester.kind ≠ .plato) (hplato' : r'.requester.kind ≠ .plato) :
    Separated svc r r' ↔
      safeRequester r.requester.id.val ≠ safeRequester r'.requester.id.val ∧
        (r.requester.kind = r'.requester.kind → ¬GoesOn r r' ∧ ¬GoesOn r' r) := by
  have hsession := session_eq_iff svc hasked hasked' hplato hplato'
  constructor
  · intro h
    have hsafe : safeRequester r.requester.id.val ≠ safeRequester r'.requester.id.val :=
      fun he => h.session (hsession.mpr he)
    have hid : r.requester.id.val ≠ r'.requester.id.val := fun he => hsafe (by rw [he])
    refine ⟨hsafe, fun hkind => not_or.mp fun hgo => h.scopedKey ?_⟩
    exact (scopedIdempotencyKey_eq_iff_of_ne hid).mpr ⟨hkind, hgo⟩
  · rintro ⟨hsafe, hapart⟩
    have hid : r.requester.id.val ≠ r'.requester.id.val := fun he => hsafe (by rw [he])
    have hkey : scopedIdempotencyKey r ≠ scopedIdempotencyKey r' := by
      intro he
      obtain ⟨hkind, hgo⟩ := (scopedIdempotencyKey_eq_iff_of_ne hid).mp he
      exact (not_or.mpr (hapart hkind)) hgo
    have htask : svc.taskIdForRequest r ≠ svc.taskIdForRequest r' :=
      fun he => hkey (taskId_eq_iff.mp he)
    have hsessions : svc.sessionIdForRequest r ≠ svc.sessionIdForRequest r' :=
      fun he => hsafe (hsession.mp he)
    exact ⟨hkey, htask, fun he => htask (executionId_eq_iff.mp he), hsessions,
      ⟨leavesAlone_of_ne hkey hsessions, leavesAlone_of_ne hkey.symm hsessions.symm⟩,
      ⟨leavesAlone_of_ne hkey hsessions, leavesAlone_of_ne hkey.symm hsessions.symm⟩⟩

/-! ### Requesters that meet -/

theorem prefixed_injective : Function.Injective fun name : String => "u" ++ name :=
  fun _ _ h => (String.append_right_inj _).mp h

theorem prefixed_ne_empty (name : String) : "u" ++ name ≠ "" :=
  append_ne_empty_of_left (by decide)

/-- A service with the default environment. -/
def localService : EmbeddedTaskApiService where
  uuid5 := ⟨fun name => "u" ++ name, prefixed_injective, prefixed_ne_empty⟩
  sha256 := fun r => r.intent.val
  envs := Dict.ofList
    [("local-default", { envId := ⟨"local-default", by decide⟩, capabilities := ["execute"] })]

def syncRequest (kind : TaskRequesterKind) (id key intent : Text) : TaskRequest where
  idempotencyKey := key
  requester := { kind := kind, id := id }
  taskType := ⟨"crm.sync", by decide⟩
  intent := intent
  policy := { requiredCapability := ⟨"execute", by decide⟩, disjoint := by simp }
  callback := { webhookUrl := by simp, webhookKey := by simp }
  taskTypePattern := by decide
  taskTypeNamespaced := by decide
  taskTypeAllowed := fun _ => by decide

def sampleReadings : CallReadings where
  now := CallEnv.sample.clock 0
  taskNow := CallEnv.sample.clock 0
  eventId := "event_1"

/-- Requesters `crm:eu` and `crm` of one kind, and `crm` of another kind. -/
def importRequest : TaskRequest :=
  syncRequest .externalApp ⟨"crm:eu", by decide⟩ ⟨"1", by decide⟩ ⟨"Import.", by decide⟩

def exportRequest : TaskRequest :=
  syncRequest .externalApp ⟨"crm", by decide⟩ ⟨"eu:1", by decide⟩ ⟨"Export.", by decide⟩

def countRequest : TaskRequest :=
  syncRequest .system ⟨"crm", by decide⟩ ⟨"2", by decide⟩ ⟨"Count.", by decide⟩

theorem countRequest_separated : Separated localService importRequest countRequest :=
  (requesters_separated_iff localService importRequest countRequest (by decide) (by decide)
    (by decide) (by decide)).mpr ⟨by decide +kernel, fun h => absurd h (by decide)⟩

def afterPublish (r : TaskRequest) : InMemoryTaskBus × InMemoryExecutionPlaneStore :=
  (localService.publishTask InMemoryTaskBus.empty {} r sampleReadings).2

def answerAfter (r r' : TaskRequest) : Except PublishError TaskExecution :=
  (localService.publishTask (afterPublish r).1 (afterPublish r).2 r' sampleReadings).1

/-- **Requesters that meet.**  Each of the three requests is accepted by a fresh service.  The
first two have one scoped key, and the second of them conflicts with the first.  The last two
have one session. -/
theorem requesters_meet :
    (∀ r ∈ [importRequest, exportRequest, countRequest],
      (localService.publishTask InMemoryTaskBus.empty {} r sampleReadings).1.isOk = true ∧
        r.requestedSession = none ∧ r.requester.kind ≠ .plato) ∧
    (importRequest.requester.id ≠ exportRequest.requester.id ∧
      scopedIdempotencyKey importRequest = scopedIdempotencyKey exportRequest ∧
      answerAfter importRequest exportRequest =
        .error (.plane (.idempotencyConflict "Import." "Export.")) ∧
      ¬Separated localService importRequest exportRequest) ∧
    exportRequest.requester.kind ≠ countRequest.requester.kind ∧
      (answerAfter exportRequest countRequest).isOk = true ∧
      localService.sessionIdForRequest exportRequest =
        localService.sessionIdForRequest countRequest ∧
      ¬Separated localService exportRequest countRequest := by
  refine ⟨by decide +kernel, ⟨by decide, by decide +kernel, by decide +kernel, ?_⟩, by decide,
    by decide +kernel, by decide +kernel, ?_⟩
  · intro h
    exact h.scopedKey (by decide +kernel)
  · intro h
    exact h.session (by decide +kernel)

end Taskweavn.ExecutionPlane
