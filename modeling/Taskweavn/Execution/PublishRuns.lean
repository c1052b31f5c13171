import Taskweavn.Execution.Requesters
import Taskweavn.Task.Publisher

/-!
# Runs of publish calls

What binds a request to its execution when publish calls of the execution plane are
interleaved, stop, and are issued again.

The path for a task that the bus already has trusts that the task belongs to the same request
and has not moved.  `Trusted` is the condition under which this trust is justified, and
`publish_task_binds` says what then holds in every run, `Binds`: one task for a key, one request
content, a conflict that has written nothing, and the status of the task.

The invariant is `Sound`.  It goes through because the names of a request are functions of its
content (`scopedKey_of_content`, `slot_of_content`), so that the calls of one content meet in one
place.
-/

namespace Taskweavn.ExecutionPlane

open Lib Py ShadowedBus

/-! ### The bus -/

/-- A bus that refuses a new root task by a task error only when it has the task. -/
class PublishingBus (B : Type) extends ShadowedBus B where
  publish_refused : ∀ {b : B} {t : TaskDomain} {e : TaskStoreError}, t.status = .pending →
    t.parentId = none → (TaskBus.publish b t).1 = .error (.store e) →
    ∃ u, TaskBus.get b t.sessionId t.taskId = .ok (some u)

theorem publishCheck_refused {get : String → String → Except BusError (Option TaskDomain)}
    {t : TaskDomain} {e : TaskStoreError} (hs : t.status = .pending) (hp : t.parentId = none)
    (h : publishCheck get t = .error (.store e))
    (hget : ∀ e, get t.sessionId t.taskId ≠ .error (.store e)) :
    ∃ u, get t.sessionId t.taskId = .ok (some u) := by
  unfold publishCheck at h
  cases hg : get t.sessionId t.taskId with
  | error e' =>
    simp only [hs, ne_eq, not_true, if_false, hg, bind, Except.bind] at h
    cases h
    exact absurd hg (hget e)
  | ok o =>
    cases o with
    | some u => exact ⟨u, rfl⟩
    | none =>
      simp [hs, hg, hp, bind, Except.bind, pure, Except.pure] at h

theorem taskFromRow_ne_store (row : TaskRow) (e : TaskStoreError) :
    taskFromRow row ≠ .error (.store e) := by
  unfold taskFromRow
  intro h
  repeat' split at h
  all_goals cases h

instance : PublishingBus InMemoryTaskBus where
  publish_refused := by
    intro b t e hs hp h
    have h' : (InMemoryTaskBus.publish b t).1 = .error (.store e) := h
    unfold InMemoryTaskBus.publish at h'
    cases hc : publishCheck (fun s i => .ok (b.get s i)) t with
    | error e' =>
      rw [hc] at h'
      cases h'
      exact publishCheck_refused hs hp hc (fun _ he => by cases he)
    | ok u =>
      rw [hc] at h'
      cases h'

instance : PublishingBus SqliteTaskBus where
  publish_refused := by
    intro b t e hs hp h
    have h' : (SqliteTaskBus.publish b t).1 = .error (.store e) := h
    unfold SqliteTaskBus.publish at h'
    cases hc : publishCheck b.get t with
    | error e' =>
      rw [hc] at h'
      cases h'
      refine publishCheck_refused hs hp hc ?_
      intro e' he
      have he' : SqliteTaskBus.get b t.sessionId t.taskId = .error (.store e') := he
      unfold SqliteTaskBus.get at he'
      split at he'
      · cases he'
      · next row _ =>
        cases hrow : taskFromRow row with
        | ok u =>
          rw [hrow] at he'
          cases he'
        | error v =>
          rw [hrow] at he'
          cases he'
          exact taskFromRow_ne_store row e' hrow
    | ok u =>
      rw [hc] at h'
      dsimp only at h'
      split at h' <;> cases h'

def statusAt {B : Type} [TaskBus B] (b : B) (k : String × String) : Option TaskStatus :=
  (TaskBus.get b k.1 k.2).toOption.join.map TaskDomain.status

section

variable {B : Type} [ShadowedBus B] {b b' : B} {m m' : InMemoryTaskBus} {k : String × String}
  {st : TaskStatus}

theorem statusAt_eq_some_iff (h : Shadow m b) :
    statusAt b k = some st ↔ ∃ t, m.get k.1 k.2 = some t ∧ Readable B t ∧ t.status = st := by
  unfold statusAt
  cases hm : m.get k.1 k.2 with
  | none =>
    rw [get_none h hm]
    constructor
    · intro he
      cases he
    · rintro ⟨t, ht, -⟩
      cases ht
  | some t =>
    by_cases hr : Readable B t
    · rw [get_readable h hm hr]
      constructor
      · intro he
        exact ⟨t, rfl, hr, Option.some.inj he⟩
      · rintro ⟨t', ht', -, rfl⟩
        cases ht'
        rfl
    · obtain ⟨-, e, he⟩ := get_broken h hm hr
      rw [he]
      constructor
      · intro he
        cases he
      · rintro ⟨t', ht', hr', -⟩
        cases ht'
        exact absurd hr' hr

omit [ShadowedBus B] in
theorem task_of_statusAt [TaskBus B] (hst : statusAt b k = some st) :
    ∃ task, TaskBus.get b k.1 k.2 = .ok (some task) ∧ task.status = st := by
  unfold statusAt at hst
  cases hget : TaskBus.get b k.1 k.2 with
  | error e =>
    rw [hget] at hst
    cases hst
  | ok o =>
    cases o with
    | none =>
      rw [hget] at hst
      cases hst
    | some task =>
      rw [hget] at hst
      exact ⟨task, rfl, Option.some.inj hst⟩

theorem isSome_of_statusAt (h : Shadow m b) (hst : statusAt b k = some st) :
    (m.get k.1 k.2).isSome := by
  obtain ⟨t, ht, -⟩ := (statusAt_eq_some_iff h).mp hst
  rw [ht]
  rfl

theorem statusAt_kept (h : Shadow m b) (h' : Shadow m' b')
    (hkeep : ∀ s i t, m.get s i = some t → m'.get s i = some t) (hst : statusAt b k = some st) :
    statusAt b' k = some st := by
  obtain ⟨t, ht, hr, rfl⟩ := (statusAt_eq_some_iff h).mp hst
  exact (statusAt_eq_some_iff h').mpr ⟨t, hkeep _ _ _ ht, hr, rfl⟩

theorem shadow_step_cases (h : Shadow m b) (c : BusCall) :
    ∃ m', Shadow m' (TaskBus.step b c).2 ∧ (∀ s i, (m.get s i).isSome → (m'.get s i).isSome) ∧
      ∀ s i, (m'.get s i).isSome →
        (m.get s i).isSome ∨ ∃ t valid, c.op = .publish t valid ∧ t.key = (s, i) := by
  rcases step_shadow h c with ⟨e, he⟩ | ⟨hnext, -⟩
  · rw [he]
    exact ⟨m, h, fun _ _ hs => hs, fun _ _ hs => .inl hs⟩
  · refine ⟨_, hnext, fun s i hs => ?_, fun s i hs => ?_⟩
    all_goals
      have hcases := InMemoryTaskBus.changed_cases (keyed h) c (s, i)
    · rcases hcases with hkeep | ⟨t', ht', -⟩
      · rw [InMemoryTaskBus.get, hkeep]
        exact hs
      · rw [InMemoryTaskBus.get, ht']
        rfl
    · rcases hcases with hkeep | ⟨t', -, hch⟩
      · rw [InMemoryTaskBus.get, hkeep] at hs
        exact .inl hs
      · generalize (TaskBus.step m c).1 = reply at hch
        cases hch with
        | published valid hop hk => exact .inr ⟨t', valid, hop, hk⟩
        | claimed t _ _ _ _ present =>
          exact .inl (Option.isSome_iff_exists.mpr ⟨t, present⟩)
        | moved t _ _ _ present => exact .inl (Option.isSome_iff_exists.mpr ⟨t, present⟩)
        | recovered t _ _ _ present => exact .inl (Option.isSome_iff_exists.mpr ⟨t, present⟩)

end

/-! ### Names -/

/-- Where the task of a request stands on the bus. -/
def EmbeddedTaskApiService.slot (svc : EmbeddedTaskApiService) (r : TaskRequest) :
    String × String :=
  (svc.sessionIdForRequest r, svc.taskIdForRequest r)

def TaskExecution.slot (e : TaskExecution) : String × String := (e.sessionId, e.taskId)

variable {svc : EmbeddedTaskApiService} {r r' : TaskRequest}

theorem scopedKey_of_content (h : r.content = r'.content) :
    scopedIdempotencyKey r = scopedIdempotencyKey r' := by
  have hrequester : r.requester = r'.requester :=
    (congrArg TaskRequest.requester h : r.content.requester = r'.content.requester)
  have hkey : r.idempotencyKey = r'.idempotencyKey :=
    (congrArg TaskRequest.idempotencyKey h : r.content.idempotencyKey = r'.content.idempotencyKey)
  rw [scopedIdempotencyKey, scopedIdempotencyKey, hrequester, hkey]

/-- **The names of a request are functions of its content.** -/
theorem slot_of_content (h : r.content = r'.content) : svc.slot r = svc.slot r' := by
  have hsession : svc.sessionIdForRequest r = svc.sessionIdForRequest r' := by
    have hrequester : r.requester = r'.requester :=
      (congrArg TaskRequest.requester h : r.content.requester = r'.content.requester)
    have hexternal : r.externalRef = r'.externalRef :=
      (congrArg TaskRequest.externalRef h : r.content.externalRef = r'.content.externalRef)
    have hasked : r.requestedSession = r'.requestedSession := by
      rw [← r.requestedSession_content, h, r'.requestedSession_content]
    rw [EmbeddedTaskApiService.sessionIdForRequest, EmbeddedTaskApiService.sessionIdForRequest,
      hasked, hrequester, hexternal]
  rw [EmbeddedTaskApiService.slot, EmbeddedTaskApiService.slot, hsession,
    taskId_eq_iff.mpr (scopedKey_of_content h)]

/-! ### What a run must meet -/

/-- The task that a call has read or published, from then on until the call is over. -/
def PublishPhase.awaits (svc : EmbeddedTaskApiService) (request : TaskRequest) :
    PublishPhase → Option (String × String)
  | .confirm _ _ | .putExecution _ | .putIdempotency _ | .appendEvent _ => some (svc.slot request)
  | .refresh updated => some updated.slot
  | _ => none

section

variable {B : Type} [TaskBus B]

/-- A call publishes over no task of its key that was built from another content, and finds no
task that has moved.  Nobody else publishes under the ids of the service, or changes the status
of a task that a call is about to return. -/
def Trusted (svc : EmbeddedTaskApiService) (s : PlaneState B) : PlaneAction → Prop
  | .advance n => ∀ call env, s.calls[n]? = some call → call.phase = .publish env →
      (∀ p ∈ s.publications, scopedIdempotencyKey p = scopedIdempotencyKey call.request →
        p.content = call.request.content) ∧
      ∀ st, statusAt s.bus (svc.slot call.request) = some st → st = .pending
  | .other c => (∀ t valid, c.op = .publish t valid → ∀ r, t.taskId ≠ svc.taskIdForRequest r) ∧
      ∀ call ∈ s.calls, ∀ k, call.phase.awaits svc call.request = some k →
        statusAt (TaskBus.step s.bus c).2 k = statusAt s.bus k
  | _ => True

/-- One request is bound to one execution. -/
structure Binds (svc : EmbeddedTaskApiService) (s : PlaneState B) : Prop where
  /-- The bus shows at most one task for a key. -/
  oneTask : ∀ r r', scopedIdempotencyKey r = scopedIdempotencyKey r' → ∀ session session' t t',
    TaskBus.get s.bus session (svc.taskIdForRequest r) = .ok (some t) →
    TaskBus.get s.bus session' (svc.taskIdForRequest r') = .ok (some t') →
    session = session' ∧ t = t'
  /-- No key ever got a second task. -/
  publishedOnce : ∀ key,
    (s.publications.filter fun p => scopedIdempotencyKey p = key).length ≤ 1
  /-- A call that has returned had the content that the task of its key was built from. -/
  sameRequest : ∀ call ∈ s.calls, ∀ e, call.phase = .returned e →
    ∃ p ∈ s.publications, p.content = call.request.content ∧ svc.slot p = e.slot
  /-- A call that was refused as a conflict has changed no execution and no record. -/
  conflictWroteNothing : ∀ call ∈ s.calls, ∀ hash hash',
    call.phase = .raised (.plane (.idempotencyConflict hash hash')) → call.wrote = false
  /-- The execution that the next step returns has the status of its task. -/
  statusAtReturn : ∀ n t e, svc.step s (.advance n) = some t →
    (t.calls[n]?).map PublishCall.phase = some (.returned e) →
    ∃ task, TaskBus.get t.bus e.sessionId e.taskId = .ok (some task) ∧
      e.status = statusFromTask task.status

end

/-! ### What such a run keeps -/

/-- The task of the request's key was built from the content of the request. -/
def Built (publications : List TaskRequest) (r : TaskRequest) : Prop :=
  ∃ p ∈ publications, p.content = r.content

def Stands (svc : EmbeddedTaskApiService) (r : TaskRequest) (e : TaskExecution) : Prop :=
  e.slot = svc.slot r ∧ e.executionId = executionIdForTaskId (svc.taskIdForRequest r)

/-- What is known of a call in a phase. -/
def PhaseOk {B : Type} [TaskBus B] (svc : EmbeddedTaskApiService) (publications : List TaskRequest)
    (bus : B) (r : TaskRequest) (wrote : Bool) : PublishPhase → Prop
  | .lookup => wrote = false
  | .load executionId =>
    Built publications r ∧ executionId = executionIdForTaskId (svc.taskIdForRequest r)
  | .read e => Built publications r ∧ Stands svc r e
  | .refresh e => Built publications r ∧ Stands svc r e ∧
      ∃ st, statusAt bus e.slot = some st ∧ e.status = statusFromTask st
  | .publish _ => True
  | .confirm _ _ | .putExecution _ | .putIdempotency _ | .appendEvent _ =>
    Built publications r ∧ statusAt bus (svc.slot r) = some .pending
  | .returned e => Built publications r ∧ e.slot = svc.slot r
  | .raised error => ∀ hash hash', error = .plane (.idempotencyConflict hash hash') → wrote = false
  | .stopped => True

structure RecordOk (svc : EmbeddedTaskApiService) (S : Set TaskRequest)
    (publications : List TaskRequest) (key : String) (record : TaskRequestIdempotencyRecord) :
    Prop where
  content : record.request.content ∈ S
  hash : record.requestHash = svc.requestHash record.request
  built : Built publications record.request
  executionId : record.executionId = executionIdForTaskId (svc.taskIdForRequest record.request)
  key : scopedIdempotencyKey record.request = key

/-- The invariant, over the shadow of the bus and the contents of the run. -/
structure Sound {B : Type} [PublishingBus B] (svc : EmbeddedTaskApiService) (S : Set TaskRequest)
    (m : InMemoryTaskBus) (s : PlaneState B) : Prop where
  shadow : Shadow m s.bus
  once : (s.publications.map scopedIdempotencyKey).Nodup
  /-- Every task under an id of the service was published by it. -/
  built : ∀ r session, (m.get session (svc.taskIdForRequest r)).isSome →
    ∃ p ∈ s.publications, svc.slot p = (session, svc.taskIdForRequest r)
  stored : ∀ p ∈ s.publications, (m.get (svc.slot p).1 (svc.slot p).2).isSome
  records : ∀ key record, s.store.idempotency.get? key = some record →
    RecordOk svc S s.publications key record
  executions : ∀ id e, s.store.executions.get? id = some e →
    ∃ p ∈ s.publications, Stands svc p e ∧ e.executionId = id
  calls : ∀ call ∈ s.calls, call.request.content ∈ S ∧
    PhaseOk svc s.publications s.bus call.request call.wrote call.phase

section

variable {B : Type} [PublishingBus B] {S : Set TaskRequest} {s s' : PlaneState B}
  {m : InMemoryTaskBus} {pubs pubs' : List TaskRequest} {bus bus' : B} {phase : PublishPhase}
  {wrote : Bool}

theorem Built.mono (h : Built pubs r) (hsub : ∀ p ∈ pubs, p ∈ pubs') : Built pubs' r := by
  obtain ⟨p, hp, hcontent⟩ := h
  exact ⟨p, hsub p hp, hcontent⟩

theorem Built.content_eq (h : Built pubs r) (honce : (pubs.map scopedIdempotencyKey).Nodup)
    {p : TaskRequest} (hp : p ∈ pubs) (hkey : scopedIdempotencyKey p = scopedIdempotencyKey r) :
    p.content = r.content := by
  obtain ⟨q, hq, hcontent⟩ := h
  have hqp : scopedIdempotencyKey q = scopedIdempotencyKey p :=
    (scopedKey_of_content hcontent).trans hkey.symm
  rw [← List.inj_on_of_nodup_map honce hq hp hqp]
  exact hcontent

theorem Built.content_eq_of_key (h : Built pubs r) (h' : Built pubs r')
    (honce : (pubs.map scopedIdempotencyKey).Nodup)
    (hkey : scopedIdempotencyKey r = scopedIdempotencyKey r') : r.content = r'.content := by
  obtain ⟨p, hp, hcontent⟩ := h
  rw [← hcontent]
  exact h'.content_eq honce hp ((scopedKey_of_content hcontent).trans hkey)

theorem Stands.of_content {e : TaskExecution} (h : Stands svc r e)
    (hcontent : r.content = r'.content) :
    Stands svc r' e := by
  refine ⟨h.1.trans (slot_of_content hcontent), h.2.trans ?_⟩
  rw [taskId_eq_iff.mpr (scopedKey_of_content hcontent)]

theorem PhaseOk.mono (h : PhaseOk svc pubs bus r wrote phase) (hsub : ∀ p ∈ pubs, p ∈ pubs')
    (hkeep : ∀ k, phase.awaits svc r = some k → ∀ st, statusAt bus k = some st →
      statusAt bus' k = some st) : PhaseOk svc pubs' bus' r wrote phase := by
  cases phase with
  | lookup => exact h
  | load executionId => exact ⟨h.1.mono hsub, h.2⟩
  | read e => exact ⟨h.1.mono hsub, h.2⟩
  | refresh e =>
    obtain ⟨hbuilt, hstands, st, hst, hstatus⟩ := h
    exact ⟨hbuilt.mono hsub, hstands, st, hkeep _ rfl st hst, hstatus⟩
  | publish env => trivial
  | confirm env e => exact ⟨h.1.mono hsub, hkeep _ rfl _ h.2⟩
  | putExecution env => exact ⟨h.1.mono hsub, hkeep _ rfl _ h.2⟩
  | putIdempotency env => exact ⟨h.1.mono hsub, hkeep _ rfl _ h.2⟩
  | appendEvent env => exact ⟨h.1.mono hsub, hkeep _ rfl _ h.2⟩
  | returned e => exact ⟨h.1.mono hsub, h.2⟩
  | raised error => exact h
  | stopped => trivial

theorem forall_mem_set {P : PublishCall → Prop} {calls : List PublishCall} {n : ℕ}
    {call : PublishCall} (h : ∀ c ∈ calls, P c) (hcall : P call) : ∀ c ∈ calls.set n call, P c := by
  intro c hc
  rcases List.mem_or_eq_of_mem_set hc with hmem | rfl
  · exact h c hmem
  · exact hcall

theorem Sound.set_call (h : Sound svc S m s) {n : ℕ} {call : PublishCall}
    (hcontent : call.request.content ∈ S)
    (hok : PhaseOk svc s.publications s.bus call.request call.wrote call.phase) :
    Sound svc S m { s with calls := s.calls.set n call } :=
  { h with calls := forall_mem_set h.calls ⟨hcontent, hok⟩ }

theorem PublishCall.wrote_after_same (call : PublishCall) (phase : PublishPhase)
    (store : InMemoryExecutionPlaneStore) : (call.after phase store store).wrote = call.wrote := by
  simp [PublishCall.after]

/-! ### Steps of the store -/

theorem RecordOk.mono {key : String} {record : TaskRequestIdempotencyRecord}
    (h : RecordOk svc S pubs key record) (hsub : ∀ p ∈ pubs, p ∈ pubs') :
    RecordOk svc S pubs' key record :=
  { h with built := h.built.mono hsub }

theorem Sound.put_execution (h : Sound svc S m s) {e : TaskExecution}
    (hbuilt : Built s.publications r) (hstands : Stands svc r e) :
    Sound svc S m { s with store := s.store.putExecution e } := by
  refine { h with executions := ?_ }
  intro id e' he'
  simp only [InMemoryExecutionPlaneStore.putExecution] at he'
  by_cases hid : e.executionId = id
  · subst hid
    rw [Dict.get?_set_self] at he'
    cases he'
    obtain ⟨p, hp, hcontent⟩ := hbuilt
    exact ⟨p, hp, hstands.of_content hcontent.symm, rfl⟩
  · rw [Dict.get?_set_ne _ _ hid] at he'
    exact h.executions id e' he'

theorem Sound.put_record (h : Sound svc S m s) (readings : CallReadings) (hmem : r.content ∈ S)
    (hbuilt : Built s.publications r) :
    Sound svc S m { s with
      store := { s.store with
        idempotency := s.store.idempotency.set (scopedIdempotencyKey r)
          (svc.record r readings) } } := by
  refine { h with records := ?_ }
  intro key record hrec
  by_cases hkey : scopedIdempotencyKey r = key
  · subst hkey
    rw [Dict.get?_set_self] at hrec
    cases hrec
    exact ⟨hmem, rfl, hbuilt, rfl, rfl⟩
  · rw [Dict.get?_set_ne _ _ hkey] at hrec
    exact h.records key record hrec

/-! ### Steps of the bus -/

theorem Sound.built_of_stored (h : Sound svc S m s)
    (htrust : ∀ p ∈ s.publications, scopedIdempotencyKey p = scopedIdempotencyKey r →
      p.content = r.content)
    (hstored : (m.get (svc.slot r).1 (svc.slot r).2).isSome) : Built s.publications r := by
  obtain ⟨p, hp, hslot⟩ := h.built r (svc.slot r).1 hstored
  have htask : svc.taskIdForRequest p = svc.taskIdForRequest r := congrArg Prod.snd hslot
  exact ⟨p, hp, htrust p hp (taskId_eq_iff.mp htask)⟩

theorem Sound.refuse (h : Sound svc S m s) {t : TaskDomain} {e : BusError} (hvalid : t.Valid)
    (hpub : TaskBus.publish s.bus t = (.error e, bus)) : Sound svc S m { s with bus := bus } := by
  have hshadow := DefaultTaskPublisher.publish_refused_shadow h.shadow hvalid
    (congrArg Prod.fst hpub)
  rw [hpub] at hshadow
  refine { h with shadow := hshadow, calls := ?_ }
  intro call hcall
  obtain ⟨hmem, hok⟩ := h.calls call hcall
  exact ⟨hmem, hok.mono (fun _ hp => hp) fun k _ st hst =>
    statusAt_kept h.shadow hshadow (fun _ _ _ ht => ht) hst⟩

theorem Sound.publish (h : Sound svc S m s) {readings : CallReadings} {u : TaskDomain}
    (hvalid : (svc.task r readings).Valid)
    (htrust : ∀ p ∈ s.publications, scopedIdempotencyKey p = scopedIdempotencyKey r →
      p.content = r.content)
    (hpub : TaskBus.publish s.bus (svc.task r readings) = (.ok u, bus)) :
    Sound svc S (m.publish (svc.task r readings)).2
        { s with bus := bus, publications := s.publications ++ [r] } ∧
      statusAt bus (svc.slot r) = some .pending := by
  obtain ⟨-, hshadow, habsent, hnow⟩ :=
    DefaultTaskPublisher.publish_shadow h.shadow hvalid (congrArg Prod.fst hpub)
  rw [hpub] at hshadow
  have hkeep : ∀ session i t, m.get session i = some t →
      (m.publish (svc.task r readings)).2.get session i = some t := fun session i t ht =>
    DefaultTaskPublisher.get_publish (keyed h.shadow) _ hvalid ht
  have hkeep' : ∀ session i, (m.get session i).isSome →
      ((m.publish (svc.task r readings)).2.get session i).isSome := by
    intro session i hi
    obtain ⟨t, ht⟩ := Option.isSome_iff_exists.mp hi
    rw [hkeep _ _ _ ht]
    rfl
  have hsub : ∀ p ∈ s.publications, p ∈ s.publications ++ [r] :=
    fun p hp => List.mem_append_left _ hp
  have hfirst : ∀ p ∈ s.publications, scopedIdempotencyKey p ≠ scopedIdempotencyKey r := by
    intro p hp hkey
    have hstored := h.stored p hp
    rw [slot_of_content (htrust p hp hkey)] at hstored
    have hnone : m.get (svc.slot r).1 (svc.slot r).2 = none := habsent
    rw [hnone] at hstored
    cases hstored
  refine ⟨⟨hshadow, ?_, ?_, ?_, fun key record hrec => (h.records key record hrec).mono hsub, ?_,
    ?_⟩, ?_⟩
  · show ((s.publications ++ [r]).map scopedIdempotencyKey).Nodup
    rw [List.map_append, List.nodup_append]
    refine ⟨h.once, List.nodup_singleton _, ?_⟩
    intro key hkey key' hkey' heq
    obtain ⟨p, hp, rfl⟩ := List.mem_map.mp hkey
    rw [List.map_singleton, List.mem_singleton] at hkey'
    exact hfirst p hp (heq.trans hkey')
  · intro r' session hsome
    cases hold : m.get session (svc.taskIdForRequest r') with
    | some t =>
      obtain ⟨p, hp, hslot⟩ := h.built r' session (by rw [hold]; rfl)
      exact ⟨p, hsub p hp, hslot⟩
    | none =>
      refine ⟨r, by simp, ?_⟩
      by_contra hne
      rw [DefaultTaskPublisher.get_publish_absent hold hne] at hsome
      cases hsome
  · intro p hp
    rcases List.mem_append.mp hp with hp | hp
    · exact hkeep' _ _ (h.stored p hp)
    · rw [List.mem_singleton.mp hp]
      exact Option.isSome_iff_exists.mpr ⟨_, hnow⟩
  · intro id e he
    obtain ⟨p, hp, hstands⟩ := h.executions id e he
    exact ⟨p, hsub p hp, hstands⟩
  · intro call hcall
    obtain ⟨hmem, hok⟩ := h.calls call hcall
    exact ⟨hmem, hok.mono hsub fun k _ st hst => statusAt_kept h.shadow hshadow hkeep hst⟩
  · exact (statusAt_eq_some_iff hshadow).mpr ⟨_, hnow, readable_valid hvalid, rfl⟩

/-! ### Steps of a call -/

open EmbeddedTaskApiService (Moves)

theorem Sound.record_content (h : Sound svc S m s) (hS : Set.InjOn svc.sha256 S)
    (hmem : r.content ∈ S) {key : String} {existing : TaskRequestIdempotencyRecord}
    (hrec : s.store.idempotency.get? key = some existing)
    (hash : existing.requestHash = svc.requestHash r) : existing.request.content = r.content := by
  have hok := h.records key existing hrec
  exact hS hok.content hmem (hok.hash.symm.trans hash)

theorem Sound.record_hash (h : Sound svc S m s) (hbuilt : Built s.publications r)
    {existing : TaskRequestIdempotencyRecord}
    (hrec : s.store.idempotency.get? (scopedIdempotencyKey r) = some existing) :
    existing.requestHash = svc.requestHash r := by
  have hok := h.records _ existing hrec
  rw [hok.hash, EmbeddedTaskApiService.requestHash, EmbeddedTaskApiService.requestHash,
    hok.built.content_eq_of_key hbuilt h.once hok.key]

/-- **One step of a call keeps the invariant**, when it may trust the task that it finds. -/
theorem sound_moves (hS : Set.InjOn svc.sha256 S) (h : Sound svc S m s) {n : ℕ}
    {call : PublishCall} {t : PlaneState B} (hcall : s.calls[n]? = some call)
    (ha : Trusted svc s (.advance n))
    (hm : Moves svc s call.request call.readings call.phase phase t) :
    ∃ m', Sound svc S m'
      { t with calls := s.calls.set n (call.after phase s.store t.store) } := by
  obtain ⟨hmem, hok⟩ := h.calls call (List.mem_of_getElem? hcall)
  obtain ⟨r, readings, phase₀, wrote⟩ := call
  simp only at hm hmem hok
  cases hm with
  | conflict existing =>
    refine ⟨m, h.set_call hmem ?_⟩
    intro hash hash' _
    rw [PublishCall.wrote_after_same]
    exact hok
  | replays existing hrec hash =>
    have hcontent := h.record_content hS hmem hrec hash
    have hrecord := h.records _ existing hrec
    obtain ⟨p, hp, hbuilt⟩ := hrecord.built
    refine ⟨m, h.set_call hmem ⟨⟨p, hp, hbuilt.trans hcontent⟩, ?_⟩⟩
    rw [hrecord.executionId, taskId_eq_iff.mpr (scopedKey_of_content hcontent)]
    rfl
  | unavailable =>
    refine ⟨m, h.set_call hmem ?_⟩
    intro hash hash' he
    cases he
  | missed env => exact ⟨m, h.set_call hmem trivial⟩
  | unloaded executionId =>
    refine ⟨m, h.set_call hmem ?_⟩
    intro hash hash' he
    cases he
  | loaded executionId e hexec =>
    obtain ⟨hbuilt, hid⟩ := hok
    obtain ⟨p, hp, hstands, hexecId⟩ := h.executions executionId e hexec
    have htask : svc.taskIdForRequest p = svc.taskIdForRequest r :=
      executionId_eq_iff.mp (hstands.2.symm.trans (hexecId.trans hid))
    have hcontent := hbuilt.content_eq h.once hp (taskId_eq_iff.mp htask)
    exact ⟨m, h.set_call hmem ⟨hbuilt, hstands.of_content hcontent⟩⟩
  | unread e error herror =>
    refine ⟨m, h.set_call hmem ?_⟩
    intro hash hash' he
    rcases herror with rfl | ⟨e', rfl⟩ <;> cases he
  | stale e task hget =>
    obtain ⟨hbuilt, hstands⟩ := hok
    refine ⟨m, h.set_call hmem ⟨hbuilt, hstands, task.status, ?_, rfl⟩⟩
    show (TaskBus.get s.bus e.sessionId e.taskId).toOption.join.map TaskDomain.status = _
    rw [hget]
    rfl
  | current e task hget => exact ⟨m, h.set_call hmem ⟨hok.1, hok.2.1⟩⟩
  | refreshed updated =>
    obtain ⟨hbuilt, hstands, -⟩ := hok
    exact ⟨m, (h.put_execution hbuilt hstands).set_call hmem ⟨hbuilt, hstands.1⟩⟩
  | invalid env =>
    refine ⟨m, h.set_call hmem ?_⟩
    intro hash hash' he
    cases he
  | published env hvalid u bus hpub =>
    obtain ⟨hsound, hstatus⟩ := h.publish hvalid (ha _ env hcall rfl).1 hpub
    exact ⟨_, hsound.set_call hmem ⟨⟨r, by simp, rfl⟩, hstatus⟩⟩
  | refused env hvalid e bus hpub =>
    obtain ⟨htrust, hpending⟩ := ha _ env hcall rfl
    have hsound := h.refuse hvalid hpub
    -- the bus refuses a new root task because it has the task
    obtain ⟨v, hv⟩ := PublishingBus.publish_refused (t := svc.task r readings) rfl rfl
      (congrArg Prod.fst hpub)
    have hstatus : statusAt s.bus (svc.slot r) = some v.status := by
      show (TaskBus.get s.bus (svc.task r readings).sessionId
        (svc.task r readings).taskId).toOption.join.map TaskDomain.status = _
      rw [hv]
      rfl
    have hbuilt := h.built_of_stored htrust (isSome_of_statusAt h.shadow hstatus)
    rw [hpending _ hstatus] at hstatus
    refine ⟨m, hsound.set_call hmem ⟨hbuilt, ?_⟩⟩
    exact statusAt_kept h.shadow hsound.shadow (fun _ _ _ ht => ht) hstatus
  | failed env hvalid e bus hpub =>
    refine ⟨m, (h.refuse hvalid hpub).set_call hmem ?_⟩
    intro hash hash' he
    cases he
  | unconfirmed env e error herror =>
    refine ⟨m, h.set_call hmem ?_⟩
    intro hash hash' he
    rcases herror with rfl | ⟨e', rfl⟩ <;> cases he
  | confirmed env e task hget => exact ⟨m, h.set_call hmem hok⟩
  | executionPut env => exact ⟨m, (h.put_execution hok.1 ⟨rfl, rfl⟩).set_call hmem hok⟩
  | recordPut env hrec => exact ⟨m, (h.put_record readings hmem hok.1).set_call hmem hok⟩
  | recordFound env existing hrec hash => exact ⟨m, h.set_call hmem hok⟩
  | overtaken env existing hrec hash => exact absurd (h.record_hash hok.1 hrec) hash
  | accepted env =>
    have hsound : Sound svc S m
        { s with store := s.store.appendEvent (svc.acceptedEvent r readings env) } := { h with }
    exact ⟨m, hsound.set_call hmem ⟨hok.1, rfl⟩⟩

theorem sound_other (h : Sound svc S m s) {c : BusCall} (ha : Trusted svc s (.other c)) :
    ∃ m', Sound svc S m' { s with bus := (TaskBus.step s.bus c).2 } := by
  obtain ⟨m', hshadow, hkeep, hnew⟩ := shadow_step_cases h.shadow c
  refine ⟨m', { h with shadow := hshadow, built := ?_, stored := ?_, calls := ?_ }⟩
  · intro r session hsome
    rcases hnew session _ hsome with hold | ⟨t, valid, hop, hkey⟩
    · exact h.built r session hold
    · exact absurd (congrArg Prod.snd hkey) (ha.1 t valid hop r)
  · intro p hp
    exact hkeep _ _ (h.stored p hp)
  · intro call hcall
    obtain ⟨hmem, hok⟩ := h.calls call hcall
    refine ⟨hmem, hok.mono (fun _ hp => hp) ?_⟩
    intro k hk st hst
    rw [ha.2 call hcall k hk]
    exact hst

def contents (actions : List PlaneAction) : Set TaskRequest :=
  {c | ∃ request readings, .start request readings ∈ actions ∧ c = request.content}

/-- The requests that begin have their contents in `S`. -/
def Begins (S : Set TaskRequest) : PlaneAction → Prop
  | .start request _ => request.content ∈ S
  | _ => True

theorem sound_step (hS : Set.InjOn svc.sha256 S) (h : ∃ m, Sound svc S m s) {a : PlaneAction}
    (hbegins : Begins S a) (ha : Trusted svc s a) (hstep : svc.step s a = some s') :
    ∃ m, Sound svc S m s' := by
  obtain ⟨m, h⟩ := h
  obtain ⟨r, readings, rfl, rfl⟩ | ⟨n, call, phase, t, rfl, hcall, hm, rfl⟩ |
    ⟨n, call, rfl, hcall, -, rfl⟩ | ⟨c, rfl, rfl⟩ := EmbeddedTaskApiService.step_cases hstep
  · refine ⟨m, { h with calls := ?_ }⟩
    intro call hcall
    rcases List.mem_append.mp hcall with hcall | hcall
    · exact h.calls call hcall
    · rw [List.mem_singleton.mp hcall]
      exact ⟨hbegins, rfl⟩
  · exact sound_moves hS h hcall ha hm
  · exact ⟨m, h.set_call (h.calls call (List.mem_of_getElem? hcall)).1 trivial⟩
  · exact sound_other h ha

/-! ### Runs -/

theorem Sound.statusAtReturn (h : Sound svc S m s) {n : ℕ} {t : PlaneState B} {e : TaskExecution}
    (hstep : svc.step s (.advance n) = some t)
    (hphase : (t.calls[n]?).map PublishCall.phase = some (.returned e)) :
    ∃ task, TaskBus.get t.bus e.sessionId e.taskId = .ok (some task) ∧
      e.status = statusFromTask task.status := by
  obtain ⟨_, _, ha, -⟩ | ⟨k, call, phase, t, ha, hcall, hm, rfl⟩ | ⟨_, _, ha, -⟩ | ⟨_, ha, -⟩ :=
    EmbeddedTaskApiService.step_cases hstep
  · cases ha
  · cases ha
    have hlt : n < s.calls.length := (List.getElem?_eq_some_iff.mp hcall).1
    rw [List.getElem?_set_self hlt] at hphase
    obtain rfl : phase = .returned e := Option.some.inj hphase
    obtain ⟨-, hok⟩ := h.calls call (List.mem_of_getElem? hcall)
    obtain ⟨r, readings, phase₀, wrote⟩ := call
    simp only at hm hok
    -- three steps return: a task that has not changed, a refreshed one, and a new one
    cases hm with
    | current e task hget => exact ⟨task, hget, rfl⟩
    | refreshed updated =>
      obtain ⟨-, -, st, hst, hstatus⟩ := hok
      obtain ⟨task, hget, rfl⟩ := task_of_statusAt hst
      exact ⟨task, hget, hstatus⟩
    | accepted env =>
      obtain ⟨task, hget, hstatus⟩ := task_of_statusAt hok.2
      refine ⟨task, hget, ?_⟩
      rw [hstatus]
      rfl
  · cases ha
  · cases ha

theorem binds_of_sound (h : Sound svc S m s) : Binds svc s := by
  have hsome : ∀ {session i t}, TaskBus.get s.bus session i = .ok (some t) →
      (m.get session i).isSome := by
    intro session i t hget
    obtain ⟨u, hu, -⟩ := (get_eq_some h.shadow).mp hget
    rw [hu]
    rfl
  refine ⟨?_, ?_, ?_, ?_, fun n t e => h.statusAtReturn⟩
  · intro r r' hkey session session' t t' hget hget'
    obtain ⟨p, hp, hslot⟩ := h.built r session (hsome hget)
    obtain ⟨q, hq, hslot'⟩ := h.built r' session' (hsome hget')
    have hpq : scopedIdempotencyKey p = scopedIdempotencyKey q := by
      rw [taskId_eq_iff.mp (congrArg Prod.snd hslot), taskId_eq_iff.mp (congrArg Prod.snd hslot'),
        hkey]
    obtain rfl : p = q := List.inj_on_of_nodup_map h.once hp hq hpq
    obtain ⟨hsession, htask⟩ := Prod.mk.inj (hslot.symm.trans hslot')
    subst hsession
    rw [htask, hget'] at hget
    cases hget
    exact ⟨rfl, rfl⟩
  · intro key
    have hcount := List.nodup_iff_count_le_one.mp h.once key
    rw [List.count, List.countP_map, List.countP_eq_length_filter] at hcount
    simpa only [Function.comp_def, beq_eq_decide] using hcount
  · intro call hcall e hphase
    have hok := (h.calls call hcall).2
    rw [hphase] at hok
    obtain ⟨⟨p, hp, hcontent⟩, hslot⟩ := hok
    exact ⟨p, hp, hcontent, (slot_of_content hcontent).trans hslot.symm⟩
  · intro call hcall hash hash' hphase
    have hok := (h.calls call hcall).2
    rw [hphase] at hok
    exact hok hash hash' rfl

theorem sound_start {b : B} (hb : Shadow m b)
    (hfresh : ∀ r session, m.get session (svc.taskIdForRequest r) = none) :
    Sound svc S m { bus := b } := by
  refine ⟨hb, List.nodup_nil, ?_, ?_, ?_, ?_, ?_⟩
  · intro r session hsome
    rw [hfresh] at hsome
    cases hsome
  · intro p hp
    cases hp
  · intro key record hrec
    cases hrec
  · intro id e he
    cases he
  · intro call hcall
    cases hcall

theorem binds_run {b : B} (hb : Shadow m b)
    (hfresh : ∀ r session, m.get session (svc.taskIdForRequest r) = none)
    {actions : List PlaneAction} (hS : Set.InjOn svc.sha256 (contents actions))
    (htrusted : Along svc.step (Trusted svc) { bus := b } actions)
    (hrun : execAll svc.step { bus := b } actions = some s) : Binds svc s := by
  obtain ⟨m', hsound⟩ : ∃ m, Sound svc (contents actions) m s := by
    refine execAll_invariant (I := fun s => ∃ m, Sound svc (contents actions) m s)
      (A := fun s a => Trusted svc s a ∧ a ∈ actions) ?_ actions _ s ⟨m, sound_start hb hfresh⟩
      (along_mem htrusted fun _ ha => ha) hrun
    intro s a s' h ha hstep
    refine sound_step hS h ?_ ha.1 hstep
    cases a with
    | start request readings => exact ⟨request, readings, ha.2, rfl⟩
    | advance n => trivial
    | stop n => trivial
    | other c => trivial
  exact binds_of_sound hsound

end

/-- **One request, one execution.**  In every run in which each call may trust the task that it
finds, a key has one task, whoever returns had the content that it was built from, a conflict has
written nothing, and an execution is returned with the status of its task. -/
theorem publish_task_binds (svc : EmbeddedTaskApiService) (actions : List PlaneAction)
    (hS : Set.InjOn svc.sha256 (contents actions)) :
    (∀ s, Along svc.step (Trusted svc) ({ bus := InMemoryTaskBus.empty } : PlaneState _) actions →
      execAll svc.step { bus := InMemoryTaskBus.empty } actions = some s → Binds svc s) ∧
    ∀ s, Along svc.step (Trusted svc) ({ bus := SqliteTaskBus.empty } : PlaneState _) actions →
      execAll svc.step { bus := SqliteTaskBus.empty } actions = some s → Binds svc s := by
  constructor
  · intro s htrusted hrun
    exact binds_run shadow_inMemory_empty (fun _ _ => rfl) hS htrusted hrun
  · intro s htrusted hrun
    exact binds_run shadow_sqlite_empty (fun _ _ => rfl) hS htrusted hrun

/-! ### Runs on one bus -/

def PublishCall.outcome (call : PublishCall) : Option (Except PublishError TaskExecution) :=
  match call.phase with
  | .returned e => some (.ok e)
  | .raised error => some (.error error)
  | _ => none

theorem PublishCall.outcome_eq_some {call : PublishCall} {out : Except PublishError TaskExecution}
    (h : call.outcome = some out) : call.phase = EmbeddedTaskApiService.finished out := by
  unfold outcome at h
  split at h
  · next e hphase =>
    cases h
    exact hphase
  · next error hphase =>
    cases h
    exact hphase
  · cases h

/-- The condition, as a check of a run in which nobody else uses the bus. -/
def mayTrust {B : Type} [TaskBus B] (svc : EmbeddedTaskApiService) (s : PlaneState B) :
    PlaneAction → Bool
  | .advance n =>
    match s.calls[n]? with
    | some ⟨request, _, .publish _, _⟩ =>
      (s.publications.all fun p => decide (scopedIdempotencyKey p ≠ scopedIdempotencyKey request) ||
        decide (p.content = request.content)) &&
        (statusAt s.bus (svc.slot request)).all fun st => decide (st = .pending)
    | _ => true
  | .other _ => false
  | _ => true

theorem trusted_of_mayTrust {B : Type} [TaskBus B] {s : PlaneState B} {a : PlaneAction}
    (h : mayTrust svc s a = true) : Trusted svc s a := by
  cases a with
  | start request readings => trivial
  | stop n => trivial
  | other c => cases h
  | advance n =>
    intro call env hcall hphase
    obtain ⟨request, readings, phase, wrote⟩ := call
    obtain rfl : phase = .publish env := hphase
    simp only [mayTrust, hcall, Bool.and_eq_true, List.all_eq_true, Bool.or_eq_true,
      decide_eq_true_eq] at h
    refine ⟨fun p hp hkey => (h.1 p hp).resolve_left (not_not.mpr hkey), fun st hst => ?_⟩
    simpa [hst] using h.2

/-- The state after a run on a fresh service. -/
def planeAfter (actions : List PlaneAction) : Option (PlaneState InMemoryTaskBus) :=
  execAll localService.step { bus := InMemoryTaskBus.empty } actions

/-- A call puts its task on the bus and stops. -/
def interrupted (r : TaskRequest) : List PlaneAction :=
  [.start r sampleReadings, .advance 0, .advance 0, .stop 0]

/-- The second call goes through to the end, by the way of a task that is there. -/
def reissued (r : TaskRequest) : List PlaneAction :=
  .start r sampleReadings :: List.replicate 6 (.advance 1)

/-- A third call replays the execution. -/
def replayed (r : TaskRequest) : List PlaneAction :=
  .start r sampleReadings :: List.replicate 3 (.advance 2)

theorem publish_task_binds_reissued :
    ∃ s, planeAfter
        (interrupted importRequest ++ reissued importRequest ++ replayed importRequest) = some s ∧
      s.calls.map (fun c => c.outcome.any Except.isOk) = [false, true, true] ∧
      Binds localService s := by
  have hcontents : Set.InjOn localService.sha256 (contents
      (interrupted importRequest ++ reissued importRequest ++ replayed importRequest)) := by
    have hone : ∀ c ∈ contents (interrupted importRequest ++ reissued importRequest ++
        replayed importRequest), c = importRequest.content := by
      rintro c ⟨r, readings, hmem, rfl⟩
      simp [interrupted, reissued, replayed] at hmem
      obtain ⟨rfl, -⟩ | ⟨rfl, -⟩ | ⟨rfl, -⟩ := hmem
      all_goals rfl
    intro c hc c' hc' _
    rw [hone c hc, hone c' hc']
  have hrun : (planeAfter (interrupted importRequest ++ reissued importRequest ++
      replayed importRequest)).map (fun s => s.calls.map fun c => c.outcome.any Except.isOk) =
      some [false, true, true] := by decide +kernel
  obtain ⟨s, hs, hanswers⟩ := Option.map_eq_some_iff.mp hrun
  refine ⟨s, hs, hanswers, (publish_task_binds localService _ hcontents).1 s ?_ hs⟩
  have hcheck : Along localService.step (fun s a => mayTrust localService s a = true)
      ({ bus := InMemoryTaskBus.empty } : PlaneState _)
      (interrupted importRequest ++ reissued importRequest ++ replayed importRequest) := by
    decide +kernel
  exact hcheck.mono fun s a h => trusted_of_mayTrust h

/-- Another request under the key of `importRequest`. -/
def deleteRequest : TaskRequest := { importRequest with intent := ⟨"Delete.", by decide⟩ }

def lateReadings : CallReadings where
  now := ⟨2024, 1, 1, 12, 30, 0, 0, by decide⟩
  taskNow := ⟨2024, 1, 1, 12, 30, 0, 0, by decide⟩
  eventId := "event_2"

def claimed : PlaneAction :=
  .other ⟨.claimNext "external:crm_eu" "execute" "agent", .sample⟩

/-- Two calls look their key up, one after the other.  The second finds the task of the first, and
writes its execution after the first has written its record. -/
def overtaking (r r' : TaskRequest) : List PlaneAction :=
  [.start r sampleReadings, .start r' lateReadings, .advance 0, .advance 1, .advance 0, .advance 1,
    .advance 1, .advance 0, .advance 0, .advance 1, .advance 1]

theorem reissued_other_content :
    ∃ s call e, planeAfter (interrupted importRequest ++ reissued deleteRequest) = some s ∧
      s.calls[1]? = some call ∧ call.request = deleteRequest ∧ call.phase = .returned e ∧
      s.publications = [importRequest] ∧ ¬Binds localService s := by
  have hrun : (planeAfter (interrupted importRequest ++ reissued deleteRequest)).map (fun s =>
      (s.publications, (s.calls[1]?).map fun c => (c.request, c.outcome.any Except.isOk))) =
      some ([importRequest], some (deleteRequest, true)) := by decide +kernel
  obtain ⟨s, hs, hview⟩ := Option.map_eq_some_iff.mp hrun
  obtain ⟨hpubs, hcall⟩ := Prod.mk.inj hview
  obtain ⟨call, hget, hview⟩ := Option.map_eq_some_iff.mp hcall
  obtain ⟨hrequest, hout⟩ := Prod.mk.inj hview
  obtain ⟨out, hsome, hok⟩ := Option.any_eq_true _ _ |>.mp hout
  cases out with
  | error e => cases hok
  | ok e =>
    have hphase := PublishCall.outcome_eq_some hsome
    refine ⟨s, call, e, hs, hget, hrequest, hphase, hpubs, fun h => ?_⟩
    obtain ⟨p, hp, hcontent, -⟩ := h.sameRequest call (List.mem_of_getElem? hget) e hphase
    rw [hpubs, List.mem_singleton] at hp
    rw [hp, hrequest] at hcontent
    exact absurd hcontent (by decide +kernel)

theorem reissued_running :
    ∃ s t e, planeAfter (interrupted importRequest ++ [claimed] ++
        (reissued importRequest).dropLast) = some s ∧
      localService.step s (.advance 1) = some t ∧
      (t.calls[1]?).map PublishCall.phase = some (.returned e) ∧ e.status = .pending ∧
      statusAt t.bus e.slot = some .running ∧ ¬Binds localService s := by
  have hrun : (planeAfter (interrupted importRequest ++ [claimed] ++
      (reissued importRequest).dropLast)).map (fun s =>
      (localService.step s (.advance 1)).map fun t =>
        ((t.calls[1]?).bind PublishCall.outcome).map fun out =>
          out.toOption.map fun e => (e.status, statusAt t.bus e.slot)) =
      some (some (some (some (.pending, some .running)))) := by decide +kernel
  obtain ⟨s, hs, hview⟩ := Option.map_eq_some_iff.mp hrun
  obtain ⟨t, ht, hview⟩ := Option.map_eq_some_iff.mp hview
  obtain ⟨out, hout, hview⟩ := Option.map_eq_some_iff.mp hview
  obtain ⟨call, hget, hcall⟩ := Option.bind_eq_some_iff.mp hout
  obtain ⟨e, he, hview⟩ := Option.map_eq_some_iff.mp hview
  obtain ⟨hpending, hrunning⟩ := Prod.mk.inj hview
  cases out with
  | error error => cases he
  | ok e' =>
    cases he
    have hphase : (t.calls[1]?).map PublishCall.phase = some (.returned e) := by
      rw [hget, Option.map_some, PublishCall.outcome_eq_some hcall]
      rfl
    refine ⟨s, t, e, hs, ht, hphase, hpending, hrunning, fun h => ?_⟩
    obtain ⟨task, htask, hstatus⟩ := h.statusAtReturn 1 t e ht hphase
    obtain ⟨task', htask', hrun'⟩ := task_of_statusAt hrunning
    obtain rfl : task = task' := Option.some.inj (Except.ok.inj (htask.symm.trans htask'))
    rw [hpending, hrun'] at hstatus
    cases hstatus

theorem overtaken_conflict :
    ∃ s call, planeAfter (overtaking importRequest deleteRequest) = some s ∧
      s.calls[1]? = some call ∧
      call.phase = .raised (.plane (.idempotencyConflict "Import." "Delete.")) ∧
      call.wrote = true ∧ ¬Binds localService s := by
  have hrun : (planeAfter (overtaking importRequest deleteRequest)).map (fun s =>
      (s.calls[1]?).map fun c => (c.outcome, c.wrote)) =
      some (some (some (.error (.plane (.idempotencyConflict "Import." "Delete."))), true)) := by
    decide +kernel
  obtain ⟨s, hs, hview⟩ := Option.map_eq_some_iff.mp hrun
  obtain ⟨call, hget, hview⟩ := Option.map_eq_some_iff.mp hview
  obtain ⟨hout, hwrote⟩ := Prod.mk.inj hview
  have hphase := PublishCall.outcome_eq_some hout
  refine ⟨s, call, hs, hget, hphase, hwrote, fun h => ?_⟩
  have hnot := h.conflictWroteNothing call (List.mem_of_getElem? hget) _ _ hphase
  rw [hwrote] at hnot
  cases hnot

/-- **A call that trusts the task that it finds.**  It returns although the task was built from
another request, or it returns `pending` for a task that runs, or it is refused as a conflict after
it has written its execution. -/
theorem reissued_call_trusts :
    (∃ s call e, planeAfter (interrupted importRequest ++ reissued deleteRequest) = some s ∧
      s.calls[1]? = some call ∧ call.request = deleteRequest ∧ call.phase = .returned e ∧
      s.publications = [importRequest] ∧ ¬Binds localService s) ∧
    (∃ s t e, planeAfter (interrupted importRequest ++ [claimed] ++
        (reissued importRequest).dropLast) = some s ∧
      localService.step s (.advance 1) = some t ∧
      (t.calls[1]?).map PublishCall.phase = some (.returned e) ∧ e.status = .pending ∧
      statusAt t.bus e.slot = some .running ∧ ¬Binds localService s) ∧
    ∃ s call, planeAfter (overtaking importRequest deleteRequest) = some s ∧
      s.calls[1]? = some call ∧
      call.phase = .raised (.plane (.idempotencyConflict "Import." "Delete.")) ∧
      call.wrote = true ∧ ¬Binds localService s :=
  ⟨reissued_other_content, reissued_running, overtaken_conflict⟩

end Taskweavn.ExecutionPlane
