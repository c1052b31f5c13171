import Taskweavn.Task.Models

/-!
# The lifecycle of a published task

The two task buses differ in where they keep a task, not in what a lifecycle
call does to it: both read the task, check its status, and store a
`model_copy` of it.  This file is that common part (`taskweavn/task/bus.py`).

A call reads the clock and draws ids from outside.  `CallEnv` is what it gets:
the successive readings of `_utcnow()` during the call, and the text of
`uuid4().hex`.

`Transition` has one constructor for each lifecycle method that works on one
named task.  `Transition.checkArgs` is the method's check of its arguments,
before the task is looked up, and `Transition.updated` is the rest.
-/

namespace Taskweavn

open Lib Py

/-- `TaskStoreError`, with one constructor for each message. -/
inductive TaskStoreError
  /-- published tasks must enter TaskBus as pending -/
  | publishNotPending
  /-- task … already exists -/
  | taskExists (taskId : String)
  /-- parent task … not found -/
  | parentNotFound (parentId : String)
  /-- child task root_id must match parent root_id -/
  | rootMismatch
  /-- claim capability must not be empty -/
  | emptyCapability
  /-- claim agent_id must not be empty -/
  | emptyAgentId
  /-- failed task requires error_ref -/
  | emptyErrorRef
  /-- waiting task requires ask_id -/
  | emptyWaitAskId
  /-- waiting task requires confirmation_id -/
  | emptyWaitConfirmationId
  /-- resume requires ask_id -/
  | emptyResumeAskId
  /-- resume requires confirmation_id -/
  | emptyResumeConfirmationId
  /-- skipped task requires reason -/
  | emptySkipReason
  /-- interrupt request requires reason -/
  | emptyInterruptReason
  /-- task … not found -/
  | taskNotFound (taskId : String)
  /-- only running tasks can transition to …; got … -/
  | notRunning (status got : TaskStatus)
  /-- only running or waiting_for_user tasks can transition to failed; got … -/
  | cannotFail (got : TaskStatus)
  /-- only running tasks can wait for user; got … -/
  | cannotWait (got : TaskStatus)
  /-- only waiting_for_user tasks can resume; got … -/
  | cannotResume (got : TaskStatus)
  /-- resume ask_id does not match active ASK -/
  | askMismatch
  /-- resume confirmation_id does not match active confirmation -/
  | confirmationMismatch
  /-- only pending or running tasks can be skipped; got … -/
  | cannotSkip (got : TaskStatus)
  /-- only failed tasks can be retried; got … -/
  | cannotRetry (got : TaskStatus)
  /-- only pending or running tasks can be interrupted; got … -/
  | cannotInterrupt (got : TaskStatus)
deriving DecidableEq, Repr

/-- What a bus call may raise.  The in-memory bus raises the first kind only; a
database bus may also fail to read a row, or to bind an integer that does not
fit in 64 bits. -/
inductive BusError
  | store (error : TaskStoreError)
  | validation (error : ValidationError)
  | overflow
deriving DecidableEq, Repr

/-- What a call reads from outside: clock readings and a fresh id. -/
structure CallEnv where
  clock : ℕ → DateTime
  newId : String
  newId_ne : newId ≠ ""

/-- An environment with a clock that stands still. -/
def CallEnv.sample : CallEnv := ⟨fun _ => ⟨2024, 1, 1, 12, 0, 0, 0, by decide⟩, "6f1b", by decide⟩

namespace TaskDomain

def key (t : TaskDomain) : String × String := (t.sessionId, t.taskId)

/-! ### The updates of the lifecycle methods -/

/-- What `claim_next` writes. -/
def claimed (t : TaskDomain) (agentId : String) (env : CallEnv) : TaskDomain :=
  { t with
    status := .running
    claimedBy := some agentId
    startedAt := some (env.clock 0) }

def transitionRunning (t : TaskDomain) (status : TaskStatus) (resultRef errorRef : Option String)
    (env : CallEnv) : Except BusError TaskDomain :=
  if t.status ≠ .running then .error (.store (.notRunning status t.status))
  else .ok
    { t with
      status := status
      resultRef := resultRef
      errorRef := errorRef
      completedAt := some (env.clock 0) }

def complete (t : TaskDomain) (resultRef : Option String) (env : CallEnv) :
    Except BusError TaskDomain :=
  t.transitionRunning .done resultRef none env

def fail (t : TaskDomain) (errorRef : String) (env : CallEnv) : Except BusError TaskDomain :=
  if t.status ≠ .running ∧ t.status ≠ .waitingForUser then
    .error (.store (.cannotFail t.status))
  else .ok
    { t with
      status := .failed
      resultRef := none
      errorRef := some errorRef
      waitingForAskId := none
      waitingForConfirmationId := none
      waitingForUserSince := none
      completedAt := some (env.clock 0) }

/-- `_wait_for_user_updates` and `_wait_for_user_confirmation_updates`: the two
differ in the link that they set. -/
def waitForUserUpdates (t : TaskDomain) (askId confirmationId : Option String) (env : CallEnv) :
    TaskDomain :=
  { t with
    status := .waitingForUser
    waitingForAskId := askId
    waitingForConfirmationId := confirmationId
    waitingForUserSince := some (env.clock 0)
    resultRef := none
    errorRef := none
    completedAt := none }

def waitForUser (t : TaskDomain) (askId : String) (env : CallEnv) : Except BusError TaskDomain :=
  if t.status ≠ .running then .error (.store (.cannotWait t.status))
  else .ok (t.waitForUserUpdates (some askId) none env)

def waitForConfirmation (t : TaskDomain) (confirmationId : String) (env : CallEnv) :
    Except BusError TaskDomain :=
  if t.status ≠ .running then .error (.store (.cannotWait t.status))
  else .ok (t.waitForUserUpdates none (some confirmationId) env)

def resumeAfterUserUpdates (t : TaskDomain) : TaskDomain :=
  { t with
    status := .pending
    resultRef := none
    errorRef := none
    claimedBy := none
    waitingForAskId := none
    waitingForConfirmationId := none
    waitingForUserSince := none
    startedAt := none
    completedAt := none }

def resumeAfterUser (t : TaskDomain) (askId : String) : Except BusError TaskDomain :=
  if t.status ≠ .waitingForUser then .error (.store (.cannotResume t.status))
  else if t.waitingForAskId ≠ some askId then .error (.store .askMismatch)
  else .ok t.resumeAfterUserUpdates

def resumeAfterConfirmation (t : TaskDomain) (confirmationId : String) :
    Except BusError TaskDomain :=
  if t.status ≠ .waitingForUser then .error (.store (.cannotResume t.status))
  else if t.waitingForConfirmationId ≠ some confirmationId then
    .error (.store .confirmationMismatch)
  else .ok t.resumeAfterUserUpdates

/-- A skipped task keeps its claim and its start. -/
def skip (t : TaskDomain) (reason : String) (env : CallEnv) : Except BusError TaskDomain :=
  if t.status ≠ .pending ∧ t.status ≠ .running then .error (.store (.cannotSkip t.status))
  else .ok
    { t with
      status := .failed
      errorRef := some ("skipped: " ++ reason)
      completedAt := some (env.clock 0) }

def retryIntent (t : TaskDomain) (instruction : Option String) : String :=
  match instruction with
  | none => t.intent
  | some text =>
    if isBlank text then t.intent
    else rstrip t.intent ++ "\n\nRetry instruction:\n" ++ strip text

def retryUpdates (t : TaskDomain) (instruction : Option String) : TaskDomain :=
  { t with
    status := .pending
    resultRef := none
    errorRef := none
    claimedBy := none
    waitingForAskId := none
    waitingForConfirmationId := none
    waitingForUserSince := none
    startedAt := none
    completedAt := none
    interruptRequested := false
    interruptRequestId := none
    interruptReason := none
    interruptRequestedBy := none
    interruptRequestedAt := none
    intent := t.retryIntent instruction }

def retry (t : TaskDomain) (instruction : Option String) : Except BusError TaskDomain :=
  if t.status ≠ .failed then .error (.store (.cannotRetry t.status))
  else .ok (t.retryUpdates instruction)

/-- `_interrupt_updates`; an absent or empty request id is replaced by a new one. -/
def interruptUpdates (t : TaskDomain) (reason : String) (requestedBy : TaskInterruptRequestedBy)
    (requestId : Option String) (env : CallEnv) : TaskDomain :=
  { t with
    interruptRequested := true
    interruptRequestId :=
      match requestId with
      | none => some env.newId
      | some r => if r = "" then some env.newId else some r
    interruptReason := some (strip reason)
    interruptRequestedBy := some requestedBy
    interruptRequestedAt := some (env.clock 0) }

/-- A running task is only marked; a pending one is cancelled at once. -/
def requestInterrupt (t : TaskDomain) (reason : String) (requestedBy : TaskInterruptRequestedBy)
    (requestId : Option String) (env : CallEnv) : Except BusError TaskDomain :=
  if t.status ≠ .pending ∧ t.status ≠ .running then .error (.store (.cannotInterrupt t.status))
  else if t.status = .pending then .ok
    { t.interruptUpdates reason requestedBy requestId env with
      status := .failed
      errorRef := some ("cancelled: " ++ strip reason)
      completedAt := some (env.clock 1) }
  else .ok (t.interruptUpdates reason requestedBy requestId env)

/-- `task.interrupt_reason or "user requested stop"`, stripped. -/
def stopReason (t : TaskDomain) : String :=
  match t.interruptReason with
  | none => strip "user requested stop"
  | some r => if r = "" then strip "user requested stop" else strip r

/-- `_recover_interrupted_running_updates`, at the given clock reading. -/
def recoverInterruptedRunningUpdates (t : TaskDomain) (now : DateTime) : TaskDomain :=
  { t with
    status := .failed
    resultRef := none
    errorRef := some ("cancelled: " ++ t.stopReason ++ "; safe_point=sidecar_recovery")
    waitingForAskId := none
    waitingForConfirmationId := none
    waitingForUserSince := none
    completedAt := some now }

end TaskDomain

/-! ### The family of transitions -/

/-- A lifecycle method on one task, with its arguments. -/
inductive Transition
  | complete (resultRef : Option String)
  | fail (errorRef : String)
  | waitForUser (askId : String)
  | waitForConfirmation (confirmationId : String)
  | resumeAfterUser (askId : String)
  | resumeAfterConfirmation (confirmationId : String)
  | skip (reason : String)
  | retry (instruction : Option String)
  | requestInterrupt (reason : String) (requestedBy : TaskInterruptRequestedBy)
      (requestId : Option String)
deriving DecidableEq

/-- A text argument that must not be blank. -/
def requireText (text : String) (error : TaskStoreError) : Except BusError Unit :=
  if isBlank text then .error (.store error) else .ok ()

namespace Transition

/-- The checks made before the task is looked up. -/
def checkArgs : Transition → Except BusError Unit
  | complete _ => .ok ()
  | fail errorRef => requireText errorRef .emptyErrorRef
  | waitForUser askId => requireText askId .emptyWaitAskId
  | waitForConfirmation confirmationId => requireText confirmationId .emptyWaitConfirmationId
  | resumeAfterUser askId => requireText askId .emptyResumeAskId
  | resumeAfterConfirmation confirmationId =>
    requireText confirmationId .emptyResumeConfirmationId
  | skip reason => requireText reason .emptySkipReason
  | retry _ => .ok ()
  | requestInterrupt reason _ _ => requireText reason .emptyInterruptReason

/-- The task that the method writes. -/
def updated (tr : Transition) (env : CallEnv) (t : TaskDomain) : Except BusError TaskDomain :=
  match tr with
  | complete resultRef => t.complete resultRef env
  | fail errorRef => t.fail errorRef env
  | waitForUser askId => t.waitForUser (strip askId) env
  | waitForConfirmation confirmationId => t.waitForConfirmation (strip confirmationId) env
  | resumeAfterUser askId => t.resumeAfterUser (strip askId)
  | resumeAfterConfirmation confirmationId => t.resumeAfterConfirmation (strip confirmationId)
  | skip reason => t.skip reason env
  | retry instruction => t.retry instruction
  | requestInterrupt reason requestedBy requestId =>
    t.requestInterrupt reason requestedBy requestId env

/-- Retry and the two resumes put a task back in the queue. -/
def reopens : Transition → Bool
  | resumeAfterUser _ | resumeAfterConfirmation _ | retry _ => true
  | _ => false

end Transition

/-- The tasks that `recover_interrupted_running_tasks` writes, going through a
listing; each one written takes the next clock reading. -/
def recoveredTasks (env : CallEnv) : ℕ → List TaskDomain → List TaskDomain
  | _, [] => []
  | i, t :: rest =>
    if t.status ≠ .running ∨ t.interruptRequested = false then recoveredTasks env i rest
    else t.recoverInterruptedRunningUpdates (env.clock i) :: recoveredTasks env (i + 1) rest

/-! ### What a transition can do -/

theorem ite_raise_eq_ok {ε α : Type} {c : Prop} [Decidable c] {x y : α} {e : ε} :
    (if c then Except.error e else Except.ok x) = Except.ok y ↔ ¬c ∧ x = y := by
  by_cases h : c <;> simp [h]

theorem requireText_eq_ok {text : String} {error : TaskStoreError} {u : Unit} :
    requireText text error = .ok u ↔ isBlank text = false := by
  unfold requireText
  by_cases h : isBlank text <;> simp [h]

theorem requireText_error {text : String} {error : TaskStoreError} {e : BusError}
    (h : requireText text error = .error e) : ∃ x, e = .store x := by
  unfold requireText at h
  split at h
  · exact ⟨error, (Except.error.inj h).symm⟩
  · cases h

/-- The fields that no lifecycle call writes.  Of the rest of a published task
only the intent can change, by a retry. -/
structure TaskDomain.SameTask (t t' : TaskDomain) : Prop where
  taskId : t'.taskId = t.taskId
  sessionId : t'.sessionId = t.sessionId
  parentId : t'.parentId = t.parentId
  rootId : t'.rootId = t.rootId
  orderIndex : t'.orderIndex = t.orderIndex
  summary : t'.summary = t.summary
  instructions : t'.instructions = t.instructions
  acceptanceCriteria : t'.acceptanceCriteria = t.acceptanceCriteria
  requiredCapability : t'.requiredCapability = t.requiredCapability
  dispatchConstraints : t'.dispatchConstraints = t.dispatchConstraints
  createdBy : t'.createdBy = t.createdBy
  createdAt : t'.createdAt = t.createdAt

namespace TaskDomain

theorem SameTask.refl (t : TaskDomain) : t.SameTask t :=
  ⟨rfl, rfl, rfl, rfl, rfl, rfl, rfl, rfl, rfl, rfl, rfl, rfl⟩

theorem SameTask.symm {t t' : TaskDomain} (h : t.SameTask t') : t'.SameTask t :=
  ⟨h.1.symm, h.2.symm, h.3.symm, h.4.symm, h.5.symm, h.6.symm, h.7.symm, h.8.symm, h.9.symm,
    h.10.symm, h.11.symm, h.12.symm⟩

theorem SameTask.trans {t t' t'' : TaskDomain} (h : t.SameTask t') (h' : t'.SameTask t'') :
    t.SameTask t'' :=
  ⟨h'.1.trans h.1, h'.2.trans h.2, h'.3.trans h.3, h'.4.trans h.4, h'.5.trans h.5,
    h'.6.trans h.6, h'.7.trans h.7, h'.8.trans h.8, h'.9.trans h.9, h'.10.trans h.10,
    h'.11.trans h.11, h'.12.trans h.12⟩

theorem SameTask.key {t t' : TaskDomain} (h : t.SameTask t') : t'.key = t.key := by
  rw [TaskDomain.key, TaskDomain.key, h.sessionId, h.taskId]

theorem sameTask_claimed (t : TaskDomain) (agentId : String) (env : CallEnv) :
    t.SameTask (t.claimed agentId env) :=
  ⟨rfl, rfl, rfl, rfl, rfl, rfl, rfl, rfl, rfl, rfl, rfl, rfl⟩

theorem sameTask_recovered (t : TaskDomain) (now : DateTime) :
    t.SameTask (t.recoverInterruptedRunningUpdates now) :=
  ⟨rfl, rfl, rfl, rfl, rfl, rfl, rfl, rfl, rfl, rfl, rfl, rfl⟩

def mapConstraints (f : Option TaskDispatchConstraints → Option TaskDispatchConstraints)
    (t : TaskDomain) : TaskDomain :=
  { t with dispatchConstraints := f t.dispatchConstraints }

theorem SameTask.mapConstraints {t t' : TaskDomain} (h : t.SameTask t')
    (f : Option TaskDispatchConstraints → Option TaskDispatchConstraints) :
    (t.mapConstraints f).SameTask (t'.mapConstraints f) :=
  ⟨h.1, h.2, h.3, h.4, h.5, h.6, h.7, h.8, h.9, congrArg f h.10, h.11, h.12⟩

end TaskDomain

namespace Transition

open TaskDomain

variable {tr : Transition} {env : CallEnv} {t t' : TaskDomain}

/-- **A transition inverted**: the status it starts from, and what it writes. -/
theorem updated_cases (h : tr.updated env t = .ok t') :
    (∃ r, tr = complete r ∧ t.status = .running ∧
      t' = { t with status := .done, resultRef := r, errorRef := none,
                    completedAt := some (env.clock 0) }) ∨
    (∃ e, tr = fail e ∧ (t.status = .running ∨ t.status = .waitingForUser) ∧
      t' = { t with status := .failed, resultRef := none, errorRef := some e,
                    waitingForAskId := none, waitingForConfirmationId := none,
                    waitingForUserSince := none, completedAt := some (env.clock 0) }) ∨
    (∃ a c, (∃ i, tr = waitForUser i ∧ a = some (strip i) ∧ c = none ∨
        tr = waitForConfirmation i ∧ a = none ∧ c = some (strip i)) ∧
      t.status = .running ∧ t' = t.waitForUserUpdates a c env) ∨
    (∃ i, (tr = resumeAfterUser i ∨ tr = resumeAfterConfirmation i) ∧
      t.status = .waitingForUser ∧ t' = t.resumeAfterUserUpdates) ∨
    (∃ r, tr = skip r ∧ (t.status = .pending ∨ t.status = .running) ∧
      t' = { t with status := .failed, errorRef := some ("skipped: " ++ r),
                    completedAt := some (env.clock 0) }) ∨
    (∃ i, tr = retry i ∧ t.status = .failed ∧ t' = t.retryUpdates i) ∨
    (∃ r b q, tr = requestInterrupt r b q ∧
      (t.status = .pending ∧
        t' = { t.interruptUpdates r b q env with
                status := .failed, errorRef := some ("cancelled: " ++ strip r),
                completedAt := some (env.clock 1) } ∨
      t.status = .running ∧ t' = t.interruptUpdates r b q env)) := by
  cases tr with
  | complete r =>
    obtain ⟨hs, rfl⟩ := ite_raise_eq_ok.mp h
    exact .inl ⟨r, rfl, not_not.mp hs, rfl⟩
  | fail e =>
    obtain ⟨hs, rfl⟩ := ite_raise_eq_ok.mp h
    refine .inr (.inl ⟨e, rfl, ?_, rfl⟩)
    cases hst : t.status <;> simp_all
  | waitForUser i =>
    obtain ⟨hs, rfl⟩ := ite_raise_eq_ok.mp h
    exact .inr (.inr (.inl ⟨_, _, ⟨i, .inl ⟨rfl, rfl, rfl⟩⟩, not_not.mp hs, rfl⟩))
  | waitForConfirmation i =>
    obtain ⟨hs, rfl⟩ := ite_raise_eq_ok.mp h
    exact .inr (.inr (.inl ⟨_, _, ⟨i, .inr ⟨rfl, rfl, rfl⟩⟩, not_not.mp hs, rfl⟩))
  | resumeAfterUser i =>
    refine .inr (.inr (.inr (.inl ⟨i, .inl rfl, ?_⟩)))
    by_cases hs : t.status = .waitingForUser
    · simp only [updated, TaskDomain.resumeAfterUser, hs, ne_eq, not_true_eq_false, if_false,
        ite_raise_eq_ok] at h
      exact ⟨hs, h.2.symm⟩
    · simp [updated, TaskDomain.resumeAfterUser, hs] at h
  | resumeAfterConfirmation i =>
    refine .inr (.inr (.inr (.inl ⟨i, .inr rfl, ?_⟩)))
    by_cases hs : t.status = .waitingForUser
    · simp only [updated, TaskDomain.resumeAfterConfirmation, hs, ne_eq, not_true_eq_false,
        if_false, ite_raise_eq_ok] at h
      exact ⟨hs, h.2.symm⟩
    · simp [updated, TaskDomain.resumeAfterConfirmation, hs] at h
  | skip r =>
    obtain ⟨hs, rfl⟩ := ite_raise_eq_ok.mp h
    refine .inr (.inr (.inr (.inr (.inl ⟨r, rfl, ?_, rfl⟩))))
    cases hst : t.status <;> simp_all
  | retry i =>
    obtain ⟨hs, rfl⟩ := ite_raise_eq_ok.mp h
    exact .inr (.inr (.inr (.inr (.inr (.inl ⟨i, rfl, not_not.mp hs, rfl⟩)))))
  | requestInterrupt r b q =>
    refine .inr (.inr (.inr (.inr (.inr (.inr ⟨r, b, q, rfl, ?_⟩)))))
    cases hs : t.status <;> simp_all [updated, TaskDomain.requestInterrupt, eq_comm]

theorem sameTask_updated (h : tr.updated env t = .ok t') : t.SameTask t' := by
  obtain ⟨_, _, _, rfl⟩ | ⟨_, _, _, rfl⟩ | ⟨_, _, _, _, rfl⟩ | ⟨_, _, _, rfl⟩ | ⟨_, _, _, rfl⟩ |
    ⟨_, _, _, rfl⟩ | ⟨_, _, _, _, ⟨_, rfl⟩ | ⟨_, rfl⟩⟩ := updated_cases h <;>
    exact ⟨rfl, rfl, rfl, rfl, rfl, rfl, rfl, rfl, rfl, rfl, rfl, rfl⟩

/-- **The moves of the state machine.** -/
inductive StatusMove (tr : Transition) : TaskStatus → TaskStatus → Prop
  | close (h : tr.reopens = false) : StatusMove tr .running .done
  | fail {s : TaskStatus} (h : tr.reopens = false) (hs : s ≠ .done) : StatusMove tr s .failed
  | wait (h : tr.reopens = false) : StatusMove tr .running .waitingForUser
  | mark (h : tr.reopens = false) : StatusMove tr .running .running
  | reopen {s : TaskStatus} (h : tr.reopens = true) (hs : s = .failed ∨ s = .waitingForUser) :
      StatusMove tr s .pending

theorem statusMove_updated (h : tr.updated env t = .ok t') :
    StatusMove tr t.status t'.status := by
  obtain ⟨_, rfl, hs, rfl⟩ | ⟨_, rfl, hs, rfl⟩ | ⟨_, _, ⟨_, ⟨rfl, _⟩ | ⟨rfl, _⟩⟩, hs, rfl⟩ |
    ⟨_, rfl | rfl, hs, rfl⟩ | ⟨_, rfl, hs, rfl⟩ | ⟨_, rfl, hs, rfl⟩ |
    ⟨r, b, q, rfl, ⟨hs, rfl⟩ | ⟨hs, rfl⟩⟩ := updated_cases h
  · rw [hs]; exact .close rfl
  · exact .fail rfl (by rcases hs with hs | hs <;> simp [hs])
  · rw [hs]; exact .wait rfl
  · rw [hs]; exact .wait rfl
  · exact .reopen rfl (.inr hs)
  · exact .reopen rfl (.inr hs)
  · exact .fail rfl (by rcases hs with hs | hs <;> simp [hs])
  · exact .reopen rfl (.inl hs)
  · exact .fail rfl (by simp [hs])
  · rw [hs, show (t.interruptUpdates r b q env).status = .running from hs]
    exact .mark rfl

theorem updated_mapConstraints (f : Option TaskDispatchConstraints → Option TaskDispatchConstraints)
    (tr : Transition) (env : CallEnv) (t : TaskDomain) :
    tr.updated env (t.mapConstraints f) = (tr.updated env t).map (TaskDomain.mapConstraints f) := by
  cases tr <;>
    simp only [updated, TaskDomain.complete, TaskDomain.transitionRunning, TaskDomain.fail,
      TaskDomain.waitForUser, TaskDomain.waitForConfirmation, TaskDomain.resumeAfterUser,
      TaskDomain.resumeAfterConfirmation, TaskDomain.skip, TaskDomain.retry,
      TaskDomain.requestInterrupt, apply_ite (Except.map (TaskDomain.mapConstraints f))] <;>
    rfl

theorem updated_jsonNormal (tr : Transition) (env : CallEnv) (t : TaskDomain) :
    tr.updated env t.jsonNormal = (tr.updated env t).map TaskDomain.jsonNormal :=
  updated_mapConstraints (Option.map TaskDispatchConstraints.jsonNormal) tr env t

/-! What a lifecycle method raises is a `TaskStoreError`. -/

theorem checkArgs_error {e : BusError} (h : tr.checkArgs = .error e) : ∃ x, e = .store x := by
  cases tr with
  | complete _ => cases h
  | retry _ => cases h
  | _ => exact requireText_error h

theorem updated_error {e : BusError} (h : tr.updated env t = .error e) : ∃ x, e = .store x := by
  cases tr <;>
    simp only [updated, TaskDomain.complete, TaskDomain.transitionRunning, TaskDomain.fail,
      TaskDomain.waitForUser, TaskDomain.waitForConfirmation, TaskDomain.resumeAfterUser,
      TaskDomain.resumeAfterConfirmation, TaskDomain.skip, TaskDomain.retry,
      TaskDomain.requestInterrupt] at h <;>
    split_ifs at h <;>
    exact ⟨_, (Except.error.inj h).symm⟩

end Transition

end Taskweavn
