import Taskweavn.Task.Bus

/-!
# The lifecycle fields of a stored task

The lifecycle methods write overlapping sets of fields with `model_copy`, which
checks nothing, so that the fields of a stored task agree with its status has to
come from the methods themselves.  `Coherent` says what the fields hold in each
status.  `coherent_updated` is the step: a transition of a coherent task leaves a
coherent task.  Skipping and interrupting clear no field; they do not have to,
since the fields that they leave are the ones that a pending or running task has
not set yet.
-/

namespace Taskweavn

open Lib Py

namespace TaskDomain

/-- A task as a publisher builds it: pending, every lifecycle field at its default. -/
structure Fresh (t : TaskDomain) : Prop where
  status : t.status = .pending
  resultRef : t.resultRef = none
  errorRef : t.errorRef = none
  claimedBy : t.claimedBy = none
  waitingForAskId : t.waitingForAskId = none
  waitingForConfirmationId : t.waitingForConfirmationId = none
  waitingForUserSince : t.waitingForUserSince = none
  interruptRequested : t.interruptRequested = false
  interruptRequestId : t.interruptRequestId = none
  interruptReason : t.interruptReason = none
  interruptRequestedBy : t.interruptRequestedBy = none
  interruptRequestedAt : t.interruptRequestedAt = none
  startedAt : t.startedAt = none
  completedAt : t.completedAt = none

def NoWait (t : TaskDomain) : Prop :=
  t.waitingForAskId = none ∧ t.waitingForConfirmationId = none ∧ t.waitingForUserSince = none

/-- The task has not ended. -/
def Open (t : TaskDomain) : Prop :=
  t.completedAt = none ∧ t.resultRef = none ∧ t.errorRef = none

/-- Exactly one of the two links is set, and it is not blank. -/
def OneLink (t : TaskDomain) : Prop :=
  (∃ a, t.waitingForAskId = some a ∧ isBlank a = false ∧ t.waitingForConfirmationId = none) ∨
    (∃ c, t.waitingForConfirmationId = some c ∧ isBlank c = false ∧ t.waitingForAskId = none)

/-- What the lifecycle fields hold in each status. -/
def Coherent (t : TaskDomain) : Prop :=
  match t.status with
  | .pending => t.claimedBy = none ∧ t.startedAt = none ∧ t.Open ∧ t.NoWait
  | .running => t.claimedBy.isSome ∧ t.startedAt.isSome ∧ t.Open ∧ t.NoWait
  | .waitingForUser => t.OneLink ∧ t.claimedBy.isSome ∧ t.Open
  | .done => t.completedAt.isSome ∧ t.errorRef = none ∧ t.NoWait
  | .failed => t.completedAt.isSome ∧ t.errorRef.isSome ∧ t.resultRef = none ∧ t.NoWait

theorem Fresh.coherent {t : TaskDomain} (h : t.Fresh) : t.Coherent := by
  simp only [Coherent, h.status]
  exact ⟨h.claimedBy, h.startedAt, ⟨h.completedAt, h.resultRef, h.errorRef⟩,
    h.waitingForAskId, h.waitingForConfirmationId, h.waitingForUserSince⟩

theorem coherent_claimed {t : TaskDomain} (h : t.Coherent) (hp : t.status = .pending)
    (agentId : String) (env : CallEnv) : (t.claimed agentId env).Coherent := by
  simp only [Coherent, hp] at h
  exact ⟨rfl, rfl, h.2.2.1, h.2.2.2⟩

theorem coherent_recovered (t : TaskDomain) (now : DateTime) :
    (t.recoverInterruptedRunningUpdates now).Coherent :=
  ⟨rfl, rfl, rfl, rfl, rfl, rfl⟩

theorem Coherent.open_noWait {t : TaskDomain} (h : t.Coherent)
    (hs : t.status = .pending ∨ t.status = .running) : t.Open ∧ t.NoWait := by
  rcases hs with hs | hs <;> simp only [Coherent, hs] at h <;> exact h.2.2

theorem oneLink_waitForUserUpdates {tr : Transition} {i : String} {a c : Option String}
    (hargs : tr.checkArgs = .ok ())
    (h : tr = .waitForUser i ∧ a = some (strip i) ∧ c = none ∨
      tr = .waitForConfirmation i ∧ a = none ∧ c = some (strip i)) (t : TaskDomain)
    (env : CallEnv) : (t.waitForUserUpdates a c env).OneLink := by
  obtain ⟨rfl, rfl, rfl⟩ | ⟨rfl, rfl, rfl⟩ := h
  · exact .inl ⟨strip i, rfl, (isBlank_strip i).trans (requireText_eq_ok.mp hargs), rfl⟩
  · exact .inr ⟨strip i, rfl, (isBlank_strip i).trans (requireText_eq_ok.mp hargs), rfl⟩

/-- **A transition keeps the fields in step with the status.** -/
theorem coherent_updated {tr : Transition} {env : CallEnv} {t t' : TaskDomain}
    (hargs : tr.checkArgs = .ok ()) (h : tr.updated env t = .ok t') (ht : t.Coherent) :
    t'.Coherent := by
  obtain ⟨_, rfl, hs, rfl⟩ | ⟨_, rfl, hs, rfl⟩ | ⟨a, c, ⟨i, hi⟩, hs, rfl⟩ | ⟨_, _, hs, rfl⟩ |
    ⟨_, rfl, hs, rfl⟩ | ⟨_, rfl, hs, rfl⟩ | ⟨r, b, q, rfl, ⟨hs, rfl⟩ | ⟨hs, rfl⟩⟩ :=
    Transition.updated_cases h
  · exact ⟨rfl, rfl, (ht.open_noWait (.inr hs)).2⟩
  · exact ⟨rfl, rfl, rfl, rfl, rfl, rfl⟩
  · simp only [Coherent, hs] at ht
    exact ⟨oneLink_waitForUserUpdates hargs hi t env, ht.1, rfl, rfl, rfl⟩
  · exact ⟨rfl, rfl, ⟨rfl, rfl, rfl⟩, rfl, rfl, rfl⟩
  · obtain ⟨hopen, hwait⟩ := ht.open_noWait hs
    exact ⟨rfl, rfl, hopen.2.1, hwait⟩
  · exact ⟨rfl, rfl, ⟨rfl, rfl, rfl⟩, rfl, rfl, rfl⟩
  · obtain ⟨hopen, hwait⟩ := ht.open_noWait (.inl hs)
    exact ⟨rfl, rfl, hopen.2.1, hwait⟩
  · -- a running task is only marked, and the marks are no part of coherence
    have hrun : (t.interruptUpdates r b q env).status = .running := hs
    simp only [Coherent, hs] at ht
    simp only [Coherent, hrun]
    exact ht

end TaskDomain

namespace InMemoryTaskBus

/-- **Lifecycle coherence.**  After any run of calls that publishes fresh tasks
only, every stored task has the fields of its status. -/
theorem lifecycle_coherent (calls : List BusCall)
    (fresh : ∀ c ∈ calls, ∀ t valid, c.op = .publish t valid → t.Fresh)
    (k : String × String) (t : TaskDomain)
    (h : (TaskBus.run empty calls).tasks.get? k = some t) : t.Coherent := by
  refine stored_invariant (A := fun c => ∀ t valid, c.op = .publish t valid → t.Fresh) ?_
    calls fresh h
  intro bus c k t' r _ hp hok hch
  cases hch with
  | published valid hop => exact (hok t' valid hop).coherent
  | claimed t _ agentId _ _ hg hpend _ he =>
    rw [he]
    exact TaskDomain.coherent_claimed (hp k t hg) hpend agentId c.env
  | moved t tr _ hargs hg he => exact TaskDomain.coherent_updated hargs he (hp k t hg)
  | recovered t now _ _ _ _ _ he => rw [he]; exact t.coherent_recovered now

/-- A task is claimed, waits for an answer, and cannot be completed meanwhile. -/
def waitingRun : List BusCall :=
  [⟨.publish (.sample "s" "a") TaskDomain.valid_sample, .sample⟩,
   ⟨.claimNext "s" "general" "agent", .sample⟩,
   ⟨.transition "s" "a" (.waitForUser " ask "), .sample⟩,
   ⟨.transition "s" "a" (.complete none), .sample⟩]

theorem lifecycle_coherent_waitingRun :
    ∃ t, (TaskBus.run empty waitingRun).tasks.get? ("s", "a") = some t ∧
      t.waitingForAskId = some "ask" ∧ t.Coherent := by
  have hsome : ((TaskBus.run empty waitingRun).tasks.get? ("s", "a")).isSome = true := by decide
  refine ⟨_, (Option.some_get hsome).symm, by decide +revert, ?_⟩
  refine lifecycle_coherent waitingRun ?_ ("s", "a") _ (Option.some_get hsome).symm
  intro c hc t valid hop
  simp only [waitingRun, List.mem_cons, List.not_mem_nil, or_false] at hc
  rcases hc with rfl | rfl | rfl | rfl <;> cases hop
  exact ⟨rfl, rfl, rfl, rfl, rfl, rfl, rfl, rfl, rfl, rfl, rfl, rfl, rfl, rfl⟩

end InMemoryTaskBus

end Taskweavn
