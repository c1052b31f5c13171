import Taskweavn.Task.Bus

/-!
# Stored tasks stay valid

The lifecycle writes a task with `model_copy`, and nobody checks the copy until
it is read from a database.  This file follows what the constructor checks
through the lifecycle.

The methods check their text arguments, with one exception: `complete` takes any
`result_ref`, and a result reference must not be empty.  `valid_updated` is the
step, under that condition.  The other property that a database needs is metadata
that JSON does not change, which no lifecycle method writes.
-/

namespace Taskweavn

open Lib Py

namespace TaskDomain

/-- JSON does not change the dispatch metadata. -/
def MetadataStable (t : TaskDomain) : Prop :=
  ∀ d, t.dispatchConstraints = some d → ∀ k v, d.metadata.get? k = some v → v.JsonStable

theorem jsonNormal_eq_self {t : TaskDomain} (h : t.MetadataStable) : t.jsonNormal = t := by
  have hd : t.dispatchConstraints.map TaskDispatchConstraints.jsonNormal =
      t.dispatchConstraints := by
    cases hc : t.dispatchConstraints with
    | none => rfl
    | some d =>
      have hm : Codec.metadataDoc d.metadata = d.metadata := by
        refine Dict.ext ?_
        refine (List.map_congr_left ?_).trans (List.map_id _)
        intro e he
        have := h d hc e.1 e.2 (Dict.get?_eq_some_iff.mpr he)
        rw [this]
        rfl
      simp [TaskDispatchConstraints.jsonNormal, hm]
  rw [jsonNormal, hd]

theorem SameTask.metadataStable {t t' : TaskDomain} (h : t.SameTask t') (ht : t.MetadataStable) :
    t'.MetadataStable := by
  intro d hd
  exact ht d (h.dispatchConstraints ▸ hd)

/-! ### What the updates write is valid -/

theorem accepts_optText_some {s : String} : optText.accepts (some s) = true ↔ s ≠ "" :=
  decide_eq_true_iff

theorem accepts_optText_none : optText.accepts none = true := rfl

theorem valid_claimed {t : TaskDomain} (h : t.Valid) (hp : t.status = .pending) {agentId : String}
    (hag : isBlank agentId = false) (env : CallEnv) : (t.claimed agentId env).Valid := by
  obtain ⟨hf, hr, hw⟩ := h
  have hne := accepts_optText_some.mpr (ne_empty_of_not_isBlank hag)
  refine ⟨?_, hr, ?_⟩
  · simp only [fieldsOk, Bool.and_eq_true] at hf ⊢
    simp only [claimed, hf, hne, and_self]
  · simpa [WaitRule, claimed, hp] using hw

theorem valid_recovered {t : TaskDomain} (h : t.Valid) (now : DateTime) :
    (t.recoverInterruptedRunningUpdates now).Valid := by
  obtain ⟨hf, hr, _⟩ := h
  have hne : optText.accepts (some ("cancelled: " ++ t.stopReason ++
      "; safe_point=sidecar_recovery")) = true := by
    refine accepts_optText_some.mpr (append_ne_empty_of_left (append_ne_empty_of_left ?_))
    decide
  refine ⟨?_, hr, ⟨rfl, rfl, rfl⟩⟩
  simp only [fieldsOk, Bool.and_eq_true] at hf ⊢
  simp only [recoverInterruptedRunningUpdates, hf, hne, accepts_optText_none, and_self]

theorem retryIntent_ne_empty {t : TaskDomain} (h : t.intent ≠ "") (instruction : Option String) :
    t.retryIntent instruction ≠ "" := by
  unfold retryIntent
  split
  · exact h
  · split
    · exact h
    · intro he
      have := congrArg String.toList he
      simp [String.toList_append] at this

theorem valid_retryUpdates {t : TaskDomain} (h : t.Valid) (instruction : Option String) :
    (t.retryUpdates instruction).Valid := by
  obtain ⟨hf, hr, _⟩ := h
  refine ⟨?_, hr, ⟨rfl, rfl, rfl⟩⟩
  simp only [fieldsOk, Bool.and_eq_true] at hf ⊢
  have hi : Codec.text.accepts (t.retryIntent instruction) = true := by
    refine decide_eq_true (retryIntent_ne_empty ?_ instruction)
    have : Codec.text.accepts t.intent = true := by simp only [hf]
    exact of_decide_eq_true this
  simp only [retryUpdates, hf, hi, accepts_optText_none, and_self]

theorem fieldsOk_interruptUpdates {t : TaskDomain} (h : t.fieldsOk = true) {reason : String}
    (hr : isBlank reason = false) (requestedBy : TaskInterruptRequestedBy)
    (requestId : Option String) (env : CallEnv) :
    (t.interruptUpdates reason requestedBy requestId env).fieldsOk = true := by
  have hreason := accepts_optText_some.mpr (strip_ne_empty hr)
  have hid : optText.accepts
    (t.interruptUpdates reason requestedBy requestId env).interruptRequestId
      = true := by
    simp only [interruptUpdates]
    split
    · exact accepts_optText_some.mpr env.newId_ne
    · split
      · exact accepts_optText_some.mpr env.newId_ne
      · next hq => exact accepts_optText_some.mpr hq
  simp only [fieldsOk, Bool.and_eq_true] at h ⊢
  rw [hid]
  simp only [interruptUpdates, h, hreason, and_self]

theorem waitRule_of_noWait {t : TaskDomain} (hs : t.status ≠ .waitingForUser)
    (h : t.waitingForAskId = none ∧ t.waitingForConfirmationId = none ∧
      t.waitingForUserSince = none) : t.WaitRule := by
  rw [WaitRule, if_neg hs]
  exact h

theorem WaitRule.noWait {t : TaskDomain} (h : t.WaitRule) (hs : t.status ≠ .waitingForUser) :
    t.waitingForAskId = none ∧ t.waitingForConfirmationId = none ∧
      t.waitingForUserSince = none := by
  rwa [WaitRule, if_neg hs] at h

/-- **A transition of a valid task writes a valid task**, unless it completes the
task with an empty result reference. -/
theorem valid_updated {tr : Transition} {env : CallEnv} {t t' : TaskDomain}
    (hargs : tr.checkArgs = .ok ()) (hres : tr ≠ .complete (some ""))
    (h : tr.updated env t = .ok t') (ht : t.Valid) : t'.Valid := by
  obtain ⟨hf, hr, hw⟩ := ht
  obtain ⟨r, rfl, hs, rfl⟩ | ⟨e, rfl, _, rfl⟩ | ⟨a, c, ⟨i, hi⟩, hs, rfl⟩ | ⟨_, _, hs, rfl⟩ |
    ⟨r, rfl, hs, rfl⟩ | ⟨i, rfl, hs, rfl⟩ | ⟨r, b, q, rfl, ⟨hs, rfl⟩ | ⟨hs, rfl⟩⟩ :=
    Transition.updated_cases h
  · have hok : optText.accepts r = true := by
      cases r with
      | none => rfl
      | some r => exact accepts_optText_some.mpr (fun he => hres (by rw [he]))
    refine ⟨?_, hr, waitRule_of_noWait (by simp) (hw.noWait (by simp [hs]))⟩
    simp only [fieldsOk, Bool.and_eq_true] at hf ⊢
    simp only [hf, hok, accepts_optText_none, and_self]
  · have hok := accepts_optText_some.mpr (ne_empty_of_not_isBlank (requireText_eq_ok.mp hargs))
    refine ⟨?_, hr, ⟨rfl, rfl, rfl⟩⟩
    simp only [fieldsOk, Bool.and_eq_true] at hf ⊢
    simp only [hf, hok, accepts_optText_none, and_self]
  · have hok : optText.accepts a = true ∧ optText.accepts c = true ∧ a.isSome ≠ c.isSome := by
      obtain ⟨rfl, rfl, rfl⟩ | ⟨rfl, rfl, rfl⟩ := hi
      · exact ⟨accepts_optText_some.mpr (strip_ne_empty (requireText_eq_ok.mp hargs)), rfl,
          by simp⟩
      · exact ⟨rfl, accepts_optText_some.mpr (strip_ne_empty (requireText_eq_ok.mp hargs)),
          by simp⟩
    refine ⟨?_, hr, hok.2.2⟩
    simp only [fieldsOk, Bool.and_eq_true] at hf ⊢
    simp only [waitForUserUpdates, hf, hok.1, hok.2.1, accepts_optText_none, and_self]
  · refine ⟨?_, hr, ⟨rfl, rfl, rfl⟩⟩
    simp only [fieldsOk, Bool.and_eq_true] at hf ⊢
    simp only [resumeAfterUserUpdates, hf, accepts_optText_none, and_self]
  · have hok : optText.accepts (some ("skipped: " ++ r)) = true :=
      accepts_optText_some.mpr (append_ne_empty_of_left (by decide))
    have hnw : t.status ≠ .waitingForUser := by rcases hs with hs | hs <;> simp [hs]
    refine ⟨?_, hr, waitRule_of_noWait (by simp) (hw.noWait hnw)⟩
    simp only [fieldsOk, Bool.and_eq_true] at hf ⊢
    simp only [hf, hok, and_self]
  · exact valid_retryUpdates ⟨hf, hr, hw⟩ i
  · have hok : optText.accepts (some ("cancelled: " ++ strip r)) = true :=
      accepts_optText_some.mpr (append_ne_empty_of_left (by decide))
    have hmark := fieldsOk_interruptUpdates hf (requireText_eq_ok.mp hargs) b q env
    refine ⟨?_, hr, waitRule_of_noWait (by simp) (hw.noWait (by simp [hs]))⟩
    simp only [fieldsOk, Bool.and_eq_true] at hmark ⊢
    simp only [hmark, hok, and_self]
  · exact ⟨fieldsOk_interruptUpdates hf (requireText_eq_ok.mp hargs) b q env, hr, hw⟩

end TaskDomain

/-! ### Runs -/

namespace BusCall

/-- The call does not complete a task with an empty result reference. -/
def ResultRefOk (c : BusCall) : Prop := ∀ s i, c.op ≠ .transition s i (.complete (some ""))

/-- A task that the call publishes has metadata that JSON does not change. -/
def MetadataStable (c : BusCall) : Prop := ∀ t valid, c.op = .publish t valid → t.MetadataStable

/-- A task that the call publishes has an order index that fits in 64 bits. -/
def OrderIndexFits (c : BusCall) : Prop :=
  ∀ t valid, c.op = .publish t valid → t.orderIndex < 2 ^ 63

end BusCall

namespace InMemoryTaskBus

variable {bus : InMemoryTaskBus} {c : BusCall} {k : String × String} {t' : TaskDomain}
  {r : Except BusError Reply}

theorem Changed.valid (hok : c.ResultRefOk) (hv : ∀ k t, bus.tasks.get? k = some t → t.Valid)
    (h : Changed bus c k t' r) : t'.Valid := by
  cases h with
  | published valid => exact valid
  | claimed t _ agentId _ hag hg hp _ he =>
    rw [he]
    exact TaskDomain.valid_claimed (hv k t hg) hp hag c.env
  | moved t tr hop hargs hg he =>
    refine TaskDomain.valid_updated hargs ?_ he (hv k t hg)
    intro htr
    rw [htr] at hop
    exact hok _ _ hop
  | recovered t now _ _ hg _ _ he => rw [he]; exact TaskDomain.valid_recovered (hv k t hg) now

theorem Changed.metadataStable (hok : c.MetadataStable)
    (hv : ∀ k t, bus.tasks.get? k = some t → t.MetadataStable) (h : Changed bus c k t' r) :
    t'.MetadataStable := by
  cases h with
  | published valid hop => exact hok t' valid hop
  | claimed t _ agentId _ _ hg _ _ he =>
    rw [he]
    exact (t.sameTask_claimed agentId c.env).metadataStable (hv k t hg)
  | moved t tr _ _ hg he => exact (Transition.sameTask_updated he).metadataStable (hv k t hg)
  | recovered t now _ _ hg _ _ he =>
    rw [he]
    exact (t.sameTask_recovered now).metadataStable (hv k t hg)

end InMemoryTaskBus

end Taskweavn
