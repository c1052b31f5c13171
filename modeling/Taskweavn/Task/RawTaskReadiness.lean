import Taskweavn.Task.RawTaskOperations

/-!
# When a raw task is ready to be planned

A raw task with a required ask that nobody answered should wait for its user, and not be
planned.  The operations that set a status as they are told do not look at the asks, and
neither does a feasibility report that says that a plan can be made.

An operation overlooks an ask (`overlooks`) if it opens the task, that is, sets it to
`created`, `assessing` or `ready_to_plan`, while a required ask stays unanswered.
`sound_iff_orderly`: **the stored raw tasks are sound after every command of a run exactly when in
each command the last operation that sets the status overlooks no ask.**  Answers are in order
in every run (`answers_run`).
-/

namespace Taskweavn

open Lib Py

/-- The statuses in which a task neither waits nor is at an end. -/
def RawTaskStatus.opens : RawTaskStatus → Bool
  | created | assessing | readyToPlan => true
  | _ => false

namespace RawTask

variable {raw raw' : RawTask} {R : PayloadReaders} {env : OperationReadings}
  {command : MutateRawTaskCommand} {operation : RawTaskOperation}

/-! ### Sound raw tasks -/

/-- Each ask has one answer at most, and each answer is to an ask of the task. -/
structure AnswersOk (raw : RawTask) : Prop where
  once : (raw.answers.map RawTaskAnswer.askId).Nodup
  refers : ∀ answer ∈ raw.answers, ∃ ask ∈ raw.asks, ask.askId = answer.askId

/-- The status of a raw task goes with its required asks and with its answers. -/
structure Sound (raw : RawTask) : Prop extends raw.AnswersOk where
  ready : raw.status = .readyToPlan → raw.unansweredAskIds = []
  awaiting : raw.status = .awaitingUser ↔
    raw.status.terminal = false ∧ raw.unansweredAskIds ≠ []

theorem sound_iff : raw.Sound ↔
    raw.AnswersOk ∧ (raw.status.opens = true → raw.unansweredAskIds = []) := by
  constructor
  · intro h
    refine ⟨h.toAnswersOk, fun hopen => ?_⟩
    by_contra hne
    have hterm : raw.status.terminal = false := by
      revert hopen
      cases raw.status <;> decide
    rw [h.awaiting.mpr ⟨hterm, hne⟩] at hopen
    cases hopen
  · rintro ⟨hans, hopen⟩
    refine { hans with ready := ?_, awaiting := ?_ }
    · intro hs
      exact hopen (by rw [hs]; rfl)
    · constructor
      · intro hs
        refine ⟨by rw [hs]; rfl, ?_⟩
        exact RawTaskFields.unansweredAskIds_of_awaiting raw.valid hs
      · rintro ⟨hterm, hne⟩
        cases hs : raw.status with
        | awaitingUser => rfl
        | created | assessing | readyToPlan => exact absurd (hopen (by rw [hs]; rfl)) hne
        | converted | rejected | cancelled =>
          rw [hs] at hterm
          cases hterm

end RawTask

/-! ### What an operation does to the status -/

/-- How an operation sets the status. -/
inductive StatusChange
  | kept
  /-- from the asks and the answers -/
  | derived
  /-- without looking at them -/
  | told (status : RawTaskStatus)
deriving DecidableEq

namespace StatusChange

/-- A status named by a payload; what is no status is refused. -/
def named : PyValue → StatusChange
  | .str s =>
    match RawTaskStatus.ofText s with
    | some status => told status
    | none => derived
  | _ => derived

/-- The status that a report stands for, when the payload names none. -/
def ofReport (R : PayloadReaders) (payload : Dict String PyValue) : StatusChange :=
  match feasibilityFromPayload R payload with
  | .error _ => kept
  | .ok report =>
    if report.status.plannable then told .readyToPlan
    else if report.status.declined then told .rejected
    else kept

end StatusChange

namespace RawTaskOperation

open StatusChange

def statusChange (R : PayloadReaders) (operation : RawTaskOperation) : StatusChange :=
  match operation.op with
  | .create => derived
  | .setIntentSummary => kept
  | .recordFeasibility =>
    match operation.payload.get? "status" with
    | some v => named v
    | none => ofReport R operation.payload
  | .addClarificationAsk => derived
  | .applyAnswer =>
    match operation.payload.get? "status" with
    | some v => if v.truthy then named v else derived
    | none => derived
  | .updateConstraints => kept
  | .updateAssumptions => kept
  | .setStatus =>
    match operation.payload.get? "status" with
    | some v => named v
    | none => derived

/-- The required asks that stay unanswered. -/
def remaining (operation : RawTaskOperation) (raw : RawTask) : List String :=
  match operation.op with
  | .applyAnswer =>
    raw.unansweredAskIds.filter fun askId => operation.payload.get? "ask_id" != some (.str askId)
  | _ => raw.unansweredAskIds

/-- The operation opens the task while a required ask stays unanswered. -/
def overlooks (R : PayloadReaders) (operation : RawTaskOperation) (raw : RawTask) : Bool :=
  match operation.statusChange R with
  | told status => status.opens && !(operation.remaining raw).isEmpty
  | _ => false

end RawTaskOperation

/-! ### The effect of an operation -/

theorem requireStr_ok {payload : Dict String PyValue} {key s : String}
    (h : requireStr payload key = .ok s) : payload.get? key = some (.str s) := by
  unfold requireStr at h
  split at h
  · cases h
  · cases h
  · next t hget =>
    split at h
    · cases h
    · cases h
      exact hget
  · cases h

theorem statusFrom_ok {s : String} {status : RawTaskStatus} (h : statusFrom s = .ok status) :
    RawTaskStatus.ofText s = some status := by
  unfold statusFrom at h
  split at h
  · next hs =>
    cases h
    exact hs
  · cases h

theorem named_of_statusFrom {s : String} {status : RawTaskStatus} (h : statusFrom s = .ok status) :
    StatusChange.named (.str s) = .told status := by
  simp only [StatusChange.named, statusFrom_ok h]

namespace RawTaskFields

theorem unansweredAskIds_answer (r : RawTaskFields) (answer : RawTaskAnswer) :
    ({ r with answers := r.answers ++ [answer] } : RawTaskFields).unansweredAskIds =
      r.unansweredAskIds.filter fun askId => askId != answer.askId := by
  have hans : ∀ askId,
      ({ r with answers := r.answers ++ [answer] } : RawTaskFields).answered askId =
      (r.answered askId || answer.askId == askId) := by
    intro askId
    simp [answered]
  simp only [unansweredAskIds, hans, List.filter_map, List.filter_filter]
  congr 2
  funext ask
  simp only [Function.comp, bne, Bool.not_or, BEq.comm (a := ask.askId)]
  cases ask.required <;> cases r.answered ask.askId <;> cases answer.askId == ask.askId <;> rfl

end RawTaskFields

/-- What an operation has done to the status and to the unanswered asks. -/
structure Changed (R : PayloadReaders) (operation : RawTaskOperation) (raw raw' : RawTask) :
    Prop where
  kept : operation.statusChange R = .kept →
    raw'.status = raw.status ∧ raw'.unansweredAskIds = raw.unansweredAskIds
  derived : operation.statusChange R = .derived → raw'.status.opens = true →
    raw'.unansweredAskIds = []
  told : ∀ status, operation.statusChange R = .told status →
    raw'.status = status ∧ raw'.unansweredAskIds = operation.remaining raw

namespace Changed

variable {R : PayloadReaders} {env : OperationReadings} {operation : RawTaskOperation}
  {raw raw' : RawTask}

theorem of_kept (hc : operation.statusChange R = .kept) (hs : raw'.status = raw.status)
    (hu : raw'.unansweredAskIds = raw.unansweredAskIds) : Changed R operation raw raw' where
  kept _ := ⟨hs, hu⟩
  derived h := by rw [hc] at h; cases h
  told _ h := by rw [hc] at h; cases h

theorem of_derived (hc : operation.statusChange R = .derived)
    (h : raw'.status.opens = true → raw'.unansweredAskIds = []) : Changed R operation raw raw' where
  kept h' := by rw [hc] at h'; cases h'
  derived _ := h
  told _ h' := by rw [hc] at h'; cases h'

theorem of_told {status : RawTaskStatus} (hc : operation.statusChange R = .told status)
    (hs : raw'.status = status) (hu : raw'.unansweredAskIds = operation.remaining raw) :
    Changed R operation raw raw' where
  kept h := by rw [hc] at h; cases h
  derived h := by rw [hc] at h; cases h
  told st h := by
    rw [hc] at h
    cases h
    exact ⟨hs, hu⟩

theorem of_feasibility {payload : Dict String PyValue} {report : FeasibilityReport}
    {status : RawTaskStatus} (hop : operation = ⟨.recordFeasibility, payload⟩)
    (hreport : feasibilityFromPayload R payload = .ok report)
    (hstatus : statusForFeasibility report payload raw.status = .ok status)
    (hs : raw'.status = status) (hu : raw'.unansweredAskIds = raw.unansweredAskIds) :
    Changed R operation raw raw' := by
  subst hop
  unfold statusForFeasibility at hstatus
  split at hstatus
  · next v hget =>
    obtain ⟨s, hreq, hfrom⟩ := bind_eq_ok.mp hstatus
    refine of_told ?_ hs hu
    have hv := hget.symm.trans (requireStr_ok hreq)
    cases hv
    simp only [RawTaskOperation.statusChange, hget]
    exact named_of_statusFrom hfrom
  · next hget =>
    have hchange : (⟨.recordFeasibility, payload⟩ : RawTaskOperation).statusChange R =
        StatusChange.ofReport R payload := by
      simp only [RawTaskOperation.statusChange, hget]
    have hst := Except.ok.inj hstatus
    simp only [StatusChange.ofReport, hreport] at hchange
    by_cases hp : report.status.plannable = true
    · rw [if_pos hp] at hst hchange
      exact of_told hchange (hs.trans hst.symm) hu
    · rw [if_neg hp] at hst hchange
      by_cases hd : report.status.declined = true
      · rw [if_pos hd] at hst hchange
        exact of_told hchange (hs.trans hst.symm) hu
      · rw [if_neg hd] at hst hchange
        exact of_kept hchange (hs.trans hst.symm) hu

theorem of_answer {payload : Dict String PyValue} {answer : RawTaskAnswer} {status : RawTaskStatus}
    (hop : operation = ⟨.applyAnswer, payload⟩)
    (hask : payload.get? "ask_id" = some (.str answer.askId))
    (hstatus : statusForAnswer raw (raw.answers ++ [answer]) payload = .ok status)
    (hs : raw'.status = status) (hasks : raw'.asks = raw.asks)
    (hanswers : raw'.answers = raw.answers ++ [answer]) : Changed R operation raw raw' := by
  subst hop
  have hu : raw'.unansweredAskIds =
      ({ raw.toRawTaskFields with answers := raw.answers ++ [answer] }).unansweredAskIds := by
    simp only [RawTaskFields.unansweredAskIds, RawTaskFields.answered, hasks, hanswers]
  have hrem : raw'.unansweredAskIds =
      (⟨.applyAnswer, payload⟩ : RawTaskOperation).remaining raw := by
    rw [hu, RawTaskFields.unansweredAskIds_answer, RawTaskOperation.remaining]
    refine List.filter_congr fun askId _ => ?_
    rw [hask, Bool.eq_iff_iff, bne_iff_ne, bne_iff_ne, Ne, Ne, Option.some_inj, PyValue.str.injEq,
      eq_comm]
  -- without a status of its own, the answer leaves the one that the asks call for
  have hafter : statusAfterAnswers raw (raw.answers ++ [answer]) = status →
      raw'.status.opens = true → raw'.unansweredAskIds = [] := by
    intro hst hopen
    by_contra hne
    rw [statusAfterAnswers, ← hu, if_neg hne] at hst
    rw [hs, ← hst] at hopen
    cases hopen
  unfold statusForAnswer at hstatus
  split at hstatus
  · next hget =>
    refine of_derived ?_ (hafter (Except.ok.inj hstatus))
    simp only [RawTaskOperation.statusChange, hget]
  · next v hget =>
    split at hstatus
    · next htrue =>
      split at hstatus
      · next s =>
        refine of_told ?_ hs hrem
        simp only [RawTaskOperation.statusChange, hget, htrue, if_pos]
        exact named_of_statusFrom hstatus
      · cases hstatus
    · next hfalse =>
      refine of_derived ?_ (hafter (Except.ok.inj hstatus))
      simp only [RawTaskOperation.statusChange, hget]
      rw [if_neg hfalse]

end Changed

variable {R : PayloadReaders} {env : OperationReadings} {operation : RawTaskOperation}
  {command : MutateRawTaskCommand} {raw raw' : RawTask} {current : Option RawTask}

theorem answerFromPayload_ok {payload : Dict String PyValue} {answer : RawTaskAnswer}
    (h : answerFromPayload env raw payload = .ok answer) :
    payload.get? "ask_id" = some (.str answer.askId) ∧ raw.answered answer.askId = false := by
  obtain ⟨askId, hask, h⟩ := bind_eq_ok.mp h
  split at h
  · cases h
  · split at h
    · cases h
    · next hans =>
      obtain ⟨value, -, h⟩ := bind_eq_ok.mp h
      obtain ⟨source, -, h⟩ := bind_eq_ok.mp h
      obtain ⟨answerId, -, h⟩ := bind_eq_ok.mp h
      cases h
      exact ⟨requireStr_ok hask, Bool.eq_false_iff.mpr hans⟩

/-- **An operation inverted**, as far as the status, the asks and the answers go. -/
theorem changeRawTask_changed (h : changeRawTask R env operation raw = .ok raw') :
    Changed R operation raw raw' := by
  obtain ⟨op, payload⟩ := operation
  cases op with
  | create => cases h
  | setIntentSummary =>
    obtain ⟨text, -, h⟩ := bind_eq_ok.mp h
    have hfields := RawTask.validate_ok h
    exact Changed.of_kept rfl (by rw [hfields]) (by rw [hfields]; rfl)
  | recordFeasibility =>
    obtain ⟨report, hreport, h⟩ := bind_eq_ok.mp h
    obtain ⟨status, hstatus, h⟩ := bind_eq_ok.mp h
    have hfields := RawTask.validate_ok h
    exact Changed.of_feasibility rfl hreport hstatus (by rw [hfields]) (by rw [hfields]; rfl)
  | addClarificationAsk =>
    obtain ⟨ask, -, h⟩ := bind_eq_ok.mp h
    have hfields := RawTask.validate_ok h
    refine Changed.of_derived rfl fun hopen => ?_
    rw [hfields] at hopen
    cases hopen
  | applyAnswer =>
    obtain ⟨answer, hanswer, h⟩ := bind_eq_ok.mp h
    obtain ⟨status, hstatus, h⟩ := bind_eq_ok.mp h
    have hfields := RawTask.validate_ok h
    exact Changed.of_answer rfl (answerFromPayload_ok hanswer).1 hstatus (by rw [hfields])
      (by rw [hfields]) (by rw [hfields])
  | updateConstraints =>
    obtain ⟨add, -, h⟩ := bind_eq_ok.mp h
    obtain ⟨remove, -, h⟩ := bind_eq_ok.mp h
    have hfields := RawTask.validate_ok h
    exact Changed.of_kept rfl (by rw [hfields]) (by rw [hfields]; rfl)
  | updateAssumptions =>
    obtain ⟨add, -, h⟩ := bind_eq_ok.mp h
    obtain ⟨remove, -, h⟩ := bind_eq_ok.mp h
    have hfields := RawTask.validate_ok h
    exact Changed.of_kept rfl (by rw [hfields]) (by rw [hfields]; rfl)
  | setStatus =>
    obtain ⟨text, htext, h⟩ := bind_eq_ok.mp h
    obtain ⟨status, hstatus, h⟩ := bind_eq_ok.mp h
    have hfields := RawTask.validate_ok h
    refine Changed.of_told ?_ (by rw [hfields]) (by rw [hfields]; rfl)
    simp only [RawTaskOperation.statusChange, requireStr_ok htext]
    exact named_of_statusFrom hstatus

theorem changeRawTask_answers (h : changeRawTask R env operation raw = .ok raw')
    (hans : raw.AnswersOk) : raw'.AnswersOk := by
  refine ⟨?_, RawTaskFields.mem_asks_of_valid raw'.valid⟩
  obtain ⟨op, payload⟩ := operation
  cases op with
  | create => cases h
  | applyAnswer =>
    obtain ⟨answer, hanswer, h⟩ := bind_eq_ok.mp h
    obtain ⟨status, -, h⟩ := bind_eq_ok.mp h
    have hnew : answer.askId ∉ raw.answers.map RawTaskAnswer.askId := by
      have := (answerFromPayload_ok hanswer).2
      simpa [RawTaskFields.answered] using this
    rw [RawTask.validate_ok h, List.map_append, List.map_singleton, ← List.concat_eq_append,
      List.nodup_concat]
    exact ⟨hnew, hans.once⟩
  | setIntentSummary | addClarificationAsk =>
    obtain ⟨_, -, h⟩ := bind_eq_ok.mp h
    rw [RawTask.validate_ok h]
    exact hans.once
  | recordFeasibility | updateConstraints | updateAssumptions | setStatus =>
    obtain ⟨_, -, h⟩ := bind_eq_ok.mp h
    obtain ⟨_, -, h⟩ := bind_eq_ok.mp h
    rw [RawTask.validate_ok h]
    exact hans.once

theorem newRawTask_ok {payload : Dict String PyValue}
    (h : newRawTask R env command payload = .ok raw) :
    raw.asks = [] ∧ raw.answers = [] := by
  obtain ⟨new, -, h⟩ := bind_eq_ok.mp h
  rw [RawTask.validate_ok h]
  exact ⟨rfl, rfl⟩

theorem applyRawOperation_none (h : applyRawOperation R env command operation none = .ok raw) :
    operation.op = .create ∧ newRawTask R env command operation.payload = .ok raw := by
  simp only [applyRawOperation] at h
  split at h
  · next hop => exact ⟨hop, h⟩
  · cases h

/-! ### Commands -/

/-- No required ask is overlooked. -/
def Heeded (current : Option RawTask) : Prop :=
  ∀ raw, current = some raw → raw.status.opens = true → raw.unansweredAskIds = []

/-- The last of the operations that sets the status overlooks no ask; when none does,
`ok` says how it was before. -/
def settled (R : PayloadReaders) (readings : ℕ → OperationReadings)
    (command : MutateRawTaskCommand) : ℕ → List RawTaskOperation → Option RawTask → Bool → Bool
  | _, [], _, ok => ok
  | i, operation :: operations, current, ok =>
    match applyRawOperation R (readings i) command operation current with
    | .error _ => ok
    | .ok raw =>
      settled R readings command (i + 1) operations (some raw)
        (if operation.statusChange R = .kept then ok else !current.any (operation.overlooks R))

/-- An operation that keeps the status keeps the asks heeded or not; any other leaves
them heeded unless it overlooks one. -/
theorem heeded_applyRawOperation (h : applyRawOperation R env command operation current = .ok raw) :
    Heeded (some raw) ↔
      if operation.statusChange R = .kept then Heeded current
      else current.any (operation.overlooks R) = false := by
  have hsome : ∀ r : RawTask, Heeded (some r) ↔ (r.status.opens = true → r.unansweredAskIds = []) :=
    fun r => ⟨fun hc => hc r rfl, fun hc _ heq => by cases heq; exact hc⟩
  rw [hsome]
  cases current with
  | none =>
    obtain ⟨hop, hnew⟩ := applyRawOperation_none h
    obtain ⟨hasks, -⟩ := newRawTask_ok hnew
    rw [if_neg (by simp [RawTaskOperation.statusChange, hop])]
    simp [RawTaskFields.unansweredAskIds, hasks]
  | some before =>
    have hchanged := changeRawTask_changed h
    rw [Option.any_some, RawTaskOperation.overlooks]
    cases hc : operation.statusChange R with
    | kept =>
      obtain ⟨hs, hu⟩ := hchanged.kept hc
      rw [if_pos rfl, hsome, hs, hu]
    | derived =>
      rw [if_neg (by simp)]
      exact iff_of_true (hchanged.derived hc) rfl
    | told status =>
      obtain ⟨hs, hu⟩ := hchanged.told status hc
      rw [if_neg (by simp), hs, hu]
      change _ ↔ (status.opens && !(operation.remaining before).isEmpty) = false
      cases status.opens <;> simp

theorem settled_iff {readings : ℕ → OperationReadings} :
    ∀ (operations : List RawTaskOperation) (i : ℕ) (current last : Option RawTask) (ok : Bool),
      applyRawOperations R readings command i operations current = .ok last →
      (ok = true ↔ Heeded current) →
      (settled R readings command i operations current ok = true ↔ Heeded last) := by
  intro operations
  induction operations with
  | nil =>
    intro i current last ok h hok
    cases h
    exact hok
  | cons operation operations ih =>
    intro i current last ok h hok
    obtain ⟨raw, hraw, hrest⟩ := bind_eq_ok.mp h
    have hstep := heeded_applyRawOperation hraw
    rw [settled, hraw]
    refine ih (i + 1) (some raw) last _ hrest ?_
    rw [hstep]
    split
    · exact hok
    · rw [Bool.not_eq_true']

theorem answers_applyRawOperations {readings : ℕ → OperationReadings} :
    ∀ (operations : List RawTaskOperation) (i : ℕ) (current last : Option RawTask),
      applyRawOperations R readings command i operations current = .ok last →
      (∀ raw, current = some raw → raw.AnswersOk) → ∀ raw, last = some raw → raw.AnswersOk := by
  intro operations
  induction operations with
  | nil =>
    intro i current last h hcur
    cases h
    exact hcur
  | cons operation operations ih =>
    intro i current last h hcur
    obtain ⟨raw, hraw, hrest⟩ := bind_eq_ok.mp h
    refine ih (i + 1) (some raw) last hrest ?_
    rintro _ ⟨⟩
    cases current with
    | some before => exact changeRawTask_answers hraw (hcur before rfl)
    | none =>
      obtain ⟨-, hans⟩ := newRawTask_ok (applyRawOperation_none hraw).2
      constructor <;> simp [hans]

/-! ### Runs -/

/-- An accepted command, with what its operations and its save read. -/
structure RawTaskCall where
  command : MutateRawTaskCommand
  readings : ℕ → OperationReadings
  savedAt : DateTime

namespace RawTasks

variable {store store' : RawTasks} {call : RawTaskCall}

def accept (R : PayloadReaders) (store : RawTasks) (call : RawTaskCall) : Option RawTasks :=
  match store.mutateRawTask R call.readings call.savedAt call.command with
  | (.ok _, store') => some store'
  | (.error _, _) => none

/-- In the command, the last operation that sets the status overlooks no ask. -/
def Orderly (R : PayloadReaders) (store : RawTasks) (call : RawTaskCall) : Prop :=
  match store.startOf call.command with
  | .error _ => True
  | .ok start => settled R call.readings call.command 0 call.command.operations start true = true

instance (R : PayloadReaders) (store : RawTasks) (call : RawTaskCall) :
    Decidable (Orderly R store call) := by
  unfold Orderly
  split <;> infer_instance

def Sound (store : RawTasks) : Prop := ∀ key raw, store.get? key = some raw → raw.Sound

theorem write_ok {now : DateTime} (h : store.write call.command now raw = .ok store') :
    ∃ saved : RawTask, store' = store.set (raw.sessionId, raw.rawTaskId) saved ∧
      saved.status = raw.status ∧ saved.asks = raw.asks ∧ saved.answers = raw.answers := by
  unfold write at h
  split at h
  · unfold create at h
    split at h
    · cases h
    · cases h
      exact ⟨raw, rfl, rfl, rfl, rfl⟩
  · unfold save at h
    split at h
    · cases h
    · split at h
      · cases h
      · obtain ⟨saved, hsaved, h⟩ := bind_eq_ok.mp h
        cases h
        have hfields := RawTask.validate_ok hsaved
        exact ⟨saved, rfl, by rw [hfields], by rw [hfields], by rw [hfields]⟩

/-- **An accepted command inverted.** -/
theorem accept_cases (h : accept R store call = some store') :
    ∃ start last saved key, store.startOf call.command = .ok start ∧
      applyRawOperations R call.readings call.command 0 call.command.operations start =
        .ok (some last) ∧
      store' = store.set key saved ∧ saved.status = last.status ∧ saved.asks = last.asks ∧
      saved.answers = last.answers := by
  unfold accept mutateRawTask at h
  split at h
  · next hstep =>
    split at hstep
    · cases hstep
    · next written hwritten =>
      cases hstep
      cases h
      obtain ⟨start, hstart, hwritten⟩ := bind_eq_ok.mp hwritten
      obtain ⟨last, hlast, hwritten⟩ := bind_eq_ok.mp hwritten
      cases last with
      | none => cases hwritten
      | some last =>
        obtain ⟨saved, hset, hs, ha, hb⟩ := write_ok hwritten
        exact ⟨start, last, saved, _, hstart, hlast, hset, hs, ha, hb⟩
  · cases h

theorem startOf_ok {start : Option RawTask} (h : store.startOf call.command = .ok start)
    (hstart : start = some raw) : ∃ key, store.get? key = some raw := by
  subst hstart
  unfold startOf at h
  split at h
  · cases h
  · unfold requireRawTask at h
    split at h
    · cases h
    · next rawTaskId _ =>
      split at h
      · cases h
      · next found hfound =>
        cases h
        exact ⟨_, hfound⟩

theorem answers_accept (h : accept R store call = some store')
    (hans : ∀ key raw, store.get? key = some raw → raw.AnswersOk) :
    ∀ key raw, store'.get? key = some raw → raw.AnswersOk := by
  obtain ⟨start, last, saved, k, hstart, hlast, rfl, -, hasks, hanswers⟩ := accept_cases h
  intro key found hget
  rw [Dict.get?_set] at hget
  split at hget
  · cases hget
    have hok : last.AnswersOk := by
      refine answers_applyRawOperations _ 0 start _ hlast ?_ last rfl
      intro raw hraw
      obtain ⟨key, hkey⟩ := startOf_ok hstart hraw
      exact hans key raw hkey
    exact ⟨by rw [hanswers]; exact hok.once, by rw [hanswers, hasks]; exact hok.refers⟩
  · exact hans key found hget

/-- **A command keeps the stored raw tasks sound exactly when it is orderly.** -/
theorem sound_accept (hsound : store.Sound) (h : accept R store call = some store') :
    store'.Sound ↔ Orderly R store call := by
  have hanswers := answers_accept h fun key raw hget => (hsound key raw hget).toAnswersOk
  obtain ⟨start, last, saved, k, hstart, hlast, rfl, hs, hasks, hans⟩ := accept_cases h
  have hheeded : Heeded start := by
    intro raw hraw
    obtain ⟨key, hkey⟩ := startOf_ok hstart hraw
    exact (RawTask.sound_iff.mp (hsound key raw hkey)).2
  have hsettled := settled_iff _ 0 start (some last) true hlast (iff_of_true rfl hheeded)
  have hu : saved.unansweredAskIds = last.unansweredAskIds := by
    simp only [RawTaskFields.unansweredAskIds, RawTaskFields.answered, hasks, hans]
  have horderly : Orderly R store call ↔ Heeded (some last) := by
    rw [← hsettled, Orderly, hstart]
  rw [horderly]
  constructor
  · rintro hsound' _ ⟨⟩
    have := (RawTask.sound_iff.mp (hsound' k saved (Dict.get?_set_self _ _ _))).2
    rwa [hs, hu] at this
  · intro hlastHeeded key raw hget
    by_cases hk : k = key
    · rw [Dict.get?_set, if_pos hk] at hget
      cases hget
      rw [RawTask.sound_iff, hs, hu]
      exact ⟨hanswers k saved (Dict.get?_set_self _ _ _), hlastHeeded last rfl⟩
    · rw [Dict.get?_set, if_neg hk] at hget
      exact hsound key raw hget

theorem answers_run {calls : List RawTaskCall}
    (h : execAll (accept R) Dict.empty calls = some store) :
    ∀ key raw, store.get? key = some raw → raw.AnswersOk :=
  execAll_always (I := fun store : RawTasks => ∀ key raw, store.get? key = some raw → raw.AnswersOk)
    (fun _ _ _ hans hstep => answers_accept hstep hans) (fun _ _ hget => by cases hget) h

/-- **In every run of accepted commands the answers are in order, and the raw tasks are sound
throughout exactly when every command is orderly.** -/
theorem sound_iff_orderly {calls : List RawTaskCall}
    (h : execAll (accept R) Dict.empty calls = some store) :
    (∀ key raw, store.get? key = some raw → raw.AnswersOk) ∧
    ((∀ k stored, execAll (accept R) Dict.empty (calls.take k) = some stored → stored.Sound) ↔
      Along (accept R) (Orderly R) Dict.empty calls) := by
  have hempty : Sound Dict.empty := fun _ _ hget => by cases hget
  refine ⟨answers_run h, always_iff_along ?_ calls Dict.empty hempty (by rw [h]; rfl)⟩
  intro s call s' hsound hstep
  exact sound_accept hsound hstep

/-! ### A report that overlooks an ask -/

/-- Readers for payloads whose numbers are numbers and whose texts are texts. -/
def plainReaders : PayloadReaders := ⟨fun _ => "", PyValue.num⟩

/-- A command on the raw task `r1`, with new ids that do not matter. -/
def callOf (operations : List RawTaskOperation) : RawTaskCall where
  command :=
    { commandId := "c"
      sessionId := "s1"
      rawTaskId := some "r1"
      actor := user
      operations := operations
      target := fun h => by cases h }
  readings _ := ⟨fun _ => "new", DateTime.noon, DateTime.noon⟩
  savedAt := DateTime.noon

/-- The user wants a trip and is asked where to. -/
def askingCall : RawTaskCall :=
  callOf [⟨.create, createPayload "plan a trip"⟩,
    ⟨.addClarificationAsk, Dict.ofList [("ask_id", .str "a1"), ("question", .str "Where to?"),
      ("reason", .str "No place is named.")]⟩]

def answeringCall : RawTaskCall :=
  callOf [⟨.applyAnswer, Dict.ofList [("ask_id", .str "a1"), ("value", .str "Rome"),
    ("source_message_id", .str "m2")]⟩]

/-- A plan can be made. -/
def reportingCall : RawTaskCall :=
  callOf [⟨.recordFeasibility, Dict.ofList [("feasibility",
    .dict [("status", .str "ready"), ("confidence", .int 1)])]⟩]

/-- The status and the unanswered asks of the raw task after these commands. -/
def readinessAfter (calls : List RawTaskCall) : Option (Option (RawTaskStatus × List String)) :=
  (execAll (accept plainReaders) Dict.empty calls).map fun store =>
    (store.get? ("s1", "r1")).map fun raw => (raw.status, raw.unansweredAskIds)

/-- **Asked, answered, and then ready**: the raw task is sound at every step. -/
theorem readiness_answered : ∃ store : RawTasks,
    execAll (accept plainReaders) Dict.empty [askingCall, answeringCall, reportingCall] =
      some store ∧
    (∀ key raw, store.get? key = some raw → raw.AnswersOk) ∧
    ∀ k stored, execAll (accept plainReaders) Dict.empty
      ([askingCall, answeringCall, reportingCall].take k) = some stored → stored.Sound := by
  have hrun : readinessAfter [askingCall, answeringCall, reportingCall] =
      some (some (.readyToPlan, [])) := by decide +kernel
  obtain ⟨store, hstore, -⟩ := Option.map_eq_some_iff.mp hrun
  obtain ⟨hanswers, hiff⟩ := sound_iff_orderly hstore
  exact ⟨store, hstore, hanswers, hiff.mpr (by decide +kernel)⟩

/-- **Ready, although nobody answered.** -/
theorem report_overlooks_ask : ¬∀ (calls : List RawTaskCall) (store : RawTasks),
    execAll (accept plainReaders) Dict.empty calls = some store → store.Sound := by
  intro hsound
  have hrun : readinessAfter [askingCall, reportingCall] =
      some (some (.readyToPlan, ["a1"])) := by decide +kernel
  obtain ⟨store, hstore, hview⟩ := Option.map_eq_some_iff.mp hrun
  obtain ⟨raw, hraw, hview⟩ := Option.map_eq_some_iff.mp hview
  obtain ⟨hstatus, hu⟩ := Prod.mk.inj hview
  have hnil := (hsound _ store hstore _ raw hraw).ready hstatus
  rw [hu] at hnil
  cases hnil

end RawTasks

end Taskweavn
