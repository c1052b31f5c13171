import Taskweavn.Task.BusGating
import Taskweavn.Task.Executor

/-!
# What a tick reports

The executor closes its task with an unconditional transition, after an agent has run for a long
time and others have used the bus (`taskweavn/task/execution.py`).  `tick_reports_iff` says
exactly when this goes well, on both buses: the result that `tick` returns agrees with the
claimed task if and only if the session can be listed when the tick needs it, and the task still
has a status from which the closing transition is possible.  A user who skips a task while the
agent works on it makes `complete` raise out of `tick` (`skippedMeanwhile_raises`).

`TickingBus` is what the proof needs of a bus: a lawful bus whose transitions go by what `get`
shows, and whose claims need a readable session.
-/

namespace Taskweavn

open Lib Py TaskCell StoredBus LawfulBus

/-- The status that the bus shows for a task. -/
def shownStatus {B : Type} [TaskBus B] (b : B) (k : String × String) : Option TaskStatus :=
  match TaskBus.get b k.1 k.2 with
  | .ok (some t) => some t.status
  | _ => none

/-- A lawful bus whose calls go by what it shows. -/
class TickingBus (B : Type) (Cell : outParam Type) [TaskCell Cell] extends LawfulBus B Cell where
  get_cell : ∀ {b : B} {s i : String} {t : TaskDomain}, Inv b →
    TaskBus.get b s i = .ok (some t) → ∃ u, cell b (s, i) = some u ∧ status u = some t.status
  get_none : ∀ {b : B} {s i : String}, TaskBus.get b s i = .ok none → cell b (s, i) = none
  transition_answer : ∀ (b : B) (s i : String) (tr : Transition) (env : CallEnv),
    (TaskBus.transition b s i tr env).1 = tr.checkArgs.bind fun _ =>
      match TaskBus.get b s i with
      | .error e => .error e
      | .ok none => .error (.store (.taskNotFound i))
      | .ok (some t) => tr.updated env t
  transition_cell : ∀ {b : B} {s i : String} {tr : Transition} {env : CallEnv} {t : TaskDomain},
    Inv b → (TaskBus.transition b s i tr env).1 = .ok t →
    ∃ u, cell (TaskBus.transition b s i tr env).2 (s, i) = some u ∧ status u = some t.status
  claim_ok : ∀ {b : B} {s capability agentId : String} {env : CallEnv}, Inv b →
    ((TaskBus.claimNext b s capability agentId env).1.isOk = true ↔
      isBlank capability = false ∧ isBlank agentId = false ∧
        (TaskBus.listForSession b s).isOk = true)

instance : TickingBus InMemoryTaskBus TaskDomain where
  get_cell := by
    intro b s i t _ hget
    exact ⟨t, Except.ok.inj hget, rfl⟩
  get_none hget := Except.ok.inj hget
  transition_answer := by
    intro b s i tr env
    show (b.transition s i tr env).1 = _
    have hget : TaskBus.get b s i = .ok (b.get s i) := rfl
    unfold InMemoryTaskBus.transition InMemoryTaskBus.requireTask
    rw [hget]
    cases tr.checkArgs with
    | error e => rfl
    | ok u =>
      cases b.get s i with
      | none => rfl
      | some t =>
        simp only [Except.bind]
        cases tr.updated env t <;> rfl
  transition_cell := by
    intro b s i tr env t _ hok
    have hok' : (b.transition s i tr env).1 = .ok t := hok
    show ∃ u, (b.transition s i tr env).2.tasks.get? (s, i) = some u ∧ some u.status = some t.status
    unfold InMemoryTaskBus.transition at hok' ⊢
    split at hok'
    · cases hok'
    · next updated heq =>
      cases hok'
      exact ⟨t, Dict.get?_set_self _ _ _, rfl⟩
  claim_ok := by
    intro b s capability agentId env _
    show (b.claimNext s capability agentId env).1.isOk = true ↔ _ ∧ _ ∧ true = true
    unfold InMemoryTaskBus.claimNext
    cases isBlank capability with
    | true => exact iff_of_false Bool.false_ne_true fun h => Bool.false_ne_true h.1.symm
    | false =>
      cases isBlank agentId with
      | true => exact iff_of_false Bool.false_ne_true fun h => Bool.false_ne_true h.2.1.symm
      | false =>
        simp only [Bool.false_eq_true, if_false, and_self, iff_true]
        split <;> rfl

namespace Refines

variable {m : InMemoryTaskBus} {b : SqliteTaskBus}

theorem row_of_get (h : Refines m b) {s i : String} {t : TaskDomain}
    (hget : b.get s i = .ok (some t)) :
    t.key = (s, i) ∧ ∃ row, b.rows.get? (s, i) = some row ∧ row.status = t.status.toText := by
  rcases h.get_cases s i with hok | ⟨t', e, _, _, herror⟩
  · rw [hok] at hget
    cases hm : m.get s i with
    | none =>
      rw [hm] at hget
      cases hget
    | some u =>
      rw [hm] at hget
      cases hget
      refine ⟨h.keyed (s, i) u hm, TaskRow.ofTask u, ?_, rfl⟩
      rw [h.rows, Dict.get?_map, show m.tasks.get? (s, i) = some u from hm]
      rfl
  · rw [herror] at hget
    cases hget

theorem claimNext_isOk (h : Refines m b) {s capability agentId : String} {env : CallEnv} :
    (b.claimNext s capability agentId env).1.isOk = true ↔
      isBlank capability = false ∧ isBlank agentId = false ∧ (b.listForSession s).isOk = true := by
  unfold SqliteTaskBus.claimNext
  cases isBlank capability with
  | true => exact iff_of_false Bool.false_ne_true fun h => Bool.false_ne_true h.1.symm
  | false =>
    cases isBlank agentId with
    | true => exact iff_of_false Bool.false_ne_true fun h => Bool.false_ne_true h.2.1.symm
    | false =>
      rcases h.listForSession_cases s with ⟨hvalid, hlist⟩ | ⟨_, _, e, _, _, hlist⟩
      · simp only [hlist, h.claimLoop_eq s capability hvalid, Bool.false_eq_true,
          if_false, true_and]
        cases (sortOn TaskDomain.sessionOrder
          (m.tasks.values.filter (m.claimable s capability))).head? <;> exact iff_of_true rfl rfl
      · simp only [hlist, Bool.false_eq_true, if_false, true_and]
        exact iff_of_false Bool.false_ne_true Bool.false_ne_true

end Refines

instance : TickingBus SqliteTaskBus TaskRow where
  get_cell := by
    rintro b s i t ⟨m, h⟩ hget
    obtain ⟨-, row, hrow, hstatus⟩ := h.row_of_get hget
    refine ⟨row, hrow, ?_⟩
    show TaskStatus.ofText row.status = _
    rw [hstatus]
    exact TaskStatus.ofText_toText t.status
  get_none := by
    intro b s i hget
    have hget' : b.get s i = .ok none := hget
    unfold SqliteTaskBus.get at hget'
    split at hget'
    · next h => exact h
    · next row _ => cases hrow : taskFromRow row <;> rw [hrow] at hget' <;> cases hget'
  transition_answer := by
    intro b s i tr env
    show (b.transition s i tr env).1 = _
    have hget : TaskBus.get b s i = b.get s i := rfl
    unfold SqliteTaskBus.transition SqliteTaskBus.requireTask
    rw [hget]
    cases tr.checkArgs with
    | error e => rfl
    | ok u =>
      rcases b.get s i with e | _ | t
      · rfl
      · rfl
      · simp only [Except.bind]
        cases tr.updated env t <;> rfl
  transition_cell := by
    rintro b s i tr env t ⟨m, h⟩ hok
    have hok' : (b.transition s i tr env).1 = .ok t := hok
    show ∃ u, (b.transition s i tr env).2.rows.get? (s, i) = some u ∧
      TaskStatus.ofText u.status = some t.status
    unfold SqliteTaskBus.transition at hok' ⊢
    split at hok'
    · cases hok'
    · next updated heq =>
      cases hok'
      obtain ⟨_, -, hrest⟩ := bind_eq_ok.mp heq
      obtain ⟨u, hu, hupdated⟩ := bind_eq_ok.mp hrest
      have hget : b.get s i = .ok (some u) := by
        unfold SqliteTaskBus.requireTask at hu
        split at hu <;> cases hu
        assumption
      obtain ⟨hkey, row, hrow, -⟩ := h.row_of_get hget
      have hkey' : t.key = (s, i) := (Transition.sameTask_updated hupdated).key.trans hkey
      dsimp only
      rw [SqliteTaskBus.saveTask, hkey', hrow]
      exact ⟨_, Dict.get?_set_self _ _ _, TaskStatus.ofText_toText t.status⟩
  claim_ok := by
    rintro b s capability agentId env ⟨m, h⟩
    exact h.claimNext_isOk

namespace FixedRouteTaskExecutor

/-! ### What a tick has to report -/

/-- The returned status agrees with the task at return time. -/
def Agree (r : TaskExecutionTickStatus) (s : TaskStatus) : Prop :=
  (r = .completed → s = .done) ∧ (r = .waitingForUser → s = .waitingForUser) ∧
    (r = .failed → s = .failed) ∧ s ≠ .running

/-- The claimed task, with the status `s` after the agent's run (and `late` when the waiting
branch comes to fail it), can be closed as the outcome asks. -/
def Closable (ex : FixedRouteTaskExecutor) (outcome : AgentOutcome) (s late : Option TaskStatus) :
    Prop :=
  match outcome with
  | .exception _ => s = some .running ∨ s = some .waitingForUser
  | .result r =>
    if r.waitingForUser then
      s = some .waitingForUser ∨ s = some .failed ∨
        (s = some .running ∧ (late = some .running ∨ late = some .waitingForUser))
    else if r.ok then s = some .running ∧ ¬(ex.hasStore = true ∧ r.resultRef = some "")
    else s = some .running ∨ s = some .waitingForUser

section

variable {B Cell : Type} [TaskCell Cell]

/-- The closing returns a result that agrees with the stored task. -/
def Closed [StoredBus B Cell] (claimed : TaskDomain)
    (out : Except TickError TaskExecutionTickResult × B) : Prop :=
  ∃ r, out.1 = .ok r ∧ ∃ u s, cell out.2 claimed.key = some u ∧ status u = some s ∧
    Agree r.status s

/-- A tick returns a result, and the result agrees with the task it claimed. -/
def Reports [StoredBus B Cell] (ex : FixedRouteTaskExecutor) (bus : B) (i : Interference) : Prop :=
  ∃ r, (ex.tick bus i).1 = .ok r ∧
    ∀ agent claimed bus', ex.defaultAgent = some agent →
      ex.claim bus i = (.ok (.inr claimed), bus') →
      ∃ u s, cell (ex.tick bus i).2 claimed.key = some u ∧ status u = some s ∧ Agree r.status s

/-- Where the tick goes well: the session can be listed when a task is selected and when it is
claimed, the candidate and the agent have names, and the claimed task can be closed. -/
def TickCondition [TaskBus B] (ex : FixedRouteTaskExecutor) (bus : B) (i : Interference) : Prop :=
  ∀ agent, ex.defaultAgent = some agent →
    (∃ tasks, TaskBus.listForSession bus ex.sessionId = .ok tasks ∧
      ∀ candidate, tasks.find? (eligibleAmong tasks) = some candidate →
        isBlank candidate.requiredCapability = false ∧ isBlank ex.defaultAgentId = false ∧
          (TaskBus.listForSession (TaskBus.run bus i.early) ex.sessionId).isOk = true) ∧
    ∀ claimed bus', ex.claim bus i = (.ok (.inr claimed), bus') →
      ex.Closable (agent claimed) (shownStatus (TaskBus.run bus' i.during) claimed.key)
        (shownStatus (TaskBus.run (TaskBus.run bus' i.during) i.late) claimed.key)

end

/-! ### Closing -/

section

variable {B Cell : Type} [TaskCell Cell] [TickingBus B Cell] {ex : FixedRouteTaskExecutor}
  {bus bus' : B} {claimed : TaskDomain} {i : Interference}

theorem inv_run (hb : Inv bus) (calls : List BusCall) : Inv (TaskBus.run bus calls) :=
  final_invariant (I := fun b : B => Inv b) (A := fun _ => True) (fun _ c h _ => inv_step h c) calls
    bus hb (fun _ _ => trivial)

theorem stored_run (hb : Inv bus) (calls : List BusCall) {k : String × String}
    (h : (cell bus k).isSome = true) : (cell (TaskBus.run bus calls) k).isSome = true := by
  refine (final_invariant (I := fun b : B => Inv b ∧ (cell b k).isSome = true)
    (A := fun _ => True) (fun b c hi _ => ⟨inv_step hi.1 c, ?_⟩) calls bus ⟨hb, h⟩
    (fun _ _ => trivial)).2
  obtain ⟨u, hu⟩ := Option.isSome_iff_exists.mp hi.2
  obtain ⟨u', hu', -⟩ := cell_stays hi.1 c hu
  exact Option.isSome_iff_exists.mpr ⟨u', hu'⟩

theorem not_closed_of_error {e : TickError} : ¬Closed claimed (.error e, bus) := by
  rintro ⟨r, h, -⟩
  cases h

/-- A transition of a stored task goes through exactly when the task is shown and the update is
possible, and then the new status is stored. -/
theorem transition_cases (hb : Inv bus) {tr : Transition} (hargs : tr.checkArgs = .ok ())
    (env : CallEnv) (hstored : (cell bus claimed.key).isSome = true) :
    (∃ t u b', TaskBus.get bus claimed.sessionId claimed.taskId = .ok (some t) ∧
      tr.updated env t = .ok u ∧
      TaskBus.transition bus claimed.sessionId claimed.taskId tr env = (.ok u, b') ∧
      ∃ v, cell b' claimed.key = some v ∧ status v = some u.status) ∨
    ((∀ t, TaskBus.get bus claimed.sessionId claimed.taskId = .ok (some t) →
        ∃ e, tr.updated env t = .error e) ∧
      ∃ e b', TaskBus.transition bus claimed.sessionId claimed.taskId tr env = (.error e, b')) := by
  have hanswer := TickingBus.transition_answer bus claimed.sessionId claimed.taskId tr env
  have hcell : ∀ u, (TaskBus.transition bus claimed.sessionId claimed.taskId tr env).1 = .ok u →
      ∃ v, cell (TaskBus.transition bus claimed.sessionId claimed.taskId tr env).2 claimed.key =
        some v ∧ status v = some u.status := fun u hu => TickingBus.transition_cell hb hu
  rcases htr : TaskBus.transition bus claimed.sessionId claimed.taskId tr env with ⟨out, b'⟩
  rw [htr] at hanswer
  simp only [htr] at hcell
  rw [hargs] at hanswer
  simp only [Except.bind] at hanswer
  cases hget : TaskBus.get bus claimed.sessionId claimed.taskId with
  | error e =>
    rw [hget] at hanswer
    rw [hanswer]
    exact .inr ⟨fun t h => (by cases h), _, _, rfl⟩
  | ok o =>
    cases o with
    | none =>
      rw [show cell bus claimed.key = none from TickingBus.get_none hget] at hstored
      cases hstored
    | some t =>
      rw [hget] at hanswer
      dsimp only at hanswer
      cases hupdated : tr.updated env t with
      | error e =>
        rw [hupdated] at hanswer
        rw [hanswer]
        refine .inr ⟨fun t' h => ?_, _, _, rfl⟩
        cases h
        exact ⟨e, hupdated⟩
      | ok u =>
        rw [hupdated] at hanswer
        rw [hanswer]
        exact .inl ⟨t, u, b', rfl, hupdated, rfl, hcell u hanswer⟩

theorem shownStatus_eq {t : TaskDomain}
    (hget : TaskBus.get bus claimed.sessionId claimed.taskId = .ok (some t)) :
    shownStatus bus claimed.key = some t.status := by
  unfold shownStatus
  rw [show TaskBus.get bus claimed.key.1 claimed.key.2 = .ok (some t) from hget]

theorem exists_of_shownStatus {s : TaskStatus} (h : shownStatus bus claimed.key = some s) :
    ∃ t, TaskBus.get bus claimed.sessionId claimed.taskId = .ok (some t) ∧ t.status = s := by
  unfold shownStatus at h
  split at h
  · next t hget => exact ⟨t, hget, Option.some.inj h⟩
  · cases h

theorem closed_closeFailed_iff (hb : Inv bus) (hstored : (cell bus claimed.key).isSome = true)
    {errorRef : String} (href : isBlank errorRef = false) (env : CallEnv) :
    Closed claimed (ex.closeFailed claimed errorRef bus env) ↔
      shownStatus bus claimed.key = some .running ∨
        shownStatus bus claimed.key = some .waitingForUser := by
  have hargs : (Transition.fail errorRef).checkArgs = .ok () := requireText_eq_ok.mpr href
  unfold closeFailed
  rcases transition_cases hb hargs env hstored with ⟨t, u, b', hget, hupdated, htr, v, hv, hst⟩ |
    ⟨hno, e, b', htr⟩
  · rw [htr, shownStatus_eq hget]
    rw [Transition.updated, TaskDomain.fail] at hupdated
    split at hupdated
    · cases hupdated
    · next hs =>
      cases hupdated
      refine iff_of_true ⟨_, rfl, v, _, hv, hst, by simp [Agree]⟩ ?_
      rw [Option.some.injEq, Option.some.injEq]
      by_contra hnot
      exact hs (not_or.mp hnot)
  · rw [htr]
    refine iff_of_false not_closed_of_error fun hs => ?_
    obtain ⟨t, hget, hst⟩ : ∃ t, TaskBus.get bus claimed.sessionId claimed.taskId = .ok (some t) ∧
        (t.status = .running ∨ t.status = .waitingForUser) := by
      rcases hs with hs | hs
      · obtain ⟨t, hget, hst⟩ := exists_of_shownStatus hs
        exact ⟨t, hget, .inl hst⟩
      · obtain ⟨t, hget, hst⟩ := exists_of_shownStatus hs
        exact ⟨t, hget, .inr hst⟩
    obtain ⟨e', he'⟩ := hno t hget
    have hn : ¬(t.status ≠ .running ∧ t.status ≠ .waitingForUser) := fun h => hst.elim h.1 h.2
    rw [Transition.updated, TaskDomain.fail, if_neg hn] at he'
    cases he'

theorem closed_closeCompleted_iff (hb : Inv bus) (hstored : (cell bus claimed.key).isSome = true)
    (resultRef : Option String) (env : CallEnv) :
    Closed claimed (ex.closeCompleted claimed resultRef bus env) ↔
      shownStatus bus claimed.key = some .running ∧
        ¬(ex.hasStore = true ∧ resultRef = some "") := by
  by_cases hbad : ex.hasStore = true ∧ resultRef = some ""
  · have herr : ensureResultRefReadable ex.hasStore claimed resultRef =
        .error (.summary (.field "summary_id")) := by
      simp [ensureResultRefReadable, hbad.1, hbad.2]
    simp only [closeCompleted, herr]
    exact iff_of_false not_closed_of_error (fun h => h.2 hbad)
  · obtain ⟨ref, href⟩ :
        ∃ ref, ensureResultRefReadable ex.hasStore claimed resultRef = .ok ref := by
      cases resultRef with
      | none => exact ⟨_, rfl⟩
      | some ref =>
        refine ⟨some ref, if_neg ?_⟩
        rintro ⟨hs, rfl⟩
        exact hbad ⟨hs, rfl⟩
    simp only [closeCompleted, href]
    rcases transition_cases hb (rfl : (Transition.complete ref).checkArgs = .ok ()) env hstored with
      ⟨t, u, b', hget, hupdated, htr, v, hv, hst⟩ | ⟨hno, e, b', htr⟩
    · rw [htr, shownStatus_eq hget]
      obtain ⟨hs, rfl⟩ := ite_raise_eq_ok.mp hupdated
      exact iff_of_true ⟨_, rfl, v, _, hv, hst, by simp [Agree]⟩
        ⟨congrArg some (not_not.mp hs), hbad⟩
    · rw [htr]
      refine iff_of_false not_closed_of_error fun hs => ?_
      obtain ⟨t, hget, hst⟩ := exists_of_shownStatus hs.1
      obtain ⟨e', he'⟩ := hno t hget
      have hn : ¬t.status ≠ .running := not_not.mpr hst
      rw [Transition.updated, TaskDomain.complete, TaskDomain.transitionRunning, if_neg hn] at he'
      cases he'

theorem closed_closeWaiting_iff (hb : Inv bus) (hstored : (cell bus claimed.key).isSome = true) :
    Closed claimed (ex.closeWaiting claimed bus i) ↔
      shownStatus bus claimed.key = some .waitingForUser ∨
        shownStatus bus claimed.key = some .failed ∨
        (shownStatus bus claimed.key = some .running ∧
          (shownStatus (TaskBus.run bus i.late) claimed.key = some .running ∨
            shownStatus (TaskBus.run bus i.late) claimed.key = some .waitingForUser)) := by
  have hblank : isBlank "agent_loop_waiting_without_task_state" = false := by decide
  unfold closeWaiting
  cases hget : TaskBus.get bus claimed.sessionId claimed.taskId with
  | error e =>
    refine iff_of_false not_closed_of_error fun hs => ?_
    have hshown : shownStatus bus claimed.key = none := by
      unfold shownStatus
      rw [show TaskBus.get bus claimed.key.1 claimed.key.2 = .error e from hget]
    rw [hshown] at hs
    simp at hs
  | ok o =>
    cases o with
    | none =>
      rw [show cell bus claimed.key = none from TickingBus.get_none hget] at hstored
      cases hstored
    | some t =>
      obtain ⟨u, hu, hst⟩ := TickingBus.get_cell hb hget
      rw [shownStatus_eq hget]
      simp only
      -- a result without a transition, over the task as it is
      have hkept : ∀ r : TaskExecutionTickResult, Closed claimed (.ok r, bus) ↔
          Agree r.status t.status := by
        intro r
        constructor
        · rintro ⟨r', hr, u', s, hu', hs, hagree⟩
          cases hr
          have hsame : u' = u := Option.some.inj (hu'.symm.trans hu)
          rw [hsame, hst] at hs
          cases hs
          exact hagree
        · exact fun hagree => ⟨r, rfl, u, _, hu, hst, hagree⟩
      cases hs : t.status with
      | running =>
        simp only [reduceCtorEq, if_false, true_or, if_true, Option.some.injEq, false_or, true_and]
        exact closed_closeFailed_iff (inv_run hb i.late) (stored_run hb i.late hstored) hblank
          i.closeEnv
      | waitingForUser => simp [hkept, Agree, hs]
      | failed => simp [hkept, Agree, hs]
      | pending => simp [hkept, Agree, hs]
      | done => simp [hkept, Agree, hs]

theorem isBlank_runErrorRef (errorRef : Option String) :
    isBlank (runErrorRef errorRef) = false := by
  unfold runErrorRef
  by_cases h : strip (errorRef.getD "") = ""
  · simp only [h, if_true]
    decide
  · simp only [h, if_false]
    simp [isBlank, strip_strip, h]

theorem isBlank_storeExecutionExceptionSummary (hasStore : Bool) (t : TaskDomain)
    (typeName : String) : isBlank (storeExecutionExceptionSummary hasStore t typeName) = false := by
  unfold storeExecutionExceptionSummary
  split
  · simp only [String.append_assoc]
    exact isBlank_append_of_left (by decide)
  · exact isBlank_append_of_left (by decide)

/-- **The closing of a claimed task** goes well exactly when the task can be
closed as the outcome asks. -/
theorem closed_close_iff (ex : FixedRouteTaskExecutor) (outcome : AgentOutcome) (i : Interference)
    (hb : Inv bus) (hstored : (cell bus claimed.key).isSome = true) :
    Closed claimed (ex.close claimed outcome bus i) ↔
      ex.Closable outcome (shownStatus bus claimed.key)
        (shownStatus (TaskBus.run bus i.late) claimed.key) := by
  cases outcome with
  | exception typeName =>
    exact closed_closeFailed_iff hb hstored (isBlank_storeExecutionExceptionSummary _ _ _)
      i.closeEnv
  | result r =>
    simp only [close, Closable]
    by_cases hw : r.waitingForUser = true
    · rw [if_pos hw, if_pos hw]
      exact closed_closeWaiting_iff hb hstored
    · rw [if_neg hw, if_neg hw]
      by_cases hok : r.ok = true
      · rw [if_pos hok, if_pos hok]
        exact closed_closeCompleted_iff hb hstored r.resultRef i.closeEnv
      · rw [if_neg hok, if_neg hok]
        exact closed_closeFailed_iff hb hstored (isBlank_runErrorRef _) i.closeEnv

/-! ### The whole tick -/

/-- The session can be listed, the candidate, if there is one, and the agent have names, and the
session can be listed again for the claim. -/
def Claims (ex : FixedRouteTaskExecutor) (bus : B) (i : Interference) : Prop :=
  ∃ tasks, TaskBus.listForSession bus ex.sessionId = .ok tasks ∧
    ∀ candidate, tasks.find? (eligibleAmong tasks) = some candidate →
      isBlank candidate.requiredCapability = false ∧ isBlank ex.defaultAgentId = false ∧
        (TaskBus.listForSession (TaskBus.run bus i.early) ex.sessionId).isOk = true

/-- The claim raises exactly when it cannot be made, and a claimed task is stored. -/
theorem claims_cases (ex : FixedRouteTaskExecutor) (hb : Inv bus) (i : Interference) :
    (∃ e bus', ex.claim bus i = (.error e, bus') ∧ ¬ex.Claims bus i) ∨
    (∃ r bus', ex.claim bus i = (.ok (.inl r), bus') ∧ ex.Claims bus i) ∨
    (∃ claimed bus', ex.claim bus i = (.ok (.inr claimed), bus') ∧ ex.Claims bus i ∧ Inv bus' ∧
      (cell bus' claimed.key).isSome = true) := by
  unfold claim selectNextEligiblePendingTask Claims
  cases hlist : TaskBus.listForSession bus ex.sessionId with
  | error e =>
    refine .inl ⟨_, _, rfl, ?_⟩
    rintro ⟨tasks, h, -⟩
    cases h
  | ok tasks =>
    simp only [Except.map, Except.ok.injEq, exists_eq_left']
    cases hcandidate : tasks.find? (eligibleAmong tasks) with
    | none => exact .inr (.inl ⟨_, _, rfl, fun candidate h => (by cases h)⟩)
    | some candidate =>
      have hearly : Inv (TaskBus.run bus i.early) := inv_run hb i.early
      have hok : (TaskBus.claimNext (TaskBus.run bus i.early) ex.sessionId
          candidate.requiredCapability ex.defaultAgentId i.claimEnv).1.isOk = true ↔ _ :=
        TickingBus.claim_ok hearly
      rcases hclaim : TaskBus.claimNext (TaskBus.run bus i.early) ex.sessionId
        candidate.requiredCapability ex.defaultAgentId i.claimEnv with ⟨e | _ | claimed, bus'⟩
      · rw [hclaim] at hok
        simp only [hclaim]
        refine .inl ⟨_, _, rfl, fun h => ?_⟩
        cases hok.mpr (h candidate rfl)
      · rw [hclaim] at hok
        simp only [hclaim]
        refine .inr (.inl ⟨_, _, rfl, fun candidate' h => ?_⟩)
        cases h
        exact hok.mp rfl
      · rw [hclaim] at hok
        let c : BusCall :=
          ⟨.claimNext ex.sessionId candidate.requiredCapability ex.defaultAgentId, i.claimEnv⟩
        have hstep : TaskBus.step (TaskBus.run bus i.early) c =
            (.ok (.optional (some claimed)), bus') := by
          simp only [TaskBus.step, c, hclaim]
          rfl
        obtain ⟨u, u', -, -, hu', -⟩ := LawfulBus.claim_step hearly c ex.sessionId
          candidate.requiredCapability ex.defaultAgentId claimed rfl (congrArg Prod.fst hstep)
        have hinv := inv_step hearly c
        rw [hstep] at hu' hinv
        simp only [hclaim]
        refine .inr (.inr ⟨_, _, rfl, fun candidate' h => ?_, hinv, ?_⟩)
        · cases h
          exact hok.mp rfl
        · rw [hu']
          rfl

theorem reports_iff (ex : FixedRouteTaskExecutor) (hb : Inv bus) (i : Interference) :
    ex.Reports bus i ↔ ex.TickCondition bus i := by
  cases hagent : ex.defaultAgent with
  | none =>
    have htick : (ex.tick bus i).1 = .ok
        { status := .healthError, sessionId := ex.sessionId,
          skippedReason := some "default_agent_unavailable",
          errorRef := some "default_agent_unavailable" } := by
      unfold tick
      rw [hagent]
    refine iff_of_true ⟨_, htick, fun agent _ _ h => ?_⟩ fun agent h => ?_
    · rw [hagent] at h
      cases h
    · rw [hagent] at h
      cases h
  | some agent =>
    rcases claims_cases ex hb i with ⟨e, bus', hcl, hn⟩ | ⟨r, bus', hcl, hn⟩ |
      ⟨claimed, bus', hcl, hn, hb', hstored⟩
    · have htick : ex.tick bus i = (.error e, bus') := by
        unfold tick
        rw [hagent]
        simp only [hcl]
      refine iff_of_false ?_ fun h => hn (h agent hagent).1
      rintro ⟨r, hr, -⟩
      rw [htick] at hr
      cases hr
    · have htick : ex.tick bus i = (.ok r, bus') := by
        unfold tick
        rw [hagent]
        simp only [hcl]
      refine iff_of_true ⟨r, by rw [htick], fun _ _ _ _ h => ?_⟩ fun _ _ => ⟨hn, fun _ _ h => ?_⟩
      · rw [hcl] at h
        cases h
      · rw [hcl] at h
        cases h
    · have htick : ex.tick bus i =
          ex.close claimed (agent claimed) (TaskBus.run bus' i.during) i := by
        unfold tick
        rw [hagent]
        simp only [hcl]
      have hiff := closed_close_iff ex (agent claimed) i (inv_run hb' i.during)
        (stored_run hb' i.during hstored)
      constructor
      · rintro ⟨r, hr, hrep⟩ agent' hagent'
        obtain rfl : agent = agent' := Option.some.inj (hagent.symm.trans hagent')
        refine ⟨hn, fun claimed' bus'' hcl' => ?_⟩
        rw [hcl] at hcl'
        cases hcl'
        refine hiff.mp ?_
        rw [← htick]
        exact ⟨r, hr, hrep agent claimed bus' hagent hcl⟩
      · intro hcond
        obtain ⟨r, hr, hagree⟩ := hiff.mpr ((hcond agent hagent).2 claimed bus' hcl)
        rw [← htick] at hr hagree
        refine ⟨r, hr, fun _ claimed' bus'' _ hcl' => ?_⟩
        rw [hcl] at hcl'
        cases hcl'
        exact hagree

end

/-- **A tick reports what happened to its task exactly when the task can still be
closed.**  For every state that either bus can reach, every agent and every
interference. -/
theorem tick_reports_iff (calls : List BusCall) (ex : FixedRouteTaskExecutor) (i : Interference) :
    (ex.Reports (TaskBus.run InMemoryTaskBus.empty calls) i ↔
      ex.TickCondition (TaskBus.run InMemoryTaskBus.empty calls) i) ∧
    (ex.Reports (TaskBus.run SqliteTaskBus.empty calls) i ↔
      ex.TickCondition (TaskBus.run SqliteTaskBus.empty calls) i) :=
  ⟨reports_iff ex (inv_run inv_start calls) i, reports_iff ex (inv_run inv_start calls) i⟩

/-- The `TaskStoreError` of `complete` escapes, and there is no result. -/
theorem skippedMeanwhile_raises :
    (skippedMeanwhile.1.tick (TaskBus.run InMemoryTaskBus.empty publishedRun)
      skippedMeanwhile.2).1 = .error (.bus (.store (.notRunning .done .failed))) ∧
    ¬skippedMeanwhile.1.Reports (TaskBus.run InMemoryTaskBus.empty publishedRun)
      skippedMeanwhile.2 := by
  have h : (skippedMeanwhile.1.tick (TaskBus.run InMemoryTaskBus.empty publishedRun)
      skippedMeanwhile.2).1 = .error (.bus (.store (.notRunning .done .failed))) := by
    decide +kernel
  refine ⟨h, ?_⟩
  rintro ⟨r, hr, _⟩
  rw [h] at hr
  cases hr

end FixedRouteTaskExecutor

end Taskweavn
