import Taskweavn.Task.BusAnswers
import Taskweavn.Task.PlanDependencies
import Taskweavn.Task.PlanLifecycle

/-!
# Archiving a plan beside its tasks

`DefaultPlanLifecycleCommandService.archive_plan` of `taskweavn/task/plan_commands.py` reads
the plan, looks at its status, and has the store archive it.  Meanwhile the tasks of the plan go
on: each lifecycle call on the bus is followed by a callback that writes the task into its node
and the status of the plan after it (`taskweavn/task/plan_lifecycle.py`).

`ArchiveWorld` has the bus, the store, the callbacks that are under way and the archive calls
between their reading and their write.  A callback takes its five steps one by one: it looks
for the node, writes it, reads the plan, reads the nodes, and writes the status.
`run_advance`: a callback that nobody disturbs is `syncTask`.

What the command does after its write, with the authoring state and a message, touches neither
tasks nor plans; it is left out.
-/

namespace Taskweavn

open Lib Py

def archiveablePlanStatuses : List PlanStatus :=
  [.awaitingAcceptance, .accepted, .followUpNeeded, .failed, .cancelled]

/-- Why the command is rejected. -/
inductive PlanArchiveRejection
  /-- Plan … not found -/
  | notFound (planId : String)
  /-- Plan is already archived -/
  | alreadyArchived
  /-- Plan status … cannot be archived -/
  | notArchiveable (status : PlanStatus)
  /-- The text of what the store has raised. -/
  | store (error : PlanStoreError)
deriving DecidableEq

/-- What `archive_plan` looks at before it writes. -/
def archiveCheck (store : SqlitePlanStore) (sessionId planId : String) :
    Except PlanArchiveRejection Plan :=
  match store.getPlan sessionId planId with
  | none => .error (.notFound planId)
  | some plan =>
    if plan.status = .archived ∨ plan.archivedAt ≠ none then .error .alreadyArchived
    else if plan.status ∉ archiveablePlanStatuses then .error (.notArchiveable plan.status)
    else .ok plan

/-- The write of `archive_plan`. -/
def archiveWrite (store : SqlitePlanStore) (sessionId planId : String)
    (expectedVersion : Option ℕ) (now : DateTime) :
    Except PlanArchiveRejection Plan × SqlitePlanStore :=
  match store.archivePlan sessionId planId expectedVersion now with
  | (.error e, store) => (.error (.store e), store)
  | (.ok archived, store) => (.ok archived, store)

theorem archiveCheck_ok {store : SqlitePlanStore} {s p : String} {plan : Plan}
    (h : archiveCheck store s p = .ok plan) :
    store.getPlan s p = some plan ∧ plan.status ∈ archiveablePlanStatuses := by
  unfold archiveCheck at h
  split at h
  · cases h
  next plan' hplan =>
  split at h
  · cases h
  split at h
  · cases h
  next hstatus =>
  cases h
  exact ⟨hplan, not_not.mp hstatus⟩

/-! ### Callbacks -/

/-- A callback under way, with what it has read. -/
inductive LifecycleSync
  /-- The call is committed. -/
  | committed (task : TaskDomain)
  /-- `_find_node` has answered. -/
  | found (task : TaskDomain) (plan : Plan) (node : PlanTaskNode)
  /-- The node is written. -/
  | written (sessionId planId : String)
  /-- `_sync_plan_status` has read the plan. -/
  | read (plan : Plan)
  /-- It has read the nodes too, and another status follows from them. -/
  | decided (plan : Plan) (status : PlanStatus)
deriving DecidableEq

namespace LifecycleSync

/-- The task that the callback has yet to write into its node. -/
def snapshot : LifecycleSync → Option TaskDomain
  | committed task | found task _ _ => some task
  | _ => none

/-- The next step of a callback.  What is raised is suppressed, and the callback is over. -/
def advance (store : SqlitePlanStore) (now : DateTime) :
    LifecycleSync → Option LifecycleSync × SqlitePlanStore
  | committed task =>
    match store.findNode task.sessionId task.taskId with
    | none => (none, store)
    | some (plan, node) => (some (found task plan node), store)
  | found task plan node =>
    match store.saveChanged (nodeFromTask node task) node now with
    | (.error _, store) => (none, store)
    | (.ok _, store) => (some (written plan.sessionId plan.planId), store)
  | written sessionId planId =>
    match store.getPlan sessionId planId with
    | none => (none, store)
    | some plan => (some (read plan), store)
  | read plan =>
    let status := planStatusFromNodes plan (store.nodesOf plan.sessionId plan.planId)
    if status = plan.status then (none, store) else (some (decided plan status), store)
  | decided plan status =>
    (none, (store.savePlan { plan with status := status } plan.version now).2)

/-- The callback to its end, with a clock reading for each step. -/
def run (store : SqlitePlanStore) : List DateTime → Option LifecycleSync → SqlitePlanStore
  | _, none => store
  | [], some _ => store
  | now :: rest, some sync =>
    let (next, store) := sync.advance store now
    run store rest next

/-- **A callback that nobody disturbs is `syncTask`.** -/
theorem run_advance (store : SqlitePlanStore) (task : TaskDomain)
    (now₁ nodeNow now₃ now₄ planNow : DateTime) :
    run store [now₁, nodeNow, now₃, now₄, planNow] (some (committed task)) =
      (store.syncTask task nodeNow planNow).2 := by
  simp only [run, advance, SqlitePlanStore.syncTask]
  cases hfind : store.findNode task.sessionId task.taskId with
  | none => rfl
  | some found =>
    obtain ⟨plan, node⟩ := found
    simp only [run, advance]
    rcases store.saveChanged (nodeFromTask node task) node nodeNow with ⟨_ | saved, store'⟩
    · rfl
    · simp only [run, advance, SqlitePlanStore.syncPlanStatus]
      cases hplan : store'.getPlan plan.sessionId plan.planId with
      | none => rfl
      | some plan' =>
        obtain ⟨hs, hp⟩ := SqlitePlanStore.plan_key_of_get hplan
        simp only [run, advance]
        rw [← hs, ← hp]
        by_cases hstatus : planStatusFromNodes plan'
            (store'.nodesOf plan'.sessionId plan'.planId) = plan'.status
        · simp only [hstatus, if_true, run]
        · simp only [hstatus, if_false, run, advance]
          generalize store'.savePlan _ plan'.version planNow = out
          obtain ⟨_ | _, _⟩ := out <;> rfl

end LifecycleSync

/-! ### The world -/

structure ArchiveCall where
  plan : Plan
  expectedVersion : Option ℕ
deriving DecidableEq

structure ArchiveWorld (B : Type) where
  bus : B
  store : SqlitePlanStore
  syncs : List LifecycleSync := []
  archives : List ArchiveCall := []

/-- What may happen next. -/
inductive ArchiveStep
  /-- A call on the bus; a callback is due for each task that it answers with. -/
  | bus (call : BusCall)
  /-- The next step of a callback. -/
  | sync (k : ℕ) (now : DateTime)
  /-- A callback is lost: its store fails, or the process stops. -/
  | lose (k : ℕ)
  /-- `archive_plan` up to its write. -/
  | archive (sessionId planId : String) (expectedVersion : Option ℕ)
  /-- The write of an archive call. -/
  | write (k : ℕ) (now : DateTime)

/-- The tasks of an answer that are handed to the callback: a publication has none. -/
def BusCall.notified (c : BusCall) (out : Except BusError Reply) : List TaskDomain :=
  match c.op with
  | .publish .. => []
  | _ => c.written out

namespace ArchiveWorld

variable {B : Type} [TaskBus B]

def step (w : ArchiveWorld B) : ArchiveStep → Option Plan × ArchiveWorld B
  | .bus call =>
    let (out, bus) := TaskBus.step w.bus call
    (none, { w with bus := bus, syncs := w.syncs ++ (call.notified out).map .committed })
  | .sync k now =>
    match w.syncs[k]? with
    | none => (none, w)
    | some sync =>
      let (next, store) := sync.advance w.store now
      (none, { w with store := store, syncs := w.syncs.eraseIdx k ++ next.toList })
  | .lose k => (none, { w with syncs := w.syncs.eraseIdx k })
  | .archive sessionId planId expectedVersion =>
    match archiveCheck w.store sessionId planId with
    | .error _ => (none, w)
    | .ok plan => (none, { w with archives := w.archives ++ [⟨plan, expectedVersion⟩] })
  | .write k now =>
    match w.archives[k]? with
    | none => (none, w)
    | some call =>
      let (out, store) := archiveWrite w.store call.plan.sessionId call.plan.planId
        call.expectedVersion now
      (out.toOption, { w with store := store, archives := w.archives.eraseIdx k })

end ArchiveWorld

end Taskweavn
