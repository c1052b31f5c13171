import Taskweavn.Task.BusRefinement

/-!
# Parent gating and exclusive claiming

A task waits for its parent: `claim_next` hands it out only when the parent is
done.  The gate is looked at in that one place, while parent and child go on
moving on their own, so that it holds of every state is a matter of what the
other calls cannot do: nothing moves a task out of `done`, and only a claim moves
a task to `running`.

`LawfulBus` says this of a bus in general.  A bus has a cell for each stored
task, with a parent, a root and a status, and `cell_step` lists what a call can
do to a cell.  Both buses are instances, the SQLite bus through its refinement
of the in-memory bus, and with rows that can no longer be read included.  The
results, in `Gating`, are proved once:

* parents are stored, and the chain of parents ends at the root;
* a task that has been started has a finished parent;
* a finished task never changes;
* between two claims of a task it was resumed or retried.
-/

namespace Taskweavn

open Lib Py

/-- What a stored task shows. -/
class TaskCell (Cell : Type) where
  parentId : Cell → Option String
  rootId : Cell → String
  status : Cell → Option TaskStatus

/-- A bus with a cell for each stored task. -/
class StoredBus (B : Type) (Cell : outParam Type) [TaskCell Cell] extends TaskBus B where
  start : B
  cell : B → String × String → Option Cell

open TaskCell StoredBus

section Spec

variable {B Cell : Type} [TaskCell Cell] [StoredBus B Cell]

/-- What a call can put into the cell of a key. -/
inductive CellChange (b : B) (c : BusCall) (k : String × String) (u' : Cell)
    (out : Except BusError Reply) : Prop
  | published (absent : cell b k = none)
      (pending : status u' = some .pending) (root : parentId u' = none → rootId u' = k.2)
      (parent : ∀ p, parentId u' = some p → ∃ v, cell b (k.1, p) = some v ∧ rootId v = rootId u')
  | claimed (u : Cell) (present : cell b k = some u)
      (same : parentId u' = parentId u ∧ rootId u' = rootId u)
      (pending : status u = some .pending) (running : status u' = some .running)
      (parent : ∀ p, parentId u = some p → ∃ v, cell b (k.1, p) = some v ∧ status v = some .done)
  | moved (u : Cell) (tr : Transition) (t : TaskDomain) (s s' : TaskStatus)
      (hop : c.op = .transition k.1 k.2 tr) (present : cell b k = some u)
      (same : parentId u' = parentId u ∧ rootId u' = rootId u)
      (hs : status u = some s) (hs' : status u' = some s') (move : tr.StatusMove s s')
      (reply : out = .ok (.task t))
  | recovered (u : Cell) (present : cell b k = some u)
      (same : parentId u' = parentId u ∧ rootId u' = rootId u)
      (running : status u = some .running) (failed : status u' = some .failed)

inductive Chain (b : B) (sessionId : String) : String → String → Prop
  | root {i : String} {u : Cell} (h : cell b (sessionId, i) = some u) (hp : parentId u = none) :
      Chain b sessionId i i
  | parent {i p r : String} {u : Cell} (h : cell b (sessionId, i) = some u)
      (hp : parentId u = some p) (hc : Chain b sessionId p r) : Chain b sessionId i r

end Spec

/-- A bus that changes its cells in the listed ways only. -/
class LawfulBus (B : Type) (Cell : outParam Type) [TaskCell Cell] extends
    StoredBus B Cell where
  Inv : B → Prop
  inv_start : Inv start
  inv_step : ∀ {b : B}, Inv b → ∀ c, Inv (TaskBus.step b c).2
  cell_start : ∀ k, cell start k = none
  cell_step : ∀ {b : B}, Inv b → ∀ c k, cell (TaskBus.step b c).2 k = cell b k ∨
    ∃ u', cell (TaskBus.step b c).2 k = some u' ∧ CellChange b c k u' (TaskBus.step b c).1
  claim_step : ∀ {b : B}, Inv b → ∀ c s capability agentId t,
    c.op = .claimNext s capability agentId →
    (TaskBus.step b c).1 = .ok (.optional (some t)) →
    ∃ u u', cell b t.key = some u ∧ status u = some .pending ∧
      cell (TaskBus.step b c).2 t.key = some u' ∧ status u' = some .running

/-- The task has been handed out, and has not failed. -/
def TaskStatus.Started (s : TaskStatus) : Prop := s = .running ∨ s = .waitingForUser ∨ s = .done

/-- Parent gating and exclusive claiming, over all runs of a bus. -/
structure Gating (B : Type) {Cell : Type} [TaskCell Cell] [StoredBus B Cell] : Prop where
  parents : ∀ (calls : List BusCall) k (u : Cell), cell (TaskBus.run (start : B) calls) k = some u →
    (∀ p, parentId u = some p →
      ∃ v, cell (TaskBus.run (start : B) calls) (k.1, p) = some v ∧ rootId v = rootId u) ∧
    Chain (TaskBus.run (start : B) calls) k.1 k.2 (rootId u)
  gate : ∀ (calls : List BusCall) k (u : Cell) s p,
    cell (TaskBus.run (start : B) calls) k = some u → status u = some s → s.Started →
    parentId u = some p →
    ∃ v, cell (TaskBus.run (start : B) calls) (k.1, p) = some v ∧ status v = some .done
  done_fixed : ∀ (calls : List BusCall) c k (u : Cell),
    cell (TaskBus.run (start : B) calls) k = some u → status u = some .done →
    cell (TaskBus.step (TaskBus.run (start : B) calls) c).2 k = some u
  claims : ∀ (pre mid : List BusCall) c₁ c₂ s₁ a₁ g₁ s₂ a₂ g₂ t₁ t₂,
    c₁.op = .claimNext s₁ a₁ g₁ → c₂.op = .claimNext s₂ a₂ g₂ →
    (TaskBus.step (TaskBus.run (start : B) pre) c₁).1 = .ok (.optional (some t₁)) →
    (TaskBus.step (TaskBus.run (start : B) (pre ++ c₁ :: mid)) c₂).1 = .ok (.optional (some t₂)) →
    t₁.key = t₂.key →
    ∃ mid₁ c mid₂ tr t, mid = mid₁ ++ c :: mid₂ ∧
      c.op = .transition t₁.sessionId t₁.taskId tr ∧ tr.reopens = true ∧
      (TaskBus.step (TaskBus.run (start : B) (pre ++ c₁ :: mid₁)) c).1 = .ok (.task t)

section Lawful

open LawfulBus

variable {B Cell : Type} [TaskCell Cell] [LawfulBus B Cell]

/-- A cell that is there stays, with its parent and root, and a finished one
stays as it is. -/
theorem cell_stays {b : B} (hb : Inv b) (c : BusCall) {k : String × String} {u : Cell}
    (h : cell b k = some u) :
    ∃ u', cell (TaskBus.step b c).2 k = some u' ∧ parentId u' = parentId u ∧
      rootId u' = rootId u ∧ (status u = some .done → u' = u) := by
  rcases cell_step hb c k with hsame | ⟨u', hu', hch⟩
  · exact ⟨u, hsame.trans h, rfl, rfl, fun _ => rfl⟩
  · refine ⟨u', hu', ?_⟩
    cases hch with
    | published absent => rw [h] at absent; cases absent
    | claimed v hv same hp =>
      rw [h] at hv
      obtain rfl := Option.some.inj hv
      exact ⟨same.1, same.2, fun hd => by rw [hp] at hd; cases hd⟩
    | moved v tr t s s' _ hv same hs _ move =>
      rw [h] at hv
      obtain rfl := Option.some.inj hv
      refine ⟨same.1, same.2, fun hd => ?_⟩
      rw [hs] at hd
      obtain rfl := Option.some.inj hd
      cases move with
      | fail _ hne => exact absurd rfl hne
      | reopen _ hor => rcases hor with h | h <;> cases h
    | recovered v hv same hr =>
      rw [h] at hv
      obtain rfl := Option.some.inj hv
      exact ⟨same.1, same.2, fun hd => by rw [hr] at hd; cases hd⟩

theorem Chain.step {b : B} (hb : Inv b) (c : BusCall) {s i r : String} (h : Chain b s i r) :
    Chain (TaskBus.step b c).2 s i r := by
  induction h with
  | root h hp =>
    obtain ⟨u', hu', hpar, _, _⟩ := cell_stays hb c h
    exact .root hu' (hpar.trans hp)
  | parent h hp _ ih =>
    obtain ⟨u', hu', hpar, _, _⟩ := cell_stays hb c h
    exact .parent hu' (hpar.trans hp) ih

/-- The invariant behind the gate. -/
structure Gated (b : B) : Prop where
  parent : ∀ k (u : Cell), cell b k = some u → ∀ p, parentId u = some p →
    ∃ v, cell b (k.1, p) = some v ∧ rootId v = rootId u ∧
      ∀ s, status u = some s → s.Started → status v = some .done
  chain : ∀ k (u : Cell), cell b k = some u → Chain b k.1 k.2 (rootId u)

theorem started_of_statusMove {tr : Transition} {s s' : TaskStatus} (h : tr.StatusMove s s')
    (hs' : s'.Started) : s.Started := by
  cases h with
  | close | wait | mark => exact .inl rfl
  | fail _ _ => rcases hs' with h | h | h <;> cases h
  | reopen _ _ => rcases hs' with h | h | h <;> cases h

theorem gated_step {b : B} (hb : Inv b) (hg : Gated b) (c : BusCall) :
    Gated (TaskBus.step b c).2 := by
  -- a parent that was there is still there, and still done if it was
  have keep : ∀ {k : String × String} {v : Cell}, cell b k = some v →
      ∃ v', cell (TaskBus.step b c).2 k = some v' ∧ rootId v' = rootId v ∧
        (status v = some .done → status v' = some .done) := by
    intro k v hv
    obtain ⟨v', hv', _, hr, hd⟩ := cell_stays hb c hv
    exact ⟨v', hv', hr, fun h => by rw [hd h, h]⟩
  refine ⟨?_, ?_⟩
  · intro k u' hu' p hp
    rcases cell_step hb c k with hsame | ⟨w, hw, hch⟩
    · obtain ⟨v, hv, hr, hgate⟩ := hg.parent k u' (hsame ▸ hu') p hp
      obtain ⟨v', hv', hr', hd'⟩ := keep hv
      exact ⟨v', hv', hr'.trans hr, fun s hs hst => hd' (hgate s hs hst)⟩
    · rw [hu'] at hw
      obtain rfl := Option.some.inj hw
      cases hch with
      | published _ hpend _ hpar =>
        obtain ⟨v, hv, hr⟩ := hpar p hp
        obtain ⟨v', hv', hr', _⟩ := keep hv
        refine ⟨v', hv', hr'.trans hr, ?_⟩
        intro s hs hst
        rw [hpend] at hs
        obtain rfl := Option.some.inj hs
        rcases hst with h | h | h <;> cases h
      | claimed u hu same _ _ hpar =>
        obtain ⟨v, hv, hr, _⟩ := hg.parent k u hu p (same.1 ▸ hp)
        obtain ⟨w, hw, hdone⟩ := hpar p (same.1 ▸ hp)
        rw [hv] at hw
        obtain rfl := Option.some.inj hw
        obtain ⟨v', hv', hr', hd'⟩ := keep hv
        exact ⟨v', hv', (hr'.trans hr).trans same.2.symm, fun _ _ _ => hd' hdone⟩
      | moved u tr t s s' _ hu same hs hs' move =>
        obtain ⟨v, hv, hr, hgate⟩ := hg.parent k u hu p (same.1 ▸ hp)
        obtain ⟨v', hv', hr', hd'⟩ := keep hv
        refine ⟨v', hv', (hr'.trans hr).trans same.2.symm, ?_⟩
        intro st hst hstarted
        rw [hs'] at hst
        obtain rfl := Option.some.inj hst
        exact hd' (hgate s hs (started_of_statusMove move hstarted))
      | recovered u hu same _ hfail =>
        obtain ⟨v, hv, hr, _⟩ := hg.parent k u hu p (same.1 ▸ hp)
        obtain ⟨v', hv', hr', _⟩ := keep hv
        refine ⟨v', hv', (hr'.trans hr).trans same.2.symm, ?_⟩
        intro st hst hstarted
        rw [hfail] at hst
        obtain rfl := Option.some.inj hst
        rcases hstarted with h | h | h <;> cases h
  · intro k u' hu'
    have hold : ∀ u : Cell, cell b k = some u → rootId u' = rootId u →
        Chain (TaskBus.step b c).2 k.1 k.2 (rootId u') := by
      intro u hu hr
      rw [hr]
      exact (hg.chain k u hu).step hb c
    rcases cell_step hb c k with hsame | ⟨w, hw, hch⟩
    · exact hold u' (hsame ▸ hu') rfl
    · rw [hu'] at hw
      obtain rfl := Option.some.inj hw
      cases hch with
      | published _ _ hroot hpar =>
        cases hp : parentId u' with
        | none => rw [hroot hp]; exact .root hu' hp
        | some p =>
          obtain ⟨v, hv, hr⟩ := hpar p hp
          refine .parent hu' hp ?_
          rw [← hr]
          exact (hg.chain (k.1, p) v hv).step hb c
      | claimed u hu same => exact hold u hu same.2
      | moved u _ _ _ _ _ hu same => exact hold u hu same.2
      | recovered u hu same => exact hold u hu same.2

/-- A task that is not pending and becomes pending in a run was resumed or
retried in it. -/
theorem reopened_of_pending {k : String × String} :
    ∀ (mid : List BusCall) (b : B), Inv b →
      (∃ u, cell b k = some u ∧ status u ≠ some .pending) →
      (∃ u, cell (TaskBus.run b mid) k = some u ∧ status u = some .pending) →
      ∃ mid₁ c mid₂ tr t, mid = mid₁ ++ c :: mid₂ ∧ c.op = .transition k.1 k.2 tr ∧
        tr.reopens = true ∧ (TaskBus.step (TaskBus.run b mid₁) c).1 = .ok (.task t) := by
  intro mid
  induction mid with
  | nil =>
    rintro b _ ⟨u, hu, hne⟩ ⟨v, hv, hp⟩
    rw [TaskBus.run, final_nil, hu] at hv
    obtain rfl := Option.some.inj hv
    exact absurd hp hne
  | cons c mid ih =>
    rintro b hb ⟨u, hu, hne⟩ hend
    -- either this call reopens the task, or the task is still not pending after it
    have hcase : (∃ tr t, c.op = .transition k.1 k.2 tr ∧ tr.reopens = true ∧
          (TaskBus.step b c).1 = .ok (.task t)) ∨
        ∃ u', cell (TaskBus.step b c).2 k = some u' ∧ status u' ≠ some .pending := by
      rcases cell_step hb c k with hsame | ⟨u', hu', hch⟩
      · exact .inr ⟨u, hsame.trans hu, hne⟩
      · cases hch with
        | published absent => rw [hu] at absent; cases absent
        | claimed _ _ _ _ hrun => exact .inr ⟨u', hu', by rw [hrun]; simp⟩
        | recovered _ _ _ _ hfail => exact .inr ⟨u', hu', by rw [hfail]; simp⟩
        | moved _ tr t s s' hop _ _ _ hs' move hreply =>
          cases move with
          | close => exact .inr ⟨u', hu', by rw [hs']; simp⟩
          | fail => exact .inr ⟨u', hu', by rw [hs']; simp⟩
          | wait => exact .inr ⟨u', hu', by rw [hs']; simp⟩
          | mark => exact .inr ⟨u', hu', by rw [hs']; simp⟩
          | reopen hre => exact .inl ⟨tr, t, hop, hre, hreply⟩
    rcases hcase with ⟨tr, t, hop, hre, hok⟩ | hnext
    · exact ⟨[], c, mid, tr, t, rfl, hop, hre, hok⟩
    · obtain ⟨mid₁, c', mid₂, tr, t, rfl, hop, hre, hok⟩ :=
        ih (TaskBus.step b c).2 (inv_step hb c) hnext hend
      exact ⟨c :: mid₁, c', mid₂, tr, t, rfl, hop, hre, hok⟩

theorem inv_gated_run (calls : List BusCall) :
    Inv (TaskBus.run (start : B) calls) ∧ Gated (TaskBus.run (start : B) calls) := by
  refine final_invariant (I := fun b : B => Inv b ∧ Gated b) (A := fun _ => True) ?_ calls _
    ⟨inv_start, ⟨?_, ?_⟩⟩ (fun _ _ => trivial)
  · intro b c h _
    exact ⟨inv_step h.1 c, gated_step h.1 h.2 c⟩
  · intro k u h
    rw [cell_start] at h
    cases h
  · intro k u h
    rw [cell_start] at h
    cases h

/-- **A lawful bus gates and hands out exclusively.** -/
theorem LawfulBus.gating : Gating B where
  parents calls k u hu := by
    obtain ⟨_, hg⟩ := inv_gated_run (B := B) calls
    refine ⟨?_, hg.chain k u hu⟩
    intro p hp
    obtain ⟨v, hv, hr, _⟩ := hg.parent k u hu p hp
    exact ⟨v, hv, hr⟩
  gate calls k u s p hu hs hst hp := by
    obtain ⟨_, hg⟩ := inv_gated_run (B := B) calls
    obtain ⟨v, hv, _, hd⟩ := hg.parent k u hu p hp
    exact ⟨v, hv, hd s hs hst⟩
  done_fixed calls c k u hu hd := by
    obtain ⟨u', hu', _, _, he⟩ := cell_stays (inv_gated_run (B := B) calls).1 c hu
    rw [hu', he hd]
  claims pre mid c₁ c₂ s₁ a₁ g₁ s₂ a₂ g₂ t₁ t₂ hop₁ hop₂ h₁ h₂ hkey := by
    have hpre := (inv_gated_run (B := B) pre).1
    obtain ⟨_, u₁, _, _, hu₁, hrun⟩ := claim_step hpre _ _ _ _ _ hop₁ h₁
    have hsplit : ∀ l : List BusCall, TaskBus.run (start : B) (pre ++ c₁ :: l) =
        TaskBus.run (TaskBus.step (TaskBus.run (start : B) pre) c₁).2 l := by
      intro l
      rw [TaskBus.run, final_append]
      rfl
    have hinv := (inv_gated_run (B := B) (pre ++ c₁ :: mid)).1
    obtain ⟨u₂, _, hu₂, hpend, _, _⟩ := claim_step hinv _ _ _ _ _ hop₂ h₂
    rw [hsplit mid, ← hkey] at hu₂
    obtain ⟨mid₁, c, mid₂, tr, t, hmid, hop, hre, hok⟩ :=
      reopened_of_pending mid _ (inv_step hpre c₁) ⟨u₁, hu₁, by rw [hrun]; simp⟩
        ⟨u₂, hu₂, hpend⟩
    exact ⟨mid₁, c, mid₂, tr, t, hmid, hop, hre, by rw [hsplit mid₁]; exact hok⟩

end Lawful

/-! ### The in-memory bus is lawful -/

instance : TaskCell TaskDomain where
  parentId := TaskDomain.parentId
  rootId := TaskDomain.rootId
  status t := some t.status

namespace InMemoryTaskBus

variable {bus : InMemoryTaskBus} {c : BusCall} {k : String × String}

theorem parentIsDone_cases {t : TaskDomain} (h : bus.parentIsDone t = true) {p : String}
    (hp : t.parentId = some p) :
    ∃ v, bus.tasks.get? (t.sessionId, p) = some v ∧ v.status = .done := by
  unfold parentIsDone at h
  rw [hp] at h
  cases hg : bus.get t.sessionId p with
  | none => simp [hg] at h
  | some v => exact ⟨v, hg, by simpa [hg] using h⟩

end InMemoryTaskBus

instance : StoredBus InMemoryTaskBus TaskDomain where
  start := InMemoryTaskBus.empty
  cell bus k := bus.tasks.get? k

theorem InMemoryTaskBus.Changed.cellChange {bus : InMemoryTaskBus} {c : BusCall}
    {k : String × String} {t' : TaskDomain} {r : Except BusError Reply} (hb : bus.Keyed)
    (h : Changed bus c k t' r) : CellChange bus c k t' r := by
  cases h with
  | published valid hop hk absent pending parent =>
    refine .published absent (congrArg some pending) ?_ ?_
    · intro hp
      rw [← hk]
      exact valid.2.1 hp
    · intro p hp
      rw [← hk]
      exact parent p hp
  | claimed t _ agentId hop _ hg hp hd he =>
    have hs := t.sameTask_claimed agentId c.env
    refine .claimed t hg ?_ (congrArg some hp) (by rw [he]; rfl) ?_
    · rw [he]
      exact ⟨hs.parentId, hs.rootId⟩
    · intro p hpar
      obtain ⟨v, hv, hdone⟩ := parentIsDone_cases hd hpar
      rw [← hb k t hg]
      exact ⟨v, hv, congrArg some hdone⟩
  | moved t tr hop _ hg he =>
    have hs := Transition.sameTask_updated he
    exact .moved t tr t' t.status t'.status hop hg ⟨hs.parentId, hs.rootId⟩ rfl rfl
      (Transition.statusMove_updated he) rfl
  | recovered t now _ _ hg hr _ he =>
    have hs := t.sameTask_recovered now
    refine .recovered t hg ?_ (congrArg some hr) (by rw [he]; rfl)
    rw [he]
    exact ⟨hs.parentId, hs.rootId⟩

instance : LawfulBus InMemoryTaskBus TaskDomain where
  Inv := InMemoryTaskBus.Keyed
  inv_start := InMemoryTaskBus.keyed_empty
  inv_step hb c := InMemoryTaskBus.keyed_step hb c
  cell_start _ := rfl
  cell_step hb c k := by
    rcases InMemoryTaskBus.changed_cases hb c k with hsame | ⟨t', ht', hch⟩
    · exact .inl hsame
    · exact .inr ⟨t', ht', hch.cellChange hb⟩
  claim_step hb _ _ _ _ _ hop h := by
    obtain ⟨u, hu, hp, ht, hr, _⟩ := InMemoryTaskBus.claim_reply hb hop h
    exact ⟨u, _, hu, congrArg some hp, ht, congrArg some hr⟩

/-! ### The SQLite bus is lawful -/

/-- The columns of a row; what the payload holds does not matter. -/
instance : TaskCell TaskRow where
  parentId := TaskRow.parentId
  rootId := TaskRow.rootId
  status r := TaskStatus.ofText r.status

theorem status_ofTask (t : TaskDomain) : status (TaskRow.ofTask t) = some t.status :=
  TaskStatus.ofText_toText t.status

instance : StoredBus SqliteTaskBus TaskRow where
  start := SqliteTaskBus.empty
  cell bus k := bus.rows.get? k

theorem Agrees.optional_some {out out' : Except BusError Reply} {t : TaskDomain}
    (h : Agrees out out') (ht : out = .ok (.optional (some t))) :
    ∃ u, out' = .ok (.optional (some u)) ∧ u.key = t.key := by
  rcases h with rfl | rfl
  · exact ⟨t, ht, rfl⟩
  · cases out' with
    | error e => cases ht
    | ok r =>
      cases r with
      | task u => cases ht
      | tasks l => cases ht
      | optional o =>
        cases o with
        | none => cases ht
        | some u => cases ht; exact ⟨u, rfl, rfl⟩

namespace Refines

variable {m : InMemoryTaskBus} {s : SqliteTaskBus} {c : BusCall} {k : String × String}

theorem cell_eq (h : Refines m s) (k : String × String) :
    cell s k = (cell m k).map TaskRow.ofTask := by
  show s.rows.get? k = (m.tasks.get? k).map TaskRow.ofTask
  rw [h.rows, Dict.get?_map]

theorem cell_some (h : Refines m s) {t : TaskDomain} (ht : cell m k = some t) :
    cell s k = some (TaskRow.ofTask t) := by
  rw [h.cell_eq, ht]
  rfl

theorem cellChange (h : Refines m s) {t' : TaskDomain} {out out' : Except BusError Reply}
    (hagree : Agrees out out') (hch : CellChange m c k t' out') :
    CellChange s c k (TaskRow.ofTask t') out := by
  cases hch with
  | published absent pending root parent =>
    refine .published (by rw [h.cell_eq, absent]; rfl) ((status_ofTask t').trans pending) root ?_
    intro p hp
    obtain ⟨v, hv, hr⟩ := parent p hp
    exact ⟨_, h.cell_some hv, hr⟩
  | claimed t hg same pending running parent =>
    refine .claimed _ (h.cell_some hg) same ((status_ofTask t).trans pending)
      ((status_ofTask t').trans running) ?_
    intro p hp
    obtain ⟨v, hv, hd⟩ := parent p hp
    exact ⟨_, h.cell_some hv, (status_ofTask v).trans hd⟩
  | moved t tr u st st' hop hg same hs hs' move reply =>
    have hout : ∃ u', out = .ok (.task u') := by
      rcases hagree with rfl | rfl
      · exact ⟨u, reply⟩
      · exact ⟨u.jsonNormal, by rw [reply]; rfl⟩
    obtain ⟨u', hu'⟩ := hout
    exact .moved _ tr u' st st' hop (h.cell_some hg) same ((status_ofTask t).trans hs)
      ((status_ofTask t').trans hs') move hu'
  | recovered t hg same running failed =>
    exact .recovered _ (h.cell_some hg) same ((status_ofTask t).trans running)
      ((status_ofTask t').trans failed)

end Refines

instance : LawfulBus SqliteTaskBus TaskRow where
  Inv s := ∃ m, Refines m s
  inv_start := ⟨_, .empty⟩
  inv_step hb c := by
    obtain ⟨m, h⟩ := hb
    rcases h.step_refines c with ⟨e, _, heq⟩ | ⟨_, hnext⟩
    · rw [heq]
      exact ⟨m, h⟩
    · exact ⟨_, hnext⟩
  cell_start _ := rfl
  cell_step hb c k := by
    obtain ⟨m, h⟩ := hb
    rcases h.step_refines c with ⟨e, _, heq⟩ | ⟨hagree, hnext⟩
    · rw [heq]
      exact .inl rfl
    · rw [hnext.cell_eq, h.cell_eq]
      rcases InMemoryTaskBus.changed_cases h.keyed c k with hsame | ⟨t', ht', hch⟩
      · exact .inl (congrArg (Option.map TaskRow.ofTask) hsame)
      · exact .inr ⟨_, congrArg (Option.map TaskRow.ofTask) ht',
          h.cellChange hagree (hch.cellChange h.keyed)⟩
  claim_step hb c _ _ _ t hop hreply := by
    obtain ⟨m, h⟩ := hb
    rcases h.step_refines c with ⟨e, _, heq⟩ | ⟨hagree, hnext⟩
    · rw [heq] at hreply
      cases hreply
    · obtain ⟨u, hu, hkey⟩ := hagree.optional_some hreply
      obtain ⟨v, hv, hp, hu', hr, _⟩ := InMemoryTaskBus.claim_reply h.keyed hop hu
      rw [hkey] at hv hu'
      exact ⟨_, _, h.cell_some hv, (status_ofTask v).trans (congrArg some hp),
        hnext.cell_some hu', (status_ofTask u).trans (congrArg some hr)⟩

/-- **Both buses gate and hand out exclusively.** -/
theorem parent_gating_and_exclusive_claiming : Gating InMemoryTaskBus ∧ Gating SqliteTaskBus :=
  ⟨LawfulBus.gating, LawfulBus.gating⟩

/-- Task ids are unique within a session only: two sessions can hold a task of
one id, and both are handed out. -/
theorem claims_of_one_id_in_two_sessions :
    ¬∀ (pre mid : List BusCall) c₁ c₂ s₁ a₁ g₁ s₂ a₂ g₂ t₁ t₂,
      c₁.op = .claimNext s₁ a₁ g₁ → c₂.op = .claimNext s₂ a₂ g₂ →
      (TaskBus.step (TaskBus.run InMemoryTaskBus.empty pre) c₁).1 = .ok (.optional (some t₁)) →
      (TaskBus.step (TaskBus.run InMemoryTaskBus.empty (pre ++ c₁ :: mid)) c₂).1 =
        .ok (.optional (some t₂)) →
      t₁.taskId = t₂.taskId →
      ∃ mid₁ c mid₂ s tr, mid = mid₁ ++ c :: mid₂ ∧ c.op = .transition s t₁.taskId tr ∧
        tr.reopens = true := by
  intro h
  obtain ⟨mid₁, c, mid₂, _, _, hmid, _⟩ := h
    [⟨.publish (.sample "s" "a") TaskDomain.valid_sample, .sample⟩,
     ⟨.publish (.sample "t" "a") (by decide), .sample⟩] []
    ⟨.claimNext "s" "general" "agent", .sample⟩ ⟨.claimNext "t" "general" "agent", .sample⟩
    _ _ _ _ _ _ ((TaskDomain.sample "s" "a").claimed "agent" .sample)
    ((TaskDomain.sample "t" "a").claimed "agent" .sample) rfl rfl
    (by decide +kernel) (by decide +kernel) rfl
  cases mid₁ <;> cases hmid

end Taskweavn
