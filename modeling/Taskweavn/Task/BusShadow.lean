import Taskweavn.Task.BusRefinement

/-!
# Both buses in one view

A program that works over either bus sees of a stored task what `get` returns.
`ShadowedBus` describes a bus by an in-memory bus in its shadow: the shadow holds
the tasks as they were written, and `get` returns a task as it is read back,
after what the store does to its dispatch constraints, or raises when the task
cannot be read back.

`get_step_of_not_disturbs` and `get_run` say what becomes of a task that can be read.  It keeps
the fields of `SameTask`, and it can be lost in two ways (`Disturbs`): a retry
with an instruction rewrites its intent, and some calls leave a task that the bus
cannot read any more.  For the SQLite bus this is the completion with an empty
result reference.
-/

namespace Taskweavn

open Lib Py

class ShadowedBus (B : Type) extends TaskBus B where
  Shadow : InMemoryTaskBus → B → Prop
  /-- What the store does to the dispatch constraints of a task. -/
  norm : Option TaskDispatchConstraints → Option TaskDispatchConstraints
  Readable : TaskDomain → Prop
  /-- A task with an empty result reference can be read. -/
  readsEmptyResult : Bool
  keyed : ∀ {m b}, Shadow m b → m.Keyed
  get_none : ∀ {m b s i}, Shadow m b → m.get s i = none → TaskBus.get b s i = .ok none
  get_readable : ∀ {m b s i t}, Shadow m b → m.get s i = some t → Readable t →
    TaskBus.get b s i = .ok (some (t.mapConstraints norm))
  get_broken : ∀ {m b s i t}, Shadow m b → m.get s i = some t → ¬Readable t →
    t.status = .done ∧ ∃ e, TaskBus.get b s i = .error e
  step_shadow : ∀ {m b}, Shadow m b → ∀ c,
    (∃ e, TaskBus.step b c = (.error e, b)) ∨
    (Shadow (TaskBus.step m c).2 (TaskBus.step b c).2 ∧
      (TaskBus.step b c).1.isOk = (TaskBus.step m c).1.isOk)
  transition_ok : ∀ {m b s i t u} {tr : Transition} {env}, Shadow m b → m.get s i = some t →
    Readable t → tr.checkArgs = .ok () → tr.updated env t = .ok u →
    (TaskBus.transition b s i tr env).1.isOk = true
  publish_reply : ∀ {b : B} {t u}, (TaskBus.publish b t).1 = .ok u → u = t
  readable_valid : ∀ {t}, t.Valid → Readable t
  readable_claimed : ∀ {t agentId env}, Readable t → t.status = .pending →
    isBlank agentId = false → Readable (t.claimed agentId env)
  readable_recovered : ∀ {t now}, Readable t → Readable (t.recoverInterruptedRunningUpdates now)
  readable_updated : ∀ {t u} {tr : Transition} {env}, Readable t → tr.checkArgs = .ok () →
    tr.updated env t = .ok u → (Readable u ↔ readsEmptyResult ∨ tr ≠ .complete (some ""))

section

open ShadowedBus

variable {B : Type} [ShadowedBus B] {b : B} {m : InMemoryTaskBus} {s i : String} {c : BusCall}

theorem get_eq_some (h : Shadow m b) {u : TaskDomain} :
    TaskBus.get b s i = .ok (some u) ↔
      ∃ t, m.get s i = some t ∧ Readable B t ∧ u = t.mapConstraints (norm B) := by
  constructor
  · intro hg
    cases hm : m.get s i with
    | none =>
      rw [get_none h hm] at hg
      cases hg
    | some t =>
      by_cases hr : Readable B t
      · rw [get_readable h hm hr] at hg
        cases hg
        exact ⟨t, rfl, hr, rfl⟩
      · obtain ⟨_, e, he⟩ := get_broken h hm hr
        rw [he] at hg
        cases hg
  · rintro ⟨t, hm, hr, rfl⟩
    exact get_readable h hm hr

/-! ### One call -/

/-- The call takes the task away from its publisher: it rewrites the intent, or
leaves a task that cannot be read. -/
def Disturbs (b : B) (s i : String) (c : BusCall) : Prop :=
  ∃ t, TaskBus.get b s i = .ok (some t) ∧
    ((∃ text, c.op = .transition s i (.retry (some text)) ∧ isBlank text = false ∧
        t.status = .failed) ∨
      (c.op = .transition s i (.complete (some "")) ∧ t.status = .running ∧
        readsEmptyResult B = false))

theorem retryIntent_grows (t : TaskDomain) {text : String} (h : isBlank text = false) :
    (rstrip t.intent).length < (rstrip (t.retryIntent (some text))).length := by
  have hblank : isBlank ("\n\nRetry instruction:\n" ++ strip text) = false :=
    isBlank_append_of_left (by decide)
  have := length_rstrip_append (s := t.intent) hblank
  simp only [TaskDomain.retryIntent, h, Bool.false_eq_true, if_false]
  rwa [String.append_assoc]

theorem intent_updated {tr : Transition} {env : CallEnv} {t t' : TaskDomain}
    (h : tr.updated env t = .ok t') :
    (t'.intent = t.intent ∧ ∀ text, tr = .retry (some text) → isBlank text = true) ∨
    ∃ text, tr = .retry (some text) ∧ isBlank text = false ∧ t.status = .failed ∧
      t'.intent = t.retryIntent (some text) := by
  obtain ⟨_, rfl, _, rfl⟩ | ⟨_, rfl, _, rfl⟩ | ⟨_, _, ⟨_, ⟨rfl, _⟩ | ⟨rfl, _⟩⟩, _, rfl⟩ |
    ⟨_, rfl | rfl, _, rfl⟩ | ⟨_, rfl, _, rfl⟩ | ⟨i, rfl, hs, rfl⟩ |
    ⟨_, _, _, rfl, ⟨_, rfl⟩ | ⟨_, rfl⟩⟩ := Transition.updated_cases h
  case inr.inr.inr.inr.inr.inl =>
    cases i with
    | none => exact .inl ⟨rfl, by simp⟩
    | some text =>
      by_cases hb : isBlank text = true
      · refine .inl ⟨?_, ?_⟩
        · simp [TaskDomain.retryUpdates, TaskDomain.retryIntent, hb]
        · intro text' he
          cases he
          exact hb
      · exact .inr ⟨text, rfl, by simpa using hb, hs, rfl⟩
  all_goals exact .inl ⟨rfl, by simp⟩

theorem shadow_step (h : Shadow m b) (c : BusCall) : ∃ m', Shadow m' (TaskBus.step b c).2 := by
  rcases step_shadow h c with ⟨e, he⟩ | ⟨hnext, _⟩
  · rw [he]
    exact ⟨m, h⟩
  · exact ⟨_, hnext⟩

theorem present_step (h : Shadow m b) (c : BusCall) : ∃ m', Shadow m' (TaskBus.step b c).2 ∧
    ∀ s i, (m.get s i).isSome → (m'.get s i).isSome := by
  rcases step_shadow h c with ⟨e, he⟩ | ⟨hnext, _⟩
  · rw [he]
    exact ⟨m, h, fun _ _ hs => hs⟩
  · refine ⟨_, hnext, ?_⟩
    intro s i hs
    rcases InMemoryTaskBus.changed_cases (keyed h) c (s, i) with hkeep | ⟨t', ht', _⟩
    · rw [InMemoryTaskBus.get, hkeep]
      exact hs
    · rw [InMemoryTaskBus.get, ht']
      rfl

theorem get_step_transition {t t' : TaskDomain} {tr : Transition} (hm : m.get s i = some t)
    (hop : c.op = .transition s i tr) (hargs : tr.checkArgs = .ok ())
    (hupd : tr.updated c.env t = .ok t') : (TaskBus.step m c).2.get s i = some t' := by
  obtain ⟨op, env⟩ := c
  obtain rfl : op = _ := hop
  have hstep : (TaskBus.step m ⟨.transition s i tr, env⟩).2 =
      { m with tasks := m.tasks.set (s, i) t' } := by
    simp only [TaskBus.step, TaskBus.transition, InMemoryTaskBus.transition, hargs, Except.bind,
      InMemoryTaskBus.requireTask, hm, hupd]
    rfl
  rw [hstep]
  exact Dict.get?_set_self _ _ _

theorem shadow_step_transition {t t' : TaskDomain} {tr : Transition} (h : Shadow m b)
    (hm : m.get s i = some t) (hr : Readable B t) (hop : c.op = .transition s i tr)
    (hargs : tr.checkArgs = .ok ()) (hupd : tr.updated c.env t = .ok t') :
    Shadow (TaskBus.step m c).2 (TaskBus.step b c).2 := by
  rcases step_shadow h c with ⟨e, he⟩ | ⟨hnext, _⟩
  · exfalso
    have hok : (TaskBus.transition b s i tr c.env).1.isOk = true :=
      transition_ok h hm hr hargs hupd
    obtain ⟨op, env⟩ := c
    obtain rfl : op = _ := hop
    rcases hx : TaskBus.transition b s i tr env with ⟨_ | _, _⟩
    · simp only [hx] at hok
      cases hok
    · simp only [TaskBus.step, hx] at he
      cases he
  · exact hnext

theorem get_step_of_not_disturbs (h : Shadow m b) {u : TaskDomain}
    (hu : TaskBus.get b s i = .ok (some u)) (hno : ¬Disturbs b s i c) :
    ∃ u', TaskBus.get (TaskBus.step b c).2 s i = .ok (some u') ∧ u.SameTask u' ∧
      u'.intent = u.intent := by
  obtain ⟨t, hm, hr, rfl⟩ := (get_eq_some h).mp hu
  rcases step_shadow h c with ⟨e, he⟩ | ⟨hnext, _⟩
  · rw [he]
    exact ⟨_, hu, .refl _, rfl⟩
  · -- it is enough to find the task in the new shadow
    have hfound : ∀ t', (TaskBus.step m c).2.get s i = some t' → Readable B t' →
        t.SameTask t' → t'.intent = t.intent →
        ∃ u', TaskBus.get (TaskBus.step b c).2 s i = .ok (some u') ∧
          (t.mapConstraints (norm B)).SameTask u' ∧
          u'.intent = (t.mapConstraints (norm B)).intent := by
      intro t' ht' hr' hsame hint
      exact ⟨_, get_readable hnext ht' hr', hsame.mapConstraints _, hint⟩
    rcases InMemoryTaskBus.changed_cases (keyed h) c (s, i) with hkeep | ⟨t', ht', hch⟩
    · exact hfound t (hkeep.trans hm) hr (.refl t) rfl
    · generalize (TaskBus.step m c).1 = reply at hch
      cases hch with
      | published _ _ _ absent =>
        rw [show m.tasks.get? (s, i) = some t from hm] at absent; cases absent
      | claimed v _ agentId _ hag hg hp _ he =>
        obtain rfl : t = v := Option.some.inj (hm.symm.trans hg)
        subst he
        exact hfound _ ht' (readable_claimed hr hp hag) (t.sameTask_claimed _ _) rfl
      | recovered v now _ _ hg _ _ he =>
        obtain rfl : t = v := Option.some.inj (hm.symm.trans hg)
        subst he
        exact hfound _ ht' (readable_recovered hr) (t.sameTask_recovered now) rfl
      | moved v tr hop hargs hg hupd =>
        obtain rfl : t = v := Option.some.inj (hm.symm.trans hg)
        refine hfound _ ht' ((readable_updated hr hargs hupd).mpr ?_)
          (Transition.sameTask_updated hupd) ?_
        · by_contra hbad
          rw [not_or, not_ne_iff] at hbad
          obtain ⟨hreads, rfl⟩ := hbad
          have hs : t.status = .running := by
            obtain ⟨hs, _⟩ := ite_raise_eq_ok.mp hupd
            exact not_not.mp hs
          exact hno ⟨_, hu, .inr ⟨hop, hs, by simpa using hreads⟩⟩
        · rcases intent_updated hupd with ⟨hint, _⟩ | ⟨text, rfl, hb, hs, _⟩
          · exact hint
          · exact absurd ⟨_, hu, .inl ⟨text, hop, hb, hs⟩⟩ hno

theorem get_step_of_disturbs (h : Shadow m b) {u : TaskDomain}
    (hu : TaskBus.get b s i = .ok (some u)) (hd : Disturbs b s i c) :
    (∃ e, TaskBus.get (TaskBus.step b c).2 s i = .error e) ∨
    ∃ u', TaskBus.get (TaskBus.step b c).2 s i = .ok (some u') ∧ u.SameTask u' ∧
      (rstrip u.intent).length < (rstrip u'.intent).length := by
  obtain ⟨t, hm, hr, rfl⟩ := (get_eq_some h).mp hu
  obtain ⟨v, hv, hcase⟩ := hd
  obtain rfl : _ = v := Option.some.inj (Except.ok.inj (hu.symm.trans hv))
  rcases hcase with ⟨text, hop, hb, hs⟩ | ⟨hop, hs, hreads⟩
  · have hs' : ¬t.status ≠ .failed := not_not.mpr hs
    have hupd : (Transition.retry (some text)).updated c.env t =
        .ok (t.retryUpdates (some text)) := if_neg hs'
    have hnext := shadow_step_transition h hm hr hop rfl hupd
    have hget := get_step_transition hm hop rfl hupd
    have hr' : Readable B (t.retryUpdates (some text)) :=
      (readable_updated hr rfl hupd).mpr (.inr (by simp))
    exact .inr ⟨_, get_readable hnext hget hr',
      (Transition.sameTask_updated hupd).mapConstraints _, retryIntent_grows t hb⟩
  · have hs' : ¬t.status ≠ .running := not_not.mpr hs
    have hupd : (Transition.complete (some "")).updated c.env t = .ok _ := if_neg hs'
    have hnext := shadow_step_transition h hm hr hop rfl hupd
    have hget := get_step_transition hm hop rfl hupd
    have hr' : ¬Readable B _ := fun hr' => by
      have := (readable_updated hr rfl hupd).mp hr'
      simp [hreads] at this
    exact .inl (get_broken hnext hget hr').2

theorem get_step_of_error (h : Shadow m b) {e : BusError} (he : TaskBus.get b s i = .error e)
    (c : BusCall) : ∃ e', TaskBus.get (TaskBus.step b c).2 s i = .error e' := by
  have hm : ∃ t, m.get s i = some t ∧ ¬Readable B t := by
    cases hm : m.get s i with
    | none =>
      rw [get_none h hm] at he
      cases he
    | some t =>
      refine ⟨t, rfl, ?_⟩
      intro hr
      rw [get_readable h hm hr] at he
      cases he
  obtain ⟨t, hm, hr⟩ := hm
  rcases step_shadow h c with ⟨e', he'⟩ | ⟨hnext, _⟩
  · rw [he']
    exact ⟨e, he⟩
  · have hdone := (get_broken h hm hr).1
    have hkeep : (TaskBus.step m c).2.get s i = some t :=
      InMemoryTaskBus.done_step (keyed h) c hm hdone
    exact (get_broken hnext hkeep hr).2

/-! ### Runs -/

/-- No call of the run disturbs the task. -/
def Undisturbed (s i : String) : B → List BusCall → Prop
  | _, [] => True
  | b, c :: calls => ¬Disturbs b s i c ∧ Undisturbed s i (TaskBus.step b c).2 calls

theorem shadow_run (h : Shadow m b) (calls : List BusCall) :
    ∃ m', Shadow m' (TaskBus.run b calls) :=
  final_invariant (I := fun b : B => ∃ m, Shadow m b) (A := fun _ => True)
    (fun _ c h _ => h.elim fun _ h => shadow_step h c) calls b ⟨m, h⟩ (fun _ _ => trivial)

theorem get_run_of_error : ∀ (calls : List BusCall) {b : B} {m : InMemoryTaskBus} {e : BusError},
    Shadow m b → TaskBus.get b s i = .error e →
    ∃ e', TaskBus.get (TaskBus.run b calls) s i = .error e' := by
  intro calls
  induction calls with
  | nil => intro b m e _ he; exact ⟨e, he⟩
  | cons c calls ih =>
    intro b m e h he
    obtain ⟨e', he'⟩ := get_step_of_error h he c
    obtain ⟨m', hm'⟩ := shadow_step h c
    exact ih hm' he'

/-- **A run and a task that can be read.**  The task goes on with its intent
exactly when no call disturbs it. -/
theorem get_run : ∀ (calls : List BusCall) {b : B} {m : InMemoryTaskBus} {u : TaskDomain},
    Shadow m b → TaskBus.get b s i = .ok (some u) →
    (Undisturbed s i b calls → ∃ u', TaskBus.get (TaskBus.run b calls) s i = .ok (some u') ∧
      u.SameTask u' ∧ u'.intent = u.intent) ∧
    (¬Undisturbed s i b calls → (∃ e, TaskBus.get (TaskBus.run b calls) s i = .error e) ∨
      ∃ u', TaskBus.get (TaskBus.run b calls) s i = .ok (some u') ∧
        (rstrip u.intent).length < (rstrip u'.intent).length) := by
  intro calls
  induction calls with
  | nil =>
    intro b m u _ hu
    exact ⟨fun _ => ⟨u, hu, .refl u, rfl⟩, fun hno => absurd trivial hno⟩
  | cons c calls ih =>
    intro b m u h hu
    obtain ⟨m', hm'⟩ := shadow_step h c
    by_cases hd : Disturbs b s i c
    · refine ⟨fun hun => absurd hd hun.1, fun _ => ?_⟩
      rcases get_step_of_disturbs h hu hd with ⟨e, he⟩ | ⟨u₁, hu₁, _, hlt⟩
      · exact .inl (get_run_of_error calls hm' he)
      · obtain ⟨hyes, hno⟩ := ih hm' hu₁
        by_cases hrest : Undisturbed s i (TaskBus.step b c).2 calls
        · obtain ⟨u', hu', _, hint⟩ := hyes hrest
          exact .inr ⟨u', hu', by rw [hint]; exact hlt⟩
        · rcases hno hrest with he | ⟨u', hu', hlt'⟩
          · exact .inl he
          · exact .inr ⟨u', hu', hlt.trans hlt'⟩
    · obtain ⟨u₁, hu₁, hsame, hint⟩ := get_step_of_not_disturbs h hu hd
      obtain ⟨hyes, hno⟩ := ih hm' hu₁
      constructor
      · rintro ⟨_, hrest⟩
        obtain ⟨u', hu', hsame', hint'⟩ := hyes hrest
        exact ⟨u', hu', hsame.trans hsame', hint'.trans hint⟩
      · intro hun
        have hrest : ¬Undisturbed s i (TaskBus.step b c).2 calls := fun hr => hun ⟨hd, hr⟩
        rw [← hint]
        exact hno hrest

end

/-! ### The two buses -/

/-- The in-memory bus is its own shadow. -/
instance : ShadowedBus InMemoryTaskBus where
  Shadow m b := m = b ∧ b.Keyed
  norm := id
  Readable _ := True
  readsEmptyResult := true
  keyed h := by rw [h.1]; exact h.2
  get_none h hm := by rw [← h.1]; exact congrArg Except.ok hm
  get_readable h hm _ := by rw [← h.1]; exact congrArg Except.ok hm
  get_broken _ _ hr := absurd trivial hr
  step_shadow := by
    rintro m _ ⟨rfl, hb⟩ c
    exact .inr ⟨⟨rfl, InMemoryTaskBus.keyed_step hb c⟩, rfl⟩
  transition_ok := by
    rintro m _ s i t u tr env ⟨rfl, _⟩ hm _ hargs hupd
    show (InMemoryTaskBus.transition m s i tr env).1.isOk = true
    simp only [InMemoryTaskBus.transition, hargs, Except.bind, InMemoryTaskBus.requireTask, hm,
      hupd]
    rfl
  publish_reply := by
    intro b t u h
    have h' : (InMemoryTaskBus.publish b t).1 = .ok u := h
    unfold InMemoryTaskBus.publish at h'
    split at h'
    · cases h'
    · exact (Except.ok.inj h').symm
  readable_valid _ := trivial
  readable_claimed _ _ _ := trivial
  readable_recovered _ := trivial
  readable_updated _ _ _ := ⟨fun _ => .inl rfl, fun _ => trivial⟩

namespace InMemoryTaskBus

theorem valid_or_done_step {m : InMemoryTaskBus} (hb : m.Keyed)
    (h : ∀ k t, m.tasks.get? k = some t → t.Valid ∨ t.status = .done) (c : BusCall) :
    ∀ k t, (TaskBus.step m c).2.tasks.get? k = some t → t.Valid ∨ t.status = .done := by
  refine stored_step hb h ?_
  intro k t' r hch
  cases hch with
  | published valid => exact .inl valid
  | claimed t _ agentId _ hag hg hp _ he =>
    rcases h k t hg with hv | hd
    · exact .inl (he ▸ TaskDomain.valid_claimed hv hp hag c.env)
    · rw [hp] at hd
      cases hd
  | recovered t now _ _ hg hr _ he =>
    rcases h k t hg with hv | hd
    · exact .inl (he ▸ TaskDomain.valid_recovered hv now)
    · rw [hr] at hd
      cases hd
  | moved t tr hop hargs hg he =>
    by_cases htr : tr = .complete (some "")
    · subst htr
      obtain ⟨_, rfl⟩ := ite_raise_eq_ok.mp he
      exact .inr rfl
    · rcases h k t hg with hv | hd
      · exact .inl (TaskDomain.valid_updated hargs htr he hv)
      · have hmove := Transition.statusMove_updated he
        rw [hd] at hmove
        generalize t'.status = s' at hmove
        cases hmove with
        | fail _ hne => exact absurd rfl hne
        | reopen _ hor => rcases hor with h | h <;> cases h

end InMemoryTaskBus

instance : ShadowedBus SqliteTaskBus where
  Shadow m b := Refines m b ∧ ∀ k t, m.tasks.get? k = some t → t.Valid ∨ t.status = .done
  norm := Option.map TaskDispatchConstraints.jsonNormal
  Readable := TaskDomain.Valid
  readsEmptyResult := false
  keyed h := h.1.keyed
  get_none := by
    intro m b s i h hm
    rcases h.1.get_cases s i with hg | ⟨t, _, ht, _⟩
    · rw [hm] at hg
      exact hg
    · rw [show m.tasks.get? (s, i) = none from hm] at ht
      cases ht
  get_readable := by
    intro m b s i t h hm hv
    rcases h.1.get_cases s i with hg | ⟨t', _, ht, hv', _⟩
    · rw [hm] at hg
      exact hg
    · obtain rfl : t = t' := Option.some.inj (hm.symm.trans ht)
      exact absurd hv hv'
  get_broken := by
    intro m b s i t h hm hv
    refine ⟨(h.2 (s, i) t hm).resolve_left hv, ?_⟩
    have hrow : b.rows.get? (s, i) = some (.ofTask t) := by
      rw [h.1.rows, Dict.get?_map, show m.tasks.get? (s, i) = some t from hm]
      rfl
    rcases taskFromRow_ofTask t with ⟨hv', _⟩ | ⟨_, e, he⟩
    · exact absurd hv' hv
    · refine ⟨.validation e, ?_⟩
      show b.get s i = _
      simp only [SqliteTaskBus.get, hrow, he, Except.map]
  step_shadow := by
    intro m b h c
    rcases h.1.step_refines c with ⟨e, _, he⟩ | ⟨hagree, hnext⟩
    · exact .inl ⟨e, he⟩
    · refine .inr ⟨⟨hnext, InMemoryTaskBus.valid_or_done_step h.1.keyed h.2 c⟩, ?_⟩
      rcases hagree with heq | heq
      · rw [heq]
      · rw [heq]
        cases (TaskBus.step m c).1 <;> rfl
  transition_ok := by
    intro m b s i t u tr env h hm hv hargs hupd
    have hget : b.get s i = .ok (some t.jsonNormal) := by
      rcases h.1.get_cases s i with hg | ⟨t', _, ht, hv', _⟩
      · rw [hm] at hg
        exact hg
      · obtain rfl : t = t' := Option.some.inj (hm.symm.trans ht)
        exact absurd hv hv'
    show (SqliteTaskBus.transition b s i tr env).1.isOk = true
    simp only [SqliteTaskBus.transition, hargs, Except.bind, SqliteTaskBus.requireTask, hget,
      Transition.updated_jsonNormal, hupd, Except.map]
    rfl
  publish_reply := by
    intro b t u h
    have h' : (SqliteTaskBus.publish b t).1 = .ok u := h
    unfold SqliteTaskBus.publish at h'
    split at h'
    · cases h'
    · split at h'
      · cases h'
      · exact (Except.ok.inj h').symm
  readable_valid h := h
  readable_claimed hv hp hag := TaskDomain.valid_claimed hv hp hag _
  readable_recovered hv := TaskDomain.valid_recovered hv _
  readable_updated := by
    intro t u tr env hv hargs hupd
    constructor
    · intro hu
      right
      rintro rfl
      obtain ⟨_, rfl⟩ := ite_raise_eq_ok.mp hupd
      have hf := hu.1
      simp [TaskDomain.fieldsOk, optText, Codec.optional, Codec.text] at hf
    · intro hor
      refine TaskDomain.valid_updated hargs ?_ hupd hv
      simpa using hor

theorem shadow_inMemory_empty :
    ShadowedBus.Shadow InMemoryTaskBus.empty InMemoryTaskBus.empty :=
  ⟨rfl, InMemoryTaskBus.keyed_empty⟩

theorem shadow_sqlite_empty : ShadowedBus.Shadow InMemoryTaskBus.empty SqliteTaskBus.empty :=
  ⟨Refines.empty, fun k t h => by cases h⟩

end Taskweavn
