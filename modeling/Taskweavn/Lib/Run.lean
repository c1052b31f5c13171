import Mathlib.Data.List.Basic
import Mathlib.Tactic.Common

/-!
# Runs of a machine

A machine answers a call with an output and a new state.  `final` and `outputs`
run a list of calls, `final_invariant` is the induction that carries an
invariant through a run, and `simulation` runs two machines side by side.
`Throughout` says that a condition on the state and the call is met at every call
of a run, and `outputs_eq_iff` and `agree_iff` compare two machines by such a condition.

The second half is about partial machines, where an action may be impossible in
a state: `execAll` runs a list of actions, `Along` says that a condition on the
state and the action holds at every step of a run, and `execAll_invariant` is
the induction.  `always_iff_along` compares an invariant with the condition that keeps it.
-/

namespace Lib

variable {S T L O : Type*} {I : S → Prop} {A C : S → L → Prop} {R : S → T → Prop}
  {f : S → L → O × S} {g : T → L → O × T} {ls : List L}

/-! ### Machines that answer every call -/

/-- The state after a list of calls. -/
def final (step : S → L → O × S) (s : S) (ls : List L) : S :=
  ls.foldl (fun s l => (step s l).2) s

/-- The answers to a list of calls. -/
def outputs (step : S → L → O × S) : S → List L → List O
  | _, [] => []
  | s, l :: ls => (step s l).1 :: outputs step (step s l).2 ls

@[simp] theorem final_nil (step : S → L → O × S) (s : S) : final step s [] = s := rfl

@[simp] theorem final_cons (step : S → L → O × S) (s : S) (l : L) (ls : List L) :
    final step s (l :: ls) = final step (step s l).2 ls := rfl

theorem final_append (step : S → L → O × S) (s : S) (ls ls' : List L) :
    final step s (ls ++ ls') = final step (final step s ls) ls' := by
  rw [final, List.foldl_append]; rfl

theorem mem_outputs {step : S → L → O × S} {o : O} :
    ∀ (ls : List L) (s : S), o ∈ outputs step s ls → ∃ s' l, o = (step s' l).1 := by
  intro ls
  induction ls with
  | nil => intro s h; simp [outputs] at h
  | cons l ls ih =>
    intro s h
    rcases List.mem_cons.mp h with rfl | h
    · exact ⟨s, l, rfl⟩
    · exact ih _ h

/-- **The invariant rule.** What the start satisfies and every admissible call
keeps holds after every run of admissible calls. -/
theorem final_invariant {step : S → L → O × S} {A : L → Prop}
    (hstep : ∀ s l, I s → A l → I (step s l).2) :
    ∀ (ls : List L) (s : S), I s → (∀ l ∈ ls, A l) → I (final step s ls) := by
  intro ls
  induction ls with
  | nil => intro s hs _; exact hs
  | cons l ls ih =>
    intro s hs hok
    exact ih _ (hstep s l hs (hok l (by simp))) (fun l' hl' => hok l' (by simp [hl']))

/-- **The simulation rule.** Two machines whose related states give equal
answers and related states give equal answers along every run. -/
theorem simulation {A : L → Prop}
    (hstep : ∀ s t l, R s t → A l → (f s l).1 = (g t l).1 ∧ R (f s l).2 (g t l).2) :
    ∀ (ls : List L) (s : S) (t : T), R s t → (∀ l ∈ ls, A l) →
      outputs f s ls = outputs g t ls ∧ R (final f s ls) (final g t ls) := by
  intro ls
  induction ls with
  | nil => intro s t hR _; exact ⟨rfl, hR⟩
  | cons l ls ih =>
    intro s t hR hok
    obtain ⟨ho, hR'⟩ := hstep s t l hR (hok l (by simp))
    obtain ⟨hos, hfin⟩ := ih _ _ hR' (fun l' hl' => hok l' (by simp [hl']))
    exact ⟨by rw [outputs, outputs, ho, hos], hfin⟩

/-- The condition is met by every call of a run, in the state in which it comes. -/
def Throughout (step : S → L → O × S) (C : S → L → Prop) : S → List L → Prop
  | _, [] => True
  | s, l :: ls => C s l ∧ Throughout step C (step s l).2 ls

instance Throughout.decidable {step : S → L → O × S} {C : S → L → Prop} [∀ s l, Decidable (C s l)] :
    ∀ s ls, Decidable (Throughout step C s ls)
  | _, [] => .isTrue trivial
  | s, l :: ls =>
    have : Decidable (Throughout step C (step s l).2 ls) := Throughout.decidable _ ls
    inferInstanceAs (Decidable (C s l ∧ Throughout step C (step s l).2 ls))

theorem Throughout.and_forall {step : S → L → O × S} {A : L → Prop} :
    ∀ (ls : List L) (s : S), Throughout step C s ls → (∀ l ∈ ls, A l) →
      Throughout step (fun s l => C s l ∧ A l) s ls := by
  intro ls
  induction ls with
  | nil => exact fun _ _ _ => trivial
  | cons l ls ih =>
    intro s hC hA
    exact ⟨⟨hC.1, hA l List.mem_cons_self⟩, ih _ hC.2 fun l' hl' =>
      hA l' (List.mem_cons_of_mem l hl')⟩

theorem Throughout.last {step : S → L → O × S} {l : L} :
    ∀ (ls : List L) (s : S), Throughout step C s (ls ++ [l]) → C (final step s ls) l := by
  intro ls
  induction ls with
  | nil => exact fun _ h => h.1
  | cons l' ls ih => exact fun s h => ih _ h.2

/-- **The safety rule.** What the invariant and the condition of a step promise together holds
of every step of a run that meets the condition. -/
theorem Throughout.of_invariant {step : S → L → O × S} {P : S → L → Prop}
    (hsafe : ∀ s l, I s → C s l → P s l) (hstep : ∀ s l, I s → C s l → I (step s l).2) :
    ∀ (ls : List L) (s : S), I s → Throughout step C s ls → Throughout step P s ls := by
  intro ls
  induction ls with
  | nil => exact fun _ _ _ => trivial
  | cons l ls ih =>
    intro s hs hC
    exact ⟨hsafe s l hs hC.1, ih _ (hstep s l hs hC.1) hC.2⟩

/-- The simulation rule, for calls that are admissible in the state in which they come, and
for answers that are the same under a view. -/
theorem simulation_view {V : Type*} (view : O → V)
    (hstep : ∀ s t l, R s t → C s l → view (f s l).1 = view (g t l).1 ∧ R (f s l).2 (g t l).2) :
    ∀ (ls : List L) (s : S) (t : T), R s t → Throughout f C s ls →
      (outputs f s ls).map view = (outputs g t ls).map view ∧ R (final f s ls) (final g t ls) := by
  intro ls
  induction ls with
  | nil => intro s t hR _; exact ⟨rfl, hR⟩
  | cons l ls ih =>
    intro s t hR hC
    obtain ⟨ho, hR'⟩ := hstep s t l hR hC.1
    obtain ⟨hos, hfin⟩ := ih _ _ hR' hC.2
    exact ⟨by rw [outputs, outputs, List.map_cons, List.map_cons, ho, hos], hfin⟩

theorem simulation_throughout
    (hstep : ∀ s t l, R s t → C s l → (f s l).1 = (g t l).1 ∧ R (f s l).2 (g t l).2) (ls : List L)
    (s : S) (t : T) (hR : R s t) (hC : Throughout f C s ls) :
    outputs f s ls = outputs g t ls ∧ R (final f s ls) (final g t ls) := by
  have h := simulation_view id hstep ls s t hR hC
  rwa [List.map_id, List.map_id] at h

/-- A property of the calls of a run is a condition on them, when it is in the states that
such calls keep. -/
theorem throughout_iff {step : S → L → O × S} {P : S → L → Prop}
    (hiff : ∀ s l, I s → (P s l ↔ C s l)) (hstep : ∀ s l, I s → C s l → I (step s l).2) :
    ∀ (ls : List L) (s : S), I s → (Throughout step P s ls ↔ Throughout step C s ls) := by
  intro ls
  induction ls with
  | nil => intro s _; exact Iff.rfl
  | cons l ls ih =>
    intro s hs
    rw [Throughout, Throughout, hiff s l hs]
    exact and_congr_right fun hC => ih _ (hstep s l hs hC)

/-- **The comparison rule.** When a call that meets the condition is answered
equally and leaves related states, and one that does not is answered differently,
two runs have equal answers exactly when the condition is met throughout. -/
theorem outputs_eq_iff
    (hstep : ∀ s t l, R s t → C s l → (f s l).1 = (g t l).1 ∧ R (f s l).2 (g t l).2)
    (hno : ∀ s t l, R s t → (f s l).1 = (g t l).1 → C s l) :
    ∀ (ls : List L) (s : S) (t : T), R s t →
      (outputs f s ls = outputs g t ls ↔ Throughout f C s ls) := by
  intro ls s t hR
  constructor
  · induction ls generalizing s t with
    | nil => intro _; trivial
    | cons l ls ih =>
      intro h
      rw [outputs, outputs, List.cons.injEq] at h
      have hC := hno s t l hR h.1
      exact ⟨hC, ih _ _ (hstep s t l hR hC).2 h.2⟩
  · intro hC
    exact (simulation_throughout hstep ls s t hR hC).1

/-- **The comparison rule with readers.** When a call that misses the condition shows in
its answer or in what a reader finds afterwards, and readers of related states find
the same, two machines agree on a run and on whatever is read along it exactly when
the condition is met throughout. -/
theorem agree_iff {Q : L → Prop}
    (hstep : ∀ s t l, R s t → C s l → (f s l).1 = (g t l).1 ∧ R (f s l).2 (g t l).2)
    (hread : ∀ s t q, R s t → Q q → (f s q).1 = (g t q).1)
    (hno : ∀ s t l, R s t → ¬C s l → (f s l).1 = (g t l).1 →
      ∃ q, Q q ∧ (f (f s l).2 q).1 ≠ (g (g t l).2 q).1) :
    ∀ (ls : List L) (s : S) (t : T), R s t →
      ((outputs f s ls = outputs g t ls ∧ ∀ k q, Q q →
          (f (final f s (ls.take k)) q).1 = (g (final g t (ls.take k)) q).1) ↔
        Throughout f C s ls) := by
  intro ls
  induction ls with
  | nil =>
    intro s t hR
    refine iff_of_true ⟨rfl, fun k q hq => ?_⟩ trivial
    rw [List.take_nil]
    exact hread s t q hR hq
  | cons l ls ih =>
    intro s t hR
    constructor
    · rintro ⟨hout, hfind⟩
      rw [outputs, outputs, List.cons.injEq] at hout
      have hC : C s l := by
        by_contra hmiss
        obtain ⟨q, hq, hne⟩ := hno s t l hR hmiss hout.1
        exact hne (hfind 1 q hq)
      have hR' := (hstep s t l hR hC).2
      exact ⟨hC, (ih _ _ hR').mp ⟨hout.2, fun k q hq => hfind (k + 1) q hq⟩⟩
    · rintro ⟨hC, hrest⟩
      obtain ⟨ho, hR'⟩ := hstep s t l hR hC
      obtain ⟨hout, hfind⟩ := (ih _ _ hR').mpr hrest
      refine ⟨by rw [outputs, outputs, ho, hout], fun k q hq => ?_⟩
      cases k with
      | zero => exact hread s t q hR hq
      | succ k => exact hfind k q hq

/-! ### Partial machines -/

/-- The state after a list of actions, if each is possible where it is taken. -/
def execAll (step : S → L → Option S) : S → List L → Option S
  | s, [] => some s
  | s, l :: ls => (step s l).bind (fun s' => execAll step s' ls)

/-- Every action of the run is taken in a state where `A` allows it. -/
def Along (step : S → L → Option S) (A : S → L → Prop) : S → List L → Prop
  | _, [] => True
  | s, l :: ls => A s l ∧ ∀ s', step s l = some s' → Along step A s' ls

theorem execAll_cons {step : S → L → Option S} {s s' : S} {l : L}
    (h : execAll step s (l :: ls) = some s') :
    ∃ t, step s l = some t ∧ execAll step t ls = some s' :=
  Option.bind_eq_some_iff.mp h

theorem along_of_invariant {step : S → L → Option S} (hA : ∀ s, ∀ l ∈ ls, I s → A s l)
    (hstep : ∀ s, ∀ l ∈ ls, ∀ s', I s → step s l = some s' → I s') :
    ∀ s, I s → Along step A s ls := by
  induction ls with
  | nil => intro s _; trivial
  | cons l ls ih =>
    intro s hs
    refine ⟨hA s l (by simp) hs, fun s' hs' => ?_⟩
    exact ih (fun t l' hl' => hA t l' (by simp [hl']))
      (fun t l' hl' => hstep t l' (by simp [hl'])) s'
      (hstep s l (by simp) s' hs hs')

theorem along_mem {step : S → L → Option S} {ls' : List L} :
    ∀ {s : S}, Along step A s ls → (∀ l ∈ ls, l ∈ ls') →
      Along step (fun s l => A s l ∧ l ∈ ls') s ls := by
  induction ls with
  | nil => intro s _ _; trivial
  | cons l ls ih =>
    intro s h hsub
    refine ⟨⟨h.1, hsub l (by simp)⟩, fun s' hs' => ?_⟩
    exact ih (h.2 s' hs') (fun l' hl' => hsub l' (by simp [hl']))

theorem along_cons {step : S → L → Option S} {s t : S} {l : L} (hA : A s l) (hs : step s l = some t)
    (h : Along step A t ls) : Along step A s (l :: ls) := by
  refine ⟨hA, fun s' hs' => ?_⟩
  rw [hs] at hs'
  rwa [← Option.some.inj hs']

/-- A run is checked step by step. -/
instance Along.decidable {step : S → L → Option S} {A : S → L → Prop} [∀ s l, Decidable (A s l)] :
    ∀ s ls, Decidable (Along step A s ls)
  | _, [] => .isTrue trivial
  | s, l :: ls =>
    match h : step s l with
    | none =>
      decidable_of_iff (A s l)
        ⟨fun hA => ⟨hA, fun s' hs' => absurd (h.symm.trans hs') (by simp)⟩, And.left⟩
    | some t =>
      have : Decidable (Along step A t ls) := Along.decidable t ls
      decidable_of_iff (A s l ∧ Along step A t ls)
        ⟨fun hA => along_cons hA.1 h hA.2, fun hA => ⟨hA.1, hA.2 t h⟩⟩

theorem Along.mono {step : S → L → Option S} {A' : S → L → Prop} (himp : ∀ s l, A s l → A' s l) :
    ∀ {s : S}, Along step A s ls → Along step A' s ls := by
  induction ls with
  | nil => intro s _; trivial
  | cons l ls ih =>
    intro s h
    exact ⟨himp s l h.1, fun s' hs' => ih (h.2 s' hs')⟩

theorem Along.append {step : S → L → Option S} {ls' : List L} {t : S} :
    ∀ {ls : List L} {s : S}, Along step A s (ls ++ ls') → execAll step s ls = some t →
      Along step A s ls ∧ Along step A t ls' := by
  intro ls
  induction ls with
  | nil =>
    intro s h he
    rw [← Option.some.inj he]
    exact ⟨trivial, h⟩
  | cons l ls ih =>
    intro s h he
    obtain ⟨u, hu, he'⟩ := execAll_cons he
    obtain ⟨hfront, hback⟩ := ih (h.2 u hu) he'
    exact ⟨along_cons h.1 hu hfront, hback⟩

/-- **The invariant rule for partial machines.** -/
theorem execAll_invariant {step : S → L → Option S}
    (hstep : ∀ s l s', I s → A s l → step s l = some s' → I s') :
    ∀ (ls : List L) (s s' : S), I s → Along step A s ls → execAll step s ls = some s' →
      I s' := by
  intro ls
  induction ls with
  | nil => intro s s' hs _ he; rwa [← Option.some.inj he]
  | cons l ls ih =>
    intro s s' hs hok he
    obtain ⟨t, ht, he'⟩ := execAll_cons he
    exact ih t s' (hstep s l t hs hok.1 ht) (hok.2 t ht) he'

theorem execAll_always {step : S → L → Option S} (hstep : ∀ s l s', I s → step s l = some s' → I s')
    {s s' : S} (hs : I s) (he : execAll step s ls = some s') : I s' :=
  execAll_invariant (A := fun _ _ => True) (fun s l s' hi _ => hstep s l s' hi) ls s s' hs
    (along_of_invariant (I := fun _ => True) (fun _ _ _ _ => trivial)
      (fun _ _ _ _ _ _ => trivial) s trivial) he

/-- **The rule for a condition that an invariant needs.** When a step keeps the
invariant exactly if its action meets the condition, the invariant holds in every
state of a run exactly if the condition is met along it. -/
theorem always_iff_along {step : S → L → Option S}
    (hstep : ∀ s l s', I s → step s l = some s' → (I s' ↔ C s l)) :
    ∀ (ls : List L) (s : S), I s → (execAll step s ls).isSome →
      ((∀ k t, execAll step s (ls.take k) = some t → I t) ↔ Along step C s ls) := by
  intro ls
  induction ls with
  | nil =>
    intro s hs _
    refine ⟨fun _ => trivial, fun _ k t ht => ?_⟩
    rw [List.take_nil] at ht
    rwa [← Option.some.inj ht]
  | cons l ls ih =>
    intro s hs hrun
    obtain ⟨s', hs', hrest⟩ : ∃ s', step s l = some s' ∧ (execAll step s' ls).isSome := by
      obtain ⟨t, ht⟩ := Option.isSome_iff_exists.mp hrun
      obtain ⟨s', hs', ht'⟩ := execAll_cons ht
      exact ⟨s', hs', by rw [ht']; rfl⟩
    have hcons : ∀ k, execAll step s ((l :: ls).take (k + 1)) = execAll step s' (ls.take k) := by
      intro k
      rw [List.take_succ_cons, execAll, hs']
      rfl
    constructor
    · intro h
      have hI : I s' := h 1 s' (by rw [hcons, List.take_zero]; rfl)
      refine along_cons ((hstep s l s' hs hs').mp hI) hs' ((ih s' hI hrest).mp ?_)
      intro k t ht
      exact h (k + 1) t (by rw [hcons, ht])
    · intro h k t ht
      have hI : I s' := (hstep s l s' hs hs').mpr h.1
      cases k with
      | zero => rwa [← Option.some.inj ht]
      | succ k =>
        rw [hcons] at ht
        exact (ih s' hI hrest).mpr (h.2 s' hs') k t ht

end Lib
