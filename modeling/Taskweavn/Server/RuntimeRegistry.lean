import Taskweavn.Lib.Dict
import Taskweavn.Lib.Run
import Mathlib.Logic.Function.Basic
import Mathlib.Data.List.Perm.Basic

/-!
# The runtimes of the workspaces

`WorkspaceRuntimeRegistry.get_runtime` looks a runtime up, makes one when there is none, and
stores it; `close_all` takes what is stored, clears the registry and closes one runtime after
the other (`taskweavn/server/multi_workspace.py`).  The sidecar serves each request on a thread
of its own and takes no lock, so the steps of all calls may come in any order.

`RegistryState` is the registry with all calls that are under way.  `Exclusive` says in which
order the calls may take their steps: no two of them make a runtime for one workspace between
the lookups and the store, and nobody makes one after the shutdown has begun.  `one_runtime`
says that **then every workspace has one runtime, which is closed exactly once**.
-/

namespace Taskweavn

open Lib Function

/-- Where a call of `get_runtime` stands that has found no runtime. -/
inductive RequestPhase
  | missed (workspaceId : String)
  | built (workspaceId : String) (runtime : ℕ)
deriving DecidableEq, Repr

/-- Where a call of `close_all` stands. -/
inductive ClosingPhase
  /-- `tuple(self._runtimes.values())` -/
  | snapshot (runtimes : List ℕ)
  /-- The registry is cleared, and these are still to be closed. -/
  | closing (rest : List ℕ)
  | returned
  /-- `close` has raised. -/
  | raised
deriving DecidableEq, Repr

/-- The registry, the calls under way, and what has happened so far.  A runtime is known by its
place among those that the factory has produced. -/
structure RegistryState where
  entries : List String
  runtimes : Dict String ℕ := Dict.empty
  /-- The workspaces of the runtimes, in the order in which they were made. -/
  produced : List String := []
  /-- The calls of `close`. -/
  closes : List ℕ := []
  requests : ℕ → Option RequestPhase := fun _ => none
  /-- The requests that went to a runtime, with the workspace. -/
  handled : List (String × ℕ) := []
  closers : ℕ → Option ClosingPhase := fun _ => none

inductive RegistryStep
  /-- The lookup of a request, and whether the root of the workspace exists. -/
  | lookup (request : ℕ) (workspaceId : String) (rootExists : Bool)
  | build (request : ℕ) (raises : Bool)
  | store (request : ℕ)
  | snapshot (call : ℕ)
  | clear (call : ℕ)
  | close (call : ℕ) (raises : Bool)
deriving DecidableEq, Repr

namespace RegistryState

/-- One step of one call; a step that its call cannot take changes nothing. -/
def step (s : RegistryState) : RegistryStep → Unit × RegistryState
  | .lookup request workspaceId rootExists =>
    if s.requests request = none ∧ workspaceId ∈ s.entries ∧ rootExists = true then
      match s.runtimes.get? workspaceId with
      | some runtime => ((), { s with handled := s.handled ++ [(workspaceId, runtime)] })
      | none => ((), { s with requests := update s.requests request (some (.missed workspaceId)) })
    else ((), s)
  | .build request raises =>
    match s.requests request with
    | some (.missed workspaceId) =>
      if raises then ((), { s with requests := update s.requests request none })
      else
        ((), { s with
          produced := s.produced ++ [workspaceId]
          requests := update s.requests request (some (.built workspaceId s.produced.length)) })
    | _ => ((), s)
  | .store request =>
    match s.requests request with
    | some (.built workspaceId runtime) =>
      ((), { s with
        runtimes := s.runtimes.set workspaceId runtime
        requests := update s.requests request none
        handled := s.handled ++ [(workspaceId, runtime)] })
    | _ => ((), s)
  | .snapshot call =>
    match s.closers call with
    | none => ((), { s with closers := update s.closers call (some (.snapshot s.runtimes.values)) })
    | some _ => ((), s)
  | .clear call =>
    match s.closers call with
    | some (.snapshot runtimes) =>
      ((), { s with
        runtimes := Dict.empty
        closers := update s.closers call (some (.closing runtimes)) })
    | _ => ((), s)
  | .close call raises =>
    match s.closers call with
    | some (.closing []) => ((), { s with closers := update s.closers call (some .returned) })
    | some (.closing (runtime :: rest)) =>
      ((), { s with
        closes := s.closes ++ [runtime]
        closers := update s.closers call (some (if raises then .raised else .closing rest)) })
    | _ => ((), s)

/-- A registry that nobody has used. -/
def start (entries : List String) : RegistryState := { entries := entries }

/-! ### What is promised -/

/-- One live runtime for each workspace, the same for all its requests, and closed once when
`close_all` has returned. -/
structure OneRuntime (s : RegistryState) : Prop where
  live : ∀ w r r', s.produced[r]? = some w → s.produced[r']? = some w →
    r ∉ s.closes → r' ∉ s.closes → r = r'
  same : ∀ w r r', (w, r) ∈ s.handled → (w, r') ∈ s.handled → r = r'
  closed : ∀ c, s.closers c = some .returned → ∀ r < s.produced.length, s.closes.count r = 1

/-- The order of the steps.  The factory answers a request while no other request holds a
runtime for the workspace, and before any `close_all`; a request stores its runtime while no
other has looked for the workspace and waits for the factory; a `close_all` begins only while no
request holds a runtime that it has not stored, and after all earlier ones have returned. -/
def Exclusive (s : RegistryState) : RegistryStep → Prop
  | .build request raises => ∀ w, s.requests request = some (.missed w) → raises = false →
    (∀ q r, s.requests q ≠ some (.built w r)) ∧ ∀ c, s.closers c = none
  | .store request => ∀ w r, s.requests request = some (.built w r) →
    ∀ q, s.requests q ≠ some (.missed w)
  | .snapshot call => s.closers call = none →
    (∀ q w r, s.requests q ≠ some (.built w r)) ∧
      ∀ c, s.closers c = none ∨ s.closers c = some .returned
  | _ => True

/-! ### The invariant -/

/-- No `close_all` has begun: a runtime is in the registry, or with the request that made it. -/
structure Open (s : RegistryState) : Prop where
  closers : ∀ c, s.closers c = none
  closes : s.closes = []
  found : ∀ w r, s.produced[r]? = some w →
    s.runtimes.get? w = some r ∨ ∃ q, s.requests q = some (.built w r)

/-- A `close_all` has begun, and `rest` are still to be closed. -/
structure Drains (s : RegistryState) (rest : List ℕ) : Prop where
  idle : ∀ q w r, s.requests q ≠ some (.built w r)
  perm : (s.closes ++ rest).Perm (List.range s.produced.length)
  snapshot : ∀ c l, s.closers c = some (.snapshot l) → l = rest ∧
    ∀ c', c' ≠ c → s.closers c' = none ∨ s.closers c' = some .returned
  closing : ∀ c l, s.closers c = some (.closing l) → l = rest ∧ s.runtimes = Dict.empty ∧
    ∀ c', c' ≠ c → s.closers c' = none ∨ s.closers c' = some .returned
  returned : ∀ c, s.closers c = some .returned → rest = [] ∧ s.runtimes = Dict.empty

structure Sound (s : RegistryState) : Prop where
  once : s.produced.Nodup
  registered : ∀ w r, s.runtimes.get? w = some r → s.produced[r]? = some w
  /-- Who waits for the factory still finds nothing. -/
  missed : ∀ q w, s.requests q = some (.missed w) → s.runtimes.get? w = none
  built : ∀ q w r, s.requests q = some (.built w r) → s.produced[r]? = some w
  handled : ∀ w r, (w, r) ∈ s.handled → s.produced[r]? = some w
  phase : s.Open ∨ (∃ c, s.closers c ≠ none) ∧ ∃ rest, s.Drains rest

variable {s : RegistryState}

theorem sound_start (entries : List String) : (start entries).Sound where
  once := List.nodup_nil
  registered w r h := by cases h
  missed q w h := by cases h
  built q w r h := by cases h
  handled w r h := by cases h
  phase := .inl ⟨fun _ => rfl, rfl, fun w r h => by cases h⟩

theorem Sound.eq_of_produced (hs : s.Sound) {w : String} {r r' : ℕ}
    (h : s.produced[r]? = some w) (h' : s.produced[r']? = some w) : r = r' := by
  obtain ⟨hr, -⟩ := List.getElem?_eq_some_iff.mp h
  exact (List.getElem?_inj hr hs.once).mp (h.trans h'.symm)

/-- **The promise in a sound state.** -/
theorem Sound.oneRuntime (hs : s.Sound) : s.OneRuntime where
  live _ _ _ h h' _ _ := hs.eq_of_produced h h'
  same _ _ _ h h' := hs.eq_of_produced (hs.handled _ _ h) (hs.handled _ _ h')
  closed c hc r hr := by
    rcases hs.phase with hopen | ⟨-, rest, hdrains⟩
    · rw [hopen.closers c] at hc
      cases hc
    · obtain ⟨rfl, -⟩ := hdrains.returned c hc
      have hperm := hdrains.perm
      rw [List.append_nil] at hperm
      rw [hperm.count_eq]
      exact List.count_eq_one_of_mem List.nodup_range (List.mem_range.mpr hr)

theorem Sound.values_perm (hs : s.Sound) (hopen : s.Open)
    (hidle : ∀ q w r, s.requests q ≠ some (.built w r)) :
    s.runtimes.values.Perm (List.range s.produced.length) := by
  have hnodup : s.runtimes.values.Nodup := by
    refine List.Nodup.of_map (fun r => (s.produced[r]?).getD "") ?_
    refine Dict.nodup_map_values fun w r h => ?_
    rw [hs.registered w r h]
    rfl
  rw [List.perm_ext_iff_of_nodup hnodup List.nodup_range]
  intro r
  rw [Dict.mem_values, List.mem_range]
  constructor
  · rintro ⟨w, h⟩
    exact (List.getElem?_eq_some_iff.mp (hs.registered w r h)).1
  · intro hr
    have hget : s.produced[r]? = some s.produced[r] := List.getElem?_eq_getElem hr
    rcases hopen.found _ r hget with h | ⟨q, hq⟩
    · exact ⟨_, h⟩
    · exact absurd hq (hidle q _ r)

/-! ### The steps of a request -/

theorem Sound.request (hs : s.Sound) {request : ℕ} {phase : Option RequestPhase}
    (hnone : ∀ w r, s.requests request ≠ some (.built w r))
    (hphase : ∀ w r, phase ≠ some (.built w r))
    (hmissed : ∀ w, phase = some (.missed w) → s.runtimes.get? w = none) :
    ({ s with requests := update s.requests request phase } : RegistryState).Sound where
  once := hs.once
  registered := hs.registered
  missed q w h := by
    dsimp only at h
    rw [update_apply] at h
    split at h
    · exact hmissed w h
    · exact hs.missed q w h
  built q w r h := by
    dsimp only at h
    rw [update_apply] at h
    split at h
    · exact absurd h (hphase w r)
    · exact hs.built q w r h
  handled := hs.handled
  phase := by
    rcases hs.phase with hopen | ⟨hbegun, rest, hdrains⟩
    · refine .inl ⟨hopen.closers, hopen.closes, fun w r h => ?_⟩
      rcases hopen.found w r h with hget | ⟨q, hq⟩
      · exact .inl hget
      · refine .inr ⟨q, ?_⟩
        have hne : q ≠ request := by
          rintro rfl
          exact hnone w r hq
        exact (update_of_ne hne _ _).trans hq
    · refine .inr ⟨hbegun, rest, ?_, hdrains.perm, hdrains.snapshot, hdrains.closing,
        hdrains.returned⟩
      intro q w r h
      dsimp only at h
      rw [update_apply] at h
      split at h
      · exact hphase w r h
      · exact hdrains.idle q w r h

theorem Sound.lookup (hs : s.Sound) (request : ℕ) (workspaceId : String) (rootExists : Bool) :
    (s.step (.lookup request workspaceId rootExists)).2.Sound := by
  simp only [step]
  split
  · next hfree =>
    split
    · next runtime hget =>
      refine ⟨hs.once, hs.registered, hs.missed, hs.built, fun w r h => ?_, hs.phase.imp
        (fun h => ⟨h.closers, h.closes, h.found⟩)
        (fun ⟨hbegun, rest, h⟩ =>
          ⟨hbegun, rest, h.idle, h.perm, h.snapshot, h.closing, h.returned⟩)⟩
      rcases List.mem_append.mp h with h | h
      · exact hs.handled w r h
      · cases List.mem_singleton.mp h
        exact hs.registered _ _ hget
    · next hget =>
      refine hs.request (fun w r h => ?_) (fun w r h => ?_) fun w h => ?_
      · rw [hfree.1] at h
        cases h
      · cases h
      · cases h
        exact hget
  · exact hs

theorem Sound.produce (hs : s.Sound) {request : ℕ} {workspaceId : String}
    (hmissed : s.requests request = some (.missed workspaceId))
    (hothers : ∀ q r, s.requests q ≠ some (.built workspaceId r))
    (hclosers : ∀ c, s.closers c = none) :
    ({ s with
      produced := s.produced ++ [workspaceId]
      requests := update s.requests request (some (.built workspaceId s.produced.length)) } :
      RegistryState).Sound := by
  have hopen : s.Open := hs.phase.resolve_right fun ⟨⟨c, hc⟩, _⟩ => hc (hclosers c)
  have hkeep : ∀ (w : String) (r : ℕ), s.produced[r]? = some w →
      (s.produced ++ [workspaceId])[r]? = some w := by
    intro w r h
    obtain ⟨hr, -⟩ := List.getElem?_eq_some_iff.mp h
    rw [List.getElem?_append_left hr]
    exact h
  have hlast : (s.produced ++ [workspaceId])[s.produced.length]? = some workspaceId := by simp
  -- a runtime that was made before would be found, or another request would hold it
  have hnew : workspaceId ∉ s.produced := by
    intro hmem
    obtain ⟨r, hr, hget⟩ := List.getElem_of_mem hmem
    have hr' : s.produced[r]? = some workspaceId := by rw [List.getElem?_eq_getElem hr, hget]
    rcases hopen.found workspaceId r hr' with h | ⟨q, hq⟩
    · rw [hs.missed request workspaceId hmissed] at h
      cases h
    · exact hothers q r hq
  refine ⟨?_, fun w r h => hkeep w r (hs.registered w r h), fun q w h => ?_, fun q w r h => ?_,
    fun w r h => hkeep w r (hs.handled w r h), .inl ⟨hclosers, hopen.closes, fun w r h => ?_⟩⟩
  · rw [List.nodup_append]
    refine ⟨hs.once, List.nodup_singleton _, ?_⟩
    intro w hw w' hw' heq
    obtain rfl := List.mem_singleton.mp hw'
    exact hnew (heq ▸ hw)
  · dsimp only at h
    rw [update_apply] at h
    split at h
    · cases h
    · exact hs.missed q w h
  · dsimp only at h
    rw [update_apply] at h
    split at h
    · cases h
      exact hlast
    · exact hkeep w r (hs.built q w r h)
  · by_cases hr : r < s.produced.length
    · rw [List.getElem?_append_left hr] at h
      rcases hopen.found w r h with hget | ⟨q, hq⟩
      · exact .inl hget
      · refine .inr ⟨q, ?_⟩
        have hne : q ≠ request := by
          rintro rfl
          rw [hmissed] at hq
          cases hq
        exact (update_of_ne hne _ _).trans hq
    · obtain ⟨hlt, -⟩ := List.getElem?_eq_some_iff.mp h
      rw [List.length_append, List.length_singleton] at hlt
      obtain rfl : r = s.produced.length := by omega
      rw [hlast] at h
      cases h
      exact .inr ⟨request, update_self ..⟩

theorem Sound.build (hs : s.Sound) {request : ℕ} {raises : Bool}
    (h : s.Exclusive (.build request raises)) : (s.step (.build request raises)).2.Sound := by
  simp only [step]
  split
  · next workspaceId hmissed =>
    split
    · refine hs.request (fun w r hbuilt => ?_) (fun w r hbuilt => by cases hbuilt)
        fun w hw => by cases hw
      rw [hmissed] at hbuilt
      cases hbuilt
    · next hraises =>
      obtain ⟨hothers, hclosers⟩ := h workspaceId hmissed (by simpa using hraises)
      exact hs.produce hmissed hothers hclosers
  · exact hs

theorem Sound.store (hs : s.Sound) {request : ℕ} (hstore : s.Exclusive (.store request)) :
    (s.step (.store request)).2.Sound := by
  simp only [step]
  split
  · next workspaceId runtime hbuilt =>
    have hopen : s.Open := hs.phase.resolve_right fun ⟨_, _, hdrains⟩ =>
      hdrains.idle request _ _ hbuilt
    have hown := hs.built _ _ _ hbuilt
    refine ⟨hs.once, fun w r h => ?_, fun q w h => ?_, fun q w r h => ?_, fun w r h => ?_,
      .inl ⟨hopen.closers, hopen.closes, fun w r h => ?_⟩⟩
    · rw [Dict.get?_set] at h
      split at h
      · next hw =>
        cases h
        rw [← hw]
        exact hown
      · exact hs.registered w r h
    · dsimp only at h
      rw [update_apply] at h
      split at h
      · cases h
      · have hne : workspaceId ≠ w := by
          rintro rfl
          exact hstore workspaceId runtime hbuilt q h
        rw [Dict.get?_set_ne _ _ hne]
        exact hs.missed q w h
    · dsimp only at h
      rw [update_apply] at h
      split at h
      · cases h
      · exact hs.built q w r h
    · rcases List.mem_append.mp h with h | h
      · exact hs.handled w r h
      · cases List.mem_singleton.mp h
        exact hown
    · by_cases hw : workspaceId = w
      · left
        subst hw
        rw [hs.eq_of_produced h hown]
        exact Dict.get?_set_self _ _ _
      · rcases hopen.found w r h with hget | ⟨q, hq⟩
        · left
          rw [Dict.get?_set_ne _ _ hw]
          exact hget
        · refine .inr ⟨q, ?_⟩
          have hne : q ≠ request := by
            rintro rfl
            rw [hbuilt] at hq
            cases hq
            exact hw rfl
          exact (update_of_ne hne _ _).trans hq
  · exact hs

/-! ### The steps of `close_all` -/

/-- What is still to be closed, when one call stands at this phase. -/
def Fits (s : RegistryState) (rest : List ℕ) : ClosingPhase → Prop
  | .snapshot l => l = rest
  | .closing l => l = rest ∧ s.runtimes = Dict.empty
  | .returned => rest = [] ∧ s.runtimes = Dict.empty
  | .raised => True

theorem drains_of_one {call : ℕ} {phase : ClosingPhase} {rest : List ℕ}
    (hidle : ∀ q w r, s.requests q ≠ some (.built w r))
    (hperm : (s.closes ++ rest).Perm (List.range s.produced.length))
    (hcall : s.closers call = some phase) (hfits : s.Fits rest phase)
    (hothers : ∀ c, c ≠ call → s.closers c = none ∨
      s.closers c = some .returned ∧ s.Fits rest .returned) : s.Drains rest := by
  have hone : ∀ c p, s.closers c = some p → p ≠ .returned → c = call ∧ p = phase := by
    intro c p hc hp
    by_cases heq : c = call
    · subst heq
      exact ⟨rfl, Option.some.inj (hc.symm.trans hcall)⟩
    · rcases hothers c heq with h | ⟨h, -⟩
      · rw [h] at hc
        cases hc
      · rw [h] at hc
        cases hc
        exact absurd rfl hp
  have hrest : ∀ c, c ≠ call → s.closers c = none ∨ s.closers c = some .returned :=
    fun c hc => (hothers c hc).imp id fun h => h.1
  refine ⟨hidle, hperm, fun c l hc => ?_, fun c l hc => ?_, fun c hc => ?_⟩
  · obtain ⟨rfl, rfl⟩ := hone c _ hc (fun h => by cases h)
    exact ⟨hfits, hrest⟩
  · obtain ⟨rfl, rfl⟩ := hone c _ hc (fun h => by cases h)
    exact ⟨hfits.1, hfits.2, hrest⟩
  · by_cases heq : c = call
    · subst heq
      obtain rfl := Option.some.inj (hcall.symm.trans hc)
      exact hfits
    · rcases hothers c heq with h | ⟨-, h⟩
      · rw [h] at hc
        cases hc
      · exact h

theorem Sound.close_step (hs : s.Sound) {call : ℕ} {phase : ClosingPhase} {rest closes : List ℕ}
    {runtimes : Dict String ℕ} (hruntimes : runtimes = s.runtimes ∨ runtimes = Dict.empty)
    (hidle : ∀ q w r, s.requests q ≠ some (.built w r))
    (hperm : (closes ++ rest).Perm (List.range s.produced.length))
    (hfits : ({ s with runtimes := runtimes } : RegistryState).Fits rest phase)
    (hothers : ∀ c, c ≠ call → s.closers c = none ∨
      s.closers c = some .returned ∧ rest = [] ∧ s.runtimes = Dict.empty) :
    ({ s with
      runtimes := runtimes
      closes := closes
      closers := update s.closers call (some phase) } : RegistryState).Sound := by
  refine ⟨hs.once, fun w r h => ?_, fun q w h => ?_, hs.built, hs.handled, .inr ⟨⟨call, ?_⟩, rest,
    drains_of_one hidle hperm (update_self ..) ?_ fun c hc => ?_⟩⟩
  · rcases hruntimes with rfl | rfl
    · exact hs.registered w r h
    · cases h
  · rcases hruntimes with rfl | rfl
    · exact hs.missed q w h
    · rfl
  · dsimp only
    rw [update_self]
    exact Option.some_ne_none _
  · cases phase <;> exact hfits
  · refine (hothers c hc).imp (update_of_ne hc _ _).trans fun ⟨h, hnil, hempty⟩ =>
      ⟨(update_of_ne hc _ _).trans h, hnil, ?_⟩
    rcases hruntimes with rfl | rfl
    · exact hempty
    · rfl

theorem Sound.snapshot (hs : s.Sound) {call : ℕ} (h : s.Exclusive (.snapshot call)) :
    (s.step (.snapshot call)).2.Sound := by
  simp only [step]
  split
  · next hfree =>
    obtain ⟨hidle, hothers⟩ := h hfree
    rcases hs.phase with hopen | ⟨⟨c, hc⟩, rest, hdrains⟩
    · refine hs.close_step (.inl rfl) hidle ?_ rfl fun c _ => .inl (hopen.closers c)
      rw [hopen.closes]
      exact hs.values_perm hopen hidle
    · -- an earlier call has returned, and has left nothing
      obtain ⟨rfl, hempty⟩ := hdrains.returned c ((hothers c).resolve_left hc)
      have hnil : s.runtimes.values = [] := by
        rw [hempty]
        rfl
      rw [hnil]
      exact hs.close_step (.inl rfl) hidle hdrains.perm rfl fun c _ =>
        (hothers c).imp id fun h => ⟨h, rfl, hempty⟩
  · exact hs

theorem Sound.drains (hs : s.Sound) (call : ℕ) (h : s.closers call ≠ none) :
    ∃ rest, s.Drains rest := by
  rcases hs.phase with hopen | ⟨-, h'⟩
  · exact absurd (hopen.closers call) h
  · exact h'

theorem Sound.clear (hs : s.Sound) (call : ℕ) : (s.step (.clear call)).2.Sound := by
  simp only [step]
  split
  · next runtimes hcall =>
    obtain ⟨rest, hdrains⟩ := hs.drains call (by simp [hcall])
    obtain ⟨rfl, hothers⟩ := hdrains.snapshot call runtimes hcall
    exact hs.close_step (.inr rfl) hdrains.idle hdrains.perm ⟨rfl, rfl⟩ fun c hc =>
      (hothers c hc).imp id fun h => ⟨h, hdrains.returned c h⟩
  · exact hs

theorem Sound.close (hs : s.Sound) (call : ℕ) (raises : Bool) :
    (s.step (.close call raises)).2.Sound := by
  simp only [step]
  split
  · next hcall =>
    obtain ⟨rest, hdrains⟩ := hs.drains call (by simp [hcall])
    obtain ⟨rfl, hempty, hothers⟩ := hdrains.closing call _ hcall
    exact hs.close_step (.inl rfl) hdrains.idle hdrains.perm ⟨rfl, hempty⟩ fun c hc =>
      (hothers c hc).imp id fun h => ⟨h, rfl, hempty⟩
  · next runtime rest hcall =>
    obtain ⟨_, hdrains⟩ := hs.drains call (by simp [hcall])
    obtain ⟨rfl, hempty, hothers⟩ := hdrains.closing call _ hcall
    have hperm : (s.closes ++ [runtime] ++ rest).Perm (List.range s.produced.length) := by
      rw [List.append_assoc]
      exact hdrains.perm
    refine hs.close_step (.inl rfl) hdrains.idle hperm ?_ fun c hc => ?_
    · cases raises
      · exact ⟨rfl, hempty⟩
      · exact trivial
    · rcases hothers c hc with h | h
      · exact .inl h
      · -- a call that has returned leaves nothing to be closed
        cases (hdrains.returned c h).1
  · exact hs

/-! ### Runs -/

theorem Sound.step (hs : s.Sound) (l : RegistryStep) (h : s.Exclusive l) : (s.step l).2.Sound := by
  cases l with
  | lookup request workspaceId rootExists => exact hs.lookup request workspaceId rootExists
  | build request raises => exact hs.build h
  | store request => exact hs.store h
  | snapshot call => exact hs.snapshot h
  | clear call => exact hs.clear call
  | close call raises => exact hs.close call raises

theorem sound_run : ∀ (steps : List RegistryStep) {s : RegistryState}, s.Sound →
    Throughout RegistryState.step Exclusive s steps →
    ∀ n, (final RegistryState.step s (steps.take n)).Sound := by
  intro steps
  induction steps with
  | nil =>
    intro s hs _ n
    rw [List.take_nil]
    exact hs
  | cons l rest ih =>
    intro s hs h n
    cases n with
    | zero => exact hs
    | succ n => exact ih (hs.step l h.1) h.2 n

/-- **One live runtime for each workspace**, in every state that a run of exclusive steps
reaches. -/
theorem one_runtime (entries : List String) (steps : List RegistryStep)
    (h : Throughout RegistryState.step Exclusive (start entries) steps) (n : ℕ) :
    (final RegistryState.step (start entries) (steps.take n)).OneRuntime :=
  (sound_run steps (sound_start entries) h n).oneRuntime

/-- Two requests look before the factory answers, and it answers only the second of them; a third
finds the runtime that was stored, and then the registry is closed. -/
def openAndClose : List RegistryStep :=
  [.lookup 0 "w" true, .lookup 1 "w" true, .build 0 true, .build 1 false, .store 1,
    .lookup 2 "w" true, .snapshot 0, .clear 0, .close 0 false, .close 0 false]

theorem one_runtime_openAndClose :
    (final RegistryState.step (start ["w"]) (openAndClose.take 10)).OneRuntime := by
  refine one_runtime ["w"] openAndClose
    ⟨trivial, trivial, fun w _ h => (by cases h), fun w _ _ => ⟨fun q r h => ?_, fun _ => rfl⟩,
      fun w r _ q h => ?_, trivial, fun _ => ⟨fun q w r h => ?_, fun _ => .inl rfl⟩, trivial,
      trivial, trivial, trivial⟩ 10
  · match q with
    | 0 => cases h
    | 1 => cases h
    | _ + 2 => cases h
  · match q with
    | 0 => cases h
    | 1 => cases h
    | _ + 2 => cases h
  · match q with
    | 0 => cases h
    | 1 => cases h
    | _ + 2 => cases h

/-- Two requests find no runtime, and each makes one. -/
theorem two_runtimes : ¬∀ (entries : List String) (steps : List RegistryStep),
    (final RegistryState.step (start entries) steps).OneRuntime := by
  intro h
  have hlive := (h ["w"] [.lookup 0 "w" true, .lookup 1 "w" true, .build 0 false, .build 1 false,
    .store 0, .store 1]).live "w" 0 1 rfl rfl (by decide) (by decide)
  cases hlive

end RegistryState

end Taskweavn
