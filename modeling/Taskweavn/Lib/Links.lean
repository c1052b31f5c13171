import Mathlib.Data.List.Induction
import Mathlib.Data.Set.Finite.List
import Taskweavn.Lib.Dict

/-!
# Walking a tree with links

A place of a tree is the list of the names that lead to it from the top.  Some places are
links: instead of being entered, a link is followed, from the top or from the place that
holds it.  A walk takes the steps of a path one by one and ends at a place that no link
leads away from, or it never ends.

`Walks` is the relation, `walk` follows at most so many links, and `walks_iff` connects the
two.

A path of plain names stays where it is put, unless it meets a link.  `Entered` are the places
to which links lead that such paths can meet, and `walks_names_cases`: **a path of plain
names ends below its start or below an entered place.**
-/

namespace Lib

variable {α : Type*} [DecidableEq α]

inductive PathStep (α : Type*)
  | up
  | into (name : α)
deriving DecidableEq

structure Link (α : Type*) where
  absolute : Bool
  steps : List (PathStep α)
deriving DecidableEq

/-- The links of a tree, by their places. -/
abbrev Links (α : Type*) [DecidableEq α] := Dict (List α) (Link α)

/-- Where a link is followed from. -/
def Link.base (link : Link α) (place : List α) : List α := if link.absolute then [] else place

inductive Walks (links : Links α) : List α → List (PathStep α) → List α → Prop
  | done (place : List α) : Walks links place [] place
  | up {place target : List α} {steps : List (PathStep α)}
      (h : Walks links place.dropLast steps target) : Walks links place (.up :: steps) target
  | into {place target : List α} {name : α} {steps : List (PathStep α)}
      (hlink : links.get? (place ++ [name]) = none)
      (h : Walks links (place ++ [name]) steps target) :
        Walks links place (.into name :: steps) target
  | follow {place target : List α} {name : α} {steps : List (PathStep α)} {link : Link α}
      (hlink : links.get? (place ++ [name]) = some link)
      (h : Walks links (link.base place) (link.steps ++ steps) target) :
      Walks links place (.into name :: steps) target

/-- The walk up to the next link, and from there on with `again`. -/
def walkWith (links : Links α) (again : List α → List (PathStep α) → Option (List α)) :
    List α → List (PathStep α) → Option (List α)
  | place, [] => some place
  | place, .up :: steps => walkWith links again place.dropLast steps
  | place, .into name :: steps =>
    match links.get? (place ++ [name]) with
    | none => walkWith links again (place ++ [name]) steps
    | some link => again (link.base place) (link.steps ++ steps)

/-- The walk, when it follows no more links than that. -/
def walk (links : Links α) : ℕ → List α → List (PathStep α) → Option (List α)
  | 0 => walkWith links fun _ _ => none
  | n + 1 => walkWith links (walk links n)

variable {links : Links α} {place target : List α} {steps steps' : List (PathStep α)}

theorem walks_of_walk : ∀ {n : ℕ} {steps : List (PathStep α)} {place : List α},
    walk links n place steps = some target → Walks links place steps target := by
  have hwith : ∀ {again : List α → List (PathStep α) → Option (List α)},
      (∀ place steps, again place steps = some target → Walks links place steps target) →
      ∀ {steps : List (PathStep α)} {place : List α},
        walkWith links again place steps = some target → Walks links place steps target := by
    intro again hagain steps
    induction steps with
    | nil =>
      intro place h
      cases h
      exact .done _
    | cons step steps ih =>
      intro place h
      cases step with
      | up => exact .up (ih h)
      | into name =>
        rw [walkWith] at h
        split at h
        · next hlink => exact .into hlink (ih h)
        · next link hlink => exact .follow hlink (hagain _ _ h)
  intro n
  induction n with
  | zero => exact hwith fun _ _ h => by cases h
  | succ n ih => exact hwith fun _ _ h => ih h

theorem walk_succ : ∀ {n : ℕ} {steps : List (PathStep α)} {place : List α},
    walk links n place steps = some target → walk links (n + 1) place steps = some target := by
  have hwith : ∀ {again again' : List α → List (PathStep α) → Option (List α)},
      (∀ place steps, again place steps = some target → again' place steps = some target) →
      ∀ {steps : List (PathStep α)} {place : List α},
        walkWith links again place steps = some target →
        walkWith links again' place steps = some target := by
    intro again again' hagain steps
    induction steps with
    | nil => exact fun h => h
    | cons step steps ih =>
      intro place h
      cases step with
      | up => exact ih h
      | into name =>
        rw [walkWith] at h ⊢
        split at h
        · exact ih h
        · exact hagain _ _ h
  intro n
  induction n with
  | zero => exact hwith fun _ _ h => by cases h
  | succ n ih => exact hwith fun _ _ h => ih h

theorem walk_mono {n m : ℕ} (hle : n ≤ m) (h : walk links n place steps = some target) :
    walk links m place steps = some target := by
  induction hle with
  | refl => exact h
  | step _ ih => exact walk_succ ih

/-- **A walk ends when enough links may be followed.** -/
theorem walks_iff :
    Walks links place steps target ↔ ∃ n, walk links n place steps = some target := by
  constructor
  · intro h
    induction h with
    | done place => exact ⟨0, rfl⟩
    | up _ ih =>
      obtain ⟨n, hn⟩ := ih
      refine ⟨n, ?_⟩
      cases n <;> simpa only [walk, walkWith] using hn
    | into hlink _ ih =>
      obtain ⟨n, hn⟩ := ih
      refine ⟨n, ?_⟩
      cases n <;> simpa only [walk, walkWith, hlink] using hn
    | follow hlink _ ih =>
      obtain ⟨n, hn⟩ := ih
      refine ⟨n + 1, ?_⟩
      simpa only [walk, walkWith, hlink] using hn
  · rintro ⟨n, hn⟩
    exact walks_of_walk hn

theorem Walks.unique (h : Walks links place steps target) :
    ∀ {target' : List α}, Walks links place steps target' → target = target' := by
  induction h with
  | done place =>
    intro target' h'
    cases h'
    rfl
  | up _ ih =>
    intro target' h'
    cases h' with
    | up h' => exact ih h'
  | into hlink _ ih =>
    intro target' h'
    cases h' with
    | into _ h' => exact ih h'
    | follow hlink' h' =>
      rw [hlink] at hlink'
      cases hlink'
  | follow hlink _ ih =>
    intro target' h'
    cases h' with
    | into hlink' h' =>
      rw [hlink] at hlink'
      cases hlink'
    | follow hlink' h' =>
      rw [hlink] at hlink'
      cases hlink'
      exact ih h'

theorem Walks.append {between : List α} (h : Walks links place steps between)
    (h' : Walks links between steps' target) : Walks links place (steps ++ steps') target := by
  induction h with
  | done place => exact h'
  | up _ ih => exact .up (ih h')
  | into hlink _ ih => exact .into hlink (ih h')
  | follow hlink _ ih =>
    have hrest := ih h'
    rw [List.append_assoc] at hrest
    exact .follow hlink hrest

theorem walks_append_iff : Walks links place (steps ++ steps') target ↔
    ∃ between, Walks links place steps between ∧ Walks links between steps' target := by
  constructor
  · intro h
    generalize hall : steps ++ steps' = all at h
    induction h generalizing steps with
    | done place =>
      obtain ⟨rfl, rfl⟩ := List.append_eq_nil_iff.mp hall
      exact ⟨place, .done place, .done place⟩
    | @up place target rest h ih =>
      cases steps with
      | nil =>
        rw [List.nil_append] at hall
        subst hall
        exact ⟨place, .done place, .up h⟩
      | cons step steps =>
        rw [List.cons_append] at hall
        obtain ⟨rfl, hrest⟩ := List.cons.inj hall
        obtain ⟨between, hfirst, hsecond⟩ := ih hrest
        exact ⟨between, .up hfirst, hsecond⟩
    | @into place target name rest hlink h ih =>
      cases steps with
      | nil =>
        rw [List.nil_append] at hall
        subst hall
        exact ⟨place, .done place, .into hlink h⟩
      | cons step steps =>
        rw [List.cons_append] at hall
        obtain ⟨rfl, hrest⟩ := List.cons.inj hall
        obtain ⟨between, hfirst, hsecond⟩ := ih hrest
        exact ⟨between, .into hlink hfirst, hsecond⟩
    | @follow place target name rest link hlink h ih =>
      cases steps with
      | nil =>
        rw [List.nil_append] at hall
        subst hall
        exact ⟨place, .done place, .follow hlink h⟩
      | cons step steps =>
        rw [List.cons_append] at hall
        obtain ⟨rfl, hrest⟩ := List.cons.inj hall
        have hsteps : (link.steps ++ steps) ++ steps' = link.steps ++ rest := by
          rw [List.append_assoc, hrest]
        obtain ⟨between, hfirst, hsecond⟩ := ih hsteps
        exact ⟨between, .follow hlink hfirst, hsecond⟩
  · rintro ⟨between, h, h'⟩
    exact h.append h'

/-! ### Real places -/

/-- No link lies on the way to the place. -/
def Real (links : Links α) (place : List α) : Prop :=
  ∀ before name, before ++ [name] <+: place → links.get? (before ++ [name]) = none

theorem real_nil : Real links ([] : List α) := by
  intro before name h
  have hlength := h.length_le
  simp at hlength

theorem Real.of_prefix {place' : List α} (h : Real links place) (hle : place' <+: place) :
    Real links place' :=
  fun before name hbefore => h before name (hbefore.trans hle)

theorem Real.append (h : Real links place) {name : α}
    (hlink : links.get? (place ++ [name]) = none) :
    Real links (place ++ [name]) := by
  intro before name' hbefore
  rcases List.prefix_concat_iff.mp hbefore with heq | hlt
  · rw [heq]
    exact hlink
  · exact h before name' hlt

/-- **A walk from a real place ends at one.** -/
theorem Walks.real (h : Walks links place steps target) (hreal : Real links place) :
    Real links target := by
  induction h with
  | done place => exact hreal
  | up _ ih => exact ih (hreal.of_prefix (List.dropLast_prefix _))
  | into hlink _ ih => exact ih (hreal.append hlink)
  | @follow place _ _ _ link _ _ ih =>
    refine ih ?_
    rw [Link.base]
    split
    · exact real_nil
    · exact hreal

def intoAll (names : List α) : List (PathStep α) := names.map .into

theorem walks_of_real {names : List α} : ∀ place : List α, Real links (place ++ names) →
    Walks links place (intoAll names) (place ++ names) := by
  induction names with
  | nil =>
    intro place _
    rw [List.append_nil]
    exact .done place
  | cons name names ih =>
    intro place hreal
    have happend : place ++ name :: names = place ++ [name] ++ names := by simp
    have hlink : links.get? (place ++ [name]) = none :=
      hreal place name (by rw [happend]; exact List.prefix_append _ _)
    rw [happend] at hreal ⊢
    exact .into hlink (ih _ hreal)

theorem exists_get?_eq_none (links : Links α) (place : List α) {name : ℕ → α}
    (hname : Function.Injective name) : ∃ n, links.get? (place ++ [name n]) = none := by
  by_contra hnone
  simp only [not_exists] at hnone
  have hmem : ∀ n, place ++ [name n] ∈ {key | key ∈ links.keys} := fun n =>
    Dict.mem_keys.mpr (Option.isSome_iff_ne_none.mpr (hnone n))
  have hinjective : Function.Injective fun n => place ++ [name n] := by
    intro n m hnm
    exact hname (List.singleton_inj.mp (List.append_cancel_left hnm))
  exact Set.infinite_of_injective_forall_mem hinjective hmem (List.finite_toSet _)

/-! ### Where paths of names lead -/

section

variable (links) (root : List α) (spelled opening : α → Prop)

/-- The places to which links lead that are met on paths of spelled names from the root, the
first name being an opening one. -/
inductive Entered : List α → Prop
  | first {names place : List α} {name : α} {link : Link α}
    (hspelled : ∀ c ∈ names ++ [name], spelled c)
      (hopening : ∀ c ∈ (names ++ [name]).head?, opening c) (hreal : Real links (root ++ names))
      (hlink : links.get? (root ++ names ++ [name]) = some link)
      (h : Walks links (link.base (root ++ names)) link.steps place) : Entered place
  | next {before names place : List α} {name : α} {link : Link α} (hbefore : Entered before)
      (hspelled : ∀ c ∈ names ++ [name], spelled c) (hreal : Real links (before ++ names))
      (hlink : links.get? (before ++ names ++ [name]) = some link)
      (h : Walks links (link.base (before ++ names)) link.steps place) : Entered place

end

variable {root : List α} {spelled opening : α → Prop}

/-- **A path of names ends below the root or below an entered place.** -/
theorem walks_names_cases (hroot : Real links root) {names : List α} :
    ∀ {target : List α}, (∀ c ∈ names, spelled c) → (∀ c ∈ names.head?, opening c) →
      Walks links root (intoAll names) target →
        target = root ++ names ∨ ∃ place rest, Entered links root spelled opening place ∧
          (∀ c ∈ rest, spelled c) ∧ target = place ++ rest := by
  induction names using List.reverseRecOn with
  | nil =>
    intro target _ _ h
    cases h
    exact .inl (List.append_nil _).symm
  | append_singleton names name ih =>
    intro target hspelled hopening h
    rw [intoAll, List.map_append, List.map_cons] at h
    obtain ⟨between, hfirst, hlast⟩ := walks_append_iff.mp h
    have hreal : Real links between := hfirst.real hroot
    have hspelled' : ∀ c ∈ names, spelled c := fun c hc => hspelled c (List.mem_append_left _ hc)
    have hopening' : ∀ c ∈ names.head?, opening c := by
      cases names with
      | nil => intro c hc; cases hc
      | cons a names => exact hopening
    have hname : spelled name := hspelled name (by simp)
    rcases ih hspelled' hopening' hfirst with rfl | ⟨place, rest, hplace, hrest, rfl⟩
    · cases hlast with
      | into hlink h =>
        cases h
        exact .inl (List.append_assoc _ _ _)
      | follow hlink h =>
        rw [List.map_nil, List.append_nil] at h
        exact .inr ⟨target, [], .first hspelled hopening hreal hlink h, by simp, by simp⟩
    · have hspelledRest : ∀ c ∈ rest ++ [name], spelled c := by
        intro c hc
        rcases List.mem_append.mp hc with hc | hc
        · exact hrest c hc
        · rw [List.mem_singleton.mp hc]
          exact hname
      cases hlast with
      | into hlink h =>
        cases h
        exact .inr ⟨place, rest ++ [name], hplace, hspelledRest, List.append_assoc _ _ _⟩
      | follow hlink h =>
        rw [List.map_nil, List.append_nil] at h
        exact .inr ⟨target, [], .next hplace hspelledRest hreal hlink h, by simp, by simp⟩

/-- **An entered place is the end of such a path.** -/
theorem Entered.reached (h : Entered links root spelled opening place) : ∃ names, names ≠ [] ∧
    (∀ c ∈ names, spelled c) ∧ (∀ c ∈ names.head?, opening c) ∧
      Walks links root (intoAll names) place := by
  have hmeets : ∀ {before names place : List α} {name : α} {link : Link α},
      Real links (before ++ names) → links.get? (before ++ names ++ [name]) = some link →
      Walks links (link.base (before ++ names)) link.steps place →
        Walks links before (intoAll (names ++ [name])) place := by
    intro before names place name link hreal hlink h
    rw [intoAll, List.map_append]
    exact (walks_of_real _ hreal).append (.follow hlink (by simpa using h))
  induction h with
  | @first names place name link hspelled hopening hreal hlink h =>
    exact ⟨names ++ [name], by simp, hspelled, hopening, hmeets hreal hlink h⟩
  | @next before names place name link _ hspelled hreal hlink h ih =>
    obtain ⟨names', hne, hspelled', hopening', hwalk⟩ := ih
    refine ⟨names' ++ (names ++ [name]), by simp [hne], fun c hc => ?_, ?_, ?_⟩
    · rcases List.mem_append.mp hc with hc | hc
      · exact hspelled' c hc
      · exact hspelled c hc
    · rw [List.head?_append_of_ne_nil _ hne]
      exact hopening'
    · have happend : intoAll (names' ++ (names ++ [name])) =
          intoAll names' ++ intoAll (names ++ [name]) := List.map_append
      rw [happend]
      exact hwalk.append (hmeets hreal hlink h)

end Lib
