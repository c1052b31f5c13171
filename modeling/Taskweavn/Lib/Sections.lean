import Mathlib.Data.List.Basic
import Mathlib.Tactic.Common

/-!
# Sections of a list

Some elements of a list are headings; a heading begins a section, which reaches to the next one.
`sections` is what stands before the first heading, and the sections after it.

* `length_sections`: there are as many sections as headings.
* `sections_blocks`: a list that was put together from headings, each with elements below it that
  are none, has these sections.
* `length_sections_blocks_iff`: there are no more sections than were put together exactly if no
  element below a heading is one.
-/

namespace Lib

variable {α β : Type} (heading : α → Option β)

/-- What stands before the first heading, and the headings with what stands below each. -/
def sections : List α → List α × List (β × List α)
  | [] => ([], [])
  | a :: as =>
    match heading a with
    | some b => ([], (b, (sections as).1) :: (sections as).2)
    | none => (a :: (sections as).1, (sections as).2)

/-- There is no heading among the elements. -/
def Quiet (as : List α) : Prop := ∀ a ∈ as, heading a = none

variable {heading}

theorem sections_cons_heading {a : α} {b : β} (h : heading a = some b) (as : List α) :
    sections heading (a :: as) = ([], (b, (sections heading as).1) :: (sections heading as).2) := by
  rw [sections, h]

theorem sections_cons_quiet {a : α} (h : heading a = none) (as : List α) :
    sections heading (a :: as) = (a :: (sections heading as).1, (sections heading as).2) := by
  rw [sections, h]

theorem length_sections (as : List α) :
    (sections heading as).2.length = as.countP fun a => (heading a).isSome := by
  induction as with
  | nil => rfl
  | cons a as ih =>
    cases h : heading a with
    | none => rw [sections_cons_quiet h, List.countP_cons_of_neg (by simp [h]), ih]
    | some b =>
      rw [sections_cons_heading h, List.countP_cons_of_pos (by simp [h]), List.length_cons, ih]

theorem Quiet.sections_append {as : List α} (h : Quiet heading as) (as' : List α) :
    sections heading (as ++ as') =
      (as ++ (sections heading as').1, (sections heading as').2) := by
  induction as with
  | nil => rfl
  | cons a as ih =>
    obtain ⟨ha, has⟩ := List.forall_mem_cons.mp h
    rw [List.cons_append, sections_cons_quiet ha, ih has]
    rfl

theorem quiet_iff_countP {as : List α} :
    Quiet heading as ↔ as.countP (fun a => (heading a).isSome) = 0 := by
  rw [List.countP_eq_zero]
  exact forall₂_congr fun a _ => by rw [Option.not_isSome_iff_eq_none]

theorem sections_blocks {γ : Type} {top : γ → α} {below : γ → List α} {title : γ → β}
    {blocks : List γ} (htop : ∀ g ∈ blocks, heading (top g) = some (title g))
    (hbelow : ∀ g ∈ blocks, Quiet heading (below g)) :
    sections heading (blocks.flatMap fun g => top g :: below g) =
      ([], blocks.map fun g => (title g, below g)) := by
  induction blocks with
  | nil => rfl
  | cons g blocks ih =>
    obtain ⟨hg, htop⟩ := List.forall_mem_cons.mp htop
    obtain ⟨hgb, hbelow⟩ := List.forall_mem_cons.mp hbelow
    rw [List.flatMap_cons, List.cons_append, sections_cons_heading hg, hgb.sections_append,
      ih htop hbelow, List.append_nil]
    rfl

theorem quiet_append {as as' : List α} :
    Quiet heading (as ++ as') ↔ Quiet heading as ∧ Quiet heading as' :=
  List.forall_mem_append

theorem quiet_flatMap {γ : Type} {below : γ → List α} {blocks : List γ} :
    Quiet heading (blocks.flatMap below) ↔ ∀ g ∈ blocks, Quiet heading (below g) :=
  List.forall_mem_flatMap

theorem countP_blocks {γ : Type} {top : γ → α} {below : γ → List α} {blocks : List γ}
    (htop : ∀ g ∈ blocks, (heading (top g)).isSome) :
    (blocks.flatMap fun g => top g :: below g).countP (fun a => (heading a).isSome) =
      blocks.length + (blocks.flatMap below).countP fun a => (heading a).isSome := by
  induction blocks with
  | nil => rfl
  | cons g blocks ih =>
    obtain ⟨hg, htop⟩ := List.forall_mem_cons.mp htop
    rw [List.flatMap_cons, List.cons_append,
      List.countP_cons_of_pos (p := fun a => (heading a).isSome) hg, List.countP_append, ih htop,
      List.flatMap_cons, List.countP_append, List.length_cons]
    omega

theorem length_sections_blocks_iff {γ : Type} {top : γ → α} {below : γ → List α} {blocks : List γ}
    (htop : ∀ g ∈ blocks, (heading (top g)).isSome) (as : List α) :
    (sections heading (as ++ blocks.flatMap fun g => top g :: below g)).2.length = blocks.length ↔
      Quiet heading as ∧ ∀ g ∈ blocks, Quiet heading (below g) := by
  rw [length_sections, List.countP_append, countP_blocks htop, ← quiet_flatMap, quiet_iff_countP,
    quiet_iff_countP]
  omega

end Lib
