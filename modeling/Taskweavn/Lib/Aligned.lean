import Mathlib.Data.List.Basic
import Mathlib.Tactic.Common

/-!
# Two lists that are put together part by part

Two lists are put together from parts, one of each for every element of a third list.  They may be
the same although the parts are not, if a part is missing in one place and another one is there too
many elsewhere.

* `flatMap_eq_iff_of_lengths`: this is not so where the parts have the same lengths.
* `flatMap_eq_iff_of_marks`: nor where every part that is there too many has a mark, and no part
  that may be missing has it.
-/

namespace Lib

variable {α β : Type} {f g : α → List β}

theorem flatMap_eq_iff_of_lengths {l : List α} (h : ∀ a ∈ l, (f a).length = (g a).length) :
    l.flatMap f = l.flatMap g ↔ ∀ a ∈ l, f a = g a := by
  induction l with
  | nil => exact iff_of_true rfl (List.forall_mem_nil _)
  | cons a l ih =>
    obtain ⟨ha, hl⟩ := List.forall_mem_cons.mp h
    rw [List.flatMap_cons, List.flatMap_cons, List.forall_mem_cons, ← ih hl]
    exact ⟨fun heq => List.append_inj heq ha, fun h => by rw [h.1, h.2]⟩

/-- How the parts of an element may differ: by their elements only, or so that those of the first
have a mark that those of the second do not have. -/
inductive PartsDiffer (mark : β → Bool) (f g : List β) : Prop
  | elements (length : f.length = g.length) (marks : f.countP mark = g.countP mark)
  | marked (first : f.countP mark = f.length) (second : g.countP mark = 0)

theorem PartsDiffer.countP_le {mark : β → Bool} {l : List α}
    (h : ∀ a ∈ l, PartsDiffer mark (f a) (g a)) :
    (l.flatMap g).countP mark ≤ (l.flatMap f).countP mark ∧
      ((l.flatMap f).countP mark = (l.flatMap g).countP mark →
        (l.flatMap f).length ≤ (l.flatMap g).length ∧
        ((l.flatMap f).length = (l.flatMap g).length →
          ∀ a ∈ l, (f a).length = (g a).length)) := by
  induction l with
  | nil => exact ⟨Nat.le_refl _, fun _ => ⟨Nat.le_refl _, fun _ => List.forall_mem_nil _⟩⟩
  | cons a l ih =>
    obtain ⟨ha, hl⟩ := List.forall_mem_cons.mp h
    obtain ⟨hmarks, hlengths⟩ := ih hl
    rw [List.flatMap_cons, List.flatMap_cons, List.countP_append, List.countP_append,
      List.length_append, List.length_append, List.forall_mem_cons]
    cases ha with
    | elements hlength hcount =>
      refine ⟨by omega, fun heq => ?_⟩
      obtain ⟨hle, hall⟩ := hlengths (by omega)
      exact ⟨by omega, fun hsum => ⟨hlength, hall (by omega)⟩⟩
    | marked hfirst hsecond =>
      refine ⟨by omega, fun heq => ?_⟩
      obtain ⟨hle, hall⟩ := hlengths (by omega)
      exact ⟨by omega, fun hsum => ⟨by omega, hall (by omega)⟩⟩

/-- **Marked parts do not stand for missing ones.** -/
theorem flatMap_eq_iff_of_marks {mark : β → Bool} {l : List α}
    (h : ∀ a ∈ l, PartsDiffer mark (f a) (g a)) :
    l.flatMap f = l.flatMap g ↔ ∀ a ∈ l, f a = g a := by
  constructor
  · intro heq
    have hlengths := ((PartsDiffer.countP_le h).2 (by rw [heq])).2 (by rw [heq])
    exact (flatMap_eq_iff_of_lengths hlengths).mp heq
  · exact List.flatMap_congr

end Lib
