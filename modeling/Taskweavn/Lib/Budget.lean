import Mathlib.Algebra.GroupWithZero.Nat
import Mathlib.Data.List.Infix
import Mathlib.Tactic.Common

/-!
# A front of a list that a budget pays for

Each item is cut down to a size of its own, and what is left of it costs something.  Items are taken
as long as the budget pays for them; one flag records whether an item was cut or left out.

* `taken_isPrefix`: what is taken are the first items, each cut down.
* `cost_taken_le`: it costs no more than the budget.
* `not_short_iff`: the flag stays down exactly if all items were taken, whole.
-/

namespace Lib

/-- How an item is cut down, with a flag that it was, and what it costs. -/
structure Cutting (α : Type) where
  cut : α → α × Bool
  cost : α → ℕ
  uncut_iff : ∀ a, (cut a).2 = false ↔ (cut a).1 = a

namespace Cutting

variable {α : Type} (C : Cutting α) (budget : ℕ)

/-- The items that are taken when some of the budget is spent, and whether anything is missing. -/
def take : ℕ → List α → List α × Bool
  | _, [] => ([], false)
  | spent, a :: as =>
    let (part, wasCut) := C.cut a
    if budget < spent + C.cost part then ([], true)
    else
      let (parts, missing) := take (spent + C.cost part) as
      (part :: parts, wasCut || missing)

variable {C budget}

theorem take_cons_over {spent : ℕ} {a : α} {as : List α}
    (h : budget < spent + C.cost (C.cut a).1) : C.take budget spent (a :: as) = ([], true) :=
  if_pos h

theorem take_cons {spent : ℕ} {a : α} {as : List α} (h : ¬ budget < spent + C.cost (C.cut a).1) :
    C.take budget spent (a :: as) =
      ((C.cut a).1 :: (C.take budget (spent + C.cost (C.cut a).1) as).1,
        (C.cut a).2 || (C.take budget (spent + C.cost (C.cut a).1) as).2) :=
  if_neg h

variable (C budget)

theorem taken_isPrefix (as : List α) : ∀ spent,
    (C.take budget spent as).1 <+: as.map fun a => (C.cut a).1 := by
  induction as with
  | nil => intro spent; exact List.prefix_refl _
  | cons a as ih =>
    intro spent
    by_cases h : budget < spent + C.cost (C.cut a).1
    · rw [take_cons_over h]
      exact List.nil_prefix
    · rw [take_cons h, List.map_cons]
      exact (List.prefix_cons_inj _).mpr (ih _)

theorem cost_taken_le (as : List α) : ∀ {spent}, spent ≤ budget →
    spent + ((C.take budget spent as).1.map C.cost).sum ≤ budget := by
  induction as with
  | nil => intro spent hspent; exact hspent
  | cons a as ih =>
    intro spent hspent
    by_cases h : budget < spent + C.cost (C.cut a).1
    · rw [take_cons_over h]
      exact hspent
    · rw [take_cons h, List.map_cons, List.sum_cons, ← Nat.add_assoc]
      exact ih (Nat.le_of_not_lt h)

theorem not_missing_iff (as : List α) : ∀ spent,
    (C.take budget spent as).2 = false ↔ (C.take budget spent as).1 = as := by
  induction as with
  | nil => intro spent; exact iff_of_true rfl rfl
  | cons a as ih =>
    intro spent
    by_cases h : budget < spent + C.cost (C.cut a).1
    · rw [take_cons_over h]
      exact iff_of_false (Bool.noConfusion ·) (List.cons_ne_nil _ _).symm
    · rw [take_cons h, Bool.or_eq_false_iff, C.uncut_iff, ih, List.cons.injEq]

theorem not_short_iff (as : List α) (count spent : ℕ) :
    (decide (count < as.length) || (C.take budget spent (as.take count)).2) = false ↔
      (C.take budget spent (as.take count)).1 = as := by
  rw [Bool.or_eq_false_iff, decide_eq_false_iff_not, C.not_missing_iff, Nat.not_lt]
  refine ⟨fun ⟨hle, htaken⟩ => htaken.trans (List.take_of_length_le hle), fun htaken => ?_⟩
  have hle : as.length ≤ count := by
    have hlength := (C.taken_isPrefix budget (as.take count) spent).length_le
    rw [htaken, List.length_map, List.length_take] at hlength
    omega
  exact ⟨hle, htaken.trans (List.take_of_length_le hle).symm⟩

end Cutting

end Lib
