import Mathlib.Algebra.GroupWithZero.Nat
import Mathlib.Data.List.Infix
import Mathlib.Data.List.Forall2
import Mathlib.Tactic.Common

/-!
# Ends and fronts of a list within a bound

`lastItems n l` is the end of a list with at most `n` elements; it is the longest such end
(`isSuffix_lastItems`).

`fillFront` takes elements from the front as long as their sizes add up to no more than a budget.
The first one that is too large is cut down to what is left, and nothing behind it is taken.
`fillFront_total` says that the budget is kept, and `fillFront_forall₂` what is taken of each
element.
-/

namespace Lib

variable {α β : Type*}

/-- The last `n` elements. -/
def lastItems (n : ℕ) (l : List α) : List α := l.drop (l.length - n)

theorem lastItems_isSuffix (n : ℕ) (l : List α) : lastItems n l <:+ l := List.drop_suffix _ _

theorem length_lastItems (n : ℕ) (l : List α) : (lastItems n l).length = min n l.length := by
  rw [lastItems, List.length_drop]
  omega

/-- **The last elements are the longest end within the bound.** -/
theorem isSuffix_lastItems {n : ℕ} {s l : List α} (h : s <:+ l) (hlen : s.length ≤ n) :
    s <:+ lastItems n l :=
  List.suffix_of_suffix_length_le h (lastItems_isSuffix n l) (by
    have := h.length_le
    rw [length_lastItems]
    omega)

theorem lastItems_map (f : α → β) (n : ℕ) (l : List α) :
    lastItems n (l.map f) = (lastItems n l).map f := by
  rw [lastItems, lastItems, List.length_map, List.map_drop]

theorem lastItems_zero (l : List α) : lastItems 0 l = [] := by
  rw [lastItems, Nat.sub_zero, List.drop_length]

/-- How large an element is, and how it is cut down to a size. -/
structure Cut (α : Type*) where
  size : α → ℕ
  cut : ℕ → α → α
  size_cut_le : ∀ n a, size (cut n a) ≤ n

namespace Cut

variable (C : Cut α) (budget : ℕ)

/-- The elements that are taken after some of the budget has been used. -/
def fillFront : ℕ → List α → List α
  | _, [] => []
  | used, a :: as =>
    if budget ≤ used then []
    else if C.size a ≤ budget - used then a :: fillFront (used + C.size a) as
    else [C.cut (budget - used) a]

variable {C budget}

theorem fillFront_of_le {used : ℕ} (h : budget ≤ used) (as : List α) :
    C.fillFront budget used as = [] := by
  cases as with
  | nil => rfl
  | cons a as => rw [fillFront, if_pos h]

theorem fillFront_cons_whole {used : ℕ} {a : α} (hused : used < budget)
    (ha : used + C.size a ≤ budget) (as : List α) :
    C.fillFront budget used (a :: as) = a :: C.fillFront budget (used + C.size a) as := by
  rw [fillFront, if_neg (by omega), if_pos (by omega)]

theorem fillFront_cons_cut {used : ℕ} {a : α} (hused : used < budget)
    (ha : budget < used + C.size a) (as : List α) :
    C.fillFront budget used (a :: as) = [C.cut (budget - used) a] := by
  rw [fillFront, if_neg (by omega), if_neg (by omega)]

theorem fillFront_total (as : List α) : ∀ {used : ℕ}, used ≤ budget →
    used + ((C.fillFront budget used as).map C.size).sum ≤ budget := by
  induction as with
  | nil => exact fun h => h
  | cons a as ih =>
    intro used hle
    rcases Nat.eq_or_lt_of_le hle with rfl | hlt
    · rw [fillFront_of_le le_rfl]
      exact le_rfl
    · by_cases ha : used + C.size a ≤ budget
      · rw [fillFront_cons_whole hlt ha, List.map_cons, List.sum_cons, ← Nat.add_assoc]
        exact ih ha
      · rw [fillFront_cons_cut hlt (by omega), List.map_singleton, List.sum_singleton]
        have := C.size_cut_le (budget - used) a
        omega

theorem fillFront_forall₂ (as : List α) : ∀ used,
    List.Forall₂ (fun a b => b = a ∨ ∃ n < C.size a, b = C.cut n a)
      (as.take (C.fillFront budget used as).length) (C.fillFront budget used as) := by
  induction as with
  | nil => exact fun _ => .nil
  | cons a as ih =>
    intro used
    rcases Nat.lt_or_ge used budget with hlt | hge
    · by_cases ha : used + C.size a ≤ budget
      · rw [fillFront_cons_whole hlt ha, List.length_cons, List.take_succ_cons]
        exact .cons (.inl rfl) (ih _)
      · rw [fillFront_cons_cut hlt (by omega)]
        exact .cons (.inr ⟨budget - used, by omega, rfl⟩) .nil
    · rw [fillFront_of_le hge]
      exact .nil

theorem length_fillFront_le (as : List α) (used : ℕ) :
    (C.fillFront budget used as).length ≤ as.length := by
  have h := (@fillFront_forall₂ α C budget as used).length_eq
  rw [List.length_take] at h
  omega

theorem map_size_fillFront_iff (as : List α) : ∀ {used : ℕ},
    (C.fillFront budget used as).map C.size = as.map C.size ↔
      as = [] ∨ used + (as.dropLast.map C.size).sum < budget ∧
        used + (as.map C.size).sum ≤ budget := by
  induction as with
  | nil => exact fun {used} => ⟨fun _ => .inl rfl, fun _ => rfl⟩
  | cons a as ih =>
    intro used
    have hnil : a :: as ≠ [] := List.cons_ne_nil a as
    rcases Nat.lt_or_ge used budget with hlt | hge
    · by_cases ha : used + C.size a ≤ budget
      · rw [fillFront_cons_whole hlt ha, List.map_cons, List.map_cons, List.cons_inj_right, ih,
          List.sum_cons]
        cases as with
        | nil =>
          refine ⟨fun _ => .inr ⟨?_, ?_⟩, fun _ => .inl rfl⟩
          · simpa using hlt
          · simpa using ha
        | cons b bs =>
          simp only [reduceCtorEq, false_or, List.dropLast_cons_cons, List.map_cons, List.sum_cons]
          omega
      · rw [fillFront_cons_cut hlt (by omega)]
        constructor
        · intro h
          have hsize := C.size_cut_le (budget - used) a
          rw [List.map_singleton, List.map_cons] at h
          have := List.head_eq_of_cons_eq h
          omega
        · rintro (h | ⟨-, hsum⟩)
          · exact absurd h hnil
          · rw [List.map_cons, List.sum_cons] at hsum
            omega
    · rw [fillFront_of_le hge]
      constructor
      · intro h
        rw [List.map_nil, List.map_cons] at h
        exact absurd h (List.cons_ne_nil _ _).symm
      · rintro (h | ⟨hsum, -⟩)
        · exact absurd h hnil
        · omega

theorem fillFront_eq_self {as : List α} {used : ℕ}
    (hlast : used + (as.dropLast.map C.size).sum < budget)
    (hsum : used + (as.map C.size).sum ≤ budget) : C.fillFront budget used as = as := by
  induction as generalizing used with
  | nil => rfl
  | cons a as ih =>
    rw [List.map_cons, List.sum_cons] at hsum
    rw [fillFront_cons_whole (by omega) (by omega)]
    cases as with
    | nil => rfl
    | cons b bs =>
      rw [List.dropLast_cons_cons, List.map_cons, List.sum_cons] at hlast
      rw [ih (by omega) (by omega)]

end Cut

end Lib
