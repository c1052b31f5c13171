import Mathlib.Data.List.Range
import Mathlib.Tactic.Common

/-!
# Bounded loops of attempts

`attempts step exhausted n i acc` makes the attempts `i`, `i + 1`, … of a loop, at most `n` of
them.  An attempt goes on with a new accumulator or ends the loop with a result; `exhausted` is
what comes after the last one.  The answer holds the number of the attempt with which the loop
ended.

`attempts_induction` carries an invariant of the accumulator to the attempt that ends the loop,
and `lastAttempt` is the number of that attempt where a predicate says which ones go on.
-/

namespace Lib

variable {A R : Type*}

/-- The loop, from attempt `i` on. -/
def attempts (step : ℕ → A → A ⊕ R) (exhausted : A → R) : ℕ → ℕ → A → ℕ × R
  | 0, i, acc => (i, exhausted acc)
  | n + 1, i, acc =>
    match step i acc with
    | .inl acc' => attempts step exhausted n (i + 1) acc'
    | .inr r => (i, r)

/-- The first attempt from `i` on that is not followed by another. -/
def lastAttempt (again : ℕ → Prop) [DecidablePred again] : ℕ → ℕ → ℕ
  | 0, i => i
  | n + 1, i => if again i then lastAttempt again n (i + 1) else i

/-- **The invariant rule.**  What holds before the first attempt and is kept by every attempt
that goes on holds before the attempt that ends the loop. -/
theorem attempts_induction {step : ℕ → A → A ⊕ R} {exhausted : A → R} {I : ℕ → A → Prop}
    (hstep : ∀ i acc acc', I i acc → step i acc = .inl acc' → I (i + 1) acc') :
    ∀ (n i : ℕ) (acc : A), I i acc → (∀ acc acc', step (i + n) acc ≠ .inl acc') →
      ∃ acc', I (attempts step exhausted (n + 1) i acc).1 acc' ∧
        step (attempts step exhausted (n + 1) i acc).1 acc' =
          .inr (attempts step exhausted (n + 1) i acc).2 ∧
        (attempts step exhausted (n + 1) i acc).1 ≤ i + n := by
  intro n
  induction n with
  | zero =>
    intro i acc hI hlast
    cases hs : step i acc with
    | inl acc' => exact absurd hs (hlast acc acc')
    | inr r =>
      simp only [attempts, hs]
      exact ⟨acc, hI, hs, le_rfl⟩
  | succ n ih =>
    intro i acc hI hlast
    cases hs : step i acc with
    | inl acc' =>
      have hnext : attempts step exhausted (n + 1 + 1) i acc =
          attempts step exhausted (n + 1) (i + 1) acc' := by
        rw [attempts, hs]
      obtain ⟨acc'', hI', hend, hle⟩ := ih (i + 1) acc' (hstep i acc acc' hI hs)
        (by rwa [Nat.add_assoc, Nat.add_comm 1 n])
      rw [hnext]
      exact ⟨acc'', hI', hend, by omega⟩
    | inr r =>
      have hnext : attempts step exhausted (n + 1 + 1) i acc = (i, r) := by
        rw [attempts, hs]
      rw [hnext]
      exact ⟨acc, hI, hs, by omega⟩

theorem lastAttempt_spec {again : ℕ → Prop} [DecidablePred again] :
    ∀ (n i : ℕ), ¬ again (i + n) →
      ¬ again (lastAttempt again n i) ∧ i ≤ lastAttempt again n i ∧
        ∀ j, i ≤ j → j < lastAttempt again n i → again j := by
  intro n
  induction n with
  | zero =>
    intro i hlast
    exact ⟨hlast, le_rfl, fun j hj hlt => absurd hlt (by rw [lastAttempt]; omega)⟩
  | succ n ih =>
    intro i hlast
    by_cases hi : again i
    · rw [lastAttempt, if_pos hi]
      obtain ⟨hend, hle, hbefore⟩ := ih (i + 1) (by rwa [Nat.add_assoc, Nat.add_comm 1 n])
      refine ⟨hend, by omega, fun j hj hlt => ?_⟩
      rcases Nat.eq_or_lt_of_le hj with rfl | hj
      · exact hi
      · exact hbefore j hj hlt
    · rw [lastAttempt, if_neg hi]
      exact ⟨hi, le_rfl, fun j hj hlt => absurd hlt (by omega)⟩

theorem eq_lastAttempt {again : ℕ → Prop} [DecidablePred again] {n i m : ℕ}
    (hlast : ¬ again (i + n)) (hle : i ≤ m) (hend : ¬ again m)
    (hbefore : ∀ j, i ≤ j → j < m → again j) : m = lastAttempt again n i := by
  obtain ⟨hend', hle', hbefore'⟩ := lastAttempt_spec n i hlast
  rcases Nat.lt_trichotomy m (lastAttempt again n i) with h | h | h
  · exact absurd (hbefore' m hle h) hend
  · exact h
  · exact absurd (hbefore _ hle' h) hend'

end Lib
