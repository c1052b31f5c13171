import Mathlib.Logic.Relation
import Mathlib.Tactic.Common

/-!
# Relations without cycles

`Acyclic r` says that no chain of steps of `r` comes back to where it started.
A graph is mostly changed at one point: the edges out of `x` are replaced, and
every other edge stays.  A chain that runs into `x` and stops there uses no edge
out of `x` before its end, so the two graphs have the same chains into `x`
(`reach_iff`), and the new graph has no cycle exactly when no new edge out of `x`
leads to a point from which the old graph comes back to `x` (`acyclic_rewire_iff`).
-/

namespace Lib

open Relation

variable {V : Type*} {r r' : V → V → Prop} {x : V}

/-- No chain of steps ends where it started. -/
def Acyclic (r : V → V → Prop) : Prop :=
  ∀ a, ¬TransGen r a a

theorem Acyclic.mono (h : Acyclic r) (hle : ∀ a b, r' a b → r a b) : Acyclic r' := by
  intro a hcycle
  exact h a (TransGen.mono hle _ _ hcycle)

theorem acyclic_of_lt {f : V → ℕ} (h : ∀ a b, r a b → f b < f a) : Acyclic r := by
  have hlt : ∀ {a b}, TransGen r a b → f b < f a := by
    intro a b hab
    induction hab with
    | single hstep => exact h _ _ hstep
    | tail _ hstep ih => exact Nat.lt_trans (h _ _ hstep) ih
  intro a hcycle
  exact Nat.lt_irrefl _ (hlt hcycle)

theorem eq_of_reach (hno : ∀ a, ¬r a x) {a : V} (h : ReflTransGen r a x) : a = x := by
  rcases ReflTransGen.cases_tail h with h | ⟨b, -, hb⟩
  · exact h.symm
  · exact absurd hb (hno b)

theorem reach_mono (hout : ∀ a b, a ≠ x → r a b → r' a b) {a : V} (h : ReflTransGen r a x) :
    ReflTransGen r' a x := by
  induction h using ReflTransGen.head_induction_on with
  | refl => exact ReflTransGen.refl
  | @head a b hab _ ih =>
    by_cases hax : a = x
    · subst hax
      exact ReflTransGen.refl
    · exact ReflTransGen.head (hout a b hax hab) ih

theorem reach_iff (hout : ∀ a b, a ≠ x → (r a b ↔ r' a b)) {a : V} :
    ReflTransGen r a x ↔ ReflTransGen r' a x :=
  ⟨reach_mono (fun a b ha => (hout a b ha).mp), reach_mono (fun a b ha => (hout a b ha).mpr)⟩

theorem chain_cases (hout : ∀ a b, a ≠ x → r' a b → r a b) {a b : V} (h : TransGen r' a b) :
    TransGen r a b ∨ (ReflTransGen r' a x ∧ TransGen r' x b) := by
  induction h using TransGen.head_induction_on with
  | @single a hab =>
    by_cases hax : a = x
    · subst hax
      exact .inr ⟨ReflTransGen.refl, TransGen.single hab⟩
    · exact .inl (TransGen.single (hout a b hax hab))
  | @head a c hac hcb ih =>
    by_cases hax : a = x
    · subst hax
      exact .inr ⟨ReflTransGen.refl, TransGen.head hac hcb⟩
    · rcases ih with ih | ⟨hcx, hxb⟩
      · exact .inl (TransGen.head (hout a c hax hac) ih)
      · exact .inr ⟨ReflTransGen.head hac hcx, hxb⟩

/-- **One point rewired.**  When the edges out of `x` are replaced in a relation
without cycles, the new relation has none exactly when no new edge leads back to `x`. -/
theorem acyclic_rewire_iff (h : Acyclic r) (hout : ∀ a b, a ≠ x → (r a b ↔ r' a b)) :
    Acyclic r' ↔ ∀ d, r' x d → ¬ReflTransGen r d x := by
  constructor
  · intro h' d hxd hback
    exact h' x (TransGen.head' hxd ((reach_iff hout).mp hback))
  · intro hno a hcycle
    rcases chain_cases (fun a b ha => (hout a b ha).mpr) hcycle with hold | ⟨hax, hxa⟩
    · exact h a hold
    · obtain ⟨d, hxd, hdx⟩ := TransGen.head'_iff.mp (hxa.trans_left hax)
      exact hno d hxd ((reach_iff hout).mpr hdx)

end Lib
