import Mathlib.Data.List.Basic
import Mathlib.Tactic.Common

/-!
# Messages that are answered at once

A message may ask for some answers, each under an id.  They follow it before anything else does,
one for each id, in any order, and no other message is an answer.  `Answered` reads a list of
messages with the ids that are still to be answered.

`Answered.drop_iff` says where such a list can be cut: not in front of an answer.
-/

namespace Lib

variable {M ι : Type*} [DecidableEq ι]

/-- Every message is answered, and so are the ids that are given. -/
def Answered (asks : M → List ι) (answers : M → Option ι) : List ι → List M → Prop
  | pending, [] => pending = []
  | pending, m :: ms =>
    match answers m with
    | some i => i ∈ pending ∧ Answered asks answers (pending.erase i) ms
    | none => pending = [] ∧ Answered asks answers (asks m) ms

namespace Answered

variable {asks : M → List ι} {answers : M → Option ι} {pending : List ι} {m : M} {ms : List M}

theorem cons_some {i : ι} (hm : answers m = some i) : Answered asks answers pending (m :: ms) ↔
    i ∈ pending ∧ Answered asks answers (pending.erase i) ms := by
  rw [Answered, hm]

theorem cons_none (hm : answers m = none) : Answered asks answers pending (m :: ms) ↔
    pending = [] ∧ Answered asks answers (asks m) ms := by
  rw [Answered, hm]

theorem drop : ∀ {ms : List M} {pending : List ι} (k : ℕ), Answered asks answers pending ms →
    ∃ pending', Answered asks answers pending' (ms.drop k) := by
  intro ms
  induction ms with
  | nil =>
    intro pending k h
    rw [List.drop_nil]
    exact ⟨pending, h⟩
  | cons m ms ih =>
    intro pending k h
    cases k with
    | zero => exact ⟨pending, h⟩
    | succ k =>
      cases hm : answers m with
      | some i => exact ih k ((cons_some hm).mp h).2
      | none => exact ih k ((cons_none hm).mp h).2

/-- **A list of answered messages can be cut** in front of a message that is no answer. -/
theorem drop_iff (h : Answered asks answers pending ms) {k : ℕ} :
    Answered asks answers [] (ms.drop k) ↔ ∀ m, ms[k]? = some m → answers m = none := by
  rw [← List.head?_drop]
  obtain ⟨pending', hrest⟩ := h.drop k
  cases hd : ms.drop k with
  | nil => simp [Answered]
  | cons m rest =>
    rw [hd] at hrest
    have hhead : (∀ m', (m :: rest).head? = some m' → answers m' = none) ↔ answers m = none := by
      simp
    rw [hhead]
    cases hm : answers m with
    | some i =>
      rw [cons_some hm]
      simp
    | none =>
      obtain ⟨-, hrest⟩ := (cons_none hm).mp hrest
      rw [cons_none hm]
      simpa using hrest

theorem append_plain {plain : List M} (hplain : ∀ m ∈ plain, asks m = [] ∧ answers m = none) :
    Answered asks answers [] (plain ++ ms) ↔ Answered asks answers [] ms := by
  induction plain with
  | nil => rfl
  | cons m plain ih =>
    obtain ⟨hasks, hanswers⟩ := hplain m List.mem_cons_self
    rw [List.cons_append, cons_none hanswers, hasks,
      ih fun m' hm' => hplain m' (List.mem_cons_of_mem m hm')]
    simp

end Answered

end Lib
