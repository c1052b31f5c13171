import Mathlib.Algebra.Order.Group.Nat
import Mathlib.Data.List.Basic
import Mathlib.Data.List.Flatten
import Mathlib.Tactic.Common

/-!
# Functions that shorten what they change

A function on lists that leaves a list as it is or makes it shorter (`Shrinks`) gives back the list
that it was given only if no part of its work has changed anything.

A list that begins with a separator is cut into its pieces (`pieces`), and some pieces are put
together behind a separator each (`rejoin`).  Pieces that are cut, changed by a function that
shrinks and put together again are shorter or the same (`rejoin_map_pieces`).
-/

namespace Lib

variable {α β : Type}

/-- What is changed gets shorter. -/
def Shrinks (f : List α → List α) : Prop := ∀ xs, f xs = xs ∨ (f xs).length < xs.length

namespace Shrinks

variable {f g : List α → List α}

theorem length_le (h : Shrinks f) (xs : List α) : (f xs).length ≤ xs.length := by
  obtain heq | hlt := h xs
  · exact (congrArg List.length heq).le
  · exact hlt.le

theorem of_sublist (h : ∀ xs, (f xs).Sublist xs) : Shrinks f := by
  intro xs
  by_cases hlt : (f xs).length < xs.length
  · exact Or.inr hlt
  · exact Or.inl ((h xs).eq_of_length_le (Nat.le_of_not_lt hlt))

end Shrinks

theorem flatMap_shorter {u v : β → List α} (h : ∀ b, v b = u b ∨ (v b).length < (u b).length)
    (bs : List β) :
    (∀ b ∈ bs, v b = u b) ∨ (bs.flatMap v).length < (bs.flatMap u).length := by
  induction bs with
  | nil => exact Or.inl fun b hb => absurd hb List.not_mem_nil
  | cons b bs ih =>
    rw [List.flatMap_cons, List.flatMap_cons, List.length_append, List.length_append]
    have hrest : (bs.flatMap v).length ≤ (bs.flatMap u).length := by
      obtain ih | ih := ih
      · rw [List.flatMap_congr ih]
      · exact ih.le
    obtain hb | hb := h b
    · obtain ih | ih := ih
      · exact Or.inl (List.forall_mem_cons.mpr ⟨hb, ih⟩)
      · exact Or.inr (by rw [hb]; omega)
    · exact Or.inr (by omega)

/-! ### Pieces between separators -/

/-- Pieces with a separator in front of each. -/
def rejoin (sep : α) (ps : List (List α)) : List α := ps.flatMap fun p => sep :: p

section

variable {sep : α}

theorem rejoin_cons (p : List α) (ps : List (List α)) :
    rejoin sep (p :: ps) = sep :: p ++ rejoin sep ps := rfl

theorem length_rejoin_cons (p : List α) (ps : List (List α)) :
    (rejoin sep (p :: ps)).length = p.length + 1 + (rejoin sep ps).length := by
  rw [rejoin_cons, List.length_append, List.length_cons]

theorem rejoin_eq (p : List α) (ps : List (List α)) :
    rejoin sep (p :: ps) = sep :: [sep].intercalate (p :: ps) := by
  induction ps generalizing p with
  | nil => simp [rejoin]
  | cons p' ps ih =>
    rw [rejoin_cons, ih, List.intercalate_cons_cons]
    simp

end

section

variable [DecidableEq α] {sep : α}

/-- The pieces between the separators that are not empty. -/
def pieces (sep : α) (xs : List α) : List (List α) := (xs.splitOn sep).filter (· ≠ [])

theorem splitOn_cons_self (xs : List α) : (sep :: xs).splitOn sep = [] :: xs.splitOn sep := by
  rw [List.splitOn_cons_eq_if_modifyHead, if_pos (beq_self_eq_true sep)]

theorem rejoin_splitOn (xs : List α) : rejoin sep (xs.splitOn sep) = sep :: xs := by
  obtain ⟨p, ps, hps⟩ := List.exists_cons_of_ne_nil (List.splitOnP_ne_nil (· == sep) xs)
  have hsplit : xs.splitOn sep = p :: ps := hps
  rw [hsplit, rejoin_eq, ← hsplit, List.intercalate_splitOn]

theorem not_mem_of_mem_splitOn {xs : List α} : ∀ p ∈ xs.splitOn sep, sep ∉ p := by
  induction xs with
  | nil => simp
  | cons x xs ih =>
    rw [List.splitOn_cons_eq_if_modifyHead]
    split
    · exact List.forall_mem_cons.mpr ⟨List.not_mem_nil, ih⟩
    · next hx =>
      obtain ⟨p, ps, hps⟩ := List.exists_cons_of_ne_nil (List.splitOn_ne_nil sep xs)
      rw [hps] at ih ⊢
      obtain ⟨hp, hps⟩ := List.forall_mem_cons.mp ih
      refine List.forall_mem_cons.mpr ⟨fun hmem => ?_, hps⟩
      obtain rfl | hmem := List.mem_cons.mp hmem
      · exact hx (beq_self_eq_true _)
      · exact hp hmem

theorem not_mem_of_mem_pieces {xs p : List α} (h : p ∈ pieces sep xs) : p ≠ [] ∧ sep ∉ p := by
  obtain ⟨hp, hne⟩ := List.mem_filter.mp h
  exact ⟨of_decide_eq_true hne, not_mem_of_mem_splitOn p hp⟩

theorem pieces_rejoin {ps : List (List α)} (h : ∀ p ∈ ps, p ≠ [] ∧ sep ∉ p) :
    pieces sep (rejoin sep ps) = ps := by
  have hall : ps.filter (· ≠ []) = ps := List.filter_eq_self.mpr fun p hp =>
    decide_eq_true (h p hp).1
  cases ps with
  | nil => rfl
  | cons p ps =>
    rw [rejoin_eq, pieces, splitOn_cons_self,
      List.splitOn_intercalate _ (fun q hq => (h q hq).2) (List.cons_ne_nil _ _),
      List.filter_cons_of_neg (by simp), hall]

theorem pieces_cons_self (xs : List α) : pieces sep (sep :: xs) = pieces sep xs := by
  rw [pieces, splitOn_cons_self, List.filter_cons_of_neg (by simp), pieces]

theorem rejoin_pieces_sublist (xs : List α) :
    (rejoin sep (pieces sep (sep :: xs))).Sublist (sep :: xs) := by
  rw [pieces_cons_self, pieces]
  conv_rhs => rw [← rejoin_splitOn]
  exact (List.filter_sublist).flatMap _

/-- **Pieces that are cut, changed and put together again** are as they were, or fewer. -/
theorem rejoin_map_pieces {f : List α → List α} (hf : Shrinks f) (xs : List α) :
    (rejoin sep (pieces sep (sep :: xs)) = sep :: xs ∧
        ∀ p ∈ pieces sep (sep :: xs), f p = p) ∨
      (rejoin sep ((pieces sep (sep :: xs)).map f)).length < (sep :: xs).length := by
  have hmap : rejoin sep ((pieces sep (sep :: xs)).map f) =
      (pieces sep (sep :: xs)).flatMap fun p => sep :: f p := List.flatMap_map ..
  have hsub : (rejoin sep (pieces sep (sep :: xs))).Sublist (sep :: xs) := rejoin_pieces_sublist xs
  obtain hfixed | hlt := flatMap_shorter (u := fun p => sep :: p) (v := fun p => sep :: f p)
    (fun p => (hf p).imp (congrArg (sep :: ·)) Nat.succ_lt_succ) (pieces sep (sep :: xs))
  · by_cases heq : rejoin sep (pieces sep (sep :: xs)) = sep :: xs
    · exact Or.inl ⟨heq, fun p hp => (List.cons.inj (hfixed p hp)).2⟩
    · refine Or.inr ?_
      rw [hmap, List.flatMap_congr hfixed]
      exact Nat.lt_of_not_le fun hle => heq (hsub.eq_of_length_le hle)
  · refine Or.inr ?_
    rw [hmap]
    exact hlt.trans_le hsub.length_le

theorem length_rejoin_map_pieces_le {f : List α → List α} (hf : Shrinks f) (xs : List α) :
    (rejoin sep ((pieces sep (sep :: xs)).map f)).length ≤ xs.length + 1 := by
  obtain ⟨heq, hfixed⟩ | hlt := @rejoin_map_pieces α _ sep f hf xs
  · rw [List.map_congr_left hfixed, List.map_id', heq, List.length_cons]
  · exact hlt.le

end

end Lib
