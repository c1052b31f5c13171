import Mathlib.Data.List.Infix
import Mathlib.Tactic.Common

/-!
# Cutting at the first delimiter

`cutAt sep` cuts a list where `sep` stands in it first.

* `cutAt_eq_none_iff`: there is no place to cut exactly if `sep` does not occur.
* `cutAt_delimited`: two lists with `sep` between them are cut there, unless it occurs before.
* `infix_flatMap_iff`: replacing elements that do not belong to `sep` by others of that kind moves
  no occurrence.
-/

namespace Lib

variable {α : Type} {sep : List α}

/-! ### Occurrences -/

theorem infix_append_of_head {x : List α} (hx : ∀ c ∈ x, sep.head? ≠ some c) (hsep : sep ≠ [])
    {t : List α} : sep <:+: x ++ t ↔ sep <:+: t := by
  induction x with
  | nil => rfl
  | cons c x ih =>
    obtain ⟨hc, hx⟩ := List.forall_mem_cons.mp hx
    rw [List.cons_append, List.infix_cons_iff, ih hx, or_iff_right]
    rintro ⟨rest, hrest⟩
    obtain ⟨s, sep', rfl⟩ := List.exists_cons_of_ne_nil hsep
    exact hc (congrArg some (List.cons.inj hrest).1)

theorem infix_append_cons_of_notMem {q : α} (hq : q ∉ sep) (hsep : sep ≠ []) {u v : List α} :
    sep <:+: u ++ q :: v ↔ sep <:+: u ∨ sep <:+: v := by
  induction u with
  | nil =>
    rw [List.nil_append, List.infix_cons_iff, List.infix_nil, or_congr_left]
    constructor
    · rintro ⟨rest, hrest⟩
      obtain ⟨s, sep', rfl⟩ := List.exists_cons_of_ne_nil hsep
      exact absurd ((List.cons.inj hrest).1 ▸ List.mem_cons_self) hq
    · exact fun h => absurd h hsep
  | cons c u ih =>
    rw [List.cons_append, List.infix_cons_iff, List.infix_cons_iff, ih, ← or_assoc]
    refine or_congr_left (or_congr_left ⟨fun h => ?_, fun h => ?_⟩)
    · rcases Nat.lt_or_ge (c :: u).length sep.length with hlt | hge
      · -- the element would stand in the occurrence
        have hwhole : (c :: u) ++ [q] <+: c :: (u ++ q :: v) := ⟨v, by simp⟩
        have hpre : (c :: u) ++ [q] <+: sep :=
          List.prefix_of_prefix_length_le hwhole h (by simpa using Nat.succ_le_of_lt hlt)
        exact absurd (hpre.subset (by simp)) hq
      · exact List.prefix_of_prefix_length_le h (List.prefix_append (c :: u) (q :: v)) hge
    · exact h.trans (List.prefix_append (c :: u) (q :: v))

section

variable {f : α → List α}

/-- Elements of the delimiter stay, and others become some that are not in it. -/
structure Spares (sep : List α) (f : α → List α) : Prop where
  same : ∀ c ∈ sep, f c = [c]
  ne_nil : ∀ c, c ∉ sep → f c ≠ []
  notMem : ∀ c, c ∉ sep → ∀ d ∈ f c, d ∉ sep

theorem Spares.prefix_of_prefix_flatMap (h : Spares sep f) {part : List α} (hpart : part ⊆ sep) :
    ∀ {t : List α}, part <+: t.flatMap f → part <+: t := by
  induction part with
  | nil => intro t _; exact List.nil_prefix
  | cons s part ih =>
    intro t hpre
    cases t with
    | nil => exact hpre
    | cons c t =>
      rw [List.flatMap_cons] at hpre
      by_cases hc : c ∈ sep
      · rw [h.same c hc, List.singleton_append, List.cons_prefix_cons] at hpre
        exact List.cons_prefix_cons.mpr ⟨hpre.1, ih (List.subset_of_cons_subset hpart) hpre.2⟩
      · obtain ⟨d, ds, hd⟩ := List.exists_cons_of_ne_nil (h.ne_nil c hc)
        rw [hd, List.cons_append, List.cons_prefix_cons] at hpre
        have hnot := h.notMem c hc d (hd ▸ List.mem_cons_self)
        exact absurd (hpre.1 ▸ hpart List.mem_cons_self) hnot

theorem Spares.flatMap_self (h : Spares sep f) {part : List α} (hpart : part ⊆ sep) :
    part.flatMap f = part := by
  induction part with
  | nil => rfl
  | cons s part ih =>
    rw [List.flatMap_cons, h.same s (hpart List.mem_cons_self),
      ih (List.subset_of_cons_subset hpart)]
    rfl

/-- **The delimiter occurs as before.** -/
theorem Spares.infix_flatMap_iff (h : Spares sep f) (hsep : sep ≠ []) {t : List α} :
    sep <:+: t.flatMap f ↔ sep <:+: t := by
  constructor
  · intro hin
    induction t with
    | nil => exact hin
    | cons c t ih =>
      by_cases hc : c ∈ sep
      · rw [List.flatMap_cons, h.same c hc, List.singleton_append, List.infix_cons_iff] at hin
        refine List.infix_cons_iff.mpr (hin.imp (fun hpre => ?_) ih)
        refine h.prefix_of_prefix_flatMap (List.Subset.refl sep) ?_
        rw [List.flatMap_cons, h.same c hc]
        exact hpre
      · rw [List.flatMap_cons, infix_append_of_head (fun d hd hhead => ?_) hsep] at hin
        · exact List.infix_cons (ih hin)
        · exact h.notMem c hc d hd (List.mem_of_mem_head? hhead)
  · rintro ⟨u, v, rfl⟩
    refine ⟨u.flatMap f, v.flatMap f, ?_⟩
    rw [List.flatMap_append, List.flatMap_append, h.flatMap_self (List.Subset.refl sep)]

end

/-! ### Cutting -/

section

variable [DecidableEq α]

/-- The parts before and behind the first place where the delimiter stands. -/
def cutAt (sep : List α) : List α → Option (List α × List α)
  | [] => none
  | c :: t =>
    if sep.isPrefixOf (c :: t) then some ([], (c :: t).drop sep.length)
    else (cutAt sep t).map fun parts => (c :: parts.1, parts.2)

theorem cutAt_eq_none_iff (hsep : sep ≠ []) {t : List α} : cutAt sep t = none ↔ ¬sep <:+: t := by
  induction t with
  | nil => exact iff_of_true rfl fun h => hsep (List.infix_nil.mp h)
  | cons c t ih =>
    rw [cutAt, List.infix_cons_iff, not_or, ← ih]
    by_cases hpre : sep <+: c :: t
    · rw [if_pos (List.isPrefixOf_iff_prefix.mpr hpre)]
      exact iff_of_false (Option.some_ne_none _) fun h => h.1 hpre
    · rw [if_neg fun h => hpre (List.isPrefixOf_iff_prefix.mp h), Option.map_eq_none_iff]
      exact (and_iff_right hpre).symm

theorem eq_of_cutAt (hsep : sep ≠ []) {t a b : List α} (h : cutAt sep t = some (a, b)) :
    t = a ++ sep ++ b ∧ ¬sep <:+: a := by
  induction t generalizing a with
  | nil => cases h
  | cons c t ih =>
    rw [cutAt] at h
    split at h
    · next hpre =>
      obtain ⟨rest, hrest⟩ := List.isPrefixOf_iff_prefix.mp hpre
      cases h
      refine ⟨?_, fun hin => hsep (List.infix_nil.mp hin)⟩
      rw [← hrest, List.drop_left, List.nil_append]
    · next hpre =>
      obtain ⟨⟨a', b'⟩, hcut, hab⟩ := Option.map_eq_some_iff.mp h
      obtain ⟨rfl, rfl⟩ := Prod.mk.inj hab
      obtain ⟨rfl, hnot⟩ := ih hcut
      refine ⟨rfl, fun hin => ?_⟩
      rcases List.infix_cons_iff.mp hin with hin | hin
      · refine hpre (List.isPrefixOf_iff_prefix.mpr (hin.trans ⟨sep ++ b', ?_⟩))
        simp
      · exact hnot hin

theorem cutAt_append {t a b : List α} (h : cutAt sep t = some (a, b)) (hsep : sep ≠ [])
    (more : List α) : cutAt sep (t ++ more) = some (a, b ++ more) := by
  induction t generalizing a with
  | nil => cases h
  | cons c t ih =>
    rw [cutAt] at h
    split at h
    · next hpre =>
      have hpre := List.isPrefixOf_iff_prefix.mp hpre
      have hmore : sep <+: c :: (t ++ more) := hpre.trans (List.prefix_append (c :: t) more)
      cases h
      rw [List.cons_append, cutAt, if_pos (List.isPrefixOf_iff_prefix.mpr hmore),
        ← List.cons_append, List.drop_append_of_le_length hpre.length_le]
    · next hpre =>
      obtain ⟨⟨a', b'⟩, hcut, hab⟩ := Option.map_eq_some_iff.mp h
      obtain ⟨rfl, rfl⟩ := Prod.mk.inj hab
      have hlength : sep.length ≤ t.length := by
        rw [(eq_of_cutAt hsep hcut).1]
        simp
        omega
      have hmore : ¬sep.isPrefixOf (c :: (t ++ more)) = true := fun hp =>
        hpre (List.isPrefixOf_iff_prefix.mpr (List.prefix_of_prefix_length_le
          (List.isPrefixOf_iff_prefix.mp hp) (List.prefix_append (c :: t) more)
          (Nat.le_succ_of_le hlength)))
      rw [List.cons_append, cutAt, if_neg hmore, ih hcut]
      rfl

/-- **Two parts with the delimiter between them.** -/
theorem cutAt_delimited {a : List α} (h : ¬sep <:+: a ++ sep.dropLast) (hsep : sep ≠ [])
    (b : List α) : cutAt sep (a ++ sep ++ b) = some (a, b) := by
  induction a with
  | nil =>
    obtain ⟨s, sep', rfl⟩ := List.exists_cons_of_ne_nil hsep
    have hpre : (s :: sep').isPrefixOf (s :: (sep' ++ b)) = true :=
      List.isPrefixOf_iff_prefix.mpr (List.prefix_append (s :: sep') b)
    rw [List.nil_append, List.cons_append, cutAt, if_pos hpre, ← List.cons_append, List.drop_left]
  | cons c a ih =>
    rw [List.cons_append, List.infix_cons_iff, not_or] at h
    have hpre : ¬sep.isPrefixOf (c :: (a ++ sep ++ b)) = true := by
      intro hp
      refine h.1 (List.prefix_of_prefix_length_le (List.isPrefixOf_iff_prefix.mp hp)
        ⟨sep.getLast hsep :: b, ?_⟩ ?_)
      · conv_rhs => rw [← List.dropLast_append_getLast hsep]
        simp
      · have := List.length_pos_of_ne_nil hsep
        simp
        omega
    rw [List.cons_append, List.cons_append, cutAt, if_neg hpre, ih h.2]
    rfl

end

end Lib
