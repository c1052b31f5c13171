import Mathlib.Data.List.Basic

/-!
# Allowlists

A list of the values that are allowed, where the empty list allows every value (`Permits`).
Two of them are combined by `meet`, which keeps the values of the first list that are in the
second one, and takes the other list when one is empty.

`meet` permits what both lists permit as long as there is such a value (`permits_meet`).
Two lists without a common value meet in the empty list, which permits everything.  So what
a fold of meets permits is permitted by every list exactly when some value is
(`permits_foldl_sound_iff`).
-/

namespace Lib.Allowlist

variable {α : Type*}

/-- The value is allowed. -/
def Permits (l : List α) (x : α) : Prop := l = [] ∨ x ∈ l

instance [DecidableEq α] (l : List α) (x : α) : Decidable (Permits l x) := by
  unfold Permits
  infer_instance

theorem not_permits_iff {l : List α} {x : α} : ¬Permits l x ↔ l ≠ [] ∧ x ∉ l := not_or

/-- There is a value that every list permits. -/
def Compatible (ls : List (List α)) : Prop := ∃ x, ∀ l ∈ ls, Permits l x

/-- Values were removed, but not all of them. -/
def Narrows (wide l : List α) : Prop := l ⊆ wide ∧ (l = [] → wide = [])

theorem Narrows.permits {wide l : List α} {x : α} (h : Narrows wide l) (hx : Permits l x) :
    Permits wide x := by
  rcases hx with hnil | hmem
  · exact .inl (h.2 hnil)
  · exact .inr (h.1 hmem)

theorem exists_permits [Inhabited α] (l : List α) : ∃ x, Permits l x := by
  cases l with
  | nil => exact ⟨default, .inl rfl⟩
  | cons x l => exact ⟨x, .inr List.mem_cons_self⟩

theorem compatible_pair {l r : List α} :
    Compatible [l, r] ↔ ∃ x, Permits l x ∧ Permits r x := by
  simp only [Compatible, List.forall_mem_cons, List.not_mem_nil, false_implies, implies_true,
    and_true]

theorem not_compatible_pair {l r : List α} (hl : l ≠ []) (hr : r ≠ [])
    (h : ∀ x ∈ l, x ∉ r) : ¬Compatible [l, r] := by
  rw [compatible_pair]
  rintro ⟨x, hx, hy⟩
  rcases hx with hx | hx
  · exact hl hx
  rcases hy with hy | hy
  · exact hr hy
  · exact h x hx hy

variable [DecidableEq α]

/-- The values of the first list that the second one permits. -/
def meet (l r : List α) : List α :=
  if l = [] then r else if r = [] then l else l.filter (· ∈ r)

@[simp] theorem meet_nil_left (r : List α) : meet [] r = r := rfl

theorem meet_nil_right (l : List α) : meet l [] = l := by
  unfold meet
  split
  · next h => exact h.symm
  · rfl

theorem meet_of_ne_nil {l r : List α} (hl : l ≠ []) (hr : r ≠ []) :
    meet l r = l.filter (· ∈ r) := by
  rw [meet, if_neg hl, if_neg hr]

theorem meet_of_not_compatible [Inhabited α] {l r : List α} (h : ¬Compatible [l, r]) :
    meet l r = [] := by
  rw [compatible_pair] at h
  have hl : l ≠ [] := by
    rintro rfl
    obtain ⟨x, hx⟩ := exists_permits r
    exact h ⟨x, .inl rfl, hx⟩
  have hr : r ≠ [] := by
    rintro rfl
    obtain ⟨x, hx⟩ := exists_permits l
    exact h ⟨x, hx, .inl rfl⟩
  rw [meet_of_ne_nil hl hr, List.filter_eq_nil_iff]
  intro x hx hmem
  exact h ⟨x, .inr hx, .inr (of_decide_eq_true hmem)⟩

/-- **Two lists with a common value** permit together what both permit. -/
theorem permits_meet {l r : List α} (h : ∃ y, Permits l y ∧ Permits r y) (x : α) :
    Permits (meet l r) x ↔ Permits l x ∧ Permits r x := by
  by_cases hl : l = []
  · subst hl
    rw [meet_nil_left]
    exact ⟨fun hx => ⟨.inl rfl, hx⟩, And.right⟩
  by_cases hr : r = []
  · subst hr
    rw [meet_nil_right]
    exact ⟨fun hx => ⟨hx, .inl rfl⟩, And.left⟩
  obtain ⟨y, hyl, hyr⟩ := h
  have hne : meet l r ≠ [] := by
    rw [meet_of_ne_nil hl hr]
    refine List.ne_nil_of_mem (a := y) (List.mem_filter.mpr ⟨hyl.resolve_left hl, ?_⟩)
    exact decide_eq_true (hyr.resolve_left hr)
  rw [meet_of_ne_nil hl hr] at hne ⊢
  simp only [Permits, hne, hl, hr, false_or, List.mem_filter, decide_eq_true_eq]

theorem permits_foldl_meet {rs : List (List α)} : ∀ {l : List α}, Compatible (l :: rs) →
    ∀ x, Permits (rs.foldl meet l) x ↔ ∀ r ∈ l :: rs, Permits r x := by
  induction rs with
  | nil =>
    intro l _ x
    rw [List.foldl_nil, List.forall_mem_singleton]
  | cons r rs ih =>
    rintro l ⟨y, hy⟩ x
    simp only [List.forall_mem_cons] at hy ⊢
    have hlr : ∃ z, Permits l z ∧ Permits r z := ⟨y, hy.1, hy.2.1⟩
    rw [List.foldl_cons, ih]
    · simp only [List.forall_mem_cons, permits_meet hlr, and_assoc]
    · refine ⟨y, ?_⟩
      simp only [List.forall_mem_cons, permits_meet hlr]
      exact ⟨⟨hy.1, hy.2.1⟩, hy.2.2⟩

/-- **What the fold permits is permitted by every list** exactly when some value is. -/
theorem permits_foldl_sound_iff [Inhabited α] {l : List α} {rs : List (List α)} :
    (∀ x, Permits (rs.foldl meet l) x → ∀ r ∈ l :: rs, Permits r x) ↔ Compatible (l :: rs) := by
  constructor
  · intro h
    obtain ⟨x, hx⟩ := exists_permits (rs.foldl meet l)
    exact ⟨x, h x hx⟩
  · intro h x hx
    exact (permits_foldl_meet h x).mp hx

end Lib.Allowlist
