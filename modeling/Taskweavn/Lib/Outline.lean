import Std.Data.String.ToNat
import Mathlib.Data.List.Basic
import Taskweavn.Lib.Forest

/-!
# The numbers of an outline

An outline numbers the elements of a forest by their places: the second child of the first
root is "1.2".  `numbered` walks through a forest in preorder and gives each element its
places, from the root down.

* `map_fst_numbered`: the order is the one of `preorder`.
* `nodup_numbered`: no two elements have the same places.
* `places_of_mem_numbered`: the places of an element extend those of its parent.
* `dotted_injective`: the places can be told from their text.
-/

namespace Lib

variable {α : Type*} {kids : α → List α}

/-- The walk below a list of siblings, each element with its places. -/
def numbered (kids : α → List α) : ℕ → List ℕ → List α → List (α × List ℕ)
  | 0, _, _ => []
  | n + 1, above, as => (as.zipIdx 1).flatMap fun (a, i) =>
      (a, above ++ [i]) :: numbered kids n (above ++ [i]) (kids a)

theorem map_fst_numbered (kids : α → List α) : ∀ (n : ℕ) (above : List ℕ) (as : List α),
    (numbered kids n above as).map Prod.fst = as.flatMap (preorder kids n) := by
  intro n
  induction n with
  | zero =>
    intro above as
    simp [numbered, preorder]
  | succ n ih =>
    intro above as
    rw [numbered, List.map_flatMap]
    simp only [List.map_cons, ih]
    rw [← List.flatMap_map Prod.fst fun a => a :: (kids a).flatMap (preorder kids n),
      List.zipIdx_map_fst]
    rfl

theorem exists_place_of_mem_numbered : ∀ (n : ℕ) {above : List ℕ} {as : List α}
    {x : α × List ℕ}, x ∈ numbered kids n above as →
      ∃ i rest, (∃ a, (a, i) ∈ as.zipIdx 1) ∧ x.2 = above ++ i :: rest := by
  intro n
  induction n with
  | zero =>
    intro above as x hx
    cases hx
  | succ n ih =>
    intro above as x hx
    obtain ⟨⟨a, i⟩, hplace, hx⟩ := List.mem_flatMap.mp hx
    rcases List.mem_cons.mp hx with rfl | hx
    · exact ⟨i, [], ⟨a, hplace⟩, rfl⟩
    · obtain ⟨j, rest, -, hrest⟩ := ih hx
      exact ⟨i, j :: rest, ⟨a, hplace⟩, by rw [hrest, List.append_assoc, List.singleton_append]⟩

/-- **No two elements have the same places.** -/
theorem nodup_numbered (kids : α → List α) : ∀ (n : ℕ) (above : List ℕ) (as : List α),
    ((numbered kids n above as).map Prod.snd).Nodup := by
  intro n
  induction n with
  | zero =>
    intro above as
    exact List.nodup_nil
  | succ n ih =>
    intro above as
    -- the places below a sibling begin with its own
    have hbegin : ∀ (a : α) (i : ℕ) (p : List ℕ),
        p ∈ ((a, above ++ [i]) :: numbered kids n (above ++ [i]) (kids a)).map Prod.snd →
          ∃ rest, p = above ++ i :: rest := by
      intro a i p hp
      rcases List.mem_cons.mp hp with rfl | hp
      · exact ⟨[], rfl⟩
      · obtain ⟨x, hx, rfl⟩ := List.mem_map.mp hp
        obtain ⟨j, rest, -, hrest⟩ := exists_place_of_mem_numbered n hx
        exact ⟨j :: rest, by rw [hrest, List.append_assoc, List.singleton_append]⟩
    rw [numbered, List.map_flatMap, List.nodup_flatMap]
    constructor
    · rintro ⟨a, i⟩ -
      refine List.nodup_cons.mpr ⟨?_, ih _ _⟩
      intro hmem
      obtain ⟨x, hx, heq⟩ := List.mem_map.mp hmem
      obtain ⟨j, rest, -, hrest⟩ := exists_place_of_mem_numbered n hx
      have hlength : (above ++ [i] ++ j :: rest).length = (above ++ [i]).length :=
        congrArg List.length (hrest.symm.trans heq)
      rw [List.length_append, List.length_cons] at hlength
      omega
    · have hplaces : ((as.zipIdx 1).map Prod.snd).Pairwise (· ≠ ·) := by
        rw [List.zipIdx_map_snd]
        exact List.nodup_range'
      refine (List.pairwise_map.mp hplaces).imp fun {x y} hne => ?_
      obtain ⟨a, i⟩ := x
      obtain ⟨b, j⟩ := y
      intro p hp hq
      obtain ⟨rest, hrest⟩ := hbegin a i p hp
      obtain ⟨rest', hrest'⟩ := hbegin b j p hq
      exact hne (List.cons.inj (List.append_cancel_left (hrest.symm.trans hrest'))).1

/-- **The places of an element** are its place among the first siblings, or extend those of a
parent by its place among the children. -/
theorem places_of_mem_numbered : ∀ (n : ℕ) {above : List ℕ} {as : List α} {x : α × List ℕ},
    x ∈ numbered kids n above as →
      (∃ i, (x.1, i) ∈ as.zipIdx 1 ∧ x.2 = above ++ [i]) ∨
      ∃ y ∈ numbered kids n above as, ∃ i, (x.1, i) ∈ (kids y.1).zipIdx 1 ∧ x.2 = y.2 ++ [i] := by
  intro n
  induction n with
  | zero =>
    intro above as x hx
    cases hx
  | succ n ih =>
    intro above as x hx
    obtain ⟨⟨a, i⟩, hplace, hx⟩ := List.mem_flatMap.mp hx
    rcases List.mem_cons.mp hx with rfl | hx
    · exact .inl ⟨i, hplace, rfl⟩
    · refine .inr ?_
      rcases ih hx with ⟨j, hj, hpath⟩ | ⟨y, hy, j, hj, hpath⟩
      · exact ⟨(a, above ++ [i]), List.mem_flatMap.mpr ⟨(a, i), hplace, List.mem_cons_self⟩, j, hj,
          hpath⟩
      · exact ⟨y, List.mem_flatMap.mpr ⟨(a, i), hplace, List.mem_cons_of_mem _ hy⟩, j, hj, hpath⟩

/-! ### The text of the places -/

/-- The places in decimal, with dots between them. -/
def dotted (places : List ℕ) : String := String.intercalate "." (places.map toString)

@[simp] theorem dotted_nil : dotted [] = "" := rfl

theorem dotted_singleton (i : ℕ) : dotted [i] = toString i := String.intercalate_singleton

theorem dotted_append_singleton {places : List ℕ} (h : places ≠ []) (i : ℕ) :
    dotted (places ++ [i]) = dotted places ++ "." ++ toString i := by
  rw [dotted, List.map_append, String.intercalate_append_of_ne_nil (by simpa using h) (by simp)]
  rfl

theorem dot_notMem_toString (i : ℕ) : '.' ∉ (toString i).toList := by
  have hlist : (toString i).toList = Nat.toDigits 10 i := Nat.toList_repr
  rw [hlist]
  intro hmem
  exact absurd (Nat.isDigit_of_mem_toDigits (by decide) (by decide) hmem) (by decide)

/-- **The places can be told from their text.** -/
theorem dotted_injective {p q : List ℕ} (hp : p ≠ []) (hq : q ≠ []) (h : dotted p = dotted q) :
    p = q := by
  have hsplit : ∀ {p : List ℕ}, p ≠ [] →
      (dotted p).toList.splitOn '.' = p.map fun i => (toString i).toList := by
    intro p hp
    rw [dotted, String.toList_intercalate, List.map_map]
    refine List.splitOn_intercalate '.' ?_ (by simpa using hp)
    intro l hl
    obtain ⟨i, -, rfl⟩ := List.mem_map.mp hl
    exact dot_notMem_toString i
  have hmap := (hsplit hp).symm.trans ((congrArg (List.splitOn '.' ·.toList) h).trans (hsplit hq))
  refine List.map_injective_iff.mpr (fun i j hij => ?_) hmap
  exact Nat.repr_injective (String.toList_inj.mp hij)

theorem dotted_ne_empty {places : List ℕ} (h : places ≠ []) : dotted places ≠ "" := by
  intro hempty
  have hsplit := congrArg String.toList hempty
  rw [dotted, String.toList_intercalate, List.map_map] at hsplit
  cases places with
  | nil => exact h rfl
  | cons i rest =>
    have hdigits : (toString i).toList = Nat.toDigits 10 i := Nat.toList_repr
    cases rest with
    | nil =>
      rw [List.map_cons, List.map_nil, List.intercalate_singleton] at hsplit
      exact Nat.toDigits_ne_nil (hdigits.symm.trans hsplit)
    | cons j rest =>
      rw [List.map_cons, List.map_cons, List.intercalate_cons_cons] at hsplit
      exact Nat.toDigits_ne_nil (hdigits.symm.trans
        (List.append_eq_nil_iff.mp (List.append_eq_nil_iff.mp hsplit).1).1)

end Lib
