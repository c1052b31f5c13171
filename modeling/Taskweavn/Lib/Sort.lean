import Mathlib.Data.List.Perm.Subperm
import Mathlib.Data.List.Sort
import Mathlib.Data.Prod.Lex
import Mathlib.Tactic.Common

/-!
# Stable sorting by a key

`sortOn key l` is the stable sort of `l` by `key`, the list that `sorted` with a
key function returns.  Two facts carry the later files.  `filter_sortOn`:
dropping elements before or after the sort is the same, so the first element of
a sorted selection is the first selected element of the sorted list.
`map_sortOn`: sorting the images of a list by keys that compare in the same way
is the image of the sorted list.

The last section is about lists in strictly increasing order, where a place in the
list is the number of smaller elements (`mem_take_iff_of_pairwise`).
-/

namespace Lib

variable {α β κ κ' : Type*} [LinearOrder κ] [LinearOrder κ'] {key : α → κ} {l l' ys : List α}
  {a : α} {bound : κ}

/-- The stable sort of `l` by `key`. -/
def sortOn (key : α → κ) (l : List α) : List α := l.insertionSort (fun a b => key a ≤ key b)

theorem sortOn_perm (key : α → κ) (l : List α) : (sortOn key l).Perm l :=
  List.perm_insertionSort _ l

@[simp] theorem mem_sortOn : a ∈ sortOn key l ↔ a ∈ l :=
  (sortOn_perm key l).mem_iff

theorem sortOn_pairwise (key : α → κ) (l : List α) :
    (sortOn key l).Pairwise (fun a b => key a ≤ key b) := by
  have ht : IsTrans α (fun a b => key a ≤ key b) := ⟨fun _ _ _ => le_trans⟩
  have hc : Std.Total (fun a b => key a ≤ key b) := ⟨fun a b => le_total (key a) (key b)⟩
  exact List.pairwise_insertionSort _ l

theorem filter_orderedInsert {r : α → α → Prop} [DecidableRel r] [IsTrans α r] (p : α → Bool)
    (a : α) : ∀ l : List α, l.Pairwise r →
      (l.orderedInsert r a).filter p =
        if p a then (l.filter p).orderedInsert r a else l.filter p := by
  intro l
  induction l with
  | nil => intro _; by_cases ha : p a <;> simp [ha]
  | cons b rest ih =>
    intro h
    rw [List.pairwise_cons] at h
    by_cases hab : r a b
    · rw [List.orderedInsert_cons_of_le r _ hab]
      by_cases ha : p a
      · have hle : ∀ c ∈ (b :: rest).filter p, r a c := by
          intro c hc
          rcases List.mem_cons.mp (List.mem_of_mem_filter hc) with rfl | hm
          · exact hab
          · exact IsTrans.trans _ _ _ hab (h.1 c hm)
        rw [List.filter_cons_of_pos ha, if_pos ha]
        cases hf : (b :: rest).filter p with
        | nil => rfl
        | cons c l' =>
          rw [hf] at hle
          rw [List.orderedInsert_cons_of_le r _ (hle c (by simp))]
      · rw [List.filter_cons_of_neg (by simpa using ha), if_neg ha]
    · rw [List.orderedInsert_of_not_le r _ hab]
      by_cases hb : p b
      · rw [List.filter_cons_of_pos hb, ih h.2, List.filter_cons_of_pos hb]
        by_cases ha : p a
        · rw [if_pos ha, if_pos ha, List.orderedInsert_of_not_le r _ hab]
        · rw [if_neg ha, if_neg ha]
      · rw [List.filter_cons_of_neg (by simpa using hb), ih h.2,
          List.filter_cons_of_neg (by simpa using hb)]

/-- **Sorting commutes with filtering.** -/
theorem filter_sortOn (key : α → κ) (p : α → Bool) (l : List α) :
    (sortOn key l).filter p = sortOn key (l.filter p) := by
  induction l with
  | nil => rfl
  | cons a rest ih =>
    have ht : IsTrans α (fun a b => key a ≤ key b) := ⟨fun _ _ _ => le_trans⟩
    have hs := sortOn_pairwise key rest
    unfold sortOn at ih hs ⊢
    rw [List.insertionSort_cons, filter_orderedInsert p a _ hs, ih]
    by_cases ha : p a
    · rw [if_pos ha, List.filter_cons_of_pos ha, List.insertionSort_cons]
    · rw [if_neg ha, List.filter_cons_of_neg (by simpa using ha)]

theorem head?_sortOn_filter (key : α → κ) (p : α → Bool) (l : List α) :
    (sortOn key (l.filter p)).head? = (sortOn key l).find? p := by
  rw [← filter_sortOn, List.head?_filter]

/-- **Sorting commutes with an order-preserving map.** -/
theorem map_sortOn {key' : β → κ'} {f : α → β}
    (h : ∀ a ∈ l, ∀ b ∈ l, key a ≤ key b ↔ key' (f a) ≤ key' (f b)) :
    (sortOn key l).map f = sortOn key' (l.map f) :=
  List.map_insertionSort _ _ f l h

theorem sortOn_congr {key' : α → κ'} (h : ∀ a ∈ l, ∀ b ∈ l, key a ≤ key b ↔ key' a ≤ key' b) :
    sortOn key l = sortOn key' l := by
  have hmap : (sortOn key l).map id = sortOn key' (l.map id) := map_sortOn h
  rwa [List.map_id, List.map_id] at hmap

/-! ### Sorting a list in parts -/

theorem sortOn_eq_self (h : l.Pairwise (fun a b => key a ≤ key b)) : sortOn key l = l :=
  List.Pairwise.insertionSort_eq h

theorem orderedInsert_append {r : α → α → Prop} [DecidableRel r] (h : ∀ b ∈ ys, r a b) :
    ∀ xs : List α,
      (xs ++ ys).orderedInsert r a = xs.orderedInsert r a ++ ys := by
  intro xs
  induction xs with
  | nil =>
    cases ys with
    | nil => rfl
    | cons b ys =>
      rw [List.nil_append, List.orderedInsert_cons_of_le r _ (h b List.mem_cons_self)]
      rfl
  | cons x xs ih =>
    rw [List.cons_append]
    by_cases hax : r a x
    · rw [List.orderedInsert_cons_of_le r _ hax, List.orderedInsert_cons_of_le r _ hax]
      rfl
    · rw [List.orderedInsert_of_not_le r _ hax, List.orderedInsert_of_not_le r _ hax, ih]
      rfl

theorem sortOn_append {xs : List α} (h : ∀ a ∈ xs, ∀ b ∈ ys, key a ≤ key b) :
    sortOn key (xs ++ ys) = sortOn key xs ++ sortOn key ys := by
  induction xs with
  | nil => rfl
  | cons x xs ih =>
    rw [List.forall_mem_cons] at h
    have hx : ∀ b ∈ sortOn key ys, key x ≤ key b := fun b hb => h.1 b (mem_sortOn.mp hb)
    have ih := ih h.2
    unfold sortOn at ih hx ⊢
    rw [List.cons_append, List.insertionSort_cons, List.insertionSort_cons, ih,
      orderedInsert_append hx]

theorem filter_append_filter (bound : κ) : ∀ {l : List α},
    l.Pairwise (fun a b => key a ≤ key b) →
      l.filter (fun a => key a ≤ bound) ++ l.filter (fun a => bound < key a) = l := by
  intro l
  induction l with
  | nil => intro _; rfl
  | cons a l ih =>
    intro h
    rw [List.pairwise_cons] at h
    by_cases ha : key a ≤ bound
    · rw [List.filter_cons_of_pos (by simpa using ha),
        List.filter_cons_of_neg (by simpa using ha), List.cons_append, ih h.2]
    · have habove : ∀ b ∈ l, bound < key b := fun b hb => (not_le.mp ha).trans_le (h.1 b hb)
      rw [List.filter_cons_of_neg (by simpa using ha),
        List.filter_cons_of_pos (by simpa using not_le.mp ha),
        List.filter_eq_nil_iff.mpr fun b hb => by simpa using habove b hb,
        List.filter_eq_self.mpr fun b hb => by simpa using habove b hb, List.nil_append]

/-- **Elements with one key come between those below and those above.** -/
theorem sortOn_append_const {xs : List α} (h : ∀ b ∈ ys, key b = bound) :
    sortOn key (xs ++ ys) = sortOn key (xs.filter fun a => key a ≤ bound) ++ ys ++
      sortOn key (xs.filter fun a => bound < key a) := by
  have hys : sortOn key ys = ys :=
    sortOn_eq_self (List.pairwise_of_forall_mem_list fun a ha b hb =>
      (h a ha).trans (h b hb).symm |>.le)
  have hlow : ys.filter (fun a => key a ≤ bound) = ys :=
    List.filter_eq_self.mpr fun b hb => by simp [h b hb]
  have hhigh : ys.filter (fun a => bound < key a) = [] :=
    List.filter_eq_nil_iff.mpr fun b hb => by simp [h b hb]
  rw [← filter_append_filter bound (sortOn_pairwise key (xs ++ ys)), filter_sortOn, filter_sortOn,
    List.filter_append, List.filter_append, hlow, hhigh, List.append_nil, sortOn_append, hys]
  intro a ha b hb
  rw [h b hb]
  simpa using (List.mem_filter.mp ha).2

/-! ### Lists in strictly increasing order -/

theorem sortOn_pairwise_lt (h : (l.map key).Nodup) :
    (sortOn key l).Pairwise (fun a b => key a < key b) := by
  have hn : ((sortOn key l).map key).Nodup := ((sortOn_perm key l).map key).nodup_iff.mpr h
  have hne : (sortOn key l).Pairwise (fun a b => key a ≠ key b) := List.pairwise_map.mp hn
  exact ((sortOn_pairwise key l).and hne).imp (fun hab => lt_of_le_of_ne hab.1 hab.2)

theorem sortOn_eq_of_perm (h : l.Perm l') (hn : (l.map key).Nodup) :
    sortOn key l = sortOn key l' := by
  have hordered := sortOn_pairwise_lt hn
  have hordered' := sortOn_pairwise_lt ((h.map key).nodup_iff.mp hn)
  refine List.Perm.eq_of_pairwise ?_ hordered hordered'
    ((sortOn_perm _ _).trans (h.trans (sortOn_perm _ _).symm))
  intro a b _ _ hab hba
  exact absurd hba hab.asymm

theorem filter_lt_append_filter (h : l.Pairwise (fun a b => key a ≤ key b))
    (hne : ∀ a ∈ l, key a ≠ bound) :
    l.filter (fun a => key a < bound) ++ l.filter (fun a => bound < key a) = l := by
  have hlow : l.filter (fun a => key a ≤ bound) = l.filter (fun a => key a < bound) := by
    refine List.filter_congr fun a ha => ?_
    rw [decide_eq_decide]
    exact ⟨fun hle => lt_of_le_of_ne hle (hne a ha), le_of_lt⟩
  rw [← hlow]
  exact filter_append_filter bound h

/-- **A new element comes between the smaller and the larger ones.** -/
theorem sortOn_insert (hperm : l'.Perm (a :: l)) (hn : ((a :: l).map key).Nodup) :
    sortOn key l' = (sortOn key l).filter (fun b => key b < key a) ++
      a :: (sortOn key l).filter (fun b => key a < key b) := by
  obtain ⟨hnew, hrest⟩ := List.nodup_cons.mp hn
  have hordered := sortOn_pairwise_lt hrest
  have hsplit := filter_lt_append_filter (sortOn_pairwise key l)
    (fun b hb (heq : key b = key a) => hnew (List.mem_map.mpr ⟨b, mem_sortOn.mp hb, heq⟩))
  have hparts : ((sortOn key l).filter (fun b => key b < key a) ++
      a :: (sortOn key l).filter (fun b => key a < key b)).Perm (a :: l) := by
    refine List.perm_middle.trans (List.Perm.cons a ?_)
    rw [hsplit]
    exact sortOn_perm key l
  rw [sortOn_eq_of_perm (hperm.trans hparts.symm) ((hperm.map key).nodup_iff.mpr hn)]
  refine sortOn_eq_self (List.pairwise_append.mpr ⟨?_, List.pairwise_cons.mpr ⟨?_, ?_⟩, ?_⟩)
  · exact (hordered.filter _).imp le_of_lt
  · intro b hb
    exact (of_decide_eq_true (List.mem_filter.mp hb).2).le
  · exact (hordered.filter _).imp le_of_lt
  · intro b hb c hc
    have hb' : key b < key a := of_decide_eq_true (List.mem_filter.mp hb).2
    rcases List.mem_cons.mp hc with rfl | hc
    · exact hb'.le
    · exact (hb'.trans (of_decide_eq_true (List.mem_filter.mp hc).2)).le

theorem getLast?_filter_eq_some_iff (h : l.Pairwise (fun a b => key a < key b)) (ha : a ∈ l)
    (hbound : key a < bound) :
    (l.filter (fun b => key b < bound)).getLast? = some a ↔
      ∀ b ∈ l, key b < bound → key b ≤ key a := by
  have hlow := h.filter (fun b => key b < bound)
  have hmem : a ∈ l.filter (fun b => key b < bound) :=
    List.mem_filter.mpr ⟨ha, decide_eq_true hbound⟩
  constructor
  · intro hlast b hb hlt
    obtain ⟨front, hfront⟩ := List.getLast?_eq_some_iff.mp hlast
    have hb' : b ∈ front ++ [a] := hfront ▸ List.mem_filter.mpr ⟨hb, decide_eq_true hlt⟩
    rcases List.mem_append.mp hb' with hb' | hb'
    · rw [hfront] at hlow
      exact ((List.pairwise_append.mp hlow).2.2 b hb' a List.mem_cons_self).le
    · rw [List.mem_singleton.mp hb']
  · intro hmax
    obtain ⟨front, rest, hsplit⟩ := List.append_of_mem hmem
    rw [hsplit] at hlow
    cases rest with
    | nil => rw [hsplit, List.getLast?_concat]
    | cons b rest =>
      -- an element after `a` would be above it
      have hb : b ∈ l.filter (fun b => key b < bound) := by
        rw [hsplit]
        exact List.mem_append_right _ (List.mem_cons_of_mem _ List.mem_cons_self)
      obtain ⟨hbl, hlt⟩ := List.mem_filter.mp hb
      have habove := (List.pairwise_cons.mp (List.pairwise_append.mp hlow).2.1).1 b
        List.mem_cons_self
      exact absurd (hmax b hbl (of_decide_eq_true hlt)) (not_le.mpr habove)

theorem sublist_iff_subset_of_pairwise (h : l.Pairwise (fun a b => key a < key b))
    (h' : l'.Pairwise (fun a b => key a < key b)) :
    l.Sublist l' ↔ ∀ a ∈ l, a ∈ l' := by
  constructor
  · intro hs a ha
    exact hs.subset ha
  · intro hsub
    have hn : l.Nodup := h.imp (fun hab => ne_of_apply_ne key hab.ne)
    have hanti : Std.Antisymm (fun a b => key a < key b) :=
      ⟨fun _ _ hab hba => absurd hba hab.asymm⟩
    exact List.sublist_of_subperm_of_pairwise (hn.subperm hsub) h h'

theorem mem_take_iff_of_pairwise : ∀ {l : List α} {n : ℕ},
    l.Pairwise (fun a b => key a < key b) →
      (a ∈ l.take n ↔ a ∈ l ∧ (l.filter (fun b => key b < key a)).length < n) := by
  intro l
  induction l with
  | nil => intro n _; simp
  | cons b rest ih =>
    intro n h
    rw [List.pairwise_cons] at h
    cases n with
    | zero => simp
    | succ n =>
      rw [List.take_succ_cons, List.mem_cons, ih h.2, List.mem_cons]
      by_cases hab : a = b
      · have hnone : rest.filter (fun c => key c < key b) = [] := by
          rw [List.filter_eq_nil_iff]
          intro c hc
          simpa using (h.1 c hc).le
        simp [hab, hnone]
      · constructor
        · rintro (h' | ⟨hm, hlen⟩)
          · exact absurd h' hab
          · refine ⟨.inr hm, ?_⟩
            rw [List.filter_cons_of_pos (by simpa using h.1 a hm), List.length_cons]
            omega
        · rintro ⟨hm, hlen⟩
          have hm := hm.resolve_left hab
          rw [List.filter_cons_of_pos (by simpa using h.1 a hm), List.length_cons] at hlen
          exact .inr ⟨hm, by omega⟩

end Lib
