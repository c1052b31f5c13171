import Mathlib.Data.Fintype.Card
import Mathlib.Data.Set.Finite.List
import Taskweavn.Lib.Acyclic
import Taskweavn.Lib.Forest

/-!
# Putting the parents first

The elements of a list can be put into an order that has the parents first exactly when the
parents that they name are there and no element is above itself (`exists_forest_iff`).  The order
is built from the front: among the elements that are not placed yet there is one that is below
none of the others, and its parent is placed already.
-/

namespace Lib

open Relation

variable {ι α : Type*} {key : α → ι} {parent : α → Option ι} {l l' : List α}

/-- What the elements of a forest name, and where they do not lead. -/
structure ParentLinks (key : α → ι) (parent : α → Option ι) (l : List α) : Prop where
  nodup : (l.map key).Nodup
  known : ∀ a ∈ l, ∀ p, parent a = some p → ∃ b ∈ l, key b = p
  acyclic : Acyclic (Child key parent l)

theorem Child.perm {a b : α} (h : Child key parent l a b) (hperm : l.Perm l') :
    Child key parent l' a b :=
  ⟨hperm.mem_iff.mp h.1, hperm.mem_iff.mp h.2.1, h.2.2⟩

theorem Forest.acyclic [DecidableEq ι] (h : Forest key parent l) :
    Acyclic (Child key parent l) :=
  acyclic_of_lt fun _ _ => h.place_lt

theorem Forest.known (h : Forest key parent l) {a : α} (ha : a ∈ l) {p : ι}
    (hp : parent a = some p) : ∃ b ∈ l, key b = p := by
  obtain ⟨l₁, l₂, rfl⟩ := List.append_of_mem ha
  have hfirst := h.parentsFirst
  rw [links, List.map_append, parentsFirst_append] at hfirst
  have hmem := hfirst.2.1 p hp
  rw [Set.empty_union, Set.mem_ofPred_eq, ← links, map_fst_links] at hmem
  obtain ⟨b, hb, hkey⟩ := List.mem_map.mp hmem
  exact ⟨b, List.mem_append_left _ hb, hkey⟩

theorem exists_top (hacyclic : Acyclic (Child key parent l)) {p : α → Prop} {a : α} (ha : a ∈ l)
    (hpa : p a) : ∃ a ∈ l, p a ∧ ∀ b ∈ l, p b → parent a ≠ some (key b) := by
  let above : {a // a ∈ l} → {a // a ∈ l} → Prop :=
    fun x y => TransGen (Child key parent l) y.1 x.1
  have hfinite : Finite {a // a ∈ l} := List.finite_toSet l
  have htrans : IsTrans {a // a ∈ l} above := ⟨fun _ _ _ hxy hyz => hyz.trans hxy⟩
  have hirrefl : Std.Irrefl above := ⟨fun x => hacyclic x.1⟩
  have hwf : WellFounded above := Finite.wellFounded_of_trans_of_irrefl above
  obtain ⟨⟨m, hm⟩, hpm, hmin⟩ := hwf.has_min {x : {a // a ∈ l} | p x.1} ⟨⟨a, ha⟩, hpa⟩
  refine ⟨m, hm, hpm, fun b hb hpb hparent => ?_⟩
  exact hmin ⟨b, hb⟩ hpb (TransGen.single ⟨hm, hb, hparent⟩)

/-- **The front of the order**, of any length. -/
theorem ParentLinks.exists_front (h : ParentLinks key parent l) : ∀ n ≤ l.length,
    ∃ l₁, l₁.length = n ∧ l₁ ⊆ l ∧ l₁.Nodup ∧ ParentsFirst ∅ (links key parent l₁) := by
  intro n
  induction n with
  | zero =>
    intro _
    exact ⟨[], rfl, List.nil_subset l, List.nodup_nil, trivial⟩
  | succ n ih =>
    intro hn
    obtain ⟨l₁, hlength, hsub, hnodup, hfirst⟩ := ih (by omega)
    have hrest : ∃ a ∈ l, a ∉ l₁ := by
      by_contra hnone
      have hall : l ⊆ l₁ := fun a ha => not_not.mp fun hnot => hnone ⟨a, ha, hnot⟩
      have hle := ((List.Nodup.of_map key h.nodup).subperm hall).length_le
      omega
    obtain ⟨a, ha, hnew⟩ := hrest
    obtain ⟨m, hm, hmnew, htop⟩ := exists_top h.acyclic (p := (· ∉ l₁)) ha hnew
    refine ⟨l₁ ++ [m], ?_, ?_, ?_, ?_⟩
    · rw [List.length_append, List.length_singleton, hlength]
    · exact List.append_subset.mpr ⟨hsub, List.cons_subset.mpr ⟨hm, List.nil_subset l⟩⟩
    · exact List.nodup_append_comm.mp (List.nodup_cons.mpr ⟨hmnew, hnodup⟩)
    · rw [links, List.map_append, parentsFirst_append]
      refine ⟨hfirst, fun p hp => .inr ?_, trivial⟩
      obtain ⟨b, hb, rfl⟩ := h.known m hm p hp
      rw [Set.mem_ofPred_eq, ← links, map_fst_links]
      exact List.mem_map_of_mem (not_not.mp fun hnot => htop b hb hnot hp)

/-- **An order with the parents first** is there when the parents are, and no element is above
itself. -/
theorem exists_forest_iff [DecidableEq ι] :
    (∃ l', l.Perm l' ∧ Forest key parent l') ↔ ParentLinks key parent l := by
  constructor
  · rintro ⟨l', hperm, hl'⟩
    refine ⟨(hperm.map key).nodup_iff.mpr hl'.nodup, fun a ha p hp => ?_, ?_⟩
    · obtain ⟨b, hb, hkey⟩ := hl'.known (hperm.mem_iff.mp ha) hp
      exact ⟨b, hperm.mem_iff.mpr hb, hkey⟩
    · exact hl'.acyclic.mono fun a b hab => hab.perm hperm
  · intro h
    obtain ⟨l', hlength, hsub, hnodup, hfirst⟩ := h.exists_front l.length le_rfl
    have hperm : l'.Perm l := (hnodup.subperm hsub).perm_of_length_le hlength.ge
    exact ⟨l', hperm.symm, (hperm.map key).nodup_iff.mpr h.nodup, hfirst⟩

end Lib
