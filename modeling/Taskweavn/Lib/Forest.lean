import Mathlib.Data.List.Induction
import Mathlib.Data.List.Nodup
import Mathlib.Data.List.Perm.Basic
import Mathlib.Data.Set.Image
import Mathlib.Logic.Relation
import Mathlib.Tactic.Common

/-!
# Forests as lists

The elements of a forest come in a list.  Each has a key, and may name the key of a
parent.  `ParentsFirst` says that a parent stands before its children, which is what a
list has that only grows at its end, by an element whose parent is there already.

Nothing else is needed for a forest to be one: the parents of an element lead to a root
(`exists_root`), and a walk from the roots through the children, in any order and to a
depth of the length of the list, lists every element exactly once (`preorder_perm`).
-/

namespace Lib

open Relation

variable {ι κ α : Type*}

/-! ### Parents first -/

/-- Every key that is named is known, or stands earlier in the list. -/
def ParentsFirst : Set ι → List (ι × Option ι) → Prop
  | _, [] => True
  | known, e :: l => (∀ p, e.2 = some p → p ∈ known) ∧ ParentsFirst (insert e.1 known) l

theorem ParentsFirst.mono {l : List (ι × Option ι)} : ∀ {known known' : Set ι},
    ParentsFirst known l → known ⊆ known' → ParentsFirst known' l := by
  induction l with
  | nil => intro _ _ _ _; trivial
  | cons e l ih =>
    intro known known' h hsub
    exact ⟨fun p hp => hsub (h.1 p hp), ih h.2 (Set.insert_subset_insert hsub)⟩

theorem parentsFirst_append {l l' : List (ι × Option ι)} : ∀ {known : Set ι},
    ParentsFirst known (l ++ l') ↔
      ParentsFirst known l ∧ ParentsFirst (known ∪ {x | x ∈ l.map Prod.fst}) l' := by
  induction l with
  | nil => intro known; simp [ParentsFirst]
  | cons e l ih =>
    intro known
    have hset : insert e.1 known ∪ {x | x ∈ l.map Prod.fst} =
        known ∪ {x | x ∈ (e :: l).map Prod.fst} := by
      ext x
      simp only [List.map_cons, List.mem_cons, Set.mem_union, Set.mem_insert_iff,
        Set.mem_ofPred_eq]
      tauto
    rw [List.cons_append, ParentsFirst, ParentsFirst, ih, hset, and_assoc]

theorem parentsFirst_of_none {known : Set ι} {l : List (ι × Option ι)}
    (h : ∀ e ∈ l, e.2 = none) : ParentsFirst known l := by
  induction l generalizing known with
  | nil => trivial
  | cons e l ih =>
    refine ⟨fun p hp => ?_, ih fun e' he' => h e' (List.mem_cons_of_mem e he')⟩
    rw [h e List.mem_cons_self] at hp
    cases hp

theorem ParentsFirst.map (g : ι → κ) {l : List (ι × Option ι)} : ∀ {known : Set ι},
    ParentsFirst known l →
      ParentsFirst (Set.image g known) (l.map fun e => (g e.1, e.2.map g)) := by
  induction l with
  | nil => intro _ _; trivial
  | cons e l ih =>
    intro known h
    refine ⟨fun p hp => ?_, ?_⟩
    · obtain ⟨q, hq, rfl⟩ := Option.map_eq_some_iff.mp hp
      exact Set.mem_image_of_mem g (h.1 q hq)
    · have hrest := ih h.2
      rwa [Set.image_insert_eq] at hrest

theorem ParentsFirst.filter (p : ι → Bool) {l : List (ι × Option ι)} : ∀ {known : Set ι},
    ParentsFirst known l → (∀ e ∈ l, p e.1 = true → ∀ q, e.2 = some q → p q = true) →
      ParentsFirst {x | x ∈ known ∧ p x = true} (l.filter fun e => p e.1) := by
  induction l with
  | nil => intro _ _ _; trivial
  | cons e l ih =>
    intro known h hclosed
    have hrest := ih h.2 fun e' he' => hclosed e' (List.mem_cons_of_mem e he')
    by_cases hp : p e.1 = true
    · rw [List.filter_cons, if_pos hp]
      refine ⟨fun q hq => ⟨h.1 q hq, hclosed e List.mem_cons_self hp q hq⟩, hrest.mono ?_⟩
      rintro x ⟨hx, hpx⟩
      rcases Set.mem_insert_iff.mp hx with rfl | hx
      · exact Set.mem_insert _ _
      · exact Set.mem_insert_of_mem _ ⟨hx, hpx⟩
    · rw [List.filter_cons, if_neg hp]
      refine hrest.mono ?_
      rintro x ⟨hx, hpx⟩
      rcases Set.mem_insert_iff.mp hx with rfl | hx
      · exact absurd hpx hp
      · exact ⟨hx, hpx⟩

/-! ### Forests -/

section

variable {key : α → ι} {parent : α → Option ι} {l : List α}

/-- Each element with the parent that it names. -/
def links (key : α → ι) (parent : α → Option ι) (l : List α) : List (ι × Option ι) :=
  l.map fun a => (key a, parent a)

theorem map_fst_links : (links key parent l).map Prod.fst = l.map key := by
  rw [links, List.map_map]
  rfl

structure Forest (key : α → ι) (parent : α → Option ι) (l : List α) : Prop where
  nodup : (l.map key).Nodup
  parentsFirst : ParentsFirst ∅ (links key parent l)

/-- In the forest, `a` is a child of `b`. -/
def Child (key : α → ι) (parent : α → Option ι) (l : List α) (a b : α) : Prop :=
  a ∈ l ∧ b ∈ l ∧ parent a = some (key b)

theorem Child.append {a b : α} (l' : List α) (h : Child key parent l a b) :
    Child key parent (l ++ l') a b :=
  ⟨List.mem_append_left l' h.1, List.mem_append_left l' h.2.1, h.2.2⟩

/-- **The parents of an element lead to a root.** -/
theorem exists_root (h : ParentsFirst ∅ (links key parent l)) :
    ∀ a ∈ l, ∃ r ∈ l, ReflTransGen (Child key parent l) a r ∧ parent r = none := by
  induction l using List.reverseRecOn with
  | nil => intro a ha; cases ha
  | append_singleton l b ih =>
    rw [links, List.map_append, parentsFirst_append] at h
    have hold : ∀ a ∈ l, ∃ r ∈ l ++ [b],
        ReflTransGen (Child key parent (l ++ [b])) a r ∧ parent r = none := by
      intro a ha
      obtain ⟨r, hr, hchain, hroot⟩ := ih h.1 a ha
      exact ⟨r, List.mem_append_left _ hr,
        ReflTransGen.mono (fun _ _ => Child.append [b]) _ _ hchain, hroot⟩
    intro a ha
    rcases List.mem_append.mp ha with ha | ha
    · exact hold a ha
    · obtain rfl := List.mem_singleton.mp ha
      cases hparent : parent a with
      | none => exact ⟨a, List.mem_append_right _ ha, ReflTransGen.refl, hparent⟩
      | some p =>
        have hp := h.2.1 p hparent
        rw [Set.empty_union, Set.mem_ofPred_eq, ← links, map_fst_links] at hp
        obtain ⟨c, hc, hkey⟩ := List.mem_map.mp hp
        obtain ⟨r, hr, hchain, hroot⟩ := hold c hc
        have hchild : Child key parent (l ++ [a]) a c :=
          ⟨List.mem_append_right _ ha, List.mem_append_left _ hc, by rw [hparent, hkey]⟩
        exact ⟨r, hr, ReflTransGen.head hchild hchain, hroot⟩

theorem Forest.inj (h : Forest key parent l) {a b : α} (ha : a ∈ l) (hb : b ∈ l)
    (heq : key a = key b) : a = b :=
  List.inj_on_of_nodup_map h.nodup ha hb heq

theorem Forest.rightUnique (h : Forest key parent l) :
    Relator.RightUnique (Child key parent l) := by
  rintro a b c ⟨-, hb, hab⟩ ⟨-, hc, hac⟩
  rw [hab] at hac
  exact h.inj hb hc (Option.some.inj hac)

/-! ### The place in the list -/

variable [DecidableEq ι]

def place (key : α → ι) (l : List α) (a : α) : ℕ := (l.map key).idxOf (key a)

theorem place_lt_length {a : α} (ha : a ∈ l) : place key l a < l.length := by
  have hlt := List.idxOf_lt_length_of_mem (List.mem_map_of_mem (f := key) ha)
  rwa [List.length_map] at hlt

theorem Forest.place_lt (h : Forest key parent l) {a b : α} (hab : Child key parent l a b) :
    place key l b < place key l a := by
  obtain ⟨ha, hb, hparent⟩ := hab
  obtain ⟨l₁, l₂, rfl⟩ := List.append_of_mem ha
  have hfirst := h.parentsFirst
  rw [links, List.map_append, parentsFirst_append, List.map_cons] at hfirst
  have hmem := hfirst.2.1 (key b) hparent
  rw [Set.empty_union, Set.mem_ofPred_eq, ← links, map_fst_links] at hmem
  have hnodup := h.nodup
  rw [List.map_append, List.map_cons, List.nodup_append] at hnodup
  have hnot : key a ∉ l₁.map key :=
    fun hin => hnodup.2.2 (key a) hin (key a) List.mem_cons_self rfl
  rw [place, place, List.map_append, List.idxOf_append_of_mem hmem,
    List.idxOf_append_of_notMem hnot, List.map_cons, List.idxOf_cons_self, Nat.add_zero]
  exact List.idxOf_lt_length_of_mem hmem

theorem Forest.place_le (h : Forest key parent l) {a b : α}
    (hab : ReflTransGen (Child key parent l) a b) : place key l b ≤ place key l a := by
  induction hab with
  | refl => exact le_refl _
  | tail _ hstep ih => exact (h.place_lt hstep).le.trans ih

end

/-! ### The walk through a forest -/

/-- An element, and what is below it down to the depth `n`. -/
def preorder (kids : α → List α) : ℕ → α → List α
  | 0, _ => []
  | n + 1, a => a :: (kids a).flatMap (preorder kids n)

section

variable {key : α → ι} {parent : α → Option ι} {l : List α} {kids : α → List α}

/-- `kids` lists the children of each element, in some order. -/
structure KidsOf (key : α → ι) (parent : α → Option ι) (l : List α) (kids : α → List α) : Prop where
  nodup : ∀ a ∈ l, (kids a).Nodup
  mem : ∀ a ∈ l, ∀ b, b ∈ kids a ↔ b ∈ l ∧ parent b = some (key a)

theorem KidsOf.child (hk : KidsOf key parent l kids) {a b : α} (ha : a ∈ l) (hb : b ∈ kids a) :
    Child key parent l b a := by
  obtain ⟨hmem, hparent⟩ := (hk.mem a ha b).mp hb
  exact ⟨hmem, ha, hparent⟩

theorem chain_of_mem_preorder (hk : KidsOf key parent l kids) : ∀ (n : ℕ) {a x : α}, a ∈ l →
    x ∈ preorder kids n a → ReflTransGen (Child key parent l) x a := by
  intro n
  induction n with
  | zero => intro a x _ hx; cases hx
  | succ n ih =>
    intro a x ha hx
    rcases List.mem_cons.mp hx with rfl | hx
    · exact ReflTransGen.refl
    · obtain ⟨b, hb, hxb⟩ := List.mem_flatMap.mp hx
      have hchild := hk.child ha hb
      exact (ih hchild.1 hxb).tail hchild

variable [DecidableEq ι]

theorem mem_preorder_of_chain (h : Forest key parent l) (hk : KidsOf key parent l kids) :
    ∀ (n : ℕ) {a x : α}, a ∈ l → ReflTransGen (Child key parent l) x a →
      place key l x < n + place key l a → x ∈ preorder kids n a := by
  intro n
  induction n with
  | zero =>
    intro a x _ hchain hlt
    have hle := h.place_le hchain
    omega
  | succ n ih =>
    intro a x ha hchain hlt
    rcases ReflTransGen.cases_tail hchain with rfl | ⟨b, hxb, hba⟩
    · exact List.mem_cons_self
    · have hplace := h.place_lt hba
      have hmem : x ∈ preorder kids n b := ih hba.1 hxb (by omega)
      refine List.mem_cons_of_mem _ (List.mem_flatMap.mpr ⟨b, ?_, hmem⟩)
      exact (hk.mem a ha b).mpr ⟨hba.1, hba.2.2⟩

theorem preorder_succ (h : Forest key parent l) (hk : KidsOf key parent l kids) :
    ∀ (n : ℕ), ∀ a ∈ l, l.length ≤ n + place key l a →
      preorder kids (n + 1) a = preorder kids n a := by
  intro n
  induction n with
  | zero =>
    intro a ha hn
    have hlt : place key l a < l.length := place_lt_length ha
    omega
  | succ n ih =>
    intro a ha hn
    rw [preorder, preorder]
    refine congrArg (a :: ·) (List.flatMap_congr fun b hb => ?_)
    have hchild := hk.child ha hb
    have hplace := h.place_lt hchild
    exact ih b hchild.1 (by omega)

/-- Two different elements with the same parent, or both without one, have nothing below
them in common. -/
theorem disjoint_preorder (h : Forest key parent l) (hk : KidsOf key parent l kids) (n : ℕ)
    {b c : α} (hb : b ∈ l) (hc : c ∈ l) (hne : b ≠ c) (hsame : parent b = parent c) :
    List.Disjoint (preorder kids n b) (preorder kids n c) := by
  -- Of two chains from one element, one goes on from the end of the other.
  have hno : ∀ {b c : α}, b ≠ c → parent b = parent c →
      ¬ReflTransGen (Child key parent l) b c := by
    intro b c hne hsame hchain
    rcases ReflTransGen.cases_head hchain with heq | ⟨d, hbd, hdc⟩
    · exact hne heq
    · rcases ReflTransGen.cases_tail hchain with heq | ⟨e, -, hec⟩
      · exact hne heq.symm
      · have hcd : Child key parent l c d := ⟨hec.2.1, hbd.2.1, hsame ▸ hbd.2.2⟩
        have hlt := h.place_lt hcd
        have hle := h.place_le hdc
        omega
  intro x hxb hxc
  have hchainb := chain_of_mem_preorder hk n hb hxb
  have hchainc := chain_of_mem_preorder hk n hc hxc
  rcases ReflTransGen.total_of_right_unique h.rightUnique hchainb hchainc with hbc | hcb
  · exact hno hne hsame hbc
  · exact hno hne.symm hsame.symm hcb

theorem nodup_flatMap_preorder (h : Forest key parent l) (hk : KidsOf key parent l kids) {n : ℕ}
    (hn : ∀ a ∈ l, (preorder kids n a).Nodup) {bs : List α} (hbs : bs.Nodup)
    (hmem : ∀ b ∈ bs, b ∈ l)
    (hsame : ∀ b ∈ bs, ∀ c ∈ bs, parent b = parent c) : (bs.flatMap (preorder kids n)).Nodup := by
  rw [List.nodup_flatMap]
  refine ⟨fun b hb => hn b (hmem b hb), hbs.imp_of_mem ?_⟩
  intro b c hb hc hne
  exact disjoint_preorder h hk n (hmem b hb) (hmem c hc) hne (hsame b hb c hc)

theorem nodup_preorder (h : Forest key parent l) (hk : KidsOf key parent l kids) :
    ∀ (n : ℕ), ∀ a ∈ l, (preorder kids n a).Nodup := by
  intro n
  induction n with
  | zero => intro a _; exact List.nodup_nil
  | succ n ih =>
    intro a ha
    rw [preorder, List.nodup_cons]
    constructor
    · intro hmem
      obtain ⟨b, hb, hab⟩ := List.mem_flatMap.mp hmem
      have hchild := hk.child ha hb
      have hle := h.place_le (chain_of_mem_preorder hk n hchild.1 hab)
      have hlt := h.place_lt hchild
      omega
    · refine nodup_flatMap_preorder h hk ih (hk.nodup a ha) (fun b hb => (hk.child ha hb).1) ?_
      intro b hb c hc
      rw [(hk.child ha hb).2.2, (hk.child ha hc).2.2]

/-- **The walk from the roots lists every element once.** -/
theorem preorder_perm (h : Forest key parent l) (hk : KidsOf key parent l kids) {roots : List α}
    (hnodup : roots.Nodup) (hroots : ∀ b, b ∈ roots ↔ b ∈ l ∧ parent b = none) {n : ℕ}
    (hn : l.length ≤ n) : (roots.flatMap (preorder kids n)).Perm l := by
  have hwalk : (roots.flatMap (preorder kids n)).Nodup := by
    refine nodup_flatMap_preorder h hk (nodup_preorder h hk n) hnodup
      (fun b hb => ((hroots b).mp hb).1) ?_
    intro b hb c hc
    rw [((hroots b).mp hb).2, ((hroots c).mp hc).2]
  rw [List.perm_ext_iff_of_nodup hwalk (List.Nodup.of_map _ h.nodup)]
  intro x
  rw [List.mem_flatMap]
  constructor
  · rintro ⟨r, hr, hx⟩
    have hmem := ((hroots r).mp hr).1
    rcases ReflTransGen.cases_head (chain_of_mem_preorder hk n hmem hx) with rfl | ⟨b, hxb, -⟩
    · exact hmem
    · exact hxb.1
  · intro hx
    obtain ⟨r, hr, hchain, hnone⟩ := exists_root h.parentsFirst x hx
    refine ⟨r, (hroots r).mpr ⟨hr, hnone⟩, mem_preorder_of_chain h hk n hr hchain ?_⟩
    have hlt : place key l x < l.length := place_lt_length hx
    omega

end

end Lib
