import Taskweavn.Lib.Forest

/-!
# Walks through a forest

Three ways to go through the elements of a forest, and that they agree.

* `levels`: the walk down from an element with the depths.  The elements below one follow it, up to
  the next that is not deeper (`takeWhile_levels`).
* `drain`: the same walk with a stack of what is still to be listed (`drain_eq`).
* `climb`: the walk up, which counts the elements above one (`climb_of_mem_levels`).

In the order of the walk the parents stand first (`parentsFirst_preorder`), and siblings stand as
their parent lists them (`pairwise_siblings`).
-/

namespace Lib

open Relation

variable {ι α : Type*}

/-- An element with its depth, and what is below it down to the depth `n`. -/
def levels (kids : α → List α) : ℕ → ℕ → α → List (α × ℕ)
  | 0, _, _ => []
  | n + 1, d, a => (a, d) :: (kids a).flatMap (levels kids n (d + 1))

/-- The elements on the stack, each followed by what is below it; nothing when there are more
than `n`. -/
def drain (kids : α → List α) : ℕ → List α → Option (List α)
  | _, [] => some []
  | 0, _ :: _ => none
  | n + 1, a :: stack => (drain kids n (kids a ++ stack)).map (a :: ·)

/-- How many elements are above one, beside those that were counted; nothing when the walk takes
`n` steps or more. -/
def climb (up : α → Option α) : ℕ → ℕ → α → Option ℕ
  | 0, _, _ => none
  | n + 1, count, a =>
    match up a with
    | none => some count
    | some b => climb up n (count + 1) b

section

variable {kids : α → List α}

theorem map_fst_levels (kids : α → List α) : ∀ (n d : ℕ) (a : α),
    (levels kids n d a).map Prod.fst = preorder kids n a := by
  intro n
  induction n with
  | zero => intro d a; rfl
  | succ n ih =>
    intro d a
    rw [levels, preorder, List.map_cons, List.map_flatMap]
    simp only [ih]

theorem map_fst_flatMap_levels (kids : α → List α) (n d : ℕ) (as : List α) :
    (as.flatMap (levels kids n d)).map Prod.fst = as.flatMap (preorder kids n) := by
  rw [List.map_flatMap]
  simp only [map_fst_levels]

theorem le_of_mem_levels : ∀ {n d : ℕ} {a : α} {x : α × ℕ}, x ∈ levels kids n d a → d ≤ x.2 := by
  intro n
  induction n with
  | zero => intro d a x hx; cases hx
  | succ n ih =>
    intro d a x hx
    rcases List.mem_cons.mp hx with rfl | hx
    · exact le_refl _
    · obtain ⟨b, -, hb⟩ := List.mem_flatMap.mp hx
      have hle := ih hb
      omega

/-- **What is below an element follows it**, up to the next that is not deeper. -/
theorem takeWhile_levels : ∀ {n d : ℕ} {as : List α} {rest : List (α × ℕ)},
    (∀ y ∈ rest.head?, y.2 ≤ d) → ∀ {pre post : List (α × ℕ)} {x : α × ℕ},
      as.flatMap (levels kids n d) = pre ++ x :: post →
        ∃ m, m + x.2 + 1 = n + d ∧
          (post ++ rest).takeWhile (fun y => x.2 < y.2) =
            (kids x.1).flatMap (levels kids m (x.2 + 1)) := by
  intro n
  induction n with
  | zero =>
    intro d as rest _ pre post x h
    have hnil : as.flatMap (levels kids 0 d) = [] := List.flatMap_eq_nil_iff.mpr fun a _ => rfl
    rw [hnil] at h
    cases pre <;> cases h
  | succ n ih =>
    intro d as
    induction as with
    | nil =>
      intro rest _ pre post x h
      cases pre <;> cases h
    | cons a as ihas =>
      intro rest hrest pre post x h
      rw [List.flatMap_cons, levels, List.cons_append] at h
      -- behind what is below `a` stands its next sibling, or the rest
      have hnext : ∀ y ∈ (as.flatMap (levels kids (n + 1) d) ++ rest).head?, y.2 ≤ d := by
        cases as with
        | nil => exact hrest
        | cons b as =>
          intro y hy
          rw [List.flatMap_cons, levels, List.cons_append, List.cons_append, List.head?_cons] at hy
          rw [← Option.mem_some.mp hy]
      cases pre with
      | nil =>
        obtain ⟨rfl, rfl⟩ := List.cons.inj h
        refine ⟨n, by omega, ?_⟩
        rw [List.append_assoc, List.takeWhile_append_of_pos]
        · have hstop : (as.flatMap (levels kids (n + 1) d) ++ rest).takeWhile
              (fun y => decide (d < y.2)) = [] := by
            cases hhead : as.flatMap (levels kids (n + 1) d) ++ rest with
            | nil => rfl
            | cons y l =>
              have hle := hnext y (by rw [hhead]; rfl)
              rw [List.takeWhile_cons_of_neg (by simpa using hle)]
          rw [hstop, List.append_nil]
        · intro y hy
          obtain ⟨b, -, hb⟩ := List.mem_flatMap.mp hy
          have hle := le_of_mem_levels hb
          exact decide_eq_true (by omega)
      | cons p pre =>
        obtain ⟨-, h⟩ := List.cons.inj h
        rcases List.append_eq_append_iff.mp h with ⟨mid, hpre, hpost⟩ | ⟨mid, hpre, hpost⟩
        · exact ihas hrest hpost
        · cases mid with
          | nil =>
            have hback : as.flatMap (levels kids (n + 1) d) = [] ++ x :: post := hpost.symm
            exact ihas hrest hback
          | cons y mid =>
            obtain ⟨rfl, rfl⟩ := List.cons.inj hpost
            obtain ⟨m, hm, htake⟩ := ih (fun z hz => (hnext z hz).trans (Nat.le_succ d)) hpre
            have hassoc := List.append_assoc mid (as.flatMap (levels kids (n + 1) d)) rest
            exact ⟨m, by omega, (congrArg _ hassoc).trans htake⟩

/-- **The stack lists what the walk lists**, for elements whose walk does not end too early. -/
theorem drain_eq {l : List α} {full : α → List α} (hclosed : ∀ a ∈ l, ∀ b ∈ kids a, b ∈ l)
    (hfull : ∀ a ∈ l, full a = a :: (kids a).flatMap full) : ∀ {n : ℕ} {stack : List α},
      (∀ a ∈ stack, a ∈ l) → (stack.flatMap full).length ≤ n →
        drain kids n stack = some (stack.flatMap full) := by
  intro n
  induction n with
  | zero =>
    intro stack hmem hn
    cases stack with
    | nil => rfl
    | cons a stack =>
      rw [List.flatMap_cons, hfull a (hmem a List.mem_cons_self)] at hn
      cases hn
  | succ n ih =>
    intro stack hmem hn
    cases stack with
    | nil => rfl
    | cons a stack =>
      have ha := hmem a List.mem_cons_self
      have hnext : ∀ b ∈ kids a ++ stack, b ∈ l := by
        intro b hb
        rcases List.mem_append.mp hb with hb | hb
        · exact hclosed a ha b hb
        · exact hmem b (List.mem_cons_of_mem _ hb)
      have hsplit : (a :: stack).flatMap full = a :: (kids a ++ stack).flatMap full := by
        rw [List.flatMap_cons, hfull a ha, List.cons_append, List.flatMap_append]
      rw [hsplit, List.length_cons] at hn
      rw [drain, ih hnext (by omega), hsplit]
      rfl

theorem le_of_climb {up : α → Option α} : ∀ {n count : ℕ} {a : α} {m : ℕ},
    climb up n count a = some m → count ≤ m := by
  intro n
  induction n with
  | zero => intro count a m h; cases h
  | succ n ih =>
    intro count a m h
    rw [climb] at h
    split at h
    · exact (Option.some.inj h).le
    · have hle := ih h
      omega

/-- **The walk up counts the depth** that the walk down has reached. -/
theorem climb_of_mem_levels {l : List α} {up : α → Option α}
    (hclosed : ∀ a ∈ l, ∀ b ∈ kids a, b ∈ l) (hup : ∀ a ∈ l, ∀ b ∈ kids a, up b = some a) :
    ∀ {n d : ℕ} {a : α} {x : α × ℕ}, a ∈ l → x ∈ levels kids n d a →
      ∃ j, x.2 = d + j ∧ ∀ k count, climb up (k + j) count x.1 = climb up k (count + j) a := by
  intro n
  induction n with
  | zero => intro d a x _ hx; cases hx
  | succ n ih =>
    intro d a x ha hx
    rcases List.mem_cons.mp hx with rfl | hx
    · exact ⟨0, rfl, fun k count => rfl⟩
    · obtain ⟨b, hb, hx⟩ := List.mem_flatMap.mp hx
      obtain ⟨j, hj, hclimb⟩ := ih (hclosed a ha b hb) hx
      refine ⟨j + 1, by omega, fun k count => ?_⟩
      have hstep : climb up (k + 1) (count + j) b = climb up k (count + j + 1) a := by
        rw [climb, hup a ha b hb]
      rw [show k + (j + 1) = k + 1 + j by omega, hclimb, hstep, Nat.add_assoc]

theorem climb_of_root {l : List α} {up : α → Option α}
    (hclosed : ∀ a ∈ l, ∀ b ∈ kids a, b ∈ l) (hup : ∀ a ∈ l, ∀ b ∈ kids a, up b = some a) {n : ℕ}
    {r : α} {x : α × ℕ} (hr : r ∈ l) (hroot : up r = none) (hx : x ∈ levels kids n 0 r) {k : ℕ}
    (hk : x.2 < k) : climb up k 0 x.1 = some x.2 := by
  obtain ⟨j, hj, hclimb⟩ := climb_of_mem_levels hclosed hup hr hx
  have hfuel : k = k - j - 1 + 1 + j := by omega
  rw [hfuel, hclimb, climb, hroot, hj]

end

/-! ### The order of the walk -/

section

variable {key : α → ι} {parent : α → Option ι} {l : List α} {kids : α → List α}

theorem KidsOf.closed (hk : KidsOf key parent l kids) : ∀ a ∈ l, ∀ b ∈ kids a, b ∈ l :=
  fun _ ha _ hb => (hk.child ha hb).1

/-- **In the order of the walk the parents stand first.** -/
theorem parentsFirst_preorder (hk : KidsOf key parent l kids) : ∀ (n : ℕ) {as : List α}
    {known : Set ι}, (∀ a ∈ as, a ∈ l) → (∀ a ∈ as, ∀ p, parent a = some p → p ∈ known) →
      ParentsFirst known (links key parent (as.flatMap (preorder kids n))) := by
  intro n
  induction n with
  | zero =>
    intro as known _ _
    have hnil : as.flatMap (preorder kids 0) = [] := List.flatMap_eq_nil_iff.mpr fun a _ => rfl
    rw [hnil]
    trivial
  | succ n ih =>
    intro as
    induction as with
    | nil => intro known _ _; trivial
    | cons a as ihas =>
      intro known hmem hknown
      have ha := hmem a List.mem_cons_self
      rw [List.flatMap_cons, links, List.map_append, parentsFirst_append]
      constructor
      · refine ⟨hknown a List.mem_cons_self, ih (hk.closed a ha) fun b hb p hp => ?_⟩
        rw [(hk.child ha hb).2.2] at hp
        rw [← Option.some.inj hp]
        exact Set.mem_insert _ _
      · refine ihas (fun b hb => hmem b (List.mem_cons_of_mem _ hb)) fun b hb p hp => ?_
        exact .inl (hknown b (List.mem_cons_of_mem _ hb) p hp)

variable [DecidableEq ι]

theorem levels_add (h : Forest key parent l) (hk : KidsOf key parent l kids) :
    ∀ (n d : ℕ), ∀ a ∈ l, l.length ≤ n + place key l a →
      levels kids (n + 1) d a = levels kids n d a := by
  intro n
  induction n with
  | zero =>
    intro d a ha hn
    have hlt : place key l a < l.length := place_lt_length ha
    omega
  | succ n ih =>
    intro d a ha hn
    rw [levels, levels]
    refine congrArg ((a, d) :: ·) (List.flatMap_congr fun b hb => ?_)
    have hchild := hk.child ha hb
    have hplace := h.place_lt hchild
    exact ih (d + 1) b hchild.1 (by omega)

theorem levels_of_le (h : Forest key parent l) (hk : KidsOf key parent l kids) {n m : ℕ} (d : ℕ)
    {a : α} (ha : a ∈ l) (hn : l.length ≤ n + place key l a) (hle : n ≤ m) :
    levels kids m d a = levels kids n d a := by
  obtain ⟨k, rfl⟩ := Nat.exists_eq_add_of_le hle
  clear hle
  induction k with
  | zero => rfl
  | succ k ih => rw [← Nat.add_assoc, levels_add h hk _ d a ha (by omega), ih]

theorem levels_length (h : Forest key parent l) (hk : KidsOf key parent l kids) (d : ℕ) {a : α}
    (ha : a ∈ l) : levels kids l.length d a =
      (a, d) :: (kids a).flatMap (levels kids l.length (d + 1)) := by
  rw [← levels_add h hk _ d a ha (by omega), levels]

theorem preorder_length (h : Forest key parent l) (hk : KidsOf key parent l kids) {a : α}
    (ha : a ∈ l) : preorder kids l.length a = a :: (kids a).flatMap (preorder kids l.length) := by
  rw [← preorder_succ h hk _ a ha (by omega), preorder]

theorem le_place_of_mem_levels (h : Forest key parent l) (hk : KidsOf key parent l kids) :
    ∀ {n d : ℕ} {a : α} {x : α × ℕ}, a ∈ l → x ∈ levels kids n d a → d ≤ place key l a →
      x.2 ≤ place key l x.1 := by
  intro n
  induction n with
  | zero => intro d a x _ hx; cases hx
  | succ n ih =>
    intro d a x ha hx hd
    rcases List.mem_cons.mp hx with rfl | hx
    · exact hd
    · obtain ⟨b, hb, hx⟩ := List.mem_flatMap.mp hx
      have hchild := hk.child ha hb
      have hplace := h.place_lt hchild
      exact ih hchild.1 hx (by omega)

theorem eq_of_sibling (h : Forest key parent l) (hk : KidsOf key parent l kids) {n : ℕ}
    {a b x y : α}
    (ha : a ∈ l) (hb : b ∈ l) (hne : a ≠ b) (hsame : parent a = parent b)
    (hx : x ∈ preorder kids n a) (hy : y ∈ preorder kids n b) (hxy : parent x = parent y) :
    x = a := by
  have hdisjoint := disjoint_preorder h hk (n + l.length) ha hb hne hsame
  have hmore : ∀ {c z : α}, c ∈ l → z ∈ l → ReflTransGen (Child key parent l) z c →
      z ∈ preorder kids (n + l.length) c := by
    intro c z hc hz hchain
    have hlt : place key l z < l.length := place_lt_length hz
    exact mem_preorder_of_chain h hk _ hc hchain (by omega)
  have hya := chain_of_mem_preorder hk n hb hy
  rcases ReflTransGen.cases_head (chain_of_mem_preorder hk n ha hx) with heq | ⟨z, hxz, hza⟩
  · exact heq
  · -- the parent of `x` is below `a`, so `y` is below `a` as well as below `b`
    have hyl : y ∈ l := by
      rcases ReflTransGen.cases_head hya with rfl | ⟨w, hyw, -⟩
      · exact hb
      · exact hyw.1
    have hyz : Child key parent l y z := ⟨hyl, hxz.2.1, hxy ▸ hxz.2.2⟩
    exact absurd (hmore hb hyl hya) (hdisjoint (hmore ha hyl (ReflTransGen.head hyz hza)))

/-- **Siblings stand in the walk as their parent lists them.** -/
theorem pairwise_siblings (h : Forest key parent l) (hk : KidsOf key parent l kids)
    {r : α → α → Prop} (hkids : ∀ a ∈ l, (kids a).Pairwise r) : ∀ (n : ℕ) {as : List α},
      (∀ a ∈ as, a ∈ l) → as.Nodup → (∀ a ∈ as, ∀ b ∈ as, parent a = parent b) → as.Pairwise r →
        (as.flatMap (preorder kids n)).Pairwise fun x y => parent x = parent y → r x y := by
  intro n
  induction n with
  | zero =>
    intro as _ _ _ _
    have hnil : as.flatMap (preorder kids 0) = [] := List.flatMap_eq_nil_iff.mpr fun a _ => rfl
    rw [hnil]
    exact List.Pairwise.nil
  | succ n ih =>
    intro as hmem hnodup hsame hr
    rw [List.pairwise_flatMap]
    constructor
    · intro a has
      have ha := hmem a has
      have hone : ∀ b ∈ kids a, ∀ c ∈ kids a, parent b = parent c := by
        intro b hb c hc
        rw [(hk.child ha hb).2.2, (hk.child ha hc).2.2]
      refine List.pairwise_cons.mpr
        ⟨fun y hy hay => ?_, ih (hk.closed a ha) (hk.nodup a ha) hone (hkids a ha)⟩
      -- an element below `a` has no parent in common with it
      obtain ⟨b, hb, hy⟩ := List.mem_flatMap.mp hy
      have hchild := hk.child ha hb
      have hyb := chain_of_mem_preorder hk n hchild.1 hy
      have hlt := (h.place_lt hchild).trans_le (h.place_le hyb)
      have hne : y ≠ a := by
        rintro rfl
        exact lt_irrefl _ hlt
      have hyl : y ∈ l := by
        rcases ReflTransGen.cases_head hyb with rfl | ⟨w, hyw, -⟩
        · exact hchild.1
        · exact hyw.1
      have hplace : place key l y < l.length := place_lt_length hyl
      refine absurd ?_ (disjoint_preorder h hk (l.length + 1) hyl ha hne hay.symm (a := y) ?_)
      · exact mem_preorder_of_chain h hk _ ha (hyb.tail hchild) (by omega)
      · exact List.mem_cons_self
    · have hboth : as.Pairwise fun a b => a ≠ b ∧ r a b := hnodup.and hr
      refine hboth.imp_of_mem fun {a b} ha hb hab x hx y hy hxy => ?_
      have hsib := hsame a ha b hb
      rw [eq_of_sibling h hk (hmem a ha) (hmem b hb) hab.1 hsib hx hy hxy,
        eq_of_sibling h hk (hmem b hb) (hmem a ha) hab.1.symm hsib.symm hy hx hxy.symm]
      exact hab.2

end

end Lib
