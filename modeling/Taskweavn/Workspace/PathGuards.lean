import Taskweavn.Workspace.PathPolicy

/-!
# Where the path guards agree

The policy of the inspection looks at the spelling of the first part of a path, the workspace
at the place where the path ends.  They agree unless a path of plain names ends in a metadata
directory, and that takes a link: one that leads from within the root into the directory, or
that the directory itself is.

`Sealed` says of the links of a tree that there is none of these, and **the guards agree
exactly on the sealed trees**.
-/

namespace Taskweavn

open Lib Py

namespace WorkspaceTree

variable (tree : WorkspaceTree)

def MetadataPlace (name : String) (place : List String) : Prop :=
  name ∈ protectedWorkspaceMetadataDirNames ∧
    Walks tree.links [] (intoAll (tree.root ++ [name])) place

/-- What the policy accepts the workspace accepts, at the same place, which is in the root and
in no metadata directory. -/
def GuardsAgree : Prop :=
  ∀ (workspaceId rawPath : String) (maxLinks : ℕ) (ref : WorkspacePathRef),
    WorkspaceInspectionPathPolicy.resolve ⟨tree, workspaceId⟩ maxLinks rawPath = .ok ref →
      (∃ maxLinks', tree.resolve maxLinks' rawPath = .ok ref.resolvedPath) ∧
      tree.root <+: ref.resolvedPath ∧
      ∀ name place, tree.MetadataPlace name place → ¬place <+: ref.resolvedPath

/-- A place to which a link leads that is met on the paths of the policy. -/
def LinkedPlace (place : List String) : Prop :=
  Entered tree.links tree.root Spelled Opening place

/-- The metadata directories are sealed off: they resolve, neither to the root nor above it, and
when they resolve into the root, neither a path without links nor a link leads there. -/
structure Sealed : Prop where
  resolves : ∀ name ∈ protectedWorkspaceMetadataDirNames, ∃ place, tree.MetadataPlace name place
  apart : ∀ name place, tree.MetadataPlace name place → ¬place <+: tree.root
  closed : ∀ name inner, tree.MetadataPlace name (tree.root ++ inner) →
    (∃ part ∈ inner, ¬Spelled part) ∨ ∃ part ∈ inner.head?, ¬Opening part
  unlinked : ∀ name inner linked, tree.MetadataPlace name (tree.root ++ inner) →
    tree.LinkedPlace linked → ¬tree.root ++ inner <+: linked ∧
      ∀ rest, tree.root ++ inner = linked ++ rest → ∃ part ∈ rest, ¬Spelled part

variable {tree}

/-! ### The two guards in terms of places -/

theorem walks_root_iff {steps : List (PathStep String)} {target : List String} :
    Walks tree.links [] (intoAll tree.root ++ steps) target ↔
      Walks tree.links tree.root steps target := by
  have hroot : Walks tree.links [] (intoAll tree.root) tree.root :=
    walks_of_real [] tree.root_real
  constructor
  · intro h
    obtain ⟨between, hbetween, h⟩ := walks_append_iff.mp h
    rwa [hbetween.unique hroot] at h
  · exact hroot.append

theorem walks_real_iff {place target : List String} (hreal : Real tree.links place) :
    Walks tree.links [] (intoAll place) target ↔ target = place := by
  have hplace : Walks tree.links [] (intoAll place) place := walks_of_real [] hreal
  constructor
  · intro h
    exact h.unique hplace
  · rintro rfl
    exact hplace

theorem MetadataPlace.real {name : String} {place : List String}
    (h : tree.MetadataPlace name place) : Real tree.links place := h.2.real real_nil

theorem anyProtected_mono {candidate : List String} {n m : ℕ} (hle : n ≤ m) :
    ∀ {names : List String}, tree.anyProtected n candidate names = some false →
      tree.anyProtected m candidate names = some false := by
  intro names
  induction names with
  | nil => exact fun _ => rfl
  | cons name names ih =>
    intro h
    rw [anyProtected] at h ⊢
    split at h
    · cases h
    · next place hplace =>
      split at h
      · cases h
      · next hout =>
        rw [walk_mono hle hplace]
        simp only [hout, if_false]
        exact ih h

theorem anyProtected_eq_false_iff {candidate : List String} : ∀ {names : List String},
    (∃ maxLinks, tree.anyProtected maxLinks candidate names = some false) ↔
      ∀ name ∈ names, ∃ place, Walks tree.links [] (intoAll (tree.root ++ [name])) place ∧
        ¬place <+: candidate := by
  intro names
  induction names with
  | nil =>
    constructor
    · intro _ name hname
      cases hname
    · exact fun _ => ⟨0, rfl⟩
  | cons name names ih =>
    constructor
    · rintro ⟨n, h⟩
      rw [anyProtected] at h
      split at h
      · cases h
      · next place hplace =>
        split at h
        · cases h
        · next hout =>
          intro name' hname'
          rcases List.mem_cons.mp hname' with rfl | hname'
          · exact ⟨place, walks_iff.mpr ⟨n, hplace⟩, hout⟩
          · exact ih.mp ⟨n, h⟩ name' hname'
    · intro h
      obtain ⟨place, hplace, hout⟩ := h name List.mem_cons_self
      obtain ⟨n, hn⟩ := walks_iff.mp hplace
      obtain ⟨m, hm⟩ := ih.mpr fun name' hname' => h name' (List.mem_cons_of_mem _ hname')
      refine ⟨n + m, ?_⟩
      rw [anyProtected, walk_mono (Nat.le_add_right n m) hn]
      simp only [hout, if_false]
      exact anyProtected_mono (Nat.le_add_left m n) hm

theorem resolve_iff {path : String} (habsolute : isAbsolutePath path = false)
    {target : List String} :
    (∃ maxLinks, tree.resolve maxLinks path = .ok target) ↔
      Walks tree.links tree.root (posixSteps path) target ∧ tree.root <+: target ∧
        ∀ name ∈ protectedWorkspaceMetadataDirNames,
          ∃ place, tree.MetadataPlace name place ∧ ¬place <+: target := by
  constructor
  · rintro ⟨n, h⟩
    simp only [resolve, habsolute, Bool.false_eq_true, if_false] at h
    split at h
    · cases h
    next candidate hcandidate =>
    split at h
    on_goal 2 => cases h
    next hin =>
    split at h
    · cases h
    · cases h
    next hprotected =>
    cases h
    have hwalk := walks_root_iff.mp (walks_iff.mpr ⟨n, hcandidate⟩)
    refine ⟨hwalk, hin, fun name hname => ?_⟩
    obtain ⟨candidate, hagain, hnames⟩ := Option.bind_eq_some_iff.mp hprotected
    have hsame := (walks_real_iff (hwalk.real tree.root_real)).mp (walks_iff.mpr ⟨n, hagain⟩)
    rw [hsame] at hnames
    obtain ⟨place, hplace, hout⟩ := anyProtected_eq_false_iff.mp ⟨n, hnames⟩ name hname
    exact ⟨place, ⟨hname, hplace⟩, hout⟩
  · rintro ⟨hwalk, hin, hnames⟩
    obtain ⟨n, hn⟩ := walks_iff.mp (walks_root_iff.mpr hwalk)
    obtain ⟨m, hm⟩ := walks_iff.mp ((walks_real_iff (hwalk.real tree.root_real)).mpr rfl)
    obtain ⟨k, hk⟩ := anyProtected_eq_false_iff.mpr fun name hname =>
      let ⟨place, hplace, hout⟩ := hnames name hname
      ⟨place, hplace.2, hout⟩
    refine ⟨n + m + k, ?_⟩
    have hprotected : tree.isProtectedPath (n + m + k) target = some false := by
      rw [isProtectedPath, walk_mono (by omega) hm, Option.bind_some]
      exact anyProtected_mono (by omega) hk
    simp only [resolve, habsolute, Bool.false_eq_true, if_false,
      walk_mono (show n ≤ n + m + k by omega) hn,
      hin, if_true, hprotected]

theorem policy_resolve_ok {workspaceId rawPath : String} {maxLinks : ℕ} {ref : WorkspacePathRef}
    (h : WorkspaceInspectionPathPolicy.resolve ⟨tree, workspaceId⟩ maxLinks rawPath = .ok ref) :
    isAbsolutePath rawPath = false ∧ (∀ name ∈ posixParts rawPath, Spelled name) ∧
      (∀ name ∈ (posixParts rawPath).head?, Opening name) ∧
      Walks tree.links tree.root (intoAll (posixParts rawPath)) ref.resolvedPath ∧
      tree.root <+: ref.resolvedPath := by
  obtain ⟨relative, hrelative, h⟩ := bind_eq_ok.mp h
  obtain ⟨habsolute, hne, hspelled, hopening, rfl⟩ := normalizeRelativePath_ok hrelative
  have hparts := posixParts_intercalate hne hspelled
  rw [posixSteps_of_spelled (by rwa [hparts]), hparts] at h
  split at h
  · cases h
  next target htarget =>
  split at h
  on_goal 2 => cases h
  next hin =>
  cases h
  exact ⟨habsolute, hspelled, hopening, walks_root_iff.mp (walks_iff.mpr ⟨_, htarget⟩), hin⟩

theorem policy_resolve_of_walks {names : List String} (hne : names ≠ [])
    (hspelled : ∀ name ∈ names, Spelled name) (hopening : ∀ name ∈ names.head?, Opening name)
    {target : List String} (hwalk : Walks tree.links tree.root (intoAll names) target)
    (hin : tree.root <+: target) : ∃ maxLinks ref,
      WorkspaceInspectionPathPolicy.resolve ⟨tree, ""⟩ maxLinks ("/".intercalate names) = .ok ref ∧
        ref.resolvedPath = target := by
  obtain ⟨n, hn⟩ := walks_iff.mp (walks_root_iff.mpr hwalk)
  have hparts := posixParts_intercalate hne hspelled
  have hsteps : posixSteps ("/".intercalate names) = intoAll names := by
    rw [posixSteps_of_spelled (by rwa [hparts]), hparts]
  refine ⟨n, ⟨"/".intercalate names, "workspace://" ++ "" ++ "/" ++ "/".intercalate names, target⟩,
    ?_, rfl⟩
  rw [WorkspaceInspectionPathPolicy.resolve,
    (normalizeRelativePath_intercalate hne hspelled hopening).1]
  simp only [Except.bind, bind, hsteps, hn, hin, if_true]

theorem exists_free_name (tree : WorkspaceTree) : ∃ name, Spelled name ∧ Opening name ∧
    tree.links.get? (tree.root ++ [name]) = none := by
  let name : ℕ → String := fun n => String.ofList ('x' :: List.replicate n 'x')
  have hinjective : Function.Injective name := by
    intro n m hnm
    have hlength := congrArg (List.length ∘ String.toList) hnm
    simpa [name] using hlength
  have hhead : ∀ n s, s.toList.head? ≠ some 'x' → name n ≠ s := by
    rintro n _ hs rfl
    exact hs (by simp [name])
  obtain ⟨n, hn⟩ := exists_get?_eq_none tree.links tree.root hinjective
  refine ⟨name n, ⟨hhead n "" (by decide), hhead n "." (by decide), hhead n ".." (by decide), ?_⟩,
    ?_, hn⟩
  · intro char hchar
    have hmem : char = 'x' ∨ ¬n = 0 ∧ char = 'x' := by simpa [name] using hchar
    have hx : char = 'x' := hmem.elim id And.right
    rw [hx]
    decide
  · intro hmem
    have hx : ∀ s ∈ protectedWorkspaceMetadataDirNames, s.toList.head? ≠ some 'x' := by decide
    exact hhead n (name n) (hx _ hmem) rfl

theorem Sealed.resolve (h : tree.Sealed) {names : List String}
    (hspelled : ∀ name ∈ names, Spelled name) (hopening : ∀ name ∈ names.head?, Opening name)
    {target : List String} (hwalk : Walks tree.links tree.root (intoAll names) target)
    (hin : tree.root <+: target) {name : String} {place : List String}
    (hplace : tree.MetadataPlace name place) : ¬place <+: target := by
  intro hbelow
  rcases List.prefix_or_prefix_of_prefix hin hbelow with ⟨inner, rfl⟩ | habove
  on_goal 2 => exact h.apart name place hplace habove
  rcases walks_names_cases tree.root_real hspelled hopening hwalk with
    rfl | ⟨linked, rest, hlinked, hrest, rfl⟩
  · have hinner : inner <+: names := (List.prefix_append_right_inj tree.root).mp hbelow
    rcases h.closed name inner hplace with ⟨part, hpart, hnot⟩ | ⟨part, hpart, hnot⟩
    · exact hnot (hspelled part (hinner.subset hpart))
    · refine hnot (hopening part ?_)
      obtain ⟨others, rfl⟩ := hinner
      cases inner with
      | nil => cases hpart
      | cons first inner => exact hpart
  · obtain ⟨hnotLinked, hunspelled⟩ := h.unlinked name inner linked hplace hlinked
    rcases List.prefix_or_prefix_of_prefix hbelow (List.prefix_append linked rest) with
      hle | ⟨others, hothers⟩
    · exact hnotLinked hle
    · obtain ⟨part, hpart, hnot⟩ := hunspelled others hothers.symm
      rw [← hothers, List.prefix_append_right_inj] at hbelow
      exact hnot (hrest part (hbelow.subset hpart))

/-- **The guards agree exactly when the metadata directories are sealed off.** -/
theorem guardsAgree_iff : tree.GuardsAgree ↔ tree.Sealed := by
  constructor
  · intro h
    -- what the guards promise of a path of names
    have hnames : ∀ (names : List String) {target : List String}, names ≠ [] →
        (∀ name ∈ names, Spelled name) → (∀ name ∈ names.head?, Opening name) →
        Walks tree.links tree.root (intoAll names) target → tree.root <+: target →
          (∀ name ∈ protectedWorkspaceMetadataDirNames, ∃ place, tree.MetadataPlace name place) ∧
          ∀ name place, tree.MetadataPlace name place → ¬place <+: target := by
      intro names target hne hspelled hopening hwalk hin
      obtain ⟨n, ref, hpolicy, rfl⟩ := policy_resolve_of_walks hne hspelled hopening hwalk hin
      obtain ⟨hworkspace, -, hout⟩ := h "" _ n ref hpolicy
      have habsolute := (normalizeRelativePath_intercalate hne hspelled hopening).2
      refine ⟨fun name hname => ?_, hout⟩
      obtain ⟨place, hplace, -⟩ := ((resolve_iff habsolute).mp hworkspace).2.2 name hname
      exact ⟨place, hplace⟩
    obtain ⟨free, hspelled, hopening, hfree⟩ := exists_free_name tree
    obtain ⟨hresolves, hout⟩ := hnames [free] (by simp) (by simpa using hspelled)
      (by simpa using hopening) (.into hfree (.done _)) (List.prefix_append _ _)
    have hapart : ∀ name place, tree.MetadataPlace name place → ¬place <+: tree.root :=
      fun name place hplace hle => hout name place hplace (hle.trans (List.prefix_append _ _))
    refine ⟨hresolves, hapart, fun name inner hplace => ?_, fun name inner linked hplace
      hlinked => ?_⟩
    · by_contra hclosed
      simp only [not_or, not_exists, not_and, not_not] at hclosed
      have hne : inner ≠ [] := by
        rintro rfl
        exact hapart name _ hplace (by rw [List.append_nil])
      exact (hnames _ hne hclosed.1 hclosed.2 (walks_of_real _ hplace.real)
        (List.prefix_append _ _)).2 name _ hplace (List.prefix_refl _)
    · obtain ⟨names, hne, hspelled, hopening, hwalk⟩ := hlinked.reached
      refine ⟨fun hle => ?_, fun rest hrest => ?_⟩
      · exact (hnames _ hne hspelled hopening hwalk
          ((List.prefix_append _ _).trans hle)).2 name _ hplace hle
      · by_contra hclosed
        simp only [not_exists, not_and, not_not] at hclosed
        have hreal : Real tree.links (linked ++ rest) := hrest ▸ hplace.real
        have hall : intoAll (names ++ rest) = intoAll names ++ intoAll rest := List.map_append
        refine (hnames (names ++ rest) (by simp [hne]) ?_ ?_
          (hall ▸ hwalk.append (walks_of_real _ hreal)) (hrest ▸ List.prefix_append _ _)).2 name _
          hplace (hrest ▸ List.prefix_refl _)
        · intro part hpart
          rcases List.mem_append.mp hpart with hpart | hpart
          · exact hspelled part hpart
          · exact hclosed part hpart
        · rw [List.head?_append_of_ne_nil _ hne]
          exact hopening
  · intro h workspaceId rawPath n ref hpolicy
    obtain ⟨habsolute, hspelled, hopening, hwalk, hin⟩ := policy_resolve_ok hpolicy
    have hout : ∀ name place, tree.MetadataPlace name place → ¬place <+: ref.resolvedPath :=
      fun name place => h.resolve hspelled hopening hwalk hin
    refine ⟨(resolve_iff habsolute).mpr ⟨?_, hin, fun name hname => ?_⟩, hin, hout⟩
    · rwa [posixSteps_of_spelled hspelled]
    · obtain ⟨place, hplace⟩ := h.resolves name hname
      exact ⟨place, hplace, hout name place hplace⟩

/-- A workspace with a link `docs` to its metadata directory. -/
def linkedTree : WorkspaceTree where
  links := ⟨[(["workspace", "docs"], ⟨false, [.into ".plato"]⟩)], by decide⟩
  root := ["workspace"]
  root_real := by
    intro before name h
    rw [List.IsPrefix.eq_of_length_le h (by simp)]
    decide

/-- Through the link the policy leads to the session database, which the workspace denies. -/
theorem linked_metadata_reached :
    WorkspaceInspectionPathPolicy.resolve ⟨linkedTree, "w"⟩ 1 "docs/workspace.sqlite" =
      .ok ⟨"docs/workspace.sqlite", "workspace://w/docs/workspace.sqlite",
        ["workspace", ".plato", "workspace.sqlite"]⟩ ∧
    linkedTree.resolve 1 "docs/workspace.sqlite" =
      .error (.protectedMetadata "docs/workspace.sqlite") ∧
    ¬linkedTree.GuardsAgree := by
  have hpolicy : WorkspaceInspectionPathPolicy.resolve ⟨linkedTree, "w"⟩ 1 "docs/workspace.sqlite" =
      .ok ⟨"docs/workspace.sqlite", "workspace://w/docs/workspace.sqlite",
        ["workspace", ".plato", "workspace.sqlite"]⟩ := by decide +kernel
  have hplace : linkedTree.MetadataPlace ".plato" ["workspace", ".plato"] :=
    ⟨by decide, walks_iff.mpr ⟨1, by decide +kernel⟩⟩
  refine ⟨hpolicy, by decide +kernel, fun h => ?_⟩
  exact (h "w" _ 1 _ hpolicy).2.2 ".plato" _ hplace (by decide)

end WorkspaceTree

end Taskweavn
