import Mathlib.Data.List.Infix
import Taskweavn.Lib.Links
import Taskweavn.Py.Model
import Taskweavn.Py.Text

/-!
# The path guards of a workspace

Two guards stand before the files of a workspace.  `WorkspaceInspectionPathPolicy`
(`taskweavn/workspace_inspection/path_policy.py`) is asked by inspection reads and by the
precision file tools, `Workspace` (`taskweavn/tools/workspace.py`) by the other file tools of
an agent.  Both resolve a path within the root, links included; the first looks at the
spelling of a path for the metadata directories, the second at the place to which it
resolves.

Resolving follows at most as many links as it is given; with too few of them, or with links in a
circle, it raises.
-/

namespace Taskweavn

open Lib Py

def protectedWorkspaceMetadataDirNames : List String := [".plato", ".taskweavn", ".code-agent"]

/-- The directories: which places are links, and the root, which is resolved. -/
structure WorkspaceTree where
  links : Links String
  root : List String
  root_real : Real links root

/-! ### Paths -/

/-- `PurePosixPath(raw).is_absolute()` -/
def isAbsolutePath (raw : String) : Bool := raw.toList.head? == some '/'

/-- The parts of `PurePosixPath(raw)`, without its root. -/
def posixParts (raw : String) : List String :=
  ((raw.toList.splitOn '/').map String.ofList).filter fun part => part != "" && part != "."

/-- The steps of these parts. -/
def posixSteps (raw : String) : List (PathStep String) :=
  (posixParts raw).map fun part => if part = ".." then .up else .into part

inductive WorkspacePathError
  /-- `WorkspaceInspectionPathError` -/
  | inspection (message : String)
  /-- `PathOutsideWorkspaceError` -/
  | outsideWorkspace (path : String) (candidate root : List String)
  /-- `PathProtectedWorkspaceError` -/
  | protectedMetadata (path : String)
  /-- `RuntimeError` -/
  | symlinkLoop
deriving DecidableEq

/-! ### The inspection policy -/

structure WorkspacePathRef where
  relativePath : String
  pathLabel : String
  resolvedPath : List String
deriving DecidableEq

def normalizeRelativePath (rawPath : String) : Except WorkspacePathError String :=
  if rawPath.toList.any fun char => char.toNat < 32 then
    .error (.inspection "path contains control characters")
  else if '\\' ∈ rawPath.toList then .error (.inspection "path must use POSIX separators")
  else if isAbsolutePath rawPath then .error (.inspection "absolute paths are not allowed")
  else
    match posixParts rawPath with
    | [] => .error (.inspection "path is required")
    | first :: rest =>
      if ".." ∈ first :: rest then .error (.inspection "path traversal is not allowed")
      else if first ∈ protectedWorkspaceMetadataDirNames then
        .error (.inspection "workspace metadata is protected")
      else .ok ("/".intercalate (first :: rest))

structure WorkspaceInspectionPathPolicy where
  tree : WorkspaceTree
  workspaceId : String

/-- `WorkspaceInspectionPathPolicy.resolve` -/
def WorkspaceInspectionPathPolicy.resolve (policy : WorkspaceInspectionPathPolicy) (maxLinks : ℕ)
    (rawPath : String) : Except WorkspacePathError WorkspacePathRef := do
  let relativePath ← normalizeRelativePath rawPath
  match walk policy.tree.links maxLinks []
    (intoAll policy.tree.root ++ posixSteps relativePath) with
  | none => .error .symlinkLoop
  | some target =>
    if policy.tree.root <+: target then
      .ok ⟨relativePath, "workspace://" ++ policy.workspaceId ++ "/" ++ relativePath, target⟩
    else .error (.inspection "path resolves outside workspace")

/-! ### The workspace -/

namespace WorkspaceTree

variable (tree : WorkspaceTree)

/-- The loop of `is_protected_path` over the names. -/
def anyProtected (maxLinks : ℕ) (candidate : List String) : List String → Option Bool
  | [] => some false
  | name :: names =>
    match walk tree.links maxLinks [] (intoAll (tree.root ++ [name])) with
    | none => none
    | some protectedRoot =>
      if protectedRoot <+: candidate then some true else anyProtected maxLinks candidate names

/-- `Workspace.is_protected_path`, of an absolute path. -/
def isProtectedPath (maxLinks : ℕ) (path : List String) : Option Bool :=
  (walk tree.links maxLinks [] (intoAll path)).bind fun candidate =>
    tree.anyProtected maxLinks candidate protectedWorkspaceMetadataDirNames

/-- `Workspace.resolve` -/
def resolve (maxLinks : ℕ) (path : String) : Except WorkspacePathError (List String) :=
  let steps :=
    if isAbsolutePath path then posixSteps path else intoAll tree.root ++ posixSteps path
  match walk tree.links maxLinks [] steps with
  | none => .error .symlinkLoop
  | some candidate =>
    if tree.root <+: candidate then
      match tree.isProtectedPath maxLinks candidate with
      | none => .error .symlinkLoop
      | some true => .error (.protectedMetadata path)
      | some false => .ok candidate
    else .error (.outsideWorkspace path candidate tree.root)

end WorkspaceTree

/-! ### Spelling -/

/-- A name that can be spelled in a relative path of the policy. -/
def Spelled (name : String) : Prop :=
  name ≠ "" ∧ name ≠ "." ∧ name ≠ ".." ∧
    ∀ char ∈ name.toList, char ≠ '/' ∧ char ≠ '\\' ∧ 32 ≤ char.toNat

/-- A name at which a path of the policy may start. -/
def Opening (name : String) : Prop := name ∉ protectedWorkspaceMetadataDirNames

theorem mem_splitOn {α : Type*} [DecidableEq α] {a : α} : ∀ {l part : List α},
    part ∈ l.splitOn a → ∀ x ∈ part, x ∈ l ∧ x ≠ a := by
  intro l
  induction l with
  | nil =>
    intro part hpart
    rw [List.splitOn_nil, List.mem_singleton] at hpart
    rw [hpart]
    intro x hx
    cases hx
  | cons b l ih =>
    intro part hpart x hx
    rw [List.splitOn_cons_eq_if_modifyHead] at hpart
    split at hpart
    · rcases List.mem_cons.mp hpart with rfl | hpart
      · cases hx
      · exact ⟨List.mem_cons_of_mem _ (ih hpart x hx).1, (ih hpart x hx).2⟩
    · next hb =>
      cases hsplit : l.splitOn a with
      | nil => exact absurd hsplit (List.splitOn_ne_nil a l)
      | cons head tail =>
        rw [hsplit, List.modifyHead_cons] at hpart
        rcases List.mem_cons.mp hpart with rfl | hpart
        · rcases List.mem_cons.mp hx with rfl | hx
          · exact ⟨List.mem_cons_self, by simpa using hb⟩
          · have hmem := ih (hsplit ▸ List.mem_cons_self) x hx
            exact ⟨List.mem_cons_of_mem _ hmem.1, hmem.2⟩
        · have hmem := ih (hsplit ▸ List.mem_cons_of_mem _ hpart) x hx
          exact ⟨List.mem_cons_of_mem _ hmem.1, hmem.2⟩

theorem posixParts_intercalate {names : List String} (hne : names ≠ [])
    (h : ∀ name ∈ names, Spelled name) : posixParts ("/".intercalate names) = names := by
  have hsplit : ("/".intercalate names).toList.splitOn '/' = names.map String.toList := by
    rw [String.toList_intercalate]
    refine List.splitOn_intercalate _ ?_ (by simpa using hne)
    intro l hl hmem
    obtain ⟨name, hname, rfl⟩ := List.mem_map.mp hl
    exact ((h name hname).2.2.2 '/' hmem).1 rfl
  have hmap : (names.map String.toList).map String.ofList = names := by
    rw [List.map_map]
    simp
  rw [posixParts, hsplit, hmap, List.filter_eq_self]
  intro name hname
  simp [(h name hname).1, (h name hname).2.1]

theorem posixSteps_of_spelled {raw : String} (h : ∀ name ∈ posixParts raw, Spelled name) :
    posixSteps raw = intoAll (posixParts raw) := by
  refine List.map_congr_left fun name hname => ?_
  rw [if_neg (h name hname).2.2.1]

theorem mem_intercalate {char : Char} {names : List String}
    (h : char ∈ ("/".intercalate names).toList) : char = '/' ∨ ∃ name ∈ names, char ∈
    name.toList := by
  rw [String.toList_intercalate] at h
  rcases mem_of_mem_intercalate h with h | ⟨w, hw, hchar⟩
  · exact .inl (List.mem_singleton.mp h)
  · obtain ⟨name, hname, rfl⟩ := List.mem_map.mp hw
    exact .inr ⟨name, hname, hchar⟩

/-- **What the policy takes for a path**: the join of spelled names of which the first is no
metadata directory. -/
theorem normalizeRelativePath_ok {raw relative : String}
    (h : normalizeRelativePath raw = .ok relative) : isAbsolutePath raw = false ∧
      posixParts raw ≠ [] ∧ (∀ name ∈ posixParts raw, Spelled name) ∧
      (∀ name ∈ (posixParts raw).head?, Opening name) ∧
      relative = "/".intercalate (posixParts raw) := by
  rw [normalizeRelativePath] at h
  split at h
  · cases h
  next hcontrol =>
  split at h
  · cases h
  next hseparator =>
  split at h
  · cases h
  next habsolute =>
  split at h
  · cases h
  next first rest hparts =>
  split at h
  · cases h
  next hup =>
  split at h
  · cases h
  next hfirst =>
  cases h
  refine ⟨by simpa using habsolute, by simp [hparts], fun name hname => ?_, ?_, by rw [hparts]⟩
  · obtain ⟨hmem, hkept⟩ := List.mem_filter.mp hname
    obtain ⟨chars, hchars, rfl⟩ := List.mem_map.mp hmem
    have hdots : String.ofList chars ≠ ".." := fun heq => hup (hparts ▸ heq ▸ hname)
    refine ⟨by simp_all, by simp_all, hdots, fun char hchar => ?_⟩
    rw [String.toList_ofList] at hchar
    obtain ⟨hraw, hslash⟩ := mem_splitOn hchars char hchar
    refine ⟨hslash, fun heq => hseparator (heq ▸ hraw), ?_⟩
    by_contra hlow
    exact hcontrol (List.any_eq_true.mpr ⟨char, hraw, by simpa using hlow⟩)
  · rw [hparts]
    intro name hname
    cases hname
    exact hfirst

theorem normalizeRelativePath_intercalate {names : List String} (hne : names ≠ [])
    (hspelled : ∀ name ∈ names, Spelled name) (hopening : ∀ name ∈ names.head?, Opening name) :
    normalizeRelativePath ("/".intercalate names) = .ok ("/".intercalate names) ∧
      isAbsolutePath ("/".intercalate names) = false := by
  have hchars : ∀ char ∈ ("/".intercalate names).toList, char ≠ '\\' ∧ 32 ≤ char.toNat := by
    intro char hchar
    rcases mem_intercalate hchar with rfl | ⟨name, hname, hchar⟩
    · decide
    · exact ((hspelled name hname).2.2.2 char hchar).2
  have habsolute : isAbsolutePath ("/".intercalate names) = false := by
    cases names with
    | nil => exact absurd rfl hne
    | cons name names =>
      have hname := hspelled name List.mem_cons_self
      cases hlist : name.toList with
      | nil => exact absurd (String.toList_eq_nil_iff.mp hlist) hname.1
      | cons char chars =>
        have hslash := (hname.2.2.2 char (hlist ▸ List.mem_cons_self)).1
        have hhead : ("/".intercalate (name :: names)).toList.head? = some char := by
          by_cases hnames : names = []
          · rw [hnames, String.intercalate_singleton, hlist, List.head?_cons]
          · rw [String.intercalate_cons_of_ne_nil hnames, String.toList_append,
              String.toList_append, hlist, List.cons_append, List.cons_append, List.head?_cons]
        rw [isAbsolutePath, hhead]
        simpa using hslash
  refine ⟨?_, habsolute⟩
  have hcontrol : ¬ ("/".intercalate names).toList.any (fun char => char.toNat < 32) = true := by
    intro hany
    obtain ⟨char, hchar, hlow⟩ := List.any_eq_true.mp hany
    have := (hchars char hchar).2
    simp at hlow
    omega
  have hseparator : '\\' ∉ ("/".intercalate names).toList := fun hmem => (hchars _ hmem).1 rfl
  rw [normalizeRelativePath, if_neg hcontrol, if_neg hseparator, habsolute,
    posixParts_intercalate hne hspelled]
  cases names with
  | nil => exact absurd rfl hne
  | cons name names =>
    have hup : ".." ∉ name :: names := fun hmem => (hspelled _ hmem).2.2.1 rfl
    have hname : name ∉ protectedWorkspaceMetadataDirNames := hopening name rfl
    simp [hup, hname]

end Taskweavn
