import Taskweavn.Lib.Aligned
import Taskweavn.Workspace.GitQuote
import Taskweavn.Workspace.PathPolicy

/-!
# The entries of `git status`

`_parse_status_files` (`taskweavn/workspace_inspection/git_provider.py`) reads the lines of
`git status --porcelain=v1`.  It cuts a line at the first arrow, also where no file was renamed, and
takes both names apart from their quotes then.

`parseStatusFiles_iff` says for which entries the files are those of the entries: a name must be
ASCII, unless the file is left out, and the arrow may not stand in the first name of a line
(`Faithful`).
-/

namespace Taskweavn

open Lib Py

/-! ### Reading a line -/

inductive FileChangeKind
  | untracked
  | added
  | modified
  | deleted
  | renamed
  | copied
  | typeChanged
  | unknown
deriving DecidableEq

/-- `_change_kind` -/
def fileChangeKind (xStatus yStatus : Char) : FileChangeKind :=
  if xStatus = '?' ∧ yStatus = '?' then .untracked
  else
    match if xStatus ≠ ' ' then xStatus else yStatus with
    | 'A' => .added
    | 'M' => .modified
    | 'D' => .deleted
    | 'R' => .renamed
    | 'C' => .copied
    | 'T' => .typeChanged
    | _ => .unknown

inductive DisplayCategory
  | project
  | localTooling
  | systemNoise
deriving DecidableEq

/-- `relative_path.split("/", 1)[0]` -/
def firstSegment (path : List Char) : List Char := path.takeWhile fun c => c ≠ '/'

/-- `relative_path.rsplit("/", 1)[-1]` -/
def lastSegment (path : List Char) : List Char := path.rtakeWhile fun c => c ≠ '/'

def systemNoiseNames : List String := [".DS_Store", "Thumbs.db", "Desktop.ini"]

def displayCategoryForPath (relativePath : List Char) : DisplayCategory :=
  if String.ofList (lastSegment relativePath) ∈ systemNoiseNames then .systemNoise
  else if ".idea/".toList.isPrefixOf relativePath || ".vscode/".toList.isPrefixOf relativePath then
    .localTooling
  else .project

/-- An item of the answer. -/
structure StatusFile where
  relativePath : String
  pathLabel : String
  changeKind : FileChangeKind
  staged : Bool
  unstaged : Bool
  binary : Option Bool
  relatedTaskRefs : List String
  displayCategory : Option DisplayCategory
  oldRelativePath : Option String
  oldPathLabel : Option String
deriving DecidableEq

structure ParsedStatusFiles where
  files : List StatusFile
  suppressedLocalNoise : ℕ

inductive StatusLine
  | skipped
  | noise
  | file (item : StatusFile)

def StatusLine.files : StatusLine → List StatusFile
  | .file item => [item]
  | _ => []

def ParsedStatusFiles.add (parsed : ParsedStatusFiles) : StatusLine → ParsedStatusFiles
  | .skipped => parsed
  | .noise => { parsed with suppressedLocalNoise := parsed.suppressedLocalNoise + 1 }
  | .file item => { parsed with files := parsed.files ++ [item] }

def protectedPath (path : List Char) : Bool :=
  String.ofList (firstSegment path) ∈ protectedWorkspaceMetadataDirNames

section

variable (workspaceId : String)

/-- `workspace://…` -/
def workspaceLabel (path : List Char) : String :=
  "workspace://" ++ workspaceId ++ "/" ++ String.ofList path

def statusFile (xStatus yStatus : Char) (path : List Char) (oldPath : Option (List Char)) :
    StatusFile where
  relativePath := String.ofList path
  pathLabel := workspaceLabel workspaceId path
  changeKind := fileChangeKind xStatus yStatus
  staged := xStatus ∉ [' ', '?']
  unstaged := yStatus ∉ [' ', '?'] || xStatus = '?'
  binary := none
  relatedTaskRefs := []
  displayCategory :=
    if displayCategoryForPath path = .project then none else some (displayCategoryForPath path)
  oldRelativePath := oldPath.map String.ofList
  oldPathLabel := oldPath.map (workspaceLabel workspaceId)

variable (other : List Char → Option (List Char × ℕ))

/-- What is made of the names of a line, which may have been cut. -/
def readNames (xStatus yStatus : Char) (rawOld : Option (List Char)) (rawPath : List Char) :
    StatusLine :=
  let relativePath := unquoteGitPath other rawPath
  if protectedPath relativePath then .skipped
  else if displayCategoryForPath relativePath = .systemNoise then .noise
  else
    .file (statusFile workspaceId xStatus yStatus relativePath
      ((rawOld.filter fun old => old ≠ []).map (unquoteGitPath other)))

def readStatusLine : List Char → StatusLine
  | xStatus :: yStatus :: _ :: c :: rest =>
    match cutAt renameArrow (c :: rest) with
    | some (rawOld, rawPath) => readNames workspaceId other xStatus yStatus (some rawOld) rawPath
    | none => readNames workspaceId other xStatus yStatus none (c :: rest)
  | _ => .skipped

def parseStatusFiles (output : String) : ParsedStatusFiles :=
  (splitlines output).foldl (fun parsed line =>
    parsed.add (readStatusLine workspaceId other line.toList)) ⟨[], 0⟩

end

/-! ### Entries -/

/-- A letter of the code of an entry. -/
inductive StatusCode
  | unmodified
  | modified
  | typeChanged
  | added
  | deleted
  | renamed
  | copied
  | unmerged
  | untracked
  | ignored
deriving DecidableEq

def StatusCode.char : StatusCode → Char
  | .unmodified => ' '
  | .modified => 'M'
  | .typeChanged => 'T'
  | .added => 'A'
  | .deleted => 'D'
  | .renamed => 'R'
  | .copied => 'C'
  | .unmerged => 'U'
  | .untracked => '?'
  | .ignored => '!'

structure PathName where
  text : List Char
  ne_nil : text ≠ []
  nulFree : Char.ofNat 0 ∉ text

/-- An entry of `git status`: a renamed or copied file has an old name. -/
structure StatusEntry where
  x : StatusCode
  y : StatusCode
  path : PathName
  oldPath : Option PathName
  old_iff : oldPath.isSome ↔ x ∈ [.renamed, .copied] ∨ y ∈ [.renamed, .copied]

namespace StatusEntry

def firstName (e : StatusEntry) : List Char := (e.oldPath.getD e.path).text

def names (e : StatusEntry) : List Char :=
  match e.oldPath with
  | some old => quotePath old.text ++ renameArrow ++ quotePath e.path.text
  | none => quotePath e.path.text

def line (e : StatusEntry) : List Char := e.x.char :: e.y.char :: ' ' :: e.names

/-- The output of `git status`. -/
def render (entries : List StatusEntry) : String :=
  String.ofList (entries.flatMap fun e => e.line ++ ['\n'])

/-- A path that is left out of the answer. -/
def Hidden (path : List Char) : Prop :=
  protectedPath path = true ∨ displayCategoryForPath path = .systemNoise

instance (path : List Char) : Decidable (Hidden path) :=
  inferInstanceAs (Decidable (_ ∨ _))

def files (workspaceId : String) (e : StatusEntry) : List StatusFile :=
  if Hidden e.path.text then []
  else [statusFile workspaceId e.x.char e.y.char e.path.text (e.oldPath.map PathName.text)]

/-- The path that is read where the line is cut in its first name. -/
def misread (other : List Char → Option (List Char × ℕ)) (e : StatusEntry) : List Char :=
  unquoteGitPath other ((cutAt renameArrow e.names).elim [] Prod.snd)

/-- The entry is read as it was written. -/
structure Faithful (other : List Char → Option (List Char × ℕ)) (e : StatusEntry) : Prop where
  whole : ¬renameArrow <:+: e.firstName → Hidden e.path.text ∨
    (∀ c ∈ e.path.text, isAscii c = true) ∧ ∀ old ∈ e.oldPath, ∀ c ∈ old.text, isAscii c = true
  cut : renameArrow <:+: e.firstName → Hidden e.path.text ∧ Hidden (e.misread other)

end StatusEntry

/-! ### The lines -/

section

variable {workspaceId : String} {other : List Char → Option (List Char × ℕ)}

theorem files_parse (lines : List (List Char)) : ∀ parsed : ParsedStatusFiles,
    (lines.foldl (fun parsed line =>
      parsed.add (readStatusLine workspaceId other line)) parsed).files =
      parsed.files ++ lines.flatMap fun line => (readStatusLine workspaceId other line).files := by
  induction lines with
  | nil => intro parsed; exact (List.append_nil _).symm
  | cons line lines ih =>
    intro parsed
    rw [List.foldl_cons, ih, List.flatMap_cons, ← List.append_assoc]
    congr 1
    cases readStatusLine workspaceId other line with
    | skipped => exact (List.append_nil _).symm
    | noise => exact (List.append_nil _).symm
    | file item => rfl

theorem StatusCode.isEnd_char (code : StatusCode) : lineEnds.isEnd code.char = false := by
  cases code <;> decide

theorem StatusEntry.isEnd_line (e : StatusEntry) : ∀ c ∈ e.line, lineEnds.isEnd c = false := by
  have hname : ∀ path : List Char, ∀ c ∈ quotePath path, lineEnds.isEnd c =
    false := fun path c hc =>
    (printable_quotePath path c hc).isEnd
  have harrow : ∀ c ∈ renameArrow, lineEnds.isEnd c = false :=
    List.all_iff_forall_prop.mp (by decide)
  have hnames : ∀ c ∈ e.names, lineEnds.isEnd c = false := by
    intro c hc
    rw [names] at hc
    split at hc
    · rcases List.mem_append.mp hc with hc | hc
      · rcases List.mem_append.mp hc with hc | hc
        · exact hname _ c hc
        · exact harrow c hc
      · exact hname _ c hc
    · exact hname _ c hc
  intro c hc
  simp only [line, List.mem_cons] at hc
  rcases hc with rfl | rfl | rfl | hc
  · exact e.x.isEnd_char
  · exact e.y.isEnd_char
  · decide
  · exact hnames c hc

/-- **Every line is read for itself.** -/
theorem files_parseStatusFiles (entries : List StatusEntry) :
    (parseStatusFiles workspaceId other (StatusEntry.render entries)).files =
      entries.flatMap fun e => (readStatusLine workspaceId other e.line).files := by
  have hplain : lineEnds.Plain (entries.map StatusEntry.line) := by
    intro t ht
    obtain ⟨e, -, rfl⟩ := List.mem_map.mp ht
    exact e.isEnd_line
  have hlines : (splitlines (StatusEntry.render entries)).map String.toList =
      entries.map StatusEntry.line := by
    rw [splitlines, List.map_map, StatusEntry.render, String.toList_ofList,
      ← LineEnds.map_text_lines_plain hplain, List.flatMap_map]
    exact List.map_congr_left fun l _ => String.toList_ofList
  have hfold := @files_parse workspaceId other
    ((splitlines (StatusEntry.render entries)).map String.toList) ⟨[], 0⟩
  rw [List.foldl_map, List.nil_append] at hfold
  rw [parseStatusFiles, hfold, hlines, List.flatMap_map]

theorem StatusEntry.names_ne_nil (e : StatusEntry) : e.names ≠ [] := by
  rw [names]
  split
  · exact List.append_ne_nil_of_left_ne_nil
      (List.append_ne_nil_of_left_ne_nil (quotePath_ne_nil (PathName.ne_nil _)) _) _
  · exact quotePath_ne_nil e.path.ne_nil

theorem StatusEntry.readStatusLine_line (e : StatusEntry) :
    readStatusLine workspaceId other e.line =
      match cutAt renameArrow e.names with
      | some (rawOld, rawPath) =>
        readNames workspaceId other e.x.char e.y.char (some rawOld) rawPath
      | none => readNames workspaceId other e.x.char e.y.char none e.names := by
  obtain ⟨c, rest, hnames⟩ := List.exists_cons_of_ne_nil e.names_ne_nil
  rw [line, hnames]
  rfl

/-! ### Paths that are left out -/

theorem ofList_utf8Latin1_mem_iff {names : List String}
    (h : ∀ name ∈ names, name.toList.all isAscii = true) {text : List Char} :
    String.ofList (utf8Latin1 text) ∈ names ↔ String.ofList text ∈ names := by
  have hname :
      ∀ name ∈ names, String.ofList (utf8Latin1 text) = name ↔ String.ofList text = name := by
    intro name hname
    rw [← String.toList_inj, ← String.toList_inj, String.toList_ofList, String.toList_ofList,
      utf8Latin1_eq_iff (List.all_eq_true.mp (h name hname))]
  constructor
  · intro hmem
    exact (hname _ hmem).mp rfl ▸ hmem
  · intro hmem
    exact (hname _ hmem).mpr rfl ▸ hmem

theorem charLatin1_slash {c : Char} (h : c ≠ '/') : ∀ d ∈ charLatin1 c, d ≠ '/' := by
  intro d hd
  cases hascii : isAscii c with
  | true =>
    rw [charLatin1_of_isAscii hascii] at hd
    rw [List.mem_singleton.mp hd]
    exact h
  | false =>
    rintro rfl
    have hslash := isAscii_of_mem_charLatin1 hascii hd
    cases hslash

theorem firstSegment_utf8Latin1 (path : List Char) :
    firstSegment (utf8Latin1 path) = utf8Latin1 (firstSegment path) := by
  induction path with
  | nil => rfl
  | cons c path ih =>
    rw [utf8Latin1, List.flatMap_cons, ← utf8Latin1, firstSegment, firstSegment]
    by_cases hc : c = '/'
    · subst hc
      rfl
    · rw [List.takeWhile_append_of_pos fun d hd => decide_eq_true (charLatin1_slash hc d hd),
        List.takeWhile_cons_of_pos (p := fun c => c ≠ '/') (decide_eq_true hc), ← firstSegment, ih]
      rfl

theorem lastSegment_utf8Latin1 (path : List Char) :
    lastSegment (utf8Latin1 path) = utf8Latin1 (lastSegment path) := by
  induction path using List.reverseRecOn with
  | nil => rfl
  | append_singleton path c ih =>
    rw [utf8Latin1, List.flatMap_append, ← utf8Latin1, List.flatMap_singleton, lastSegment,
      lastSegment]
    by_cases hc : c = '/'
    · subst hc
      rw [show charLatin1 '/' = ['/'] from rfl, List.rtakeWhile_concat_neg _ _ _ (by simp),
        List.rtakeWhile_concat_neg _ _ _ (by simp)]
      rfl
    · have htake : (utf8Latin1 path ++ charLatin1 c).rtakeWhile (fun c => c ≠ '/') =
          (utf8Latin1 path).rtakeWhile (fun c => c ≠ '/') ++ charLatin1 c := by
        rw [List.rtakeWhile, List.reverse_append, List.takeWhile_append_of_pos fun d hd =>
          decide_eq_true (charLatin1_slash hc d (List.mem_reverse.mp hd)), List.reverse_append,
          List.reverse_reverse]
        rfl
      rw [htake, List.rtakeWhile_concat_pos (fun c => c ≠ '/') _ _ (decide_eq_true hc),
        ← lastSegment, ← lastSegment, ih,
        utf8Latin1, utf8Latin1, List.flatMap_append, List.flatMap_singleton]

theorem hidden_utf8Latin1 {path : List Char} :
    StatusEntry.Hidden (utf8Latin1 path) ↔ StatusEntry.Hidden path := by
  have hnoise : ∀ path : List Char, displayCategoryForPath path = .systemNoise ↔
      String.ofList (lastSegment path) ∈ systemNoiseNames := by
    intro path
    rw [displayCategoryForPath]
    split
    · next h => exact iff_of_true rfl h
    · next h =>
      refine iff_of_false ?_ h
      split <;> decide
  rw [StatusEntry.Hidden, StatusEntry.Hidden, hnoise, hnoise, protectedPath, protectedPath,
    decide_eq_true_iff, decide_eq_true_iff, firstSegment_utf8Latin1, lastSegment_utf8Latin1,
    ofList_utf8Latin1_mem_iff (by decide), ofList_utf8Latin1_mem_iff (by decide)]

/-! ### What a line gives -/

theorem files_readNames (xStatus yStatus : Char) (rawOld : Option (List Char))
    (rawPath : List Char) :
    (readNames workspaceId other xStatus yStatus rawOld rawPath).files =
      if StatusEntry.Hidden (unquoteGitPath other rawPath) then []
      else [statusFile workspaceId xStatus yStatus (unquoteGitPath other rawPath)
        ((rawOld.filter fun old => old ≠ []).map (unquoteGitPath other))] := by
  rw [readNames]
  by_cases hprotected : protectedPath (unquoteGitPath other rawPath) = true
  · have hhidden : StatusEntry.Hidden (unquoteGitPath other rawPath) := Or.inl hprotected
    rw [if_pos hprotected, if_pos hhidden]
    rfl
  · rw [if_neg hprotected]
    by_cases hnoise : displayCategoryForPath (unquoteGitPath other rawPath) = .systemNoise
    · have hhidden : StatusEntry.Hidden (unquoteGitPath other rawPath) := Or.inr hnoise
      rw [if_pos hnoise, if_pos hhidden]
      rfl
    · have hhidden : ¬StatusEntry.Hidden (unquoteGitPath other rawPath) :=
        not_or.mpr ⟨hprotected, hnoise⟩
      rw [if_neg hnoise, if_neg hhidden]
      rfl

theorem StatusEntry.files_readStatusLine {e : StatusEntry} (h : ¬renameArrow <:+: e.firstName) :
    (readStatusLine workspaceId other e.line).files =
      if Hidden e.path.text then []
      else [statusFile workspaceId e.x.char e.y.char (utf8Latin1 e.path.text)
        (e.oldPath.map fun old => utf8Latin1 old.text)] := by
  rw [e.readStatusLine_line]
  cases hold : e.oldPath with
  | none =>
    rw [firstName, hold] at h
    have hcut : cutAt renameArrow (quotePath e.path.text) = none :=
      (cutAt_eq_none_iff renameArrow_ne_nil).mpr fun hin => h (arrow_infix_quotePath.mp hin)
    have hnames : e.names = quotePath e.path.text := by
      rw [names, hold]
    rw [hnames, hcut]
    simp only [files_readNames, unquote_quotePath, hidden_utf8Latin1]
    rfl
  | some old =>
    rw [firstName, hold] at h
    have hnames : e.names = quotePath old.text ++ renameArrow ++ quotePath e.path.text := by
      rw [names, hold]
    have hfilter : (some (quotePath old.text)).filter (fun old => old ≠ []) =
        some (quotePath old.text) :=
      Option.filter_some_pos (decide_eq_true (quotePath_ne_nil old.ne_nil))
    rw [hnames, cutAt_quotePath (show ¬renameArrow <:+: old.text from h)]
    simp only [files_readNames, unquote_quotePath, hidden_utf8Latin1]
    rw [hfilter, Option.map_some, unquote_quotePath]
    rfl

theorem StatusEntry.files_readStatusLine_of_arrow {e : StatusEntry}
    (h : renameArrow <:+: e.firstName) :
    ∃ old, ¬renameArrow <:+: old ∧ (readStatusLine workspaceId other e.line).files =
      if Hidden (e.misread other) then []
      else [statusFile workspaceId e.x.char e.y.char (e.misread other) (some old)] := by
  obtain ⟨rest, hnames⟩ : ∃ rest, e.names = quotePath e.firstName ++ rest := by
    cases hold : e.oldPath with
    | none => exact ⟨[], by rw [names, firstName, hold, List.append_nil]; rfl⟩
    | some old =>
      exact ⟨renameArrow ++ quotePath e.path.text, by
        rw [names, firstName, hold, ← List.append_assoc]; rfl⟩
  obtain ⟨a, b, hcut, hne, hfree⟩ := cutAt_quotePath_of_arrow h other rest
  rw [← hnames] at hcut
  refine ⟨unquoteGitPath other a, hfree, ?_⟩
  have hmisread : e.misread other = unquoteGitPath other b := by
    rw [misread, hcut]
    rfl
  have hfilter : (some a).filter (fun old => old ≠ []) = some a :=
    Option.filter_some_pos (decide_eq_true hne)
  rw [e.readStatusLine_line, hcut, hmisread]
  simp only [files_readNames]
  rw [hfilter, Option.map_some]

/-! ### Items -/

theorem statusFile_inj {x y : Char} {path path' : List Char} {old old' : Option (List Char)} :
    statusFile workspaceId x y path old = statusFile workspaceId x y path' old' ↔
      path = path' ∧ old = old' := by
  constructor
  · intro h
    have hpath := String.ofList_injective (congrArg StatusFile.relativePath h)
    have hold := congrArg StatusFile.oldRelativePath h
    exact ⟨hpath, Option.map_injective (fun _ _ => String.ofList_injective) hold⟩
  · rintro ⟨rfl, rfl⟩
    rfl

/-- The item has an old path without an arrow. -/
def StatusFile.plainOld (item : StatusFile) : Bool :=
  item.oldRelativePath.any fun old => (cutAt renameArrow old.toList).isNone

theorem plainOld_statusFile {x y : Char} {path : List Char} {old : Option (List Char)} :
    (statusFile workspaceId x y path old).plainOld = true ↔
      ∃ o, old = some o ∧ ¬renameArrow <:+: o := by
  cases old with
  | none => exact iff_of_false Bool.false_ne_true (by simp)
  | some o =>
    show (cutAt renameArrow (String.ofList o).toList).isNone = true ↔ _
    rw [Option.isNone_iff_eq_none, cutAt_eq_none_iff renameArrow_ne_nil, String.toList_ofList]
    simp

namespace StatusEntry

theorem not_plainOld_of_arrow {e : StatusEntry} (h : renameArrow <:+: e.firstName) :
    ¬(statusFile workspaceId e.x.char e.y.char e.path.text
      (e.oldPath.map PathName.text)).plainOld = true := by
  rw [plainOld_statusFile]
  rintro ⟨o, ho, hnot⟩
  obtain ⟨name, hname, rfl⟩ := Option.map_eq_some_iff.mp ho
  rw [firstName, hname] at h
  exact hnot h

/-- Only a line that is cut in its first name gives an item that is not there, and that has an old
path without an arrow. -/
theorem partsDiffer (e : StatusEntry) : PartsDiffer StatusFile.plainOld
    (readStatusLine workspaceId other e.line).files (e.files workspaceId) := by
  rw [files]
  by_cases harrow : renameArrow <:+: e.firstName
  · obtain ⟨old, hfree, hread⟩ :=
      @files_readStatusLine_of_arrow workspaceId other e harrow
    rw [hread]
    refine .marked ?_ ?_
    · split
      · rfl
      · exact List.countP_cons_of_pos (plainOld_statusFile.mpr ⟨old, rfl, hfree⟩)
    · split
      · rfl
      · exact List.countP_cons_of_neg (not_plainOld_of_arrow harrow)
  · rw [files_readStatusLine harrow]
    split
    · exact .elements rfl rfl
    · refine .elements rfl ?_
      have hplain : (statusFile workspaceId e.x.char e.y.char (utf8Latin1 e.path.text)
          (e.oldPath.map fun old => utf8Latin1 old.text)).plainOld =
          (statusFile workspaceId e.x.char e.y.char e.path.text
            (e.oldPath.map PathName.text)).plainOld := by
        rw [Bool.eq_iff_iff, plainOld_statusFile, plainOld_statusFile]
        cases e.oldPath with
        | none => simp
        | some old => simp [arrow_infix_utf8Latin1]
      rw [List.countP_singleton, List.countP_singleton, hplain]

/-- **The item of an entry is read exactly if the entry is faithful.** -/
theorem files_eq_iff (e : StatusEntry) :
    (readStatusLine workspaceId other e.line).files = e.files workspaceId ↔ e.Faithful other := by
  rw [files]
  by_cases harrow : renameArrow <:+: e.firstName
  · have hfaithful : e.Faithful other ↔ Hidden e.path.text ∧ Hidden (e.misread other) :=
      ⟨fun h => h.cut harrow, fun h => ⟨fun hnot => absurd harrow hnot, fun _ => h⟩⟩
    obtain ⟨old, hfree, hread⟩ :=
      @files_readStatusLine_of_arrow workspaceId other e harrow
    have hread_plain : (statusFile workspaceId e.x.char e.y.char (e.misread other)
        (some old)).plainOld = true := plainOld_statusFile.mpr ⟨old, rfl, hfree⟩
    rw [hread, hfaithful]
    by_cases hpath : Hidden e.path.text
    · by_cases hmisread : Hidden (e.misread other)
      · simp [hpath, hmisread]
      · simp [hpath, hmisread]
    · by_cases hmisread : Hidden (e.misread other)
      · simp [hpath, hmisread]
      · rw [if_neg hpath, if_neg hmisread]
        refine iff_of_false (fun heq => ?_) fun h => hpath h.1
        rw [(List.cons.inj heq).1] at hread_plain
        exact not_plainOld_of_arrow harrow hread_plain
  · have hfaithful : e.Faithful other ↔ Hidden e.path.text ∨
        (∀ c ∈ e.path.text, isAscii c = true) ∧
          ∀ old ∈ e.oldPath, ∀ c ∈ old.text, isAscii c = true :=
      ⟨fun h => h.whole harrow, fun h => ⟨fun _ => h, fun hcut => absurd hcut harrow⟩⟩
    rw [files_readStatusLine harrow, hfaithful]
    by_cases hpath : Hidden e.path.text
    · rw [if_pos hpath, if_pos hpath]
      exact iff_of_true rfl (Or.inl hpath)
    · rw [if_neg hpath, if_neg hpath, or_iff_right hpath, List.cons.injEq, and_iff_left rfl,
        statusFile_inj, utf8Latin1_eq_self_iff]
      refine and_congr_right fun _ => ?_
      cases e.oldPath with
      | none => simp
      | some old => simp [utf8Latin1_eq_self_iff]

/-- **The files of the answer are those of the entries exactly if every entry is faithful.** -/
theorem parseStatusFiles_iff (workspaceId : String) (other : List Char → Option (List Char × ℕ))
    (entries : List StatusEntry) :
    (parseStatusFiles workspaceId other (render entries)).files =
        entries.flatMap (files workspaceId) ↔ ∀ e ∈ entries, e.Faithful other := by
  rw [files_parseStatusFiles, flatMap_eq_iff_of_marks fun e _ => e.partsDiffer]
  exact forall₂_congr fun e _ => e.files_eq_iff

end StatusEntry

end

/-- A backslash before a character that is no escape is left as it is. -/
def keptEscape (text : List Char) : Option (List Char × ℕ) :=
  text.head?.map fun c => (['\\', c], 1)

def untrackedEntry (path : PathName) : StatusEntry where
  x := .untracked
  y := .untracked
  path := path
  oldPath := none
  old_iff := iff_of_false Bool.false_ne_true (by decide)

/-- The file `é` is read as a file of another name. -/
theorem parseStatusFiles_accented :
    ((parseStatusFiles "w" keptEscape (StatusEntry.render
        [untrackedEntry ⟨['é'], List.cons_ne_nil _ _, by decide⟩])).files.map
        StatusFile.relativePath = ["Ã©"]) ∧
      (parseStatusFiles "w" keptEscape (StatusEntry.render
        [untrackedEntry ⟨['é'], List.cons_ne_nil _ _, by decide⟩])).files ≠
        [untrackedEntry ⟨['é'], List.cons_ne_nil _ _, by decide⟩].flatMap
        (StatusEntry.files "w") := by
  constructor
  · decide +kernel
  · decide +kernel

end Taskweavn
