import Taskweavn.Lib.Sections
import Taskweavn.Workspace.FileViews

/-!
# Hunks of a unified diff

`_parse_unified_diff_hunks` (`taskweavn/workspace_inspection/git_provider.py`) reads the lines of
`str.splitlines` one by one.  A line of the form of a hunk header begins a hunk; every other line
behind it is a line of the hunk, by its first character, but for those that begin with a backslash.
The lengths in the header are not looked at.

`parseUnifiedDiffHunks_eq` says this by the sections of the lines (`Lib.sections`).
-/

namespace Taskweavn

open Lib Py

/-- The decimal digits of Unicode and their values; of the ASCII characters these are `0` to `9`. -/
structure DecimalDigits where
  value : Char → Option ℕ
  ascii : ∀ c : Char, c.toNat < 128 →
    value c = if c.isDigit then some (c.toNat - '0'.toNat) else none

/-! ### The header of a hunk -/

/-- The groups of `_HUNK_RE`. -/
structure HunkMatch where
  oldStart : ℕ
  oldLines : Option ℕ
  newStart : ℕ
  newLines : Option ℕ
  header : List Char
deriving DecidableEq

/-- A text without a word in front, if it has that. -/
def afterWord : List Char → List Char → Option (List Char)
  | [], text => some text
  | _ :: _, [] => none
  | c :: word, d :: text => if c = d then afterWord word text else none

section

variable (D : DecimalDigits)

/-- `\d+`, read as a number. -/
def takeNumber (text : List Char) : Option (ℕ × List Char) :=
  let digits := text.takeWhile fun c => (D.value c).isSome
  if digits = [] then none
  else some (digits.foldl (fun n c => n * 10 + (D.value c).getD 0) 0, text.drop digits.length)

/-- `\d+(?:,\d+)?` -/
def takeRange (text : List Char) : Option (ℕ × Option ℕ × List Char) := do
  let (start, rest) ← takeNumber D text
  match rest with
  | ',' :: rest =>
    let (count, rest) ← takeNumber D rest
    return (start, some count, rest)
  | rest => return (start, none, rest)

/-- `_HUNK_RE.match`, for one line -/
def matchHunk (line : List Char) : Option HunkMatch := do
  let rest ← afterWord "@@ -".toList line
  let (oldStart, oldLines, rest) ← takeRange D rest
  let rest ← afterWord " +".toList rest
  let (newStart, newLines, rest) ← takeRange D rest
  let header ← afterWord " @@".toList rest
  return ⟨oldStart, oldLines, newStart, newLines, header⟩

/-! ### Scanning lines -/

def DiffLineKind.onOld (kind : DiffLineKind) : Bool := kind ≠ .add

def DiffLineKind.onNew (kind : DiffLineKind) : Bool := kind ≠ .delete

def lineKind (rawLine : List Char) : DiffLineKind :=
  if rawLine.head? = some '+' then .add
  else if rawLine.head? = some '-' then .delete
  else .context

def textValue (rawLine : List Char) : List Char :=
  if rawLine.head? ∈ [some ' ', some '+', some '-'] then rawLine.tail else rawLine

/-- A line of a hunk, with the numbers that the texts are at. -/
def diffLine (oldLine newLine : ℕ) (rawLine : List Char) : DiffLine where
  kind := lineKind rawLine
  oldLine := if (lineKind rawLine).onOld then some oldLine else none
  newLine := if (lineKind rawLine).onNew then some newLine else none
  text := String.ofList (textValue rawLine)

/-- The hunks so far, the last of which is the current one, and the numbers of the next line. -/
structure HunkScan where
  done : List DiffHunk
  current : Option DiffHunk
  oldLine : ℕ
  newLine : ℕ

def HunkScan.hunks (scan : HunkScan) : List DiffHunk := scan.done ++ scan.current.toList

def DiffHunk.append (hunk : DiffHunk) (line : DiffLine) : DiffHunk :=
  { hunk with lines := hunk.lines ++ [line] }

def DiffHunk.begin (index : ℕ) (m : HunkMatch) : DiffHunk where
  hunkId := "hunk-" ++ toString index
  oldStart := m.oldStart
  oldLines := m.oldLines.getD 1
  newStart := m.newStart
  newLines := m.newLines.getD 1
  header := strip (String.ofList m.header)
  lines := []

def scanLine (scan : HunkScan) (rawLine : List Char) : HunkScan :=
  match matchHunk D rawLine with
  | some m =>
    { done := scan.hunks
      current := some (DiffHunk.begin (scan.hunks.length + 1) m)
      oldLine := m.oldStart
      newLine := m.newStart }
  | none =>
    match scan.current with
    | none => scan
    | some hunk =>
      if rawLine.head? = some '\\' then scan
      else
        { scan with
          current := some (hunk.append (diffLine scan.oldLine scan.newLine rawLine))
          oldLine := scan.oldLine + (lineKind rawLine).onOld.toNat
          newLine := scan.newLine + (lineKind rawLine).onNew.toNat }

def parseUnifiedDiffHunks (text : String) : List DiffHunk :=
  ((splitlines text).foldl (fun scan line => scanLine D scan line.toList) ⟨[], none, 0, 0⟩).hunks

end

/-! ### Hunks as sections -/

def numberLines (oldLine newLine : ℕ) : List (List Char) → List DiffLine
  | [] => []
  | rawLine :: rest =>
    if rawLine.head? = some '\\' then numberLines oldLine newLine rest
    else
      diffLine oldLine newLine rawLine ::
        numberLines (oldLine + (lineKind rawLine).onOld.toNat)
          (newLine + (lineKind rawLine).onNew.toNat) rest

/-- The hunk of a section, by its place. -/
def hunkOf (entry : (HunkMatch × List (List Char)) × ℕ) : DiffHunk :=
  { DiffHunk.begin entry.2 entry.1.1 with
    lines := numberLines entry.1.1.oldStart entry.1.1.newStart entry.1.2 }

section

variable {D : DecimalDigits}

theorem scan_current (lines : List (List Char)) : ∀ (done : List DiffHunk) (hunk : DiffHunk)
    (oldLine newLine : ℕ),
    (lines.foldl (scanLine D) ⟨done, some hunk, oldLine, newLine⟩).hunks =
      done ++ { hunk with
        lines := hunk.lines ++ numberLines oldLine newLine (sections (matchHunk D) lines).1 } ::
          ((sections (matchHunk D) lines).2.zipIdx (done.length + 2)).map hunkOf := by
  induction lines with
  | nil =>
    intro done hunk oldLine newLine
    rw [List.foldl_nil, HunkScan.hunks, sections, numberLines, List.append_nil]
    rfl
  | cons rawLine lines ih =>
    intro done hunk oldLine newLine
    cases hm : matchHunk D rawLine with
    | some m =>
      have hstep : scanLine D ⟨done, some hunk, oldLine, newLine⟩ rawLine =
          ⟨done ++ [hunk], some (DiffHunk.begin (done.length + 2) m), m.oldStart, m.newStart⟩ := by
        rw [scanLine, hm]
        simp [HunkScan.hunks]
      rw [List.foldl_cons, hstep, ih, sections_cons_heading hm, numberLines, List.append_nil,
        List.append_assoc, List.zipIdx_cons, List.map_cons, List.length_append]
      rfl
    | none =>
      rw [List.foldl_cons, scanLine, hm, sections_cons_quiet hm, numberLines]
      by_cases hslash : rawLine.head? = some '\\'
      · simp only [hslash, if_true]
        exact ih done hunk oldLine newLine
      · simp only [hslash, if_false]
        rw [ih, DiffHunk.append, List.append_assoc, List.singleton_append]

theorem scan_start (lines : List (List Char)) :
    (lines.foldl (scanLine D) ⟨[], none, 0, 0⟩).hunks =
      ((sections (matchHunk D) lines).2.zipIdx 1).map hunkOf := by
  induction lines with
  | nil => rfl
  | cons rawLine lines ih =>
    cases hm : matchHunk D rawLine with
    | some m =>
      have hstep : scanLine D ⟨[], none, 0, 0⟩ rawLine =
          ⟨[], some (DiffHunk.begin 1 m), m.oldStart, m.newStart⟩ := by
        rw [scanLine, hm]
        rfl
      rw [List.foldl_cons, hstep, scan_current, sections_cons_heading hm]
      rfl
    | none =>
      rw [List.foldl_cons, scanLine, hm, sections_cons_quiet hm]
      exact ih

/-- **A hunk for each line that is a header, with the numbered lines behind it.** -/
theorem parseUnifiedDiffHunks_eq (text : String) :
    parseUnifiedDiffHunks D text =
      ((sections (matchHunk D) ((splitlines text).map String.toList)).2.zipIdx 1).map hunkOf := by
  rw [parseUnifiedDiffHunks, ← scan_start, List.foldl_map]

end

/-! ### Numbering lines -/

/-- The lines that are no remarks. -/
def shownLines (rawLines : List (List Char)) : List (List Char) :=
  rawLines.filter fun rawLine => rawLine.head? ≠ some '\\'

theorem numberLines_shownLines (rawLines : List (List Char)) : ∀ oldLine newLine,
    numberLines oldLine newLine (shownLines rawLines) = numberLines oldLine newLine rawLines := by
  induction rawLines with
  | nil => intro oldLine newLine; rfl
  | cons rawLine rawLines ih =>
    intro oldLine newLine
    by_cases hslash : rawLine.head? = some '\\'
    · rw [shownLines, List.filter_cons_of_neg (by simp [hslash]), numberLines, if_pos hslash]
      exact ih oldLine newLine
    · rw [shownLines, List.filter_cons_of_pos (by simp [hslash]), numberLines, numberLines,
        if_neg hslash, if_neg hslash]
      exact congrArg _ (ih _ _)

theorem countP_numberLines (p : DiffLineKind → Bool) (rawLines : List (List Char)) :
    ∀ oldLine newLine, (numberLines oldLine newLine rawLines).countP (fun line => p line.kind) =
      (shownLines rawLines).countP fun rawLine => p (lineKind rawLine) := by
  induction rawLines with
  | nil => intro oldLine newLine; rfl
  | cons rawLine rawLines ih =>
    intro oldLine newLine
    by_cases hslash : rawLine.head? = some '\\'
    · rw [shownLines, List.filter_cons_of_neg (by simp [hslash]), numberLines, if_pos hslash]
      exact ih oldLine newLine
    · rw [shownLines, List.filter_cons_of_pos (by simp [hslash]), numberLines, if_neg hslash,
        List.countP_cons, List.countP_cons, ih]
      rfl

theorem filterMap_numberLines (rawLines : List (List Char)) : ∀ oldLine newLine,
    (numberLines oldLine newLine rawLines).filterMap DiffLine.oldLine =
        List.range' oldLine
          ((numberLines oldLine newLine rawLines).countP fun line => line.kind.onOld) ∧
      (numberLines oldLine newLine rawLines).filterMap DiffLine.newLine =
        List.range' newLine
          ((numberLines oldLine newLine rawLines).countP fun line => line.kind.onNew) := by
  induction rawLines with
  | nil => intro oldLine newLine; exact ⟨rfl, rfl⟩
  | cons rawLine rawLines ih =>
    intro oldLine newLine
    rw [numberLines]
    split
    · exact ih oldLine newLine
    · rw [List.filterMap_cons, List.filterMap_cons, List.countP_cons, List.countP_cons,
        (ih _ _).1, (ih _ _).2]
      cases hold : (lineKind rawLine).onOld <;> cases hnew : (lineKind rawLine).onNew <;>
        simp [diffLine, hold, hnew, List.range'_succ]

theorem DiffLineKind.onOld_or_onNew (kind : DiffLineKind) :
    kind.onOld = true ∨ kind.onNew = true := by
  cases kind <;> decide

end Taskweavn
