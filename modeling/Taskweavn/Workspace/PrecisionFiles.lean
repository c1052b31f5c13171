import Taskweavn.Py.SplitLines

/-!
# Precision file operations

`PrecisionFileService` (`taskweavn/workspace_inspection/precision_files.py`) reads a range of the
lines of a text file, replaces a range and appends.  A file that it can read is valid UTF-8, so its
content is a `String`, and two contents are equal byte for byte exactly if they are equal.  The path
has been resolved, and the evidence and the operation are recorded elsewhere.

The lines are those of `str.splitlines` (`Py.lineEnds`), which cuts at more characters than the
three newlines that `_dominant_newline` counts and `_join_lines` writes.
-/

namespace Taskweavn

open Lib Py

/-! ### Limits, ranges and answers -/

/-- The limits that the operations read. -/
structure WorkspaceInspectionLimits where
  fileDefaultLineCount : ℕ := 200
  fileHardLineCount : ℕ := 1000
  fileTextPayloadBytes : ℕ := 256 * 1024
  readableTextFileBytes : ℕ := 1024 * 1024
  singleLineBytes : ℕ := 8 * 1024
  precisionWriteMaxReplacementBytes : ℕ := 256 * 1024
  precisionWriteMaxAppendBytes : ℕ := 128 * 1024
deriving DecidableEq

def WorkspaceInspectionLimits.lineCountLimit (limits : WorkspaceInspectionLimits)
    (requested : Option ℤ) : ℕ :=
  (max 1 (min (requested.getD limits.fileDefaultLineCount) limits.fileHardLineCount)).toNat

inductive PrecisionFileError
  /-- file is too large -/
  | fileTooLarge
  /-- binary files are unsupported -/
  | binary
  /-- replacement text is too large -/
  | replacementTooLarge
  /-- line range exceeds file length -/
  | exceedsLength
  /-- append content is required -/
  | contentRequired
  /-- append content is too large -/
  | contentTooLarge
  /-- workspace.file_drift -/
  | drift
deriving DecidableEq

structure WorkspaceLineRange where
  startLine : ℕ
  endLine : ℕ
  start_pos : 1 ≤ startLine
  ordered : startLine ≤ endLine
deriving DecidableEq

structure LineContract where
  lineNumber : ℕ
  text : String
  truncated : Bool
deriving DecidableEq

/-- What a change answers. -/
structure MutationResponse where
  changedLineRanges : List WorkspaceLineRange
  beforeHash : String
  afterHash : String
  bytesWritten : ℕ
deriving DecidableEq

/-! ### Texts and lines -/

namespace PrecisionFiles

def splitLines (text : String) : List String := if text = "" then [] else splitlines text

def joinLines (lines : List String) (newline : String) (endsWithNewline : Bool) : String :=
  let text := newline.intercalate lines
  if endsWithNewline ∧ text ≠ "" then text ++ newline else text

def dominantNewline (text : String) : String :=
  let crlf := countPair '\r' '\n' text.toList
  let bareLf := (replacePair '\r' '\n' [] text.toList).count '\n'
  let bareCr := (replacePair '\r' '\n' [] text.toList).count '\r'
  if bareLf ≤ crlf ∧ bareCr ≤ crlf ∧ 0 < crlf then "\r\n"
  else if bareLf < bareCr then "\r"
  else "\n"

def normalizeNewlines (text newline : String) : String :=
  String.ofList <|
    ((replacePair '\r' '\n' ['\n'] text.toList).map fun c => if c = '\r' then '\n' else c).flatMap
      fun c => if c = '\n' then newline.toList else [c]

/-- `text.endswith(("\n", "\r"))` -/
def endsWithNewline (text : String) : Bool :=
  text.toList.getLast? = some '\n' || text.toList.getLast? = some '\r'

def looksBinary (text : String) : Bool := (text.toUTF8.data.toList.take 4096).contains 0

def readTextBytes (limits : WorkspaceInspectionLimits) (file : String) :
    Except PrecisionFileError String :=
  if limits.readableTextFileBytes < file.utf8ByteSize then .error .fileTooLarge
  else if looksBinary file then .error .binary
  else .ok file

def lineContract (singleLineBytes lineNumber : ℕ) (text : String) : LineContract :=
  if text.utf8ByteSize ≤ singleLineBytes then ⟨lineNumber, text, false⟩
  else ⟨lineNumber, String.ofList (takeBytes singleLineBytes text.toList), true⟩

/-! ### Operations -/

/-- The lines that `read_range` selects. -/
def selectLines (limits : WorkspaceInspectionLimits) (text : String) (startLine : ℕ)
    (lineCount : Option ℤ) : List LineContract :=
  let endLine := startLine + limits.lineCountLimit lineCount - 1
  ((splitLines text).zipIdx.filter fun (_, index) =>
    startLine ≤ index + 1 ∧ index + 1 ≤ endLine).map fun (line, index) =>
      lineContract limits.singleLineBytes (index + 1) line

section

variable (limits : WorkspaceInspectionLimits) (hash : String → String)

def replacementLines (replacementText : String) : List String :=
  splitLines (normalizeNewlines replacementText "\n")

def newLines (text : String) (lineRange : WorkspaceLineRange) (replacementText : String) :
    List String :=
  (splitLines text).take (lineRange.startLine - 1) ++ replacementLines replacementText ++
    (splitLines text).drop lineRange.endLine

def replacedRange (lineRange : WorkspaceLineRange) (replacementText : String) :
    WorkspaceLineRange where
  startLine := lineRange.startLine
  endLine := max lineRange.startLine
    (lineRange.startLine + (replacementLines replacementText).length - 1)
  start_pos := lineRange.start_pos
  ordered := le_max_left _ _

/-- `_replace_range_once`, with the new content of the file. -/
def replaceRangeOnce (file : String) (lineRange : WorkspaceLineRange)
    (replacementText expectedContentHash : String) :
    Except PrecisionFileError (MutationResponse × String) :=
  if limits.precisionWriteMaxReplacementBytes < replacementText.utf8ByteSize then
    .error .replacementTooLarge
  else do
    let text ← readTextBytes limits file
    if hash text ≠ expectedContentHash then .error .drift
    else if (splitLines text).length < lineRange.endLine then .error .exceedsLength
    else
      let newText := joinLines (newLines text lineRange replacementText) (dominantNewline text)
        (endsWithNewline text)
      return ({
        changedLineRanges := [replacedRange lineRange replacementText]
        beforeHash := hash text
        afterHash := hash newText
        bytesWritten := newText.utf8ByteSize }, newText)

/-- What is written before the content that is appended. -/
def appendPrefix (text : String) (ensureTrailingNewline : Bool) : String :=
  if ensureTrailingNewline ∧ text ≠ "" ∧ !endsWithNewline text then dominantNewline text else ""

def appendedRange (text normalizedContent : String) : WorkspaceLineRange where
  startLine := (splitLines text).length + 1
  endLine := (splitLines text).length + max 1 (splitLines normalizedContent).length
  start_pos := Nat.le_add_left 1 _
  ordered := Nat.add_le_add_left (le_max_left 1 _) _

/-- `_append_once`, with the new content of the file. -/
def appendOnce (file content expectedContentHash : String) (ensureTrailingNewline : Bool) :
    Except PrecisionFileError (MutationResponse × String) :=
  if content = "" then .error .contentRequired
  else if limits.precisionWriteMaxAppendBytes < content.utf8ByteSize then .error .contentTooLarge
  else do
    let text ← readTextBytes limits file
    if hash text ≠ expectedContentHash then .error .drift
    else
      let normalizedContent := normalizeNewlines content (dominantNewline text)
      let newText := text ++ (appendPrefix text ensureTrailingNewline ++ normalizedContent)
      return ({
        changedLineRanges := [appendedRange text normalizedContent]
        beforeHash := hash text
        afterHash := hash newText
        bytesWritten := newText.utf8ByteSize }, newText)

end

end PrecisionFiles

end Taskweavn
