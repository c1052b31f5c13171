import Taskweavn.Lib.Budget
import Taskweavn.Workspace.PathPolicy
import Taskweavn.Workspace.PrecisionFiles

/-!
# Bounded views of a file

`file_content` and `_untracked_file_diff` (`taskweavn/workspace_inspection/git_provider.py`) show
the lines of a text file within limits: so many lines, so many bytes of a line, so many bytes
together. The limits are numbers of lines and bytes; the request may ask for any line, and line 1 is
the first that there is.

`HonestView` says that what is shown are the first of the lines that were asked for, each cut at a
character, and that `truncated` is down exactly if they are all there, whole.
-/

namespace Taskweavn

open Lib Py

/-! ### Answers -/

inductive PathTarget
  | missing
  | directory
  | file (data : ByteArray)

inductive UnavailableReason
  | fileMissing
  | directory
  | tooLarge
  | binary
  | unsupportedEncoding
deriving DecidableEq

inductive FileKind
  | text
  | binary
  | directory
  | missing
  | unsupported
deriving DecidableEq

/-- `_warning` -/
structure InspectionWarning where
  code : String
  message : String
  pathLabel : Option String
deriving DecidableEq

structure FileLine where
  lineNumber : ℕ
  text : String
deriving DecidableEq

/-- What `file_content` answers; the hash is that of the bytes. -/
structure FileContent where
  file : WorkspacePathRef
  fileExists : Bool
  fileKind : FileKind
  sizeBytes : Option ℕ
  encoding : Option String
  startLine : ℕ
  endLine : ℕ
  totalLines : Option ℕ
  truncated : Bool
  lines : List FileLine
  contentHash : Option String
  unavailableReason : Option UnavailableReason
  warnings : List InspectionWarning
deriving DecidableEq

inductive DiffLineKind
  | context
  | add
  | delete
deriving DecidableEq

structure DiffLine where
  kind : DiffLineKind
  oldLine : Option ℕ
  newLine : Option ℕ
  text : String
deriving DecidableEq

structure DiffHunk where
  hunkId : String
  oldStart : ℕ
  oldLines : ℕ
  newStart : ℕ
  newLines : ℕ
  header : String
  lines : List DiffLine
deriving DecidableEq

/-- What `diff` answers. -/
structure WorkspaceDiff where
  file : WorkspacePathRef
  changeKind : String
  binary : Bool
  base : String
  isAvailable : Bool
  unavailableReason : Option UnavailableReason
  hunks : List DiffHunk
  additions : ℕ
  deletions : ℕ
  hunkCount : ℕ
  truncated : Bool
  contentHash : Option String
  warnings : List InspectionWarning
deriving DecidableEq

namespace FileViews

def unavailableFile (pathRef : WorkspacePathRef) (fileKind : FileKind) (reason : UnavailableReason)
    (fileExists : Bool) (sizeBytes : Option ℕ)
    (warnings : List InspectionWarning) : FileContent where
  file := pathRef
  fileExists := fileExists
  fileKind := fileKind
  sizeBytes := sizeBytes
  encoding := none
  startLine := 1
  endLine := 0
  totalLines := none
  truncated := false
  lines := []
  contentHash := none
  unavailableReason := some reason
  warnings := warnings

def unavailableDiff (pathRef : WorkspacePathRef) (reason : UnavailableReason) (binary : Bool)
    (warnings : List InspectionWarning) : WorkspaceDiff where
  file := pathRef
  changeKind := "unknown"
  binary := binary
  base := "head"
  isAvailable := false
  unavailableReason := some reason
  hunks := []
  additions := 0
  deletions := 0
  hunkCount := 0
  truncated := false
  contentHash := none
  warnings := warnings

/-! ### Reading -/

def looksBinaryBytes (data : ByteArray) : Bool := (data.data.toList.take 4096).contains 0

def truncateTextBytes (value : String) (limit : ℕ) : String × Bool :=
  if value.utf8ByteSize ≤ limit then (value, false)
  else (String.ofList (takeBytes limit value.toList), true)

theorem utf8ByteSize_ofList_takeBytes (text : List Char) : ∀ limit,
    (String.ofList (takeBytes limit text)).utf8ByteSize ≤ limit := by
  induction text with
  | nil => intro limit; exact Nat.zero_le _
  | cons c text ih =>
    intro limit
    rw [takeBytes]
    split
    · next hc =>
      have hrest := ih (limit - c.utf8Size)
      rw [String.ofList_cons, String.utf8ByteSize_append, String.utf8ByteSize_singleton]
      omega
    · exact Nat.zero_le _

theorem takeBytes_isPrefix (text : List Char) : ∀ limit, takeBytes limit text <+: text := by
  induction text with
  | nil => intro limit; exact List.prefix_refl _
  | cons c text ih =>
    intro limit
    rw [takeBytes]
    split
    · exact (List.prefix_cons_inj _).mpr (ih _)
    · exact List.nil_prefix

theorem truncateTextBytes_isPrefix (value : String) (limit : ℕ) :
    (truncateTextBytes value limit).1.toList <+: value.toList := by
  rw [truncateTextBytes]
  split
  · exact List.prefix_refl _
  · exact (String.toList_ofList ▸ takeBytes_isPrefix _ _)

/-- Lines are cut to so many bytes, and cost their bytes. -/
def cutting (singleLineBytes : ℕ) : Cutting String where
  cut line := truncateTextBytes line singleLineBytes
  cost := String.utf8ByteSize
  uncut_iff line := by
    rw [truncateTextBytes]
    split
    · exact iff_of_true rfl rfl
    · next hlong =>
      refine iff_of_false (Bool.noConfusion ·) fun hwhole => hlong ?_
      rw [← hwhole]
      exact utf8ByteSize_ofList_takeBytes _ _

def newFileHunks (lines : List DiffLine) : List DiffHunk :=
  if lines = [] then [] else [⟨"hunk-1", 0, 0, 1, lines.length, "new file", lines⟩]

theorem flatMap_lines_newFileHunks (lines : List DiffLine) :
    (newFileHunks lines).flatMap DiffHunk.lines = lines := by
  rw [newFileHunks]
  split
  · next h => exact h.symm
  · exact List.append_nil lines

theorem length_eq_of_mem_newFileHunks {lines : List DiffLine} {hunk : DiffHunk}
    (h : hunk ∈ newFileHunks lines) :
    hunk.newStart = 1 ∧ hunk.newLines = lines.length ∧ hunk.oldLines = 0 := by
  rw [newFileHunks] at h
  split at h
  · cases h
  · rw [List.mem_singleton.mp h]
    exact ⟨rfl, rfl, rfl⟩

section

variable (limits : WorkspaceInspectionLimits) (hash : ByteArray → String)
  (target : List String → PathTarget) (pathRef : WorkspacePathRef)

/-- What `file_content` shows of a text. -/
def textContent (data : ByteArray) (text : String) (startLine : ℤ) (lineCount : Option ℤ) :
    FileContent :=
  let rangeStart := (max 1 startLine).toNat
  let rangeCount := limits.lineCountLimit lineCount
  let allLines := splitlines text
  let selected := (allLines.drop (rangeStart - 1)).take rangeCount
  let (texts, missing) :=
    (cutting limits.singleLineBytes).take limits.fileTextPayloadBytes 0 selected
  let renderedLines := (texts.zipIdx rangeStart).map fun (line, number) => ⟨number, line⟩
  let truncated := decide (rangeStart - 1 + rangeCount < allLines.length) || missing
  { file := pathRef
    fileExists := true
    fileKind := .text
    sizeBytes := some data.size
    encoding := some "utf-8"
    startLine := rangeStart
    endLine := (renderedLines.getLast?.map FileLine.lineNumber).getD (rangeStart - 1)
    totalLines := some allLines.length
    truncated := truncated
    lines := renderedLines
    contentHash := some (hash data)
    unavailableReason := none
    warnings := if truncated then
      [⟨"workspace.inspection_truncated", "File content was truncated.", some pathRef.pathLabel⟩]
      else [] }

def fileContent (startLine : ℤ) (lineCount : Option ℤ) : FileContent :=
  match target pathRef.resolvedPath with
  | .missing => unavailableFile pathRef .missing .fileMissing false none []
  | .directory => unavailableFile pathRef .directory .directory true none []
  | .file data =>
    if limits.readableTextFileBytes < data.size then
      unavailableFile pathRef .text .tooLarge true (some data.size)
        [⟨"workspace.file_too_large", "File is too large for Product 1.1 P0 inspection.",
          some pathRef.pathLabel⟩]
    else if looksBinaryBytes data then
      unavailableFile pathRef .binary .binary true (some data.size) []
    else
      match String.fromUTF8? data with
      | none => unavailableFile pathRef .unsupported .unsupportedEncoding true (some data.size) []
      | some text => textContent limits hash pathRef data text startLine lineCount

/-- What `_untracked_file_diff` shows of a text. -/
def textDiff (data : ByteArray) (text : String) (maxBytes : ℕ) : WorkspaceDiff :=
  let allLines := splitlines text
  let (texts, missing) := (cutting limits.singleLineBytes).take maxBytes 0
    (allLines.take limits.fileHardLineCount)
  let lines := (texts.zipIdx 1).map fun (line, index) => ⟨.add, none, some index, line⟩
  let truncated := decide (limits.fileHardLineCount < allLines.length) || missing
  let hunks := newFileHunks lines
  { file := pathRef
    changeKind := "untracked"
    binary := false
    base := "head"
    isAvailable := true
    unavailableReason := none
    hunks := hunks
    additions := lines.length
    deletions := 0
    hunkCount := hunks.length
    truncated := truncated
    contentHash := some (hash data)
    warnings := if truncated then
      [⟨"workspace.inspection_truncated", "Untracked file diff was truncated.",
        some pathRef.pathLabel⟩]
      else [] }

def untrackedFileDiff (maxBytes : ℕ) : WorkspaceDiff :=
  match target pathRef.resolvedPath with
  | .missing => unavailableDiff pathRef .fileMissing false []
  | .directory => unavailableDiff pathRef .fileMissing false []
  | .file data =>
    if limits.readableTextFileBytes < data.size then
      unavailableDiff pathRef .tooLarge false
        [⟨"workspace.inspection_truncated", "Untracked file is too large for diff display.",
          some pathRef.pathLabel⟩]
    else if looksBinaryBytes data then unavailableDiff pathRef .binary true []
    else
      match String.fromUTF8? data with
      | none => unavailableDiff pathRef .binary true []
      | some text => textDiff limits hash pathRef data text maxBytes

end

/-! ### What is shown -/

/-- The lines of a text from line `startLine` on. -/
def linesFrom (text : String) (startLine : ℤ) : List FileLine :=
  (((splitlines text).zipIdx 1).filter fun x => startLine ≤ x.2).map fun x => ⟨x.2, x.1⟩

/-- The lines are the first ones from `startLine` on, each cut at a character, within
`payloadBytes`; if nothing is `truncated` they are all of them, whole. -/
structure HonestView (text : String) (startLine : ℤ) (payloadBytes : ℕ) (lines : List FileLine)
    (truncated : Bool) : Prop where
  consecutive : lines.map FileLine.lineNumber = List.range' (max 1 startLine).toNat lines.length
  isPrefix : ∀ line ∈ lines, ∃ whole ∈ linesFrom text startLine,
    whole.lineNumber = line.lineNumber ∧ line.text.toList <+: whole.text.toList
  payload : (lines.map fun line => line.text.utf8ByteSize).sum ≤ payloadBytes
  truncated_iff : truncated = false ↔ lines = linesFrom text startLine

def numbered (start : ℕ) (texts : List String) : List FileLine :=
  (texts.zipIdx start).map fun x => ⟨x.2, x.1⟩

theorem numbered_cons (start : ℕ) (t : String) (texts : List String) :
    numbered start (t :: texts) = ⟨start, t⟩ :: numbered (start + 1) texts := rfl

@[simp] theorem length_numbered (start : ℕ) (texts : List String) :
    (numbered start texts).length = texts.length := by
  rw [numbered, List.length_map, List.length_zipIdx]

theorem map_lineNumber_numbered (texts : List String) : ∀ start,
    (numbered start texts).map FileLine.lineNumber = List.range' start texts.length := by
  induction texts with
  | nil => intro start; rfl
  | cons t texts ih =>
    intro start
    rw [numbered_cons, List.map_cons, ih, List.length_cons, List.range'_succ]

theorem map_text_numbered (texts : List String) : ∀ start,
    (numbered start texts).map FileLine.text = texts := by
  induction texts with
  | nil => intro start; rfl
  | cons t texts ih =>
    intro start
    rw [numbered_cons, List.map_cons, ih]

theorem mem_numbered {start : ℕ} {texts : List String} {line : FileLine} :
    line ∈ numbered start texts ↔
      ∃ i, texts[i]? = some line.text ∧ line.lineNumber = start + i := by
  rw [numbered, List.mem_map]
  refine ⟨fun ⟨x, hx, hline⟩ => ?_, fun ⟨i, htext, hnumber⟩ => ?_⟩
  · subst hline
    obtain ⟨hle, hget⟩ := List.mem_zipIdx_iff_le_and_getElem?_sub.mp hx
    exact ⟨x.2 - start, hget, (Nat.add_sub_cancel' hle).symm⟩
  · refine ⟨(line.text, line.lineNumber), List.mem_zipIdx_iff_le_and_getElem?_sub.mpr
      ⟨by omega, ?_⟩, rfl⟩
    rw [hnumber, Nat.add_sub_cancel_left]
    exact htext

theorem getLast_numbered {start : ℕ} (texts : List String) (hstart : 1 ≤ start) :
    ((numbered start texts).getLast?.map FileLine.lineNumber).getD (start - 1) + 1 =
      start + (numbered start texts).length := by
  rw [← List.getLast?_map, map_lineNumber_numbered, List.getLast?_range', length_numbered]
  split
  · next hnil => rw [Option.getD_none, hnil]; omega
  · rw [Option.getD_some]; omega

theorem numbered_inj {start : ℕ} {texts texts' : List String} :
    numbered start texts = numbered start texts' ↔ texts = texts' := by
  refine ⟨fun h => ?_, congrArg _⟩
  rw [← map_text_numbered texts start, h, map_text_numbered]

theorem filter_zipIdx_eq_drop {α : Type} (xs : List α) : ∀ k n : ℕ,
    (xs.zipIdx k).filter (fun x => decide (n ≤ x.2)) = (xs.drop (n - k)).zipIdx (max k n) := by
  induction xs with
  | nil => intro k n; rw [List.drop_nil]; rfl
  | cons x xs ih =>
    intro k n
    rw [List.zipIdx_cons]
    by_cases h : n ≤ k
    · rw [List.filter_cons_of_pos (by simpa using h), ih, Nat.sub_eq_zero_of_le h,
        Nat.sub_eq_zero_of_le (by omega), Nat.max_eq_left h, Nat.max_eq_left (by omega)]
      rfl
    · obtain ⟨d, hd⟩ : ∃ d, n - k = d + 1 := ⟨n - k - 1, by omega⟩
      rw [List.filter_cons_of_neg (by simpa using h), ih, hd, List.drop_succ_cons,
        show n - (k + 1) = d by omega, show max (k + 1) n = max k n by omega]

theorem linesFrom_eq (text : String) (startLine : ℤ) :
    linesFrom text startLine =
      numbered (max 1 startLine).toNat ((splitlines text).drop ((max 1 startLine).toNat - 1)) := by
  have hfrom : (fun x : String × ℕ => decide (startLine ≤ x.2)) =
      fun x => decide (startLine.toNat ≤ x.2) :=
    funext fun x => decide_eq_decide.mpr Int.toNat_le.symm
  rw [linesFrom, hfrom, filter_zipIdx_eq_drop, numbered,
    show max 1 startLine.toNat = (max 1 startLine).toNat by omega,
    show startLine.toNat - 1 = (max 1 startLine).toNat - 1 by omega]

theorem HonestView.of_take (text : String) (startLine : ℤ)
    (singleLineBytes payloadBytes count : ℕ) :
    HonestView text startLine payloadBytes
      (numbered (max 1 startLine).toNat ((cutting singleLineBytes).take payloadBytes 0
        (((splitlines text).drop ((max 1 startLine).toNat - 1)).take count)).1)
      (decide (count < ((splitlines text).drop ((max 1 startLine).toNat - 1)).length) ||
        ((cutting singleLineBytes).take payloadBytes 0
          (((splitlines text).drop ((max 1 startLine).toNat - 1)).take count)).2) where
  consecutive := by rw [map_lineNumber_numbered, length_numbered]
  isPrefix line hline := by
    obtain ⟨i, htext, hnumber⟩ := mem_numbered.mp hline
    have htaken := (cutting singleLineBytes).taken_isPrefix payloadBytes
      (((splitlines text).drop ((max 1 startLine).toNat - 1)).take count) 0
    have hi := (List.getElem?_eq_some_iff.mp htext).1
    -- the line of the text in the same place
    have hget := List.prefix_iff_getElem?.mp htaken i hi
    rw [← List.getElem?_eq_getElem hi, htext, List.getElem?_map, Option.map_eq_some_iff] at hget
    obtain ⟨whole, hwhole, hcut⟩ := hget
    refine ⟨⟨line.lineNumber, whole⟩, ?_, rfl, hcut ▸ truncateTextBytes_isPrefix _ _⟩
    rw [linesFrom_eq, mem_numbered]
    rw [List.getElem?_take_of_lt (by
      have hlt := (List.getElem?_eq_some_iff.mp hwhole).1
      rw [List.length_take] at hlt
      omega)] at hwhole
    exact ⟨i, hwhole, hnumber⟩
  payload := by
    have hcost := (cutting singleLineBytes).cost_taken_le payloadBytes
      (((splitlines text).drop ((max 1 startLine).toNat - 1)).take count) (Nat.zero_le _)
    rw [Nat.zero_add] at hcost
    rw [show (fun line : FileLine => line.text.utf8ByteSize) = String.utf8ByteSize ∘ FileLine.text
      from rfl, ← List.map_map, map_text_numbered]
    exact hcost
  truncated_iff := by
    rw [Cutting.not_short_iff, linesFrom_eq, numbered_inj]

/-- A file that is shown as text, if it is UTF-8. -/
def IsReadable (limits : WorkspaceInspectionLimits) (data : ByteArray) : Prop :=
  data.size ≤ limits.readableTextFileBytes ∧ looksBinaryBytes data = false

instance (limits : WorkspaceInspectionLimits) (data : ByteArray) :
    Decidable (IsReadable limits data) :=
  inferInstanceAs (Decidable (_ ∧ _))

/-- Why a text file is not shown. -/
def refusalOf (limits : WorkspaceInspectionLimits) (data : ByteArray) : UnavailableReason :=
  if limits.readableTextFileBytes < data.size then .tooLarge else .binary

theorem looksBinary_of_not_readable {limits : WorkspaceInspectionLimits} {data : ByteArray}
    (h : ¬ IsReadable limits data) (hsize : ¬ limits.readableTextFileBytes < data.size) :
    looksBinaryBytes data = true := by
  by_contra hplain
  exact h ⟨Nat.not_lt.mp hsize, Bool.eq_false_iff.mpr hplain⟩

theorem fromUTF8?_toUTF8 (text : String) : String.fromUTF8? text.toUTF8 = some text :=
  dif_pos text.isValidUTF8

section

variable {limits : WorkspaceInspectionLimits} {hash : ByteArray → String}
  {target : List String → PathTarget} {pathRef : WorkspacePathRef} {text : String}

theorem fileContent_eq (htarget : target pathRef.resolvedPath = .file text.toUTF8)
    (hreadable : IsReadable limits text.toUTF8) (startLine : ℤ) (lineCount : Option ℤ) :
    fileContent limits hash target pathRef startLine lineCount =
      textContent limits hash pathRef text.toUTF8 text startLine lineCount := by
  simp only [fileContent, htarget]
  rw [if_neg (Nat.not_lt.mpr hreadable.1), if_neg (Bool.eq_false_iff.mp hreadable.2),
    fromUTF8?_toUTF8]

theorem untrackedFileDiff_eq (htarget : target pathRef.resolvedPath = .file text.toUTF8)
    (hreadable : IsReadable limits text.toUTF8) (maxBytes : ℕ) :
    untrackedFileDiff limits hash target pathRef maxBytes =
      textDiff limits hash pathRef text.toUTF8 text maxBytes := by
  simp only [untrackedFileDiff, htarget]
  rw [if_neg (Nat.not_lt.mpr hreadable.1), if_neg (Bool.eq_false_iff.mp hreadable.2),
    fromUTF8?_toUTF8]

theorem fileContent_unavailable (htarget : target pathRef.resolvedPath = .file text.toUTF8)
    (hreadable : ¬ IsReadable limits text.toUTF8) (startLine : ℤ) (lineCount : Option ℤ) :
    let answer := fileContent limits hash target pathRef startLine lineCount
    answer.lines = [] ∧ answer.truncated = false ∧
      answer.unavailableReason = some (refusalOf limits text.toUTF8) := by
  simp only [fileContent, htarget, refusalOf]
  split
  · exact ⟨rfl, rfl, rfl⟩
  · next hsize =>
    rw [if_pos (looksBinary_of_not_readable hreadable hsize)]
    exact ⟨rfl, rfl, rfl⟩

theorem untrackedFileDiff_unavailable (htarget : target pathRef.resolvedPath = .file text.toUTF8)
    (hreadable : ¬ IsReadable limits text.toUTF8) (maxBytes : ℕ) :
    let answer := untrackedFileDiff limits hash target pathRef maxBytes
    answer.hunks = [] ∧ answer.truncated = false ∧
      answer.unavailableReason = some (refusalOf limits text.toUTF8) := by
  simp only [untrackedFileDiff, htarget, refusalOf]
  split
  · exact ⟨rfl, rfl, rfl⟩
  · next hsize =>
    rw [if_pos (looksBinary_of_not_readable hreadable hsize)]
    exact ⟨rfl, rfl, rfl⟩

/-- **What `file_content` shows is honest**, and its last line is the one that it names. -/
theorem textContent_honest (data : ByteArray) (startLine : ℤ) (lineCount : Option ℤ) :
    let content := textContent limits hash pathRef data text startLine lineCount
    HonestView text startLine limits.fileTextPayloadBytes content.lines content.truncated ∧
      content.startLine = (max 1 startLine).toNat ∧
      content.endLine + 1 = content.startLine + content.lines.length := by
  refine ⟨?_, rfl, ?_⟩
  · have hview := HonestView.of_take text startLine limits.singleLineBytes
      limits.fileTextPayloadBytes (limits.lineCountLimit lineCount)
    have hcut : (decide (limits.lineCountLimit lineCount <
        ((splitlines text).drop ((max 1 startLine).toNat - 1)).length)) =
        decide ((max 1 startLine).toNat - 1 + limits.lineCountLimit lineCount <
          (splitlines text).length) := by
      rw [List.length_drop]
      exact decide_eq_decide.mpr (by omega)
    rw [hcut] at hview
    exact hview
  · exact getLast_numbered _ (by omega)

/-- **What `_untracked_file_diff` shows is honest**, and it counts what it shows. -/
theorem textDiff_honest (data : ByteArray) (maxBytes : ℕ) :
    let diff := textDiff limits hash pathRef data text maxBytes
    ∃ lines, HonestView text 1 maxBytes lines diff.truncated ∧
      (diff.hunks.flatMap DiffHunk.lines) =
        lines.map (fun line => ⟨.add, none, some line.lineNumber, line.text⟩) ∧
      (∀ hunk ∈ diff.hunks, hunk.newStart = 1 ∧ hunk.newLines = lines.length ∧ hunk.oldLines = 0) ∧
      diff.additions = lines.length ∧ diff.deletions = 0 ∧ diff.hunkCount = diff.hunks.length := by
  let taken := (cutting limits.singleLineBytes).take maxBytes 0
    ((splitlines text).take limits.fileHardLineCount)
  have hlines : (taken.1.zipIdx 1).map (fun x => (⟨.add, none, some x.2, x.1⟩ : DiffLine)) =
      (numbered 1 taken.1).map fun line => ⟨.add, none, some line.lineNumber, line.text⟩ := by
    rw [numbered, List.map_map]
    rfl
  have hlength : (taken.1.zipIdx 1).length = (numbered 1 taken.1).length := by
    rw [length_numbered, List.length_zipIdx]
  refine ⟨_, HonestView.of_take text 1 limits.singleLineBytes maxBytes limits.fileHardLineCount,
    (flatMap_lines_newFileHunks _).trans hlines, fun hunk hhunk => ?_,
    (List.length_map _).trans hlength, rfl, rfl⟩
  obtain ⟨hstart, hnew, hold⟩ := length_eq_of_mem_newFileHunks hhunk
  exact ⟨hstart, hnew.trans ((List.length_map _).trans hlength), hold⟩

/-- **A readable file is seen honestly, the others are refused**: they have a reason and no lines,
and are not shown as truncated. -/
theorem views_honest (htarget : target pathRef.resolvedPath = .file text.toUTF8) :
    (IsReadable limits text.toUTF8 →
      (∀ (startLine : ℤ) (lineCount : Option ℤ),
        let content := fileContent limits hash target pathRef startLine lineCount
        HonestView text startLine limits.fileTextPayloadBytes content.lines content.truncated ∧
          content.startLine = (max 1 startLine).toNat ∧
          content.endLine + 1 = content.startLine + content.lines.length) ∧
      ∀ maxBytes : ℕ,
        let diff := untrackedFileDiff limits hash target pathRef maxBytes
        ∃ lines, HonestView text 1 maxBytes lines diff.truncated ∧
          diff.hunks.flatMap DiffHunk.lines =
            lines.map (fun line => ⟨.add, none, some line.lineNumber, line.text⟩) ∧
          (∀ hunk ∈ diff.hunks,
            hunk.newStart = 1 ∧ hunk.newLines = lines.length ∧ hunk.oldLines = 0) ∧
          diff.additions = lines.length ∧ diff.deletions = 0 ∧
          diff.hunkCount = diff.hunks.length) ∧
    (¬ IsReadable limits text.toUTF8 →
      (∀ (startLine : ℤ) (lineCount : Option ℤ),
        let content := fileContent limits hash target pathRef startLine lineCount
        content.lines = [] ∧ content.truncated = false ∧
          content.unavailableReason = some (refusalOf limits text.toUTF8)) ∧
      ∀ maxBytes : ℕ,
        let diff := untrackedFileDiff limits hash target pathRef maxBytes
        diff.hunks = [] ∧ diff.truncated = false ∧
          diff.unavailableReason = some (refusalOf limits text.toUTF8)) := by
  refine ⟨fun hreadable => ⟨fun startLine lineCount => ?_, fun maxBytes => ?_⟩, fun hreadable =>
    ⟨fileContent_unavailable htarget hreadable, untrackedFileDiff_unavailable htarget hreadable⟩⟩
  · rw [fileContent_eq htarget hreadable]
    exact textContent_honest _ startLine lineCount
  · rw [untrackedFileDiff_eq htarget hreadable]
    exact textDiff_honest _ maxBytes

end

/-- The second line is cut to two bytes. -/
theorem views_honest_cut :
    let content := fileContent { singleLineBytes := 2 } (fun _ => "sha256")
      (fun _ => .file "a\nbcd".toUTF8) ⟨"n.txt", "workspace://w/n.txt", ["n.txt"]⟩ 1 none
    content.lines = [⟨1, "a"⟩, ⟨2, "bc"⟩] ∧
      HonestView "a\nbcd" 1 (256 * 1024) content.lines content.truncated := by
  have hreadable : IsReadable { singleLineBytes := 2 } "a\nbcd".toUTF8 := by decide
  refine ⟨?_, (((views_honest rfl).1 hreadable).1 1 none).1⟩
  rw [fileContent_eq rfl hreadable]
  decide

/-- A text file that is too large is shown without lines, and not as truncated. -/
theorem tooLarge_not_truncated :
    ¬ ∀ (limits : WorkspaceInspectionLimits) (hash : ByteArray → String)
        (target : List String → PathTarget) (pathRef : WorkspacePathRef) (text : String)
        (startLine : ℤ) (lineCount : Option ℤ),
      target pathRef.resolvedPath = .file text.toUTF8 →
        let content := fileContent limits hash target pathRef startLine lineCount
        content.truncated = false ↔ content.lines = linesFrom text startLine := by
  intro h
  have hiff := h { readableTextFileBytes := 1 } (fun _ => "sha256") (fun _ => .file "ab".toUTF8)
    ⟨"n.txt", "workspace://w/n.txt", ["n.txt"]⟩ "ab" 1 none rfl
  exact absurd (hiff.mp rfl) (by decide)

end FileViews

end Taskweavn
