import Taskweavn.Py.Model
import Taskweavn.Workspace.ReplaceRange

/-!
# The lines that a change reports

A replacement and an append answer with the range of the lines that they have changed.  It is
computed from the numbers of the lines of the parts; the file that is written is one text, in which
the last old line and the first new one can come together, and a line can be left without an end.

`ReportsChange` says that the lines outside the range are the old ones, and that the range has
exactly the lines in which there is inserted text.  `reported_iff` says when that is so: **the new
lines have to be some, and have to stay apart from the old ones** (`StaysApart`).
-/

namespace Taskweavn

open Lib Py

namespace PrecisionFiles

/-! ### Reading one line -/

/-- A line as `read_range` reads it, but for its number. -/
def readLine (limits : WorkspaceInspectionLimits) (text : String) (line : ℕ) :
    Option (String × Bool) :=
  (selectLines limits text line (some 1)).head?.map fun contract =>
    (contract.text, contract.truncated)

def readAs (limits : WorkspaceInspectionLimits) (line : String) : String × Bool :=
  if line.utf8ByteSize ≤ limits.singleLineBytes then (line, false)
  else (String.ofList (takeBytes limits.singleLineBytes line.toList), true)

theorem find?_zipIdx {α : Type} (xs : List α) : ∀ k n : ℕ,
    (xs.zipIdx k).find? (fun x => decide (x.2 = k + n)) = xs[n]?.map fun x => (x, k + n) := by
  induction xs with
  | nil => intro k n; rfl
  | cons x xs ih =>
    intro k n
    cases n with
    | zero => rw [List.zipIdx_cons, List.find?_cons_of_pos (by simp)]; rfl
    | succ n =>
      rw [List.zipIdx_cons, List.find?_cons_of_neg (by simp), ← Nat.succ_add_eq_add_succ]
      exact ih (k + 1) n

theorem readLine_eq (limits : WorkspaceInspectionLimits) (text : String) {line : ℕ} (h : 1 ≤ line) :
    readLine limits text line = (splitLines text)[line - 1]?.map (readAs limits) := by
  have hlimit : limits.lineCountLimit (some 1) = 1 := by
    rw [WorkspaceInspectionLimits.lineCountLimit, Option.getD_some]
    omega
  have hone : ∀ x : String × ℕ, decide (line ≤ x.2 + 1 ∧ x.2 + 1 ≤ line + 1 - 1) =
      decide (x.2 = 0 + (line - 1)) := fun x => decide_eq_decide.mpr (by omega)
  rw [readLine, selectLines, hlimit, List.head?_map, List.head?_filter]
  simp only [hone]
  rw [find?_zipIdx, Option.map_map, Option.map_map]
  cases (splitLines text)[line - 1]? with
  | none => rfl
  | some t =>
    refine congrArg some ?_
    rw [Function.comp_apply, Function.comp_apply, lineContract, readAs]
    split <;> rfl

theorem readLine_none {limits : WorkspaceInspectionLimits} {text : String} {line : ℕ}
    (h : (fileLines text).length < line) : readLine limits text line = none := by
  rw [readLine_eq limits text (by omega), List.getElem?_eq_none (by rw [length_splitLines]; omega)]
  rfl

/-! ### Changes of a file -/

inductive FileChange
  | replace (range : WorkspaceLineRange) (replacementText : String)
  | append (content : String) (ensureTrailingNewline : Bool)

def writtenLength (newline : String) (lines : List String) : ℕ :=
  (lines.map fun line => line.length + newline.length).sum

namespace FileChange

/-- `_replace_range_once` and `_append_once` -/
def carryOut (limits : WorkspaceInspectionLimits) (hash : String → String)
    (file expected : String) : FileChange → Except PrecisionFileError (MutationResponse × String)
  | replace range replacementText =>
    replaceRangeOnce limits hash file range replacementText expected
  | append content ensure => appendOnce limits hash file content expected ensure

/-- The last of the old lines in the place of which there are new ones. -/
def oldEnd (text : String) : FileChange → ℕ
  | replace range _ => range.endLine
  | append _ _ => (splitLines text).length

def insertedFrom (text : String) : FileChange → ℕ
  | replace range _ =>
    writtenLength (dominantNewline text) ((splitLines text).take (range.startLine - 1))
  | append _ ensure => (text ++ appendPrefix text ensure).length

/-- The length of the inserted text; that of a replacement is counted with a newline for each of its
lines, the last of which need not be there. -/
def insertedLength (text : String) : FileChange → ℕ
  | replace _ replacementText =>
    writtenLength (dominantNewline text) (replacementLines replacementText)
  | append content _ => (normalizeNewlines content (dominantNewline text)).length

end FileChange

structure ReportsChange (limits : WorkspaceInspectionLimits) (text newText : String)
    (change : FileChange) (range : WorkspaceLineRange) : Prop where
  before : ∀ line, 1 ≤ line → line < range.startLine →
    readLine limits newText line = readLine limits text line
  after : ∀ line, range.endLine < line →
    readLine limits newText line = readLine limits text (line - range.endLine + change.oldEnd text)
  inserted : ∀ line, range.startLine ≤ line ∧ line ≤ range.endLine ↔
    LineEnds.Holds (fileLines newText) (change.insertedFrom text)
      (change.insertedFrom text + change.insertedLength text) line

/-- The new lines are some, and stay apart from the old ones. -/
def StaysApart (text : String) : FileChange → Prop
  | .replace range replacementText =>
    replacementLines replacementText ≠ [] ∧
      ((newLines text range replacementText).getLast? = some "" →
        endsWithNewline text = true ∧ newLines text range replacementText ≠ [""])
  | .append content ensure =>
    text = "" ∨
      (endsWithNewline text = true ∧
        ¬(text.toList.getLast? = some '\r' ∧
          (normalizeNewlines content (dominantNewline text)).toList.head? = some '\n')) ∨
      (endsWithNewline text = false ∧
        (ensure = true ↔ ∃ l, (fileLines text).getLast? = some l ∧ l.ending = []))

/-! ### Replacements -/

theorem writtenLength_eq (newline : String) (lines : List String) :
    writtenLength newline lines =
      (Line.render ((lines.map String.toList).map fun t => ⟨t, newline.toList⟩)).length := by
  induction lines with
  | nil => rfl
  | cons line lines ih =>
    rw [writtenLength, List.map_cons, List.sum_cons, ← writtenLength, ih, List.map_cons,
      List.map_cons, Line.render_cons, List.length_append, List.length_append, String.length_toList,
      String.length_toList]

theorem writtenLength_append (newline : String) (lines lines' : List String) :
    writtenLength newline (lines ++ lines') =
      writtenLength newline lines + writtenLength newline lines' := by
  rw [writtenLength, List.map_append, List.sum_append]
  rfl

theorem offset_endedWith {newline : String} {final : List Char} {lines : List String} {i : ℕ}
    (h : i < lines.length) :
    LineEnds.offset (Line.endedWith newline.toList final (lines.map String.toList)) i =
      writtenLength newline (lines.take i) := by
  have hne : (lines.drop i).map String.toList ≠ [] := by
    rw [Ne, List.map_eq_nil_iff, List.drop_eq_nil_iff]
    omega
  have hcut : lines.map String.toList =
      (lines.take i).map String.toList ++ (lines.drop i).map String.toList := by
    rw [← List.map_append, List.take_append_drop]
  rw [hcut, Line.endedWith_append _ hne, LineEnds.offset, List.take_left' (by simp; omega),
    writtenLength_eq]

theorem offset_endedWith_le {newline : String} {final : List Char} {lines : List String}
    (hfinal : final.length ≤ newline.length) (i : ℕ) :
    LineEnds.offset (Line.endedWith newline.toList final (lines.map String.toList)) i ≤
      writtenLength newline (lines.take i) := by
  rcases Nat.lt_or_ge i lines.length with hlt | hge
  · exact (offset_endedWith hlt).le
  · have hlines : (Line.endedWith newline.toList final (lines.map String.toList)).length ≤ i := by
      rw [Line.length_endedWith, List.length_map]
      exact hge
    rw [LineEnds.offset, List.take_of_length_le hlines, List.take_of_length_le hge]
    rcases List.eq_nil_or_concat lines with rfl | ⟨init, line, rfl⟩
    · exact Nat.zero_le _
    · rw [List.concat_eq_append, List.map_append, Line.endedWith_append _ (by simp),
        Line.render_append, writtenLength_append, writtenLength_eq, List.length_append]
      simpa [writtenLength, String.length_toList] using hfinal

section

variable {limits : WorkspaceInspectionLimits} {hash : String → String} {text newText : String}
  {range : WorkspaceLineRange} {replacementText expected : String} {response : MutationResponse}

theorem length_newLines (replacementText : String)
    (hend : range.endLine ≤ (splitLines text).length) :
    (newLines text range replacementText).length =
      range.startLine - 1 + (replacementLines replacementText).length +
        ((splitLines text).length - range.endLine) := by
  have hordered := range.ordered
  simp only [newLines, List.length_append, List.length_take, List.length_drop]
  omega

theorem take_newLines (replacementText : String) (hend : range.endLine ≤ (splitLines text).length) :
    (newLines text range replacementText).take (range.startLine - 1) =
        (splitLines text).take (range.startLine - 1) ∧
      (newLines text range replacementText).take
          (range.startLine - 1 + (replacementLines replacementText).length) =
        (splitLines text).take (range.startLine - 1) ++ replacementLines replacementText := by
  have hordered := range.ordered
  have hlength : ((splitLines text).take (range.startLine - 1)).length = range.startLine - 1 := by
    rw [List.length_take]
    omega
  constructor
  · rw [newLines, List.append_assoc, List.take_left' hlength]
  · rw [newLines, List.take_left' (by rw [List.length_append, hlength])]

theorem getElem?_newLines (replacementText : String)
    (hend : range.endLine ≤ (splitLines text).length) (i : ℕ) :
    (i < range.startLine - 1 → (newLines text range replacementText)[i]? = (splitLines text)[i]?) ∧
      (newLines text range replacementText)[range.startLine - 1 +
          (replacementLines replacementText).length + i]? =
          (splitLines text)[range.endLine + i]? := by
  have hordered := range.ordered
  have hlength : ((splitLines text).take (range.startLine - 1)).length = range.startLine - 1 := by
    rw [List.length_take]
    omega
  constructor
  · intro hi
    rw [newLines, List.append_assoc, List.getElem?_append_left (by omega),
      List.getElem?_take_of_lt hi]
  · rw [newLines, List.getElem?_append_right (by rw [List.length_append]; omega),
      List.length_append, hlength, Nat.add_sub_cancel_left, List.getElem?_drop]

/-- The file after a replacement. -/
def replacedText (text : String) (range : WorkspaceLineRange) (replacementText : String) : String :=
  joinLines (newLines text range replacementText) (dominantNewline text) (endsWithNewline text)

theorem replacedRange_endLine (range : WorkspaceLineRange)
    (hne : replacementLines replacementText ≠ []) :
    (replacedRange range replacementText).endLine =
      range.startLine - 1 + (replacementLines replacementText).length := by
  have hpos := List.length_pos_of_ne_nil hne
  have hstart := range.start_pos
  simp only [replacedRange]
  omega

theorem reports_of_resplits (hend : range.endLine ≤ (splitLines text).length)
    (hne : replacementLines replacementText ≠ [])
    (hsplit : LineEnds.Resplits (endsWithNewline text)
      ((newLines text range replacementText).map String.toList)) :
    ReportsChange limits text (replacedText text range replacementText)
      (.replace range replacementText) (replacedRange range replacementText) := by
  have hstart := range.start_pos
  have hordered := range.ordered
  have hpos := List.length_pos_of_ne_nil hne
  have hcount := length_newLines replacementText hend
  have hlast := replacedRange_endLine range hne
  have hplain := plain_newLines text range replacementText
  have hlines : splitLines (replacedText text range replacementText) =
      newLines text range replacementText :=
    (splitLines_joinLines_iff text hplain _).mpr hsplit
  have hcut : fileLines (replacedText text range replacementText) =
      Line.endedWith (dominantNewline text).toList
        (LineEnds.finalEnd (dominantNewline text).toList (endsWithNewline text))
        ((newLines text range replacementText).map String.toList) := by
    rw [fileLines, replacedText, toList_joinLines,
      LineEnds.lines_joinLines (isNewline_dominantNewline text) hplain hsplit]
  obtain ⟨htake, htake'⟩ := take_newLines replacementText hend
  refine ⟨fun line h₁ h₂ => ?_, fun line h₁ => ?_, fun line => ?_⟩
  · rw [readLine_eq _ _ h₁, readLine_eq _ _ h₁, hlines,
      (getElem?_newLines replacementText hend (line - 1)).1
        (by simp only [replacedRange] at h₂; omega)]
  · rw [hlast] at h₁ ⊢
    rw [readLine_eq _ _ (by omega),
      readLine_eq _ _ (by simp only [FileChange.oldEnd]; omega), hlines]
    have hget := (getElem?_newLines replacementText hend (line - 1 -
      (range.startLine - 1 + (replacementLines replacementText).length))).2
    rw [show range.startLine - 1 + (replacementLines replacementText).length + (line - 1 -
      (range.startLine - 1 + (replacementLines replacementText).length)) =
        line - 1 by omega] at hget
    rw [hget, FileChange.oldEnd, show range.endLine + (line - 1 -
      (range.startLine - 1 + (replacementLines replacementText).length)) = line -
      (range.startLine - 1 + (replacementLines replacementText).length) +
        range.endLine - 1 by omega]
  · have hfinal : (LineEnds.finalEnd (dominantNewline text).toList (endsWithNewline text)).length ≤
        (dominantNewline text).length := by
      rw [LineEnds.finalEnd]
      split
      · rw [String.length_toList]
      · exact Nat.zero_le _
    have hfrom : FileChange.insertedFrom text (.replace range replacementText) =
        LineEnds.offset (fileLines (replacedText text range replacementText))
          (range.startLine - 1) := by
      rw [hcut, offset_endedWith (by omega), htake, FileChange.insertedFrom]
    have hto : FileChange.insertedFrom text (.replace range replacementText) +
        FileChange.insertedLength text (.replace range replacementText) =
        writtenLength (dominantNewline text) ((newLines text range replacementText).take
          (range.startLine - 1 + (replacementLines replacementText).length)) := by
      rw [htake', writtenLength_append]
      rfl
    have hlength : (fileLines (replacedText text range replacementText)).length =
        (newLines text range replacementText).length := by
      rw [← length_splitLines, hlines]
    have hreads : lineEnds.Reads (fileLines (replacedText text range replacementText)) :=
      LineEnds.reads_lines _
    have hstop : LineEnds.offset (fileLines (replacedText text range replacementText))
        (range.startLine - 1 + (replacementLines replacementText).length) ≤
        writtenLength (dominantNewline text) ((newLines text range replacementText).take
          (range.startLine - 1 + (replacementLines replacementText).length)) := by
      rw [hcut]
      exact offset_endedWith_le hfinal _
    rw [hto, hfrom, hreads.holds_iff (by omega) hstop (fun hmore => ?_), hlast]
    · simp only [replacedRange]
      omega
    · rw [hlength] at hmore
      rw [hcut, offset_endedWith hmore]

theorem not_reports_of_lost (hend : range.endLine ≤ (splitLines text).length)
    (hne : replacementLines replacementText ≠ [])
    (hlost : ¬LineEnds.Resplits (endsWithNewline text)
      ((newLines text range replacementText).map String.toList)) :
    ¬ReportsChange limits text (replacedText text range replacementText)
      (.replace range replacementText) (replacedRange range replacementText) := by
  intro h
  have hstart := range.start_pos
  have hpos := List.length_pos_of_ne_nil hne
  have hcount := length_newLines replacementText hend
  have hlast := replacedRange_endLine range hne
  have hlength : (fileLines (replacedText text range replacementText)).length =
      (newLines text range replacementText).length - 1 := by
    rw [fileLines, replacedText, toList_joinLines, LineEnds.lines_joinLines_lost
      (isNewline_dominantNewline text) (plain_newLines text range replacementText) hlost,
      Line.length_endedWith, List.length_dropLast, List.length_map]
  by_cases hmore : range.endLine < (splitLines text).length
  · have hafter := h.after (newLines text range replacementText).length (by omega)
    rw [readLine_none (by omega), readLine_eq _ _ (by simp only [FileChange.oldEnd]; omega)]
      at hafter
    have hnone := Option.map_eq_none_iff.mp hafter.symm
    rw [List.getElem?_eq_none_iff] at hnone
    simp only [FileChange.oldEnd] at hnone
    omega
  · -- the last line of the range is not there
    obtain ⟨p, -, -, hfrom, hto⟩ := (h.inserted (replacedRange range replacementText).endLine).mp
      ⟨(replacedRange range replacementText).ordered, le_refl _⟩
    rw [LineEnds.offset, List.take_of_length_le (by omega)] at hfrom hto
    omega

/-- **What a replacement reports.** -/
theorem replace_reports_iff
    (h : replaceRangeOnce limits hash text range replacementText expected = .ok
    (response, newText)) :
    ReportsChange limits text newText (.replace range replacementText)
        (replacedRange range replacementText) ↔
        StaysApart text (.replace range replacementText) := by
  obtain ⟨-, -, -, hend, rfl, -⟩ := replaceRangeOnce_eq_ok.mp h
  rw [StaysApart, ← resplits_iff]
  constructor
  · intro hreports
    have hne : replacementLines replacementText ≠ [] := by
      intro hnil
      obtain ⟨p, hfrom, hto, -⟩ := (hreports.inserted range.startLine).mp
        ⟨le_refl _, (replacedRange range replacementText).ordered⟩
      rw [FileChange.insertedLength, hnil] at hto
      exact absurd hto (not_lt.mpr hfrom)
    refine ⟨hne, ?_⟩
    by_contra hlost
    exact not_reports_of_lost hend hne hlost hreports
  · rintro ⟨hne, hsplit⟩
    exact reports_of_resplits hend hne hsplit

end

/-! ### Appends -/

theorem replacePair_ne_nil {a b : Char} {new : List Char} (hnew : new ≠ []) : ∀ {l : List Char},
    l ≠ [] → replacePair a b new l ≠ []
  | [], h => absurd rfl h
  | [_], _ => List.cons_ne_nil _ _
  | c :: d :: rest, _ => by
    rw [replacePair]
    split
    · exact List.append_ne_nil_of_left_ne_nil hnew _
    · exact List.cons_ne_nil _ _

theorem normalizeNewlines_ne_empty {content newline : String} (hcontent : content ≠ "")
    (hnewline : newline ≠ "") : normalizeNewlines content newline ≠ "" := by
  have hlist : replacePair '\r' '\n' ['\n'] content.toList ≠ [] :=
    replacePair_ne_nil (List.cons_ne_nil _ _) fun h => hcontent (String.toList_eq_nil_iff.mp h)
  rw [normalizeNewlines, Ne, ← String.toList_eq_nil_iff, String.toList_ofList,
    List.flatMap_eq_nil_iff]
  intro hnil
  obtain ⟨c, rest, hc⟩ := List.exists_cons_of_ne_nil hlist
  have hsome : ∀ d : Char, (if d = '\n' then newline.toList else [d]) ≠ [] := by
    intro d
    split
    · exact fun h => hnewline (String.toList_eq_nil_iff.mp h)
    · exact List.cons_ne_nil _ _
  exact hsome _ (hnil (if c = '\r' then '\n' else c) (by rw [hc]; exact List.mem_cons_self))

theorem lf_notMem_normalizeNewlines (content : String) :
    '\n' ∉ (normalizeNewlines content "\r").toList := by
  rw [normalizeNewlines, String.toList_ofList, List.mem_flatMap]
  rintro ⟨c, -, hc⟩
  split at hc
  · exact absurd hc (by decide)
  · next hne => exact hne (List.mem_singleton.mp hc).symm

theorem dominantNewline_ne_empty (text : String) : dominantNewline text ≠ "" := fun h =>
  (isNewline_dominantNewline text).isEnding.ne_nil (by rw [h]; rfl)

theorem head?_of_fileLines {content : String} (h : (fileLines content).head? = some ⟨[], ['\n']⟩) :
    content.toList.head? = some '\n' := by
  have hrender := LineEnds.render_lines (E := lineEnds) content.toList
  rw [← fileLines] at hrender
  rw [← hrender]
  cases hlines : fileLines content with
  | nil =>
    rw [hlines] at h
    cases h
  | cons l rest =>
    rw [hlines] at h
    cases h
    rfl

theorem not_pairs_newline (text content : String) :
    ¬lineEnds.Pairs (dominantNewline text).toList
      (fileLines (normalizeNewlines content (dominantNewline text))) := by
  rintro ⟨hcr, hhead⟩
  have hnewline : dominantNewline text = "\r" := String.toList_inj.mp hcr
  rw [hnewline] at hhead
  exact lf_notMem_normalizeNewlines content (List.mem_of_head? (head?_of_fileLines hhead))

theorem last_fileLines {text : String} {init : List (Line Char)} {l : Line Char}
    (h : fileLines text = init ++ [l]) :
    (lineEnds.IsEnding l.ending ∨ (l.ending = [] ∧ l.text ≠ [])) ∧
      (endsWithNewline text = true → lineEnds.IsEnding l.ending) ∧
      (text.toList.getLast? = some '\r' ↔ l.ending = ['\r']) := by
  have hreads : lineEnds.Reads (init ++ [l]) := h ▸ LineEnds.reads_lines text.toList
  have hplain := hreads.not_isEnd l (List.mem_append_right _ (List.mem_singleton_self l))
  have hlast := hreads.drop init.length
  rw [List.drop_left] at hlast
  have hchar := getLast?_fileLines (l := l) (by rw [h, List.getLast?_concat])
  rcases hlast.2 with ⟨hend, -⟩ | ⟨hnone, hne, -⟩
  · rw [List.getLast?_append_of_ne_nil _ hend.ne_nil] at hchar
    refine ⟨.inl hend, fun _ => hend, ?_⟩
    rw [hchar]
    rcases hend with hpair | ⟨c, -, hc⟩
    · rw [hpair]
      exact iff_of_false (by decide) (by decide)
    · rw [hc]
      simp
  · rw [hnone, List.append_nil] at hchar
    have hnot : ∀ c, lineEnds.isEnd c = true → text.toList.getLast? ≠ some c := by
      intro c hc hsome
      rw [hchar] at hsome
      rw [hplain c (List.mem_of_getLast? hsome)] at hc
      cases hc
    refine ⟨.inr ⟨hnone, hne⟩, fun hends => ?_, iff_of_false (hnot '\r' (by decide)) ?_⟩
    · rw [endsWithNewline, decide_eq_false (hnot '\n' (by decide)),
        decide_eq_false (hnot '\r' (by decide))] at hends
      cases hends
    · rw [hnone]
      exact (List.cons_ne_nil _ _).symm

section

variable {limits : WorkspaceInspectionLimits} {hash : String → String}
    {text newText content : String}
  {ensure : Bool} {expected : String} {response : MutationResponse}

theorem appendOnce_ok
    (h : appendOnce limits hash text content expected ensure = .ok (response, newText)) :
    content ≠ "" ∧
      newText = text ++ appendPrefix text ensure ++ normalizeNewlines content
      (dominantNewline text) ∧
      response.changedLineRanges =
        [appendedRange text (normalizeNewlines content (dominantNewline text))] := by
  rw [appendOnce] at h
  split at h
  · cases h
  · next hne =>
    split at h
    · cases h
    · obtain ⟨read, hread, hrest⟩ := bind_eq_ok.mp h
      obtain rfl := readTextBytes_ok hread
      split at hrest
      · cases hrest
      · cases hrest
        exact ⟨hne, (String.append_assoc ..).symm, rfl⟩

theorem fileLines_ne_nil {text : String} (h : text ≠ "") : fileLines text ≠ [] := by
  intro hnil
  have hrender := LineEnds.render_lines (E := lineEnds) text.toList
  rw [← fileLines, hnil] at hrender
  exact h (String.toList_eq_nil_iff.mp hrender.symm)

theorem length_render_fileLines (text : String) :
    (Line.render (fileLines text)).length = text.length := by
  rw [fileLines, LineEnds.render_lines, String.length_toList]

theorem appendedRange_startLine (text added : String) :
    (appendedRange text added).startLine = (fileLines text).length + 1 :=
  congrArg (· + 1) (length_splitLines text)

theorem appendedRange_endLine (text : String) {added : String} (h : added ≠ "") :
    (appendedRange text added).endLine = (fileLines text).length + (fileLines added).length := by
  have hpos := List.length_pos_of_ne_nil (fileLines_ne_nil h)
  have htext := length_splitLines text
  have hadded := length_splitLines added
  simp only [appendedRange]
  omega

/-- **Content that stays apart** from the lines before it is reported. -/
theorem reports_append (hcontent : normalizeNewlines content (dominantNewline text) ≠ "")
    (hlines : (fileLines (text ++ appendPrefix text ensure)).map Line.text =
      (fileLines text).map Line.text)
    (hclosed : lineEnds.Closed (fileLines (text ++ appendPrefix text ensure))
      (fileLines (normalizeNewlines content (dominantNewline text)))) :
    ReportsChange limits text
      (text ++ appendPrefix text ensure ++ normalizeNewlines content (dominantNewline text))
      (.append content ensure)
      (appendedRange text (normalizeNewlines content (dominantNewline text))) := by
  generalize hnormal : normalizeNewlines content (dominantNewline text) = added at *
  have hcut : fileLines (text ++ appendPrefix text ensure ++ added) =
      fileLines (text ++ appendPrefix text ensure) ++ fileLines added := by
    rw [fileLines, String.toList_append]
    exact LineEnds.lines_append hclosed
  have hcount :
      (fileLines (text ++ appendPrefix text ensure)).length = (fileLines text).length := by
    rw [← List.length_map (f := Line.text), hlines, List.length_map]
  have hlength : (fileLines (text ++ appendPrefix text ensure ++ added)).length =
      (fileLines text).length + (fileLines added).length := by
    rw [hcut, List.length_append, hcount]
  have hold : splitLines (text ++ appendPrefix text ensure) = splitLines text := by
    apply map_toList_injective
    rw [map_toList_splitLines, hlines, map_toList_splitLines]
  have hnew : splitLines (text ++ appendPrefix text ensure ++ added) =
      splitLines text ++ splitLines added := by
    apply map_toList_injective
    rw [map_toList_splitLines, hcut, List.map_append, hlines, List.map_append,
      map_toList_splitLines, map_toList_splitLines]
  have hstart := appendedRange_startLine text added
  have hend := appendedRange_endLine text hcontent
  refine ⟨fun line h₁ h₂ => ?_, fun line h₁ => ?_, fun line => ?_⟩
  · rw [readLine_eq _ _ h₁, readLine_eq _ _ h₁, hnew, List.getElem?_append_left]
    rw [length_splitLines]
    omega
  · rw [readLine_none (by omega), readLine_none]
    rw [FileChange.oldEnd, length_splitLines]
    omega
  · have hreads : lineEnds.Reads (fileLines (text ++ appendPrefix text ensure ++ added)) :=
      LineEnds.reads_lines _
    have hfrom : FileChange.insertedFrom text (.append content ensure) =
        LineEnds.offset (fileLines (text ++ appendPrefix text ensure ++ added))
          (fileLines text).length := by
      rw [FileChange.insertedFrom, hcut, LineEnds.offset, List.take_left' hcount,
        length_render_fileLines]
    have hto : LineEnds.offset (fileLines (text ++ appendPrefix text ensure ++ added))
        ((fileLines text).length + (fileLines added).length) =
        FileChange.insertedFrom text (.append content ensure) +
          FileChange.insertedLength text (.append content ensure) := by
      rw [LineEnds.offset, List.take_of_length_le hlength.le, length_render_fileLines,
        FileChange.insertedFrom, FileChange.insertedLength, hnormal, String.length_append]
    rw [← hto, hfrom, hreads.holds_iff hlength.ge (le_refl _) (fun h => absurd h (by omega)),
      hstart, hend]
    omega

theorem not_reports_of_joined {init rest : List (Line Char)} {l : Line Char}
    (hcontent : normalizeNewlines content (dominantNewline text) ≠ "")
    (hcut : fileLines newText = init ++ l :: rest)
    (hinit : init.length + 1 = (fileLines text).length)
    (hfrom : (Line.render init).length ≤ FileChange.insertedFrom text (.append content ensure))
    (hto : FileChange.insertedFrom text (.append content ensure) <
      (Line.render (init ++ [l])).length) :
    ¬ReportsChange limits text newText (.append content ensure)
      (appendedRange text (normalizeNewlines content (dominantNewline text))) := by
  intro h
  have hlength : 0 < FileChange.insertedLength text (.append content ensure) := by
    rw [FileChange.insertedLength, ← String.length_toList]
    exact List.length_pos_of_ne_nil fun hnil => hcontent (String.toList_eq_nil_iff.mp hnil)
  have hholds : LineEnds.Holds (fileLines newText)
      (FileChange.insertedFrom text (.append content ensure))
      (FileChange.insertedFrom text (.append content ensure) +
        FileChange.insertedLength text (.append content ensure)) (init.length + 1) := by
    refine ⟨_, le_refl _, by omega, ?_, ?_⟩
    · rw [hcut, LineEnds.offset, Nat.add_sub_cancel, List.take_left]
      exact hfrom
    · rw [hcut, LineEnds.offset, List.append_cons, List.take_left' (by simp)]
      exact hto
  have hin := ((h.inserted _).mpr hholds).1
  rw [appendedRange_startLine] at hin
  omega

theorem reports_append_of_closed (hseparator : appendPrefix text ensure = "")
    (hcontent : normalizeNewlines content (dominantNewline text) ≠ "")
    (hclosed : lineEnds.Closed (fileLines text)
      (fileLines (normalizeNewlines content (dominantNewline text)))) :
    ReportsChange limits text
      (text ++ appendPrefix text ensure ++ normalizeNewlines content (dominantNewline text))
      (.append content ensure)
      (appendedRange text (normalizeNewlines content (dominantNewline text))) := by
  have hsame : text ++ appendPrefix text ensure = text := by rw [hseparator, String.append_empty]
  exact reports_append hcontent (by rw [hsame]) (by rw [hsame]; exact hclosed)

section

variable {init : List (Line Char)} {l : Line Char} (hold : fileLines text = init ++ [l])

include hold

theorem not_reports_of_pair (hseparator : appendPrefix text ensure = "")
    (hcontent : normalizeNewlines content (dominantNewline text) ≠ "")
    (hcr : text.toList.getLast? = some '\r')
    (hlf : (normalizeNewlines content (dominantNewline text)).toList.head? = some '\n') :
    ¬ReportsChange limits text
      (text ++ appendPrefix text ensure ++ normalizeNewlines content (dominantNewline text))
      (.append content ensure)
      (appendedRange text (normalizeNewlines content (dominantNewline text))) := by
  obtain ⟨tail, htail⟩ := List.head?_eq_some_iff.mp hlf
  have hending := (last_fileLines hold).2.2.mp hcr
  have hreads : lineEnds.Reads (init ++ [l]) := hold ▸ LineEnds.reads_lines text.toList
  have hplain := hreads.not_isEnd l (List.mem_append_right _ (List.mem_singleton_self l))
  have hnew : lineEnds.Reads (init ++ ⟨l.text, ['\r', '\n']⟩ :: lineEnds.lines tail) := by
    refine hreads.replaceTail ⟨hplain, .inl ⟨.inl rfl, fun hp => ?_, LineEnds.reads_lines tail⟩⟩ ?_
    · have hone : ['\r', '\n'] = ['\r'] := hp.1
      exact absurd hone (by decide)
    · intro heq
      have hone : ['\r', '\n'] = ['\n'] := congrArg Line.ending heq
      exact absurd hone (by decide)
  have htext : text.toList = Line.render init ++ l.text ++ ['\r'] := by
    have hrender := LineEnds.render_lines (E := lineEnds) text.toList
    rw [← fileLines, hold, Line.render_append, Line.render_cons, Line.render_nil,
      hending] at hrender
    rw [← hrender]
    simp
  have hcut : fileLines (text ++ appendPrefix text ensure ++
      normalizeNewlines content (dominantNewline text)) =
      init ++ ⟨l.text, ['\r', '\n']⟩ :: lineEnds.lines tail := by
    rw [← LineEnds.lines_render hnew, fileLines, hseparator, String.append_empty,
      String.toList_append,
      htail, htext, Line.render_append, Line.render_cons, LineEnds.render_lines]
    simp
  have hlength := congrArg List.length htext
  rw [String.length_toList] at hlength
  refine not_reports_of_joined hcontent hcut (by rw [hold]; simp) ?_ ?_
  · rw [FileChange.insertedFrom, hseparator, String.append_empty, hlength]
    simp
  · rw [FileChange.insertedFrom, hseparator, String.append_empty, hlength, Line.render_append]
    simp

theorem not_reports_of_unended (hseparator : appendPrefix text ensure = "")
    (hcontent : normalizeNewlines content (dominantNewline text) ≠ "") (hnone : l.ending = [])
    (hne : l.text ≠ []) :
    ¬ReportsChange limits text
      (text ++ appendPrefix text ensure ++ normalizeNewlines content (dominantNewline text))
      (.append content ensure)
      (appendedRange text (normalizeNewlines content (dominantNewline text))) := by
  obtain ⟨first, rest, hfirst⟩ := List.exists_cons_of_ne_nil (fileLines_ne_nil hcontent)
  have hreads : lineEnds.Reads (init ++ [l]) := hold ▸ LineEnds.reads_lines text.toList
  have hplain := hreads.not_isEnd l (List.mem_append_right _ (List.mem_singleton_self l))
  have hjoined := LineEnds.lines_text (E := lineEnds) hplain hfirst
  have hnew : lineEnds.Reads (init ++ ⟨l.text ++ first.text, first.ending⟩ :: rest) := by
    refine hreads.replaceTail (hjoined ▸ LineEnds.reads_lines _) fun heq => ?_
    have htext : l.text ++ first.text = [] := congrArg Line.text heq
    exact absurd (List.append_eq_nil_iff.mp htext).1 hne
  have htext : text.toList = Line.render init ++ l.text := by
    have hrender := LineEnds.render_lines (E := lineEnds) text.toList
    rw [← fileLines, hold, Line.render_append, Line.render_cons, Line.render_nil, hnone] at hrender
    rw [← hrender]
    simp
  have hadded : (normalizeNewlines content (dominantNewline text)).toList =
      first.text ++ first.ending ++ Line.render rest := by
    rw [← LineEnds.render_lines (E := lineEnds)
      (normalizeNewlines content (dominantNewline text)).toList, ← fileLines, hfirst,
      Line.render_cons]
  have hcut : fileLines (text ++ appendPrefix text ensure ++
      normalizeNewlines content (dominantNewline text)) =
      init ++ ⟨l.text ++ first.text, first.ending⟩ :: rest := by
    rw [← LineEnds.lines_render hnew, fileLines, hseparator, String.append_empty,
      String.toList_append, hadded, htext, Line.render_append, Line.render_cons]
    simp
  have hlength := congrArg List.length htext
  rw [String.length_toList] at hlength
  have hfirstne : first.text ++ first.ending ≠ [] :=
    (LineEnds.reads_lines (E := lineEnds) _).ne_nil first (by
      rw [← fileLines, hfirst]
      exact List.mem_cons_self)
  have hpos := List.length_pos_of_ne_nil hfirstne
  refine not_reports_of_joined hcontent hcut (by rw [hold]; simp) ?_ ?_
  · rw [FileChange.insertedFrom, hseparator, String.append_empty, hlength]
    simp
  · rw [FileChange.insertedFrom, hseparator, String.append_empty, hlength, Line.render_append]
    simp only [Line.render_cons, Line.render_nil, List.length_append, List.append_nil] at hpos ⊢
    omega

theorem not_reports_of_blank (hseparator : appendPrefix text ensure = dominantNewline text)
    (hcontent : normalizeNewlines content (dominantNewline text) ≠ "")
    (hending : lineEnds.IsEnding l.ending) (hcr : l.ending ≠ ['\r']) :
    ¬ReportsChange limits text
      (text ++ appendPrefix text ensure ++ normalizeNewlines content (dominantNewline text))
      (.append content ensure)
      (appendedRange text (normalizeNewlines content (dominantNewline text))) := by
  have hblank : lineEnds.lines ((dominantNewline text).toList ++
      (normalizeNewlines content (dominantNewline text)).toList) =
      ⟨[], (dominantNewline text).toList⟩ ::
        fileLines (normalizeNewlines content (dominantNewline text)) :=
    LineEnds.lines_ending (isNewline_dominantNewline text).isEnding
      (not_pairs_newline text content)
  have hcut : fileLines (text ++ appendPrefix text ensure ++
      normalizeNewlines content (dominantNewline text)) =
      fileLines text ++ ⟨[], (dominantNewline text).toList⟩ ::
        fileLines (normalizeNewlines content (dominantNewline text)) := by
    rw [fileLines, hseparator, String.toList_append, String.toList_append,
      List.append_assoc, ← hblank]
    refine LineEnds.lines_append fun l' hl' => ?_
    rw [← fileLines, hold, List.getLast?_concat] at hl'
    cases hl'
    exact ⟨hending, fun hp => hcr hp.1⟩
  intro h
  obtain ⟨p, hfrom, -, -, hp⟩ := (h.inserted ((fileLines text).length + 1)).mp
    ⟨(appendedRange_startLine text _).le, by
      have hpos := List.length_pos_of_ne_nil (fileLines_ne_nil hcontent)
      rw [appendedRange_endLine text hcontent]
      omega⟩
  -- the line ends where the content starts
  rw [hcut, LineEnds.offset, List.append_cons, List.take_left' (by simp), Line.render_append,
    List.length_append, length_render_fileLines] at hp
  rw [FileChange.insertedFrom, hseparator, String.length_append] at hfrom
  simp only [Line.render_cons, Line.render_nil, List.nil_append, List.append_nil,
    String.length_toList] at hp
  omega

end

theorem appendPrefix_of_ends (h : text = "" ∨ endsWithNewline text = true ∨ ensure = false) :
    appendPrefix text ensure = "" := by
  rw [appendPrefix, if_neg]
  rintro ⟨hensure, hne, hends⟩
  rcases h with h | h | h
  · exact hne h
  · rw [h] at hends
    cases hends
  · rw [h] at hensure
    cases hensure

theorem appendPrefix_of_not_ends (hensure : ensure = true) (hne : text ≠ "")
    (hends : endsWithNewline text = false) : appendPrefix text ensure = dominantNewline text := by
  rw [appendPrefix, if_pos]
  exact ⟨hensure, hne, by rw [hends]; rfl⟩

theorem reports_of_ensured {init : List (Line Char)} {l : Line Char}
    (hold : fileLines text = init ++ [l])
    (hseparator : appendPrefix text ensure = dominantNewline text)
    (hcontent : normalizeNewlines content (dominantNewline text) ≠ "") (hnone : l.ending = [])
    (hne : l.text ≠ []) :
    ReportsChange limits text
      (text ++ appendPrefix text ensure ++ normalizeNewlines content (dominantNewline text))
      (.append content ensure)
      (appendedRange text (normalizeNewlines content (dominantNewline text))) := by
  have hnl := isNewline_dominantNewline text
  have hreads : lineEnds.Reads (init ++ [l]) := hold ▸ LineEnds.reads_lines text.toList
  have hplain := hreads.not_isEnd l (List.mem_append_right _ (List.mem_singleton_self l))
  have hnew : lineEnds.Reads (init ++ [⟨l.text, (dominantNewline text).toList⟩]) := by
    refine hreads.replaceTail ⟨hplain, .inl ⟨hnl.isEnding, fun hp => ?_, trivial⟩⟩ fun heq => ?_
    · cases hp.2
    · exact absurd (congrArg Line.text heq) hne
  have hcut : fileLines (text ++ appendPrefix text ensure) =
      init ++ [⟨l.text, (dominantNewline text).toList⟩] := by
    have hrender := LineEnds.render_lines (E := lineEnds) text.toList
    rw [← fileLines, hold, Line.render_append, Line.render_cons, Line.render_nil, hnone] at hrender
    rw [← LineEnds.lines_render hnew, fileLines, hseparator, String.toList_append, ← hrender,
      Line.render_append, Line.render_cons, Line.render_nil]
    simp
  refine reports_append hcontent (by rw [hcut, hold]; simp) fun l' hl' => ?_
  rw [hcut, List.getLast?_concat] at hl'
  cases hl'
  exact ⟨hnl.isEnding, not_pairs_newline text content⟩

/-- **What an append reports.** -/
theorem append_reports_iff (hne : content ≠ "") :
    ReportsChange limits text
        (text ++ appendPrefix text ensure ++ normalizeNewlines content (dominantNewline text))
        (.append content ensure)
        (appendedRange text (normalizeNewlines content (dominantNewline text))) ↔
      StaysApart text (.append content ensure) := by
  have hcontent := normalizeNewlines_ne_empty hne (dominantNewline_ne_empty text)
  by_cases hempty : text = ""
  · subst hempty
    refine iff_of_true (reports_append_of_closed (appendPrefix_of_ends (.inl rfl)) hcontent ?_)
      (.inl rfl)
    intro l hl
    cases hl
  obtain ⟨init, l, hold⟩ : ∃ init l, fileLines text = init ++ [l] := by
    rcases List.eq_nil_or_concat (fileLines text) with hnil | ⟨init, l, hold⟩
    · exact absurd hnil (fileLines_ne_nil hempty)
    · exact ⟨init, l, by rw [hold, List.concat_eq_append]⟩
  obtain ⟨hending, hends, hcr⟩ := last_fileLines hold
  rw [StaysApart, or_iff_right hempty, hold, List.getLast?_concat]
  -- the content is cut off from a text whose last line is ended
  have hclosed : lineEnds.IsEnding l.ending → ¬lineEnds.Pairs l.ending
      (fileLines (normalizeNewlines content (dominantNewline text))) →
      lineEnds.Closed (fileLines text)
        (fileLines (normalizeNewlines content (dominantNewline text))) := by
    intro h₁ h₂ l' hl'
    rw [hold, List.getLast?_concat] at hl'
    cases hl'
    exact ⟨h₁, h₂⟩
  cases hnl : endsWithNewline text with
  | true =>
    have hseparator : appendPrefix text ensure = "" := appendPrefix_of_ends (.inr (.inl hnl))
    rw [and_iff_right rfl, or_iff_left (fun h => (by cases h.1))]
    by_cases hpair : text.toList.getLast? = some '\r' ∧
        (normalizeNewlines content (dominantNewline text)).toList.head? = some '\n'
    · exact iff_of_false (not_reports_of_pair hold hseparator hcontent hpair.1 hpair.2)
        (not_not.mpr hpair)
    · refine iff_of_true (reports_append_of_closed hseparator hcontent
        (hclosed (hends hnl) fun hp => hpair ⟨hcr.mpr hp.1, head?_of_fileLines hp.2⟩)) hpair
  | false =>
    rw [or_iff_right (fun h => (by cases h.1)), and_iff_right rfl]
    have hnotcr : l.ending ≠ ['\r'] := by
      intro heq
      rw [endsWithNewline, hcr.mpr heq] at hnl
      revert hnl
      decide
    have hlast : (∃ l', some l = some l' ∧ l'.ending = []) ↔ l.ending = [] := by
      constructor
      · rintro ⟨l', hl', hnone⟩
        cases hl'
        exact hnone
      · intro hnone
        exact ⟨l, rfl, hnone⟩
    rw [hlast]
    rcases hending with hended | ⟨hnone, htext⟩
    · cases hensure : ensure with
      | true =>
        subst hensure
        exact iff_of_false (not_reports_of_blank hold (appendPrefix_of_not_ends rfl hempty hnl)
          hcontent hended hnotcr) fun h => hended.ne_nil (h.mp rfl)
      | false =>
        subst hensure
        exact iff_of_true (reports_append_of_closed
          (appendPrefix_of_ends (.inr (.inr rfl))) hcontent
          (hclosed hended fun hp => hnotcr hp.1))
          (iff_of_false Bool.false_ne_true hended.ne_nil)
    · cases hensure : ensure with
      | true =>
        subst hensure
        exact iff_of_true (reports_of_ensured hold (appendPrefix_of_not_ends rfl hempty hnl)
          hcontent hnone htext) (iff_of_true rfl hnone)
      | false =>
        subst hensure
        exact iff_of_false (not_reports_of_unended hold (appendPrefix_of_ends (.inr (.inr rfl)))
          hcontent hnone htext) fun h => Bool.false_ne_true (h.mpr hnone)

end

/-! ### What is reported -/

/-- **The reported lines are the lines that changed** exactly if the new lines are some, and stay
apart from the old ones. -/
theorem reported_iff (limits : WorkspaceInspectionLimits) (hash : String → String)
    (text newText expected : String) (change : FileChange) (response : MutationResponse)
    (h : change.carryOut limits hash text expected = .ok (response, newText)) :
    ∃ range, response.changedLineRanges = [range] ∧
      (ReportsChange limits text newText change range ↔ StaysApart text change) := by
  cases change with
  | replace range replacementText =>
    obtain ⟨-, -, -, -, -, hresponse⟩ := replaceRangeOnce_eq_ok.mp h
    exact ⟨replacedRange range replacementText, by rw [hresponse], replace_reports_iff h⟩
  | append content ensure =>
    obtain ⟨hne, rfl, hranges⟩ := appendOnce_ok h
    exact ⟨_, hranges, append_reports_iff hne⟩

def secondLine : WorkspaceLineRange := ⟨2, 2, by decide, by decide⟩

/-- **Content that goes on with the last line** is reported as a line of its own. -/
theorem appended_line_joined :
    ((FileChange.append "b" false).carryOut {} id "a" "a").map
        (fun x => (x.1.changedLineRanges, x.2)) = .ok ([secondLine], "ab") ∧
      ¬ReportsChange {} "a" "ab" (.append "b" false) secondLine := by
  refine ⟨by decide +kernel, fun h => ?_⟩
  have hfirst := h.before 1 (le_refl _) (by decide)
  revert hfirst
  decide +kernel

/-- Content that is appended to a file that ends with a newline. -/
theorem reported_iff_line :
    ∃ response, (FileChange.append "b" true).carryOut {} id "a\n" "a\n" = .ok (response, "a\nb") ∧
      ∃ range, response.changedLineRanges = [range] ∧
        (ReportsChange {} "a\n" "a\nb" (.append "b" true) range ↔
          StaysApart "a\n" (.append "b" true)) := by
  have hok : (FileChange.append "b" true).carryOut {} id "a\n" "a\n" =
      .ok ({
        changedLineRanges := [secondLine]
        beforeHash := "a\n"
        afterHash := "a\nb"
        bytesWritten := 3 }, "a\nb") := by decide +kernel
  exact ⟨_, hok, reported_iff {} id _ _ _ _ _ hok⟩

end PrecisionFiles

end Taskweavn
