import Taskweavn.Lib.LineRange
import Taskweavn.Py.Text
import Taskweavn.Workspace.PrecisionFiles

/-!
# Replacing a range of a file

`replace_range` should touch the range and nothing else (`TouchesOnlyRange`), and leave the file
alone when a range is replaced by the text of its own lines (`KeepsRange`).  It cuts the file at
every character where `str.splitlines` cuts, and joins all lines with the dominant newline.

`touches_only_range_iff` says when that is the file again: **every line has to end in the dominant
newline already**, the last one perhaps in nothing, and no empty line may be left at the end.
-/

namespace Taskweavn

open Lib Py

namespace PrecisionFiles

def fileLines (text : String) : List (Line Char) := lineEnds.lines text.toList

/-! ### Texts as lists of characters -/

theorem map_toList_splitLines (text : String) :
    (splitLines text).map String.toList = (fileLines text).map Line.text := by
  have hcut : (splitlines text).map String.toList = (fileLines text).map Line.text := by
    rw [splitlines, List.map_map]
    exact List.map_congr_left fun l _ => String.toList_ofList
  rw [splitLines]
  split
  · next h =>
    subst h
    rfl
  · exact hcut

theorem length_splitLines (text : String) : (splitLines text).length = (fileLines text).length := by
  rw [← List.length_map (f := String.toList), map_toList_splitLines, List.length_map]

theorem map_toList_injective {l l' : List String} (h : l.map String.toList = l'.map String.toList) :
    l = l' :=
  List.map_injective_iff.mpr (fun _ _ => String.toList_inj.mp) h

theorem toList_joinLines (lines : List String) (newline : String) (ends : Bool) :
    (joinLines lines newline ends).toList =
      LineEnds.joinLines newline.toList ends (lines.map String.toList) := by
  have htext : (newline.intercalate lines).toList =
      newline.toList.intercalate (lines.map String.toList) := String.toList_intercalate
  have hempty : newline.intercalate lines ≠ "" ↔
      newline.toList.intercalate (lines.map String.toList) ≠ [] := by
    rw [← htext]
    exact not_congr String.toList_eq_nil_iff.symm
  rw [joinLines, LineEnds.joinLines]
  by_cases h : ends = true ∧ newline.intercalate lines ≠ ""
  · rw [if_pos h, if_pos ⟨h.1, hempty.mp h.2⟩, String.toList_append, htext]
  · rw [if_neg h, if_neg fun h' => h ⟨h'.1, hempty.mpr h'.2⟩, htext]

theorem plain_splitLines (text : String) :
    lineEnds.Plain ((splitLines text).map String.toList) := by
  rw [map_toList_splitLines]
  intro t ht
  obtain ⟨l, hl, rfl⟩ := List.mem_map.mp ht
  exact (LineEnds.reads_lines text.toList).not_isEnd l hl

theorem isNewline_dominantNewline (text : String) :
    lineEnds.IsNewline (dominantNewline text).toList := by
  rw [dominantNewline]
  split
  · exact .inl rfl
  · split
    · exact .inr (.inr rfl)
    · exact .inr (.inl rfl)

theorem getLast?_newline {newline : List Char} (h : lineEnds.IsNewline newline) :
    newline.getLast? = some '\n' ∨ newline.getLast? = some '\r' := by
  rcases h with rfl | rfl | rfl
  · exact .inl rfl
  · exact .inl rfl
  · exact .inr rfl

theorem getLast?_fileLines {text : String} {l : Line Char}
    (h : (fileLines text).getLast? = some l) :
    text.toList.getLast? = (l.text ++ l.ending).getLast? := by
  obtain ⟨init, hinit⟩ := List.getLast?_eq_some_iff.mp h
  have htext : text.toList = Line.render (init ++ [l]) := by
    rw [← hinit]
    exact (LineEnds.render_lines text.toList).symm
  have hne : l.text ++ l.ending ≠ [] := by
    have hreads : lineEnds.Reads (fileLines text) := LineEnds.reads_lines text.toList
    rw [hinit] at hreads
    have hlast := hreads.drop init.length
    rw [List.drop_left] at hlast
    rcases hlast.2 with ⟨hend, -⟩ | ⟨-, hne, -⟩
    · exact List.append_ne_nil_of_right_ne_nil _ hend.ne_nil
    · exact List.append_ne_nil_of_left_ne_nil hne _
  rw [htext, Line.render_append, Line.render_cons, Line.render_nil, List.append_nil,
    List.getLast?_append_of_ne_nil _ hne]

theorem endsAlike_fileLines (text : String) :
    LineEnds.EndsAlike (dominantNewline text).toList (endsWithNewline text) (fileLines text) := by
  intro l hl
  have hchar := getLast?_fileLines hl
  constructor
  · intro hnewline
    have hnl := isNewline_dominantNewline text
    rw [hnewline, List.getLast?_append_of_ne_nil _ hnl.isEnding.ne_nil] at hchar
    rw [endsWithNewline, hchar]
    rcases getLast?_newline hnl with h | h
    · rw [h]
      rfl
    · rw [h]
      rfl
  · intro hnone
    rw [hnone, List.append_nil] at hchar
    have hplain : ∀ c ∈ l.text, lineEnds.isEnd c = false :=
      (LineEnds.reads_lines text.toList).not_isEnd l (List.mem_of_getLast? hl)
    have hnot : ∀ c, lineEnds.isEnd c = true → text.toList.getLast? ≠ some c := by
      intro c hc hlast
      rw [hchar] at hlast
      rw [hplain c (List.mem_of_getLast? hlast)] at hc
      cases hc
    rw [endsWithNewline, decide_eq_false (hnot '\n' (by decide)),
      decide_eq_false (hnot '\r' (by decide))]
    rfl

/-! ### What a replacement should do -/

def textBefore (text : String) (line : ℕ) : List Char :=
  Line.render ((fileLines text).take (line - 1))

def textAfter (text : String) (line : ℕ) : List Char := Line.render ((fileLines text).drop line)

/-- The file before the range and after it is what it was, and is cut into the new lines. -/
structure TouchesOnlyRange (text newText : String) (range : WorkspaceLineRange)
    (replacementText : String) : Prop where
  before : textBefore newText range.startLine = textBefore text range.startLine
  after : textAfter newText (range.startLine - 1 + (replacementLines replacementText).length) =
    textAfter text range.endLine
  lines : splitLines newText = newLines text range replacementText

/-- The lines of a range, joined by newlines. -/
def rangeText (text : String) (range : WorkspaceLineRange) : String :=
  "\n".intercalate (((splitLines text).take range.endLine).drop (range.startLine - 1))

/-- A range that is replaced by its own lines leaves the file as it is. -/
def KeepsRange (limits : WorkspaceInspectionLimits) (hash : String → String) (text : String)
    (range : WorkspaceLineRange) : Prop :=
  ∀ expected response newText,
    replaceRangeOnce limits hash text range (rangeText text range) expected =
      .ok (response, newText) → newText = text

/-- The ends of the lines are the ones that are written, where a line has an end. -/
def EndsInNewline (text : String) (ls : List (Line Char)) : Prop :=
  ∀ l ∈ ls, LineEnds.Alike (dominantNewline text).toList l

/-- The files and the replacements for which the lines that are joined again are the file. -/
structure Rejoins (limits : WorkspaceInspectionLimits) (text : String) (range : WorkspaceLineRange)
    (replacementText : String) : Prop where
  before : EndsInNewline text ((fileLines text).take (range.startLine - 1))
  after : EndsInNewline text ((fileLines text).drop range.endLine)
  /-- Something follows the lines before the range, be it the last newline. -/
  follows : replacementLines replacementText ≠ [] ∨ range.endLine < (splitLines text).length ∨
    range.startLine = 1 ∨ endsWithNewline text = true
  /-- No empty line is left at the end. -/
  last : (newLines text range replacementText).getLast? = some "" →
    endsWithNewline text = true ∧ newLines text range replacementText ≠ [""]
  /-- The lines of the range, where they are not too many to be written. -/
  inside : (rangeText text range).utf8ByteSize ≤ limits.precisionWriteMaxReplacementBytes →
    EndsInNewline text (((fileLines text).take range.endLine).drop (range.startLine - 1)) ∧
      (((splitLines text).take range.endLine).drop (range.startLine - 1)).getLast? ≠ some ""

/-! ### What it does -/

section

variable {limits : WorkspaceInspectionLimits} {hash : String → String} {text newText : String}
  {range : WorkspaceLineRange} {replacementText expected : String} {response : MutationResponse}

theorem readTextBytes_ok {file : String} (h : readTextBytes limits file = .ok text) :
    text = file := by
  rw [readTextBytes] at h
  split at h
  · cases h
  · split at h
    · cases h
    · exact (Except.ok.inj h).symm

theorem replaceRangeOnce_eq_ok :
    replaceRangeOnce limits hash text range replacementText expected = .ok (response, newText) ↔
      replacementText.utf8ByteSize ≤ limits.precisionWriteMaxReplacementBytes ∧
        readTextBytes limits text = .ok text ∧ hash text = expected ∧
        range.endLine ≤ (splitLines text).length ∧
        newText = joinLines (newLines text range replacementText) (dominantNewline text)
          (endsWithNewline text) ∧
        response = {
          changedLineRanges := [replacedRange range replacementText]
          beforeHash := hash text
          afterHash := hash newText
          bytesWritten := newText.utf8ByteSize } := by
  rw [replaceRangeOnce]
  by_cases hsize : limits.precisionWriteMaxReplacementBytes < replacementText.utf8ByteSize
  · rw [if_pos hsize]
    exact iff_of_false (fun h => by cases h) fun h => absurd h.1 (not_le.mpr hsize)
  rw [if_neg hsize, and_iff_right (not_lt.mp hsize)]
  cases hread : readTextBytes limits text with
  | error e => exact iff_of_false (fun h => by cases h) fun h => by cases h.1
  | ok read =>
    obtain rfl := readTextBytes_ok hread
    rw [and_iff_right rfl]
    show (if hash read ≠ expected then _ else _) = _ ↔ _
    by_cases hhash : hash read = expected
    · rw [if_neg (not_not.mpr hhash), and_iff_right hhash]
      by_cases hlength : (splitLines read).length < range.endLine
      · rw [if_pos hlength]
        exact iff_of_false (fun h => by cases h) fun h => absurd h.1 (not_le.mpr hlength)
      · rw [if_neg hlength, and_iff_right (not_lt.mp hlength)]
        constructor
        · intro h
          cases h
          exact ⟨rfl, rfl⟩
        · rintro ⟨rfl, rfl⟩
          rfl
    · rw [if_pos hhash]
      exact iff_of_false (fun h => by cases h) fun h => absurd h.1 hhash

/-! ### The range between the lines around it -/

theorem fileLines_split (text : String) (range : WorkspaceLineRange) :
    (fileLines text).take (range.startLine - 1) ++
        ((fileLines text).take range.endLine).drop (range.startLine - 1) ++
      (fileLines text).drop range.endLine = fileLines text := by
  have hle : range.startLine - 1 ≤ range.endLine := le_trans (Nat.sub_le _ _) range.ordered
  have htake : (fileLines text).take (range.startLine - 1) =
      ((fileLines text).take range.endLine).take (range.startLine - 1) := by
    rw [List.take_take, min_eq_left hle]
  rw [htake, List.take_append_drop, List.take_append_drop]

theorem reads_split (text : String) (range : WorkspaceLineRange) :
    lineEnds.Reads ((fileLines text).take (range.startLine - 1) ++
        ((fileLines text).take range.endLine).drop (range.startLine - 1) ++
      (fileLines text).drop range.endLine) := by
  rw [fileLines_split]
  exact LineEnds.reads_lines text.toList

theorem range_ne_nil (h : range.endLine ≤ (fileLines text).length) :
    ((fileLines text).take range.endLine).drop (range.startLine - 1) ≠ [] := by
  have hstart := range.start_pos
  have hordered := range.ordered
  rw [Ne, List.drop_eq_nil_iff, List.length_take]
  omega

theorem length_before (h : range.endLine ≤ (fileLines text).length) :
    ((fileLines text).take (range.startLine - 1)).length = range.startLine - 1 := by
  have hordered := range.ordered
  rw [List.length_take]
  omega

theorem map_toList_newLines (text : String) (range : WorkspaceLineRange)
    (replacementText : String) :
    (newLines text range replacementText).map String.toList =
      ((fileLines text).take (range.startLine - 1)).map Line.text ++
          (replacementLines replacementText).map String.toList ++
        ((fileLines text).drop range.endLine).map Line.text := by
  rw [newLines, List.map_append, List.map_append, List.map_take, List.map_drop,
    map_toList_splitLines, ← List.map_take, ← List.map_drop]

theorem plain_newLines (text : String) (range : WorkspaceLineRange) (replacementText : String) :
    lineEnds.Plain ((newLines text range replacementText).map String.toList) := by
  intro t ht
  obtain ⟨line, hline, rfl⟩ := List.mem_map.mp ht
  rcases List.mem_append.mp hline with hline | hline
  · rcases List.mem_append.mp hline with hline | hline
    · exact plain_splitLines text _ (List.mem_map_of_mem (List.mem_of_mem_take hline))
    · exact plain_splitLines _ _ (List.mem_map_of_mem hline)
  · exact plain_splitLines text _ (List.mem_map_of_mem (List.mem_of_mem_drop hline))

theorem resplits_iff {ends : Bool} {lines : List String} :
    LineEnds.Resplits ends (lines.map String.toList) ↔
      (lines.getLast? = some "" → ends = true ∧ lines ≠ [""]) := by
  have hlast : (lines.map String.toList).getLast? = some [] ↔ lines.getLast? = some "" := by
    rw [List.getLast?_map]
    cases lines.getLast? with
    | none => simp
    | some line => simp [String.toList_eq_nil_iff]
  have hone : lines.map String.toList = [[]] ↔ lines = [""] :=
    ⟨fun h => map_toList_injective (by simpa using h), fun h => by rw [h]; rfl⟩
  rw [LineEnds.Resplits, hlast, Ne, hone]

theorem endsAlike_split (text : String) (range : WorkspaceLineRange) :
    LineEnds.EndsAlike (dominantNewline text).toList (endsWithNewline text)
      ((fileLines text).take (range.startLine - 1) ++
          ((fileLines text).take range.endLine).drop (range.startLine - 1) ++
        (fileLines text).drop range.endLine) := by
  rw [fileLines_split]
  exact endsAlike_fileLines text

theorem splitLines_joinLines_iff (text : String) {lines : List String}
    (hplain : lineEnds.Plain (lines.map String.toList)) (ends : Bool) :
    splitLines (joinLines lines (dominantNewline text) ends) = lines ↔
      LineEnds.Resplits ends (lines.map String.toList) := by
  rw [← LineEnds.map_text_lines_joinLines (isNewline_dominantNewline text) hplain,
    ← toList_joinLines, ← fileLines, ← map_toList_splitLines]
  exact ⟨fun heq => by rw [heq], map_toList_injective⟩

theorem fileLines_joined
    (hsplit : LineEnds.Resplits (endsWithNewline text)
      ((newLines text range replacementText).map String.toList)) :
    fileLines (joinLines (newLines text range replacementText) (dominantNewline text)
        (endsWithNewline text)) =
      Line.endedWith (dominantNewline text).toList
        (LineEnds.finalEnd (dominantNewline text).toList (endsWithNewline text))
        (((fileLines text).take (range.startLine - 1)).map Line.text ++
          (replacementLines replacementText).map String.toList ++
            ((fileLines text).drop range.endLine).map Line.text) := by
  rw [fileLines, toList_joinLines, LineEnds.lines_joinLines (isNewline_dominantNewline text)
    (plain_newLines text range replacementText) hsplit, map_toList_newLines]

/-- **What a replacement leaves alone.** -/
theorem touchesOnlyRange_iff
    (h : replaceRangeOnce limits hash text range replacementText expected = .ok
    (response, newText)) :
    TouchesOnlyRange text newText range replacementText ↔
      (EndsInNewline text ((fileLines text).take (range.startLine - 1)) ∧
        (replacementLines replacementText ≠ [] ∨ range.endLine < (splitLines text).length ∨
          range.startLine = 1 ∨ endsWithNewline text = true)) ∧
      EndsInNewline text ((fileLines text).drop range.endLine) ∧
      ((newLines text range replacementText).getLast? = some "" →
        endsWithNewline text = true ∧ newLines text range replacementText ≠ [""]) := by
  obtain ⟨-, -, -, hend, rfl, -⟩ := replaceRangeOnce_eq_ok.mp h
  rw [length_splitLines] at hend ⊢
  have hlength := length_before hend
  have hstart := range.start_pos
  have hlines := splitLines_joinLines_iff text (plain_newLines text range replacementText)
    (endsWithNewline text)
  have hbefore := LineEnds.take_rejoined_iff (dominantNewline text).toList (endsWithNewline text)
    (reads_split text range) (range_ne_nil hend)
      ((replacementLines replacementText).map String.toList)
  have hafter := LineEnds.drop_rejoined_iff (reads_split text range) (endsAlike_split text range)
    ((replacementLines replacementText).map String.toList)
  have hfirst : (fileLines text).take (range.startLine - 1) = [] ↔ range.startLine = 1 := by
    rw [← List.length_eq_zero_iff, hlength]
    omega
  have hmore :
      (fileLines text).drop range.endLine ≠ [] ↔ range.endLine < (fileLines text).length := by
    rw [Ne, List.drop_eq_nil_iff, not_le]
  rw [hlength, hfirst, hmore, Ne, List.map_eq_nil_iff] at hbefore
  rw [hlength, List.length_map] at hafter
  have hold := LineEnds.reads_lines (E := lineEnds) text.toList
  have hnew := LineEnds.reads_lines (E := lineEnds) (joinLines (newLines text range replacementText)
    (dominantNewline text) (endsWithNewline text)).toList
  constructor
  · rintro ⟨hb, ha, hl⟩
    have hsplit := hlines.mp hl
    have htake := LineEnds.render_injective (hnew.take _) (hold.take _) hb
    have hdrop := LineEnds.render_injective (hnew.drop _) (hold.drop _) ha
    rw [← fileLines, fileLines_joined hsplit] at htake hdrop
    exact ⟨hbefore.mp htake, hafter.mp hdrop, resplits_iff.mp hsplit⟩
  · rintro ⟨hb, ha, hl⟩
    have hsplit := resplits_iff.mpr hl
    refine ⟨?_, ?_, hlines.mpr hsplit⟩
    · rw [textBefore, fileLines_joined hsplit, hbefore.mpr hb, textBefore]
    · rw [textAfter, fileLines_joined hsplit, hafter.mpr ha, textAfter]

/-! ### A range that is replaced by its own lines -/

theorem replacePair_of_notMem {new : List Char} {a b : Char} : ∀ {l : List Char}, a ∉ l →
    replacePair a b new l = l
  | [], _ => rfl
  | [_], _ => rfl
  | c :: d :: rest, h => by
    have hc : c ≠ a := fun heq => h (heq ▸ List.mem_cons_self)
    rw [replacePair, if_neg fun hpair => hc hpair.1,
      replacePair_of_notMem fun hmem => h (List.mem_cons_of_mem c hmem)]

theorem normalizeNewlines_of_notMem {text : String} (h : '\r' ∉ text.toList) :
    normalizeNewlines text "\n" = text := by
  have hmap : text.toList.map (fun c => if c = '\r' then '\n' else c) = text.toList := by
    refine (List.map_congr_left fun c hc => ?_).trans (List.map_id _)
    exact if_neg fun heq : c = '\r' => h (heq ▸ hc)
  have hsingle : ∀ c : Char, (if c = '\n' then "\n".toList else [c]) = [c] := by
    intro c
    split
    · next heq => rw [heq]; rfl
    · rfl
  rw [normalizeNewlines, replacePair_of_notMem h, hmap]
  simp only [hsingle, List.flatMap_singleton', String.ofList_toList]

theorem toList_rangeText (text : String) (range : WorkspaceLineRange) :
    (rangeText text range).toList = ['\n'].intercalate
      ((((fileLines text).take range.endLine).drop (range.startLine - 1)).map Line.text) := by
  rw [rangeText, String.toList_intercalate, List.map_drop, List.map_take, map_toList_splitLines,
    ← List.map_take, ← List.map_drop]
  rfl

theorem replacementLines_rangeText (text : String) (range : WorkspaceLineRange) :
    (replacementLines (rangeText text range)).map String.toList =
      (lineEnds.lines (['\n'].intercalate
        ((((fileLines text).take range.endLine).drop (range.startLine - 1)).map Line.text))).map
          Line.text := by
  have hcr : '\r' ∉ (rangeText text range).toList := by
    rw [toList_rangeText]
    intro hmem
    rcases mem_of_mem_intercalate hmem with h | ⟨t, ht, h⟩
    · exact absurd h (by decide)
    · obtain ⟨l, hl, rfl⟩ := List.mem_map.mp ht
      have hplain := (LineEnds.reads_lines (E := lineEnds) text.toList).not_isEnd l
        (List.mem_of_mem_take (List.mem_of_mem_drop hl)) _ h
      exact absurd hplain (by decide)
  rw [replacementLines, normalizeNewlines_of_notMem hcr, map_toList_splitLines, fileLines,
    toList_rangeText]

/-- **When a range that is replaced by its own lines is kept.** -/
theorem keepsRange_iff
    (h : replaceRangeOnce limits hash text range replacementText expected = .ok
    (response, newText)) :
    KeepsRange limits hash text range ↔
      ((rangeText text range).utf8ByteSize ≤ limits.precisionWriteMaxReplacementBytes →
        EndsInNewline text (fileLines text) ∧
          (((splitLines text).take range.endLine).drop (range.startLine - 1)).getLast? ≠
          some "") := by
  obtain ⟨-, hread, -, hend, -, -⟩ := replaceRangeOnce_eq_ok.mp h
  have hb := range_ne_nil (by rwa [length_splitLines] at hend)
  have hjoined : joinLines (newLines text range (rangeText text range)) (dominantNewline text)
      (endsWithNewline text) = text ↔
      EndsInNewline text (fileLines text) ∧
        (((splitLines text).take range.endLine).drop (range.startLine - 1)).getLast? ≠ some "" := by
    have hkept := LineEnds.rejoined_iff (reads_split text range) hb (isNewline_dominantNewline text)
      (endsAlike_split text range)
    rw [fileLines_split] at hkept
    have hlast : ((((fileLines text).take range.endLine).drop (range.startLine - 1)).map
        Line.text).getLast? = some [] ↔
        (((splitLines text).take range.endLine).drop (range.startLine - 1)).getLast? = some "" := by
      rw [List.map_drop, List.map_take, ← map_toList_splitLines, ← List.map_take, ← List.map_drop,
        List.getLast?_map]
      cases (((splitLines text).take range.endLine).drop (range.startLine - 1)).getLast? with
      | none => simp
      | some line => simp [String.toList_eq_nil_iff]
    rw [← String.toList_inj, toList_joinLines, map_toList_newLines, replacementLines_rangeText,
      Ne, ← hlast, EndsInNewline]
    refine Iff.trans ?_ hkept
    rw [show Line.render (fileLines text) = text.toList from LineEnds.render_lines text.toList]
    exact Iff.rfl
  rw [← hjoined]
  constructor
  · intro hkeeps hsize
    exact (hkeeps (hash text) _ _ (replaceRangeOnce_eq_ok.mpr
      ⟨hsize, hread, rfl, hend, rfl, rfl⟩))
  · intro hkeeps expected' response' newText' hok
    obtain ⟨hsize, -, -, -, rfl, -⟩ := replaceRangeOnce_eq_ok.mp hok
    exact hkeeps hsize

/-- **Replacing a range touches only the range** exactly if the lines that are joined again are the
file. -/
theorem touches_only_range_iff (limits : WorkspaceInspectionLimits) (hash : String → String)
    (text newText : String) (range : WorkspaceLineRange) (replacementText expected : String)
    (response : MutationResponse)
    (h : replaceRangeOnce limits hash text range replacementText expected = .ok
    (response, newText)) :
    TouchesOnlyRange text newText range replacementText ∧ KeepsRange limits hash text range ↔
      Rejoins limits text range replacementText := by
  rw [touchesOnlyRange_iff h, keepsRange_iff h]
  constructor
  · rintro ⟨⟨⟨hbefore, hfollows⟩, hafter, hlast⟩, hinside⟩
    refine ⟨hbefore, hafter, hfollows, hlast, fun hsize => ?_⟩
    obtain ⟨hall, hblank⟩ := hinside hsize
    exact ⟨fun l hl => hall l (List.mem_of_mem_take (List.mem_of_mem_drop hl)), hblank⟩
  · intro hre
    refine ⟨⟨⟨hre.before, hre.follows⟩, hre.after, hre.last⟩, fun hsize => ?_⟩
    obtain ⟨hinside, hblank⟩ := hre.inside hsize
    refine ⟨fun l hl => ?_, hblank⟩
    rw [← fileLines_split text range] at hl
    rcases List.mem_append.mp hl with hl | hl
    · rcases List.mem_append.mp hl with hl | hl
      · exact hre.before l hl
      · exact hinside l hl
    · exact hre.after l hl

end

/-! ### Two kinds of newlines -/

def thirdLine : WorkspaceLineRange := ⟨3, 3, by decide, by decide⟩

/-- The first line ends in a carriage return and a line feed, and line feeds are more. -/
def mixedFile : String := "a\r\nb\nc\n"

/-- **The end of the first line is rewritten** when the third is replaced. -/
theorem mixed_newlines_rewritten :
    (replaceRangeOnce {} id mixedFile thirdLine "d" mixedFile).map Prod.snd = .ok "a\nb\nd\n" ∧
      ¬TouchesOnlyRange mixedFile "a\nb\nd\n" thirdLine "d" := by
  refine ⟨by decide +kernel, fun h => ?_⟩
  have hbefore := h.before
  revert hbefore
  decide +kernel

/-- A file with one kind of newlines. -/
theorem touches_only_range_iff_feeds :
    ∃ response, replaceRangeOnce {} id "a\nb\nc\n" thirdLine "d" "a\nb\nc\n" =
        .ok (response, "a\nb\nd\n") ∧
      (TouchesOnlyRange "a\nb\nc\n" "a\nb\nd\n" thirdLine "d" ∧
          KeepsRange {} id "a\nb\nc\n" thirdLine ↔ Rejoins {} "a\nb\nc\n" thirdLine "d") := by
  have hok : replaceRangeOnce {} id "a\nb\nc\n" thirdLine "d" "a\nb\nc\n" =
      .ok ({
        changedLineRanges := [thirdLine]
        beforeHash := "a\nb\nc\n"
        afterHash := "a\nb\nd\n"
        bytesWritten := 6 }, "a\nb\nd\n") := by decide +kernel
  exact ⟨_, hok, touches_only_range_iff {} id _ _ _ _ _ _ hok⟩

end PrecisionFiles

end Taskweavn
