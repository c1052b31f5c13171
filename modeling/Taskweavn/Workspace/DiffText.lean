import Mathlib.Data.Bool.AllAny
import Taskweavn.Workspace.DiffHunks

/-!
# Unified diffs that are read back

A unified diff of one file has some header lines and then hunks, each with a header of its own, the
lines of its body and after some of these the remark that there is no newline at the end.  Every
line is ended by a line feed and may hold any other character.

`Reconstructs` says that the hunks that were read are those of the diff, with the right numbers and
the lines of the two texts.  `reconstructs_iff` says when that is so: **no line of a body may hold
another character at which `str.splitlines` cuts**, and what is cut off a header must not be taken
for a line (`Unbroken`).
-/

namespace Taskweavn

open Lib Py

/-! ### Diffs -/

structure BodyLine where
  kind : DiffLineKind
  text : List Char
  feedFree : '\n' ∉ text
  /-- `\ No newline at end of file` follows. -/
  noNewline : Bool

/-- A hunk with a header that counts its lines. -/
structure DeclaredHunk where
  oldStart : ℕ
  oldCount : Option ℕ
  newStart : ℕ
  newCount : Option ℕ
  /-- What follows the second `@@`. -/
  context : List Char
  feedFree : '\n' ∉ context
  body : List BodyLine
  old_count : body.countP (fun line => line.kind.onOld) = oldCount.getD 1
  new_count : body.countP (fun line => line.kind.onNew) = newCount.getD 1

structure UnifiedDiff where
  header : List (List Char)
  feedFree : ∀ line ∈ header, '\n' ∉ line
  not_hunk : ∀ line ∈ header, line.head? ≠ some '@'
  hunks : List DeclaredHunk

/-- The lines of a text as a diff counts them; a line feed at the end begins no other line. -/
def diffTextLines (text : List Char) : List (List Char) :=
  if (text.splitOn '\n').getLast? = some [] then (text.splitOn '\n').dropLast
  else text.splitOn '\n'

def lineAt (text : List Char) (number : ℕ) : Option (List Char) :=
  if number = 0 then none else (diffTextLines text)[number - 1]?

/-- Some lines of a hunk are those of the two texts from these numbers on. -/
def FitsAt (old new : List Char) : ℕ → ℕ → List BodyLine → Prop
  | _, _, [] => True
  | oldLine, newLine, line :: body =>
    (line.kind.onOld = true → lineAt old oldLine = some line.text) ∧
      (line.kind.onNew = true → lineAt new newLine = some line.text) ∧
        FitsAt old new (oldLine + line.kind.onOld.toNat) (newLine + line.kind.onNew.toNat) body

/-- The diff is one of these two texts. -/
def UnifiedDiff.Describes (d : UnifiedDiff) (old new : List Char) : Prop :=
  ∀ h ∈ d.hunks, FitsAt old new h.oldStart h.newStart h.body ∧
    h.oldStart ≤ (diffTextLines old).length ∧ h.newStart ≤ (diffTextLines new).length

/-! ### Writing a diff -/

/-- `start,count`; a count of one may be left out. -/
def rangeText (start : ℕ) (count : Option ℕ) : List Char :=
  Nat.toDigits 10 start ++ count.elim [] fun n => ',' :: Nat.toDigits 10 n

/-- The header of a hunk, up to the second `@@`. -/
def DeclaredHunk.title (h : DeclaredHunk) : List Char :=
  "@@ -".toList ++ rangeText h.oldStart h.oldCount ++ (" +".toList ++
    rangeText h.newStart h.newCount ++ " @@".toList)

def marker : DiffLineKind → Char
  | .context => ' '
  | .add => '+'
  | .delete => '-'

/-- The remark behind a last line that is not ended. -/
def noNewlineRemark : List Char := "\\ No newline at end of file".toList

def BodyLine.remarks (line : BodyLine) : List (List Char) :=
  if line.noNewline then [noNewlineRemark] else []

def DeclaredHunk.lines (h : DeclaredHunk) : List (List Char) :=
  (h.title ++ h.context) ::
    h.body.flatMap fun line => (marker line.kind :: line.text) :: line.remarks

def UnifiedDiff.render (d : UnifiedDiff) : String :=
  String.ofList
    ((d.header ++ d.hunks.flatMap DeclaredHunk.lines).flatMap fun line => line ++ ['\n'])

/-! ### What is read -/

/-- The statistics that `diff` answers with. -/
structure DiffStats where
  additions : ℕ
  deletions : ℕ
  hunkCount : ℕ
deriving DecidableEq

def diffStats (hunks : List DiffHunk) : DiffStats where
  additions := (hunks.flatMap DiffHunk.lines).countP fun line => line.kind = .add
  deletions := (hunks.flatMap DiffHunk.lines).countP fun line => line.kind = .delete
  hunkCount := hunks.length

def UnifiedDiff.stats (d : UnifiedDiff) : DiffStats where
  additions := (d.hunks.flatMap DeclaredHunk.body).countP fun line => line.kind = .add
  deletions := (d.hunks.flatMap DeclaredHunk.body).countP fun line => line.kind = .delete
  hunkCount := d.hunks.length

/-- The lines of a hunk are counted as its header says, numbered one after the other, and those of
the texts. -/
structure DiffHunk.Faithful (old new : List Char) (hunk : DiffHunk) : Prop where
  old_count : hunk.lines.countP (fun line => line.kind.onOld) = hunk.oldLines
  new_count : hunk.lines.countP (fun line => line.kind.onNew) = hunk.newLines
  old_numbers : hunk.lines.filterMap DiffLine.oldLine = List.range' hunk.oldStart hunk.oldLines
  new_numbers : hunk.lines.filterMap DiffLine.newLine = List.range' hunk.newStart hunk.newLines
  old_text : ∀ line ∈ hunk.lines, ∀ n, line.oldLine = some n → lineAt old n = some line.text.toList
  new_text : ∀ line ∈ hunk.lines, ∀ n, line.newLine = some n → lineAt new n = some line.text.toList

/-- The hunks that were read give the change back. -/
structure Reconstructs (old new : List Char) (d : UnifiedDiff) (hunks : List DiffHunk) : Prop where
  one_each : hunks.length = d.hunks.length
  faithful : ∀ hunk ∈ hunks, hunk.Faithful old new
  stats : diffStats hunks = d.stats

/-- What the lines of a hunk may hold. -/
structure DeclaredHunk.Unbroken (h : DeclaredHunk) : Prop where
  context : ∀ piece ∈ (lineEnds.pieces h.context).tail, piece.head? = some '\\'
  body : ∀ line ∈ h.body, ∀ c ∈ line.text, lineEnds.isEnd c = false

/-- What the lines of a diff may hold. -/
structure UnifiedDiff.Unbroken (D : DecimalDigits) (d : UnifiedDiff) : Prop where
  header : ∀ line ∈ d.header, Quiet (matchHunk D) (lineEnds.pieces line)
  hunks : ∀ h ∈ d.hunks, h.Unbroken

/-! ### Reading a header back -/

@[simp] theorem afterWord_append (word text : List Char) :
    afterWord word (word ++ text) = some text := by
  induction word with
  | nil => cases text <;> rfl
  | cons c word ih =>
    rw [List.cons_append, afterWord, if_pos rfl]
    exact ih

section

variable {D : DecimalDigits}

theorem DecimalDigits.value_toDigits (D : DecimalDigits) {n : ℕ} {c : Char}
    (h : c ∈ Nat.toDigits 10 n) : D.value c = some (c.toNat - '0'.toNat) := by
  have hdigit : c.isDigit = true := Nat.isDigit_of_mem_toDigits (by decide) (by decide) h
  have hlt : c.toNat < 128 := by
    rw [Char.isDigit, Bool.and_eq_true, decide_eq_true_iff, decide_eq_true_iff] at hdigit
    have : c.toNat ≤ 57 := UInt32.le_iff_toNat_le.mp hdigit.2
    omega
  rw [D.ascii c hlt, if_pos hdigit]

theorem takeNumber_toDigits (n : ℕ) {c : Char} (hc : D.value c = none) (rest : List Char) :
    takeNumber D (Nat.toDigits 10 n ++ c :: rest) = some (n, c :: rest) := by
  have htake : (Nat.toDigits 10 n ++ c :: rest).takeWhile (fun c => (D.value c).isSome) =
      Nat.toDigits 10 n := by
    rw [List.takeWhile_append_of_pos fun d hd => by rw [D.value_toDigits hd]; rfl,
      List.takeWhile_cons_of_neg (by rw [hc]; exact Bool.false_ne_true), List.append_nil]
  have hfold : ∀ (digits : List Char) (acc : ℕ),
    (∀ d ∈ digits, D.value d = some (d.toNat - '0'.toNat)) →
      digits.foldl (fun n c => n * 10 + (D.value c).getD 0) acc =
        Nat.ofDigitChars 10 digits acc := by
    intro digits
    induction digits with
    | nil => intro acc _; rw [List.foldl_nil, Nat.ofDigitChars_nil]
    | cons d digits ih =>
      intro acc h
      obtain ⟨hd, hdigits⟩ := List.forall_mem_cons.mp h
      rw [List.foldl_cons, ih _ hdigits, Nat.ofDigitChars_cons, hd, Option.getD_some, Nat.mul_comm]
  rw [takeNumber, htake, if_neg Nat.toDigits_ne_nil, hfold _ 0 fun d hd => D.value_toDigits hd,
    Nat.ofDigitChars_ten_toDigits, List.drop_left]

theorem takeRange_rangeText (start : ℕ) (count : Option ℕ) (rest : List Char) :
    takeRange D (rangeText start count ++ ' ' :: rest) = some (start, count, ' ' :: rest) := by
  have hspace : D.value ' ' = none := D.ascii ' ' (by decide)
  have hcomma : D.value ',' = none := D.ascii ',' (by decide)
  cases count with
  | none =>
    rw [rangeText, Option.elim_none, List.append_nil, takeRange, takeNumber_toDigits start hspace]
    rfl
  | some n =>
    rw [rangeText, Option.elim_some, List.append_assoc, List.cons_append, takeRange,
      takeNumber_toDigits start hcomma]
    show (takeNumber D (Nat.toDigits 10 n ++ ' ' :: rest)).bind _ = _
    rw [takeNumber_toDigits n hspace]
    rfl

/-- What is read of the header of a hunk, where a part of the section text is left. -/
def DeclaredHunk.read (h : DeclaredHunk) (context : List Char) : HunkMatch :=
  ⟨h.oldStart, h.oldCount, h.newStart, h.newCount, context⟩

/-- **The header of a hunk is read back.** -/
theorem matchHunk_title (h : DeclaredHunk) (context : List Char) :
    matchHunk D (h.title ++ context) = some (h.read context) := by
  have hold : h.title ++ context =
      "@@ -".toList ++ (rangeText h.oldStart h.oldCount ++ ' ' :: ('+' ::
        (rangeText h.newStart h.newCount ++ ' ' :: ("@@".toList ++ context)))) := by
    simp [DeclaredHunk.title]
  rw [hold, matchHunk, afterWord_append, Option.bind_eq_bind, Option.bind_some, takeRange_rangeText,
    Option.bind_eq_bind, Option.bind_some]
  show (afterWord " +".toList (" +".toList ++ _)).bind _ = _
  rw [afterWord_append, Option.bind_some]
  show (takeRange D (rangeText h.newStart h.newCount ++ ' ' :: ("@@".toList ++ context))).bind _ = _
  rw [takeRange_rangeText, Option.bind_some]
  show (afterWord " @@".toList (" @@".toList ++ context)).bind _ = _
  rw [afterWord_append]
  rfl

theorem matchHunk_eq_none {line : List Char} (h : line.head? ≠ some '@') :
    matchHunk D line = none := by
  cases line with
  | nil => rfl
  | cons c line =>
    have hc : '@' ≠ c := fun heq => h (by rw [heq]; rfl)
    show ((if '@' = c then _ else none : Option (List Char)).bind _) = none
    rw [if_neg hc]
    rfl

end

/-! ### What the lines of a diff are cut into -/

def BodyLine.first (line : BodyLine) : List Char :=
  marker line.kind :: line.text.takeWhile fun c => !lineEnds.isEnd c

/-- What is cut off the line of a body, with the remark behind it. -/
def BodyLine.extras (line : BodyLine) : List (List Char) :=
  (lineEnds.pieces line.text).tail ++ line.remarks

/-- What is left of the header of a hunk. -/
def DeclaredHunk.top (h : DeclaredHunk) : List Char :=
  h.title ++ h.context.takeWhile fun c => !lineEnds.isEnd c

def DeclaredHunk.below (h : DeclaredHunk) : List (List Char) :=
  (lineEnds.pieces h.context).tail ++ h.body.flatMap fun line => line.first :: line.extras

theorem pieces_cons_tail (text : List Char) :
    lineEnds.pieces text =
      (text.takeWhile fun c => !lineEnds.isEnd c) :: (lineEnds.pieces text).tail := by
  have hhead := LineEnds.head?_pieces (E := lineEnds) text
  obtain ⟨p, ps, hps⟩ := List.exists_cons_of_ne_nil (LineEnds.pieces_ne_nil (E := lineEnds) text)
  rw [hps] at hhead ⊢
  rw [Option.some.inj hhead]
  rfl

theorem pieces_append_tail {pre : List Char} (h : ∀ c ∈ pre, lineEnds.isEnd c = false)
    (text : List Char) :
    lineEnds.pieces (pre ++ text) =
      (pre ++ text.takeWhile fun c => !lineEnds.isEnd c) :: (lineEnds.pieces text).tail := by
  rw [LineEnds.pieces_append h, pieces_cons_tail text]
  rfl

theorem isEnd_eq_false_of_isDigit {c : Char} (h : c.isDigit = true) : lineEnds.isEnd c = false := by
  rw [Bool.eq_false_iff]
  intro hend
  have hmem : c ∈ ['\n', '\r', Char.ofNat 0x0b, Char.ofNat 0x0c, Char.ofNat 0x1c, Char.ofNat 0x1d,
    Char.ofNat 0x1e, Char.ofNat 0x85, Char.ofNat 0x2028, Char.ofNat 0x2029] :=
      of_decide_eq_true hend
  have hall : ∀ c ∈ ['\n', '\r', Char.ofNat 0x0b, Char.ofNat 0x0c, Char.ofNat 0x1c, Char.ofNat 0x1d,
    Char.ofNat 0x1e, Char.ofNat 0x85, Char.ofNat 0x2028, Char.ofNat 0x2029], c.isDigit = false :=
    List.all_iff_forall_prop.mp (by decide)
  rw [hall c hmem] at h
  cases h

theorem DeclaredHunk.isEnd_title (h : DeclaredHunk) : ∀ c ∈ h.title, lineEnds.isEnd c = false := by
  have hnumber : ∀ n, ∀ c ∈ Nat.toDigits 10 n, lineEnds.isEnd c = false := fun n c hc =>
    isEnd_eq_false_of_isDigit (Nat.isDigit_of_mem_toDigits (by decide) (by decide) hc)
  have hrange : ∀ start count, ∀ c ∈ rangeText start count, lineEnds.isEnd c = false := by
    intro start count c hc
    rcases List.mem_append.mp hc with hc | hc
    · exact hnumber start c hc
    · cases count with
      | none => cases hc
      | some n =>
        rcases List.mem_cons.mp hc with rfl | hc
        · decide
        · exact hnumber n c hc
  have hword : ∀ word ∈ ["@@ -".toList, " +".toList, " @@".toList],
      (word.all fun c => lineEnds.isEnd c = false) = true := by decide
  intro c hc
  simp only [DeclaredHunk.title, List.mem_append] at hc
  rcases hc with (hc | hc) | (hc | hc) | hc
  · exact List.all_iff_forall_prop.mp (hword _ (by simp)) c hc
  · exact hrange _ _ c hc
  · exact List.all_iff_forall_prop.mp (hword _ (by simp)) c hc
  · exact hrange _ _ c hc
  · exact List.all_iff_forall_prop.mp (hword _ (by simp)) c hc

theorem isEnd_marker (kind : DiffLineKind) : lineEnds.isEnd (marker kind) = false := by
  cases kind <;> decide

theorem BodyLine.flatMap_pieces_remarks (line : BodyLine) :
    line.remarks.flatMap lineEnds.pieces = line.remarks := by
  rw [BodyLine.remarks]
  split
  · rw [List.flatMap_singleton]
    exact LineEnds.pieces_of_not_isEnd (List.all_iff_forall_prop.mp (by decide))
  · rfl

theorem DeclaredHunk.flatMap_pieces_lines (h : DeclaredHunk) :
    h.lines.flatMap lineEnds.pieces = h.top :: h.below := by
  have hbody : ∀ body : List BodyLine,
      (body.flatMap fun line => (marker line.kind :: line.text) :: line.remarks).flatMap
        lineEnds.pieces = body.flatMap fun line => line.first :: line.extras := by
    intro body
    induction body with
    | nil => rfl
    | cons line body ih =>
      have hline : lineEnds.pieces (marker line.kind :: line.text) =
          line.first :: (lineEnds.pieces line.text).tail :=
        @pieces_append_tail [marker line.kind]
          (fun c hc => List.mem_singleton.mp hc ▸ isEnd_marker line.kind) line.text
      rw [List.flatMap_cons, List.flatMap_cons, List.flatMap_append, ih, List.flatMap_cons, hline,
        line.flatMap_pieces_remarks]
      rfl
  rw [DeclaredHunk.lines, List.flatMap_cons, hbody, pieces_append_tail h.isEnd_title]
  rfl

/-- **The lines that are read of a diff.** -/
theorem UnifiedDiff.splitlines_render (d : UnifiedDiff) :
    (splitlines d.render).map String.toList =
      d.header.flatMap lineEnds.pieces ++ d.hunks.flatMap fun h => h.top :: h.below := by
  have hhunks : (d.hunks.flatMap DeclaredHunk.lines).flatMap lineEnds.pieces =
      d.hunks.flatMap fun h => h.top :: h.below := by
    rw [List.flatMap_assoc]
    exact List.flatMap_congr fun h _ => h.flatMap_pieces_lines
  have hcut := LineEnds.map_text_lines_flatMap (E := lineEnds)
    (d.header ++ d.hunks.flatMap DeclaredHunk.lines)
  rw [← hhunks, ← List.flatMap_append, ← hcut, splitlines, List.map_map, UnifiedDiff.render,
    String.toList_ofList]
  exact List.map_congr_left fun l _ => String.toList_ofList

/-! ### The lines of one hunk -/

theorem lineKind_first (line : BodyLine) : lineKind line.first = line.kind := by
  rw [BodyLine.first]
  cases line.kind <;> rfl

theorem textValue_first (line : BodyLine) :
    textValue line.first = line.text.takeWhile fun c => !lineEnds.isEnd c := by
  rw [BodyLine.first]
  cases line.kind <;> rfl

theorem head?_first (line : BodyLine) : line.first.head? = some (marker line.kind) := rfl

theorem head?_first_ne (line : BodyLine) : line.first.head? ≠ some '\\' := by
  rw [head?_first]
  cases line.kind <;> decide

/-- What is cut off the lines of a hunk, and the remarks. -/
def DeclaredHunk.offcuts (h : DeclaredHunk) : List (List Char) :=
  (lineEnds.pieces h.context).tail ++ h.body.flatMap BodyLine.extras

theorem countP_shownLines_body (p : List Char → Bool) (body : List BodyLine) :
    (shownLines (body.flatMap fun line => line.first :: line.extras)).countP p =
      body.countP (fun line => p line.first) +
        (shownLines (body.flatMap BodyLine.extras)).countP p := by
  induction body with
  | nil => rfl
  | cons line body ih =>
    rw [List.flatMap_cons, List.flatMap_cons, shownLines, List.filter_append,
      List.filter_cons_of_pos (by simp [head?_first_ne]), ← shownLines, ← shownLines,
      List.countP_append,
      List.countP_cons, ih, List.countP_cons, shownLines, shownLines, shownLines,
      List.filter_append,
      List.countP_append]
    omega

theorem DeclaredHunk.countP_shownLines (h : DeclaredHunk) (p : DiffLineKind → Bool) :
    (shownLines h.below).countP (fun rawLine => p (lineKind rawLine)) =
      h.body.countP (fun line => p line.kind) +
        (shownLines h.offcuts).countP fun rawLine => p (lineKind rawLine) := by
  have hbody := countP_shownLines_body (fun rawLine => p (lineKind rawLine)) h.body
  simp only [lineKind_first] at hbody
  rw [below, offcuts, shownLines, shownLines, List.filter_append, List.filter_append,
    List.countP_append, List.countP_append, ← shownLines, ← shownLines, hbody, ← shownLines]
  omega

theorem shownLines_eq_nil {rawLines : List (List Char)} :
    shownLines rawLines = [] ↔ ∀ rawLine ∈ rawLines, rawLine.head? = some '\\' := by
  rw [shownLines, List.filter_eq_nil_iff]
  exact forall₂_congr fun rawLine _ => by rw [decide_eq_true_iff, not_not]

theorem DeclaredHunk.shownLines_below {h : DeclaredHunk} (hoff : shownLines h.offcuts = []) :
    shownLines h.below = h.body.map BodyLine.first := by
  have hbody : ∀ body : List BodyLine, shownLines (body.flatMap BodyLine.extras) = [] →
      shownLines (body.flatMap fun line => line.first :: line.extras) =
        body.map BodyLine.first := by
    intro body
    induction body with
    | nil => intro _; rfl
    | cons line body ih =>
      intro hnil
      rw [List.flatMap_cons, shownLines, List.filter_append, List.append_eq_nil_iff] at hnil
      rw [List.flatMap_cons, shownLines, List.filter_append,
        List.filter_cons_of_pos (by simp [head?_first_ne]), hnil.1, ← shownLines, ih hnil.2]
      rfl
  rw [offcuts, shownLines, List.filter_append, List.append_eq_nil_iff] at hoff
  rw [below, shownLines, List.filter_append, hoff.1, List.nil_append]
  exact hbody h.body hoff.2

theorem DeclaredHunk.shownLines_offcuts_iff (h : DeclaredHunk) :
    shownLines h.offcuts = [] ↔
      (shownLines h.below).countP (fun rawLine => (lineKind rawLine).onOld) = h.oldCount.getD 1 ∧
        (shownLines h.below).countP (fun rawLine => (lineKind rawLine).onNew) =
          h.newCount.getD 1 := by
  rw [h.countP_shownLines, h.countP_shownLines, h.old_count, h.new_count]
  constructor
  · intro hoff
    rw [hoff]
    exact ⟨rfl, rfl⟩
  · rintro ⟨hold, hnew⟩
    have hold :
        (shownLines h.offcuts).countP (fun rawLine => (lineKind rawLine).onOld) = 0 := by omega
    have hnew :
        (shownLines h.offcuts).countP (fun rawLine => (lineKind rawLine).onNew) = 0 := by omega
    rw [List.eq_nil_iff_forall_not_mem]
    intro rawLine hmem
    rcases (lineKind rawLine).onOld_or_onNew with hon | hon
    · exact List.countP_eq_zero.mp hold rawLine hmem hon
    · exact List.countP_eq_zero.mp hnew rawLine hmem hon

def DiffLine.TextFits (old new : List Char) (line : DiffLine) : Prop :=
  (∀ n, line.oldLine = some n → lineAt old n = some line.text.toList) ∧
    ∀ n, line.newLine = some n → lineAt new n = some line.text.toList

theorem textFits_diffLine {old new : List Char} {oldLine newLine : ℕ} {line : BodyLine}
    (hold : line.kind.onOld = true → lineAt old oldLine = some line.text)
    (hnew : line.kind.onNew = true → lineAt new newLine = some line.text) :
    (diffLine oldLine newLine line.first).TextFits old new ↔
      (line.text.takeWhile fun c => !lineEnds.isEnd c) = line.text := by
  have htext : (diffLine oldLine newLine line.first).text.toList =
      line.text.takeWhile fun c => !lineEnds.isEnd c := by
    rw [diffLine, String.toList_ofList, textValue_first]
  rw [DiffLine.TextFits, htext, diffLine, lineKind_first]
  constructor
  · rintro ⟨hfold, hfnew⟩
    rcases line.kind.onOld_or_onNew with hon | hon
    · have hfit := hfold oldLine (if_pos hon)
      rw [hold hon] at hfit
      exact (Option.some.inj hfit).symm
    · have hfit := hfnew newLine (if_pos hon)
      rw [hnew hon] at hfit
      exact (Option.some.inj hfit).symm
  · intro heq
    rw [heq]
    constructor
    · intro n hn
      obtain ⟨hon, heq⟩ := Option.ite_none_right_eq_some.mp hn
      rw [← Option.some.inj heq]
      exact hold hon
    · intro n hn
      obtain ⟨hon, heq⟩ := Option.ite_none_right_eq_some.mp hn
      rw [← Option.some.inj heq]
      exact hnew hon

theorem textFits_numberLines {old new : List Char} (body : List BodyLine) :
    ∀ oldLine newLine, FitsAt old new oldLine newLine body →
      ((∀ line ∈ numberLines oldLine newLine (body.map BodyLine.first), line.TextFits old new) ↔
        ∀ line ∈ body, (line.text.takeWhile fun c => !lineEnds.isEnd c) = line.text) := by
  induction body with
  | nil =>
    intro oldLine newLine _
    rw [List.map_nil, numberLines]
    exact iff_of_true (List.forall_mem_nil _) (List.forall_mem_nil _)
  | cons line body ih =>
    rintro oldLine newLine ⟨hold, hnew, hfit⟩
    rw [List.map_cons, numberLines, if_neg (head?_first_ne line), List.forall_mem_cons,
      List.forall_mem_cons, textFits_diffLine hold hnew, lineKind_first, ih _ _ hfit]

theorem takeWhile_eq_self_iff {text : List Char} :
    (text.takeWhile fun c => !lineEnds.isEnd c) = text ↔ ∀ c ∈ text, lineEnds.isEnd c = false := by
  rw [List.takeWhile_eq_self_iff]
  exact forall₂_congr fun c _ => by rw [Bool.not_eq_true']

theorem BodyLine.extras_of_whole {line : BodyLine} (h : ∀ c ∈ line.text, lineEnds.isEnd c = false) :
    line.extras = line.remarks := by
  rw [BodyLine.extras, LineEnds.pieces_of_not_isEnd h]
  rfl

theorem BodyLine.head?_of_mem_remarks {line : BodyLine} {remark : List Char}
    (h : remark ∈ line.remarks) : remark.head? = some '\\' := by
  rw [BodyLine.remarks] at h
  split at h
  · rw [List.mem_singleton.mp h]
    rfl
  · cases h

theorem DeclaredHunk.Unbroken.shownLines_offcuts {h : DeclaredHunk} (hun : h.Unbroken) :
    shownLines h.offcuts = [] := by
  rw [shownLines_eq_nil, DeclaredHunk.offcuts]
  intro rawLine hmem
  rcases List.mem_append.mp hmem with hmem | hmem
  · exact hun.context rawLine hmem
  · obtain ⟨line, hline, hmem⟩ := List.mem_flatMap.mp hmem
    rw [BodyLine.extras_of_whole (hun.body line hline)] at hmem
    exact BodyLine.head?_of_mem_remarks hmem

def DeclaredHunk.parsed (h : DeclaredHunk) (index : ℕ) : DiffHunk :=
  hunkOf ((h.read (h.context.takeWhile fun c => !lineEnds.isEnd c), h.below), index)

theorem DeclaredHunk.countP_parsed (h : DeclaredHunk) (index : ℕ) (p : DiffLineKind → Bool) :
    (h.parsed index).lines.countP (fun line => p line.kind) =
      (shownLines h.below).countP fun rawLine => p (lineKind rawLine) :=
  countP_numberLines p h.below h.oldStart h.newStart

/-- **A hunk is read back exactly if no line is broken.** -/
theorem DeclaredHunk.faithful_parsed_iff {h : DeclaredHunk} {old new : List Char}
    (hfit : FitsAt old new h.oldStart h.newStart h.body) (index : ℕ) :
    (h.parsed index).Faithful old new ↔ h.Unbroken := by
  have hlines : shownLines h.offcuts = [] → (h.parsed index).lines =
      numberLines h.oldStart h.newStart (h.body.map BodyLine.first) := by
    intro hoff
    rw [← DeclaredHunk.shownLines_below hoff, numberLines_shownLines]
    rfl
  constructor
  · intro hf
    have hoff : shownLines h.offcuts = [] := by
      rw [h.shownLines_offcuts_iff, ← h.countP_parsed index, ← h.countP_parsed index]
      exact ⟨hf.old_count, hf.new_count⟩
    refine ⟨fun piece hpiece => ?_, fun line hline => ?_⟩
    · exact shownLines_eq_nil.mp hoff piece (List.mem_append_left _ hpiece)
    · have htexts : ∀ line ∈ (h.parsed index).lines, line.TextFits old new := fun line hline =>
        ⟨hf.old_text line hline, hf.new_text line hline⟩
      rw [hlines hoff, textFits_numberLines h.body _ _ hfit] at htexts
      exact takeWhile_eq_self_iff.mp (htexts line hline)
  · intro hun
    have hoff := hun.shownLines_offcuts
    have hcounts := h.shownLines_offcuts_iff.mp hoff
    rw [← h.countP_parsed index, ← h.countP_parsed index] at hcounts
    have htexts : ∀ line ∈ (h.parsed index).lines, line.TextFits old new := by
      rw [hlines hoff, textFits_numberLines h.body _ _ hfit]
      exact fun line hline => takeWhile_eq_self_iff.mpr (hun.body line hline)
    exact {
      old_count := hcounts.1
      new_count := hcounts.2
      old_numbers := (filterMap_numberLines h.below h.oldStart h.newStart).1.trans
        (congrArg (List.range' h.oldStart) hcounts.1)
      new_numbers := (filterMap_numberLines h.below h.oldStart h.newStart).2.trans
        (congrArg (List.range' h.newStart) hcounts.2)
      old_text := fun line hline => (htexts line hline).1
      new_text := fun line hline => (htexts line hline).2 }

/-! ### All hunks -/

section

variable {D : DecimalDigits} {d : UnifiedDiff}

theorem DeclaredHunk.matchHunk_top (h : DeclaredHunk) :
    matchHunk D h.top = some (h.read (h.context.takeWhile fun c => !lineEnds.isEnd c)) :=
  matchHunk_title h _

/-- **One hunk is read for each header exactly if nothing else looks like one.** -/
theorem length_parseUnifiedDiffHunks_iff :
    (parseUnifiedDiffHunks D d.render).length = d.hunks.length ↔
      Quiet (matchHunk D) (d.header.flatMap lineEnds.pieces) ∧
        ∀ h ∈ d.hunks, Quiet (matchHunk D) h.below := by
  rw [parseUnifiedDiffHunks_eq, List.length_map, List.length_zipIdx, d.splitlines_render]
  exact length_sections_blocks_iff (fun h _ => by rw [h.matchHunk_top]; rfl) _

theorem parseUnifiedDiffHunks_render
    (hheader : Quiet (matchHunk D) (d.header.flatMap lineEnds.pieces))
    (hbelow : ∀ h ∈ d.hunks, Quiet (matchHunk D) h.below) :
    parseUnifiedDiffHunks D d.render =
      (d.hunks.zipIdx 1).map fun entry => entry.1.parsed entry.2 := by
  rw [parseUnifiedDiffHunks_eq, d.splitlines_render, hheader.sections_append,
    sections_blocks (fun h _ => h.matchHunk_top) hbelow, List.zipIdx_map, List.map_map]
  rfl

theorem DeclaredHunk.Unbroken.quiet_below {h : DeclaredHunk} (hun : h.Unbroken) :
    Quiet (matchHunk D) h.below := by
  rw [DeclaredHunk.below, quiet_append, quiet_flatMap]
  have hslash : ∀ {rawLine : List Char}, rawLine.head? = some '\\' →
    matchHunk D rawLine = none := by
    intro rawLine hhead
    apply matchHunk_eq_none
    rw [hhead]
    decide
  refine ⟨fun piece hpiece => hslash (hun.context piece hpiece), fun line hline => ?_⟩
  rw [BodyLine.extras_of_whole (hun.body line hline)]
  intro rawLine hmem
  rcases List.mem_cons.mp hmem with rfl | hmem
  · apply matchHunk_eq_none
    rw [head?_first]
    cases line.kind <;> decide
  · exact hslash (BodyLine.head?_of_mem_remarks hmem)

theorem countP_flatMap_parsed (p : DiffLineKind → Bool) {hunks : List DeclaredHunk}
    (hun : ∀ h ∈ hunks, h.Unbroken) : ∀ index : ℕ,
    (((hunks.zipIdx index).map fun entry => entry.1.parsed entry.2).flatMap
      DiffHunk.lines).countP (fun line => p line.kind) =
      (hunks.flatMap DeclaredHunk.body).countP fun line => p line.kind := by
  induction hunks with
  | nil => intro index; rfl
  | cons h hunks ih =>
    intro index
    obtain ⟨hh, hun⟩ := List.forall_mem_cons.mp hun
    rw [List.zipIdx_cons, List.map_cons, List.flatMap_cons, List.countP_append, ih hun,
      h.countP_parsed, h.countP_shownLines, hh.shownLines_offcuts, List.flatMap_cons,
      List.countP_append]
    rfl

/-- **The hunks of a diff are read back exactly if no line of it is broken.** -/
theorem reconstructs_iff {old new : List Char} (hd : d.Describes old new) :
    Reconstructs old new d (parseUnifiedDiffHunks D d.render) ↔ d.Unbroken D := by
  constructor
  · intro hrec
    obtain ⟨hheader, hbelow⟩ := length_parseUnifiedDiffHunks_iff.mp hrec.one_each
    have hfaithful := hrec.faithful
    rw [parseUnifiedDiffHunks_render hheader hbelow] at hfaithful
    refine ⟨quiet_flatMap.mp hheader, fun h hh => ?_⟩
    have hfit := (hd h hh).1
    rw [← List.zipIdx_map_fst 1 d.hunks] at hh
    obtain ⟨entry, hentry, rfl⟩ := List.mem_map.mp hh
    have hf := hfaithful (entry.1.parsed entry.2) (List.mem_map.mpr ⟨entry, hentry, rfl⟩)
    exact (DeclaredHunk.faithful_parsed_iff hfit entry.2).mp hf
  · intro hun
    have hheader := quiet_flatMap.mpr hun.header
    have hbelow : ∀ h ∈ d.hunks, Quiet (matchHunk D) h.below := fun h hh =>
      (hun.hunks h hh).quiet_below
    refine ⟨length_parseUnifiedDiffHunks_iff.mpr ⟨hheader, hbelow⟩, ?_, ?_⟩
    · rw [parseUnifiedDiffHunks_render hheader hbelow]
      intro hunk hmem
      obtain ⟨⟨h, index⟩, hentry, rfl⟩ := List.mem_map.mp hmem
      have hh : h ∈ d.hunks := List.fst_mem_of_mem_zipIdx hentry
      exact (DeclaredHunk.faithful_parsed_iff (hd h hh).1 index).mpr (hun.hunks h hh)
    · have hadd := countP_flatMap_parsed (fun kind => kind = .add) hun.hunks 1
      have hdelete := countP_flatMap_parsed (fun kind => kind = .delete) hun.hunks 1
      rw [diffStats, UnifiedDiff.stats, length_parseUnifiedDiffHunks_iff.mpr ⟨hheader, hbelow⟩,
        parseUnifiedDiffHunks_render hheader hbelow]
      exact congrArg₂ (fun additions deletions => DiffStats.mk additions deletions d.hunks.length)
        hadd hdelete

end

def asciiDigits : DecimalDigits where
  value c := if c.isDigit then some (c.toNat - '0'.toNat) else none
  ascii := fun _ _ => rfl

def replacedLine (old new : List Char) (hold : '\n' ∉ old) (hnew : '\n' ∉ new) : UnifiedDiff where
  header := []
  feedFree := fun _ h => (by cases h)
  not_hunk := fun _ h => (by cases h)
  hunks := [{
    oldStart := 1
    oldCount := none
    newStart := 1
    newCount := none
    context := []
    feedFree := List.not_mem_nil
    body := [⟨.delete, old, hold, false⟩, ⟨.add, new, hnew, false⟩]
    old_count := rfl
    new_count := rfl }]

theorem reconstructs_iff_replaced :
    Reconstructs "a\n".toList "b\n".toList (replacedLine ['a'] ['b'] (by decide) (by decide))
      (parseUnifiedDiffHunks asciiDigits
        (replacedLine ['a'] ['b'] (by decide) (by decide)).render) := by
  refine (reconstructs_iff ?_).mpr ⟨?_, ?_⟩
  · intro h hh
    rw [List.mem_singleton.mp hh]
    exact ⟨by simp [FitsAt]; decide, by decide, by decide⟩
  · intro line hline
    cases hline
  · intro h hh
    rw [List.mem_singleton.mp hh]
    refine ⟨by decide, List.forall_mem_cons.mpr ⟨List.all_iff_forall_prop.mp (by decide), ?_⟩⟩
    exact List.forall_mem_singleton.mpr (List.all_iff_forall_prop.mp (by decide))

/-- A form feed in a line that was deleted: the old line is read as a shorter one and a line that
both texts have. -/
theorem replacedLine_formFeed :
    (replacedLine ['a', Char.ofNat 0x0c, 'b'] ['c'] (by decide) (by decide)).Describes
        ['a', Char.ofNat 0x0c, 'b', '\n'] "c\n".toList ∧
      parseUnifiedDiffHunks asciiDigits
          (replacedLine ['a', Char.ofNat 0x0c, 'b'] ['c'] (by decide) (by decide)).render =
        [⟨"hunk-1", 1, 1, 1, 1, "", [⟨.delete, some 1, none, "a"⟩, ⟨.context, some 2, some 1, "b"⟩,
          ⟨.add, none, some 2, "c"⟩]⟩] ∧
      ¬Reconstructs ['a', Char.ofNat 0x0c, 'b', '\n'] "c\n".toList
        (replacedLine ['a', Char.ofNat 0x0c, 'b'] ['c'] (by decide) (by decide))
        (parseUnifiedDiffHunks asciiDigits
          (replacedLine ['a', Char.ofNat 0x0c, 'b'] ['c'] (by decide) (by decide)).render) := by
  have hparse : parseUnifiedDiffHunks asciiDigits
      (replacedLine ['a', Char.ofNat 0x0c, 'b'] ['c'] (by decide) (by decide)).render =
      [⟨"hunk-1", 1, 1, 1, 1, "", [⟨.delete, some 1, none, "a"⟩, ⟨.context, some 2, some 1, "b"⟩,
        ⟨.add, none, some 2, "c"⟩]⟩] := by
    decide +kernel
  refine ⟨?_, hparse, fun hrec => ?_⟩
  · intro h hh
    rw [List.mem_singleton.mp hh]
    exact ⟨by simp [FitsAt]; decide, by decide, by decide⟩
  · have hcount := (hrec.faithful _ (by rw [hparse]; exact List.mem_cons_self)).old_count
    cases hcount

end Taskweavn
