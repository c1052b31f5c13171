import Taskweavn.Lib.Lines

/-!
# Replacing a range of lines

A text is cut into the lines `a ++ b ++ c`, the range `b` is replaced by other lines, and the lines
are joined again with one newline.  That gives the lines around the range their ends back where
these were the newline; the last line has an end if it had one before.

* `take_rejoined_iff`, `drop_rejoined_iff`: when the lines before the range, and those after it,
  are again what they were.
* `rejoined_iff`: when the text is what it was after the range was replaced by its own lines.
-/

namespace Lib

namespace LineEnds

open Line

variable {α : Type} [DecidableEq α] {E : LineEnds α} {newline : List α} {ends : Bool}
  {a b c : List (Line α)}

/-- The joined text ends with a newline exactly if the text has ended with one, and that was the
common one. -/
def EndsAlike (newline : List α) (ends : Bool) (ls : List (Line α)) : Prop :=
  ∀ l, ls.getLast? = some l → (l.ending = newline → ends = true) ∧ (l.ending = [] → ends = false)

def Alike (newline : List α) (l : Line α) : Prop := l.ending = newline ∨ l.ending = []

omit [DecidableEq α] in
theorem EndsAlike.final_iff {ls : List (Line α)} (h : EndsAlike newline ends ls) :
    ∀ l, ls.getLast? = some l →
      (l.ending = finalEnd newline ends ↔ l.ending = newline ∨ l.ending = []) := by
  intro l hl
  obtain ⟨hnewline, hnone⟩ := h l hl
  rw [finalEnd]
  constructor
  · intro heq
    cases ends with
    | true => exact .inl heq
    | false => exact .inr heq
  · rintro (heq | heq)
    · rw [heq, hnewline heq]
      rfl
    · rw [heq, hnone heq]
      rfl

omit [DecidableEq α] in
theorem drop_rejoined_iff (h : E.Reads (a ++ b ++ c)) (hends : EndsAlike newline ends (a ++ b ++ c))
    (replacement : List (List α)) :
    (endedWith newline (finalEnd newline ends)
        (a.map text ++ replacement ++ c.map text)).drop (a.length + replacement.length) = c ↔
      ∀ l ∈ c, Alike newline l := by
  by_cases hc : c = []
  · subst hc
    rw [List.drop_of_length_le (by rw [length_endedWith]; simp)]
    simp
  · have hne : c.map text ≠ [] := by
      rw [Ne, List.map_eq_nil_iff]
      exact hc
    have hlength : (a.map text ++ replacement).length = a.length + replacement.length := by simp
    have hlast : (a ++ b ++ c).getLast? = c.getLast? := List.getLast?_append_of_ne_nil _ hc
    rw [endedWith_append _ hne, List.drop_left' (by rw [List.length_map, hlength])]
    have hreads : E.Reads c := by
      have hdrop := h.drop (a ++ b).length
      rw [List.drop_left] at hdrop
      exact hdrop
    exact hreads.endedWith_iff fun l hl => hends.final_iff l (hlast.trans hl)

omit [DecidableEq α] in
theorem take_rejoined_iff (newline : List α) (ends : Bool) (h : E.Reads (a ++ b ++ c))
    (hb : b ≠ []) (replacement : List (List α)) :
    (endedWith newline (finalEnd newline ends)
        (a.map text ++ replacement ++ c.map text)).take a.length = a ↔
      (∀ l ∈ a, Alike newline l) ∧
        (replacement ≠ [] ∨ c ≠ [] ∨ a = [] ∨ ends = true) := by
  -- a line comes after those before the range, so that each of them has an end
  have hended : ∀ l ∈ a, l.ending ≠ [] := by
    intro l hl
    obtain ⟨s, t, rfl⟩ := List.append_of_mem hl
    have hline : E.Reads (s ++ l :: (t ++ b ++ c)) := by simpa using h
    exact (hline.ending (by simp [hb])).ne_nil
  have halike : (∀ l ∈ a, Alike newline l) ↔ ∀ l ∈ a, l.ending = newline :=
    forall₂_congr fun l hl => or_iff_left (hended l hl)
  rw [halike]
  by_cases hrest : replacement ++ c.map text = []
  · obtain ⟨rfl, hc⟩ := List.append_eq_nil_iff.mp hrest
    obtain rfl := List.map_eq_nil_iff.mp hc
    rw [List.map_nil, List.append_nil, List.append_nil,
      List.take_of_length_le (by simp [length_endedWith])]
    cases ends with
    | true =>
      rw [finalEnd, if_pos rfl, endedWith_self, map_ended_iff]
      simp
    | false =>
      rw [finalEnd, if_neg Bool.false_ne_true]
      rcases List.eq_nil_or_concat a with rfl | ⟨init, l, rfl⟩
      · simp
      · refine iff_of_false (fun heq => ?_) (by simp)
        -- the last line has lost its end
        rw [List.concat_eq_append, List.map_append, endedWith_append _ (by simp)] at heq
        have hlast := congrArg List.getLast? heq
        rw [List.getLast?_append_of_ne_nil _ (by simp), List.getLast?_concat] at hlast
        have hending : ([] : List α) = l.ending := congrArg Line.ending (Option.some.inj hlast)
        exact hended l (by simp) hending.symm
  · rw [List.append_assoc, endedWith_append _ hrest, List.take_left' (by simp), map_ended_iff]
    refine (and_iff_left ?_).symm
    rcases not_and_or.mp fun hnil => hrest (List.append_eq_nil_iff.mpr hnil) with hne | hne
    · exact .inl hne
    · exact .inr (.inl fun hc => hne (by rw [hc]; rfl))

/-- **Replacing a range by its own lines**, joined with a line feed, gives the text back exactly if
its lines have the ends that they are given and the last of the range is not empty. -/
theorem rejoined_iff (h : E.Reads (a ++ b ++ c)) (hb : b ≠ []) (hnl : E.IsNewline newline)
    (hends : EndsAlike newline ends (a ++ b ++ c)) :
    joinLines newline ends (a.map text ++
        (E.lines ([E.lf].intercalate (b.map text))).map text ++ c.map text) =
        render (a ++ b ++ c) ↔
      (∀ l ∈ a ++ b ++ c, Alike newline l) ∧ (b.map text).getLast? ≠ some [] := by
  have hplain : E.Plain ((a ++ b ++ c).map text) := by
    intro t ht
    obtain ⟨l, hl, rfl⟩ := List.mem_map.mp ht
    exact h.not_isEnd l hl
  have hplainb : E.Plain (b.map text) := fun t ht => hplain t (by
    rw [List.map_append, List.map_append]
    exact List.mem_append_left _ (List.mem_append_right _ ht))
  have hjoin : [E.lf].intercalate (b.map text) = joinLines [E.lf] false (b.map text) := by
    rw [joinLines, if_neg fun hfalse => Bool.false_ne_true hfalse.1]
  have hlf : E.IsNewline [E.lf] := .inr (.inl rfl)
  have hreads : E.lines (render (a ++ b ++ c)) = a ++ b ++ c := lines_render h
  by_cases hblank : (b.map text).getLast? = some []
  · -- the last line of the range is lost, so that there are fewer lines than before
    refine iff_of_false (fun heq => ?_) fun hright => hright.2 hblank
    have hlost : ¬Resplits false (b.map text) := fun hre => Bool.false_ne_true (hre hblank).1
    have hfew := lines_joinLines_lost hlf hplainb hlost
    rw [hjoin, hfew, map_text_endedWith] at heq
    have hfewer : E.Plain (a.map text ++ (b.map text).dropLast ++ c.map text) :=
      fun t ht => hplain t (by
        rw [List.map_append, List.map_append]
        rcases List.mem_append.mp ht with ht | ht
        · rcases List.mem_append.mp ht with ht | ht
          · exact List.mem_append_left _ (List.mem_append_left _ ht)
          · exact List.mem_append_left _ (List.mem_append_right _ (List.dropLast_subset _ ht))
        · exact List.mem_append_right _ ht)
    have hcount := length_lines_joinLines ends hnl hfewer
    rw [heq, hreads] at hcount
    have hpos := List.length_pos_of_ne_nil hb
    simp only [List.length_append, List.length_map, List.length_dropLast] at hcount
    omega
  · have hre : Resplits false (b.map text) := fun hlast => absurd hlast hblank
    rw [hjoin, (map_text_lines_joinLines hlf hplainb).mpr hre, ← List.map_append, ← List.map_append,
      and_iff_left hblank]
    constructor
    · intro heq
      have hcut := congrArg E.lines heq
      rw [hreads] at hcut
      by_cases hsplit : Resplits ends ((a ++ b ++ c).map text)
      · rw [lines_joinLines hnl hplain hsplit] at hcut
        exact (h.endedWith_iff hends.final_iff).mp hcut
      · rw [lines_joinLines_lost hnl hplain hsplit] at hcut
        have hcount := congrArg List.length hcut
        rw [length_endedWith, List.length_dropLast, List.length_map] at hcount
        have hpos := List.length_pos_of_ne_nil hb
        simp only [List.length_append] at hcount
        omega
    · intro hall
      have heq := (h.endedWith_iff hends.final_iff).mpr hall
      have hne : (a ++ b ++ c).map text ≠ [] := by simp [hb]
      have hone : (a ++ b ++ c).map text ≠ [[]] := by
        intro hone
        apply hblank
        obtain ⟨l, b', rfl⟩ := List.exists_cons_of_ne_nil hb
        have hlength := congrArg List.length hone
        simp only [List.length_map, List.length_append, List.length_cons,
          List.length_nil] at hlength
        obtain rfl : a = [] := List.length_eq_zero_iff.mp (by omega)
        obtain rfl : b' = [] := List.length_eq_zero_iff.mp (by omega)
        obtain rfl : c = [] := List.length_eq_zero_iff.mp (by omega)
        rw [show ([l] : List (Line α)).map text = [[]] by simpa using hone]
        rfl
      rw [joinLines_eq_render hnl.isEnding.ne_nil hne hone, heq]

end LineEnds

end Lib
