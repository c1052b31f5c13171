import Mathlib.Data.List.Basic
import Mathlib.Tactic.Common

/-!
# Lines and what ends them

A text is cut into lines at single characters, and at a pair of two of them that stands next to
each other (a carriage return and a line feed).  Each line keeps what ends it; only the last one
may have no end.

* `render_lines`: the lines with their ends are the text.
* `lines_render`: lines that can be read (`Reads`) are the lines of the text that they render.
* `lines_append`: lines are cut in two texts as in the one that they make together, unless a pair
  comes together at the seam.
* `Reads.holds_iff`: the lines in which there is a character of a part of the text.
* `lines_joinLines`: a text that was joined with one end is cut into the lines that it was joined
  from, but for an empty one that is left without an end.
-/

namespace Lib

/-- What ends a line: some characters, and two of them together. -/
structure LineEnds (α : Type) where
  isEnd : α → Bool
  cr : α
  lf : α
  cr_ne_lf : cr ≠ lf
  isEnd_cr : isEnd cr = true
  isEnd_lf : isEnd lf = true

/-- A line and what ends it, which is empty where nothing does. -/
structure Line (α : Type) where
  text : List α
  ending : List α
deriving DecidableEq

namespace Line

variable {α : Type}

/-- One more character in the first line. -/
def prepend (c : α) : List (Line α) → List (Line α)
  | [] => [⟨[c], []⟩]
  | l :: ls => ⟨c :: l.text, l.ending⟩ :: ls

/-- The text of some lines. -/
def render (ls : List (Line α)) : List α := ls.flatMap fun l => l.text ++ l.ending

@[simp] theorem render_nil : render ([] : List (Line α)) = [] := rfl

@[simp] theorem render_cons (l : Line α) (ls : List (Line α)) :
    render (l :: ls) = l.text ++ l.ending ++ render ls := rfl

theorem render_append (ls ls' : List (Line α)) : render (ls ++ ls') = render ls ++ render ls' :=
  List.flatMap_append

/-- Lines that all have one end, but for the last one. -/
def endedWith (newline final : List α) : List (List α) → List (Line α)
  | [] => []
  | [t] => [⟨t, final⟩]
  | t :: t' :: ts => ⟨t, newline⟩ :: endedWith newline final (t' :: ts)

variable {newline final : List α}

@[simp] theorem endedWith_nil : endedWith newline final [] = [] := rfl

@[simp] theorem endedWith_singleton (t : List α) : endedWith newline final [t] = [⟨t, final⟩] := rfl

theorem endedWith_cons_cons (t t' : List α) (ts : List (List α)) :
    endedWith newline final (t :: t' :: ts) = ⟨t, newline⟩ :: endedWith newline final (t' :: ts) :=
  rfl

theorem endedWith_append (ts' : List (List α)) (hts : ts' ≠ []) :
    endedWith newline final (ts ++ ts') =
      ts.map (fun t => ⟨t, newline⟩) ++ endedWith newline final ts' := by
  induction ts with
  | nil => rfl
  | cons t ts ih =>
    obtain ⟨t', rest, hrest⟩ :=
      List.exists_cons_of_ne_nil (List.append_ne_nil_of_right_ne_nil ts hts)
    rw [List.cons_append, hrest, endedWith_cons_cons, ← hrest, ih]
    rfl

theorem endedWith_self (ts : List (List α)) :
    endedWith newline newline ts = ts.map fun t => ⟨t, newline⟩ := by
  induction ts with
  | nil => rfl
  | cons t ts ih =>
    cases ts with
    | nil => rfl
    | cons t' ts =>
      rw [endedWith_cons_cons, ih]
      rfl

theorem map_text_endedWith : ∀ ts : List (List α), (endedWith newline final ts).map text = ts
  | [] => rfl
  | [_] => rfl
  | t :: t' :: ts => by
    rw [endedWith_cons_cons, List.map_cons, map_text_endedWith (t' :: ts)]

theorem length_endedWith (ts : List (List α)) :
    (endedWith newline final ts).length = ts.length := by
  rw [← List.length_map (f := text), map_text_endedWith]

theorem render_endedWith : ∀ {ts : List (List α)}, ts ≠ [] →
    render (endedWith newline final ts) = newline.intercalate ts ++ final := by
  intro ts
  induction ts with
  | nil => intro h; exact absurd rfl h
  | cons t ts ih =>
    intro _
    cases ts with
    | nil => simp
    | cons t' ts =>
      rw [endedWith_cons_cons, render_cons, ih (List.cons_ne_nil _ _), List.intercalate_cons_cons]
      simp

end Line

namespace LineEnds

open Line

variable {α : Type} [DecidableEq α] (E : LineEnds α)

/-! ### Cutting a text -/

/-- One more character in front of some lines. -/
def consChar (c : α) (ls : List (Line α)) : List (Line α) :=
  if c = E.cr ∧ ls.head? = some ⟨[], [E.lf]⟩ then ⟨[], [E.cr, E.lf]⟩ :: ls.tail
  else if E.isEnd c then ⟨[], [c]⟩ :: ls
  else prepend c ls

def lines (text : List α) : List (Line α) := text.foldr E.consChar []

theorem lines_cons (c : α) (text : List α) : E.lines (c :: text) = E.consChar c (E.lines text) :=
  rfl

variable {E}

theorem render_consChar (c : α) (ls : List (Line α)) :
    render (E.consChar c ls) = c :: render ls := by
  rw [consChar]
  split
  · next h =>
    obtain ⟨rfl, hhead⟩ := h
    obtain ⟨l, rest, rfl⟩ : ∃ l rest, ls = l :: rest := by
      cases ls with
      | nil => cases hhead
      | cons l rest => exact ⟨l, rest, rfl⟩
    cases hhead
    rfl
  · split
    · rfl
    · cases ls <;> rfl

/-- **The lines of a text are the text.** -/
theorem render_lines (text : List α) : render (E.lines text) = text := by
  induction text with
  | nil => rfl
  | cons c text ih => rw [lines_cons, render_consChar, ih]

variable (E)

/-- What can end a line. -/
def IsEnding (ending : List α) : Prop :=
  ending = [E.cr, E.lf] ∨ ∃ c, E.isEnd c = true ∧ ending = [c]

/-- A pair comes together before some lines. -/
def Pairs (ending : List α) (ls : List (Line α)) : Prop :=
  ending = [E.cr] ∧ ls.head? = some ⟨[], [E.lf]⟩

/-- Lines as they are cut: no character of a line ends one, every line but the last is ended, and
what ends it is not the half of a pair. -/
def Reads : List (Line α) → Prop
  | [] => True
  | l :: ls => (∀ c ∈ l.text, E.isEnd c = false) ∧
      ((E.IsEnding l.ending ∧ ¬E.Pairs l.ending ls ∧ Reads ls) ∨
        (l.ending = [] ∧ l.text ≠ [] ∧ ls = []))

variable {E} {l : Line α} {ls ls' : List (Line α)} {ts : List (List α)}

omit [DecidableEq α] in
theorem IsEnding.ne_nil {ending : List α} (h : E.IsEnding ending) : ending ≠ [] := by
  rcases h with rfl | ⟨c, -, rfl⟩ <;> simp

omit [DecidableEq α] in
theorem Reads.tail (h : E.Reads (l :: ls)) : E.Reads ls := by
  rcases h.2 with ⟨-, -, h⟩ | ⟨-, -, rfl⟩
  · exact h
  · trivial

omit [DecidableEq α] in
theorem Reads.not_isEnd (h : E.Reads ls) : ∀ l ∈ ls, ∀ c ∈ l.text, E.isEnd c = false := by
  induction ls with
  | nil => intro l hl; cases hl
  | cons l ls ih =>
    intro l' hl'
    rcases List.mem_cons.mp hl' with rfl | hl'
    · exact h.1
    · exact ih h.tail l' hl'

theorem reads_consChar (c : α) (h : E.Reads ls) : E.Reads (E.consChar c ls) := by
  rw [consChar]
  split
  · next hpair =>
    cases ls with
    | nil => cases hpair.2
    | cons l ls =>
      refine ⟨fun c hc => (by cases hc), .inl ⟨.inl rfl, fun hp => ?_, h.tail⟩⟩
      have hlength := congrArg List.length hp.1
      cases hlength
  · next hpair =>
    split
    · next hend =>
      refine ⟨fun c hc => (by cases hc), .inl ⟨.inr ⟨c, hend, rfl⟩, fun hp => ?_, h⟩⟩
      exact hpair ⟨(List.cons.inj hp.1).1, hp.2⟩
    · next hend =>
      have hc : E.isEnd c = false := Bool.eq_false_iff.mpr hend
      cases ls with
      | nil =>
        refine ⟨fun c' hc' => ?_, .inr ⟨rfl, List.cons_ne_nil _ _, rfl⟩⟩
        rw [List.mem_singleton.mp hc']
        exact hc
      | cons l ls =>
        refine ⟨fun c' hc' => ?_, h.2.imp id fun hlast =>
          ⟨hlast.1, List.cons_ne_nil _ _, hlast.2.2⟩⟩
        rcases List.mem_cons.mp hc' with rfl | hc'
        · exact hc
        · exact h.1 c' hc'

theorem reads_lines (text : List α) : E.Reads (E.lines text) := by
  induction text with
  | nil => trivial
  | cons c text ih => exact reads_consChar c ih

/-! ### Reading lines back -/

theorem lines_ending {ending : List α} (h : E.IsEnding ending) {text : List α}
    (hpairs : ¬E.Pairs ending (E.lines text)) :
    E.lines (ending ++ text) = ⟨[], ending⟩ :: E.lines text := by
  rcases h with rfl | ⟨c, hc, rfl⟩
  · have hlf : E.consChar E.lf (E.lines text) = ⟨[], [E.lf]⟩ :: E.lines text := by
      rw [consChar, if_neg fun h => E.cr_ne_lf h.1.symm, if_pos E.isEnd_lf]
    show E.consChar E.cr (E.consChar E.lf (E.lines text)) = _
    rw [hlf, consChar, if_pos ⟨rfl, rfl⟩]
    rfl
  · show E.consChar c (E.lines text) = _
    rw [consChar, if_neg, if_pos hc]
    rintro ⟨rfl, hhead⟩
    exact hpairs ⟨rfl, hhead⟩

theorem lines_text {t text : List α} (ht : ∀ c ∈ t, E.isEnd c = false)
    (h : E.lines text = l :: ls) :
    E.lines (t ++ text) = ⟨t ++ l.text, l.ending⟩ :: ls := by
  induction t with
  | nil => exact h
  | cons c t ih =>
    have hc := ht c List.mem_cons_self
    rw [List.cons_append, lines_cons, ih fun c' hc' => ht c' (List.mem_cons_of_mem c hc'), consChar,
      if_neg, if_neg (by rw [hc]; exact Bool.false_ne_true)]
    · rfl
    · rintro ⟨rfl, -⟩
      rw [E.isEnd_cr] at hc
      cases hc

theorem lines_unended {t : List α} (ht : ∀ c ∈ t, E.isEnd c = false) (hne : t ≠ []) :
    E.lines t = [⟨t, []⟩] := by
  obtain ⟨c, t', rfl⟩ := List.exists_cons_of_ne_nil hne
  induction t' generalizing c with
  | nil =>
    rw [lines_cons, consChar, if_neg (fun h => by cases h.2),
      if_neg (by rw [ht c List.mem_cons_self]; exact Bool.false_ne_true)]
    rfl
  | cons c' t' ih =>
    have htail := ih c' (fun d hd => ht d (List.mem_cons_of_mem c hd)) (List.cons_ne_nil _ _)
    have h := lines_text (t := [c]) (fun d hd => ht d (by
      rw [List.mem_singleton.mp hd]
      exact List.mem_cons_self)) htail
    exact h

/-- **Lines that can be read are read back.** -/
theorem lines_render (h : E.Reads ls) : E.lines (render ls) = ls := by
  induction ls with
  | nil => rfl
  | cons l ls ih =>
    obtain ⟨htext, ⟨hend, hpairs, hls⟩ | ⟨hend, hne, rfl⟩⟩ := h
    · have hrest := ih hls
      rw [render_cons, List.append_assoc]
      rw [← hrest] at hpairs
      have hcut := lines_text htext (lines_ending hend hpairs)
      rw [hcut, hrest, List.append_nil]
    · obtain ⟨t, ending⟩ := l
      cases hend
      rw [render_cons, render_nil, List.append_nil, List.append_nil]
      exact lines_unended htext hne

theorem render_injective (h : E.Reads ls) (h' : E.Reads ls') (heq : render ls = render ls') :
    ls = ls' := by
  rw [← lines_render h, heq, lines_render h']

/-! ### Parts of a text -/

omit [DecidableEq α] in
theorem Reads.drop (h : E.Reads ls) : ∀ n, E.Reads (ls.drop n) := by
  intro n
  induction n generalizing ls with
  | zero => exact h
  | succ n ih =>
    cases ls with
    | nil => exact h
    | cons l ls => exact ih h.tail

omit [DecidableEq α] in
theorem Reads.take (h : E.Reads ls) : ∀ n, E.Reads (ls.take n) := by
  induction ls with
  | nil => intro n; rw [List.take_nil]; trivial
  | cons l ls ih =>
    intro n
    cases n with
    | zero => trivial
    | succ n =>
      refine ⟨h.1, ?_⟩
      rcases h.2 with ⟨hend, hpairs, hls⟩ | ⟨hend, hne, rfl⟩
      · refine .inl ⟨hend, fun hp => hpairs ⟨hp.1, ?_⟩, ih hls n⟩
        have hhead := hp.2
        rw [List.head?_take] at hhead
        split at hhead
        · cases hhead
        · exact hhead
      · exact .inr ⟨hend, hne, List.take_nil⟩

omit [DecidableEq α] in
theorem Reads.ending (h : E.Reads (ls ++ l :: ls')) (hne : ls' ≠ []) : E.IsEnding l.ending := by
  induction ls with
  | nil =>
    rcases h.2 with ⟨hend, -⟩ | ⟨-, -, hnil⟩
    · exact hend
    · exact absurd hnil hne
  | cons _ ls ih => exact ih h.tail

variable (E) in
/-- All lines have an end, and what ends the last is not the half of a pair. -/
def Closed (ls ls' : List (Line α)) : Prop :=
  ∀ l, ls.getLast? = some l → E.IsEnding l.ending ∧ ¬E.Pairs l.ending ls'

omit [DecidableEq α] in
theorem Reads.append (h : E.Reads ls) (h' : E.Reads ls') (hclosed : E.Closed ls ls') :
    E.Reads (ls ++ ls') := by
  induction ls with
  | nil => exact h'
  | cons l ls ih =>
    cases ls with
    | nil =>
      obtain ⟨hend, hpairs⟩ := hclosed l rfl
      exact ⟨h.1, .inl ⟨hend, hpairs, h'⟩⟩
    | cons l' ls =>
      have hrest := ih h.tail hclosed
      rcases h.2 with ⟨hend, hpairs, -⟩ | ⟨-, -, hnil⟩
      · exact ⟨h.1, .inl ⟨hend, hpairs, hrest⟩⟩
      · cases hnil

/-- **Two texts are cut as one** where the first is closed. -/
theorem lines_append {text text' : List α} (h : E.Closed (E.lines text) (E.lines text')) :
    E.lines (text ++ text') = E.lines text ++ E.lines text' := by
  rw [← lines_render ((reads_lines text).append (reads_lines text') h), render_append,
    render_lines, render_lines]

/-! ### Lines that are ended by a line feed -/

theorem consChar_append (c : α) (h : ls ≠ []) (ls' : List (Line α)) :
    E.consChar c (ls ++ ls') = E.consChar c ls ++ ls' := by
  obtain ⟨l, rest, rfl⟩ := List.exists_cons_of_ne_nil h
  rw [consChar, consChar, List.cons_append]
  by_cases hpair : c = E.cr ∧ some l = some ⟨[], [E.lf]⟩
  · rw [if_pos (show c = E.cr ∧ (l :: (rest ++ ls')).head? = _ from hpair),
      if_pos (show c = E.cr ∧ (l :: rest).head? = _ from hpair)]
    rfl
  · rw [if_neg (show ¬(c = E.cr ∧ (l :: (rest ++ ls')).head? = _) from hpair),
      if_neg (show ¬(c = E.cr ∧ (l :: rest).head? = _) from hpair)]
    by_cases hend : E.isEnd c = true
    · rw [if_pos hend, if_pos hend]
      rfl
    · rw [if_neg hend, if_neg hend]
      rfl

theorem consChar_ne_nil (c : α) (ls : List (Line α)) : E.consChar c ls ≠ [] := by
  rw [consChar]
  split
  · exact List.cons_ne_nil _ _
  · split
    · exact List.cons_ne_nil _ _
    · cases ls <;> exact List.cons_ne_nil _ _

theorem lines_feed (text : List α) : E.lines (E.lf :: text) = ⟨[], [E.lf]⟩ :: E.lines text := by
  rw [lines_cons, consChar, if_neg fun h => E.cr_ne_lf h.1.symm, if_pos E.isEnd_lf]

theorem lines_append_feed (t text : List α) :
    E.lines (t ++ E.lf :: text) = E.lines (t ++ [E.lf]) ++ E.lines text := by
  induction t with
  | nil =>
    rw [List.nil_append, List.nil_append, lines_feed, lines_feed]
    rfl
  | cons c t ih =>
    have hne : E.lines (t ++ [E.lf]) ≠ [] := by
      cases t with
      | nil => exact consChar_ne_nil _ _
      | cons d t => exact consChar_ne_nil _ _
    rw [List.cons_append, lines_cons, ih, consChar_append c hne]
    rfl

variable (E) in
/-- What a line that a line feed ends is cut into. -/
def pieces (t : List α) : List (List α) := (E.lines (t ++ [E.lf])).map Line.text

theorem map_text_lines_flatMap (ts : List (List α)) :
    (E.lines (ts.flatMap fun t => t ++ [E.lf])).map Line.text = ts.flatMap E.pieces := by
  induction ts with
  | nil => rfl
  | cons t ts ih =>
    rw [List.flatMap_cons, List.append_assoc, List.singleton_append, lines_append_feed,
      List.map_append, ih, List.flatMap_cons]
    rfl

theorem pieces_nil : E.pieces [] = [[]] := by
  rw [pieces, List.nil_append, lines_feed]
  rfl

theorem pieces_ne_nil (t : List α) : E.pieces t ≠ [] := by
  rw [pieces, Ne, List.map_eq_nil_iff]
  cases t with
  | nil => exact consChar_ne_nil _ _
  | cons c t => exact consChar_ne_nil _ _

theorem pieces_cons {c : α} (hc : E.isEnd c = false) (t : List α) :
    E.pieces (c :: t) = (E.pieces t).modifyHead (c :: ·) := by
  have hcr : c ≠ E.cr := by
    rintro rfl
    rw [E.isEnd_cr] at hc
    cases hc
  rw [pieces, List.cons_append, lines_cons, consChar, if_neg fun h => hcr h.1,
    if_neg (Bool.eq_false_iff.mp hc)]
  have hne := pieces_ne_nil (E := E) t
  rw [pieces] at hne ⊢
  cases hlines : E.lines (t ++ [E.lf]) with
  | nil => exact absurd (by rw [hlines]; rfl) hne
  | cons l ls => rfl

theorem head?_pieces (t : List α) :
    (E.pieces t).head? = some (t.takeWhile fun c => !E.isEnd c) := by
  induction t with
  | nil => rw [pieces_nil]; rfl
  | cons c t ih =>
    cases hc : E.isEnd c with
    | false =>
      rw [pieces_cons hc, List.takeWhile_cons_of_pos (by simp [hc])]
      obtain ⟨p, ps, hps⟩ := List.exists_cons_of_ne_nil (pieces_ne_nil (E := E) t)
      rw [hps] at ih ⊢
      rw [Option.some.inj ih]
      rfl
    | true =>
      rw [List.takeWhile_cons_of_neg (by simp [hc]), pieces, List.cons_append, lines_cons, consChar]
      split
      · rfl
      · rfl

theorem pieces_of_not_isEnd {t : List α} (h : ∀ c ∈ t, E.isEnd c = false) : E.pieces t = [t] := by
  induction t with
  | nil => exact pieces_nil
  | cons c t ih =>
    obtain ⟨hc, ht⟩ := List.forall_mem_cons.mp h
    rw [pieces_cons hc, ih ht]
    rfl

theorem map_text_lines_plain (h : ∀ t ∈ ts, ∀ c ∈ t, E.isEnd c = false) :
    (E.lines (ts.flatMap fun t => t ++ [E.lf])).map Line.text = ts := by
  rw [map_text_lines_flatMap, List.flatMap_congr fun t ht => pieces_of_not_isEnd (h t ht)]
  exact List.flatMap_singleton' ts

theorem pieces_append {pre : List α} (h : ∀ c ∈ pre, E.isEnd c = false) (t : List α) :
    E.pieces (pre ++ t) = (E.pieces t).modifyHead (pre ++ ·) := by
  obtain ⟨p, ps, hps⟩ := List.exists_cons_of_ne_nil (pieces_ne_nil (E := E) t)
  induction pre with
  | nil => rw [hps]; exact hps
  | cons c pre ih =>
    obtain ⟨hc, hpre⟩ := List.forall_mem_cons.mp h
    rw [List.cons_append, pieces_cons hc, ih hpre, hps]
    rfl

/-! ### Other lines at the end -/

omit [DecidableEq α] in
theorem Reads.replaceTail {l' : Line α} {rest rest' : List (Line α)} (h : E.Reads (ls ++ l :: rest))
    (h' : E.Reads (l' :: rest')) (hhead : l' = ⟨[], [E.lf]⟩ → l = ⟨[], [E.lf]⟩) :
    E.Reads (ls ++ l' :: rest') := by
  induction ls with
  | nil => exact h'
  | cons first ls ih =>
    refine ⟨h.1, ?_⟩
    rcases h.2 with ⟨hend, hpairs, hls⟩ | ⟨-, -, hnil⟩
    · refine .inl ⟨hend, fun hp => hpairs ⟨hp.1, ?_⟩, ih hls⟩
      cases ls with
      | nil => exact congrArg some (hhead (Option.some.inj hp.2))
      | cons second ls => exact hp.2
    · exact absurd hnil (List.append_ne_nil_of_right_ne_nil _ (List.cons_ne_nil _ _))

/-! ### Where the lines are -/

omit [DecidableEq α] in
theorem Reads.ne_nil (h : E.Reads ls) : ∀ l ∈ ls, l.text ++ l.ending ≠ [] := by
  induction ls with
  | nil => intro l hl; cases hl
  | cons l ls ih =>
    intro l' hl'
    rcases List.mem_cons.mp hl' with rfl | hl'
    · rcases h.2 with ⟨hend, -⟩ | ⟨-, hne, -⟩
      · exact List.append_ne_nil_of_right_ne_nil _ hend.ne_nil
      · exact List.append_ne_nil_of_left_ne_nil hne _
    · exact ih h.tail l' hl'

/-- Where the first lines end. -/
def offset (ls : List (Line α)) (i : ℕ) : ℕ := (render (ls.take i)).length

omit [DecidableEq α] in
theorem offset_succ (ls : List (Line α)) (i : ℕ) :
    offset ls (i + 1) = offset ls i + (render ls[i]?.toList).length := by
  rw [offset, List.take_add_one, render_append, List.length_append, ← offset]

omit [DecidableEq α] in
theorem offset_mono (ls : List (Line α)) {i j : ℕ} (h : i ≤ j) : offset ls i ≤ offset ls j := by
  induction h with
  | refl => exact Nat.le_refl _
  | step _ ih =>
    rw [offset_succ]
    omega

omit [DecidableEq α] in
theorem Reads.offset_lt (h : E.Reads ls) {i j : ℕ} (hij : i < j) (hi : i < ls.length) :
    offset ls i < offset ls j := by
  refine Nat.lt_of_lt_of_le ?_ (offset_mono ls (Nat.succ_le_of_lt hij))
  have hget : ls[i]? = some (ls.get ⟨i, hi⟩) := List.getElem?_eq_getElem hi
  have hpos := List.length_pos_of_ne_nil (h.ne_nil _ (List.get_mem ls ⟨i, hi⟩))
  rw [offset_succ, hget]
  simpa using hpos

/-- A character between two places of the text lies in a line. -/
def Holds (ls : List (Line α)) (start stop line : ℕ) : Prop :=
  ∃ p, start ≤ p ∧ p < stop ∧ offset ls (line - 1) ≤ p ∧ p < offset ls line

omit [DecidableEq α] in
theorem Reads.holds_iff (h : E.Reads ls) {i j stop : ℕ} (hj : j ≤ ls.length)
    (hstop : offset ls j ≤ stop) (hlast : j < ls.length → stop = offset ls j) (line : ℕ) :
    Holds ls (offset ls i) stop line ↔ i < line ∧ line ≤ j := by
  constructor
  · rintro ⟨p, hstart, hp, hfrom, hto⟩
    have hless : i < line := by
      by_contra hle
      have := offset_mono ls (Nat.le_of_not_lt hle)
      omega
    refine ⟨hless, ?_⟩
    by_contra hmore
    have hbefore : offset ls j ≤ offset ls (line - 1) := offset_mono ls (by omega)
    rcases Nat.lt_or_ge j ls.length with hlt | hge
    · have := hlast hlt
      omega
    · -- there is no such line
      have hnone : ∀ n, ls.length ≤ n → offset ls n = (render ls).length := fun n hn => by
        rw [offset, List.take_of_length_le hn]
      have h₁ := hnone (line - 1) (by omega)
      have h₂ := hnone line (by omega)
      omega
  · rintro ⟨hless, hle⟩
    have hlt : offset ls (line - 1) < offset ls line := h.offset_lt (by omega) (by omega)
    have hend : offset ls line ≤ offset ls j := offset_mono ls hle
    exact ⟨offset ls (line - 1), offset_mono ls (by omega), by omega, Nat.le_refl _, hlt⟩

/-! ### Joining lines -/

variable (E) in
/-- An end that makes no pair with itself. -/
def IsNewline (newline : List α) : Prop :=
  newline = [E.cr, E.lf] ∨ newline = [E.lf] ∨ newline = [E.cr]

variable {newline final : List α}

omit [DecidableEq α] in
theorem IsNewline.isEnding (h : E.IsNewline newline) : E.IsEnding newline := by
  rcases h with rfl | rfl | rfl
  · exact .inl rfl
  · exact .inr ⟨E.lf, E.isEnd_lf, rfl⟩
  · exact .inr ⟨E.cr, E.isEnd_cr, rfl⟩

variable (E) in
/-- What the lines are, that are joined: none has the end of a line in it. -/
def Plain (ts : List (List α)) : Prop := ∀ t ∈ ts, ∀ c ∈ t, E.isEnd c = false

omit [DecidableEq α] in
theorem reads_endedWith (hnl : E.IsNewline newline) (hfinal : final = newline ∨ final = []) :
    ∀ {ts : List (List α)}, E.Plain ts → (final = [] → ts.getLast? ≠ some []) →
      E.Reads (endedWith newline final ts) := by
  -- a line feed alone does not come after a carriage return that ends a line
  have hpairs : ∀ {ts : List (List α)}, ¬E.Pairs newline (endedWith newline final ts) := by
    rintro ts ⟨hcr, hhead⟩
    have hlf : final = [E.lf] ∨ newline = [E.lf] := by
      cases ts with
      | nil => cases hhead
      | cons t ts =>
        cases ts with
        | nil => exact .inl (congrArg Line.ending (Option.some.inj hhead))
        | cons t' ts => exact .inr (congrArg Line.ending (Option.some.inj hhead))
    rcases hlf with hlf | hlf
    · rcases hfinal with hfinal | hfinal
      · rw [hfinal, hcr] at hlf
        exact E.cr_ne_lf (List.cons.inj hlf).1
      · rw [hfinal] at hlf
        cases hlf
    · rw [hcr] at hlf
      exact E.cr_ne_lf (List.cons.inj hlf).1
  intro ts
  induction ts with
  | nil => intro _ _; trivial
  | cons t ts ih =>
    intro hplain hlast
    have ht := hplain t List.mem_cons_self
    cases ts with
    | nil =>
      refine ⟨ht, ?_⟩
      rcases hfinal with rfl | rfl
      · exact .inl ⟨hnl.isEnding, fun hp => (by cases hp.2), trivial⟩
      · refine .inr ⟨rfl, fun hnil => hlast rfl ?_, rfl⟩
        rw [show t = [] from hnil]
        rfl
    | cons t' ts =>
      exact ⟨ht, .inl ⟨hnl.isEnding, hpairs,
        ih (fun t ht => hplain t (List.mem_cons_of_mem _ ht)) hlast⟩⟩

/-- `newline.join(lines)`, and a last newline where the text is not empty. -/
def joinLines (newline : List α) (ends : Bool) (ts : List (List α)) : List α :=
  if ends ∧ newline.intercalate ts ≠ [] then newline.intercalate ts ++ newline
  else newline.intercalate ts

/-- What the last of the joined lines ends with. -/
def finalEnd (newline : List α) (ends : Bool) : List α := if ends then newline else []

/-- No empty line is left at the end without an end. -/
def Resplits (ends : Bool) (ts : List (List α)) : Prop :=
  ts.getLast? = some [] → ends = true ∧ ts ≠ [[]]

instance (ends : Bool) (ts : List (List α)) : Decidable (Resplits ends ts) :=
  inferInstanceAs (Decidable (_ → _))

omit [DecidableEq α] in
theorem joinLines_eq_render (hnl : newline ≠ []) {ends : Bool} (hne : ts ≠ [])
    (hblank : ts ≠ [[]]) :
    joinLines newline ends ts = render (endedWith newline (finalEnd newline ends) ts) := by
  have htext : newline.intercalate ts ≠ [] := by
    obtain ⟨t, ts, rfl⟩ := List.exists_cons_of_ne_nil hne
    cases ts with
    | nil =>
      intro hnil
      rw [List.intercalate_singleton] at hnil
      exact hblank (by rw [hnil])
    | cons t' ts =>
      rw [List.intercalate_cons_cons]
      simp [hnl]
  rw [render_endedWith hne, joinLines, finalEnd]
  cases ends with
  | true => rw [if_pos ⟨rfl, htext⟩, if_pos rfl]
  | false =>
    rw [if_neg (fun h => Bool.false_ne_true h.1), if_neg Bool.false_ne_true, List.append_nil]

/-- **Joined lines are cut as they were joined.** -/
theorem lines_joinLines (hnl : E.IsNewline newline) {ends : Bool} (hplain : E.Plain ts)
    (h : Resplits ends ts) :
    E.lines (joinLines newline ends ts) = endedWith newline (finalEnd newline ends) ts := by
  by_cases hne : ts = []
  · subst hne
    cases ends <;> rfl
  · have hblank : ts ≠ [[]] := by
      rintro rfl
      exact (h rfl).2 rfl
    rw [joinLines_eq_render hnl.isEnding.ne_nil hne hblank]
    refine lines_render (reads_endedWith hnl ?_ hplain fun hfinal hlast => ?_)
    · cases ends
      · exact .inr rfl
      · exact .inl rfl
    · rw [finalEnd, if_pos (h hlast).1] at hfinal
      exact hnl.isEnding.ne_nil hfinal

theorem lines_joinLines_lost (hnl : E.IsNewline newline) {ends : Bool} (hplain : E.Plain ts)
    (h : ¬Resplits ends ts) :
    E.lines (joinLines newline ends ts) = endedWith newline newline ts.dropLast := by
  rw [Resplits, Classical.not_imp] at h
  obtain ⟨hlast, hends⟩ := h
  obtain ⟨init, rfl⟩ : ∃ init, ts = init ++ [[]] := List.getLast?_eq_some_iff.mp hlast
  rw [List.dropLast_concat]
  by_cases hinit : init = []
  · subst hinit
    cases ends <;> rfl
  · have hblank : init ++ [[]] ≠ [[]] := by
      intro heq
      exact hinit (List.append_left_eq_self.mp heq)
    have hfalse : ends = false := Bool.eq_false_iff.mpr fun htrue => hends ⟨htrue, hblank⟩
    have hrender :
        joinLines newline ends (init ++ [[]]) = render (endedWith newline newline init) := by
      rw [joinLines_eq_render hnl.isEnding.ne_nil (List.append_ne_nil_of_right_ne_nil _ (by simp))
        hblank, endedWith_append _ (by simp), hfalse, render_append, endedWith_self]
      simp [finalEnd]
    rw [hrender]
    exact lines_render (reads_endedWith hnl (.inl rfl)
      (fun t ht => hplain t (List.mem_append_left _ ht))
      fun hnil => absurd hnil hnl.isEnding.ne_nil)

theorem map_text_lines_joinLines (hnl : E.IsNewline newline) {ends : Bool} (hplain : E.Plain ts) :
    (E.lines (joinLines newline ends ts)).map text = ts ↔ Resplits ends ts := by
  constructor
  · intro heq
    by_contra h
    rw [lines_joinLines_lost hnl hplain h, map_text_endedWith] at heq
    have hne : ts ≠ [] := by
      rintro rfl
      exact h fun hlast => by cases hlast
    have hlength := congrArg List.length heq
    rw [List.length_dropLast] at hlength
    have := List.length_pos_of_ne_nil hne
    omega
  · intro h
    rw [lines_joinLines hnl hplain h, map_text_endedWith]

theorem length_lines_joinLines (ends : Bool) (hnl : E.IsNewline newline) (hplain : E.Plain ts) :
    (E.lines (joinLines newline ends ts)).length ≤ ts.length := by
  by_cases h : Resplits ends ts
  · rw [lines_joinLines hnl hplain h]
    exact Nat.le_of_eq (length_endedWith ts)
  · rw [lines_joinLines_lost hnl hplain h, length_endedWith, List.length_dropLast]
    omega

/-! ### Lines that have their ends already -/

omit [DecidableEq α] in
theorem map_ended_iff :
    (ls.map text).map (fun t => ⟨t, newline⟩) = ls ↔ ∀ l ∈ ls, l.ending = newline := by
  induction ls with
  | nil => simp
  | cons l ls ih =>
    rw [List.map_cons, List.map_cons, List.cons.injEq, ih, List.forall_mem_cons]
    refine and_congr ⟨fun h => (congrArg Line.ending h).symm, fun h => ?_⟩ Iff.rfl
    rw [← h]

omit [DecidableEq α] in
theorem Reads.endedWith_iff (h : E.Reads ls)
    (hlast : ∀ l, ls.getLast? = some l → (l.ending = final ↔ l.ending = newline ∨ l.ending = [])) :
    endedWith newline final (ls.map text) = ls ↔
      ∀ l ∈ ls, l.ending = newline ∨ l.ending = [] := by
  induction ls with
  | nil => simp
  | cons l ls ih =>
    cases ls with
    | nil =>
      rw [List.forall_mem_singleton, ← hlast l rfl]
      constructor
      · intro heq
        exact (congrArg Line.ending (List.cons.inj heq).1).symm
      · intro heq
        rw [← heq]
        rfl
    | cons l' ls =>
      have hfirst : E.Reads ([] ++ l :: l' :: ls) := h
      have hend : l.ending ≠ [] := (hfirst.ending (List.cons_ne_nil _ _)).ne_nil
      have hrest := ih h.tail fun l'' hl'' => hlast l'' hl''
      rw [List.forall_mem_cons, ← hrest, or_iff_left hend]
      constructor
      · intro heq
        obtain ⟨hhead, htail⟩ := List.cons.inj heq
        exact ⟨(congrArg Line.ending hhead).symm, htail⟩
      · rintro ⟨heq, htail⟩
        rw [List.map_cons, List.map_cons, endedWith_cons_cons, ← List.map_cons, htail, ← heq]

end LineEnds

end Lib
