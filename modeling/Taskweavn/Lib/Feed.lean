import Mathlib.Data.List.Nodup
import Mathlib.Tactic.Common

/-!
# Following a log

A log grows at its end, and its rows have keys of their own.  Who has read up to a row
comes back with its key and gets what stands behind it (`since`).  A follower that comes
back with the last key it has got reads every row once, in the order of the log:
`since_follow` is the step of that argument, and `since_append` says what a new row
adds.
-/

namespace Lib

variable {E K : Type} [DecidableEq K] (key : E → K)

/-- What stands behind the row with the key; nothing when there is no such row. -/
def behind (k : K) : List E → Option (List E)
  | [] => none
  | e :: rest => if key e = k then some rest else behind k rest

/-- The rows since a key; all of them without one. -/
def since (rows : List E) : Option K → List E
  | none => rows
  | some k => (behind key k rows).getD []

/-- The key is one of the log. -/
def Known (rows : List E) (cursor : Option K) : Prop :=
  ∀ k, cursor = some k → (behind key k rows).isSome = true

/-- The key after some more rows. -/
def advance (cursor : Option K) (new : List E) : Option K :=
  match new.getLast? with
  | none => cursor
  | some e => some (key e)

variable {key} {rows l : List E} {k : K}

theorem behind_split (h : behind key k rows = some l) :
    ∃ pre e, rows = pre ++ e :: l ∧ key e = k := by
  induction rows with
  | nil => cases h
  | cons e rest ih =>
    by_cases he : key e = k
    · rw [behind, if_pos he] at h
      cases h
      exact ⟨[], e, rfl, he⟩
    · rw [behind, if_neg he] at h
      obtain ⟨pre, e', hrest, hk⟩ := ih h
      exact ⟨e :: pre, e', by rw [hrest, List.cons_append], hk⟩

theorem behind_of_split {pre : List E} {e : E} (hrows : rows = pre ++ e :: l)
    (hnodup : (rows.map key).Nodup) : behind key (key e) rows = some l := by
  induction pre generalizing rows with
  | nil =>
    rw [hrows, List.nil_append, behind, if_pos rfl]
  | cons p pre ih =>
    rw [hrows, List.cons_append, List.map_cons, List.nodup_cons] at hnodup
    have hne : key p ≠ key e := by
      intro heq
      apply hnodup.1
      rw [heq]
      exact List.mem_map_of_mem (by simp)
    rw [hrows, List.cons_append, behind, if_neg hne]
    exact ih rfl hnodup.2

theorem behind_append (h : behind key k rows = some l) (e : E) :
    behind key k (rows ++ [e]) = some (l ++ [e]) := by
  induction rows with
  | nil => cases h
  | cons e' rest ih =>
    by_cases he : key e' = k
    · rw [behind, if_pos he] at h
      cases h
      rw [List.cons_append, behind, if_pos he]
    · rw [behind, if_neg he] at h
      rw [List.cons_append, behind, if_neg he]
      exact ih h

theorem since_append {cursor : Option K} (h : Known key rows cursor) (e : E) :
    since key (rows ++ [e]) cursor = since key rows cursor ++ [e] := by
  cases cursor with
  | none => rfl
  | some k =>
    obtain ⟨l, hl⟩ := Option.isSome_iff_exists.mp (h k rfl)
    rw [since, since, behind_append hl, hl]
    rfl

theorem Known.append {cursor : Option K} (h : Known key rows cursor) (e : E) :
    Known key (rows ++ [e]) cursor := by
  intro k hk
  obtain ⟨l, hl⟩ := Option.isSome_iff_exists.mp (h k hk)
  rw [behind_append hl]
  rfl

theorem behind_getLast {e : E} (hnodup : (rows.map key).Nodup) (h : rows.getLast? = some e) :
    behind key (key e) rows = some [] := by
  obtain ⟨pre, hrows⟩ := List.getLast?_eq_some_iff.mp h
  exact behind_of_split hrows hnodup

theorem getLast?_since {cursor : Option K} {e : E} (h : (since key rows cursor).getLast? = some e) :
    rows.getLast? = some e := by
  cases cursor with
  | none => exact h
  | some k =>
    rw [since] at h
    cases hb : behind key k rows with
    | none =>
      rw [hb] at h
      cases h
    | some l =>
      rw [hb, Option.getD_some] at h
      obtain ⟨pre, e', hrows, -⟩ := behind_split hb
      obtain ⟨l', hl⟩ := List.getLast?_eq_some_iff.mp h
      rw [hrows, hl, List.getLast?_eq_some_iff]
      exact ⟨pre ++ e' :: l', by simp⟩

/-- **Reading on**: after what is new there is nothing new. -/
theorem since_follow {cursor : Option K} (hnodup : (rows.map key).Nodup) :
    since key rows (advance key cursor (since key rows cursor)) = [] := by
  unfold advance
  cases hlast : (since key rows cursor).getLast? with
  | none => exact List.getLast?_eq_none_iff.mp hlast
  | some e =>
    simp only [since, behind_getLast hnodup (getLast?_since hlast), Option.getD_some]

theorem Known.follow {cursor : Option K} (hnodup : (rows.map key).Nodup)
    (h : Known key rows cursor) :
    Known key rows (advance key cursor (since key rows cursor)) := by
  unfold advance
  cases hlast : (since key rows cursor).getLast? with
  | none => exact h
  | some e =>
    intro k hk
    cases hk
    rw [behind_getLast hnodup (getLast?_since hlast)]
    rfl

end Lib
