import Mathlib.Data.List.Chain
import Mathlib.Tactic.Common

/-!
# Turns of a conversation

A turn is a run of blocks that belong to one speaker.  `addTurn` puts some blocks at the end of a
conversation, into the last turn if this is the speaker's own.  `consTurn` does the same at the
beginning, and `turns` puts a whole list of contributions together from there, which is the form
to prove something by induction.  `foldl_addTurn` says that it is the same conversation.

`isChain_turns` and `flatMap_turns` are what holds of every conversation: the speakers alternate,
and nothing is lost or moved.
-/

namespace Lib

variable {R B : Type*} [DecidableEq R]

/-- What one speaker says before another does. -/
structure SpeakerTurn (R B : Type*) where
  role : R
  blocks : List B
deriving DecidableEq, Repr

/-- Blocks at the end of a conversation. -/
def addTurn (ts : List (SpeakerTurn R B)) (t : SpeakerTurn R B) : List (SpeakerTurn R B) :=
  match ts.getLast? with
  | some last =>
    if last.role = t.role then ts.dropLast ++ [⟨t.role, last.blocks ++ t.blocks⟩] else ts ++ [t]
  | none => [t]

/-- Blocks at the beginning of a conversation. -/
def consTurn (t : SpeakerTurn R B) : List (SpeakerTurn R B) → List (SpeakerTurn R B)
  | [] => [t]
  | t' :: ts => if t'.role = t.role then ⟨t.role, t.blocks ++ t'.blocks⟩ :: ts else t :: t' :: ts

/-- The conversation of some contributions. -/
def turns : List (SpeakerTurn R B) → List (SpeakerTurn R B)
  | [] => []
  | t :: ts => consTurn t (turns ts)

theorem addTurn_concat (ts : List (SpeakerTurn R B)) (last t : SpeakerTurn R B) :
    addTurn (ts ++ [last]) t =
      if last.role = t.role then ts ++ [⟨t.role, last.blocks ++ t.blocks⟩]
      else ts ++ [last, t] := by
  rw [addTurn, List.getLast?_concat]
  simp only
  rw [List.dropLast_concat, List.append_assoc]
  rfl

theorem addTurn_cons (first : SpeakerTurn R B) {ts : List (SpeakerTurn R B)} (hne : ts ≠ [])
    (t : SpeakerTurn R B) :
    addTurn (first :: ts) t = first :: addTurn ts t := by
  obtain ⟨ts, last, rfl⟩ := List.eq_nil_or_concat' ts |>.resolve_left hne
  rw [← List.cons_append, addTurn_concat, addTurn_concat]
  split <;> rfl

theorem consTurn_addTurn (first t : SpeakerTurn R B) (ts : List (SpeakerTurn R B)) :
    consTurn first (addTurn ts t) = addTurn (consTurn first ts) t := by
  cases ts with
  | nil =>
    have hadd := addTurn_concat [] first t
    rw [List.nil_append] at hadd
    rw [consTurn, hadd, addTurn]
    simp only [List.getLast?_nil, consTurn]
    by_cases h : t.role = first.role
    · rw [if_pos h, if_pos h.symm, h]
      rfl
    · rw [if_neg h, if_neg fun h' => h h'.symm]
      rfl
  | cons t' ts =>
    by_cases hne : ts = []
    · subst hne
      have hadd := addTurn_concat [] t' t
      rw [List.nil_append] at hadd
      rw [hadd]
      by_cases hrole : t'.role = first.role
      · have hadd' := addTurn_concat [] ⟨first.role, first.blocks ++ t'.blocks⟩ t
        rw [List.nil_append] at hadd'
        rw [consTurn, if_pos hrole, hadd', hrole]
        split
        · rename_i h
          simp [consTurn, h]
        · simp [consTurn, hrole]
      · have hadd' := addTurn_concat [first] t' t
        rw [consTurn, if_neg hrole]
        rw [List.singleton_append] at hadd'
        rw [hadd']
        split
        · rename_i h
          have hne : t.role ≠ first.role := h ▸ hrole
          simp [consTurn, hne]
        · simp [consTurn, hrole]
    · rw [addTurn_cons t' hne, consTurn, consTurn]
      split
      · rw [addTurn_cons _ hne]
      · rw [addTurn_cons _ (List.cons_ne_nil t' ts), addTurn_cons _ hne]

theorem turns_concat (ts : List (SpeakerTurn R B)) (t : SpeakerTurn R B) :
    turns (ts ++ [t]) = addTurn (turns ts) t := by
  induction ts with
  | nil => rfl
  | cons first ts ih => rw [List.cons_append, turns, ih, consTurn_addTurn, turns]

/-- **A conversation may be put together from either end.** -/
theorem foldl_addTurn (ts : List (SpeakerTurn R B)) : ts.foldl addTurn [] = turns ts := by
  induction ts using List.reverseRecOn with
  | nil => rfl
  | append_singleton ts t ih => rw [List.foldl_concat, ih, turns_concat]

theorem isChain_turns (ts : List (SpeakerTurn R B)) :
    (turns ts).IsChain fun t t' => t.role ≠ t'.role := by
  induction ts with
  | nil => exact .nil
  | cons t ts ih =>
    rw [turns]
    cases hts : turns ts with
    | nil => exact .singleton t
    | cons t' rest =>
      rw [hts] at ih
      rw [consTurn]
      split
      · rename_i hrole
        rw [List.isChain_cons] at ih ⊢
        exact ⟨fun t'' ht'' => hrole ▸ ih.1 t'' ht'', ih.2⟩
      · rename_i hrole
        exact .cons_cons (Ne.symm hrole) ih

theorem flatMap_consTurn {E : Type*} (f : R → B → E) (t : SpeakerTurn R B)
    (ts : List (SpeakerTurn R B)) :
    (consTurn t ts).flatMap (fun t => t.blocks.map (f t.role)) =
      t.blocks.map (f t.role) ++ ts.flatMap fun t => t.blocks.map (f t.role) := by
  cases ts with
  | nil => rfl
  | cons t' ts =>
    rw [consTurn]
    split
    · rename_i hrole
      simp [List.flatMap_cons, hrole]
    · rfl

theorem flatMap_turns {E : Type*} (f : R → B → E) (ts : List (SpeakerTurn R B)) :
    (turns ts).flatMap (fun t => t.blocks.map (f t.role)) =
      ts.flatMap fun t => t.blocks.map (f t.role) := by
  induction ts with
  | nil => rfl
  | cons t ts ih => rw [turns, flatMap_consTurn, ih, List.flatMap_cons]

end Lib
