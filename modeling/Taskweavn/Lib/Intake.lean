import Mathlib.Algebra.GroupWithZero.Nat
import Mathlib.Data.List.Basic
import Mathlib.Tactic.Common

/-!
# Taking in up to a limit

The elements of a list are judged one after the other: one is taken, refused with a note, or ends
the run.  When the limit is reached, a last note is made and the rest of the group of elements is
left (`takeIn`, `takeGroups`).

* `takeGroups_eq_some_iff`: a run comes to its end when no element that it reaches ends it, and then
  the first accepted elements are taken.
* `groupNotes_eq_iff`: every element that is not taken has a note of its own exactly when behind
  the limit there is at most the last element of each group.
-/

namespace Lib

variable {α β ν : Type*}

inductive Verdict (β ν : Type*)
  | take (b : β)
  | refuse (note : ν)
  | fail

def Verdict.taken : Verdict β ν → Option β
  | .take b => some b
  | _ => none

structure Intake (β ν : Type*) where
  taken : List β := []
  notes : List ν := []

/-- Elements that are looked at together, and what is noted before. -/
structure Group (α ν : Type*) where
  opening : List ν := []
  items : List α := []

namespace Intake

section Run

variable (verdict : α → Verdict β ν) (limit : ℕ) (full : ν)

/-- The elements of a group are taken in until the limit is reached. -/
def takeIn : List α → Intake β ν → Option (Intake β ν)
  | [], intake => some intake
  | a :: as, intake =>
    if limit ≤ intake.taken.length then some { intake with notes := intake.notes ++ [full] }
    else
      match verdict a with
      | .take b => takeIn as { intake with taken := intake.taken ++ [b] }
      | .refuse note => takeIn as { intake with notes := intake.notes ++ [note] }
      | .fail => none

/-- Groups are looked at one after the other.  One that is no group ends the run. -/
def takeGroups : List (Option (Group α ν)) → Intake β ν → Option (Intake β ν)
  | [], intake => some intake
  | none :: _, _ => none
  | some group :: groups, intake =>
    (takeIn verdict limit full group.items
      { intake with notes := intake.notes ++ group.opening }).bind (takeGroups groups)

/-- What is taken of elements when there is no limit. -/
def accepted (as : List α) : List β := as.filterMap fun a => (verdict a).taken

/-- The notes that the run makes of a group, when `n` elements have been accepted before. -/
def notesOf : ℕ → List α → List ν
  | _, [] => []
  | n, a :: as =>
    if limit ≤ n then [full]
    else
      match verdict a with
      | .take _ => notesOf (n + 1) as
      | .refuse note => note :: notesOf n as
      | .fail => notesOf n as

/-- One note for each element that is not taken. -/
def notesEach : ℕ → List α → List ν
  | _, [] => []
  | n, a :: as =>
    if limit ≤ n then full :: notesEach n as
    else
      match verdict a with
      | .take _ => notesEach (n + 1) as
      | .refuse note => note :: notesEach n as
      | .fail => notesEach n as

/-- The notes of groups, by the notes that are made of the elements of each. -/
def groupNotes (notes : ℕ → List α → List ν) : ℕ → List (Group α ν) → List ν
  | _, [] => []
  | n, group :: groups =>
    group.opening ++ notes n group.items ++
      groupNotes notes (n + (accepted verdict group.items).length) groups

/-- No element that is reached ends the run. -/
def NoFailure (n : ℕ) (as : List α) : Prop :=
  ∀ before a after, as = before ++ a :: after → n + (accepted verdict before).length < limit →
    verdict a ≠ .fail

/-- Only the last element can be behind the limit. -/
def LastBehind (n : ℕ) (as : List α) : Prop :=
  ∀ before a after, as = before ++ a :: after → limit ≤ n + (accepted verdict before).length →
    after = []

/-- In each group, only the last element can be behind the limit. -/
def LastsBehind (n : ℕ) (groups : List (Group α ν)) : Prop :=
  ∀ before group after, groups = before ++ group :: after →
    LastBehind verdict limit (n + (accepted verdict (before.flatMap Group.items)).length)
      group.items

end Run

variable {verdict : α → Verdict β ν} {limit n : ℕ} {full : ν} {a : α} {as : List α}

theorem accepted_append (as as' : List α) :
    accepted verdict (as ++ as') = accepted verdict as ++ accepted verdict as' :=
  List.filterMap_append

theorem accepted_cons (a : α) (as : List α) :
    accepted verdict (a :: as) = (verdict a).taken.toList ++ accepted verdict as := by
  cases h : (verdict a).taken with
  | none => exact List.filterMap_cons_none h
  | some b => exact List.filterMap_cons_some h

theorem forall_split_cons {P : List α → α → List α → Prop} :
    (∀ before b after, a :: as = before ++ b :: after → P before b after) ↔
      P [] a as ∧ ∀ before b after, as = before ++ b :: after → P (a :: before) b after := by
  constructor
  · intro h
    refine ⟨h [] a as rfl, fun before b after heq => h (a :: before) b after ?_⟩
    rw [heq, List.cons_append]
  · rintro ⟨hfirst, hrest⟩ before b after heq
    cases before with
    | nil =>
      obtain ⟨rfl, rfl⟩ := List.cons.inj heq
      exact hfirst
    | cons c before =>
      obtain ⟨rfl, heq'⟩ := List.cons.inj heq
      exact hrest before b after heq'

theorem noFailure_cons :
    NoFailure verdict limit n (a :: as) ↔ (n < limit → verdict a ≠ .fail) ∧
      NoFailure verdict limit (n + (verdict a).taken.toList.length) as := by
  rw [NoFailure, forall_split_cons, NoFailure]
  simp only [accepted_cons a, List.length_append, Nat.add_assoc]
  rfl

theorem lastBehind_cons :
    LastBehind verdict limit n (a :: as) ↔ (limit ≤ n → as = []) ∧
      LastBehind verdict limit (n + (verdict a).taken.toList.length) as := by
  rw [LastBehind, forall_split_cons, LastBehind]
  simp only [accepted_cons a, List.length_append, Nat.add_assoc]
  rfl

theorem noFailure_of_le (h : limit ≤ n) (as : List α) : NoFailure verdict limit n as :=
  fun _ _ _ _ hlt => absurd hlt (by omega)

theorem noFailure_append {as' : List α} :
    NoFailure verdict limit n (as ++ as') ↔ NoFailure verdict limit n as ∧
      NoFailure verdict limit (n + (accepted verdict as).length) as' := by
  induction as generalizing n with
  | nil =>
    refine ⟨fun h => ⟨fun before a after heq => ?_, h⟩, And.right⟩
    exact absurd heq.symm (by simp)
  | cons a as ih =>
    rw [List.cons_append, noFailure_cons, noFailure_cons, ih, and_assoc, accepted_cons,
      List.length_append, Nat.add_assoc]

/-! ### The run -/

/-- **A group is taken in** when no element that is reached ends the run. -/
theorem takeIn_eq_some_iff : ∀ {done : List α} {noted : List ν}
    {result : Intake β ν},
    takeIn verdict limit full as ⟨(accepted verdict done).take limit, noted⟩ = some result ↔
      NoFailure verdict limit (accepted verdict done).length as ∧
        result = ⟨(accepted verdict (done ++ as)).take limit,
          noted ++ notesOf verdict limit full (accepted verdict done).length as⟩ := by
  induction as with
  | nil =>
    intro done noted result
    rw [takeIn, notesOf, List.append_nil, List.append_nil, Option.some_inj, eq_comm]
    refine ⟨fun h => ⟨fun before a after heq => ?_, h⟩, And.right⟩
    exact absurd heq.symm (by simp)
  | cons a as ih =>
    intro done noted result
    have hstep : done ++ a :: as = (done ++ [a]) ++ as := by simp
    rw [takeIn, notesOf]
    by_cases hfull : limit ≤ (accepted verdict done).length
    · have htaken : (accepted verdict (done ++ a :: as)).take limit =
          (accepted verdict done).take limit := by
        rw [accepted_append, List.take_append_of_le_length hfull]
      rw [if_pos (by rw [List.length_take]; omega), if_pos hfull, htaken, Option.some_inj, eq_comm]
      exact ⟨fun h => ⟨noFailure_of_le hfull _, h⟩, And.right⟩
    · have hall : (accepted verdict done).take limit = accepted verdict done :=
        List.take_of_length_le (by omega)
      rw [if_neg (by rw [List.length_take]; omega), if_neg hfull, noFailure_cons, hstep, hall]
      cases hverdict : verdict a with
      | take b =>
        have hone : accepted verdict (done ++ [a]) = accepted verdict done ++ [b] := by
          rw [accepted_append]
          simp [accepted, hverdict, Verdict.taken]
        have htake :
            (accepted verdict (done ++ [a])).take limit = accepted verdict done ++ [b] := by
          rw [hone]
          exact List.take_of_length_le (by
            rw [List.length_append, List.length_singleton]
            omega)
        have := @ih (done ++ [a]) noted result
        rw [htake, hone, List.length_append, List.length_singleton] at this
        rw [this]
        simp [Verdict.taken]
      | refuse note =>
        have hsame : accepted verdict (done ++ [a]) = accepted verdict done := by
          rw [accepted_append]
          simp [accepted, hverdict, Verdict.taken]
        have := @ih (done ++ [a]) (noted ++ [note]) result
        rw [hsame, hall] at this
        rw [this]
        simp [Verdict.taken]
      | fail =>
        simp [Nat.lt_of_not_le hfull]

/-- **A run comes to its end** when no element that it reaches ends it. -/
theorem takeGroups_eq_some_iff {groups : List (Group α ν)} : ∀ {done : List α} {noted : List ν}
    {result : Intake β ν},
    takeGroups verdict limit full (groups.map some) ⟨(accepted verdict done).take limit, noted⟩ =
        some result ↔
      NoFailure verdict limit (accepted verdict done).length (groups.flatMap Group.items) ∧
        result = ⟨(accepted verdict (done ++ groups.flatMap Group.items)).take limit,
          noted ++ groupNotes verdict (notesOf verdict limit full) (accepted verdict done).length
            groups⟩ := by
  induction groups with
  | nil =>
    intro done noted result
    rw [List.map_nil, takeGroups, groupNotes, List.flatMap_nil, List.append_nil, List.append_nil,
      Option.some_inj, eq_comm]
    refine ⟨fun h => ⟨fun before a after heq => ?_, h⟩, And.right⟩
    exact absurd heq.symm (by simp)
  | cons group groups ih =>
    intro done noted result
    rw [List.map_cons, takeGroups, groupNotes, List.flatMap_cons, noFailure_append,
      Option.bind_eq_some_iff]
    constructor
    · rintro ⟨middle, hgroup, hrest⟩
      obtain ⟨hno, rfl⟩ := takeIn_eq_some_iff.mp hgroup
      obtain ⟨hnos, rfl⟩ := ih.mp hrest
      rw [accepted_append, List.length_append] at hnos
      refine ⟨⟨hno, hnos⟩, ?_⟩
      simp [accepted_append]
    · rintro ⟨⟨hno, hnos⟩, rfl⟩
      refine ⟨_, takeIn_eq_some_iff.mpr ⟨hno, rfl⟩, ih.mpr ⟨?_, ?_⟩⟩
      · rwa [accepted_append, List.length_append]
      · simp [accepted_append]

theorem takeGroups_start_eq_some_iff {groups : List (Group α ν)} {result : Intake β ν} :
    takeGroups verdict limit full (groups.map some) {} = some result ↔
      NoFailure verdict limit 0 (groups.flatMap Group.items) ∧
        result = ⟨(accepted verdict (groups.flatMap Group.items)).take limit,
          groupNotes verdict (notesOf verdict limit full) 0 groups⟩ := by
  have h := @takeGroups_eq_some_iff _ _ _ verdict limit full groups [] [] result
  rwa [show accepted verdict [] = [] from rfl, List.take_nil] at h

theorem takeGroups_eq_none {groups : List (Option (Group α ν))} (h : none ∈ groups) :
    ∀ intake : Intake β ν, takeGroups verdict limit full groups intake = none := by
  induction groups with
  | nil => exact absurd h List.not_mem_nil
  | cons group groups ih =>
    intro intake
    cases group with
    | none => rfl
    | some group =>
      have hrest := ih (List.mem_of_ne_of_mem (by simp) h)
      rw [takeGroups]
      cases takeIn verdict limit full group.items _ with
      | none => rfl
      | some middle => exact hrest middle

theorem mem_take_accepted {b : β} (h : (verdict a).taken = some b) : ∀ {n},
    a ∈ (as.filter fun a => (verdict a).taken.isSome).take n →
      b ∈ (accepted verdict as).take n := by
  induction as with
  | nil => exact fun {n} ha => absurd ha (by simp)
  | cons c as ih =>
    intro n ha
    rw [accepted_cons]
    cases hc : (verdict c).taken with
    | none =>
      rw [List.filter_cons_of_neg (by simp [hc])] at ha
      exact ih ha
    | some b' =>
      rw [List.filter_cons_of_pos (by simp [hc])] at ha
      cases n with
      | zero => exact absurd ha (by simp)
      | succ n =>
        rw [List.take_succ_cons] at ha
        show b ∈ b' :: (accepted verdict as).take n
        rcases List.mem_cons.mp ha with rfl | ha
        · rw [h] at hc
          exact List.mem_cons.mpr (.inl (Option.some.inj hc))
        · exact List.mem_cons_of_mem _ (ih ha)

/-! ### The notes -/

theorem length_notesOf_le (as : List α) : ∀ n,
    (notesOf verdict limit full n as).length ≤ (notesEach verdict limit full n as).length := by
  induction as with
  | nil => exact fun _ => Nat.le_refl 0
  | cons a as ih =>
    intro n
    rw [notesOf, notesEach]
    split_ifs with hfull
    · exact Nat.succ_le_succ (Nat.zero_le _)
    · cases verdict a with
      | take b => exact ih (n + 1)
      | refuse note => exact Nat.succ_le_succ (ih n)
      | fail => exact ih n

theorem length_groupNotes_le (groups : List (Group α ν)) : ∀ n,
    (groupNotes verdict (notesOf verdict limit full) n groups).length ≤
      (groupNotes verdict (notesEach verdict limit full) n groups).length := by
  induction groups with
  | nil => exact fun _ => Nat.le_refl 0
  | cons group groups ih =>
    intro n
    have hfirst := @length_notesOf_le _ _ _ verdict limit full group.items n
    have hrest := ih (n + (accepted verdict group.items).length)
    simp only [groupNotes, List.length_append]
    omega

theorem notesOf_eq_iff : ∀ {n},
    notesOf verdict limit full n as = notesEach verdict limit full n as ↔
      LastBehind verdict limit n as := by
  induction as with
  | nil => exact fun {n} => ⟨fun _ before a after heq => absurd heq.symm (by simp), fun _ => rfl⟩
  | cons a as ih =>
    intro n
    rw [notesOf, notesEach, lastBehind_cons]
    by_cases hfull : limit ≤ n
    · rw [if_pos hfull, if_pos hfull, List.cons_inj_right]
      constructor
      · intro h
        cases as with
        | nil => exact ⟨fun _ => rfl, fun before b after heq => absurd heq.symm (by simp)⟩
        | cons b as =>
          rw [notesEach, if_pos hfull] at h
          exact absurd h (List.cons_ne_nil _ _).symm
      · intro h
        rw [h.1 hfull, notesEach]
    · have hlast : ∀ {P : Prop}, ((limit ≤ n → as = []) ∧ P) ↔ P :=
        fun {P} => and_iff_right fun h => absurd h hfull
      rw [if_neg hfull, if_neg hfull, hlast]
      cases hverdict : verdict a with
      | take b =>
        exact ih
      | refuse note =>
        rw [List.cons_inj_right]
        exact ih
      | fail =>
        exact ih

theorem lastsBehind_cons {group : Group α ν} {groups : List (Group α ν)} :
    LastsBehind verdict limit n (group :: groups) ↔ LastBehind verdict limit n group.items ∧
      LastsBehind verdict limit (n + (accepted verdict group.items).length) groups := by
  rw [LastsBehind, forall_split_cons, LastsBehind]
  simp only [List.flatMap_cons, accepted_append, List.length_append, Nat.add_assoc]
  rfl

/-- **Every element that is not taken has a note of its own** exactly when in each group only the
last element can be behind the limit. -/
theorem groupNotes_eq_iff {groups : List (Group α ν)} : ∀ {n},
    groupNotes verdict (notesOf verdict limit full) n groups =
        groupNotes verdict (notesEach verdict limit full) n groups ↔
      LastsBehind verdict limit n groups := by
  induction groups with
  | nil =>
    intro n
    exact ⟨fun _ before group after heq => absurd heq.symm (by simp), fun _ => rfl⟩
  | cons group groups ih =>
    intro n
    rw [groupNotes, groupNotes, lastsBehind_cons, ← @notesOf_eq_iff _ _ _ _ _ full, ← ih]
    constructor
    · intro h
      have hlength := congrArg List.length h
      have hfirst := @length_notesOf_le _ _ _ verdict limit full group.items n
      have hrest := @length_groupNotes_le _ _ _ verdict limit full groups
        (n + (accepted verdict group.items).length)
      simp only [List.length_append] at hlength
      rw [List.append_assoc, List.append_assoc] at h
      exact List.append_inj (List.append_cancel_left h) (by omega)
    · rintro ⟨hfirst, hrest⟩
      rw [hfirst, hrest]

end Intake

end Lib
