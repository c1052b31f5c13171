import Mathlib.Data.List.DropRight
import Mathlib.Tactic.Common

/-!
# Reading the front of a list

A machine reads a list element by element until it is done, and leaves the rest (`consume`).  What
it has read does not depend on what follows (`consume_append`), and it ends with an element that the
machine can be done with (`consume_split`).

`between a b l` is the part of a list from the first `a` to the last `b`.  A machine that begins
with an `a` and is done with a `b` reads the same there as from the first `a` on, and leaves what
stands before the last `b` (`consume_between`).
-/

namespace Lib

variable {S R C : Type} (step : S → C → Option (R ⊕ S))

/-- What the machine returns, and the rest of the list. -/
def consume : S → List C → Option (R × List C)
  | _, [] => none
  | s, c :: cs =>
    match step s c with
    | none => none
    | some (.inl r) => some (r, cs)
    | some (.inr s) => consume s cs

variable {step} {s : S} {cs rest : List C} {r : R}

theorem consume_append (h : consume step s cs = some (r, rest)) (more : List C) :
    consume step s (cs ++ more) = some (r, rest ++ more) := by
  induction cs generalizing s with
  | nil => cases h
  | cons c cs ih =>
    rw [consume] at h
    rw [List.cons_append, consume]
    cases hstep : step s c with
    | none =>
      rw [hstep] at h
      cases h
    | some out =>
      rw [hstep] at h
      cases out with
      | inl r' =>
        obtain ⟨rfl, rfl⟩ := Prod.mk.inj (Option.some.inj h)
        rfl
      | inr s' => exact ih h

/-- The part that is read, and the element at its end. -/
theorem consume_split (h : consume step s cs = some (r, rest)) :
    ∃ o s' c, cs = o ++ c :: rest ∧ step s' c = some (.inl r) ∧
      consume step s (o ++ [c]) = some (r, []) := by
  induction cs generalizing s with
  | nil => cases h
  | cons c cs ih =>
    rw [consume] at h
    cases hstep : step s c with
    | none =>
      rw [hstep] at h
      cases h
    | some out =>
      rw [hstep] at h
      cases out with
      | inl r' =>
        obtain ⟨rfl, rfl⟩ := Prod.mk.inj (Option.some.inj h)
        exact ⟨[], s, c, rfl, hstep, by rw [List.nil_append, consume, hstep]⟩
      | inr s' =>
        obtain ⟨o, t, d, hcs, hdone, hread⟩ := ih h
        refine ⟨c :: o, t, d, by rw [hcs, List.cons_append], hdone, ?_⟩
        rw [List.cons_append, consume, hstep]
        exact hread

variable [DecidableEq C] {a b : C} {l : List C}

/-- The part from the first `a` to the last `b`. -/
def between (a b : C) (l : List C) : Option (List C) :=
  match (l.dropWhile (· ≠ a)).rdropWhile (· ≠ b) with
  | [] => none
  | c :: cs => some (c :: cs)

omit [DecidableEq C] in
theorem rdropWhile_append_cons {p : C → Bool} {c : C} (hc : p c = false) (o rest : List C) :
    (o ++ c :: rest).rdropWhile p = o ++ c :: rest.rdropWhile p := by
  induction rest using List.reverseRecOn with
  | nil => rw [List.rdropWhile_concat_neg _ _ _ (by simp [hc]), List.rdropWhile_nil]
  | append_singleton rest d ih =>
    rw [← List.cons_append, ← List.append_assoc]
    by_cases hd : p d = true
    · rw [List.rdropWhile_concat_pos _ _ _ hd, List.rdropWhile_concat_pos _ _ _ hd, ih]
    · rw [List.rdropWhile_concat_neg _ _ _ hd, List.rdropWhile_concat_neg _ _ _ hd,
        List.append_assoc, List.cons_append]

theorem rdropWhile_ne_eq_nil_iff : l.rdropWhile (· ≠ b) = [] ↔ b ∉ l := by
  rw [List.rdropWhile_eq_nil_iff]
  constructor
  · intro h hb
    simpa using h b hb
  · rintro h x hx
    simpa using fun heq : x = b => h (heq ▸ hx)

/-- **A part that is too long changes what is left, and not what is read.** -/
theorem consume_between (hdone : ∀ s c r, step s c = some (.inl r) → c = b) :
    (between a b l).bind (consume step s) =
      (consume step s (l.dropWhile (· ≠ a))).map fun (r, rest) =>
        (r, rest.rdropWhile (· ≠ b)) := by
  cases h : consume step s (l.dropWhile (· ≠ a)) with
  | none =>
    rw [between]
    cases hm : (l.dropWhile (· ≠ a)).rdropWhile (· ≠ b) with
    | nil => rfl
    | cons c cs =>
      cases hread : consume step s (c :: cs) with
      | none => exact hread
      | some out =>
        obtain ⟨more, hmore⟩ : c :: cs <+: l.dropWhile (· ≠ a) := hm ▸ List.rdropWhile_prefix _ _
        rw [← hmore, consume_append hread] at h
        cases h
  | some out =>
    obtain ⟨r, rest⟩ := out
    obtain ⟨o, s', c, hsplit, hlast, hread⟩ := consume_split h
    obtain rfl := hdone s' c r hlast
    have hend : (l.dropWhile (· ≠ a)).rdropWhile (· ≠ c) = o ++ c :: rest.rdropWhile (· ≠ c) := by
      rw [hsplit]
      exact rdropWhile_append_cons (by simp) o rest
    have hsome : between a c l = some (o ++ [c] ++ rest.rdropWhile (· ≠ c)) := by
      rw [between, hend, List.append_assoc, List.singleton_append]
      cases o <;> rfl
    rw [hsome, Option.bind_some, consume_append hread]
    rfl

/-- What is read from the first `a` on stands behind a part without one. -/
theorem consume_dropWhile_iff (hstart : ∀ c out, step s c = some out → c = a) :
    consume step s (l.dropWhile (· ≠ a)) = some (r, rest) ↔
      ∃ p o, l = p ++ o ++ rest ∧ a ∉ p ∧ consume step s o = some (r, []) := by
  constructor
  · intro h
    obtain ⟨o, s', c, hsplit, -, hread⟩ := consume_split h
    refine ⟨l.takeWhile (· ≠ a), o ++ [c], ?_, ?_, hread⟩
    · rw [List.append_assoc, List.append_assoc, List.singleton_append, ← hsplit,
        List.takeWhile_append_dropWhile]
    · intro ha
      simpa using List.mem_takeWhile_imp ha
  · rintro ⟨p, o, rfl, hp, hread⟩
    cases o with
    | nil => cases hread
    | cons c o =>
      have hc : c = a := by
        rw [consume] at hread
        cases hstep : step s c with
        | none =>
          rw [hstep] at hread
          cases hread
        | some out => exact hstart c out hstep
      subst hc
      rw [List.append_assoc, List.dropWhile_append_of_pos, List.cons_append,
        List.dropWhile_cons_of_neg (by simp), ← List.cons_append]
      · exact consume_append hread rest
      · intro x hx
        simpa using fun heq : x = c => hp (heq ▸ hx)

end Lib
