import Mathlib.Data.List.Basic
import Mathlib.Tactic.Common

/-!
# Pages by offset

A client reads a list page by page: each request names the offset of its page, and the list can be
another one at each request.  `Pages size offset lists pages` is such a reading from `offset` to
its end, with the lists that the requests found.

* `Pages.exists_mem`: an element of all the lists is on a page when it never moves from behind the
  next offset to before it (`StaysBehind`).
* `Pages.flatten_eq`: when the lists agree behind the first page, the pages together are the first
  list.
-/

namespace Lib

variable {α : Type*} (size : ℕ)

def pageAt (offset : ℕ) (l : List α) : List α := (l.drop offset).take size

/-- The pages of a reading, which ends with the first page that has nothing behind it. -/
inductive Pages : ℕ → List (List α) → List (List α) → Prop
  | last {offset : ℕ} {l : List α} (h : l.length ≤ offset + size) :
      Pages offset [l] [pageAt size offset l]
  | next {offset : ℕ} {l : List α} {lists pages : List (List α)} (h : offset + size < l.length)
      (rest : Pages (offset + size) lists pages) :
      Pages offset (l :: lists) (pageAt size offset l :: pages)

/-- At no request the element moves from behind the offset of the next page to before it. -/
def StaysBehind (a : α) : ℕ → List (List α) → Prop
  | offset, l :: l' :: lists =>
    (a ∉ l.take (offset + size) → a ∉ l'.take (offset + size)) ∧
      StaysBehind a (offset + size) (l' :: lists)
  | _, _ => True

variable {size}

theorem take_add_eq (offset : ℕ) (l : List α) :
    l.take (offset + size) = l.take offset ++ pageAt size offset l := List.take_add

/-- **An element that stays behind what has been read is on a page.** -/
theorem Pages.exists_mem {a : α} {offset : ℕ} {lists pages : List (List α)}
    (h : Pages size offset lists pages) :
    (∀ l ∈ lists, a ∈ l) → (∀ l ∈ lists.head?, a ∉ l.take offset) →
      StaysBehind size a offset lists → ∃ page ∈ pages, a ∈ page := by
  induction h with
  | @last offset l hend =>
    intro hmem hfirst _
    refine ⟨_, List.mem_singleton.mpr rfl, ?_⟩
    have ha : a ∈ l.take (offset + size) := by
      rw [List.take_of_length_le hend]
      exact hmem l (List.mem_singleton.mpr rfl)
    rw [take_add_eq, List.mem_append] at ha
    exact ha.resolve_left (hfirst l rfl)
  | @next offset l lists pages _ rest ih =>
    intro hmem hfirst hstays
    by_cases hpage : a ∈ pageAt size offset l
    · exact ⟨_, List.mem_cons_self, hpage⟩
    · have hbehind : a ∉ l.take (offset + size) := by
        rw [take_add_eq, List.mem_append, not_or]
        exact ⟨hfirst l rfl, hpage⟩
      have hrest : (∀ l' ∈ lists.head?, a ∉ l'.take (offset + size)) ∧
          StaysBehind size a (offset + size) lists := by
        cases lists with
        | nil => exact ⟨(fun _ h => nomatch h), trivial⟩
        | cons l' lists =>
          refine ⟨fun l'' h => ?_, hstays.2⟩
          rw [← Option.some.inj h]
          exact hstays.1 hbehind
      obtain ⟨page, hpage, ha⟩ :=
        ih (fun l' h => hmem l' (List.mem_cons_of_mem _ h)) hrest.1 hrest.2
      exact ⟨page, List.mem_cons_of_mem _ hpage, ha⟩

/-- Each request finds a list of its own; an element stays behind when from one request to the next
it does not come before the offset of the next page. -/
theorem staysBehind_map {β : Type*} {a : α} {f : β → List α} {requests : List β} :
    ∀ {offset : ℕ}, (∀ before r r' after, requests = before ++ r :: r' :: after →
      a ∉ (f r).take (offset + (before.length + 1) * size) →
        a ∉ (f r').take (offset + (before.length + 1) * size)) →
      StaysBehind size a offset (requests.map f) := by
  induction requests with
  | nil => exact fun {_} _ => trivial
  | cons r requests ih =>
    intro offset h
    cases requests with
    | nil => exact trivial
    | cons r' requests =>
      refine ⟨?_, ih fun before s s' after heq => ?_⟩
      · have := h [] r r' requests rfl
        rwa [List.length_nil, Nat.zero_add, Nat.one_mul] at this
      · have := h (r :: before) s s' after (by rw [heq, List.cons_append])
        rwa [List.length_cons, Nat.add_mul (before.length + 1), Nat.one_mul,
          Nat.add_comm _ size, ← Nat.add_assoc] at this

theorem Pages.flatten_eq_drop {offset : ℕ} {lists pages : List (List α)}
    (h : Pages size offset lists pages) :
    ∀ {l : List α}, (∀ l' ∈ lists, l'.drop offset = l.drop offset) →
      pages.flatten = l.drop offset := by
  induction h with
  | @last offset l' hend =>
    intro l hsame
    have hdrop := hsame l' (List.mem_singleton.mpr rfl)
    rw [List.flatten_singleton, pageAt, hdrop, List.take_of_length_le]
    rw [← hdrop, List.length_drop]
    omega
  | @next offset l' lists pages _ rest ih =>
    intro l hsame
    have hdrop := hsame l' List.mem_cons_self
    have hrest : pages.flatten = l.drop (offset + size) := by
      apply ih
      intro l'' h
      have := hsame l'' (List.mem_cons_of_mem _ h)
      rw [← List.drop_drop, ← List.drop_drop, this]
    rw [List.flatten_cons, hrest, pageAt, hdrop, ← List.drop_drop, List.take_append_drop]

/-- **When the lists agree behind the first page**, the pages together are the first list. -/
theorem Pages.flatten_eq {l : List α} {lists pages : List (List α)}
    (h : Pages size 0 (l :: lists) pages) (hsame : ∀ l' ∈ lists, l'.drop size = l.drop size) :
    pages.flatten = l := by
  generalize hoffset : 0 = offset at h
  generalize hall : l :: lists = all at h
  cases h with
  | @last offset l' hend =>
    obtain ⟨rfl, -⟩ := List.cons.inj hall
    rw [List.flatten_singleton, pageAt, ← hoffset, List.drop_zero,
      List.take_of_length_le (by omega)]
  | @next offset l' lists' pages _ rest =>
    obtain ⟨rfl, rfl⟩ := List.cons.inj hall
    rw [← hoffset, Nat.zero_add] at rest
    rw [List.flatten_cons, rest.flatten_eq_drop hsame, pageAt, ← hoffset, List.drop_zero,
      List.take_append_drop]

end Lib
