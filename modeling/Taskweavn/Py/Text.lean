import Mathlib.Data.List.DropRight
import Mathlib.Tactic.Common

/-!
# Python strings

Strings are sequences of Unicode scalar values.  `isSpace` is the whitespace of
`str.strip`, `strip` and `rstrip` are the methods of that name, and `isBlank s`
is the test `not s.strip()` that the services use on their text arguments.
-/

namespace Py

/-- The characters that `str.strip` removes. -/
def isSpace (c : Char) : Bool :=
  let n := c.toNat
  (9 ≤ n && n ≤ 13) || (28 ≤ n && n ≤ 32) || n == 0x85 || n == 0xA0 || n == 0x1680 ||
    (0x2000 ≤ n && n ≤ 0x200A) || n == 0x2028 || n == 0x2029 || n == 0x202F || n == 0x205F ||
    n == 0x3000

def strip (s : String) : String :=
  String.ofList ((s.toList.dropWhile isSpace).rdropWhile isSpace)

def rstrip (s : String) : String := String.ofList (s.toList.rdropWhile isSpace)

/-- `not s.strip()` -/
def isBlank (s : String) : Bool := strip s == ""

/-- `s.replace(old, new)` for single characters. -/
def replaceChar (old new : Char) (s : String) : String := s.map fun c => if c = old then new else c

/-- `" ".join(s.split())` -/
def joinWords (s : String) : String :=
  " ".intercalate
    (((s.toList.splitOnP isSpace).filter (fun w => !w.isEmpty)).map String.ofList)

/-- `part in text` -/
def Within (part text : String) : Prop := part.toList <:+: text.toList

instance (part text : String) : Decidable (Within part text) :=
  inferInstanceAs (Decidable (part.toList <:+: text.toList))

/-! ### Stripping twice -/

theorem dropWhile_rdropWhile_of_head {p : Char → Bool} {l : List Char}
    (h : l.dropWhile p = l) : (l.rdropWhile p).dropWhile p = l.rdropWhile p := by
  rw [List.dropWhile_eq_self_iff] at h ⊢
  intro hlen
  have hpre : l.rdropWhile p <+: l := List.rdropWhile_prefix p l
  have hl : 0 < l.length := lt_of_lt_of_le hlen hpre.length_le
  have := h hl
  rwa [← hpre.getElem hlen] at this

theorem strip_strip (s : String) : strip (strip s) = strip s := by
  unfold strip
  rw [String.toList_ofList, dropWhile_rdropWhile_of_head (List.dropWhile_idempotent _ _),
    List.rdropWhile_idempotent]

theorem isBlank_strip (s : String) : isBlank (strip s) = isBlank s := by
  rw [isBlank, isBlank, strip_strip]

theorem ne_empty_of_not_isBlank {s : String} (h : isBlank s = false) : s ≠ "" := by
  rintro rfl
  exact absurd h (by decide)

theorem strip_ne_empty {s : String} (h : isBlank s = false) : strip s ≠ "" := by
  simpa [isBlank] using h

theorem isBlank_iff {s : String} : isBlank s = true ↔ ∀ c ∈ s.toList, isSpace c = true := by
  rw [isBlank, beq_iff_eq, strip, ← String.ofList_nil, String.ofList_inj,
    List.rdropWhile_eq_nil_iff]
  constructor
  · intro h
    have hnil : s.toList.dropWhile isSpace = [] := by
      cases hd : s.toList.dropWhile isSpace with
      | nil => rfl
      | cons c rest =>
        have hc : isSpace c = true := h c (by rw [hd]; simp)
        have hhead := List.head?_dropWhile_not isSpace s.toList
        rw [hd] at hhead
        simp [hc] at hhead
    exact List.dropWhile_eq_nil_iff.mp hnil
  · intro h c hc
    exact h c (List.dropWhile_sublist _ |>.subset hc)

theorem strip_isInfix (s : String) : (strip s).toList <:+: s.toList := by
  rw [strip, String.toList_ofList]
  exact (List.rdropWhile_prefix _ _).isInfix.trans (List.dropWhile_suffix _).isInfix

theorem isBlank_append_of_left {s t : String} (h : isBlank s = false) :
    isBlank (s ++ t) = false := by
  rw [Bool.eq_false_iff] at h ⊢
  intro hb
  apply h
  rw [isBlank_iff] at hb ⊢
  intro c hc
  exact hb c (by rw [String.toList_append]; exact List.mem_append_left _ hc)

theorem append_ne_empty_of_left {s t : String} (h : s ≠ "") : s ++ t ≠ "" := by
  intro he
  apply h
  have := congrArg String.toList he
  rw [String.toList_append] at this
  exact String.toList_injective (List.append_eq_nil_iff.mp this).1

theorem length_rstrip_append {s t : String} (h : isBlank t = false) :
    (rstrip s).length < (rstrip (rstrip s ++ t)).length := by
  have hne : t.toList.reverse.dropWhile isSpace ≠ [] := by
    intro hnil
    have hblank : isBlank t = true := by
      rw [isBlank_iff]
      intro c hc
      exact List.dropWhile_eq_nil_iff.mp hnil c (List.mem_reverse.mpr hc)
    rw [hblank] at h
    cases h
  have hlist : (rstrip (rstrip s ++ t)).toList =
      (rstrip s).toList ++ (t.toList.reverse.dropWhile isSpace).reverse := by
    simp [rstrip, List.rdropWhile, List.dropWhile_append, hne]
  have hlen : (rstrip (rstrip s ++ t)).length =
      (rstrip s).length + (t.toList.reverse.dropWhile isSpace).length := by
    rw [← String.length_toList, hlist, List.length_append, List.length_reverse,
      String.length_toList]
  have hpos := List.length_pos_iff.mpr hne
  omega

/-! ### Texts joined by a character -/

/-- Two joins of different first parts agree exactly when one first part goes on where the
other ends. -/
theorem append_cons_eq_iff_of_ne {α : Type*} {x x' y y' : List α} {sep : α} (h : x ≠ x') :
    x ++ sep :: y = x' ++ sep :: y' ↔
      (∃ w, x' = x ++ sep :: w ∧ y = w ++ sep :: y') ∨
      ∃ w, x = x' ++ sep :: w ∧ y' = w ++ sep :: y := by
  rw [List.append_eq_append_iff]
  constructor
  · rintro (⟨w, rfl, hw⟩ | ⟨w, rfl, hw⟩)
    · cases w with
      | nil => exact absurd (List.append_nil x).symm h
      | cons c w =>
        obtain ⟨rfl, rfl⟩ := List.cons.inj hw
        exact .inl ⟨w, rfl, rfl⟩
    · cases w with
      | nil => exact absurd (List.append_nil x') h
      | cons c w =>
        obtain ⟨rfl, rfl⟩ := List.cons.inj hw
        exact .inr ⟨w, rfl, rfl⟩
  · rintro (⟨w, rfl, rfl⟩ | ⟨w, rfl, rfl⟩)
    · exact .inl ⟨sep :: w, rfl, rfl⟩
    · exact .inr ⟨sep :: w, rfl, rfl⟩

theorem append_colon_eq_iff_of_ne {x x' y y' : String} (h : x ≠ x') :
    x ++ ":" ++ y = x' ++ ":" ++ y' ↔
      (∃ w, x' = x ++ ":" ++ w ∧ y = w ++ ":" ++ y') ∨
      ∃ w, x = x' ++ ":" ++ w ∧ y' = w ++ ":" ++ y := by
  have hlist : ∀ a b : String, (a ++ ":" ++ b).toList = a.toList ++ ':' :: b.toList := by
    intro a b
    simp
  have hjoin : ∀ a b c : String, c = a ++ ":" ++ b ↔ c.toList = a.toList ++ ':' :: b.toList := by
    intro a b c
    rw [← hlist, String.toList_inj]
  have hne : x.toList ≠ x'.toList := fun he => h (String.toList_injective he)
  have hover : ∀ a a' b b' : String,
      (∃ w : List Char, a'.toList = a.toList ++ ':' :: w ∧ b.toList = w ++ ':' :: b'.toList) ↔
        ∃ w : String, a' = a ++ ":" ++ w ∧ b = w ++ ":" ++ b' := by
    intro a a' b b'
    constructor
    · rintro ⟨w, ha, hb⟩
      exact ⟨String.ofList w, (hjoin _ _ _).mpr (by rw [String.toList_ofList, ha]),
        (hjoin _ _ _).mpr (by rw [String.toList_ofList, hb])⟩
    · rintro ⟨w, ha, hb⟩
      exact ⟨w.toList, (hjoin _ _ _).mp ha, (hjoin _ _ _).mp hb⟩
  rw [hjoin, hlist, append_cons_eq_iff_of_ne hne, hover, hover]

theorem append_colon_inj {x x' y y' : String} (hx : ':' ∉ x.toList) (hx' : ':' ∉ x'.toList)
    (h : x ++ ":" ++ y = x' ++ ":" ++ y') : x = x' ∧ y = y' := by
  have hne : x = x' := by
    by_contra hne
    rcases (append_colon_eq_iff_of_ne hne).mp h with ⟨w, rfl, -⟩ | ⟨w, rfl, -⟩
    · exact hx' (by simp)
    · exact hx (by simp)
  subst hne
  exact ⟨rfl, by simpa [String.append_assoc] using h⟩

theorem mem_of_mem_intercalate {α : Type*} {sep : List α} {a : α} : ∀ {ws : List (List α)},
    a ∈ sep.intercalate ws → a ∈ sep ∨ ∃ w ∈ ws, a ∈ w := by
  intro ws
  induction ws with
  | nil => intro h; cases h
  | cons v ws ih =>
    intro h
    cases ws with
    | nil =>
      rw [List.intercalate_singleton] at h
      exact .inr ⟨v, List.mem_cons_self, h⟩
    | cons u ws =>
      rw [List.intercalate_cons_cons, List.append_assoc] at h
      rcases List.mem_append.mp h with h | h
      · exact .inr ⟨v, List.mem_cons_self, h⟩
      · rcases List.mem_append.mp h with h | h
        · exact .inl h
        · rcases ih h with h | ⟨w, hw, haw⟩
          · exact .inl h
          · exact .inr ⟨w, List.mem_cons_of_mem _ hw, haw⟩

end Py
