import Taskweavn.Lib.Dict
import Taskweavn.Lib.EventStream
import Taskweavn.Py.Moment
import Mathlib.Tactic.IntervalCases

/-!
# Compact JSON

The text that a model is dumped to: an object with its fields in their order and no blanks.  A
string is written between quotes, with an escape for a quote, a backslash and every control
character, so whatever the string is the text stands in one line (`oneLine_jsonString`).

A payload holds any objects.  What a library writes of one of them is a parameter, and it may
refuse (`PayloadWriter`); a text that it writes is a line.
-/

namespace Py

open Lib EventStream

def jsonControl (n : ℕ) : List Char :=
  if n = 8 then "\\b".toList
  else if n = 9 then "\\t".toList
  else if n = 10 then "\\n".toList
  else if n = 12 then "\\f".toList
  else if n = 13 then "\\r".toList
  else "\\u00".toList ++ [Nat.digitChar (n / 16), Nat.digitChar (n % 16)]

def jsonChar (c : Char) : List Char :=
  if c.toNat = 34 then "\\\"".toList
  else if c.toNat = 92 then "\\\\".toList
  else if c.toNat < 32 then jsonControl c.toNat
  else [c]

def jsonString (s : String) : List Char :=
  "\"".toList ++ s.toList.flatMap jsonChar ++ "\"".toList

/-- Some texts between brackets, with commas. -/
def jsonArray (texts : List (List Char)) : List Char :=
  "[".toList ++ [','].intercalate texts ++ "]".toList

def jsonObject (items : List (String × List Char)) : List Char :=
  "\x7b".toList ++ [','].intercalate (items.map fun item => jsonString item.1 ++ ':' :: item.2) ++
    "\x7d".toList

def jsonOption {α : Type*} (text : α → List Char) : Option α → List Char
  | none => "null".toList
  | some a => text a

/-- The JSON text of a moment; an offset is written in minutes. -/
def Moment.jsonText (m : Moment) : List Char :=
  m.clock.text (match m.offset with
    | none => []
    | some o => if o.1 = 0 then ['Z'] else Moment.offsetText (some (Moment.minutesOf o)))

/-! ### Lines -/

theorem oneLine_jsonControl {n : ℕ} (h : n < 32) : OneLine (jsonControl n) := by
  interval_cases n <;> decide

theorem not_isEnd_of_le {c : Char} (h : 32 ≤ c.toNat) : EventStream.lineEnds.isEnd c = false := by
  have hne : ∀ d : Char, d.toNat < 32 → c ≠ d := by
    rintro d hd rfl
    omega
  exact Bool.or_eq_false_iff.mpr
    ⟨decide_eq_false (hne '\n' (by decide)), decide_eq_false (hne '\r' (by decide))⟩

theorem oneLine_jsonChar (c : Char) : OneLine (jsonChar c) := by
  unfold jsonChar
  split_ifs with hquote hback hcontrol
  · decide
  · decide
  · exact oneLine_jsonControl hcontrol
  · exact OneLine.cons (not_isEnd_of_le (Nat.le_of_not_lt hcontrol)) fun c hc => (by cases hc)

/-- **A string is written in one line.** -/
theorem oneLine_jsonString (s : String) : OneLine (jsonString s) := by
  refine OneLine.append (OneLine.append (by decide) ?_) (by decide)
  exact OneLine.flatMap fun c _ => oneLine_jsonChar c

theorem oneLine_intercalate {texts : List (List Char)} (h : ∀ t ∈ texts, OneLine t) :
    OneLine ([','].intercalate texts) := by
  induction texts with
  | nil => exact fun c hc => (by cases hc)
  | cons t texts ih =>
    cases texts with
    | nil =>
      rw [List.intercalate_singleton]
      exact h t List.mem_cons_self
    | cons t' texts =>
      rw [List.intercalate_cons_cons]
      have hrest := ih fun t ht => h t (List.mem_cons_of_mem _ ht)
      exact OneLine.append (OneLine.append (h t List.mem_cons_self) (by decide)) hrest

theorem oneLine_jsonArray {texts : List (List Char)} (h : ∀ t ∈ texts, OneLine t) :
    OneLine (jsonArray texts) :=
  OneLine.append (OneLine.append (by decide) (oneLine_intercalate h)) (by decide)

theorem oneLine_jsonObject {items : List (String × List Char)} (h : ∀ i ∈ items, OneLine i.2) :
    OneLine (jsonObject items) := by
  refine OneLine.append (OneLine.append (by decide) (oneLine_intercalate fun t ht => ?_))
    (by decide)
  obtain ⟨item, hitem, rfl⟩ := List.mem_map.mp ht
  exact OneLine.append (oneLine_jsonString _) (OneLine.cons (by decide) (h item hitem))

theorem oneLine_jsonOption {α : Type*} {text : α → List Char} (h : ∀ a, OneLine (text a))
    (o : Option α) : OneLine (jsonOption text o) := by
  cases o with
  | none =>
    have hnull : OneLine "null".toList := by decide
    exact hnull
  | some a => exact h a

/-! ### Numbers -/

theorem oneLine_digitChar (n : ℕ) : OneLine [Nat.digitChar (n % 10)] := by
  have hdigits : ∀ d < 10, OneLine [Nat.digitChar d] := by decide
  exact hdigits _ (Nat.mod_lt n (by decide))

theorem oneLine_pad (k n : ℕ) : OneLine (pad k n) := by
  induction k generalizing n with
  | zero => exact fun c hc => (by cases hc)
  | succ k ih => exact OneLine.append (ih _) (oneLine_digitChar n)

theorem oneLine_text (d : DateTime) {tail : List Char} (h : OneLine tail) :
    OneLine (d.text tail) := by
  have hfraction : OneLine (if d.microsecond = 0 then [] else '.' :: pad 6 d.microsecond) := by
    split
    · exact fun c hc => (by cases hc)
    · exact OneLine.cons (by decide) (oneLine_pad _ _)
  have hfield (c : Char) (n : ℕ) {rest : List Char} (hc : EventStream.lineEnds.isEnd c = false)
      (hrest : OneLine rest) : OneLine (c :: pad 2 n ++ rest) :=
    OneLine.append (OneLine.cons hc (oneLine_pad _ _)) hrest
  refine OneLine.append (oneLine_pad _ _) (hfield _ _ (by decide) (hfield _ _ (by decide) ?_))
  refine hfield _ _ (by decide) (hfield _ _ (by decide) (hfield _ _ (by decide) ?_))
  exact OneLine.append hfraction h

theorem oneLine_offsetText (o : Option UtcOffset) : OneLine (Moment.offsetText o) := by
  cases o with
  | none => exact fun c hc => (by cases hc)
  | some o =>
    rw [Moment.offsetText]
    refine OneLine.cons (by split <;> decide) (OneLine.append (oneLine_pad _ _) ?_)
    refine OneLine.cons (by decide) (OneLine.append (oneLine_pad _ _) ?_)
    split
    · exact fun c hc => (by cases hc)
    · refine OneLine.cons (by decide) (OneLine.append (oneLine_pad _ _) ?_)
      split
      · exact fun c hc => (by cases hc)
      · exact OneLine.cons (by decide) (oneLine_pad _ _)

theorem oneLine_momentText (m : Moment) : OneLine m.jsonText := by
  refine oneLine_text _ ?_
  cases m.offset with
  | none => exact fun c hc => (by cases hc)
  | some o =>
    dsimp only
    split
    · decide
    · exact oneLine_offsetText _

/-! ### Payloads -/

/-- How a library writes the objects of a payload, and refuses some. -/
structure PayloadWriter (V : Type*) where
  str : String → V
  write : V → Option (List Char)
  write_str : ∀ s, write (str s) = some (jsonString s)
  oneLine : ∀ v text, write v = some text → OneLine text

def PayloadWriter.ofStrings : PayloadWriter String where
  str s := s
  write s := some (jsonString s)
  write_str _ := rfl
  oneLine s text h := by
    cases h
    exact oneLine_jsonString s

namespace PayloadWriter

variable {V : Type*} (writer : PayloadWriter V)

/-- The items of an object, when each can be written. -/
def items : List (String × V) → Option (List (String × List Char))
  | [] => some []
  | (key, v) :: rest => do
    let text ← writer.write v
    let texts ← items rest
    pure ((key, text) :: texts)

def dict (payload : Dict String V) : Option (List Char) :=
  (writer.items payload.entries).map jsonObject

/-- The library writes every object of the payload. -/
def Writes (payload : Dict String V) : Prop :=
  ∀ item ∈ payload.entries, (writer.write item.2).isSome

variable {writer}

theorem items_isSome_iff {entries : List (String × V)} :
    (writer.items entries).isSome ↔ ∀ item ∈ entries, (writer.write item.2).isSome := by
  induction entries with
  | nil => simp [items]
  | cons entry rest ih =>
    obtain ⟨key, v⟩ := entry
    rw [List.forall_mem_cons, ← ih, items]
    cases writer.write v with
    | none => simp
    | some text => cases writer.items rest <;> simp

theorem dict_isSome_iff {payload : Dict String V} :
    (writer.dict payload).isSome ↔ writer.Writes payload := by
  rw [dict, Option.isSome_map, items_isSome_iff, Writes]

theorem oneLine_items : ∀ {entries : List (String × V)} {texts : List (String × List Char)},
    writer.items entries = some texts → ∀ item ∈ texts, OneLine item.2 := by
  intro entries
  induction entries with
  | nil =>
    rintro texts h item hitem
    cases h
    cases hitem
  | cons entry rest ih =>
    obtain ⟨key, v⟩ := entry
    intro texts h item hitem
    simp only [items, Option.bind_eq_bind, Option.bind_eq_some_iff] at h
    obtain ⟨text, htext, texts', htexts, heq⟩ := h
    cases heq
    rcases List.mem_cons.mp hitem with rfl | hitem
    · exact writer.oneLine v text htext
    · exact ih htexts item hitem

theorem oneLine_dict {payload : Dict String V} {text : List Char}
    (h : writer.dict payload = some text) : OneLine text := by
  obtain ⟨texts, htexts, rfl⟩ := Option.map_eq_some_iff.mp h
  exact oneLine_jsonObject (oneLine_items htexts)

end PayloadWriter

end Py
