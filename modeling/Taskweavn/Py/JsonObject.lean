import Taskweavn.Lib.Consume
import Taskweavn.Py.Json

/-!
# Reading a JSON object at the front of a text

`json.loads` reads more than the values of `PyValue`: a surrogate without a partner, `NaN` and
`Infinity`, and a float that is too large for one.  A `JsonDoc` keeps what was written: the code
units of a string, the text of a number, and every member of an object.  `JsonState.step` takes one
character more, and `readObject` goes on until the object is closed.

An integer of more than 4300 digits is refused; an object with one is read here, and `long`.  The
limit of the interpreter on the depth of a value is left out.
-/

namespace Py

open Lib

/-! ### Floats -/

inductive PyFloat
  | nan
  | finite (x : ℚ)
  | infinite (negative : Bool)
deriving DecidableEq

namespace PyFloat

/-- `a < b` -/
def lt : PyFloat → PyFloat → Bool
  | finite x, finite y => x < y
  | finite _, infinite negative => !negative
  | infinite negative, finite _ => negative
  | infinite negative, infinite negative' => negative && !negative'
  | _, _ => false

/-- `max(a, b)` -/
def max (a b : PyFloat) : PyFloat := if a.lt b then b else a

/-- `min(a, b)` -/
def min (a b : PyFloat) : PyFloat := if b.lt a then b else a

end PyFloat

/-! ### Documents -/

inductive JsonDoc
  | null
  | bool (b : Bool)
  /-- a sign, digits, and the fraction and the exponent -/
  | number (negative : Bool) (int tail : List Char)
  /-- `NaN`, `Infinity`, `-Infinity` -/
  | constant (x : PyFloat)
  | str (units : List ℕ)
  | arr (xs : List JsonDoc)
  | obj (members : List (List ℕ × JsonDoc))

/-- An array or an object that is not closed; an object with the key whose value is to come. -/
inductive JsonFrame
  | arr (xs : List JsonDoc)
  | obj (members : List (List ℕ × JsonDoc)) (key : List ℕ)

/-- What may come next. -/
inductive JsonMode
  | start
  | firstKey
  | key
  | colon
  | value
  | firstValue
  | behind
  | string (isKey : Bool) (units : List ℕ)
  | escape (isKey : Bool) (units : List ℕ)
  | hex (isKey : Bool) (units digits : List ℕ)
  | number (text : List Char)
  | word (rest : List Char) (v : JsonDoc)

structure JsonState where
  mode : JsonMode := .start
  frames : List JsonFrame := []
  long : Bool := false

/-- An object that was read, and whether it has an integer that is too long. -/
structure JsonObject where
  members : List (List ℕ × JsonDoc)
  long : Bool

/-- The member with the key that comes last. -/
def JsonObject.get? (payload : JsonObject) (key : String) : Option JsonDoc :=
  payload.members.reverse.lookup (key.toList.map Char.toNat)

/-! ### The reader -/

/-- A number that ends where the text does. -/
def numberOf (text : List Char) : Option JsonDoc :=
  match scanNumber (if text.head? = some '-' then text.tail else text) with
  | some (int, tail, []) => some (.number (text.head? = some '-') int tail)
  | _ => none

def JsonDoc.long : JsonDoc → Bool
  | number _ int [] => 4300 < int.length
  | _ => false

def jsonWords : List (List Char × JsonDoc) :=
  [("null".toList, .null), ("true".toList, .bool true), ("false".toList, .bool false),
    ("NaN".toList, .constant .nan), ("Infinity".toList, .constant (.infinite false))]

namespace JsonState

/-- A value is complete. -/
def put (s : JsonState) (v : JsonDoc) : JsonState where
  mode := .behind
  frames := match s.frames with
    | .arr xs :: frames => .arr (xs ++ [v]) :: frames
    | .obj members key :: frames => .obj (members ++ [(key, v)]) key :: frames
    | [] => []
  long := s.long || v.long

/-- A key is complete. -/
def putKey (s : JsonState) (key : List ℕ) : JsonState :=
  { s with
    mode := .colon
    frames := match s.frames with
      | .obj members _ :: frames => .obj members key :: frames
      | frames => frames }

/-- A closing bracket. -/
def close (s : JsonState) (c : Char) : Option (JsonObject ⊕ JsonState) :=
  match s.frames with
  | [.obj members _] => if c = '\x7d' then some (.inl ⟨members, s.long⟩) else none
  | .obj members _ :: frames =>
    if c = '\x7d' then some (.inr ({ s with frames := frames }.put (.obj members))) else none
  | .arr xs :: frames =>
    if c = ']' then some (.inr ({ s with frames := frames }.put (.arr xs))) else none
  | [] => none

def stepBehind (s : JsonState) (c : Char) : Option (JsonObject ⊕ JsonState) :=
  if isJsonSpace c then some (.inr { s with mode := .behind })
  else if c = ',' then
    match s.frames with
    | .arr _ :: _ => some (.inr { s with mode := .value })
    | .obj _ _ :: _ => some (.inr { s with mode := .key })
    | [] => none
  else s.close c

def stepValue (s : JsonState) (c : Char) : Option (JsonObject ⊕ JsonState) :=
  if c = '"' then some (.inr { s with mode := .string false [] })
  else if c = '[' then some (.inr { s with mode := .firstValue, frames := .arr [] :: s.frames })
  else if c = '\x7b' then
    some (.inr { s with mode := .firstKey, frames := .obj [] [] :: s.frames })
  else if c = '-' ∨ c.isDigit then some (.inr { s with mode := .number [c] })
  else (jsonWords.find? fun word => word.1.head? = some c).map fun (word, v) =>
    .inr { s with mode := .word word.tail v }

/-- A character inside a string, behind a backslash, or behind `\u`. -/
def stepString (s : JsonState) (isKey : Bool) (units : List ℕ) (c : Char) : Option JsonState :=
  if c = '"' then some (if isKey then s.putKey units else s.put (.str units))
  else if c = '\\' then some { s with mode := .escape isKey units }
  else if c.toNat < 32 then none
  else some { s with mode := .string isKey (units ++ [c.toNat]) }

def stepEscape (s : JsonState) (isKey : Bool) (units : List ℕ) (c : Char) : Option JsonState :=
  if c = 'u' then some { s with mode := .hex isKey units [] }
  else (jsonEscapes.lookup c).map fun n => { s with mode := .string isKey (units ++ [n]) }

def stepHex (s : JsonState) (isKey : Bool) (units digits : List ℕ) (c : Char) :
    Option JsonState :=
  (hexVal c).map fun d =>
    { s with
      mode := if digits.length = 3 then
          .string isKey (units ++ [(digits ++ [d]).foldl (fun n d => n * 16 + d) 0])
        else .hex isKey units (digits ++ [d]) }

def stepWord (s : JsonState) (rest : List Char) (v : JsonDoc) (c : Char) : Option JsonState :=
  match rest with
  | [] => none
  | d :: rest =>
    if c ≠ d then none
    else if rest = [] then some (s.put v)
    else some { s with mode := .word rest v }

/-- A character inside or behind a number. -/
def stepNumber (s : JsonState) (text : List Char) (c : Char) : Option (JsonObject ⊕ JsonState) :=
  if c.isDigit ∨ c ∈ ['.', 'e', 'E', '+', '-'] then
    some (.inr { s with mode := .number (text ++ [c]) })
  else if text = ['-'] ∧ c = 'I' then
    some (.inr { s with mode := .word "nfinity".toList (.constant (.infinite true)) })
  else (numberOf text).bind fun v => (s.put v).stepBehind c

def step (s : JsonState) (c : Char) : Option (JsonObject ⊕ JsonState) :=
  match s.mode with
  | .start =>
    if c = '\x7b' then some (.inr { s with mode := .firstKey, frames := [.obj [] []] }) else none
  | .firstKey =>
    if isJsonSpace c then some (.inr s)
    else if c = '"' then some (.inr { s with mode := .string true [] })
    else s.close c
  | .key =>
    if isJsonSpace c then some (.inr s)
    else if c = '"' then some (.inr { s with mode := .string true [] })
    else none
  | .colon =>
    if isJsonSpace c then some (.inr s)
    else if c = ':' then some (.inr { s with mode := .value })
    else none
  | .value => if isJsonSpace c then some (.inr s) else s.stepValue c
  | .firstValue =>
    if isJsonSpace c then some (.inr s) else if c = ']' then s.close c else s.stepValue c
  | .behind => s.stepBehind c
  | .string isKey units => (s.stepString isKey units c).map .inr
  | .escape isKey units => (s.stepEscape isKey units c).map .inr
  | .hex isKey units digits => (s.stepHex isKey units digits c).map .inr
  | .word rest v => (s.stepWord rest v c).map .inr
  | .number text => s.stepNumber text c

end JsonState

/-- An object, and the text behind it. -/
def readObject (cs : List Char) : Option (JsonObject × List Char) := consume JsonState.step {} cs

/-- `json.loads`, of a text that begins with a brace. -/
def loadsObject (cs : List Char) : Option JsonObject :=
  match readObject cs with
  | some (payload, rest) =>
    if payload.long = false ∧ skipSpace rest = [] then some payload else none
  | none => none

/-! ### Where an object ends -/

namespace JsonState

theorem eq_of_close {s : JsonState} {c : Char} {payload : JsonObject}
    (h : s.close c = some (.inl payload)) : c = '\x7d' := by
  unfold close at h
  split at h
  · split_ifs at h
    assumption
  · split_ifs at h
    cases h
  · split_ifs at h
    cases h
  · cases h

theorem eq_of_stepBehind {s : JsonState} {c : Char} {payload : JsonObject}
    (h : s.stepBehind c = some (.inl payload)) : c = '\x7d' := by
  unfold stepBehind at h
  split_ifs at h
  · cases h
  · split at h <;> cases h
  · exact eq_of_close h

theorem stepValue_ne {s : JsonState} {c : Char} {payload : JsonObject} :
    s.stepValue c ≠ some (.inl payload) := by
  unfold stepValue
  split_ifs <;> simp

theorem stepNumber_ne {s : JsonState} {text : List Char} {c : Char} {payload : JsonObject}
    (h : s.stepNumber text c = some (.inl payload)) : c = '\x7d' := by
  unfold stepNumber at h
  split_ifs at h
  · cases h
  · cases h
  · obtain ⟨v, -, hv⟩ := Option.bind_eq_some_iff.mp h
    exact eq_of_stepBehind hv

/-- An object is closed by a brace. -/
theorem eq_of_step {s : JsonState} {c : Char} {payload : JsonObject}
    (h : s.step c = some (.inl payload)) : c = '\x7d' := by
  unfold step at h
  split at h
  case h_1 => split_ifs at h; cases h
  case h_2 =>
    split_ifs at h
    · cases h
    · cases h
    · exact eq_of_close h
  case h_3 => split_ifs at h <;> cases h
  case h_4 => split_ifs at h <;> cases h
  case h_5 =>
    split_ifs at h
    · cases h
    · exact absurd h stepValue_ne
  case h_6 =>
    split_ifs at h
    · cases h
    · exact eq_of_close h
    · exact absurd h stepValue_ne
  case h_7 => exact eq_of_stepBehind h
  case h_12 => exact stepNumber_ne h
  all_goals simp at h

theorem eq_of_step_start {c : Char} {out : JsonObject ⊕ JsonState}
    (h : ({} : JsonState).step c = some out) : c = '\x7b' := by
  by_contra hc
  simp [step, hc] at h

end JsonState

/-- A text is blank up to its last brace only without one. -/
theorem skipSpace_trimmed_iff {rest : List Char} :
    skipSpace (rest.rdropWhile (· ≠ '\x7d')) = [] ↔ '\x7d' ∉ rest := by
  rw [← rdropWhile_ne_eq_nil_iff, skipSpace, List.dropWhile_eq_nil_iff]
  constructor
  · intro h
    by_contra hne
    have hlast : (rest.rdropWhile (· ≠ '\x7d')).getLast hne = '\x7d' := by
      simpa using List.rdropWhile_last_not _ _ hne
    have hspace := h _ (List.getLast_mem hne)
    rw [hlast] at hspace
    exact absurd hspace (by decide)
  · intro h
    rw [h]
    exact fun _ hx => absurd hx List.not_mem_nil

/-- **From the first opening brace to the last closing one**: the object is the one at the front,
and it is refused when a closing brace stands behind it. -/
theorem loadsObject_between (cs : List Char) :
    (between '\x7b' '\x7d' cs).bind loadsObject =
      (readObject (cs.dropWhile (· ≠ '\x7b'))).bind fun (payload, rest) =>
        if payload.long = false ∧ '\x7d' ∉ rest then some payload else none := by
  have h := @consume_between JsonState JsonObject Char JsonState.step {} _ '\x7b' '\x7d' cs
    fun _ _ _ => JsonState.eq_of_step
  have hloads : ∀ text, loadsObject text = (consume JsonState.step {} text).bind
      fun (payload, rest) =>
        if payload.long = false ∧ skipSpace rest = [] then some payload else none := by
    intro text
    rw [loadsObject, readObject]
    cases consume JsonState.step {} text <;> rfl
  calc (between '\x7b' '\x7d' cs).bind loadsObject
      = ((between '\x7b' '\x7d' cs).bind (consume JsonState.step {})).bind
          fun (payload, rest) =>
            if payload.long = false ∧ skipSpace rest = [] then some payload else none := by
        rw [Option.bind_assoc]
        exact congrArg _ (funext hloads)
    _ = _ := by
        rw [h, readObject]
        cases consume JsonState.step {} (cs.dropWhile (· ≠ '\x7b')) with
        | none => rfl
        | some out =>
          obtain ⟨payload, rest⟩ := out
          simp only [Option.map_some, Option.bind_some, skipSpace_trimmed_iff]

end Py
