import Taskweavn.Py.JsonText
import Taskweavn.Py.Value

/-!
# JSON texts of Python values

`dumps` is `json.dumps` with `ensure_ascii=False` and compact separators, and `loads` is
`json.loads`.  Both refuse an integer of more than 4300 digits, and what they do with a float is
a parameter (`JsonFloats`).  A text with a surrogate that has no partner is not read, since it
stands for no string of characters.

`loads_dumps` is the round trip: a value is read as it was written, tuples as lists.
-/

namespace Py

open Lib

/-! ### Numbers -/

/-- The text of an integer that is not too long. -/
def jsonNat (n : ℕ) : Option (List Char) :=
  if (Nat.toDigits 10 n).length ≤ 4300 then some (Nat.toDigits 10 n) else none

def jsonInt : ℤ → Option (List Char)
  | .ofNat n => jsonNat n
  | .negSucc n => (jsonNat (n + 1)).map ('-' :: ·)

/-- The longest number without a sign that a text begins with: `0`, or digits. -/
def scanNat : List Char → Option (List Char × List Char)
  | [] => none
  | c :: cs =>
    if c = '0' then some (['0'], cs)
    else if c.isDigit then some (c :: cs.takeWhile Char.isDigit, cs.dropWhile Char.isDigit)
    else none

/-- The fraction that a text begins with. -/
def scanFraction : List Char → List Char × List Char
  | [] => ([], [])
  | c :: cs =>
    if c = '.' ∧ cs.takeWhile Char.isDigit ≠ [] then
      (c :: cs.takeWhile Char.isDigit, cs.dropWhile Char.isDigit)
    else ([], c :: cs)

/-- A sign that a text begins with. -/
def scanSign : List Char → List Char × List Char
  | [] => ([], [])
  | c :: cs => if c = '+' ∨ c = '-' then ([c], cs) else ([], c :: cs)

/-- The exponent that a text begins with. -/
def scanExponent : List Char → List Char × List Char
  | [] => ([], [])
  | c :: cs =>
    let (sign, rest) := scanSign cs
    if (c = 'e' ∨ c = 'E') ∧ rest.takeWhile Char.isDigit ≠ [] then
      (c :: sign ++ rest.takeWhile Char.isDigit, rest.dropWhile Char.isDigit)
    else ([], c :: cs)

/-- A number without a sign: its integer, what stands behind it, and the rest of the text. -/
def scanNumber (cs : List Char) : Option (List Char × List Char × List Char) :=
  (scanNat cs).map fun (int, rest) =>
    let (fraction, rest) := scanFraction rest
    let (exponent, rest) := scanExponent rest
    (int, fraction ++ exponent, rest)

/-- A number is over where the text is, or where a bracket or a comma comes. -/
def EndsNumber : List Char → Prop
  | [] => True
  | c :: _ => c = ',' ∨ c = ']' ∨ c = '\x7d'

structure JsonFloats where
  /-- `float.__repr__`, for what is a float -/
  text : ℚ → Option (List Char)
  /-- `float(text)` -/
  read : List Char → ℚ
  read_text : ∀ x t, text x = some t → read t = x
  scan_text : ∀ x t, text x = some t → ∃ sign int tail, t = sign ++ int ++ tail ∧ tail ≠ [] ∧
    (sign = [] ∨ sign = ['-']) ∧
    ∀ rest, EndsNumber rest → scanNumber (int ++ tail ++ rest) = some (int, tail, rest)

/-! ### Writing -/

/-- `{"k":v,…}` from the texts of the items -/
def jsonItemTexts (items : List (String × List Char)) : List (List Char) :=
  items.map fun item => jsonString item.1 ++ ':' :: item.2

variable (floats : JsonFloats)

mutual

def dumpText : PyValue → Option (List Char)
  | .none => some "null".toList
  | .bool true => some "true".toList
  | .bool false => some "false".toList
  | .int n => jsonInt n
  | .float x => floats.text x
  | .str s => some (jsonString s)
  | .list xs => (dumpTexts xs).map jsonArray
  | .tuple xs => (dumpTexts xs).map jsonArray
  | .dict items => (dumpItems items).map jsonObject

def dumpTexts : List PyValue → Option (List (List Char))
  | [] => some []
  | x :: xs =>
    match dumpText x, dumpTexts xs with
    | some t, some ts => some (t :: ts)
    | _, _ => none

def dumpItems : List (String × PyValue) → Option (List (String × List Char))
  | [] => some []
  | (k, x) :: xs =>
    match dumpText x, dumpItems xs with
    | some t, some ts => some ((k, t) :: ts)
    | _, _ => none

end

/-- `json.dumps(value, ensure_ascii=False, separators=(",", ":"))` -/
def dumps (v : PyValue) : Option String := (dumpText floats v).map String.ofList

/-! ### Reading -/

def isJsonSpace (c : Char) : Bool := c = ' ' || c = '\t' || c = '\n' || c = '\r'

def skipSpace (cs : List Char) : List Char := cs.dropWhile isJsonSpace

/-- The value of a hexadecimal digit. -/
def hexVal (c : Char) : Option ℕ :=
  let n := c.toNat
  if 48 ≤ n ∧ n ≤ 57 then some (n - 48)
  else if 65 ≤ n ∧ n ≤ 70 then some (n - 55)
  else if 97 ≤ n ∧ n ≤ 102 then some (n - 87)
  else none

/-- What a letter after a backslash stands for. -/
def jsonEscapes : List (Char × ℕ) :=
  [('"', 34), ('\\', 92), ('/', 47), ('b', 8), ('f', 12), ('n', 10), ('r', 13), ('t', 9)]

/-- The code units of a string, up to the quote at its end. -/
def readUnits : List Char → Option (List ℕ × List Char)
  | [] => none
  | c :: cs =>
    if c = '"' then some ([], cs)
    else if c = '\\' then
      match cs with
      | [] => none
      | e :: cs =>
        if e = 'u' then
          match cs with
          | a :: b :: c :: d :: cs =>
            match hexVal a, hexVal b, hexVal c, hexVal d, readUnits cs with
            | some a, some b, some c, some d, some (units, rest) =>
              some ((((a * 16 + b) * 16 + c) * 16 + d) :: units, rest)
            | _, _, _, _, _ => none
          | _ => none
        else
          match jsonEscapes.lookup e, readUnits cs with
          | some n, some (units, rest) => some (n :: units, rest)
          | _, _ => none
    else if c.toNat < 32 then none
    else (readUnits cs).map fun (units, rest) => (c.toNat :: units, rest)

/-- The characters of code units; a pair of surrogates is one character. -/
def joinUnits : List ℕ → Option (List Char)
  | [] => some []
  | n :: units =>
    if 0xD800 ≤ n ∧ n < 0xDC00 then
      match units with
      | m :: units =>
        if 0xDC00 ≤ m ∧ m < 0xE000 then
          (joinUnits units).map
            (Char.ofNat (0x10000 + (n - 0xD800) * 0x400 + (m - 0xDC00)) :: ·)
        else none
      | [] => none
    else if 0xDC00 ≤ n ∧ n < 0xE000 then none
    else (joinUnits units).map (Char.ofNat n :: ·)

/-- A string, after the quote at its beginning. -/
def readString (cs : List Char) : Option (String × List Char) :=
  match readUnits cs with
  | some (units, rest) => (joinUnits units).map fun s => (String.ofList s, rest)
  | none => none

/-- A number, after its sign. -/
def readNumber (negative : Bool) (cs : List Char) : Option (PyValue × List Char) :=
  match scanNumber cs with
  | none => none
  | some (int, tail, rest) =>
    if tail = [] then
      if int.length ≤ 4300 then
        let n : ℤ := Nat.ofDigitChars 10 int 0
        some (.int (if negative then -n else n), rest)
      else none
    else some (.float (floats.read ((if negative then ['-'] else []) ++ int ++ tail)), rest)

def readWord (word : String) (v : PyValue) (cs : List Char) : Option (PyValue × List Char) :=
  if word.toList <+: cs then some (v, cs.drop word.length) else none

mutual

/-- The value that a text begins with. -/
def readValue : ℕ → List Char → Option (PyValue × List Char)
  | 0, _ => none
  | _ + 1, [] => none
  | n + 1, c :: cs =>
    if c = '"' then (readString cs).map fun (s, rest) => (.str s, rest)
    else if c = '[' then
      match skipSpace cs with
      | [] => none
      | c' :: rest =>
        if c' = ']' then some (.list [], rest)
        else (readElements n (c' :: rest)).map fun (xs, rest) => (.list xs, rest)
    else if c = '\x7b' then
      match skipSpace cs with
      | [] => none
      | c' :: rest =>
        if c' = '\x7d' then some (.dict [], rest)
        else (readMembers n (c' :: rest)).map fun (items, rest) =>
          (.dict (Dict.ofList items).entries, rest)
    else if c = 'n' then readWord "null" .none (c :: cs)
    else if c = 't' then readWord "true" (.bool true) (c :: cs)
    else if c = 'f' then readWord "false" (.bool false) (c :: cs)
    else if c = '-' then readNumber floats true cs
    else readNumber floats false (c :: cs)

/-- The elements of an array, up to the bracket at its end. -/
def readElements : ℕ → List Char → Option (List PyValue × List Char)
  | 0, _ => none
  | n + 1, cs =>
    match readValue n cs with
    | none => none
    | some (x, rest) =>
      match skipSpace rest with
      | [] => none
      | c :: rest =>
        if c = ']' then some ([x], rest)
        else if c = ',' then
          (readElements n (skipSpace rest)).map fun (xs, rest) => (x :: xs, rest)
        else none

/-- The members of an object, up to the brace at its end. -/
def readMembers : ℕ → List Char → Option (List (String × PyValue) × List Char)
  | 0, _ => none
  | n + 1, cs =>
    match takeChar '"' cs >>= readString with
    | none => none
    | some (k, rest) =>
      match takeChar ':' (skipSpace rest) with
      | none => none
      | some rest =>
        match readValue n (skipSpace rest) with
        | none => none
        | some (x, rest) =>
          match skipSpace rest with
          | [] => none
          | c :: rest =>
            if c = '\x7d' then some ([(k, x)], rest)
            else if c = ',' then
              (readMembers n (skipSpace rest)).map fun (items, rest) => ((k, x) :: items, rest)
            else none

end

/-- `json.loads` -/
def loads (s : String) : Option PyValue :=
  match readValue floats (s.length + 1) (skipSpace s.toList) with
  | some (v, rest) => if skipSpace rest = [] then some v else none
  | none => none

/-! ### Numbers are read as they are written -/

/-- The text does not begin with a digit. -/
def NoDigit : List Char → Prop
  | [] => True
  | c :: _ => c.isDigit = false

variable {rest t cs : List Char} {c : Char} {n : ℕ} {x : PyValue}

theorem EndsNumber.noDigit (h : EndsNumber rest) : NoDigit rest := by
  cases rest with
  | nil => trivial
  | cons c rest => rcases h with rfl | rfl | rfl <;> rfl

theorem takeWhile_isDigit {ds : List Char} (hds : ∀ c ∈ ds, c.isDigit = true) (hrest : NoDigit rest)
    : (ds ++ rest).takeWhile Char.isDigit = ds ∧
      (ds ++ rest).dropWhile Char.isDigit = rest := by
  rw [List.takeWhile_append_of_pos hds, List.dropWhile_append_of_pos hds]
  cases rest with
  | nil => simp
  | cons c rest =>
    have hc : ¬ c.isDigit = true := by simp [show c.isDigit = false from hrest]
    simp [List.takeWhile_cons_of_neg hc, List.dropWhile_cons_of_neg hc]

theorem scanFraction_of_endsNumber (h : EndsNumber rest) : scanFraction rest = ([], rest) := by
  cases rest with
  | nil => rfl
  | cons c rest =>
    have hc : c ≠ '.' := by rcases h with rfl | rfl | rfl <;> decide
    rw [scanFraction, if_neg fun hpoint => hc hpoint.1]

theorem scanExponent_of_endsNumber (h : EndsNumber rest) : scanExponent rest = ([], rest) := by
  cases rest with
  | nil => rfl
  | cons c rest =>
    have hc : ¬ (c = 'e' ∨ c = 'E') := by rcases h with rfl | rfl | rfl <;> decide
    simp only [scanExponent]
    rw [if_neg fun hexp => hc hexp.1]

theorem head_toDigits_ne_zero : ∀ (n : ℕ), 0 < n → ∀ c cs, Nat.toDigits 10 n = c :: cs →
    c ≠ '0' := by
  intro n
  induction n using Nat.strongRecOn with
  | ind n ih =>
    intro hn c cs h
    rw [Nat.toDigits_eq_if (by decide)] at h
    split at h
    · rename_i hlt
      have hdigit : ∀ d < 10, 0 < d → Nat.digitChar d ≠ '0' := by decide
      exact (List.cons.inj h).1 ▸ hdigit n hlt hn
    · cases hd : Nat.toDigits 10 (n / 10) with
      | nil => exact absurd hd Nat.toDigits_ne_nil
      | cons c' cs' =>
        rw [hd, List.cons_append] at h
        exact (List.cons.inj h).1 ▸ ih (n / 10) (by omega) (by omega) c' cs' hd

theorem isDigit_of_mem_toDigits (h : c ∈ Nat.toDigits 10 n) :
    c.isDigit = true := Nat.isDigit_of_mem_toDigits (by decide) le_rfl h

theorem scanNat_toDigits (n : ℕ) (h : NoDigit rest) :
    scanNat (Nat.toDigits 10 n ++ rest) = some (Nat.toDigits 10 n, rest) := by
  rcases Nat.eq_zero_or_pos n with rfl | hn
  · rw [Nat.toDigits_zero]
    rfl
  · cases hd : Nat.toDigits 10 n with
    | nil => exact absurd hd Nat.toDigits_ne_nil
    | cons c cs =>
      have hdigits : ∀ c' ∈ c :: cs, c'.isDigit = true := fun c' hc' =>
        isDigit_of_mem_toDigits (hd ▸ hc')
      obtain ⟨htake, hdrop⟩ := takeWhile_isDigit
        (fun c' hc' => hdigits c' (List.mem_cons_of_mem c hc')) h
      rw [List.cons_append, scanNat, if_neg (head_toDigits_ne_zero n hn c cs hd),
        if_pos (hdigits c List.mem_cons_self), htake, hdrop]

theorem scanNumber_toDigits (n : ℕ) (h : EndsNumber rest) :
    scanNumber (Nat.toDigits 10 n ++ rest) = some (Nat.toDigits 10 n, [], rest) := by
  rw [scanNumber, scanNat_toDigits n h.noDigit, Option.map_some]
  simp only [scanFraction_of_endsNumber h, scanExponent_of_endsNumber h, List.append_nil]

theorem readNumber_jsonNat (ht : jsonNat n = some t) (h : EndsNumber rest) (negative : Bool) :
    readNumber floats negative (t ++ rest) =
      some (.int (if negative then -(n : ℤ) else n), rest) := by
  rw [jsonNat] at ht
  split at ht
  · rename_i hlen
    rw [← Option.some.inj ht, readNumber, scanNumber_toDigits n h]
    simp only
    rw [if_pos trivial, if_pos hlen, Nat.ofDigitChars_ten_toDigits]
  · cases ht

def wholeText (x : ℚ) : List Char :=
  (if x.num < 0 then ['-'] else []) ++ Nat.toDigits 10 x.num.natAbs ++ ['.', '0']

def readWhole (cs : List Char) : ℚ :=
  if cs.head? = some '-' then -(Nat.ofDigitChars 10 (cs.tail.takeWhile Char.isDigit) 0 : ℕ)
  else (Nat.ofDigitChars 10 (cs.takeWhile Char.isDigit) 0 : ℕ)

theorem readWhole_wholeText {x : ℚ} (hx : x.den = 1) : readWhole (wholeText x) = x := by
  have hdigits := (@takeWhile_isDigit ['.', '0'] (Nat.toDigits 10 x.num.natAbs)
    (fun _ => isDigit_of_mem_toDigits) rfl).1
  have hnum : (x.num : ℚ) = x := Rat.coe_int_num_of_den_eq_one hx
  rw [readWhole, wholeText]
  split
  · rename_i hneg
    rw [List.singleton_append, List.cons_append, List.head?_cons, if_pos rfl,
      List.tail_cons, hdigits,
      Nat.ofDigitChars_ten_toDigits, Nat.cast_natAbs, abs_of_neg hneg, Int.cast_neg, neg_neg, hnum]
  · rename_i hneg
    have hhead : (Nat.toDigits 10 x.num.natAbs ++ ['.', '0']).head? ≠ some '-' := by
      cases hd : Nat.toDigits 10 x.num.natAbs with
      | nil => exact absurd hd Nat.toDigits_ne_nil
      | cons c cs =>
        have hc : c.isDigit = true := isDigit_of_mem_toDigits (hd ▸ List.mem_cons_self)
        intro h
        rw [Option.some.inj h] at hc
        exact absurd hc (by decide)
    rw [List.nil_append, if_neg hhead, hdigits, Nat.ofDigitChars_ten_toDigits, Nat.cast_natAbs,
      abs_of_nonneg (not_lt.mp hneg), hnum]

theorem scanNumber_whole (n : ℕ) (h : EndsNumber rest) :
    scanNumber (Nat.toDigits 10 n ++ ['.', '0'] ++ rest) =
      some (Nat.toDigits 10 n, ['.', '0'], rest) := by
  have hzero := @takeWhile_isDigit rest ['0'] (by simp) h.noDigit
  have hfraction : scanFraction ('.' :: '0' :: rest) = (['.', '0'], rest) := by
    rw [scanFraction, show '0' :: rest = ['0'] ++ rest from rfl, hzero.1, hzero.2]
    rfl
  have hnat := @scanNat_toDigits ('.' :: '0' :: rest) n rfl
  rw [List.append_assoc, scanNumber, List.cons_append, List.singleton_append, hnat,
    Option.map_some]
  simp only [hfraction, scanExponent_of_endsNumber h, List.append_nil]

/-- The floats that are whole numbers of at most 16 digits. -/
def JsonFloats.whole : JsonFloats where
  text x := if x.den = 1 ∧ x.num.natAbs < 10 ^ 16 then some (wholeText x) else none
  read := readWhole
  read_text := by
    intro x t h
    split at h
    · rename_i hx
      rw [← Option.some.inj h, readWhole_wholeText hx.1]
    · cases h
  scan_text := by
    intro x t h
    split at h
    · refine ⟨_, _, _, (Option.some.inj h).symm, by simp, ?_, fun rest => scanNumber_whole _⟩
      split
      · exact .inr rfl
      · exact .inl rfl
    · cases h

/-! ### Strings are read as they are written -/

theorem hexVal_digitChar : ∀ d < 16, hexVal (Nat.digitChar d) = some d := by decide

theorem readUnits_escape {e : Char} (h : jsonEscapes.lookup e = some n) (cs : List Char) :
    readUnits ('\\' :: e :: cs) =
      (readUnits cs).map fun (units, rest) => (n :: units, rest) := by
  have he : e ≠ 'u' := by
    rintro rfl
    cases h
  rw [readUnits.eq_def]
  simp only
  rw [if_neg (by decide), if_pos trivial, if_neg he, h]
  cases readUnits cs <;> rfl

theorem readUnits_hex {a b d : Char} {k l m : ℕ} (ha : hexVal a = some k) (hb : hexVal b = some l)
    (hc : hexVal c = some m) (hd : hexVal d = some n) (cs : List Char) :
    readUnits ('\\' :: 'u' :: a :: b :: c :: d :: cs) = (readUnits cs).map
      fun (units, rest) => ((((k * 16 + l) * 16 + m) * 16 + n) :: units, rest) := by
  rw [readUnits.eq_def]
  simp only [if_true, ha, hb, hc, hd]
  rw [if_neg (by decide)]
  cases readUnits cs <;> rfl

theorem readUnits_jsonControl (h : n < 32) (cs : List Char) :
    readUnits (jsonControl n ++ cs) =
      (readUnits cs).map fun (units, rest) => (n :: units, rest) := by
  rw [jsonControl]
  split
  · rename_i hn
    exact hn ▸ readUnits_escape rfl cs
  split
  · rename_i hn
    exact hn ▸ readUnits_escape rfl cs
  split
  · rename_i hn
    exact hn ▸ readUnits_escape rfl cs
  split
  · rename_i hn
    exact hn ▸ readUnits_escape rfl cs
  split
  · rename_i hn
    exact hn ▸ readUnits_escape rfl cs
  · have hzero : hexVal '0' = some 0 := rfl
    have hhex := readUnits_hex hzero hzero
      (hexVal_digitChar (n / 16) (by omega)) (hexVal_digitChar (n % 16) (by omega)) cs
    rw [show ((0 * 16 + 0) * 16 + n / 16) * 16 + n % 16 = n by omega] at hhex
    exact hhex

theorem readUnits_jsonChar (c : Char) (cs : List Char) :
    readUnits (jsonChar c ++ cs) =
      (readUnits cs).map fun (units, rest) => (c.toNat :: units, rest) := by
  rw [jsonChar]
  split
  · rename_i hc
    exact hc ▸ readUnits_escape rfl cs
  · rename_i hquote
    split
    · rename_i hc
      exact hc ▸ readUnits_escape rfl cs
    · rename_i hslash
      split
      · rename_i hc
        exact readUnits_jsonControl hc cs
      · rename_i hcontrol
        have hq : c ≠ '"' := fun h => hquote (by rw [h]; rfl)
        have hb : c ≠ '\\' := fun h => hslash (by rw [h]; rfl)
        rw [List.singleton_append, readUnits.eq_def]
        simp only
        rw [if_neg hq, if_neg hb, if_neg hcontrol]

theorem readUnits_flatMap (s rest : List Char) :
    readUnits (s.flatMap jsonChar ++ '"' :: rest) = some (s.map Char.toNat, rest) := by
  induction s with
  | nil =>
    rw [List.flatMap_nil, List.nil_append, readUnits.eq_def]
    rfl
  | cons c s ih =>
    rw [List.flatMap_cons, List.append_assoc, readUnits_jsonChar, ih]
    rfl

theorem joinUnits_map_toNat (s : List Char) : joinUnits (s.map Char.toNat) = some s := by
  induction s with
  | nil => rfl
  | cons c s ih =>
    have hvalid : c.toNat < 0xD800 ∨ (0xDFFF < c.toNat ∧ c.toNat < 0x110000) := c.valid
    rw [List.map_cons, joinUnits.eq_def]
    simp only
    rw [if_neg (by omega), if_neg (by omega), ih, Char.ofNat_toNat]
    rfl

theorem readString_jsonString (s : String) (rest : List Char) :
    readString (s.toList.flatMap jsonChar ++ '"' :: rest) = some (s, rest) := by
  rw [readString, readUnits_flatMap]
  simp only
  rw [joinUnits_map_toNat, Option.map_some, String.ofList_toList]

/-! ### Values are read as they are written -/

mutual

def DistinctKeys : PyValue → Prop
  | .list xs => DistinctKeysAll xs
  | .tuple xs => DistinctKeysAll xs
  | .dict items => (items.map Prod.fst).Nodup ∧ DistinctKeysItems items
  | _ => True

def DistinctKeysAll : List PyValue → Prop
  | [] => True
  | x :: xs => DistinctKeys x ∧ DistinctKeysAll xs

def DistinctKeysItems : List (String × PyValue) → Prop
  | [] => True
  | (_, x) :: xs => DistinctKeys x ∧ DistinctKeysItems xs

end

theorem map_fst_jsonItems (items : List (String × PyValue)) :
    (PyValue.jsonItems items).map Prod.fst = items.map Prod.fst := by
  induction items with
  | nil => rfl
  | cons item items ih => simp [PyValue.jsonItems, ih]

theorem isDigit_of_scanNumber {r : List Char × List Char × List Char}
    (h : scanNumber (c :: cs) = some r) : c.isDigit = true := by
  rw [scanNumber, scanNat] at h
  split at h
  · rename_i hc
    rw [hc]
    rfl
  · split at h
    · assumption
    · cases h

theorem readValue_digit (hc : c.isDigit = true) (n : ℕ) (cs : List Char) :
    readValue floats (n + 1) (c :: cs) = readNumber floats false (c :: cs) := by
  have hne : ∀ d : Char, d.isDigit = false → c ≠ d := by
    rintro d hd rfl
    rw [hc] at hd
    cases hd
  rw [readValue, if_neg (hne _ rfl), if_neg (hne _ rfl), if_neg (hne _ rfl), if_neg (hne _ rfl),
    if_neg (hne _ rfl), if_neg (hne _ rfl), if_neg (hne _ rfl)]

theorem readValue_minus (n : ℕ) (cs : List Char) :
    readValue floats (n + 1) ('-' :: cs) = readNumber floats true cs := by
  rw [readValue, if_neg (by decide), if_neg (by decide), if_neg (by decide), if_neg (by decide),
    if_neg (by decide), if_neg (by decide), if_pos rfl]

theorem jsonNat_head (h : jsonNat n = some t) : ∃ c cs, t = c :: cs ∧ c.isDigit = true := by
  rw [jsonNat] at h
  split at h
  · cases hd : Nat.toDigits 10 n with
    | nil => exact absurd hd Nat.toDigits_ne_nil
    | cons c cs =>
      exact ⟨c, cs, by rw [← hd, Option.some.inj h],
        isDigit_of_mem_toDigits (hd ▸ List.mem_cons_self)⟩
  · cases h

theorem readValue_jsonInt {n : ℤ} (ht : jsonInt n = some t) (h : EndsNumber rest) (fuel : ℕ) :
    readValue floats (fuel + 1) (t ++ rest) = some (.int n, rest) := by
  cases n with
  | ofNat n =>
    obtain ⟨c, cs, rfl, hc⟩ := jsonNat_head ht
    rw [List.cons_append, readValue_digit floats hc, ← List.cons_append,
      readNumber_jsonNat floats ht h]
    rfl
  | negSucc n =>
    obtain ⟨t', ht', rfl⟩ := Option.map_eq_some_iff.mp ht
    rw [List.cons_append, readValue_minus, readNumber_jsonNat floats ht' h]
    rfl

theorem readNumber_float {int tail : List Char} (htail : tail ≠ [])
    (hscan : scanNumber (int ++ tail ++ rest) = some (int, tail, rest)) (negative : Bool) :
    readNumber floats negative (int ++ tail ++ rest) =
      some (.float (floats.read ((if negative then ['-'] else []) ++ int ++ tail)), rest) := by
  rw [readNumber, hscan]
  simp only
  rw [if_neg htail]

theorem readValue_float {x : ℚ} (ht : floats.text x = some t) (h : EndsNumber rest) (fuel : ℕ) :
    readValue floats (fuel + 1) (t ++ rest) = some (.float x, rest) := by
  obtain ⟨sign, int, tail, rfl, htail, hsign, hscan⟩ := floats.scan_text x t ht
  have hread := floats.read_text x _ ht
  rcases hsign with rfl | rfl
  · cases hcs : int ++ tail with
    | nil => exact absurd (List.append_eq_nil_iff.mp hcs).2 htail
    | cons c cs =>
      have hc : c.isDigit = true := by
        have hend := hscan [] trivial
        rw [List.append_nil, hcs] at hend
        exact isDigit_of_scanNumber hend
      rw [List.nil_append, hcs, List.cons_append, readValue_digit floats hc, ← List.cons_append,
        ← hcs, readNumber_float floats htail (hscan rest h)]
      exact congrArg (fun x => some (PyValue.float x, rest)) hread
  · rw [List.singleton_append, List.cons_append, List.cons_append, readValue_minus,
      readNumber_float floats htail (hscan rest h)]
    exact congrArg (fun x => some (PyValue.float x, rest)) hread

theorem dumpText_head {v : PyValue} (h : dumpText floats v = some t) :
    ∃ c cs, t = c :: cs ∧ isJsonSpace c = false ∧ c ≠ ']' := by
  have hdigit : ∀ c : Char, c.isDigit = true → isJsonSpace c = false ∧ c ≠ ']' := by
    intro c hc
    constructor
    · rw [Bool.eq_false_iff]
      intro hspace
      simp only [isJsonSpace, Bool.or_eq_true, decide_eq_true_eq] at hspace
      rcases hspace with ((rfl | rfl) | rfl) | rfl <;> exact absurd hc (by decide)
    · rintro rfl
      exact absurd hc (by decide)
  cases v with
  | none => exact ⟨_, _, (Option.some.inj h).symm, by decide, by decide⟩
  | bool b => cases b <;> exact ⟨_, _, (Option.some.inj h).symm, by decide, by decide⟩
  | int n =>
    cases n with
    | ofNat n =>
      obtain ⟨c, cs, hcs, hc⟩ := jsonNat_head h
      exact ⟨c, cs, hcs, hdigit c hc⟩
    | negSucc n =>
      obtain ⟨t', -, rfl⟩ := Option.map_eq_some_iff.mp h
      exact ⟨'-', t', rfl, by decide, by decide⟩
  | float x =>
    obtain ⟨sign, int, tail, rfl, htail, hsign, hscan⟩ := floats.scan_text x t h
    rcases hsign with rfl | rfl
    · cases hcs : int ++ tail with
      | nil => exact absurd (List.append_eq_nil_iff.mp hcs).2 htail
      | cons c cs =>
        have hend := hscan [] trivial
        rw [List.append_nil, hcs] at hend
        exact ⟨c, cs, hcs, hdigit c (isDigit_of_scanNumber hend)⟩
    · exact ⟨'-', int ++ tail, rfl, by decide, by decide⟩
  | str s => exact ⟨_, _, (Option.some.inj h).symm, by decide, by decide⟩
  | list xs =>
    obtain ⟨ts, -, rfl⟩ := Option.map_eq_some_iff.mp h
    exact ⟨'[', _, rfl, by decide, by decide⟩
  | tuple xs =>
    obtain ⟨ts, -, rfl⟩ := Option.map_eq_some_iff.mp h
    exact ⟨'[', _, rfl, by decide, by decide⟩
  | dict items =>
    obtain ⟨ts, -, rfl⟩ := Option.map_eq_some_iff.mp h
    exact ⟨'\x7b', _, rfl, by decide, by decide⟩

theorem skipSpace_dumpText {v : PyValue} (h : dumpText floats v = some t) (rest : List Char) :
    skipSpace (t ++ rest) = t ++ rest := by
  obtain ⟨c, cs, rfl, hc, -⟩ := dumpText_head floats h
  rw [skipSpace, List.cons_append, List.dropWhile_cons_of_neg (by simp [hc])]

theorem skipSpace_cons (hc : isJsonSpace c = false) (cs : List Char) :
    skipSpace (c :: cs) = c :: cs := by
  rw [skipSpace, List.dropWhile_cons_of_neg (by simp [hc])]

theorem readWord_append (word : String) (v : PyValue) (rest : List Char) :
    readWord word v (word.toList ++ rest) = some (v, rest) := by
  rw [readWord, if_pos (List.prefix_append _ _), ← String.length_toList, List.drop_left]

theorem dumpTexts_cons {xs : List PyValue} {ts : List (List Char)}
    (h : dumpTexts floats (x :: xs) = some ts) :
    ∃ t ts', dumpText floats x = some t ∧ dumpTexts floats xs = some ts' ∧ ts = t :: ts' := by
  rw [dumpTexts] at h
  split at h
  · rename_i t ts' ht hts
    exact ⟨t, ts', ht, hts, (Option.some.inj h).symm⟩
  · cases h

theorem dumpItems_cons {k : String} {xs : List (String × PyValue)} {ts : List (String × List Char)}
    (h : dumpItems floats ((k, x) :: xs) = some ts) :
    ∃ t ts', dumpText floats x = some t ∧ dumpItems floats xs = some ts' ∧
      ts = (k, t) :: ts' := by
  rw [dumpItems] at h
  split at h
  · rename_i t ts' ht hts
    exact ⟨t, ts', ht, hts, (Option.some.inj h).symm⟩
  · cases h

theorem readElements_last {n : ℕ} {cs rest : List Char} {x : PyValue}
    (hx : readValue floats n cs = some (x, ']' :: rest)) :
    readElements floats (n + 1) cs = some ([x], rest) := by
  rw [readElements, hx]
  simp only
  rw [skipSpace_cons rfl]
  rfl

theorem readElements_next {more : List Char} {xs : List PyValue}
    (hx : readValue floats n cs = some (x, ',' :: more))
    (hmore : readElements floats n (skipSpace more) = some (xs, rest)) :
    readElements floats (n + 1) cs = some (x :: xs, rest) := by
  rw [readElements, hx]
  simp only
  rw [skipSpace_cons rfl]
  simp only
  rw [if_neg (by decide), if_pos trivial, hmore]
  rfl

theorem readMembers_key (n : ℕ) (k : String) (cs : List Char) :
    readMembers floats (n + 1) (jsonString k ++ ':' :: cs) =
      match readValue floats n (skipSpace cs) with
      | none => none
      | some (x, rest) =>
        match skipSpace rest with
        | [] => none
        | c :: rest =>
          if c = '\x7d' then some ([(k, x)], rest)
          else if c = ',' then
            (readMembers floats n (skipSpace rest)).map fun (items, rest) =>
              ((k, x) :: items, rest)
          else none := by
  have hk : takeChar '"' (jsonString k ++ ':' :: cs) >>= readString = some (k, ':' :: cs) := by
    have htext : jsonString k ++ ':' :: cs =
        '"' :: (k.toList.flatMap jsonChar ++ '"' :: ':' :: cs) := by
      simp [jsonString]
    rw [htext, takeChar_cons, Option.bind_eq_bind, Option.bind_some, readString_jsonString]
  rw [readMembers, hk]
  simp only
  rw [skipSpace_cons rfl, takeChar_cons]

theorem readMembers_last {k : String}
    (hx : readValue floats n (skipSpace cs) = some (x, '\x7d' :: rest)) :
    readMembers floats (n + 1) (jsonString k ++ ':' :: cs) = some ([(k, x)], rest) := by
  rw [readMembers_key, hx]
  simp only
  rw [skipSpace_cons rfl]
  rfl

theorem readMembers_next {k : String} {more : List Char} {items : List (String × PyValue)}
    (hx : readValue floats n (skipSpace cs) = some (x, ',' :: more))
    (hmore : readMembers floats n (skipSpace more) = some (items, rest)) :
    readMembers floats (n + 1) (jsonString k ++ ':' :: cs) = some ((k, x) :: items, rest) := by
  rw [readMembers_key, hx]
  simp only
  rw [skipSpace_cons rfl]
  simp only
  rw [if_neg (by decide), if_pos trivial, hmore]
  rfl

/-- The texts of some values after the first one. -/
def jsonTail (texts : List (List Char)) : List Char := texts.flatMap (',' :: ·)

theorem jsonTail_cons (t : List Char) (ts : List (List Char)) :
    jsonTail (t :: ts) = ',' :: (t ++ jsonTail ts) := by
  rw [jsonTail, List.flatMap_cons]
  rfl

theorem intercalate_eq_jsonTail (ts : List (List Char)) (t : List Char) :
    [','].intercalate (t :: ts) = t ++ jsonTail ts := by
  induction ts generalizing t with
  | nil => simp [jsonTail]
  | cons t' ts ih =>
    rw [List.intercalate_cons_cons, ih, jsonTail_cons]
    simp

/-- With `n` steps the text of a value is read. -/
def ReadsValues (n : ℕ) : Prop :=
  ∀ (v : PyValue) (t rest : List Char), dumpText floats v = some t → DistinctKeys v →
    t.length ≤ n → EndsNumber rest → readValue floats n (t ++ rest) = some (v.jsonDoc, rest)

def ReadsElements (n : ℕ) : Prop :=
  ∀ (x : PyValue) (xs : List PyValue) (t : List Char) (ts : List (List Char)) (rest : List Char),
    dumpText floats x = some t → dumpTexts floats xs = some ts → DistinctKeysAll (x :: xs) →
      t.length + (jsonTail ts).length + 1 ≤ n →
        readElements floats n (t ++ (jsonTail ts ++ ']' :: rest)) =
          some (PyValue.jsonDocs (x :: xs), rest)

def ReadsMembers (n : ℕ) : Prop :=
  ∀ (k : String) (x : PyValue) (items : List (String × PyValue)) (t : List Char)
    (ts : List (String × List Char)) (rest : List Char), dumpText floats x = some t →
      dumpItems floats items = some ts → DistinctKeysItems ((k, x) :: items) →
        t.length + (jsonTail (jsonItemTexts ts)).length + 1 ≤ n →
          readMembers floats n (jsonString k ++ ':' ::
              (t ++ (jsonTail (jsonItemTexts ts) ++ '\x7d' :: rest))) =
            some (PyValue.jsonItems ((k, x) :: items), rest)

theorem readsElements_succ (hvalues : ReadsValues floats n) (helements : ReadsElements floats n) :
    ReadsElements floats (n + 1) := by
  intro x xs t ts rest hx hxs hkeys hn
  cases xs with
  | nil =>
    obtain rfl := Option.some.inj hxs
    exact readElements_last floats (hvalues x t _ hx hkeys.1 (by omega) (.inr (.inl rfl)))
  | cons y xs =>
    obtain ⟨t', ts, hy, hts, rfl⟩ := dumpTexts_cons floats hxs
    rw [jsonTail_cons] at hn ⊢
    rw [List.length_cons, List.length_append] at hn
    have hmore := helements y xs t' ts rest hy hts hkeys.2 (by omega)
    rw [List.cons_append, List.append_assoc]
    refine readElements_next floats (hvalues x t _ hx hkeys.1 (by omega) (.inl rfl)) ?_
    rw [skipSpace_dumpText floats hy, hmore]

theorem readsMembers_succ (hvalues : ReadsValues floats n) (hmembers : ReadsMembers floats n) :
    ReadsMembers floats (n + 1) := by
  intro k x items t ts rest hx hitems hkeys hn
  cases items with
  | nil =>
    obtain rfl := Option.some.inj hitems
    refine readMembers_last floats ?_
    rw [skipSpace_dumpText floats hx]
    exact hvalues x t _ hx hkeys.1 (by omega) (.inr (.inr rfl))
  | cons item items =>
    obtain ⟨k', y⟩ := item
    obtain ⟨t', ts, hy, hts, rfl⟩ := dumpItems_cons floats hitems
    have htail : jsonTail (jsonItemTexts ((k', t') :: ts)) =
        ',' :: ((jsonString k' ++ ':' :: t') ++ jsonTail (jsonItemTexts ts)) := jsonTail_cons _ _
    rw [htail] at hn ⊢
    simp only [List.length_cons, List.length_append] at hn
    have hmore := hmembers k' y items t' ts rest hy hts hkeys.2 (by omega)
    have hrest : ',' :: ((jsonString k' ++ ':' :: t') ++ jsonTail (jsonItemTexts ts)) ++
        '\x7d' :: rest = ',' :: (jsonString k' ++ ':' ::
          (t' ++ (jsonTail (jsonItemTexts ts) ++ '\x7d' :: rest))) := by
      simp
    rw [hrest]
    refine @readMembers_next floats _ _ n _ k (jsonString k' ++ ':' ::
      (t' ++ (jsonTail (jsonItemTexts ts) ++ '\x7d' :: rest))) _ ?_ ?_
    · rw [skipSpace_dumpText floats hx]
      exact hvalues x t _ hx hkeys.1 (by omega) (.inl rfl)
    · rw [jsonString] at hmore ⊢
      simp only [String.reduceToList, List.cons_append, List.nil_append,
        List.append_assoc] at hmore ⊢
      rw [skipSpace_cons rfl, hmore]

theorem readValue_jsonArray (helements : ReadsElements floats n) {xs : List PyValue}
    {ts : List (List Char)} (hts : dumpTexts floats xs = some ts) (hkeys : DistinctKeysAll xs)
    (hn : (jsonArray ts).length ≤ n + 1) (rest : List Char) :
    readValue floats (n + 1) (jsonArray ts ++ rest) =
      some (.list (PyValue.jsonDocs xs), rest) := by
  cases xs with
  | nil =>
    obtain rfl := Option.some.inj hts
    rfl
  | cons x xs =>
    obtain ⟨t, ts, hx, hxs, rfl⟩ := dumpTexts_cons floats hts
    have htext : jsonArray (t :: ts) ++ rest = '[' :: (t ++ (jsonTail ts ++ ']' :: rest)) := by
      rw [jsonArray, intercalate_eq_jsonTail]
      simp
    have hlen : t.length + (jsonTail ts).length + 1 ≤ n := by
      have := congrArg List.length htext
      simp only [List.length_append, List.length_cons] at this
      omega
    have hread := helements x xs t ts rest hx hxs hkeys hlen
    obtain ⟨c, cs, hcs, -, hbracket⟩ := dumpText_head floats hx
    rw [htext, readValue, if_neg (by decide), if_pos rfl, skipSpace_dumpText floats hx]
    rw [hcs, List.cons_append] at hread ⊢
    simp only
    rw [if_neg hbracket, hread]
    rfl

theorem readValue_jsonObject (hmembers : ReadsMembers floats n) {items : List (String × PyValue)}
    {ts : List (String × List Char)} (hts : dumpItems floats items = some ts)
    (hkeys : DistinctKeys (.dict items)) (hn : (jsonObject ts).length ≤ n + 1) (rest : List Char) :
    readValue floats (n + 1) (jsonObject ts ++ rest) =
      some (.dict (PyValue.jsonItems items), rest) := by
  cases items with
  | nil =>
    obtain rfl := Option.some.inj hts
    rfl
  | cons item items =>
    obtain ⟨k, x⟩ := item
    obtain ⟨t, ts, hx, hitems, rfl⟩ := dumpItems_cons floats hts
    have htext : jsonObject ((k, t) :: ts) ++ rest = '\x7b' ::
        (jsonString k ++ ':' :: (t ++ (jsonTail (jsonItemTexts ts) ++ '\x7d' :: rest))) := by
      have h := intercalate_eq_jsonTail (jsonItemTexts ts) (jsonString k ++ ':' :: t)
      rw [jsonItemTexts] at h
      rw [jsonObject, List.map_cons, h, jsonItemTexts]
      simp
    have hlen : t.length + (jsonTail (jsonItemTexts ts)).length + 1 ≤ n := by
      have := congrArg List.length htext
      simp only [List.length_append, List.length_cons] at this
      omega
    have hread := hmembers k x items t ts rest hx hitems hkeys.2 hlen
    have hquote : ∀ cs, jsonString k ++ cs = '"' :: (k.toList.flatMap jsonChar ++ '"' :: cs) := by
      intro cs
      simp [jsonString]
    rw [htext, readValue, if_neg (by decide), if_neg (by decide), if_pos rfl]
    rw [hquote] at hread ⊢
    rw [skipSpace_cons rfl]
    simp only
    rw [if_neg (by decide), hread, Option.map_some]
    simp only
    rw [Dict.entries_ofList (by rw [map_fst_jsonItems]; exact hkeys.1)]

theorem readsValues_succ (helements : ReadsElements floats n) (hmembers : ReadsMembers floats n) :
    ReadsValues floats (n + 1) := by
  intro v t rest ht hkeys hn hrest
  cases v with
  | none =>
    obtain rfl := Option.some.inj ht
    exact readWord_append "null" .none rest
  | bool b =>
    cases b with
    | true =>
      obtain rfl := Option.some.inj ht
      exact readWord_append "true" (.bool true) rest
    | false =>
      obtain rfl := Option.some.inj ht
      exact readWord_append "false" (.bool false) rest
  | int i => exact readValue_jsonInt floats ht hrest n
  | float x => exact readValue_float floats ht hrest n
  | str s =>
    obtain rfl := Option.some.inj ht
    have hs : jsonString s ++ rest = '"' :: (s.toList.flatMap jsonChar ++ '"' :: rest) := by
      simp [jsonString]
    rw [hs, readValue, if_pos rfl, readString_jsonString]
    rfl
  | list xs =>
    obtain ⟨ts, hts, rfl⟩ := Option.map_eq_some_iff.mp ht
    exact readValue_jsonArray floats helements hts hkeys hn rest
  | tuple xs =>
    obtain ⟨ts, hts, rfl⟩ := Option.map_eq_some_iff.mp ht
    exact readValue_jsonArray floats helements hts hkeys hn rest
  | dict items =>
    obtain ⟨ts, hts, rfl⟩ := Option.map_eq_some_iff.mp ht
    exact readValue_jsonObject floats hmembers hts hkeys hn rest

theorem reads (n : ℕ) :
    ReadsValues floats n ∧ ReadsElements floats n ∧ ReadsMembers floats n := by
  induction n with
  | zero =>
    refine ⟨?_, fun _ _ _ _ _ _ _ _ hn => absurd hn (by omega),
      fun _ _ _ _ _ _ _ _ _ hn => absurd hn (by omega)⟩
    intro v t rest ht _ hn _
    obtain ⟨c, cs, rfl, -⟩ := dumpText_head floats ht
    exact absurd hn (by simp)
  | succ n ih =>
    obtain ⟨hvalues, helements, hmembers⟩ := ih
    exact ⟨readsValues_succ floats helements hmembers, readsElements_succ floats hvalues helements,
      readsMembers_succ floats hvalues hmembers⟩

/-- **A value is read as it was written**, with its tuples as lists. -/
theorem loads_dumps {v : PyValue} {s : String} (hs : dumps floats v = some s)
    (hkeys : DistinctKeys v) : loads floats s = some v.jsonDoc := by
  obtain ⟨t, ht, rfl⟩ := Option.map_eq_some_iff.mp hs
  have hread := (reads floats (t.length + 1)).1 v t [] ht hkeys (Nat.le_succ _) trivial
  have hskip := skipSpace_dumpText floats ht []
  rw [List.append_nil] at hread hskip
  rw [loads, String.toList_ofList, String.length_ofList, hskip, hread]
  rfl

end Py
