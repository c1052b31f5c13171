import Taskweavn.Lib.Decimal
import Mathlib.Data.String.Basic

/-!
# UTC datetimes and their two texts

A `DateTime` is a UTC `datetime` with microseconds.  The program writes it in
two ways: `isoformat`, with the offset `+00:00`, in the text columns that rows
are sorted by, and the JSON text of the payload, with `Z`.  Both leave out the
fraction when the microseconds are zero.

* `isoformat_le_iff`: the texts of the first kind are ordered as the datetimes
  are.  Without a fraction the text goes on with `+`, with one it goes on with
  `.`, and `+` is the smaller character.
* `readFields_text`: the fields read back from the text, whatever follows them.
-/

namespace Py

open Lib

/-- Days of a month in the proleptic Gregorian calendar. -/
def daysInMonth (year month : ℕ) : ℕ :=
  if month = 2 then
    if year % 4 = 0 ∧ (year % 100 ≠ 0 ∨ year % 400 = 0) then 29 else 28
  else if month = 4 ∨ month = 6 ∨ month = 9 ∨ month = 11 then 30 else 31

/-- The fields that `datetime` accepts. -/
def ValidDateTime (year month day hour minute second microsecond : ℕ) : Prop :=
  1 ≤ year ∧ year ≤ 9999 ∧ 1 ≤ month ∧ month ≤ 12 ∧ 1 ≤ day ∧ day ≤ daysInMonth year month ∧
    hour < 24 ∧ minute < 60 ∧ second < 60 ∧ microsecond < 1000000

instance (y mo d h mi s us : ℕ) : Decidable (ValidDateTime y mo d h mi s us) := by
  unfold ValidDateTime; infer_instance

structure DateTime where
  year : ℕ
  month : ℕ
  day : ℕ
  hour : ℕ
  minute : ℕ
  second : ℕ
  microsecond : ℕ
  valid : ValidDateTime year month day hour minute second microsecond
deriving DecidableEq

namespace DateTime

theorem daysInMonth_le (year month : ℕ) : daysInMonth year month ≤ 31 := by
  unfold daysInMonth
  split_ifs <;> omega

/-- The fields, most significant first. -/
def fields (d : DateTime) : List ℕ :=
  [d.year, d.month, d.day, d.hour, d.minute, d.second, d.microsecond]

theorem fields_injective : Function.Injective fields := by
  intro d d' h
  cases d; cases d'
  simp only [fields, List.cons.injEq, and_true] at h
  obtain ⟨rfl, rfl, rfl, rfl, rfl, rfl, rfl⟩ := h
  rfl

instance : LinearOrder DateTime := LinearOrder.lift' fields fields_injective

theorem lt_iff_fields {d d' : DateTime} : d < d' ↔ d.fields < d'.fields := Iff.rfl

/-! ### The texts -/

/-- `YYYY-MM-DDTHH:MM:SS`, and the fraction when there is one, before `tail`. -/
def text (d : DateTime) (tail : List Char) : List Char :=
  pad 4 d.year ++ ('-' :: pad 2 d.month ++ ('-' :: pad 2 d.day ++ ('T' :: pad 2 d.hour ++
    (':' :: pad 2 d.minute ++ (':' :: pad 2 d.second ++
      ((if d.microsecond = 0 then [] else '.' :: pad 6 d.microsecond) ++ tail))))))

/-- `datetime.isoformat` of a UTC datetime. -/
def isoformat (d : DateTime) : String := String.ofList (d.text ['+', '0', '0', ':', '0', '0'])

def jsonText (d : DateTime) : String := String.ofList (d.text ['Z'])

/-! ### The order of the texts -/

theorem field_lt_iff {k n m : ℕ} (hn : n < 10 ^ k) (hm : m < 10 ^ k) {x y : List Char} {p : Prop}
    (h : x < y ↔ p) : pad k n ++ x < pad k m ++ y ↔ n < m ∨ (n = m ∧ p) := by
  rw [append_lt_append_iff (by simp), pad_lt_pad k n m hn hm, h]
  exact or_congr_right (and_congr_left fun _ => ⟨pad_injective hn hm, fun e => by rw [e]⟩)

theorem cons_lt_cons_self {c : Char} {x y : List Char} {p : Prop} (h : x < y ↔ p) :
    c :: x < c :: y ↔ p := by
  rw [List.cons_lt_cons_iff, h]
  simp

theorem fraction_lt_iff {n m : ℕ} (hn : n < 1000000) (hm : m < 1000000) :
    (if n = 0 then [] else '.' :: pad 6 n) ++ ['+', '0', '0', ':', '0', '0'] <
      (if m = 0 then [] else '.' :: pad 6 m) ++ ['+', '0', '0', ':', '0', '0'] ↔ n < m := by
  have hplus : '+' < '.' := by decide
  by_cases h0 : n = 0 <;> by_cases h1 : m = 0
  · simp [h0, h1]
  · rw [if_pos h0, if_neg h1, List.nil_append, List.cons_append, List.cons_lt_cons_iff]
    simp only [hplus, true_or, true_iff]
    omega
  · rw [if_neg h0, if_pos h1, List.nil_append, List.cons_append, List.cons_lt_cons_iff]
    simp only [h1, not_lt_zero, iff_false, not_or, not_lt, not_and]
    exact ⟨hplus.le, fun h => absurd h (by decide)⟩
  · rw [if_neg h0, if_neg h1, List.cons_append, List.cons_append]
    refine (cons_lt_cons_self (p := n < m) ?_)
    rw [field_lt_iff (p := False) (by omega) (by omega) (by simp)]
    simp

/-- **The sort column**: `isoformat` texts compare as the datetimes do. -/
theorem isoformat_lt_iff (d d' : DateTime) : d.isoformat < d'.isoformat ↔ d < d' := by
  obtain ⟨-, hy, -, hmo, -, hd, hh, hmi, hs, hus⟩ := d.valid
  obtain ⟨-, hy', -, hmo', -, hd', hh', hmi', hs', hus'⟩ := d'.valid
  have hdm := daysInMonth_le d.year d.month
  have hdm' := daysInMonth_le d'.year d'.month
  rw [String.lt_iff_toList_lt, isoformat, isoformat, String.toList_ofList, String.toList_ofList,
    lt_iff_fields, text, text]
  simp only [fields, List.cons_lt_cons_iff, List.not_lt_nil, and_false, or_false]
  refine field_lt_iff (by omega) (by omega) (cons_lt_cons_self ?_)
  refine field_lt_iff (by omega) (by omega) (cons_lt_cons_self ?_)
  refine field_lt_iff (by omega) (by omega) (cons_lt_cons_self ?_)
  refine field_lt_iff (by omega) (by omega) (cons_lt_cons_self ?_)
  refine field_lt_iff (by omega) (by omega) (cons_lt_cons_self ?_)
  exact field_lt_iff (by omega) (by omega) (fraction_lt_iff hus hus')

theorem isoformat_le_iff (d d' : DateTime) : d.isoformat ≤ d'.isoformat ↔ d ≤ d' := by
  rw [← not_lt, ← not_lt, isoformat_lt_iff]

theorem isoformat_inj {d d' : DateTime} : d.isoformat = d'.isoformat ↔ d = d' := by
  rw [le_antisymm_iff, le_antisymm_iff, isoformat_le_iff, isoformat_le_iff]

/-! ### Reading a JSON text -/

/-- The datetime with the given fields, when they are valid. -/
def ofFields (y mo d h mi s us : ℕ) : Option DateTime :=
  if hv : ValidDateTime y mo d h mi s us then some ⟨y, mo, d, h, mi, s, us, hv⟩ else none

/-- The fraction of a second, and what follows it. -/
def takeFraction : List Char → Option (ℕ × List Char)
  | '.' :: cs => takeNat 6 cs
  | cs => some (0, cs)

/-- Read the text that `jsonText` writes. -/
def parseJson (s : String) : Option DateTime := do
  let (y, cs) ← takeNat 4 s.toList
  let (mo, cs) ← takeNat 2 (← takeChar '-' cs)
  let (d, cs) ← takeNat 2 (← takeChar '-' cs)
  let (h, cs) ← takeNat 2 (← takeChar 'T' cs)
  let (mi, cs) ← takeNat 2 (← takeChar ':' cs)
  let (s, cs) ← takeNat 2 (← takeChar ':' cs)
  let (us, cs) ← takeFraction cs
  if cs = ['Z'] then ofFields y mo d h mi s us else none

/-- Read the fields of a datetime, and hand them on with what follows them. -/
def readFields {α : Type} (s : String) (next : ℕ → ℕ → ℕ → ℕ → ℕ → ℕ → ℕ → List Char → Option α) :
    Option α := do
  let (y, cs) ← takeNat 4 s.toList
  let (mo, cs) ← takeNat 2 (← takeChar '-' cs)
  let (d, cs) ← takeNat 2 (← takeChar '-' cs)
  let (h, cs) ← takeNat 2 (← takeChar 'T' cs)
  let (mi, cs) ← takeNat 2 (← takeChar ':' cs)
  let (s, cs) ← takeNat 2 (← takeChar ':' cs)
  let (us, cs) ← takeFraction cs
  next y mo d h mi s us cs

/-- Read a datetime, and what follows it. -/
def parseClock (s : String) : Option (DateTime × List Char) :=
  readFields s (fun y mo d h mi s us cs => (ofFields y mo d h mi s us).map
    (fun clock => (clock, cs)))

/-- Read a text that ends in `tail`. -/
def parseTail (tail : List Char) (s : String) : Option DateTime :=
  readFields s (fun y mo d h mi s us cs => if cs = tail then ofFields y mo d h mi s us else none)

/-- Read the text that `isoformat` writes. -/
def fromisoformat (s : String) : Option DateTime := parseTail ['+', '0', '0', ':', '0', '0'] s

theorem takeFraction_text {n : ℕ} (h : n < 1000000) {tail : List Char}
    (ht : tail.head? ≠ some '.') :
    takeFraction ((if n = 0 then [] else '.' :: pad 6 n) ++ tail) = some (n, tail) := by
  by_cases h0 : n = 0
  · rw [if_pos h0, List.nil_append, takeFraction, h0]
    intro cs hcs
    rw [hcs] at ht
    exact ht rfl
  · rw [if_neg h0, List.cons_append, takeFraction, takeNat_pad (by omega)]

/-- **The fields of a datetime read back**, whatever text follows them. -/
theorem readFields_text {α : Type} {next : ℕ → ℕ → ℕ → ℕ → ℕ → ℕ → ℕ → List Char → Option α}
    (d : DateTime) {tail : List Char} (ht : tail.head? ≠ some '.') :
    readFields (String.ofList (d.text tail)) next =
      next d.year d.month d.day d.hour d.minute d.second d.microsecond tail := by
  obtain ⟨-, hy, -, hmo, -, hd, hh, hmi, hs, hus⟩ := d.valid
  have hdm := daysInMonth_le d.year d.month
  have h4 : d.year < 10 ^ 4 := by omega
  have hmo2 : d.month < 10 ^ 2 := by omega
  have hd2 : d.day < 10 ^ 2 := by omega
  have hh2 : d.hour < 10 ^ 2 := by omega
  have hmi2 : d.minute < 10 ^ 2 := by omega
  have hs2 : d.second < 10 ^ 2 := by omega
  rw [readFields, String.toList_ofList, text]
  simp only [List.cons_append, Option.bind_eq_bind]
  rw [takeNat_pad h4, Option.bind_some, takeChar_cons, Option.bind_some, takeNat_pad hmo2,
    Option.bind_some, takeChar_cons, Option.bind_some, takeNat_pad hd2, Option.bind_some,
    takeChar_cons, Option.bind_some, takeNat_pad hh2, Option.bind_some, takeChar_cons,
    Option.bind_some, takeNat_pad hmi2, Option.bind_some, takeChar_cons, Option.bind_some,
    takeNat_pad hs2, Option.bind_some, takeFraction_text hus ht, Option.bind_some]

@[simp] theorem ofFields_self (d : DateTime) :
    ofFields d.year d.month d.day d.hour d.minute d.second d.microsecond = some d :=
  dif_pos d.valid

theorem parseClock_text (d : DateTime) {tail : List Char} (ht : tail.head? ≠ some '.') :
    parseClock (String.ofList (d.text tail)) = some (d, tail) := by
  rw [parseClock, readFields_text d ht, ofFields_self, Option.map_some]

theorem parseTail_text (d : DateTime) (tail : List Char) (ht : tail.head? ≠ some '.') :
    parseTail tail (String.ofList (d.text tail)) = some d := by
  rw [parseTail, readFields_text d ht, if_pos rfl, ofFields_self]

theorem parseJson_jsonText (d : DateTime) : parseJson d.jsonText = some d :=
  parseTail_text d ['Z'] (by decide)

theorem fromisoformat_isoformat (d : DateTime) : fromisoformat d.isoformat = some d :=
  parseTail_text d _ (by decide)

/-! ### Two concrete instants -/

theorem valid_noon : ValidDateTime 2024 1 1 12 0 0 0 := by decide

theorem valid_afterNoon : ValidDateTime 2024 1 1 12 0 1 0 := by decide

def noon : DateTime := ⟨2024, 1, 1, 12, 0, 0, 0, valid_noon⟩

/-- A second later. -/
def afterNoon : DateTime := ⟨2024, 1, 1, 12, 0, 1, 0, valid_afterNoon⟩

end DateTime

end Py
