import Taskweavn.Py.DateTime

/-!
# Datetimes with any offset

A caller may bring a `datetime` of its own: with an offset from UTC, which Python
keeps to the microsecond, or without one.  A `Moment` is the clock that it shows and
its offset.  `isoformat` writes both, and the reader of a text column accepts the
offsets that are whole minutes: `parse_isoformat` says that such a moment is read back
as it was written.
`datetime.fromisoformat` reads every offset (`fromisoformat_isoformat`), and a JSON text
has no place for the seconds of one (`json`).
-/

namespace Py

open Lib

/-- An offset from UTC in microseconds, less than a day. -/
abbrev UtcOffset := { o : ℤ // o.natAbs < 86400000000 }

/-- What a clock shows, and its offset from UTC when it is known. -/
structure Moment where
  clock : DateTime
  offset : Option UtcOffset := none
deriving DecidableEq

namespace Moment

/-- `±HH:MM`, with the seconds and their fraction when there are some. -/
def offsetText : Option UtcOffset → List Char
  | none => []
  | some o =>
    let n := o.1.natAbs
    (if o.1 < 0 then '-' else '+') :: (pad 2 (n / 3600000000) ++
      (':' :: (pad 2 (n / 60000000 % 60) ++
        (if n % 60000000 = 0 then []
        else ':' :: (pad 2 (n / 1000000 % 60) ++
          (if n % 1000000 = 0 then [] else '.' :: pad 6 (n % 1000000)))))))

/-- `datetime.isoformat` -/
def isoformat (m : Moment) : String := String.ofList (m.clock.text (offsetText m.offset))

/-- `HH:MM`, as microseconds. -/
def readOffset (cs : List Char) : Option ℕ := do
  let (h, cs) ← takeNat 2 cs
  let (mi, cs) ← takeNat 2 (← takeChar ':' cs)
  if cs = [] ∧ h < 24 ∧ mi < 60 then some ((h * 60 + mi) * 60000000) else none

/-- The offset with the given microseconds, if it is one. -/
def ofMicroseconds (o : ℤ) : Option UtcOffset :=
  if h : o.natAbs < 86400000000 then some ⟨o, h⟩ else none

def parseOffset : List Char → Option (Option UtcOffset)
  | [] => some none
  | '+' :: cs => (readOffset cs).bind (fun n => (ofMicroseconds n).map some)
  | '-' :: cs => (readOffset cs).bind (fun n => (ofMicroseconds (-n)).map some)
  | _ => none

/-- Read a text column. -/
def parse (s : String) : Option Moment := do
  let (clock, cs) ← DateTime.parseClock s
  let offset ← parseOffset cs
  pure ⟨clock, offset⟩

/-- The seconds of an offset and their fraction, when there are some, as microseconds. -/
def takeSeconds : List Char → Option (ℕ × List Char)
  | ':' :: cs => do
    let (sec, cs) ← takeNat 2 cs
    let (us, cs) ← DateTime.takeFraction cs
    if sec < 60 then some (sec * 1000000 + us, cs) else none
  | cs => some (0, cs)

/-- `HH:MM`, with the seconds and their fraction when there are some, as microseconds. -/
def readFullOffset (cs : List Char) : Option ℕ := do
  let (h, cs) ← takeNat 2 cs
  let (mi, cs) ← takeNat 2 (← takeChar ':' cs)
  let (us, cs) ← takeSeconds cs
  if cs = [] ∧ h < 24 ∧ mi < 60 then some ((h * 60 + mi) * 60000000 + us) else none

def parseFullOffset : List Char → Option (Option UtcOffset)
  | [] => some none
  | '+' :: cs => (readFullOffset cs).bind (fun n => (ofMicroseconds n).map some)
  | '-' :: cs => (readFullOffset cs).bind (fun n => (ofMicroseconds (-n)).map some)
  | _ => none

/-- `datetime.fromisoformat`, for the texts that `isoformat` writes. -/
def fromisoformat (s : String) : Option Moment := do
  let (clock, cs) ← DateTime.parseClock s
  let offset ← parseFullOffset cs
  pure ⟨clock, offset⟩

def WholeMinutes (m : Moment) : Prop := m.offset.all (fun o => o.1.natAbs % 60000000 == 0) = true

instance (m : Moment) : Decidable m.WholeMinutes := inferInstanceAs (Decidable (_ = _))

/-! ### The texts read back -/

theorem readOffset_text {n : ℕ} (h : n < 86400000000) (tail : List Char) :
    readOffset (pad 2 (n / 3600000000) ++ (':' :: (pad 2 (n / 60000000 % 60) ++ tail))) =
      if tail = [] then some (n / 60000000 * 60000000) else none := by
  have h1 : n / 3600000000 < 10 ^ 2 := by omega
  have h2 : n / 60000000 % 60 < 10 ^ 2 := by omega
  have hh : n / 3600000000 < 24 := by omega
  have hm : n / 60000000 % 60 < 60 := by omega
  rw [readOffset]
  simp only [Option.bind_eq_bind]
  rw [takeNat_pad h1, Option.bind_some, takeChar_cons, Option.bind_some, takeNat_pad h2,
    Option.bind_some]
  by_cases htail : tail = []
  · have hval : n / 3600000000 * 60 + n / 60000000 % 60 = n / 60000000 := by omega
    rw [if_pos ⟨htail, hh, hm⟩, if_pos htail, hval]
  · rw [if_neg (fun h => htail h.1), if_neg htail]

theorem parseOffset_text (o : Option UtcOffset) :
    parseOffset (offsetText o) =
      if o.all (fun v => v.1.natAbs % 60000000 == 0) then some o else none := by
  cases o with
  | none => rfl
  | some o =>
    obtain ⟨o, ho⟩ := o
    have hread := readOffset_text ho (if o.natAbs % 60000000 = 0 then []
      else ':' :: (pad 2 (o.natAbs / 1000000 % 60) ++
        (if o.natAbs % 1000000 = 0 then [] else '.' :: pad 6 (o.natAbs % 1000000))))
    simp only [Option.all_some, beq_iff_eq]
    by_cases hw : o.natAbs % 60000000 = 0
    · rw [if_pos hw, if_pos rfl] at hread
      have hn : o.natAbs / 60000000 * 60000000 = o.natAbs := by omega
      rw [hn] at hread
      by_cases hneg : o < 0
      · have hval : -(o.natAbs : ℤ) = o := by omega
        simp only [offsetText, if_pos hneg, if_pos hw, parseOffset, hread, Option.bind_some, hval,
          ofMicroseconds, dif_pos ho, Option.map_some]
      · have hval : (o.natAbs : ℤ) = o := by omega
        simp only [offsetText, if_neg hneg, if_pos hw, parseOffset, hread, Option.bind_some, hval,
          ofMicroseconds, dif_pos ho, Option.map_some]
    · rw [if_neg hw, if_neg (List.cons_ne_nil _ _)] at hread
      by_cases hneg : o < 0
      · simp only [offsetText, if_pos hneg, if_neg hw, parseOffset, hread,
          Option.bind_none]
      · simp only [offsetText, if_neg hneg, if_neg hw, parseOffset, hread,
          Option.bind_none]

theorem offsetText_head (o : Option UtcOffset) : (offsetText o).head? ≠ some '.' := by
  cases o with
  | none => decide
  | some o =>
    simp only [offsetText, List.head?_cons, ne_eq, Option.some.injEq]
    split <;> decide

theorem parse_text (m : Moment) :
    parse m.isoformat = if m.WholeMinutes then some m else none := by
  rw [parse, isoformat, DateTime.parseClock_text _ (offsetText_head m.offset), Option.bind_eq_bind,
    Option.bind_some]
  simp only [parseOffset_text, Option.bind_eq_bind]
  by_cases hw : m.WholeMinutes
  · rw [if_pos hw, if_pos (show _ = true from hw)]
    rfl
  · rw [if_neg hw, if_neg (show ¬_ = true from hw)]
    rfl

/-- **A moment with an offset of whole minutes reads back from its text.** -/
theorem parse_isoformat {m : Moment} (h : m.WholeMinutes) : parse m.isoformat = some m := by
  rw [parse_text, if_pos h]

theorem takeSeconds_text {n : ℕ} : takeSeconds (if n % 60000000 = 0 then []
      else ':' :: (pad 2 (n / 1000000 % 60) ++
        (if n % 1000000 = 0 then [] else '.' :: pad 6 (n % 1000000)))) =
    some (n % 60000000, []) := by
  by_cases hw : n % 60000000 = 0
  · rw [if_pos hw, hw]
    rfl
  · have hsec : n / 1000000 % 60 < 10 ^ 2 := by omega
    have hus : n % 1000000 < 1000000 := by omega
    have hhead : ([] : List Char).head? ≠ some '.' := by simp
    have hfraction := DateTime.takeFraction_text hus hhead
    rw [List.append_nil] at hfraction
    have hval : n / 1000000 % 60 * 1000000 + n % 1000000 = n % 60000000 := by omega
    rw [if_neg hw, takeSeconds]
    simp only [Option.bind_eq_bind]
    rw [takeNat_pad hsec, Option.bind_some, hfraction, Option.bind_some, if_pos (by omega), hval]

theorem readFullOffset_text {n : ℕ} (h : n < 86400000000) :
    readFullOffset (pad 2 (n / 3600000000) ++ (':' :: (pad 2 (n / 60000000 % 60) ++
      (if n % 60000000 = 0 then []
      else ':' :: (pad 2 (n / 1000000 % 60) ++
        (if n % 1000000 = 0 then [] else '.' :: pad 6 (n % 1000000))))))) = some n := by
  have h1 : n / 3600000000 < 10 ^ 2 := by omega
  have h2 : n / 60000000 % 60 < 10 ^ 2 := by omega
  have hval : (n / 3600000000 * 60 + n / 60000000 % 60) * 60000000 + n % 60000000 = n := by omega
  rw [readFullOffset]
  simp only [Option.bind_eq_bind]
  rw [takeNat_pad h1, Option.bind_some, takeChar_cons, Option.bind_some, takeNat_pad h2,
    Option.bind_some, takeSeconds_text, Option.bind_some, if_pos ⟨rfl, by omega, by omega⟩, hval]

theorem parseFullOffset_text (o : Option UtcOffset) : parseFullOffset (offsetText o) = some o := by
  cases o with
  | none => rfl
  | some o =>
    obtain ⟨o, ho⟩ := o
    have hread := readFullOffset_text ho
    by_cases hneg : o < 0
    · have hval : -(o.natAbs : ℤ) = o := by omega
      simp only [offsetText, if_pos hneg, parseFullOffset, hread, Option.bind_some, hval,
        ofMicroseconds, dif_pos ho, Option.map_some]
    · have hval : (o.natAbs : ℤ) = o := by omega
      simp only [offsetText, if_neg hneg, parseFullOffset, hread, Option.bind_some, hval,
        ofMicroseconds, dif_pos ho, Option.map_some]

/-- **Every moment reads back from its text** by `fromisoformat`. -/
theorem fromisoformat_isoformat (m : Moment) : fromisoformat m.isoformat = some m := by
  rw [fromisoformat, isoformat, DateTime.parseClock_text _ (offsetText_head m.offset)]
  simp only [Option.bind_eq_bind, Option.bind_some, parseFullOffset_text]
  rfl

theorem isoformat_injective : Function.Injective isoformat := by
  intro m m' h
  have hread := fromisoformat_isoformat m
  rw [h, fromisoformat_isoformat] at hread
  exact (Option.some.inj hread).symm

/-! ### JSON texts -/

/-- The microseconds of an offset without its seconds. -/
def wholeMinutes (o : ℤ) : ℤ :=
  if o < 0 then -(o.natAbs / 60000000 * 60000000 : ℕ) else (o.natAbs / 60000000 * 60000000 : ℕ)

theorem natAbs_wholeMinutes (o : ℤ) :
    (wholeMinutes o).natAbs = o.natAbs / 60000000 * 60000000 := by
  unfold wholeMinutes
  split <;> omega

theorem wholeMinutes_lt (o : UtcOffset) : (wholeMinutes o.1).natAbs < 86400000000 := by
  have ho := o.2
  rw [natAbs_wholeMinutes]
  omega

/-- An offset without its seconds. -/
def minutesOf (o : UtcOffset) : UtcOffset := ⟨wholeMinutes o.1, wholeMinutes_lt o⟩

/-- What is read from the JSON text of a moment, which has hours and minutes for the
offset. -/
def json (m : Moment) : Moment := ⟨m.clock, m.offset.map minutesOf⟩

theorem minutesOf_eq_iff (o : UtcOffset) : minutesOf o = o ↔ o.1.natAbs % 60000000 = 0 := by
  rw [Subtype.ext_iff]
  show wholeMinutes o.1 = o.1 ↔ _
  unfold wholeMinutes
  split <;> omega

theorem json_eq_iff (m : Moment) : m.json = m ↔ m.WholeMinutes := by
  obtain ⟨clock, offset⟩ := m
  rw [json, WholeMinutes, Moment.mk.injEq]
  cases offset with
  | none => simp
  | some o => simp [minutesOf_eq_iff]

end Moment

end Py
