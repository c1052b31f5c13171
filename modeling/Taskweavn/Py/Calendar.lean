import Taskweavn.Py.Moment

/-!
# Instants

`DateTime.microseconds` counts the microseconds since the start of year 1, by the rules of
the proleptic Gregorian calendar, so that two datetimes can be compared and subtracted.
Later datetimes have larger counts (`microseconds_lt_iff`).

Two moments can be compared when both have an offset, and then their instants are
compared, or when neither has one, and then their clocks are; `Moment.Le` is `<=` where
it does not raise.
-/

namespace Py

open Lib

def daysInYear (year : ℕ) : ℕ :=
  if year % 4 = 0 ∧ (year % 100 ≠ 0 ∨ year % 400 = 0) then 366 else 365

def daysBeforeYear (year : ℕ) : ℕ :=
  365 * (year - 1) + (year - 1) / 4 - (year - 1) / 100 + (year - 1) / 400

def daysBeforeMonth (year : ℕ) : ℕ → ℕ
  | 0 => 0
  | 1 => 0
  | month + 2 => daysBeforeMonth year (month + 1) + daysInMonth year (month + 1)

theorem daysBeforeYear_succ (year : ℕ) (h : 1 ≤ year) :
    daysBeforeYear (year + 1) = daysBeforeYear year + daysInYear year := by
  obtain ⟨y, rfl⟩ : ∃ y, year = y + 1 := ⟨year - 1, by omega⟩
  have h4 : (y + 1) / 4 = y / 4 + if (y + 1) % 4 = 0 then 1 else 0 := by split <;> omega
  have h100 : (y + 1) / 100 = y / 100 + if (y + 1) % 100 = 0 then 1 else 0 := by split <;> omega
  have h400 : (y + 1) / 400 = y / 400 + if (y + 1) % 400 = 0 then 1 else 0 := by split <;> omega
  have hle : y / 100 ≤ y / 4 := Nat.div_le_div_left (by decide) (by decide)
  have hdvd : (y + 1) % 400 = 0 → (y + 1) % 100 = 0 := by omega
  have hdvd' : (y + 1) % 100 = 0 → (y + 1) % 4 = 0 := by omega
  rw [daysBeforeYear, daysBeforeYear, daysInYear]
  simp only [Nat.add_sub_cancel, h4, h100, h400]
  generalize y / 4 = a at *
  generalize y / 100 = b at *
  generalize y / 400 = c at *
  split_ifs <;> simp_all <;> omega

theorem daysBeforeYear_mono {year year' : ℕ} (h : 1 ≤ year) (hlt : year < year') :
    daysBeforeYear year + daysInYear year ≤ daysBeforeYear year' := by
  induction year' with
  | zero => omega
  | succ n ih =>
    rcases Nat.lt_succ_iff_lt_or_eq.mp hlt with hn | rfl
    · have hle := ih hn
      have hsucc := daysBeforeYear_succ n (by omega)
      omega
    · rw [daysBeforeYear_succ _ h]

theorem daysBeforeMonth_mono (year : ℕ) {month month' : ℕ} (h : 1 ≤ month) (hlt : month < month') :
    daysBeforeMonth year month + daysInMonth year month ≤ daysBeforeMonth year month' := by
  induction month' with
  | zero => omega
  | succ n ih =>
    obtain ⟨k, rfl⟩ : ∃ k, n = k + 1 := ⟨n - 1, by omega⟩
    rcases Nat.lt_succ_iff_lt_or_eq.mp hlt with hn | rfl
    · have hle := ih hn
      rw [daysBeforeMonth]
      omega
    · rw [daysBeforeMonth]

theorem daysBeforeMonth_le (year : ℕ) {month : ℕ} (h : 1 ≤ month) (h' : month ≤ 12) :
    daysBeforeMonth year month + daysInMonth year month ≤ daysInYear year := by
  have hall : daysBeforeMonth year 12 + daysInMonth year 12 = daysInYear year := by
    simp only [daysBeforeMonth, daysInMonth, daysInYear]
    by_cases hleap : year % 4 = 0 ∧ (year % 100 ≠ 0 ∨ year % 400 = 0)
    · simp only [if_pos hleap]
      rfl
    · simp only [if_neg hleap]
      rfl
  rcases Nat.lt_or_ge month 12 with hlt | hge
  · have hle := daysBeforeMonth_mono year h hlt
    omega
  · have heq : month = 12 := by omega
    rw [heq, hall]

namespace DateTime

/-- `date.toordinal` -/
def ordinal (d : DateTime) : ℕ := daysBeforeYear d.year + daysBeforeMonth d.year d.month + d.day

def timeOfDay (d : DateTime) : ℕ :=
  ((d.hour * 60 + d.minute) * 60 + d.second) * 1000000 + d.microsecond

/-- Microseconds since the start of year 1. -/
def microseconds (d : DateTime) : ℕ := (d.ordinal - 1) * 86400000000 + d.timeOfDay

theorem one_le_ordinal (d : DateTime) : 1 ≤ d.ordinal := by
  obtain ⟨-, -, -, -, hd, -⟩ := d.valid
  unfold ordinal
  omega

theorem timeOfDay_lt (d : DateTime) : d.timeOfDay < 86400000000 := by
  obtain ⟨-, -, -, -, -, -, hh, hmi, hs, hus⟩ := d.valid
  unfold timeOfDay
  omega

theorem dayOfYear_le (d : DateTime) :
    daysBeforeMonth d.year d.month + d.day ≤ daysInYear d.year := by
  obtain ⟨-, -, hmo, hmo', -, hd, -⟩ := d.valid
  have hle := daysBeforeMonth_le d.year hmo hmo'
  omega

theorem ordinal_lt {d d' : DateTime}
    (h : d.year < d'.year ∨ d.year = d'.year ∧
      (d.month < d'.month ∨ d.month = d'.month ∧ d.day < d'.day)) : d.ordinal < d'.ordinal := by
  obtain ⟨hy, -, hmo, -, hd, hd', -⟩ := d.valid
  obtain ⟨-, -, -, -, hd1, -, -⟩ := d'.valid
  unfold ordinal
  rcases h with h | ⟨hyeq, h | ⟨hmeq, h⟩⟩
  · have hyear := daysBeforeYear_mono hy h
    have hday := d.dayOfYear_le
    omega
  · have hmonth := daysBeforeMonth_mono d.year hmo h
    rw [← hyeq]
    omega
  · rw [← hyeq, ← hmeq]
    omega

theorem microseconds_lt {d d' : DateTime} (h : d < d') : d.microseconds < d'.microseconds := by
  have h1 := d.one_le_ordinal
  have h1' := d'.one_le_ordinal
  have ht := d.timeOfDay_lt
  by_cases hdate : d.year = d'.year ∧ d.month = d'.month ∧ d.day = d'.day
  · obtain ⟨hy, hmo, hd⟩ := hdate
    have hord : d.ordinal = d'.ordinal := by rw [ordinal, ordinal, hy, hmo, hd]
    obtain ⟨-, -, -, -, -, -, hh, hmi, hs, hus⟩ := d.valid
    obtain ⟨-, -, -, -, -, -, hh', hmi', hs', hus'⟩ := d'.valid
    have htime : d.timeOfDay < d'.timeOfDay := by
      rw [lt_iff_fields] at h
      simp only [fields, List.cons_lt_cons_iff, and_false, or_false, hy, hmo, hd, lt_irrefl,
        true_and, false_or] at h
      unfold timeOfDay
      omega
    unfold microseconds
    omega
  · have hlt : d.ordinal < d'.ordinal := by
      apply ordinal_lt
      rw [lt_iff_fields] at h
      simp only [fields, List.cons_lt_cons_iff, List.not_lt_nil, and_false, or_false] at h
      omega
    unfold microseconds
    omega

/-- **The count is ordered as the datetimes are.** -/
theorem microseconds_lt_iff {d d' : DateTime} : d.microseconds < d'.microseconds ↔ d < d' := by
  constructor
  · intro h
    by_contra hge
    rcases lt_or_eq_of_le (not_lt.mp hge) with hlt | rfl
    · exact absurd (microseconds_lt hlt) h.asymm
    · exact absurd h (lt_irrefl _)
  · exact microseconds_lt

theorem microseconds_le_iff {d d' : DateTime} : d.microseconds ≤ d'.microseconds ↔ d ≤ d' := by
  rw [← not_lt, ← not_lt, microseconds_lt_iff]

end DateTime

namespace Moment

/-- What a moment is compared by: its instant, or its clock if it has no offset. -/
def instant (m : Moment) : ℤ :=
  (m.clock.microseconds : ℤ) - match m.offset with
    | none => 0
    | some o => o.1

/-- Both have an offset, or neither has. -/
def Comparable (m m' : Moment) : Prop := m.offset.isSome = m'.offset.isSome

instance (m m' : Moment) : Decidable (m.Comparable m') := inferInstanceAs (Decidable (_ = _))

/-- `m <= m'`, where it does not raise. -/
def Le (m m' : Moment) : Prop := m.Comparable m' ∧ m.instant ≤ m'.instant

instance (m m' : Moment) : Decidable (m.Le m') := inferInstanceAs (Decidable (_ ∧ _))

theorem zero_utcOffset : (0 : ℤ).natAbs < 86400000000 := by decide

/-- `datetime.now(UTC)` -/
def utc (d : DateTime) : Moment := ⟨d, some ⟨0, zero_utcOffset⟩⟩

@[simp] theorem instant_utc (d : DateTime) : (utc d).instant = d.microseconds := by
  simp [instant, utc]

@[simp] theorem wholeMinutes_utc (d : DateTime) : (utc d).WholeMinutes := by
  simp [WholeMinutes, utc]

theorem isoformat_utc (d : DateTime) : (utc d).isoformat = d.isoformat := rfl

end Moment

end Py
