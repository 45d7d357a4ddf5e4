/-
# EventRules.Calendar.Civil -- days and civil dates

The calendar is the proleptic Gregorian one, with a year zero and negative years.
A day is a count of days from 1970-01-01; a civil date is its year, month and
day of the month.

`daysBeforeYear` counts the days from 0001-01-01 to the start of a year, so the
year of a day is the one whose count it lies in: `yearOf` estimates it from the
mean length of a year, which is wrong by at most one, and corrects the estimate.

* `daysBeforeYear_yearOf_le`, `lt_daysBeforeYear_yearOf`: a day lies in its year.
-/
import EventRules.Text.Digits
namespace EventRules

set_option autoImplicit false

open Text

/-- Days from 0001-01-01 to the first day of a year. -/
def daysBeforeYear (year : Int) : Int :=
  365 * (year - 1) + (year - 1) / 4 - (year - 1) / 100 + (year - 1) / 400

/-- Whether a year has a 29th of February. -/
def isLeapYear (year : Int) : Bool :=
  year % 4 == 0 && (year % 100 != 0 || year % 400 == 0)

/-- The lengths of the months of a year. -/
def monthLengths (year : Int) : List Nat :=
  [31, if isLeapYear year then 29 else 28, 31, 30, 31, 30, 31, 31, 30, 31, 30, 31]

/-- The year in which the day `day` days after 0001-01-01 lies. -/
def yearOf (day : Int) : Int :=
  let estimate := 400 * day / 146097 + 1
  if day < daysBeforeYear estimate then estimate - 1
  else if daysBeforeYear (estimate + 1) ≤ day then estimate + 1
  else estimate

theorem daysBeforeYear_yearOf_le (day : Int) : daysBeforeYear (yearOf day) ≤ day := by
  unfold yearOf
  dsimp only
  split
  · simp only [daysBeforeYear]; omega
  · split
    · assumption
    · omega

theorem lt_daysBeforeYear_yearOf (day : Int) : day < daysBeforeYear (yearOf day + 1) := by
  unfold yearOf
  dsimp only
  split
  · simpa using ‹_›
  · split
    · simp only [daysBeforeYear]; omega
    · omega

/-- A date of the calendar. -/
structure Civil where
  year : Int
  month : Nat
  day : Nat
  deriving DecidableEq, Repr

namespace Civil

/-- Whether the month and the day of the month exist. -/
def Valid (date : Civil) : Prop :=
  1 ≤ date.month ∧ date.month ≤ 12 ∧ 1 ≤ date.day ∧
    date.day ≤ (monthLengths date.year).getD (date.month - 1) 0

instance (date : Civil) : Decidable date.Valid :=
  inferInstanceAs (Decidable (_ ∧ _ ∧ _ ∧ _))

/-- Days from 1970-01-01 to a date. -/
def toDays (date : Civil) : Int :=
  let before : Nat := ((monthLengths date.year).take (date.month - 1)).foldr (· + ·) 0
  daysBeforeYear date.year + before + (date.day - 1) - 719162

/-- The month and the day of the month of a day of the year, counted from zero,
where `lengths` are the months from `month` on. -/
def inMonth : List Nat → Nat → Nat → Nat × Nat
  | [], month, rest => (month, rest + 1)
  | length :: lengths, month, rest =>
      if rest < length then (month, rest + 1) else inMonth lengths (month + 1) (rest - length)

/-- The date of a day counted from 1970-01-01. -/
def ofDays (days : Int) : Civil :=
  let year := yearOf (days + 719162)
  let (month, day) := inMonth (monthLengths year) 1 (days + 719162 - daysBeforeYear year).toNat
  ⟨year, month, day⟩

/-- The text of a year: four digits from 0000 to 9999, else a sign and at least
four digits. -/
def yearText (year : Int) : List Char :=
  if 0 ≤ year && year ≤ 9999 then padded 4 year.natAbs
  else (if year < 0 then '-' else '+') :: padded 4 year.natAbs

/-- The text of a date: year, month and day, joined by hyphens. -/
def text (date : Civil) : List Char :=
  yearText date.year ++ '-' :: padded 2 date.month ++ '-' :: padded 2 date.day

end Civil
end EventRules
