/-
# EventRules.Proofs.Calendar.Civil -- the date of a day

A year is as long as its months together (`daysBeforeYear_succ`), so the place of a day within
its year lies in one of them (`Civil.inMonth_spec`).  Every day has a date that exists
(`Civil.valid_ofDays`), and the date tells the day (`Civil.toDays_ofDays`).
-/
import EventRules.Calendar.Civil
namespace EventRules

set_option autoImplicit false

/-- How many days a list of months has. -/
def daysIn (lengths : List Nat) : Nat := lengths.foldr (· + ·) 0

theorem daysIn_monthLengths (year : Int) :
    daysIn (monthLengths year) = if isLeapYear year then 366 else 365 := by
  cases leap : isLeapYear year <;> simp [daysIn, monthLengths, leap]

/-- A year is as long as its months together. -/
theorem daysBeforeYear_succ (year : Int) :
    daysBeforeYear (year + 1) = daysBeforeYear year + daysIn (monthLengths year) := by
  have months := daysIn_monthLengths year
  have leap : isLeapYear year = true ↔
      year % 4 = 0 ∧ (year % 100 ≠ 0 ∨ year % 400 = 0) := by
    simp only [isLeapYear, Bool.and_eq_true, Bool.or_eq_true, beq_iff_eq, bne_iff_ne]
  simp only [daysBeforeYear]
  split at months
  · rename_i long
    rw [leap] at long
    omega
  · rename_i common
    rw [leap] at common
    omega

namespace Civil

/-- A day within some months lies in one of them, so many days after those before it. -/
theorem inMonth_spec (lengths : List Nat) (month : Nat) {rest : Nat}
    (within : rest < daysIn lengths) :
    ∃ index day, inMonth lengths month rest = (month + index, day + 1) ∧
      index < lengths.length ∧ day < lengths.getD index 0 ∧
      daysIn (lengths.take index) + day = rest := by
  induction lengths generalizing month rest with
  | nil => exact absurd within (Nat.not_lt_zero _)
  | cons length lengths ih =>
      have total : daysIn (length :: lengths) = length + daysIn lengths := rfl
      by_cases first : rest < length
      · refine ⟨0, rest, ?_, Nat.succ_pos _, first, Nat.zero_add _⟩
        rw [inMonth, if_pos first]
        rfl
      · obtain ⟨index, day, found, bounded, fits, sum⟩ :=
          ih (month + 1) (show rest - length < daysIn lengths by omega)
        refine ⟨index + 1, day, ?_, Nat.succ_lt_succ bounded, fits, ?_⟩
        · rw [inMonth, if_neg first, found, Nat.add_assoc, Nat.add_comm 1]
        · have before : daysIn ((length :: lengths).take (index + 1)) =
              length + daysIn (lengths.take index) := rfl
          omega

/-- The parts of the date of a day. -/
theorem ofDays_spec (days : Int) :
    ∃ index day, ofDays days = ⟨yearOf (days + 719162), 1 + index, day + 1⟩ ∧ index < 12 ∧
      day < (monthLengths (yearOf (days + 719162))).getD index 0 ∧
      daysBeforeYear (yearOf (days + 719162)) +
        (daysIn ((monthLengths (yearOf (days + 719162))).take index) : Nat) + day =
          days + 719162 := by
  have lower := daysBeforeYear_yearOf_le (days + 719162)
  have upper := lt_daysBeforeYear_yearOf (days + 719162)
  have year := daysBeforeYear_succ (yearOf (days + 719162))
  have within : (days + 719162 - daysBeforeYear (yearOf (days + 719162))).toNat <
      daysIn (monthLengths (yearOf (days + 719162))) := by omega
  obtain ⟨index, day, found, bounded, fits, sum⟩ := inMonth_spec _ 1 within
  refine ⟨index, day, ?_, bounded, fits, by omega⟩
  rw [ofDays]
  dsimp only
  rw [found]

/-- Every day has a date of the calendar. -/
theorem valid_ofDays (days : Int) : (ofDays days).Valid := by
  obtain ⟨index, day, date, bounded, fits, -⟩ := ofDays_spec days
  rw [date, Valid]
  dsimp only
  rw [Nat.add_sub_cancel_left]
  exact ⟨by omega, by omega, by omega, fits⟩

/-- The date of a day tells the day. -/
theorem toDays_ofDays (days : Int) : (ofDays days).toDays = days := by
  obtain ⟨index, day, date, -, -, sum⟩ := ofDays_spec days
  rw [date, toDays]
  dsimp only
  rw [Nat.add_sub_cancel_left]
  change daysBeforeYear _ + (daysIn _ : Nat) + _ - 719162 = days
  omega

theorem Valid.month_lt {date : Civil} (valid : date.Valid) : date.month < 100 := by
  obtain ⟨-, twelve, -⟩ := valid
  omega

/-- No month has a hundred days. -/
theorem Valid.day_lt {date : Civil} (valid : date.Valid) : date.day < 100 := by
  obtain ⟨-, -, -, fits⟩ := valid
  have short : ∀ length ∈ monthLengths date.year, length ≤ 31 := by
    cases leap : isLeapYear date.year <;> simp [monthLengths, leap]
  have bound : (monthLengths date.year).getD (date.month - 1) 0 ≤ 31 := by
    rw [List.getD_eq_getElem?_getD]
    cases found : (monthLengths date.year)[date.month - 1]? with
    | none => exact Nat.zero_le _
    | some length => exact short length (List.mem_of_getElem? found)
  omega

end Civil
end EventRules
