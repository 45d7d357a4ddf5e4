/-
# EventRules.Proofs.Calendar.DayText -- the text of a day read back

The text of a date is a year, which has a sign when four digits do not do, and two numbers of
two digits.  It is no strict stamp, as it has no time of day, and no pattern with a time of day
matches it for the same reason.  The pattern that has none reads the very date
(`Pattern.read_date`), whatever the year; so the text means the local midnight of its day
(`UtcOffset.ofDateText?_text`).
-/
import EventRules.Proofs.Calendar.Stamp
namespace EventRules

set_option autoImplicit false

open Text

/-- A year is written with four digits, or with a sign. -/
theorem Civil.yearText_cases (year : Int) :
    (0 ≤ year ∧ year ≤ 9999 ∧ yearText year = padded 4 year.natAbs) ∨
      (year < 0 ∧ yearText year = '-' :: padded 4 year.natAbs) ∨
      (9999 < year ∧ yearText year = '+' :: padded 4 year.natAbs) := by
  unfold yearText
  by_cases negative : year < 0
  · have signed : ¬ (0 ≤ year ∧ year ≤ 9999) := by omega
    simp [negative, signed]
  · by_cases long : 9999 < year
    · have signed : ¬ (0 ≤ year ∧ year ≤ 9999) := by omega
      simp [negative, long, signed]
    · have plain : 0 ≤ year ∧ year ≤ 9999 := by omega
      simp [plain]

/-- The text of a date, each field with what follows it. -/
theorem Civil.text_eq (date : Civil) :
    date.text =
      yearText date.year ++ '-' :: (padded 2 date.month ++ '-' :: (padded 2 date.day ++ [])) := by
  rw [text, List.append_assoc, List.append_nil]
  rfl

namespace Pattern

/-! ## Fields -/

theorem skipBlanks_padded (width n : Nat) (rest : List Char) :
    skipBlanks (padded width n ++ rest) = padded width n ++ rest := by
  obtain ⟨c, digits, split, digit⟩ := padded_append_eq_cons width n rest
  rw [split]
  apply skipBlanks_eq_self
  rintro _ ⟨⟩
  exact isBlank_of_isDigit digit

theorem number_padded {width n : Nat} (positive : 0 < width) (fits : n < Nat.pow 10 width)
    (rest : List Char) : number width (padded width n ++ rest) = some (n, rest) := by
  rw [number, takeDigits_padded positive fits]
  dsimp only
  rw [List.isEmpty_eq_false_iff.2 (padded_ne_nil width n), if_neg Bool.false_ne_true,
    natOf_padded]

/-- A number with as many digits as it takes ends at a hyphen. -/
theorem longNumber_padded (width n : Nat) (rest : List Char) :
    longNumber (padded width n ++ '-' :: rest) = some (n, '-' :: rest) := by
  have stops : ∀ c ∈ ('-' :: rest).head?, c.isDigit = false := by
    rintro c ⟨⟩
    rfl
  have digits : ∀ c ∈ padded width n, c.isDigit = true := fun _ => isDigit_of_mem_padded
  rw [longNumber, spanDigits_append digits stops]
  dsimp only
  rw [List.isEmpty_eq_false_iff.2 (padded_ne_nil width n), if_neg Bool.false_ne_true,
    natOf_padded]

/-- A year reads back, with its sign if it has one. -/
theorem year_yearText (y : Int) (rest : List Char) :
    year (skipBlanks (Civil.yearText y ++ '-' :: rest)) = some (y, '-' :: rest) := by
  rcases Civil.yearText_cases y with ⟨low, high, text⟩ | ⟨negative, text⟩ | ⟨long, text⟩
  · obtain ⟨c, digits, split, digit⟩ := padded_append_eq_cons 4 y.natAbs ('-' :: rest)
    have fits : y.natAbs < 10000 := by omega
    have number : number 4 (c :: digits) = some (y.natAbs, '-' :: rest) := by
      rw [← split]
      exact number_padded (by decide) fits _
    have unsigned : c ≠ '-' ∧ c ≠ '+' := by
      constructor <;> rintro rfl <;> cases digit
    rw [text, skipBlanks_padded, split]
    unfold year
    split
    · exact absurd (List.cons.inj ‹_›).1 unsigned.1
    · exact absurd (List.cons.inj ‹_›).1 unsigned.2
    · rw [number, Option.map_some]
      dsimp only
      rw [Int.natAbs_of_nonneg low]
  · rw [text]
    change (longNumber (padded 4 y.natAbs ++ '-' :: rest)).map _ = _
    rw [longNumber_padded, Option.map_some]
    dsimp only
    rw [show -(y.natAbs : Int) = y by omega]
  · rw [text]
    change (longNumber (padded 4 y.natAbs ++ '-' :: rest)).map _ = _
    rw [longNumber_padded, Option.map_some]
    dsimp only
    rw [show (y.natAbs : Int) = y by omega]

/-! ## A date -/

theorem read_append (first second : List Item) (chars : List Char) (f : Fields) :
    read (first ++ second) chars f =
      (read first chars f).bind fun (f, rest) => read second rest f := by
  induction first generalizing chars f with
  | nil => rfl
  | cons item first ih =>
      rw [List.cons_append, read, read]
      cases readItem item chars f with
      | none => rfl
      | some read => exact ih _ _

/-- The text of a date is read as its fields, to its end. -/
theorem read_date {date : Civil} (valid : date.Valid) :
    read Pattern.date date.text Fields.none =
      some (⟨date.year, date.month, date.day, 0, 0, 0, 0⟩, []) := by
  have two : 0 < 2 := by decide
  rw [Civil.text_eq, Pattern.date]
  simp only [read, readItem, year_yearText, Option.map_some, if_true, skipBlanks_padded,
    number_padded two valid.month_lt, number_padded two valid.day_lt]
  rfl

/-- A pattern that asks for more after the date does not match the text of a date. -/
theorem whole_date_append {date : Civil} (valid : date.Valid) {more : List Item}
    (stuck : ∀ f, read more [] f = none) : whole (Pattern.date ++ more) date.text = none := by
  rw [whole, read_append, read_date valid, Option.bind_some]
  dsimp only
  rw [stuck]

end Pattern

/-! ## The text means a midnight -/

/-- The text of a date has no time of day, so it is no strict stamp. -/
theorem Instant.ofStrictStamp?_text {date : Civil} (valid : date.Valid) :
    ofStrictStamp? date.text = none := by
  rw [Civil.text_eq, ofStrictStamp?]
  rcases Civil.yearText_cases date.year with ⟨low, high, text⟩ | ⟨-, text⟩ | ⟨-, text⟩
  · have fits : date.year.natAbs < 10000 := by omega
    rw [text, exactly_padded (by decide) fits]
    dsimp only [Option.bind_eq_bind, Option.bind_some, skip_hyphen]
    rw [exactly_padded (by decide) valid.month_lt]
    dsimp only [Option.bind_some, skip_hyphen]
    rw [exactly_padded (by decide) valid.day_lt]
    rfl
  · rw [text]
    rfl
  · rw [text]
    rfl

namespace UtcOffset

variable {offset : UtcOffset} {date : Civil}

theorem ofLocalText?_text (valid : date.Valid) :
    offset.ofLocalText? date.text = offset.instantOf? ⟨date, 0, 0⟩ := by
  have bare : Pattern.whole Pattern.date date.text = some ⟨date, 0, 0⟩ := by
    rw [Pattern.whole, Pattern.read_date valid]
    exact Instant.reading?_fields valid (show 0 < 86400 by decide) 0
  have lettered : ∀ time, Pattern.whole (Pattern.date ++ .letter 'T' :: time) date.text = none :=
    fun _ => Pattern.whole_date_append valid fun _ => rfl
  have blank : ∀ time, Pattern.whole (Pattern.date ++ .blanks :: .hour :: time) date.text = none :=
    fun _ => Pattern.whole_date_append valid fun _ => rfl
  have first : localPatterns.findSome? (fun items => Pattern.whole items date.text) =
      some ⟨date, 0, 0⟩ := by
    simp only [localPatterns, Pattern.time, Pattern.shortTime, List.cons_append,
      List.findSome?_cons, lettered, blank, bare]
  rw [ofLocalText?, first]
  rfl

theorem trimChars_text (date : Civil) : trimChars date.text = date.text := by
  apply trimChars_eq_self
  · rw [Civil.text_eq]
    rcases Civil.yearText_cases date.year with ⟨-, -, text⟩ | ⟨-, text⟩ | ⟨-, text⟩
    · obtain ⟨c, digits, split, digit⟩ := padded_append_eq_cons 4 date.year.natAbs
        ('-' :: (padded 2 date.month ++ '-' :: (padded 2 date.day ++ [])))
      rw [text, split]
      rintro _ ⟨⟩
      exact isBlank_of_isDigit digit
    · rw [text]
      rintro _ ⟨⟩
      decide
    · rw [text]
      rintro _ ⟨⟩
      decide
  · rw [Civil.text, List.append_cons, List.getLast?_append,
      List.getLast?_eq_some_getLast (padded_ne_nil 2 date.day)]
    rintro _ ⟨⟩
    exact isBlank_of_isDigit (isDigit_of_mem_padded (List.getLast_mem _))

/-- **The text of a date means its local midnight**, whatever the year. -/
theorem ofDateText?_text (valid : date.Valid) :
    offset.ofDateText? (String.ofList date.text) = offset.instantOf? ⟨date, 0, 0⟩ := by
  rw [ofDateText?, String.toList_ofList, trimChars_text, Instant.ofStrictStamp?_text valid]
  exact ofLocalText?_text valid

end UtcOffset
end EventRules
