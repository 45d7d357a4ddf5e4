/-
# EventRules.Proofs.Calendar.Stamp -- stamps read back

The stamp of an instant is laid out field by field (`Instant.stampWith_fields`), and each field
reads back as the number that was written.  So a stamp in a year of four digits is read as the
instant it was taken from, what is finer than its digits dropped
(`Instant.ofStrictStamp?_stampWith`).  It has a zone, so local time does not matter, and neither
do blanks around it (`UtcOffset.ofDateText?_surrounded`).
-/
import EventRules.Calendar.DateText
import EventRules.Calendar.Stamp
import EventRules.Proofs.Calendar.Civil
import EventRules.Proofs.Calendar.Millis
import EventRules.Proofs.Text.Blank
import EventRules.Proofs.Text.Digits
namespace EventRules

set_option autoImplicit false

open Text

namespace Instant

/-- An instant that the calendar of four-digit years has and that is no leap second. -/
structure Plain (t : Instant) : Prop where
  year : 0 ≤ (UtcOffset.utc.reading t).date.year ∧ (UtcOffset.utc.reading t).date.year ≤ 9999
  noLeap : t.isLeap = false

instance (t : Instant) : Decidable t.Plain :=
  decidable_of_iff (_ ∧ _) ⟨fun both => ⟨both.1, both.2⟩, fun plain => ⟨plain.year, plain.noLeap⟩⟩

theorem exactly_padded {width n : Nat} (positive : 0 < width) (fits : n < Nat.pow 10 width)
    (rest : List Char) : exactly width (padded width n ++ rest) = some (n, rest) := by
  rw [exactly, takeDigits_padded positive fits]
  dsimp only
  rw [if_pos (length_padded positive fits), natOf_padded]

/-- The fraction of a stamp reads back in nanoseconds. -/
theorem fraction_padded {millis : Nat} (fits : millis < 1000) (rest : List Char) :
    Pattern.fraction ('.' :: (padded 3 millis ++ 'Z' :: rest)) =
      some (millis * 1000000, 'Z' :: rest) := by
  have stops : ∀ c ∈ ('Z' :: rest).head?, c.isDigit = false := by
    rintro c ⟨⟩
    rfl
  have digits : ∀ c ∈ padded 3 millis, c.isDigit = true := fun _ => isDigit_of_mem_padded
  have span := spanDigits_append digits stops
  have length : (padded 3 millis).length = 3 := length_padded (by decide) fits
  have some' : (padded 3 millis).isEmpty = false :=
    List.isEmpty_eq_false_iff.2 (padded_ne_nil 3 millis)
  have kept : (padded 3 millis).take 9 = padded 3 millis :=
    List.take_of_length_le (by omega)
  rw [Pattern.fraction, Pattern.fractionDigits, span]
  dsimp only
  rw [some', if_neg Bool.false_ne_true, kept, natOf_padded, length]

theorem skip_hyphen (rest : List Char) : skip '-' ('-' :: rest) = some rest := rfl

theorem skip_colon (rest : List Char) : skip ':' (':' :: rest) = some rest := rfl

theorem timeMark_T (rest : List Char) : timeMark ('T' :: rest) = some rest := rfl

/-- A stamp of numbers that fit their fields is read as these numbers, in UTC. -/
theorem ofStrictStamp?_fields {year month day hour minute second millis : Nat}
    (fitYear : year < 10000) (fitMonth : month < 100) (fitDay : day < 100) (fitHour : hour < 100)
    (fitMinute : minute < 100) (fitSecond : second < 100) (fitMillis : millis < 1000) :
    ofStrictStamp? (padded 4 year ++ '-' :: (padded 2 month ++ '-' :: (padded 2 day ++ 'T' ::
        (padded 2 hour ++ ':' :: (padded 2 minute ++ ':' :: (padded 2 second ++ '.' ::
          (padded 3 millis ++ ['Z']))))))) =
      (Fields.reading? ⟨year, month, day, hour, minute, second, millis * 1000000⟩).bind
        fun r => ofZoned? r 0 := by
  rw [ofStrictStamp?, exactly_padded (by decide) fitYear]
  dsimp only [Option.bind_eq_bind, Option.bind_some, skip_hyphen]
  rw [exactly_padded (by decide) fitMonth]
  dsimp only [Option.bind_some, skip_hyphen]
  rw [exactly_padded (by decide) fitDay]
  dsimp only [Option.bind_some, timeMark_T]
  rw [exactly_padded (by decide) fitHour]
  dsimp only [Option.bind_some, skip_colon]
  rw [exactly_padded (by decide) fitMinute]
  dsimp only [Option.bind_some, skip_colon]
  rw [exactly_padded (by decide) fitSecond]
  dsimp only [Option.bind_some]
  rw [fraction_padded fitMillis]
  rfl

/-- The fields of the stamp of an instant, in milliseconds. -/
theorem stampWith_fields {t : Instant} (plain : t.Plain) :
    let r := UtcOffset.utc.reading t
    stampWith 3 t =
      padded 4 r.date.year.natAbs ++ '-' :: (padded 2 r.date.month ++ '-' ::
        (padded 2 r.date.day ++ 'T' :: (padded 2 (r.seconds / 3600) ++ ':' ::
          (padded 2 (r.seconds / 60 % 60) ++ ':' :: (padded 2 (r.seconds % 60) ++ '.' ::
            (padded 3 (t.nanos / 1000000) ++ ['Z'])))))) := by
  have noLeap : ¬ 1000000000 ≤ (UtcOffset.utc.reading t).nanos := by
    have := plain.noLeap
    rwa [isLeap, decide_eq_false_iff_not] at this
  obtain ⟨low, high⟩ := plain.year
  dsimp only
  rw [stampWith, timeText, Civil.text, Civil.yearText, fractionText]
  simp [noLeap, low, high]
  rfl

/-- The fields that a clock and a calendar show make up what they show. -/
theorem reading?_fields {date : Civil} (valid : date.Valid) {seconds : Nat}
    (within : seconds < 86400) (nanos : Nat) :
    Fields.reading? ⟨date.year, date.month, date.day, seconds / 3600, seconds / 60 % 60,
      seconds % 60, nanos⟩ = some ⟨date, seconds, nanos⟩ := by
  have ranges : seconds / 3600 < 24 ∧ seconds / 60 % 60 < 60 ∧ seconds % 60 ≤ 60 := by omega
  have plain : ¬ seconds % 60 = 60 := by omega
  have sum : 3600 * (seconds / 3600) + 60 * (seconds / 60 % 60) + seconds % 60 = seconds := by
    omega
  unfold Fields.reading?
  dsimp only
  rw [if_pos ⟨valid, ranges⟩, if_neg plain, sum]

/-- **A stamp reads back** as the instant it was taken from, to the millisecond. -/
theorem ofStrictStamp?_stampWith {t : Instant} (plain : t.Plain) :
    ofStrictStamp? (stampWith 3 t) = some t.truncated := by
  have fields := stampWith_fields plain
  obtain ⟨low, high⟩ := plain.year
  have noLeap := plain.noLeap
  rw [isLeap, decide_eq_false_iff_not] at noLeap
  have valid : (UtcOffset.utc.reading t).date.Valid := Civil.valid_ofDays _
  have days : (UtcOffset.utc.reading t).date.toDays = t.seconds / 86400 := by
    rw [UtcOffset.reading, Civil.toDays_ofDays, UtcOffset.utc, Int.add_zero]
  have clock : (UtcOffset.utc.reading t).seconds = (t.seconds % 86400).toNat := by
    rw [UtcOffset.reading, UtcOffset.utc, Int.add_zero]
  generalize UtcOffset.utc.reading t = r at fields low high valid days clock
  have year : (r.date.year.natAbs : Int) = r.date.year := by omega
  have within : r.seconds < 86400 := by omega
  dsimp only at fields
  rw [fields, ofStrictStamp?_fields (by omega) valid.month_lt valid.day_lt (by omega) (by omega)
      (by omega) (by omega),
    year, reading?_fields valid within, Option.bind_some, ofZoned?, days, clock]
  have seconds : 86400 * (t.seconds / 86400) + ((t.seconds % 86400).toNat : Int) - 0 =
      t.seconds := by omega
  show of? (86400 * (t.seconds / 86400) + ((t.seconds % 86400).toNat : Int) - 0) _ = _
  rw [seconds]
  exact of?_self t.truncated

/-- Stamps of instants with one text are of one millisecond. -/
theorem millis_of_millisStamp {t u : Instant} (plainT : t.Plain) (plainU : u.Plain)
    (same : t.millisStamp = u.millisStamp) : t.millis = u.millis := by
  have read := ofStrictStamp?_stampWith plainT
  rw [String.ofList_injective same, ofStrictStamp?_stampWith plainU] at read
  rw [← t.millis_truncated, ← Option.some.inj read, millis_truncated]

/-- Three places of the fraction show no more than milliseconds. -/
theorem timeText_truncated (r : Reading) :
    timeText 3 { r with nanos := r.nanos / 1000000 * 1000000 } = timeText 3 r := by
  have leap : 1000000000 ≤ r.nanos / 1000000 * 1000000 ↔ 1000000000 ≤ r.nanos := by omega
  have fraction : ∀ n, fractionText 3 n = '.' :: padded 3 (n / 1000000) := fun _ => rfl
  have kept : (r.nanos / 1000000 * 1000000 - 1000000000) / 1000000 =
      (r.nanos - 1000000000) / 1000000 := by omega
  simp only [timeText, leap, fraction]
  split
  · rw [kept]
  · rw [Nat.mul_div_cancel _ (by decide)]

/-- An instant that is cut off to the millisecond has the same stamp. -/
theorem millisStamp_truncated (t : Instant) : t.truncated.millisStamp = t.millisStamp := by
  have time := timeText_truncated (UtcOffset.utc.reading t)
  rw [millisStamp, millisStamp, stampWith, stampWith, ← time]
  rfl

/-! ## The text of a stamp -/

/-- A stamp is its year, a hyphen, and the rest up to the `Z`, with a `T` in it. -/
theorem stampWith_parts {t : Instant} (plain : t.Plain) :
    ∃ digits rest, stampWith 3 t = digits ++ '-' :: (rest ++ ['Z']) ∧ 'T' ∈ rest ∧
      digits ≠ [] ∧ ∀ c ∈ digits, c.isDigit = true := by
  obtain ⟨low, high⟩ := plain.year
  refine ⟨padded 4 (UtcOffset.utc.reading t).date.year.natAbs,
    padded 2 (UtcOffset.utc.reading t).date.month ++ '-' ::
      padded 2 (UtcOffset.utc.reading t).date.day ++ 'T' :: timeText 3 (UtcOffset.utc.reading t),
    ?_, ?_, padded_ne_nil _ _, fun _ => isDigit_of_mem_padded⟩
  · rw [stampWith, Civil.text, Civil.yearText]
    simp [low, high]
  · simp

/-- No blanks stand around a stamp. -/
theorem trimChars_stampWith {t : Instant} (plain : t.Plain) :
    trimChars (stampWith 3 t) = stampWith 3 t := by
  obtain ⟨digits, rest, text, -, something, all⟩ := stampWith_parts plain
  obtain ⟨first, others, split⟩ := List.exists_cons_of_ne_nil something
  rw [text]
  apply trimChars_eq_self
  · rw [split]
    rintro c ⟨⟩
    exact isBlank_of_isDigit (all first (split ▸ List.mem_cons_self))
  · rw [← List.cons_append, ← List.append_assoc, List.getLast?_concat]
    rintro c ⟨⟩
    decide

end Instant

namespace UtcOffset

/-- Blanks around a text do not change the date it means. -/
theorem ofDateText?_surrounded (offset : UtcOffset) {before after : List Char}
    (blankBefore : ∀ c ∈ before, isBlank c = true) (blankAfter : ∀ c ∈ after, isBlank c = true)
    (chars : List Char) :
    offset.ofDateText? (String.ofList (before ++ chars ++ after)) =
      offset.ofDateText? (String.ofList chars) := by
  rw [ofDateText?, ofDateText?, String.toList_ofList, String.toList_ofList,
    trimChars_surrounded blankBefore blankAfter]

/-- **A stamp is read as a date** in every local time: it means the instant it was taken from, to
the millisecond. -/
theorem ofDateText?_millisStamp (offset : UtcOffset) {t : Instant} (plain : t.Plain) :
    offset.ofDateText? t.millisStamp = some t.truncated := by
  rw [ofDateText?, Instant.millisStamp, String.toList_ofList, Instant.trimChars_stampWith plain,
    Instant.ofStrictStamp?_stampWith plain]

end UtcOffset
end EventRules
