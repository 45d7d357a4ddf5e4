/-
# EventRules.Proofs.Value.Date -- dates that were written down

A date is written as a number of milliseconds or as a stamp, and both keep it to the millisecond.
What was written stands for the date from then on (`Value.StandsFor`): it is read as the date, cut
off to the millisecond, whatever the local time; an event based on it is placed there; comparisons
of dates do not tell it from the date; and what it means shows the same stamp and the same local
day.

This holds of the milliseconds of every instant that is no leap second, and of the stamp of every
such instant in a year of four digits (`Value.toDate_written`), also with blanks around it, and of
what either of them becomes as a document.
-/
import EventRules.Dispatch.Attempt
import EventRules.Proofs.Calendar.Stamp
import EventRules.Proofs.Value.Document
namespace EventRules

set_option autoImplicit false

open Text

namespace Value

/-- A value stands for an instant, in a local time, as well as milliseconds can tell. -/
structure StandsFor (offset : UtcOffset) (v : Value) (t : Instant) : Prop where
  /-- It means the instant, cut off to the millisecond. -/
  date : v.toDate offset = some t.truncated
  /-- An event with the value as its base date is placed there. -/
  anchors : ∀ (a : Attempt) (now : Instant), a.rule.spec.timeSource = .field → a.next = v →
    a.base offset now = .ok (.ok t.truncated)
  /-- No comparison of dates tells it from the instant, on either side. -/
  compares : ∀ (op : Comparison) (w : Value),
    v.compares offset .date op w = (Value.date t).compares offset .date op w ∧
      w.compares offset .date op v = w.compares offset .date op (.date t)
  /-- The date it means shows as the instant does. -/
  shows : ∀ u, v.toDate offset = some u →
    (Value.date u).display = (Value.date t).display ∧ offset.dayText u = offset.dayText t

section

variable {offset : UtcOffset} {v : Value} {t : Instant}

/-- What is read as a date has its milliseconds for a measure. -/
theorem measure?_of_toDate (read : v.toDate offset = some t) :
    v.measure? offset .date = some (.number (millisNumber t)) := by
  cases v with
  | null => cases read
  | _ => simp [measure?, isNull, read]

/-- Everything else follows from the date that a value is read as. -/
theorem standsFor_of_toDate (read : v.toDate offset = some t.truncated) : v.StandsFor offset t where
  date := read
  anchors := by
    intro a now field next
    simp only [Attempt.base, field, next, read]
  compares := by
    intro op w
    have measure : v.measure? offset .date = (Value.date t).measure? offset .date := by
      rw [measure?_of_toDate read, measure?_of_toDate (t := t) rfl, millisNumber,
        Instant.millis_truncated, ← millisNumber]
    simp only [Value.compares, measure, and_self]
  shows := by
    intro u found
    obtain rfl : t.truncated = u := Option.some.inj (read.symm.trans found)
    exact ⟨t.millisStamp_truncated, rfl⟩

/-- The milliseconds of an instant are read as the instant, to the millisecond. -/
theorem toDate_millisNumber (offset : UtcOffset) (noLeap : t.isLeap = false) :
    (number (millisNumber t)).toDate offset = some t.truncated := by
  rw [toDate, millisNumber, Double.truncate_ofInt t.natAbs_millis_lt,
    Instant.ofMillis?_millis noLeap]

/-- The text form of an instant is read as the instant, to the millisecond, with any blanks
around it. -/
theorem toDate_display (offset : UtcOffset) (plain : t.Plain) {before after : List Char}
    (blankBefore : ∀ c ∈ before, isBlank c = true) (blankAfter : ∀ c ∈ after, isBlank c = true) :
    (text (String.ofList (before ++ (date t).display.toList ++ after))).toDate offset =
      some t.truncated := by
  rw [toDate, offset.ofDateText?_surrounded blankBefore blankAfter, String.ofList_toList, display,
    offset.ofDateText?_millisStamp plain]

/-- As a document a date is its text form. -/
theorem ofTree_date (t : Instant) : ofTree (date t).toTree = text (date t).display := by
  rw [toTree, ofTree, display]

end

/-- **Reading a date undoes writing it**, to the millisecond.  For an instant that is no leap
second, in every local time: cutting off to the millisecond leads to the last whole millisecond
that is not after it; its milliseconds stand for it, and are the same number as a document; and if
its year has four digits, its text form stands for it, with any blanks around it, and so does
what it becomes as a document, which shows the same text. -/
theorem toDate_written (offset : UtcOffset) {t : Instant} (noLeap : t.isLeap = false) :
    (t.truncated.nanos % 1000000 = 0 ∧
        ∀ u : Instant, u.nanos % 1000000 = 0 → (u.le t.truncated = true ↔ u.le t = true)) ∧
      (number (millisNumber t)).StandsFor offset t ∧
      ofTree (number (millisNumber t)).toTree = number (millisNumber t) ∧
      (t.Plain →
        (∀ before after : List Char, (∀ c ∈ before, isBlank c = true) →
          (∀ c ∈ after, isBlank c = true) →
            (text (String.ofList (before ++ (date t).display.toList ++ after))).StandsFor
              offset t) ∧
          (ofTree (date t).toTree).StandsFor offset t ∧
          (ofTree (date t).toTree).display = (date t).display) := by
  refine ⟨⟨Nat.mul_mod_left _ _, fun u => Instant.le_truncated_iff⟩, ?_, ?_, ?_⟩
  · exact standsFor_of_toDate (toDate_millisNumber offset noLeap)
  · exact readsBack_number _
  · intro plain
    rw [ofTree_date]
    refine ⟨?_, standsFor_of_toDate ?_, rfl⟩
    · intro before after blankBefore blankAfter
      exact standsFor_of_toDate (toDate_display offset plain blankBefore blankAfter)
    · rw [toDate, display, offset.ofDateText?_millisStamp plain]

end Value

namespace Example

/-- The last moment of 1969, finer than a millisecond. -/
def newYearsEve : Instant := { Instant.last with seconds := -1, inCalendar := by decide }

/-- Ninety minutes west of UTC. -/
def west : UtcOffset := ⟨-5400, by decide⟩

/-- Before 1970 the fraction is cut off toward the past, and the zone of a stamp decides, not
local time. -/
theorem eve_read :
    newYearsEve.isLeap = false ∧ newYearsEve.Plain ∧
      (Value.number (Double.ofInt (-1))).StandsFor west newYearsEve ∧
      (Value.text " 1969-12-31T23:59:59.999Z\u3000").StandsFor west newYearsEve := by
  have noLeap : newYearsEve.isLeap = false := by decide
  have plain : newYearsEve.Plain := by decide +kernel
  have space : ∀ c ∈ [' '], Text.isBlank c = true := List.forall_mem_singleton.2 (by decide)
  have wide : ∀ c ∈ ['\u3000'], Text.isBlank c = true := List.forall_mem_singleton.2 (by decide)
  have text : String.ofList ([' '] ++ (Value.date newYearsEve).display.toList ++ ['\u3000']) =
      " 1969-12-31T23:59:59.999Z\u3000" := by decide +kernel
  obtain ⟨-, millis, -, stamp⟩ := Value.toDate_written west noLeap
  refine ⟨noLeap, plain, millis, ?_⟩
  rw [← text]
  exact (stamp plain).1 [' '] ['\u3000'] space wide

end Example
end EventRules
