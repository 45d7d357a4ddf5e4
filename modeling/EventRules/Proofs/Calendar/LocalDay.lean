/-
# EventRules.Proofs.Calendar.LocalDay -- three ways to the local midnight

The local midnight of an instant is found by cutting the time of day off
(`UtcOffset.startOfDay`), it is the one instant that begins the local day
(`UtcOffset.startOfDay_eq_some_iff`), and it is what the text of the day means when it is read
as a date (`UtcOffset.toDate_dayText`).

An instant whose local reading the calendar has (`UtcOffset.Reads`) has no local midnight only
where this would lie before the calendar, which happens on its first day, east of UTC
(`UtcOffset.startOfDay_eq_none_iff`).  Of all other instants the local midnight cannot even be
asked for (`UtcOffset.startOfDay_eq_error_iff`).
-/
import EventRules.Proofs.Calendar.DayText
import EventRules.Proofs.Calendar.Midnight
import EventRules.Value.Date
namespace EventRules

set_option autoImplicit false

namespace UtcOffset

variable {offset : UtcOffset} {d e m : Instant}

/-! ## The second of the midnight -/

theorem midnight_le (offset : UtcOffset) (d : Instant) : offset.midnight d ≤ d.seconds := by
  rw [midnight, localDay]
  omega

theorem midnight_mono (offset : UtcOffset) (ordered : d.le e = true) :
    offset.midnight d ≤ offset.midnight e := by
  have seconds : d.seconds ≤ e.seconds := by
    rcases Instant.le_iff_parts.1 ordered with earlier | ⟨same, -⟩ <;> omega
  rw [midnight, midnight, localDay, localDay]
  omega

/-- The midnight is missing exactly where it lies before the calendar. -/
theorem startOfDay_eq_none_iff (reads : offset.Reads d) :
    offset.startOfDay d = .ok none ↔ offset.midnight d < Instant.first.seconds := by
  have early : offset.midnight d ≤ 8210266876799 :=
    Int.le_trans (offset.midnight_le d) d.inCalendar.2
  change _ ↔ offset.midnight d < -8334601228800
  rw [startOfDay_of_reads reads, Except.ok.injEq, Instant.of?]
  split
  · rename_i inCalendar
    rw [dif_pos (by decide)]
    simp [inCalendar.1]
  · rename_i outside
    refine ⟨fun _ => ?_, fun _ => rfl⟩
    omega

theorem parts_of_startOfDay (found : offset.startOfDay d = .ok (some m)) :
    m.seconds = offset.midnight d ∧ m.nanos = 0 := by
  rw [startOfDay_of_reads (reads_of_startOfDay found), Except.ok.injEq] at found
  exact Instant.of?_eq_some found

/-! ## The day that begins -/

/-- The local day of the instant that begins a day is that day. -/
theorem BeginsDay.localDay_eq (begins : offset.BeginsDay m d) :
    offset.localDay m = offset.localDay d := by
  have date : Civil.ofDays (offset.localDay m) = Civil.ofDays (offset.localDay d) :=
    congrArg Reading.date begins.reading
  rw [← Civil.toDays_ofDays (offset.localDay m), date, Civil.toDays_ofDays]

theorem BeginsDay.parts (begins : offset.BeginsDay m d) :
    m.seconds = offset.midnight d ∧ m.nanos = 0 := by
  have clock : ((m.seconds + offset.seconds) % 86400).toNat = 0 :=
    congrArg Reading.seconds begins.reading
  have day : (m.seconds + offset.seconds) / 86400 = offset.localDay d := begins.localDay_eq
  refine ⟨?_, congrArg Reading.nanos begins.reading⟩
  rw [midnight]
  omega

/-- Cutting off the time of day finds the one instant that begins the local day. -/
theorem startOfDay_eq_some_iff (reads : offset.Reads d) :
    offset.startOfDay d = .ok (some m) ↔ offset.BeginsDay m d := by
  refine ⟨beginsDay_of_startOfDay, fun begins => ?_⟩
  obtain ⟨seconds, nanos⟩ := begins.parts
  rw [startOfDay_of_reads reads, ← seconds, ← nanos, Instant.of?_self]

/-- What begins a day begins its own day, and is on the same day. -/
theorem startOfDay_startOfDay (found : offset.startOfDay d = .ok (some m)) :
    offset.startOfDay m = .ok (some m) ∧ offset.dayText m = offset.dayText d := by
  have same := (beginsDay_of_startOfDay found).localDay_eq
  constructor
  · rw [startOfDay, localDate, same]
    exact found
  · rw [dayText, dayText, same]

/-- A later instant has a midnight when an earlier one has, and none that is earlier. -/
theorem startOfDay_mono (reads : offset.Reads e) (ordered : d.le e = true)
    (found : offset.startOfDay d = .ok (some m)) :
    ∃ n, offset.startOfDay e = .ok (some n) ∧ m.le n = true := by
  obtain ⟨seconds, nanos⟩ := parts_of_startOfDay found
  have later := offset.midnight_mono ordered
  have found' := startOfDay_of_reads reads
  cases there : Instant.of? (offset.midnight e) 0 with
  | none =>
      rw [there, startOfDay_eq_none_iff reads] at found'
      have before : offset.midnight e < -8334601228800 := found'
      have inside := m.inCalendar.1
      omega
  | some n =>
      rw [there] at found'
      obtain ⟨seconds', -⟩ := parts_of_startOfDay found'
      refine ⟨n, found', Instant.le_iff_parts.2 ?_⟩
      omega

/-! ## The text of the day -/

/-- The text of a local day means its midnight. -/
theorem toDate_dayText (reads : offset.Reads d) :
    offset.startOfDay d = .ok ((Value.text (offset.dayText d)).toDate offset) := by
  obtain ⟨found, returned⟩ : ∃ found, offset.startOfDay d = .ok found :=
    ⟨_, startOfDay_of_reads reads⟩
  rw [Value.toDate, dayText, ofDateText?_text (Civil.valid_ofDays _), returned, Except.ok.injEq]
  rw [startOfDay, localDate] at returned
  split at returned
  · rename_i date made
    split at made
    · cases made
      exact (Except.ok.inj returned).symm
    · cases made
  · cases returned

/-- **Local days are one notion.**  For an instant whose local reading the calendar has, in any
offset: the start of its day is missing exactly where the local midnight lies before the
calendar, and is otherwise the one instant that begins its day, less than a day back, when the
local clock shows the first moment.  It is the start of its own day, on the same day; later
instants have later starts; and the text of the day, read back, means this very start. -/
theorem startOfDay_coherent (offset : UtcOffset) {d : Instant} (reads : offset.Reads d) :
    (offset.startOfDay d = .ok none ↔ offset.midnight d < Instant.first.seconds) ∧
      (∀ m, offset.startOfDay d = .ok (some m) ↔ offset.BeginsDay m d) ∧
      (∀ m, offset.startOfDay d = .ok (some m) →
        offset.startOfDay m = .ok (some m) ∧ offset.dayText m = offset.dayText d) ∧
      (∀ e m, offset.Reads e → d.le e = true → offset.startOfDay d = .ok (some m) →
        ∃ n, offset.startOfDay e = .ok (some n) ∧ m.le n = true) ∧
      offset.startOfDay d = .ok ((Value.text (offset.dayText d)).toDate offset) :=
  ⟨startOfDay_eq_none_iff reads, fun _ => startOfDay_eq_some_iff reads,
    fun _ => startOfDay_startOfDay, fun _ _ => startOfDay_mono, toDate_dayText reads⟩

end UtcOffset

namespace Example

/-- An hour east of UTC. -/
def east : UtcOffset := ⟨3600, by decide⟩

/-- East of UTC the calendar begins within a day whose midnight it lacks.  The text of that day
is that of a date, in a negative year, and means no instant; that of the last day, in a year of
six digits, means its midnight. -/
theorem first_day_lost :
    east.Reads .first ∧ east.startOfDay .first = .ok none ∧
      (Value.text "-262143-01-01").toDate east = none ∧
      UtcOffset.utc.Reads .last ∧
      ∃ m, UtcOffset.utc.startOfDay .last = .ok (some m) ∧
        (Value.text "+262142-12-31").toDate .utc = some m := by
  have reads : east.Reads .first := by decide
  have text : east.dayText .first = "-262143-01-01" := by decide +kernel
  have reads' : UtcOffset.utc.Reads .last := by decide
  have text' : UtcOffset.utc.dayText .last = "+262142-12-31" := by decide +kernel
  obtain ⟨missing, -, -, -, readBack⟩ := UtcOffset.startOfDay_coherent east reads
  obtain ⟨missing', -, -, -, readBack'⟩ := UtcOffset.startOfDay_coherent .utc reads'
  rw [text] at readBack
  rw [text'] at readBack'
  have lost : east.startOfDay .first = .ok none := missing.2 (by decide)
  have found : (Value.text "+262142-12-31").toDate .utc ≠ none := by
    intro none
    rw [none] at readBack'
    exact absurd (missing'.1 readBack') (by decide)
  obtain ⟨m, begins⟩ := Option.ne_none_iff_exists'.1 found
  refine ⟨reads, lost, ?_, reads', m, begins ▸ readBack', begins⟩
  exact Except.ok.inj (readBack.symm.trans lost)

end Example
end EventRules
