/-
# EventRules.Calendar.Offset -- local time

Local time is a fixed offset from UTC, strictly inside one day either way.  A
reading is what a clock and a calendar on the wall show: a civil date with a time
of day.  Near the ends of the calendar the two need not go together: a reading may
belong to no instant, and within an offset of the ends the local date of an
instant lies on a day that the calendar does not have.  To write that day is no
trouble; to ask for it as a date ends the program (`Crash`).

* `UtcOffset.ofMinutes?` accepts exactly the offsets strictly inside ±24 h.
* `UtcOffset.localDate` is the local date, which the calendar may lack.
* `UtcOffset.startOfDay` is the local midnight at or before an instant.
* `UtcOffset.dayText` is the local calendar day.
-/
import EventRules.Calendar.Instant
namespace EventRules

set_option autoImplicit false

/-- A fixed offset of local time from UTC, in seconds, strictly inside one day. -/
structure UtcOffset where
  seconds : Int
  insideDay : -86400 < seconds ∧ seconds < 86400
  deriving DecidableEq

/-- A date with a time of day: seconds since midnight and nanoseconds, which are
at least 10^9 in a leap second. -/
structure Reading where
  date : Civil
  seconds : Nat
  nanos : Nat
  deriving DecidableEq, Repr

/-- What ends the program, with no answer to whoever called it. -/
inductive Crash where
  /-- The local date of an instant was asked for, and the calendar does not have it. -/
  | dateOutsideCalendar
  deriving DecidableEq, Repr

/-- The wording. -/
def Crash.message : Crash → String
  | dateOutsideCalendar => "the local date lies outside the calendar"

namespace UtcOffset

/-- No offset: local time is UTC. -/
def utc : UtcOffset := ⟨0, by decide⟩

instance : Inhabited UtcOffset := ⟨utc⟩

/-- The offset of a number of seconds, if it is strictly inside one day. -/
def ofSeconds? (seconds : Int) : Option UtcOffset :=
  if insideDay : -86400 < seconds ∧ seconds < 86400 then some ⟨seconds, insideDay⟩ else none

/-- The offset of a number of minutes, if it is strictly inside one day. -/
def ofMinutes? (minutes : Int) : Option UtcOffset :=
  ofSeconds? (60 * minutes)

/-- The local day of an instant, counted from 1970-01-01. -/
def localDay (offset : UtcOffset) (t : Instant) : Int :=
  (t.seconds + offset.seconds) / 86400

/-- The local reading of an instant.  A leap second stays one. -/
def reading (offset : UtcOffset) (t : Instant) : Reading :=
  let seconds := t.seconds + offset.seconds
  ⟨Civil.ofDays (seconds / 86400), (seconds % 86400).toNat, t.nanos⟩

/-- The local calendar day of an instant, as text. -/
def dayText (offset : UtcOffset) (t : Instant) : String :=
  String.ofList (Civil.ofDays (offset.localDay t)).text

/-- The instant at which local time has a reading, if the calendar has both. -/
def instantOf? (offset : UtcOffset) (r : Reading) : Option Instant := do
  let here ← Instant.of? (86400 * r.date.toDays + r.seconds) r.nanos
  here.plusSeconds (-offset.seconds)

/-- The local date of an instant.  To ask for one that the calendar lacks is a crash. -/
def localDate (offset : UtcOffset) (t : Instant) : Except Crash Civil :=
  match Instant.of? (86400 * offset.localDay t) 0 with
  | some _ => .ok (Civil.ofDays (offset.localDay t))
  | none => .error .dateOutsideCalendar

/-- The local midnight at or before an instant; `none` where the calendar has the
local date and not the instant at which it begins. -/
def startOfDay (offset : UtcOffset) (t : Instant) : Except Crash (Option Instant) :=
  match offset.localDate t with
  | .ok date => .ok (offset.instantOf? ⟨date, 0, 0⟩)
  | .error crash => .error crash

end UtcOffset
end EventRules
