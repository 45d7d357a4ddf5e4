/-
# EventRules.Calendar.Instant -- instants and spans

An instant is a count of seconds from 1970-01-01T00:00:00Z and a count of
nanoseconds within the second.  The calendar runs from the year -262143 to the
year 262142.  Nanoseconds from 10^9 on belong to a leap second: such an instant
lies after every other instant of its second and before the next one, so that
instants are ordered by seconds, then nanoseconds.

`Instant.plusSeconds` moves an instant by whole seconds and fails exactly when
the calendar ends before.  A leap second is its own place in time: moving off it
drops the extra second, moving by nothing keeps it.
-/
import EventRules.Calendar.Civil
namespace EventRules

set_option autoImplicit false

/-- An instant of the calendar. -/
structure Instant where
  seconds : Int
  nanos : Nat
  inCalendar : -8334601228800 ≤ seconds ∧ seconds ≤ 8210266876799
  nanos_lt : nanos < 2000000000
  deriving DecidableEq

namespace Instant

/-- The instant with these parts, if the calendar has it. -/
def of? (seconds : Int) (nanos : Nat) : Option Instant :=
  if inCalendar : -8334601228800 ≤ seconds ∧ seconds ≤ 8210266876799 then
    if nanos_lt : nanos < 2000000000 then some ⟨seconds, nanos, inCalendar, nanos_lt⟩ else none
  else none

/-- The start of 1970. -/
def epoch : Instant := ⟨0, 0, by decide, by decide⟩

instance : Inhabited Instant := ⟨epoch⟩

/-- The last instant of the calendar. -/
def last : Instant := ⟨8210266876799, 999999999, by decide, by decide⟩

/-- One instant is not after another. -/
def le (a b : Instant) : Bool :=
  a.seconds < b.seconds || (a.seconds == b.seconds && a.nanos ≤ b.nanos)

/-- Whether the reading is that of a leap second. -/
def isLeap (t : Instant) : Bool := 1000000000 ≤ t.nanos

/-- The seconds and nanoseconds of a reading moved by whole seconds, wherever
the calendar ends. -/
def moved (seconds : Int) (nanos : Nat) (span : Int) : Int × Nat :=
  if 1000000000 ≤ nanos then
    if 0 < span then (seconds + span, nanos - 1000000000)
    else if span < 0 then (seconds + 1 + span, nanos - 1000000000)
    else (seconds, nanos)
  else (seconds + span, nanos)

/-- Move an instant by whole seconds; `none` outside the calendar. -/
def plusSeconds (t : Instant) (span : Int) : Option Instant :=
  let (seconds, nanos) := moved t.seconds t.nanos span
  of? seconds nanos

/-- Move an instant by whole days; `none` outside the calendar. -/
def plusDays (t : Instant) (days : Int) : Option Instant :=
  t.plusSeconds (86400 * days)

/-- Milliseconds from 1970-01-01T00:00:00Z, rounded down. -/
def millis (t : Instant) : Int :=
  t.seconds * 1000 + (t.nanos / 1000000 : Nat)

/-- The instant a count of milliseconds stands for; `none` outside the calendar. -/
def ofMillis? (millis : Int) : Option Instant :=
  of? (millis / 1000) ((millis % 1000).toNat * 1000000)

end Instant
end EventRules
