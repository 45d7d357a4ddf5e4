/-
# EventRules.Value.Date -- values that mean an instant

A value means an instant when it is a date, a number -- milliseconds from 1970,
the fraction dropped -- or a text that reads as one.
-/
import EventRules.Value.Basic
import EventRules.Calendar.DateText
namespace EventRules.Value

set_option autoImplicit false

/-- The instant that a value means, local texts read with an offset. -/
def toDate (offset : UtcOffset) : Value → Option Instant
  | .date t => some t
  | .number x => Instant.ofMillis? x.truncate
  | .text s => offset.ofDateText? s
  | _ => none

end EventRules.Value
