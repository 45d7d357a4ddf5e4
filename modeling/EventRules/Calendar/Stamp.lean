/-
# EventRules.Calendar.Stamp -- instants as text

The stamp of an instant is its UTC date and time with a `Z`, the seconds with a
fraction of 0, 3, 6 or 9 digits.  `Instant.stamp` takes the fewest digits that
are exact; `Instant.millisStamp`, the form dates have inside values, always takes
three and drops what is finer.  A leap second is written as second 60.
-/
import EventRules.Calendar.Offset
namespace EventRules.Instant

set_option autoImplicit false

open Text

/-- A point and the leading `places` digits of a fraction in nanoseconds; nothing
for no places. -/
def fractionText (places nanos : Nat) : List Char :=
  if places = 0 then [] else '.' :: padded places (nanos / Nat.pow 10 (9 - places))

/-- The fewest places, by threes, that write a fraction exactly. -/
def exactPlaces (nanos : Nat) : Nat :=
  if nanos = 0 then 0
  else if nanos % 1000000 = 0 then 3
  else if nanos % 1000 = 0 then 6
  else 9

/-- The time of day of a reading, with `places` digits of the fraction. -/
def timeText (places : Nat) (r : Reading) : List Char :=
  let leap := 1000000000 ≤ r.nanos
  let nanos := if leap then r.nanos - 1000000000 else r.nanos
  let second := r.seconds % 60 + (if leap then 1 else 0)
  padded 2 (r.seconds / 3600) ++ ':' :: padded 2 (r.seconds / 60 % 60) ++
    ':' :: padded 2 second ++ fractionText places nanos

/-- The stamp with a given number of digits of the fraction. -/
def stampWith (places : Nat) (t : Instant) : List Char :=
  let r := UtcOffset.utc.reading t
  r.date.text ++ 'T' :: timeText places r ++ ['Z']

/-- The stamp with the fewest digits of the fraction that are exact. -/
def stamp (t : Instant) : String :=
  String.ofList (stampWith (exactPlaces (t.nanos % 1000000000)) t)

/-- The stamp with three digits of the fraction, finer ones dropped. -/
def millisStamp (t : Instant) : String :=
  String.ofList (stampWith 3 t)

end EventRules.Instant
