/-
# EventRules.Calendar.DateText -- text that means an instant

Three kinds of text mean an instant.

* A strict stamp (`Instant.ofStrictStamp?`) is what RFC 3339 lays down: a year of
  four digits, two digits for every other field, `T`, `t` or a space before the
  time, and a zone that is `Z`, `z` or a signed `hh:mm`.
* A loose stamp (`Instant.ofStamp?`) is what stored events and clocks are read
  from: years may have a sign and more digits, fields fewer, blanks may stand
  before fields and separators, and the zone may be `UTC` or lack its colon.
* A local text (`UtcOffset.ofLocalText?`) has no zone and is read in local time;
  without a time of day it means midnight.

`UtcOffset.ofDateText?` takes a strict stamp or else a local text, both trimmed:
this is how the text of a record is read as a date.
-/
import EventRules.Calendar.Pattern
namespace EventRules

set_option autoImplicit false

open Text

namespace Zone

/-- Exactly two digits. -/
def twoDigits : List Char → Option (Nat × List Char)
  | a :: b :: rest =>
      if a.isDigit && b.isDigit then some (natOf [a, b], rest) else none
  | _ => none

/-- Hours and minutes after the sign, with what `separator` skips between them. -/
def hoursMinutes (separator : List Char → Option (List Char)) (chars : List Char) :
    Option (Nat × List Char) := do
  let (hours, rest) ← twoDigits chars
  let rest ← separator rest
  let (minutes, rest) ← twoDigits rest
  if minutes < 60 then some (3600 * hours + 60 * minutes, rest) else none

/-- A zone: `Z` or `z`, or a sign with hours and minutes. -/
def read (separator : List Char → Option (List Char)) : List Char → Option (Int × List Char)
  | [] => none
  | c :: rest =>
      if c = 'Z' || c = 'z' then some (0, rest)
      else if c = '+' then
        (hoursMinutes separator rest).map fun (n, rest) => ((n : Int), rest)
      else if c = '-' || c = '\u2212' then
        (hoursMinutes separator rest).map fun (n, rest) => (-(n : Int), rest)
      else none

/-- Skip one colon. -/
def colon : List Char → Option (List Char)
  | ':' :: rest => some rest
  | _ => none

/-- Skip any colons and blanks. -/
def colonsAndBlanks (chars : List Char) : Option (List Char) :=
  some (chars.dropWhile fun c => c == ':' || isBlank c)

/-- A zone with blanks before it: `UTC` in any case of its letters, or a zone
whose separator may be missing. -/
def readLoose (chars : List Char) : Option (Int × List Char) :=
  let chars := skipBlanks chars
  if (chars.take 3).map Char.toLower = ['u', 't', 'c'] then some (0, chars.drop 3)
  else read colonsAndBlanks chars

end Zone

namespace Instant

/-- The instant of a reading in a zone of a number of seconds.  A leap second
stays one. -/
def ofZoned? (r : Reading) (zone : Int) : Option Instant := do
  let offset ← UtcOffset.ofSeconds? zone
  of? (86400 * r.date.toDays + r.seconds - offset.seconds) r.nanos

/-- One of the characters that may stand before the time of day. -/
def timeMark : List Char → Option (List Char)
  | c :: rest => if c = 'T' || c = 't' || c = ' ' then some rest else none
  | [] => none

/-- A field of exactly `width` digits. -/
def exactly (width : Nat) (chars : List Char) : Option (Nat × List Char) :=
  let (digits, rest) := takeDigits width chars
  if digits.length = width then some (natOf digits, rest) else none

/-- Skip one given character. -/
def skip (c : Char) : List Char → Option (List Char)
  | d :: rest => if c = d then some rest else none
  | [] => none

/-- The instant that a strict stamp means. -/
def ofStrictStamp? (chars : List Char) : Option Instant := do
  let (year, rest) ← exactly 4 chars
  let (month, rest) ← exactly 2 (← skip '-' rest)
  let (day, rest) ← exactly 2 (← skip '-' rest)
  let (hour, rest) ← exactly 2 (← timeMark rest)
  let (minute, rest) ← exactly 2 (← skip ':' rest)
  let (second, rest) ← exactly 2 (← skip ':' rest)
  let (nanos, rest) ← Pattern.fraction rest
  let (zone, rest) ← Zone.read Zone.colon rest
  let r ← Fields.reading? ⟨year, month, day, hour, minute, second, nanos⟩
  if rest.isEmpty then ofZoned? r zone else none

/-- The date of a loose stamp. -/
def looseDate : List Item :=
  [.year, .blanks, .letter '-', .month, .blanks, .letter '-', .day]

/-- The time of day of a loose stamp. -/
def looseTime : List Item :=
  [.hour, .blanks, .letter ':', .minute, .blanks, .letter ':', .second, .fraction]

/-- The instant that a loose stamp means. -/
def ofStampChars? (chars : List Char) : Option Instant := do
  let (f, rest) ← Pattern.read looseDate chars Fields.none
  let (f, rest) ← Pattern.read looseTime (← timeMark rest) f
  let (zone, rest) ← Zone.readLoose rest
  let r ← f.reading?
  if (skipBlanks rest).isEmpty then ofZoned? r zone else none

/-- The instant that a loose stamp means. -/
def ofStamp? (s : String) : Option Instant := ofStampChars? s.toList

end Instant

namespace UtcOffset

/-- The patterns of local texts, in the order in which they are tried. -/
def localPatterns : List (List Item) :=
  [Pattern.date ++ .letter 'T' :: Pattern.time,
   Pattern.date ++ .blanks :: Pattern.time,
   Pattern.date ++ .letter 'T' :: Pattern.shortTime,
   Pattern.date ++ .blanks :: Pattern.shortTime,
   Pattern.date]

/-- The instant that a local text means: the first pattern that matches decides. -/
def ofLocalText? (offset : UtcOffset) (chars : List Char) : Option Instant := do
  let r ← localPatterns.findSome? fun items => Pattern.whole items chars
  offset.instantOf? r

/-- The instant that the text of a record means: a strict stamp, else a local
text, blanks around it dropped. -/
def ofDateText? (offset : UtcOffset) (s : String) : Option Instant :=
  let chars := trimChars s.toList
  match Instant.ofStrictStamp? chars with
  | some t => some t
  | none => offset.ofLocalText? chars

end UtcOffset
end EventRules
