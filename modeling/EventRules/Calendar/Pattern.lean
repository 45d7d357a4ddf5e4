/-
# EventRules.Calendar.Pattern -- reading dates by a pattern

A pattern is a sequence of items: date and time fields, a fraction of a second,
blanks, and letters that stand for themselves.  A field is a number of at most
two digits after any blanks; a year has at most four digits, or any number of
them after a sign.  `Pattern.read` reads the items in order and returns what
follows them.

`Fields.reading?` checks the ranges of what was read.  Second 60 is read as a
leap second of any minute.
-/
import EventRules.Calendar.Offset
import EventRules.Text.Blank
namespace EventRules

set_option autoImplicit false

open Text

/-- An item of a pattern. -/
inductive Item where
  | year | month | day | hour | minute | second
  /-- A point with at least one digit, or nothing. -/
  | fraction
  /-- Any blanks, also none. -/
  | blanks
  /-- A character that stands for itself. -/
  | letter (c : Char)
  deriving DecidableEq, Repr

/-- The numbers a pattern has read; what it does not mention is zero. -/
structure Fields where
  year : Int
  month : Nat
  day : Nat
  hour : Nat
  minute : Nat
  second : Nat
  nanos : Nat
  deriving DecidableEq, Repr

namespace Fields

/-- Nothing read yet. -/
def none : Fields := ⟨0, 0, 0, 0, 0, 0, 0⟩

/-- The reading that the fields stand for, if they are in range. -/
def reading? (f : Fields) : Option Reading :=
  let date : Civil := ⟨f.year, f.month, f.day⟩
  if date.Valid ∧ f.hour < 24 ∧ f.minute < 60 ∧ f.second ≤ 60 then
    if f.second = 60 then some ⟨date, 3600 * f.hour + 60 * f.minute + 59, 1000000000 + f.nanos⟩
    else some ⟨date, 3600 * f.hour + 60 * f.minute + f.second, f.nanos⟩
  else Option.none

end Fields

namespace Pattern

/-- A number of one to `width` digits. -/
def number (width : Nat) (chars : List Char) : Option (Nat × List Char) :=
  let (digits, rest) := takeDigits width chars
  if digits.isEmpty then none else some (natOf digits, rest)

/-- A number of any size, at least one digit. -/
def longNumber (chars : List Char) : Option (Nat × List Char) :=
  let (digits, rest) := spanDigits chars
  if digits.isEmpty then none else some (natOf digits, rest)

/-- A year: at most four digits, or a sign and any number of digits. -/
def year : List Char → Option (Int × List Char)
  | '-' :: rest => (longNumber rest).map fun (n, rest) => (-(n : Int), rest)
  | '+' :: rest => (longNumber rest).map fun (n, rest) => ((n : Int), rest)
  | chars => (number 4 chars).map fun (n, rest) => ((n : Int), rest)

/-- The digits of a fraction of a second, in nanoseconds: nine count, further
digits are dropped. -/
def fractionDigits (chars : List Char) : Option (Nat × List Char) :=
  let (digits, rest) := spanDigits chars
  if digits.isEmpty then none
  else
    let kept := digits.take 9
    some (natOf kept * Nat.pow 10 (9 - kept.length), rest)

/-- A fraction of a second after a point, or zero without a point. -/
def fraction : List Char → Option (Nat × List Char)
  | '.' :: rest => fractionDigits rest
  | chars => some (0, chars)

/-- Read one item. -/
def readItem (item : Item) (chars : List Char) (f : Fields) : Option (Fields × List Char) :=
  match item with
  | .year => (year (skipBlanks chars)).map fun (n, rest) => ({ f with year := n }, rest)
  | .month => (number 2 (skipBlanks chars)).map fun (n, rest) => ({ f with month := n }, rest)
  | .day => (number 2 (skipBlanks chars)).map fun (n, rest) => ({ f with day := n }, rest)
  | .hour => (number 2 (skipBlanks chars)).map fun (n, rest) => ({ f with hour := n }, rest)
  | .minute => (number 2 (skipBlanks chars)).map fun (n, rest) => ({ f with minute := n }, rest)
  | .second => (number 2 (skipBlanks chars)).map fun (n, rest) => ({ f with second := n }, rest)
  | .fraction => (fraction chars).map fun (n, rest) => ({ f with nanos := n }, rest)
  | .blanks => some (f, skipBlanks chars)
  | .letter c =>
      match chars with
      | d :: rest => if c = d then some (f, rest) else none
      | [] => none

/-- Read the items in order. -/
def read : List Item → List Char → Fields → Option (Fields × List Char)
  | [], chars, f => some (f, chars)
  | item :: items, chars, f =>
      match readItem item chars f with
      | some (f, rest) => read items rest f
      | none => none

/-- The reading of a text that a pattern matches as a whole. -/
def whole (items : List Item) (chars : List Char) : Option Reading :=
  match read items chars Fields.none with
  | some (f, []) => f.reading?
  | _ => none

/-- Year, month and day joined by hyphens. -/
def date : List Item := [.year, .letter '-', .month, .letter '-', .day]

/-- Hour and minute joined by a colon. -/
def shortTime : List Item := [.hour, .letter ':', .minute]

/-- Hour, minute and second joined by colons, the second with a fraction. -/
def time : List Item := shortTime ++ [.letter ':', .second, .fraction]

end Pattern
end EventRules
