/-
# EventRules.Condition.Compare -- reading and comparing operands

Before two values are compared each is read as a number or a text, as the kind of
the comparison says; a value that cannot be read so has no measure, and then no
comparison holds.  Two numbers are compared as numbers, anything else as text in
the order of code points.
-/
import EventRules.Condition.Basic
import EventRules.Value.Canonical
import EventRules.Value.Date
namespace EventRules

set_option autoImplicit false

open Text

/-- What an operand is compared by. -/
inductive Measure where
  | number (x : Double)
  | text (s : String)
  deriving DecidableEq

namespace Measure

/-- The text of a measure. -/
def display : Measure → String
  | number x => String.ofList x.plain
  | text s => s

/-- The order of two measures. -/
def order : Measure → Measure → Ordering
  | number x, number y => compare x.units y.units
  | a, b => compare a.display b.display

end Measure

namespace Comparison

/-- Whether an operator accepts an order of its operands. -/
def accepts : Comparison → Ordering → Bool
  | eq, o => o == .eq
  | ne, o => o != .eq
  | gt, o => o == .gt
  | ge, o => o != .lt
  | lt, o => o == .lt
  | le, o => o != .gt

end Comparison

namespace Value

/-- The number that a text denotes, blanks around it dropped. -/
def numberOfText? (s : String) : Option Double :=
  Double.ofText? (trimChars s.toList)

/-- The milliseconds of an instant as a number. -/
def millisNumber (t : Instant) : Double := Double.ofInt t.millis

/-- The number that a value is read as. -/
def toNumber? : Value → Option Double
  | .number x => some x
  | .text s => numberOfText? s
  | .bool b => some (Double.ofInt (if b then 1 else 0))
  | .date t => some (millisNumber t)
  | _ => none

/-- The measure of a value when nothing says whether it is a number. -/
def autoMeasure : Value → Measure
  | .number x => .number x
  | .date t => .number (millisNumber t)
  | .text s =>
      match numberOfText? s with
      | some x => .number x
      | none => .text s
  | v => .text v.display

/-- The measure of a value in a comparison of a kind; null has none. -/
def measure? (offset : UtcOffset) (kind : ValueKind) (v : Value) : Option Measure :=
  if v.isNull then none
  else
    match kind with
    | .number => v.toNumber?.map .number
    | .string => some (.text v.display)
    | .date => (v.toDate offset).map fun t => .number (millisNumber t)
    | .auto => some v.autoMeasure

/-- Whether a comparison of two values holds. -/
def compares (offset : UtcOffset) (kind : ValueKind) (op : Comparison) (left right : Value) :
    Bool :=
  match left.measure? offset kind, right.measure? offset kind with
  | some l, some r => op.accepts (l.order r)
  | _, _ => false

end Value
end EventRules
