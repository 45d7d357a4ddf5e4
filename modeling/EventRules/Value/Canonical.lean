/-
# EventRules.Value.Canonical -- canonical text, change, text form

The canonical text of a value is the compact JSON of its document.  Two values
are *canonically equal* when these texts are: key order and the difference
between a date and its stamp do not count.  This is what makes a field changed.

The text form is what a value shows inside a title: nothing for null, a text as
it stands, a number as a person would type it, a container as canonical text.
-/
import EventRules.Value.Basic
import EventRules.Json.Writer
namespace EventRules.Value

set_option autoImplicit false

/-- The canonical text of a value. -/
def canonical (v : Value) : String := Json.write v.toTree

/-- Whether two values have one canonical text. -/
def canonicalEq (a b : Value) : Bool := a.canonical == b.canonical

/-- The text form of a value. -/
def display : Value → String
  | .null => ""
  | .bool b => if b then "true" else "false"
  | .number x => String.ofList x.plain
  | .text s => s
  | .date t => t.millisStamp
  | .list items => canonical (.list items)
  | .object fields => canonical (.object fields)

end EventRules.Value
