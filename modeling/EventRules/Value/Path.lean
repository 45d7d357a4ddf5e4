/-
# EventRules.Value.Path -- values inside values

A path is a text of segments joined by points, as in `after.customer.name` or
`members.0.id`.  Objects are descended by key, lists by index.  What does not
resolve is null, and so is the empty path.
-/
import EventRules.Value.Basic
import EventRules.Text.Blank
namespace EventRules

set_option autoImplicit false

open Text

namespace Path

/-- The pieces of a text between points. -/
def split : List Char → List (List Char)
  | [] => [[]]
  | c :: rest =>
      if c = '.' then [] :: split rest
      else
        match split rest with
        | first :: more => (c :: first) :: more
        | [] => [[c]]

/-- The segments of a path, blanks around it dropped; none for an empty path. -/
def segments (path : String) : List String :=
  let chars := trimChars path.toList
  if chars.isEmpty then [] else (split chars).map String.ofList

/-- The index that a segment names: digits, with a plus sign if any, that fit 64
bits. -/
def index? (segment : String) : Option Nat :=
  let digits :=
    match segment.toList with
    | '+' :: rest => rest
    | chars => chars
  match natInBase? 10 digits with
  | some n => if n < Nat.pow 2 64 then some n else none
  | none => none

end Path

namespace Value

/-- One step down: the field or the item that a segment names. -/
def child (segment : String) : Value → Value
  | .object fields => (Keyed.get? segment fields).getD .null
  | .list items =>
      match Path.index? segment with
      | some i => items.getD i .null
      | none => .null
  | _ => .null

/-- Go down along segments. -/
def descend (segments : List String) (v : Value) : Value :=
  segments.foldl (fun v segment => v.child segment) v

/-- The value that a path leads to; null when it does not resolve. -/
def lookup (v : Value) (path : String) : Value :=
  match Path.segments path with
  | [] => .null
  | segments => v.descend segments

end Value
end EventRules
