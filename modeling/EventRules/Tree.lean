/-
# EventRules.Tree -- documents as trees

A document, a write or a stored event arrives as a tree of scalars, lists and
maps.  Maps keep the order of their entries and also a repeated key, so that a
decoder can object to what it meets first.

A numeral is what a number is written as: an integer of any size, a finite
binary number, or one of the forms that no field value can have -- a negative
zero, an infinity, an undefined number.
-/
import EventRules.Number.Style
import EventRules.Keyed
namespace EventRules

set_option autoImplicit false

/-- A number as it is written. -/
inductive Numeral where
  | int (n : Int)
  | double (x : Double)
  | minusZero
  | infinite (negative : Bool)
  | undefined
  deriving DecidableEq

/-- A document: scalars, lists and maps. -/
inductive Tree where
  | null
  | bool (b : Bool)
  | number (n : Numeral)
  | text (s : String)
  | list (items : List Tree)
  | map (entries : List (String × Tree))
  deriving Inhabited

namespace Numeral

/-- Whether an integer fits 64 bits, signed or unsigned. -/
def inWord (n : Int) : Bool := -(Int.pow 2 63) ≤ n && n < Int.pow 2 64

/-- The finite number a numeral denotes, if it denotes one. -/
def toDouble? : Numeral → Option Double
  | .int n => some (Double.ofInt n)
  | .double x => some x
  | .minusZero => some Double.zero
  | .infinite _ => none
  | .undefined => none

/-- The numeral of a decimal that has a fraction or an exponent; `none` when it
is too large. -/
def ofDecimal? (d : Decimal) : Option Numeral :=
  d.toDouble?.map fun x => if x = Double.zero && d.negative then .minusZero else .double x

end Numeral

namespace Tree

/-- A text leaf. -/
def ofText (s : String) : Tree := .text s

/-- An integer leaf. -/
def ofInt (n : Int) : Tree := .number (.int n)

/-- A leaf that is null when the value is unset. -/
def ofOption {α : Type} (leaf : α → Tree) : Option α → Tree
  | some a => leaf a
  | none => .null

/-- The entry of a map under a key; null when there is none, and for a tree that
is no map. -/
def entry (key : String) : Tree → Tree
  | .map entries => (Keyed.get? key entries).getD .null
  | _ => .null

/-- The text of a text leaf. -/
def text? : Tree → Option String
  | .text s => some s
  | _ => none

/-- The items of a list. -/
def list? : Tree → Option (List Tree)
  | .list items => some items
  | _ => none

/-- The entries of a map. -/
def map? : Tree → Option (List (String × Tree))
  | .map entries => some entries
  | _ => none

/-- The integer of an integer leaf. -/
def int? : Tree → Option Int
  | .number (.int n) => some n
  | _ => none

mutual
/-- The tree as data that is only carried along: maps sorted, and null for every
number that is not finite. -/
def carried : Tree → Tree
  | .number (.infinite _) => .null
  | .number .undefined => .null
  | .list items => .list (carriedItems items)
  | .map entries => .map (Keyed.ofList (carriedEntries entries))
  | leaf => leaf

/-- Every item of a list, as data that is only carried along. -/
def carriedItems : List Tree → List Tree
  | [] => []
  | t :: rest => t.carried :: carriedItems rest

/-- Every entry of a map, its value as data that is only carried along. -/
def carriedEntries : List (String × Tree) → List (String × Tree)
  | [] => []
  | (k, t) :: rest => (k, t.carried) :: carriedEntries rest
end

mutual
/-- How deep containers are nested in a tree; a scalar has depth zero. -/
def depth : Tree → Nat
  | .list items => depthItems items + 1
  | .map entries => depthEntries entries + 1
  | _ => 0

/-- The greatest depth of the items of a list. -/
def depthItems : List Tree → Nat
  | [] => 0
  | t :: rest => max t.depth (depthItems rest)

/-- The greatest depth of the values of a map. -/
def depthEntries : List (String × Tree) → Nat
  | [] => 0
  | (_, t) :: rest => max t.depth (depthEntries rest)
end

end Tree
end EventRules
