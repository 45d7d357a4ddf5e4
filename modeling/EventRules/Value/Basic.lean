/-
# EventRules.Value.Basic -- field values and records

A record is an open map from field keys to values: nothing says beforehand which
fields it has.  Values are JSON data with one more case, a date that is already
an instant.  The keys of a record ascend, so two records with the same content
are equal however their fields arrived.

A value is *present* unless it is null or the empty text: `false`, zero and empty
containers are present.

`Value.ofTree` takes a document in, sorting maps and rounding numbers;
`Value.toTree` writes whole numbers below 2^53 as integers and dates as text.
-/
import EventRules.Tree
import EventRules.Calendar.Stamp
namespace EventRules

set_option autoImplicit false

/-- A field value. -/
inductive Value where
  | null
  | bool (b : Bool)
  | number (x : Double)
  | text (s : String)
  | date (t : Instant)
  | list (items : List Value)
  | object (fields : List (String × Value))
  deriving Inhabited

/-- An open record: its fields, keys ascending. -/
abbrev Record := List (String × Value)

namespace Value

mutual
/-- Equality of values is decided by going down both. -/
def decEq : (a b : Value) → Decidable (a = b)
  | .null, .null => isTrue rfl
  | .bool a, .bool b => decidable_of_iff (a = b) (by simp)
  | .number a, .number b => decidable_of_iff (a = b) (by simp)
  | .text a, .text b => decidable_of_iff (a = b) (by simp)
  | .date a, .date b => decidable_of_iff (a = b) (by simp)
  | .list a, .list b => have := decEqItems a b; decidable_of_iff (a = b) (by simp)
  | .object a, .object b => have := decEqFields a b; decidable_of_iff (a = b) (by simp)
  | .null, .bool _ => isFalse nofun
  | .null, .number _ => isFalse nofun
  | .null, .text _ => isFalse nofun
  | .null, .date _ => isFalse nofun
  | .null, .list _ => isFalse nofun
  | .null, .object _ => isFalse nofun
  | .bool _, .null => isFalse nofun
  | .bool _, .number _ => isFalse nofun
  | .bool _, .text _ => isFalse nofun
  | .bool _, .date _ => isFalse nofun
  | .bool _, .list _ => isFalse nofun
  | .bool _, .object _ => isFalse nofun
  | .number _, .null => isFalse nofun
  | .number _, .bool _ => isFalse nofun
  | .number _, .text _ => isFalse nofun
  | .number _, .date _ => isFalse nofun
  | .number _, .list _ => isFalse nofun
  | .number _, .object _ => isFalse nofun
  | .text _, .null => isFalse nofun
  | .text _, .bool _ => isFalse nofun
  | .text _, .number _ => isFalse nofun
  | .text _, .date _ => isFalse nofun
  | .text _, .list _ => isFalse nofun
  | .text _, .object _ => isFalse nofun
  | .date _, .null => isFalse nofun
  | .date _, .bool _ => isFalse nofun
  | .date _, .number _ => isFalse nofun
  | .date _, .text _ => isFalse nofun
  | .date _, .list _ => isFalse nofun
  | .date _, .object _ => isFalse nofun
  | .list _, .null => isFalse nofun
  | .list _, .bool _ => isFalse nofun
  | .list _, .number _ => isFalse nofun
  | .list _, .text _ => isFalse nofun
  | .list _, .date _ => isFalse nofun
  | .list _, .object _ => isFalse nofun
  | .object _, .null => isFalse nofun
  | .object _, .bool _ => isFalse nofun
  | .object _, .number _ => isFalse nofun
  | .object _, .text _ => isFalse nofun
  | .object _, .date _ => isFalse nofun
  | .object _, .list _ => isFalse nofun

/-- Equality of lists of values. -/
def decEqItems : (a b : List Value) → Decidable (a = b)
  | [], [] => isTrue rfl
  | [], _ :: _ => isFalse nofun
  | _ :: _, [] => isFalse nofun
  | a :: as, b :: bs =>
      have := decEq a b
      have := decEqItems as bs
      decidable_of_iff (a = b ∧ as = bs) (by simp)

/-- Equality of lists of fields. -/
def decEqFields : (a b : List (String × Value)) → Decidable (a = b)
  | [], [] => isTrue rfl
  | [], _ :: _ => isFalse nofun
  | _ :: _, [] => isFalse nofun
  | (j, a) :: as, (k, b) :: bs =>
      have := decEq a b
      have := decEqFields as bs
      decidable_of_iff (j = k ∧ a = b ∧ as = bs) (by simp [and_assoc])
end

instance : DecidableEq Value := decEq

/-- Whether a value is null. -/
def isNull : Value → Bool
  | .null => true
  | _ => false

/-- Whether a value counts as set: all but null and the empty text do. -/
def isPresent : Value → Bool
  | .null => false
  | .text s => s != ""
  | _ => true

/-- The text of a text value. -/
def text? : Value → Option String
  | .text s => some s
  | _ => none

/-- The fields of an object. -/
def object? : Value → Option Record
  | .object fields => some fields
  | _ => none

mutual
/-- The value of a document.  A number that is not finite is null. -/
def ofTree : Tree → Value
  | .null => .null
  | .bool b => .bool b
  | .number n =>
      match n.toDouble? with
      | some x => .number x
      | none => .null
  | .text s => .text s
  | .list items => .list (ofTrees items)
  | .map entries => .object (Keyed.ofList (ofEntries entries))

/-- The values of a list of documents. -/
def ofTrees : List Tree → List Value
  | [] => []
  | t :: rest => ofTree t :: ofTrees rest

/-- The values of the entries of a map. -/
def ofEntries : List (String × Tree) → List (String × Value)
  | [] => []
  | (k, t) :: rest => (k, ofTree t) :: ofEntries rest
end

/-- The numeral of a number: whole numbers below 2^53 are integers. -/
def numeral (x : Double) : Numeral :=
  if x.isWhole && x.truncate.natAbs < Nat.pow 2 53 then .int x.truncate else .double x

mutual
/-- A value as a document. -/
def toTree : Value → Tree
  | .null => .null
  | .bool b => .bool b
  | .number x => .number (numeral x)
  | .text s => .text s
  | .date t => .text t.millisStamp
  | .list items => .list (toTrees items)
  | .object fields => .map (toEntries fields)

/-- Values as documents. -/
def toTrees : List Value → List Tree
  | [] => []
  | v :: rest => toTree v :: toTrees rest

/-- Fields as entries of a map. -/
def toEntries : List (String × Value) → List (String × Tree)
  | [] => []
  | (k, v) :: rest => (k, toTree v) :: toEntries rest
end

end Value

/-- The record of a document: its fields if it is a map, else no fields. -/
def Record.ofTree (t : Tree) : Record :=
  ((Value.ofTree t).object?).getD []

end EventRules
