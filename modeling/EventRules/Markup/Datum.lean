/-
# EventRules.Markup.Datum -- the values of message templates

What a template works on is data with one more case: something that is not
there.  `Datum.display` is what is put out: nothing for something that is not
there, `None` and `True` for the constants, a text as it stands.  Inside a list or
a map every datum has its source form, a text in quotes.
-/
import EventRules.Tree
import EventRules.Markup.Token
import EventRules.Text.Printable
namespace EventRules.Markup

set_option autoImplicit false

open Text

/-- A value of a template. -/
inductive Datum where
  /-- Something that is not there. -/
  | undefined
  | none
  | bool (b : Bool)
  | number (n : Numeral)
  | text (s : String)
  | list (items : List Datum)
  | map (entries : List (String × Datum))
  deriving Inhabited

namespace Datum

mutual
/-- A document as a datum. -/
def ofTree : Tree → Datum
  | .null => .none
  | .bool b => .bool b
  | .number n => .number n
  | .text s => .text s
  | .list items => .list (ofTrees items)
  | .map entries => .map (ofEntries entries)

/-- Documents as data. -/
def ofTrees : List Tree → List Datum
  | [] => []
  | t :: rest => ofTree t :: ofTrees rest

/-- Entries of a map as data. -/
def ofEntries : List (String × Tree) → List (String × Datum)
  | [] => []
  | (k, t) :: rest => (k, ofTree t) :: ofEntries rest
end

/-- Inside containers a number with an exponent is written so from 10^16 on. -/
def sourceStyle : NumberStyle := ⟨some (-4, 15), true, false⟩

/-- A number as it is put out, or inside a container. -/
def numeralText (inside : Bool) : Numeral → List Char
  | .int n => ofInt n
  | .double x => x.write (if inside then sourceStyle else NumberStyle.fullMarked)
  | .minusZero => ['-', '0', '.', '0']
  | .infinite false => ['i', 'n', 'f']
  | .infinite true => ['-', 'i', 'n', 'f']
  | .undefined => ['N', 'a', 'N']

/-- A character inside a quoted text. -/
def escape (c : Char) : List Char :=
  if c = '"' then ['\\', '"']
  else if c = '\\' then ['\\', '\\']
  else if c = '\n' then ['\\', 'n']
  else if c = '\r' then ['\\', 'r']
  else if c = '\t' then ['\\', 't']
  else if c = '\x00' then ['\\', '0']
  else if isPrintable c then [c]
  else '\\' :: 'u' :: '\x7b' :: (Nat.toDigits 16 c.toNat ++ ['\x7d'])

/-- A text in quotes. -/
def quoted (s : String) : List Char := '"' :: (s.toList.flatMap escape ++ ['"'])

/-- A scalar as it is put out. -/
def scalarText (inside : Bool) : Datum → List Char
  | .undefined => if inside then "undefined".toList else []
  | .none => "None".toList
  | .bool b => if b then "True".toList else "False".toList
  | .number n => numeralText inside n
  | .text s => if inside then quoted s else s.toList
  | _ => []

mutual
/-- The source form of a datum. -/
def source : Datum → List Char
  | .list items => '[' :: (sourceItems items ++ [']'])
  | .map entries => '\x7b' :: (sourceEntries entries ++ ['\x7d'])
  | .undefined => scalarText true .undefined
  | .none => scalarText true .none
  | .bool b => scalarText true (.bool b)
  | .number n => scalarText true (.number n)
  | .text s => scalarText true (.text s)

/-- The items of a list, separated by commas. -/
def sourceItems : List Datum → List Char
  | [] => []
  | [d] => source d
  | d :: next :: rest => source d ++ ',' :: ' ' :: sourceItems (next :: rest)

/-- The entries of a map, separated by commas. -/
def sourceEntries : List (String × Datum) → List Char
  | [] => []
  | [(k, d)] => quoted k ++ ':' :: ' ' :: source d
  | (k, d) :: next :: rest =>
      quoted k ++ ':' :: ' ' :: (source d ++ ',' :: ' ' :: sourceEntries (next :: rest))
end

/-- What is put out for a datum. -/
def display : Datum → List Char
  | .list items => source (.list items)
  | .map entries => source (.map entries)
  | d => scalarText false d

/-- What is put out for a datum, as a text. -/
def toText (d : Datum) : String := String.ofList d.display

/-- Whether a datum counts as true. -/
def isTrue : Datum → Bool
  | .undefined => false
  | .none => false
  | .bool b => b
  | .number (.int n) => n != 0
  | .number (.double x) => x.units != 0
  | .number .minusZero => false
  | .number _ => true
  | .text s => s != ""
  | .list items => !items.isEmpty
  | .map entries => !entries.isEmpty

/-- The finite number that a number is. -/
def number? : Datum → Option Double
  | .number n => n.toDouble?
  | _ => Option.none

/-- The integer that a datum can serve as. -/
def int? : Datum → Option Int
  | .bool b => some (if b then 1 else 0)
  | .number (.int n) => some n
  | .number (.double x) => if x.isWhole then some x.truncate else Option.none
  | .number .minusZero => some 0
  | _ => Option.none

/-- The number that a datum takes part in comparisons as. -/
def comparable? : Datum → Option Double
  | .bool b => some (Double.ofInt (if b then 1 else 0))
  | .number n => n.toDouble?
  | _ => Option.none

mutual
/-- Whether two data are equal; numbers are compared by their value. -/
def equal : Datum → Datum → Bool
  | .undefined, .undefined => true
  | .none, .none => true
  | .text a, .text b => a == b
  | .list as, .list bs => equalItems as bs
  | .map as, .map bs => as.length == bs.length && equalEntries as bs
  | a, b =>
      match a.comparable?, b.comparable? with
      | some x, some y => x.units == y.units
      | _, _ => false

/-- Whether two lists are equal item by item. -/
def equalItems : List Datum → List Datum → Bool
  | [], [] => true
  | a :: as, b :: bs => equal a b && equalItems as bs
  | _, _ => false

/-- Whether every entry of the first map has an equal one in the second. -/
def equalEntries : List (String × Datum) → List (String × Datum) → Bool
  | [], _ => true
  | (k, a) :: as, bs =>
      match Keyed.get? k bs with
      | some b => equal a b && equalEntries as bs
      | Option.none => false
end

/-- The rank of the kinds of data in the order of all data. -/
def rank : Datum → Nat
  | .undefined => 0
  | .none => 1
  | .bool _ => 2
  | .number _ => 3
  | .text _ => 4
  | .list _ => 6
  | .map _ => 7

/-- The order of two data: numbers by value, texts by code points, else by kind. -/
def order (a b : Datum) : Ordering :=
  match a, b with
  | .text s, .text t => compare s t
  | a, b =>
      match a.comparable?, b.comparable? with
      | some x, some y => compare x.units y.units
      | _, _ => compare a.rank b.rank

/-- The attribute of a datum.  What is not there has none, not even a missing one. -/
def attr (name : String) : Datum → Except Fault Datum
  | .undefined => .error .undefinedValue
  | .map entries => .ok ((Keyed.get? name entries).getD .undefined)
  | _ => .ok .undefined

/-- The item of a datum under a key.  Negative indices count from the end. -/
def item (key : Datum) : Datum → Except Fault Datum
  | .undefined => .error .undefinedValue
  | .map entries =>
      match key with
      | .text name => .ok ((Keyed.get? name entries).getD .undefined)
      | _ => .ok .undefined
  | .list items =>
      match key with
      | .text _ => .ok .undefined
      | key =>
          match key.int? with
          | Option.none => .ok .undefined
          | some n =>
              let index := if n < 0 then n + items.length else n
              if index < 0 then .ok .undefined
              else .ok (items.getD index.toNat .undefined)
  | _ => .ok .undefined

/-- The items that a loop goes through: those of a list, the keys of a map, the
characters of a text; nothing for what is not there. -/
def items? : Datum → Option (List Datum)
  | .undefined => some []
  | .none => some []
  | .list items => some items
  | .map entries => some (entries.map fun e => .text e.1)
  | .text s => some (s.toList.map fun c => .text (String.singleton c))
  | _ => Option.none

end Datum
end EventRules.Markup
