/-
# EventRules.Markup.Operation -- what operators do with data

Numbers are integers or binary numbers; an operation on two integers is exact,
with a binary number the result is rounded.  Division always gives a binary
number.  Texts and lists can be joined by a plus sign and repeated by a star, and
anything can be joined by a tilde.
-/
import EventRules.Markup.Statement
namespace EventRules

set_option autoImplicit false

namespace Double

/-- The number nearest to a fraction, or an infinity. -/
def rounded (negative : Bool) (numerator denominator : Nat) : Numeral :=
  match nearest negative numerator denominator with
  | some x => .double x
  | none => .infinite negative

/-- The sum, rounded. -/
def plus (x y : Double) : Numeral :=
  let sum := x.units + y.units
  rounded (sum < 0) sum.natAbs unitsPerOne

/-- The product, rounded. -/
def times (x y : Double) : Numeral :=
  let product := x.units * y.units
  rounded (product < 0) product.natAbs (unitsPerOne * unitsPerOne)

/-- The quotient, rounded; by zero an infinity or nothing defined. -/
def dividedBy (x y : Double) : Numeral :=
  if y.units = 0 then
    if x.units = 0 then .undefined else .infinite (x.units < 0)
  else rounded (decide (x.units < 0) != decide (y.units < 0)) x.units.natAbs y.units.natAbs

/-- The quotient rounded down so that the remainder is not negative. -/
def floorOver (x y : Double) : Numeral :=
  let quotient := x.units / y.units
  rounded (quotient < 0) quotient.natAbs 1

/-- The remainder, which is not negative. -/
def remainder (x y : Double) : Numeral :=
  rounded false (x.units % y.units).natAbs unitsPerOne

end Double

namespace Markup.Datum

/-- Two numbers of one kind. -/
inductive Pair where
  | ints (a b : Int)
  | doubles (x y : Double)

/-- The integer of a truth value or an integer. -/
def integer? : Datum → Option Int
  | .bool b => some (if b then 1 else 0)
  | .number (.int n) => some n
  | _ => Option.none

/-- Two data as numbers of one kind. -/
def pair? (a b : Datum) : Option Pair :=
  match a.integer?, b.integer? with
  | some m, some n => some (.ints m n)
  | _, _ =>
      match a.comparable?, b.comparable? with
      | some x, some y => some (.doubles x y)
      | _, _ => Option.none

/-- The integers that an operation on integers can give. -/
def ofInt (n : Int) : Except Fault Datum :=
  if -(Int.pow 2 127) ≤ n ∧ n < Int.pow 2 127 then .ok (.number (.int n)) else .error .badOperand

/-- An operation on two numbers. -/
def arithmetic (onInts : Int → Int → Except Fault Datum) (onDoubles : Double → Double → Numeral)
    (a b : Datum) : Except Fault Datum :=
  match pair? a b with
  | some (.ints m n) => onInts m n
  | some (.doubles x y) => .ok (.number (onDoubles x y))
  | Option.none => .error .badOperand

/-- The sum of two numbers, or two texts or lists one after the other. -/
def plus : Datum → Datum → Except Fault Datum
  | .text s, .text t => .ok (.text (s ++ t))
  | .list as, .list bs => .ok (.list (as ++ bs))
  | a, b => arithmetic (fun m n => ofInt (m + n)) Double.plus a b

/-- Items so many times, one run after the other. -/
def repeated {α : Type} (items : List α) (count : Datum) : Except Fault (List α) :=
  match count.int? with
  | some n => if n < 0 then .error .badOperand else .ok (List.replicate n.toNat items).flatten
  | Option.none => .error .badOperand

/-- The product of two numbers, or a text or a list so many times. -/
def times : Datum → Datum → Except Fault Datum
  | .text s, count => (repeated s.toList count).map fun cs => .text (String.ofList cs)
  | count, .text s => (repeated s.toList count).map fun cs => .text (String.ofList cs)
  | .list items, count => (repeated items count).map .list
  | count, .list items => (repeated items count).map .list
  | a, b => arithmetic (fun m n => ofInt (m * n)) Double.times a b

/-- A power of integers whose exponent is not negative. -/
def intPower (m n : Int) : Except Fault Datum :=
  if n < 0 then .error .badOperand
  else if 128 ≤ n && 2 ≤ m.natAbs then .error .badOperand
  else if 128 ≤ n then ofInt (Int.pow m (n.toNat % 2 + 2))
  else ofInt (Int.pow m n.toNat)

/-- A repeated product, for a power whose exponent is a small whole number. -/
def doublePower (x y : Double) : Numeral :=
  if y.isWhole && 0 ≤ y.truncate && y.truncate ≤ 1024 then
    (List.replicate y.truncate.toNat x).foldl
      (fun found x =>
        match found with
        | .double z => z.times x
        | other => other) (.double (Double.ofInt 1))
  else .undefined

/-- The sign changed. -/
def negated : Datum → Except Fault Datum
  | .number (.int n) => .ok (.number (.int (-n)))
  | .number (.double x) => .ok (.number (if x.units = 0 then .minusZero else .double x.negate))
  | .number .minusZero => .ok (.number (.double Double.zero))
  | .number (.infinite s) => .ok (.number (.infinite !s))
  | _ => .error .badOperand

/-- Whether some part of a text is another. -/
def hasPart (part : List Char) : List Char → Bool
  | [] => part.isEmpty
  | c :: rest => part.isPrefixOf (c :: rest) || hasPart part rest

/-- Whether a container holds something: a text a part, a list an item, a map a
key. -/
def holds (container needle : Datum) : Except Fault Datum :=
  match container with
  | .undefined => .ok (.bool false)
  | .text s => .ok (.bool (hasPart needle.display s.toList))
  | .list items => .ok (.bool (items.any fun d => d.equal needle))
  | .map entries =>
      match needle with
      | .text key => .ok (.bool (Keyed.has key entries))
      | _ => .ok (.bool false)
  | _ => .error .badOperand

/-- What an operator that needs both operands gives. -/
def operate (op : BinaryOp) (a b : Datum) : Except Fault Datum :=
  match op with
  | .add => plus a b
  | .sub =>
      arithmetic (fun m n => ofInt (m - n)) (fun x y => x.plus y.negate) a b
  | .mul => times a b
  | .div =>
      match a.comparable?, b.comparable? with
      | some x, some y => .ok (.number (x.dividedBy y))
      | _, _ => .error .badOperand
  | .floorDiv =>
      arithmetic (fun m n => if n = 0 then .error .badOperand else ofInt (m / n))
        (fun x y => if y.units = 0 then x.dividedBy y else x.floorOver y) a b
  | .rem =>
      arithmetic (fun m n => if n = 0 then .error .badOperand else ofInt (m % n))
        (fun x y => if y.units = 0 then .undefined else x.remainder y) a b
  | .pow => arithmetic intPower doublePower a b
  | .concat => .ok (.text (a.toText ++ b.toText))
  | .eq => .ok (.bool (a.equal b))
  | .ne => .ok (.bool !(a.equal b))
  | .lt => .ok (.bool (a.order b == .lt))
  | .le => .ok (.bool (a.order b != .gt))
  | .gt => .ok (.bool (a.order b == .gt))
  | .ge => .ok (.bool (a.order b != .lt))
  | .contains => holds b a
  | .and => .ok (if a.isTrue then b else a)
  | .or => .ok (if a.isTrue then a else b)

/-- A bound of a slice as a place in a list: negative ones count from the end. -/
def place (length : Nat) (bound : Int) : Nat :=
  if bound < 0 then (bound + length).toNat else min bound.toNat length

/-- Every `step`-th item. -/
def everyNth {α : Type} (step : Nat) : Nat → List α → List α
  | _, [] => []
  | 0, a :: rest => a :: everyNth step (step - 1) rest
  | wait + 1, _ :: rest => everyNth step wait rest

/-- The items between two bounds, by steps. -/
def between {α : Type} (start stop : Option Int) (step : Nat) (items : List α) : List α :=
  let first := (start.map (place items.length)).getD 0
  let last := (stop.map (place items.length)).getD items.length
  everyNth step 0 ((items.take last).drop first)

/-- A bound of a slice: an integer, or none for null. -/
def bound? : Datum → Except Fault (Option Int)
  | .none => .ok Option.none
  | d =>
      match d.int? with
      | some n => .ok (some n)
      | Option.none => .error .badOperand

/-- A slice of a list or a text. -/
def slice (of start stop step : Datum) : Except Fault Datum := do
  let start ← bound? start
  let stop ← bound? stop
  let step ← bound? step
  let step := step.getD 1
  if step ≤ 0 then .error .badOperand
  else
    match of with
    | .undefined => .ok (.list [])
    | .none => .ok (.list [])
    | .list items => .ok (.list (between start stop step.toNat items))
    | .text s => .ok (.text (String.ofList (between start stop step.toNat s.toList)))
    | _ => .error .badOperand

end Markup.Datum
end EventRules
