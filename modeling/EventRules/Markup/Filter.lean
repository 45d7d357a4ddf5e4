/-
# EventRules.Markup.Filter -- filters, tests and functions

A filter changes the datum before it, a test asks about it, a function stands for
itself.  `round` writes a number with a number of decimal places, a tie going to
the even neighbour; `upper` and `lower` change the text form of anything; `env`
reads a variable of the environment, which is the empty text when it is not set.
-/
import EventRules.Markup.Operation
import EventRules.Settings
namespace EventRules.Markup

set_option autoImplicit false

open Text

/-- Arguments with their names; the empty name for one without. -/
abbrev Arguments := List (String × Datum)

namespace Arguments

/-- The arguments, when none of them has a name. -/
def plain? (args : Arguments) : Except Fault (List Datum) :=
  if args.all fun a => a.1 = "" then .ok (args.map Prod.snd) else .error .badArgument

end Arguments

namespace Filter

/-- A text as a datum. -/
def textOf (chars : List Char) : Except Fault Datum := .ok (.text (String.ofList chars))

/-- The number of decimal places that an argument asks for. -/
def places? : List Datum → Option Nat
  | [] => some 0
  | [.undefined] => some 0
  | [.none] => some 0
  | [d] => d.int?.bind fun n => if 0 ≤ n ∧ n < Int.pow 2 32 then some n.toNat else none
  | _ => none

/-- A number with a number of decimal places. -/
def round (d : Datum) (args : List Datum) : Except Fault Datum :=
  match places? args, d with
  | none, _ => .error .badArgument
  | some _, .number (.infinite negative) => textOf (Datum.numeralText false (.infinite negative))
  | some _, .number .undefined => textOf (Datum.numeralText false .undefined)
  | some places, .number .minusZero => textOf ('-' :: Double.zero.fixed places)
  | some places, d =>
      match d.number? with
      | some x => textOf (x.fixed places)
      | none => .error .badArgument

/-- A text cut at every place where another stands. -/
def cut (mark : List Char) : Nat → List Char → List Char → List (List Char)
  | 0, found, _ => [found.reverse]
  | _ + 1, found, [] => [found.reverse]
  | fuel + 1, found, c :: rest =>
      if mark.isPrefixOf (c :: rest) then
        found.reverse :: cut mark fuel [] ((c :: rest).drop mark.length)
      else cut mark fuel (c :: found) rest

/-- The pieces of a text between the places where another stands. -/
def pieces (mark s : List Char) : List (List Char) :=
  if mark.isEmpty then [s] else cut mark (s.length + 1) [] s

/-- Texts one after the other with another between them. -/
def joined (mark : List Char) (items : List (List Char)) : List Char :=
  List.intercalate mark items

/-- The first letter of every word upper, all others lower. -/
def titleCase : Bool → List Char → List Char
  | _, [] => []
  | start, c :: rest =>
      let letter := c.isAlphanum || 128 ≤ c.toNat
      let mapped := if start then upper (String.singleton c) else lower (String.singleton c)
      mapped.toList ++ titleCase (!letter) rest

/-- The markup characters of a text written as entities. -/
def escapeMarkup (c : Char) : List Char :=
  if c = '<' then "&lt;".toList
  else if c = '>' then "&gt;".toList
  else if c = '&' then "&amp;".toList
  else if c = '"' then "&quot;".toList
  else if c = '\'' then "&#x27;".toList
  else if c = '/' then "&#x2f;".toList
  else [c]

/-- The items of a datum that can be gone through. -/
def itemsOf (d : Datum) : Except Fault (List Datum) :=
  match d.items? with
  | some items => .ok items
  | none => .error .badOperand

/-- The items in ascending order. -/
def sorted (items : List Datum) : List Datum :=
  items.mergeSort fun a b => a.order b != .gt

/-- The items without those that are equal to an earlier one. -/
def distinct : List Datum → List Datum → List Datum
  | _, [] => []
  | seen, d :: rest =>
      if seen.any fun s => s.equal d then distinct seen rest else d :: distinct (d :: seen) rest

/-- The length of a text, a list or a map. -/
def length : Datum → Except Fault Datum
  | .text s => .ok (.number (.int s.length))
  | .list items => .ok (.number (.int items.length))
  | .map entries => .ok (.number (.int entries.length))
  | _ => .error .badOperand

/-- A datum as an integer. -/
def toInt : Datum → Except Fault Datum
  | .undefined => .ok (.number (.int 0))
  | .none => .ok (.number (.int 0))
  | .text s =>
      match Double.ofText? s.toList with
      | some x => .ok (.number (.int x.truncate))
      | none => .error .badOperand
  | .number (.double x) => .ok (.number (.int x.truncate))
  | d =>
      match d.int? with
      | some n => .ok (.number (.int n))
      | none => .error .badOperand

/-- A datum as a binary number. -/
def toFloat : Datum → Except Fault Datum
  | .undefined => .ok (.number (.double Double.zero))
  | .none => .ok (.number (.double Double.zero))
  | .text s =>
      match Double.ofText? s.toList with
      | some x => .ok (.number (.double x))
      | none => .error .badOperand
  | d =>
      match d.comparable? with
      | some x => .ok (.number (.double x))
      | none => .error .badOperand

/-- The absolute value of a number. -/
def magnitude : Datum → Except Fault Datum
  | .number (.int n) => .ok (.number (.int n.natAbs))
  | .number (.double x) => .ok (.number (.double (if x.units < 0 then x.negate else x)))
  | _ => .error .badOperand

/-- A text with every occurrence of another replaced. -/
def replaced (s old new : List Char) : List Char :=
  if old.isEmpty then s else joined new (pieces old s)

/-- A text without the given characters at both ends. -/
def trimmed (drop : Char → Bool) (s : List Char) : List Char :=
  ((s.dropWhile drop).reverse.dropWhile drop).reverse

/-- The names of all filters. -/
def known : List String :=
  ["round", "upper", "lower", "length", "count", "default", "d", "trim", "join", "first",
   "last", "reverse", "list", "sort", "unique", "min", "max", "sum", "abs", "int", "float",
   "bool", "string", "safe", "escape", "e", "title", "capitalize", "replace", "split",
   "lines", "items"]

/-- A datum, or something else when it is not there. -/
def orElse (d other : Datum) : Datum :=
  match d with
  | .undefined => other
  | d => d

/-- Something else for what is not there, or also for what counts as false. -/
def withDefault (d : Datum) : List Datum → Except Fault Datum
  | [] => .ok (orElse d (.text ""))
  | [other] => .ok (orElse d other)
  | [other, all] => .ok (if all.isTrue && !d.isTrue then other else orElse d other)
  | _ => .error .badArgument

/-- The items of a datum as one text. -/
def join (mark : List Char) (d : Datum) : Except Fault Datum := do
  textOf (joined mark ((← itemsOf d).map Datum.display))

/-- Apply a filter to a datum. -/
def apply (name : String) (d : Datum) (arguments : Arguments) : Except Fault Datum := do
  let args ← arguments.plain?
  match name, args with
  | "round", args => round d args
  | "upper", [] => .ok (.text (upper d.toText))
  | "lower", [] => .ok (.text (lower d.toText))
  | "length", [] => length d
  | "count", [] => length d
  | "default", args => withDefault d args
  | "d", args => withDefault d args
  | "trim", [] => textOf (trimChars d.display)
  | "trim", [drop] => textOf (trimmed (fun c => drop.display.contains c) d.display)
  | "join", [] => join [] d
  | "join", [mark] => join mark.display d
  | "first", [] => return (← itemsOf d).headD .undefined
  | "last", [] => return (← itemsOf d).getLastD .undefined
  | "reverse", [] =>
      match d with
      | .text s => textOf s.toList.reverse
      | d => return .list (← itemsOf d).reverse
  | "list", [] => return .list (← itemsOf d)
  | "sort", [] => return .list (sorted (← itemsOf d))
  | "unique", [] => return .list (distinct [] (← itemsOf d))
  | "min", [] => return (sorted (← itemsOf d)).headD .undefined
  | "max", [] => return (sorted (← itemsOf d)).getLastD .undefined
  | "sum", [] => (← itemsOf d).foldlM Datum.plus (.number (.int 0))
  | "abs", [] => magnitude d
  | "int", [] => toInt d
  | "float", [] => toFloat d
  | "bool", [] => .ok (.bool d.isTrue)
  | "string", [] => .ok (.text d.toText)
  | "safe", [] => .ok (.text d.toText)
  | "escape", [] => textOf (d.display.flatMap escapeMarkup)
  | "e", [] => textOf (d.display.flatMap escapeMarkup)
  | "title", [] => textOf (titleCase true d.display)
  | "capitalize", [] =>
      match d.display with
      | [] => .ok (.text "")
      | c :: rest =>
          .ok (.text (upper (String.singleton c) ++ lower (String.ofList rest)))
  | "replace", [old, new] => textOf (replaced d.display old.display new.display)
  | "split", [] =>
      .ok (.list ((d.display.splitOnP isBlank).filterMap fun p =>
        if p.isEmpty then none else some (.text (String.ofList p))))
  | "split", [mark] =>
      .ok (.list ((pieces mark.display d.display).map fun p => .text (String.ofList p)))
  | "lines", [] =>
      .ok (.list ((pieces ['\n'] d.display).map fun p => .text (String.ofList p)))
  | "items", [] =>
      match d with
      | .map entries => .ok (.list (entries.map fun e => .list [.text e.1, e.2]))
      | _ => .error .badOperand
  | name, _ => .error (if known.contains name then .badArgument else .unknownFilter name)

end Filter

namespace Test

/-- The tests that compare with an argument. -/
def comparison? (name : String) : Option BinaryOp :=
  if ["eq", "equalto", "=="].contains name then some .eq
  else if ["ne", "!="].contains name then some .ne
  else if ["lt", "lessthan", "<"].contains name then some .lt
  else if ["le", "<="].contains name then some .le
  else if ["gt", "greaterthan", ">"].contains name then some .gt
  else if ["ge", ">="].contains name then some .ge
  else none

/-- Whether the kind of a datum is the one that a test asks for. -/
def kind? (name : String) (d : Datum) : Option Bool :=
  match name, d with
  | "defined", .undefined => some false
  | "defined", _ => some true
  | "undefined", .undefined => some true
  | "undefined", _ => some false
  | "none", .none => some true
  | "none", _ => some false
  | "boolean", .bool _ => some true
  | "boolean", _ => some false
  | "true", .bool b => some b
  | "true", _ => some false
  | "false", .bool b => some !b
  | "false", _ => some false
  | "number", .number _ => some true
  | "number", _ => some false
  | "integer", .number (.int _) => some true
  | "integer", _ => some false
  | "float", .number (.int _) => some false
  | "float", .number _ => some true
  | "float", _ => some false
  | "string", .text _ => some true
  | "string", _ => some false
  | "sequence", .list _ => some true
  | "sequence", _ => some false
  | "mapping", .map _ => some true
  | "mapping", _ => some false
  | "iterable", d => some d.items?.isSome
  | "safe", _ => some false
  | "escaped", _ => some false
  | "filter", d => some (Filter.known.contains d.toText)
  | _, _ => none

/-- Ask a test about a datum. -/
def apply (name : String) (d : Datum) (arguments : Arguments) : Except Fault Datum := do
  let args ← arguments.plain?
  match kind? name d, args with
  | some answer, [] => .ok (.bool answer)
  | some _, _ => .error .badArgument
  | none, args =>
      match comparison? name, args with
      | some op, [other] => Datum.operate op d other
      | some _, _ => .error .badArgument
      | none, args =>
          match name, args with
          | "odd", [] => return .bool (d.int?.any fun n => n % 2 == 1)
          | "even", [] => return .bool (d.int?.any fun n => n % 2 == 0)
          | "divisibleby", [other] =>
              match d.int?, other.int? with
              | some m, some n => return .bool (n != 0 && m % n == 0)
              | _, _ => return .bool false
          | "in", [container] => Datum.holds container d
          | "startingwith", [lead] => return .bool (lead.display.isPrefixOf d.display)
          | "endingwith", [trail] => return .bool (trail.display.isSuffixOf d.display)
          | "lower", [] => return .bool (lower d.toText == d.toText)
          | "upper", [] => return .bool (upper d.toText == d.toText)
          | "sameas", [other] => return .bool (d.equal other)
          | "test", [] => return .bool ((kind? d.toText .undefined).isSome)
          | name, _ => .error (.unknownTest name)

end Test

namespace Function

/-- The integers from one to below another. -/
def rangeOf (start stop step : Int) : Nat → List Datum
  | 0 => []
  | fuel + 1 =>
      if start < stop then .number (.int start) :: rangeOf (start + step) stop step fuel else []

/-- A list of integers, of at most a hundred thousand. -/
def range (start stop step : Int) : Except Fault Datum :=
  if step ≤ 0 || 100000 * step < stop - start then .error .badArgument
  else .ok (.list (rangeOf start stop step 100001))

/-- Call a function. -/
def apply (env : Environment) (name : String) (arguments : Arguments) : Except Fault Datum := do
  let args ← arguments.plain?
  match name, args with
  | "env", [key] => .ok (.text ((Keyed.get? key.toText env).getD ""))
  | "env", _ => .error .badArgument
  | "range", args =>
      match args.mapM Datum.int? with
      | some [stop] => range 0 stop 1
      | some [start, stop] => range start stop 1
      | some [start, stop, step] => range start stop step
      | _ => .error .badArgument
  | name, _ => .error (.unknownFunction name)

end Function
end EventRules.Markup
