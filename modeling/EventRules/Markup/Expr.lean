/-
# EventRules.Markup.Expr -- expressions of message templates

The grammar, weakest binding first: a choice `a if c else b`; `or`; `and`; `not`;
comparisons and `in`; `+` and `-`; `~`; `*`, `/`, `//` and `%`; `**`; a minus sign;
then attributes, items, calls, filters and tests behind an operand.

Every function of the reader takes fuel, and each call it makes has less.
`Expr.read` gives enough for any tokens: a token is passed down the levels of the
grammar at most once before it is taken.
-/
import EventRules.Markup.Datum
namespace EventRules.Markup

set_option autoImplicit false

/-- An operator between two expressions. -/
inductive BinaryOp where
  | add | sub | mul | div | floorDiv | rem | pow | concat
  | eq | ne | lt | le | gt | ge | and | or | contains
  deriving DecidableEq, Repr

/-- An expression. -/
inductive Expr where
  | name (s : String)
  | const (d : Datum)
  | list (items : List Expr)
  | map (entries : List (Expr × Expr))
  | attr (of : Expr) (name : String)
  | item (of key : Expr)
  | slice (of start stop step : Expr)
  | neg (of : Expr)
  | not (of : Expr)
  | binary (op : BinaryOp) (left right : Expr)
  | choice (condition whenTrue whenFalse : Expr)
  | filter (of : Expr) (name : String) (args : List (String × Expr))
  | test (of : Expr) (name : String) (args : List (String × Expr))
  | call (of : Expr) (args : List (String × Expr))
  deriving Inhabited

namespace Expr

/-- Take a given mark. -/
def take (s : String) : List Token → Option (List Token)
  | .mark t :: rest => if s = t then some rest else none
  | _ => none

/-- Take a given name. -/
def takeName (s : String) : List Token → Option (List Token)
  | .name t :: rest => if s = t then some rest else none
  | _ => none

/-- The operator of a comparison at the front of tokens; with `not in` the result
is negated. -/
def comparison? : List Token → Option (BinaryOp × Bool × List Token)
  | .mark "==" :: rest => some (.eq, false, rest)
  | .mark "!=" :: rest => some (.ne, false, rest)
  | .mark "<" :: rest => some (.lt, false, rest)
  | .mark "<=" :: rest => some (.le, false, rest)
  | .mark ">" :: rest => some (.gt, false, rest)
  | .mark ">=" :: rest => some (.ge, false, rest)
  | .name "in" :: rest => some (.contains, false, rest)
  | .name "not" :: .name "in" :: rest => some (.contains, true, rest)
  | _ => none

/-- The operator of a sum at the front of tokens. -/
def sum? : List Token → Option (BinaryOp × Bool × List Token)
  | .mark "+" :: rest => some (.add, false, rest)
  | .mark "-" :: rest => some (.sub, false, rest)
  | _ => none

/-- The operator of a concatenation at the front of tokens. -/
def concat? : List Token → Option (BinaryOp × Bool × List Token)
  | .mark "~" :: rest => some (.concat, false, rest)
  | _ => none

/-- The operator of a product at the front of tokens. -/
def product? : List Token → Option (BinaryOp × Bool × List Token)
  | .mark "*" :: rest => some (.mul, false, rest)
  | .mark "/" :: rest => some (.div, false, rest)
  | .mark "//" :: rest => some (.floorDiv, false, rest)
  | .mark "%" :: rest => some (.rem, false, rest)
  | _ => none

/-- The operator of a power at the front of tokens. -/
def power? : List Token → Option (BinaryOp × Bool × List Token)
  | .mark "**" :: rest => some (.pow, false, rest)
  | _ => none

/-- The word of a conjunction at the front of tokens. -/
def and? : List Token → Option (BinaryOp × Bool × List Token)
  | .name "and" :: rest => some (.and, false, rest)
  | _ => none

/-- The word of a disjunction at the front of tokens. -/
def or? : List Token → Option (BinaryOp × Bool × List Token)
  | .name "or" :: rest => some (.or, false, rest)
  | _ => none

/-- The levels of operators between operands, weakest first. -/
inductive Level where
  | disjunction | conjunction | comparison | sum | concatenation | product | power
  deriving DecidableEq

/-- The operator of a level at the front of tokens. -/
def Level.operator? : Level → List Token → Option (BinaryOp × Bool × List Token)
  | .disjunction => or?
  | .conjunction => and?
  | .comparison => comparison?
  | .sum => sum?
  | .concatenation => concat?
  | .product => product?
  | .power => power?

/-- The constant that a name stands for. -/
def constant? (s : String) : Option Datum :=
  if s = "true" || s = "True" then some (.bool true)
  else if s = "false" || s = "False" then some (.bool false)
  else if s = "none" || s = "None" then some .none
  else none

/-- Whether the token after the name of a test is its argument. -/
def startsArgument : List Token → Bool
  | .name s :: _ => !(["and", "or", "else", "is", "not", "if", "in", "recursive"].contains s)
  | .text _ :: _ => true
  | .number _ :: _ => true
  | .mark "[" :: _ => true
  | .mark "\x7b" :: _ => true
  | _ => false

mutual
/-- An expression with its choices. -/
def expression : Nat → List Token → Option (Expr × List Token)
  | 0, _ => none
  | fuel + 1, tokens => do
      let (e, rest) ← operators fuel .disjunction tokens
      choices fuel e rest

/-- The choices behind an expression. -/
def choices : Nat → Expr → List Token → Option (Expr × List Token)
  | 0, _, _ => none
  | fuel + 1, e, tokens =>
      match takeName "if" tokens with
      | none => some (e, tokens)
      | some rest => do
          let (condition, rest) ← operators fuel .disjunction rest
          match takeName "else" rest with
          | some rest => do
              let (other, rest) ← expression fuel rest
              choices fuel (.choice condition e other) rest
          | none => choices fuel (.choice condition e (.const .undefined)) rest

/-- Operands joined by the operators of a level and of the stronger ones. -/
def operators : Nat → Level → List Token → Option (Expr × List Token)
  | 0, _, _ => none
  | fuel + 1, level, tokens => do
      let (e, rest) ← operand fuel level tokens
      joined fuel level e rest

/-- What follows an operand of a level. -/
def joined : Nat → Level → Expr → List Token → Option (Expr × List Token)
  | 0, _, _, _ => none
  | fuel + 1, level, left, tokens =>
      match level.operator? tokens with
      | none => some (left, tokens)
      | some (op, negated, rest) => do
          let (right, rest) ← operand fuel level rest
          let e := binary op left right
          joined fuel level (if negated then .not e else e) rest

/-- An operand of a level. -/
def operand : Nat → Level → List Token → Option (Expr × List Token)
  | 0, _, _ => none
  | fuel + 1, .disjunction, tokens => operators fuel .conjunction tokens
  | fuel + 1, .conjunction, tokens => negation fuel tokens
  | fuel + 1, .comparison, tokens => operators fuel .sum tokens
  | fuel + 1, .sum, tokens => operators fuel .concatenation tokens
  | fuel + 1, .concatenation, tokens => operators fuel .product tokens
  | fuel + 1, .product, tokens => operators fuel .power tokens
  | fuel + 1, .power, tokens => do
      let (e, rest) ← signed fuel tokens
      behind fuel e rest

/-- Any number of `not` before a comparison. -/
def negation : Nat → List Token → Option (Expr × List Token)
  | 0, _ => none
  | fuel + 1, tokens =>
      match takeName "not" tokens with
      | some rest => (negation fuel rest).map fun (e, rest) => (.not e, rest)
      | none => operators fuel .comparison tokens

/-- Any number of minus signs before a primary expression. -/
def signed : Nat → List Token → Option (Expr × List Token)
  | 0, _ => none
  | fuel + 1, tokens =>
      match take "-" tokens with
      | some rest => (signed fuel rest).map fun (e, rest) => (.neg e, rest)
      | none => primary fuel tokens

/-- A name, a constant, or something in brackets. -/
def primary : Nat → List Token → Option (Expr × List Token)
  | 0, _ => none
  | _ + 1, .name s :: rest =>
      match constant? s with
      | some d => some (.const d, rest)
      | none => some (.name s, rest)
  | _ + 1, .text s :: rest => some (.const (.text s), rest)
  | _ + 1, .number n :: rest => some (.const (.number n), rest)
  | fuel + 1, .mark "(" :: rest =>
      match take ")" rest with
      | some rest => some (.list [], rest)
      | none => do
          let (e, rest) ← expression fuel rest
          match take ")" rest with
          | some rest => some (e, rest)
          | none => do
              let rest ← take "," rest
              let (es, rest) ← itemsTo fuel ")" rest
              some (.list (e :: es), rest)
  | fuel + 1, .mark "[" :: rest => (itemsTo fuel "]" rest).map fun (es, rest) => (.list es, rest)
  | fuel + 1, .mark "\x7b" :: rest => (entriesTo fuel rest).map fun (es, rest) => (.map es, rest)
  | _ + 1, _ => none

/-- Items up to a closing bracket; a comma may stand after the last. -/
def itemsTo : Nat → String → List Token → Option (List Expr × List Token)
  | 0, _, _ => none
  | fuel + 1, closer, tokens =>
      match take closer tokens with
      | some rest => some ([], rest)
      | none => do
          let (e, rest) ← expression fuel tokens
          match take closer rest with
          | some rest => some ([e], rest)
          | none => do
              let rest ← take "," rest
              let (es, rest) ← itemsTo fuel closer rest
              some (e :: es, rest)

/-- Entries of a map up to the closing brace. -/
def entriesTo : Nat → List Token → Option (List (Expr × Expr) × List Token)
  | 0, _ => none
  | fuel + 1, tokens =>
      match take "\x7d" tokens with
      | some rest => some ([], rest)
      | none => do
          let (key, rest) ← expression fuel tokens
          let rest ← take ":" rest
          let (value, rest) ← expression fuel rest
          match take "\x7d" rest with
          | some rest => some ([(key, value)], rest)
          | none => do
              let rest ← take "," rest
              let (es, rest) ← entriesTo fuel rest
              some ((key, value) :: es, rest)

/-- Arguments up to the closing bracket; an argument without a name has the empty
name. -/
def arguments : Nat → List Token → Option (List (String × Expr) × List Token)
  | 0, _ => none
  | fuel + 1, tokens =>
      match take ")" tokens with
      | some rest => some ([], rest)
      | none => do
          let (label, rest) :=
            match tokens with
            | .name s :: .mark "=" :: rest => (s, rest)
            | rest => ("", rest)
          let (e, rest) ← expression fuel rest
          match take ")" rest with
          | some rest => some ([(label, e)], rest)
          | none => do
              let rest ← take "," rest
              let (es, rest) ← arguments fuel rest
              some ((label, e) :: es, rest)

/-- The item or the slice after an opening bracket. -/
def subscript : Nat → Expr → List Token → Option (Expr × List Token)
  | 0, _, _ => none
  | fuel + 1, e, tokens => do
      let (start, rest) ← bound fuel tokens
      match take "]" rest with
      | some rest => start.map fun key => (.item e key, rest)
      | none => do
          let rest ← take ":" rest
          let (stop, rest) ← bound fuel rest
          let (step, rest) ←
            match take ":" rest with
            | some rest => bound fuel rest
            | none => some (none, rest)
          let rest ← take "]" rest
          let nothing := Expr.const .none
          some (.slice e (start.getD nothing) (stop.getD nothing) (step.getD nothing), rest)

/-- A bound of a slice, if one stands there. -/
def bound : Nat → List Token → Option (Option Expr × List Token)
  | 0, _ => none
  | fuel + 1, tokens =>
      match tokens with
      | .mark ":" :: _ => some (none, tokens)
      | .mark "]" :: _ => some (none, tokens)
      | _ => (expression fuel tokens).map fun (e, rest) => (some e, rest)

/-- Attributes, items, calls, filters and tests behind an expression. -/
def behind : Nat → Expr → List Token → Option (Expr × List Token)
  | 0, _, _ => none
  | fuel + 1, e, tokens =>
      match tokens with
      | .mark "." :: .name s :: rest => behind fuel (.attr e s) rest
      | .mark "." :: _ => none
      | .mark "[" :: rest => do
          let (e, rest) ← subscript fuel e rest
          behind fuel e rest
      | .mark "(" :: rest => do
          let (args, rest) ← arguments fuel rest
          behind fuel (.call e args) rest
      | tokens => filters fuel e tokens

/-- Filters and tests behind an expression. -/
def filters : Nat → Expr → List Token → Option (Expr × List Token)
  | 0, _, _ => none
  | fuel + 1, e, tokens =>
      match tokens with
      | .mark "|" :: .name s :: rest => do
          let (args, rest) ←
            match take "(" rest with
            | some rest => arguments fuel rest
            | none => some ([], rest)
          filters fuel (.filter e s args) rest
      | .mark "|" :: _ => none
      | .name "is" :: .name "not" :: .name s :: rest => do
          let (args, rest) ← testArguments fuel rest
          filters fuel (.not (.test e s args)) rest
      | .name "is" :: .name s :: rest => do
          let (args, rest) ← testArguments fuel rest
          filters fuel (.test e s args) rest
      | .name "is" :: _ => none
      | tokens => some (e, tokens)

/-- The arguments of a test: in brackets, or one operand. -/
def testArguments : Nat → List Token → Option (List (String × Expr) × List Token)
  | 0, _ => none
  | fuel + 1, tokens =>
      match take "(" tokens with
      | some rest => arguments fuel rest
      | none =>
          if startsArgument tokens then do
            let (e, rest) ← signed fuel tokens
            let (e, rest) ← behind fuel e rest
            some ([("", e)], rest)
          else some ([], tokens)
end

/-- Enough fuel for tokens. -/
def fuelFor (tokens : List Token) : Nat := 32 * (tokens.length + 1)

/-- Read an expression at the front of tokens. -/
def read (tokens : List Token) : Option (Expr × List Token) := expression (fuelFor tokens) tokens

/-- Read an expression without a choice at the front of tokens. -/
def readPlain (tokens : List Token) : Option (Expr × List Token) :=
  operators (fuelFor tokens) .disjunction tokens

/-- The expression that tokens are as a whole. -/
def whole? (tokens : List Token) : Option Expr :=
  match read tokens with
  | some (e, []) => some e
  | _ => none

end Expr
end EventRules.Markup
