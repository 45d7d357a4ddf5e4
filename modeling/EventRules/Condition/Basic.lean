/-
# EventRules.Condition.Basic -- conditions

A condition is a tree of junctions over leaves that compare values, look for a
value among candidates, or ask whether a value is set.  The values are constants
or paths into the context of a change.
-/
import EventRules.Value.Basic
namespace EventRules

set_option autoImplicit false

/-- An operator of a comparison. -/
inductive Comparison where
  | eq | ne | gt | ge | lt | le
  deriving DecidableEq, Repr

/-- What the operands of a comparison are read as. -/
inductive ValueKind where
  | number | string | date
  /-- Numbers where both sides have one, else text. -/
  | auto
  deriving DecidableEq, Repr

/-- An operand: a path into the context or a constant. -/
inductive Operand where
  | path (path : String)
  | constant (value : Value)
  deriving DecidableEq

/-- A condition. -/
inductive Condition where
  | always
  | all (children : List Condition)
  | any (children : List Condition)
  | not (child : Condition)
  | compare (left : Operand) (op : Comparison) (right : Operand) (kind : ValueKind)
  | membership (value : Operand) (candidates : List Operand)
  | isSet (value : Operand)
  | isNotSet (value : Operand)
  deriving Inhabited

namespace Comparison

/-- Every operator with its symbol and its name. -/
def table : List (Comparison × String × String) :=
  [(eq, "==", "eq"), (ne, "!=", "ne"), (gt, ">", "gt"), (ge, ">=", "gte"),
   (lt, "<", "lt"), (le, "<=", "lte")]

/-- Every operator. -/
def everyOne : List Comparison := [eq, ne, gt, ge, lt, le]

/-- The symbol in documents. -/
def symbol : Comparison → String
  | eq => "=="
  | ne => "!="
  | gt => ">"
  | ge => ">="
  | lt => "<"
  | le => "<="

/-- The operator that a symbol or a name stands for. -/
def ofName? (name : String) : Option Comparison :=
  (table.find? fun row => row.2.1 = name || row.2.2 = name).map Prod.fst

end Comparison

namespace ValueKind

/-- Every kind. -/
def everyOne : List ValueKind := [number, string, date, auto]

/-- The name in documents. -/
def name : ValueKind → String
  | number => "number"
  | string => "string"
  | date => "date"
  | auto => "auto"

end ValueKind
end EventRules
