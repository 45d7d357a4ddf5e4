/-
# EventRules.Condition.Holds -- whether a condition holds

A condition is evaluated in a context, which is a value that its paths lead into.
Evaluation never fails: a comparison of something missing does not hold.
Membership asks for equality of values, in which a date is no text.
-/
import EventRules.Condition.Compare
import EventRules.Value.Path
namespace EventRules

set_option autoImplicit false

/-- The value of an operand in a context. -/
def Operand.resolve (context : Value) : Operand → Value
  | .path p => context.lookup p
  | .constant value => value

namespace Condition

mutual
/-- Whether a condition holds in a context, local dates read with an offset. -/
def holds (offset : UtcOffset) (context : Value) : Condition → Bool
  | .always => true
  | .all children => allHold offset context children
  | .any children => anyHolds offset context children
  | .not child => !holds offset context child
  | .compare left op right kind =>
      Value.compares offset kind op (left.resolve context) (right.resolve context)
  | .membership value candidates =>
      candidates.any fun c => c.resolve context = value.resolve context
  | .isSet value => (value.resolve context).isPresent
  | .isNotSet value => !(value.resolve context).isPresent

/-- Whether every condition of a list holds. -/
def allHold (offset : UtcOffset) (context : Value) : List Condition → Bool
  | [] => true
  | c :: rest => holds offset context c && allHold offset context rest

/-- Whether some condition of a list holds. -/
def anyHolds (offset : UtcOffset) (context : Value) : List Condition → Bool
  | [] => false
  | c :: rest => holds offset context c || anyHolds offset context rest
end

end Condition
end EventRules
