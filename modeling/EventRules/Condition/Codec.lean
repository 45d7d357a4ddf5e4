/-
# EventRules.Condition.Codec -- conditions in documents

A condition is a map whose entry `type` names its kind; the other entries are the
parts of that kind, and entries that the kind does not have are passed over.  The
kind is looked for first, whatever its place.  An operand is a map with a text
under `path` or with anything under `const`.

`Condition.encode` writes every part out, operators by their symbol.
-/
import EventRules.Condition.Basic
import EventRules.Decoding.Basic
namespace EventRules

set_option autoImplicit false

namespace Operand

/-- The tree under a name that stands exactly once. -/
def only? (name : String) (es : List (String × Tree)) : Option Tree :=
  match es.filter fun e => e.1 = name with
  | [(_, t)] => some t
  | _ => none

/-- Decode an operand. -/
def decode : Tree → Decoded Operand
  | .map es =>
      match only? "path" es with
      | some (.text p) => .ok (.path p)
      | _ =>
          match only? "const" es with
          | some t => .ok (.constant (Value.ofTree t))
          | none => .error .noVariant
  | .list [.text p] => .ok (.path p)
  | .list [t] => .ok (.constant (Value.ofTree t))
  | _ => .error .noVariant

/-- An operand as a document. -/
def encode : Operand → Tree
  | .path p => .map [("path", .text p)]
  | .constant value => .map [("const", value.toTree)]

end Operand

namespace Condition

/-- The kind of a condition. -/
inductive Kind where
  | always | all | any | not | compare | membership | isSet | isNotSet
  deriving DecidableEq, Repr

/-- Every kind, in the order of their numbers. -/
def Kind.everyOne : List Kind :=
  [.always, .all, .any, .not, .compare, .membership, .isSet, .isNotSet]

/-- The name in documents. -/
def Kind.name : Kind → String
  | .always => "always"
  | .all => "and"
  | .any => "or"
  | .not => "not"
  | .compare => "compare"
  | .membership => "membership"
  | .isSet => "is_set"
  | .isNotSet => "is_not_set"

/-- Decode the name of a kind.  Inside another condition its number serves too. -/
def Kind.decode (d : Dialect) (t : Tree) : Decoded Kind :=
  match d with
  | .buffered =>
      match t with
      | .number (.int n) =>
          if n < 0 then .error .invalidType
          else
            match Kind.everyOne[n.toNat]? with
            | some kind => .ok kind
            | none => .error .invalidValue
      | .text name => Decode.choiceOf (Decode.named Kind.everyOne Kind.name) name
      | _ => .error .invalidType
  | d =>
      match Decode.text d t with
      | .ok name => Decode.choiceOf (Decode.named Kind.everyOne Kind.name) name
      | .error e => .error e

/-- The parts of a kind, where `child` decodes a condition inside. -/
def slots (child : Tree → Decoded Condition) : Kind → Slots Condition
  | .always => Slots.none .always
  | .all => (Slots.none Condition.all).and (Slots.withDefault [] "children" (Decode.list child))
  | .any => (Slots.none Condition.any).and (Slots.withDefault [] "children" (Decode.list child))
  | .not => (Slots.none Condition.not).and (Slots.required "child" child)
  | .compare =>
      (Slots.none Condition.compare)
        |>.and (Slots.required "left" Operand.decode)
        |>.and (Slots.required "op" (Decode.choice Comparison.ofName? .buffered))
        |>.and (Slots.required "right" Operand.decode)
        |>.and (Slots.withDefault .auto "value_kind"
          (Decode.choice (Decode.named ValueKind.everyOne ValueKind.name) .buffered))
  | .membership =>
      (Slots.none Condition.membership)
        |>.and (Slots.required "value" Operand.decode)
        |>.and (Slots.required "candidates" (Decode.list Operand.decode))
  | .isSet => (Slots.none Condition.isSet).and (Slots.required "value" Operand.decode)
  | .isNotSet => (Slots.none Condition.isNotSet).and (Slots.required "value" Operand.decode)

/-- The kind that the entries of a map name. -/
def kindOf (d : Dialect) (es : List (String × Tree)) : Decoded Kind :=
  match es.filter fun e => e.1 = "type" with
  | [] => .error (.missingField "type")
  | (_, t) :: again =>
      match Kind.decode d t with
      | .error e => .error e
      | .ok kind => if again.isEmpty then .ok kind else .error (.duplicateField "type")

/-- Decode a condition whose children are decoded by `child`. -/
def decodeWith (child : Tree → Decoded Condition) (d : Dialect) : Tree → Decoded Condition
  | .map es =>
      match kindOf d es with
      | .error e => .error e
      | .ok kind => (slots child kind).decodeEntries false (es.filter fun e => e.1 ≠ "type")
  | .list [] => .error (.missingField "type")
  | .list (t :: rest) =>
      match Kind.decode d t with
      | .error e => .error e
      | .ok kind => (slots child kind).decodeItems .invalidLength rest
  | _ => .error .invalidType

/-- Decode a condition that is nested to at most `depth`. -/
def decodeTo : Nat → Dialect → Tree → Decoded Condition
  | 0, _, _ => .error .other
  | depth + 1, d, t => decodeWith (decodeTo depth .buffered) d t

/-- Decode a condition.  No tree holds conditions nested deeper than itself. -/
def decode (d : Dialect) (t : Tree) : Decoded Condition :=
  decodeTo (t.depth + 1) d t

mutual
/-- A condition as a document. -/
def encode : Condition → Tree
  | .always => .map [("type", .text "always")]
  | .all children => .map [("type", .text "and"), ("children", .list (encodeAll children))]
  | .any children => .map [("type", .text "or"), ("children", .list (encodeAll children))]
  | .not child => .map [("type", .text "not"), ("child", encode child)]
  | .compare left op right kind =>
      .map [("type", .text "compare"), ("left", left.encode), ("op", .text op.symbol),
        ("right", right.encode), ("value_kind", .text kind.name)]
  | .membership value candidates =>
      .map [("type", .text "membership"), ("value", value.encode),
        ("candidates", .list (candidates.map Operand.encode))]
  | .isSet value => .map [("type", .text "is_set"), ("value", value.encode)]
  | .isNotSet value => .map [("type", .text "is_not_set"), ("value", value.encode)]

/-- Conditions as documents. -/
def encodeAll : List Condition → List Tree
  | [] => []
  | c :: rest => encode c :: encodeAll rest
end

end Condition
end EventRules
