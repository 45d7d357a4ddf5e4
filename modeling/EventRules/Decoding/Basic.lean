/-
# EventRules.Decoding.Basic -- typed parts of documents

A decoder turns a tree into a typed part or says what it objects to.  What it
accepts depends on the *dialect* of the tree:

* `direct`: a part of a JSON document, where every scalar has its type;
* `buffered`: a part of a condition, which is held until its kind is known;
* `plain`: a part of a rule document, whose scalars are text until a decoder asks
  for something else, so that any scalar is accepted where a text is expected.

A map with named entries is decoded by `Slots`: one slot for each name, each with
its own decoder.  When several things are wrong the fault that stands first in
the document is reported, and a missing entry only when nothing else is wrong, in
the order of the slots.
-/
import EventRules.Tree
namespace EventRules

set_option autoImplicit false

/-- What a decoder objects to. -/
inductive DecodeError where
  | missingField (name : String)
  | unknownField (name : String)
  | unknownVariant (name : String)
  | duplicateField (name : String)
  | invalidType
  | invalidValue
  | invalidLength
  | noVariant
  | other
  deriving DecidableEq, Repr

/-- The wording of an objection, where it has one. -/
def DecodeError.detail : DecodeError → Option String
  | missingField name => some ("missing field `" ++ name ++ "`")
  | unknownField name => some ("unknown field `" ++ name ++ "`")
  | unknownVariant name => some ("unknown variant `" ++ name ++ "`")
  | duplicateField name => some ("duplicate field `" ++ name ++ "`")
  | invalidType => some "invalid type"
  | invalidValue => some "invalid value"
  | invalidLength => some "invalid length"
  | noVariant => some "data did not match any variant of untagged enum"
  | other => none

/-- How the scalars of a tree are to be understood. -/
inductive Dialect where
  | direct | buffered | plain
  deriving DecidableEq, Repr

/-- A decoded part, or what is wrong with it. -/
abbrev Decoded (α : Type) := Except DecodeError α

namespace Decode

open Text

/-- The text of a scalar that was not written as text. -/
def scalarText? : Tree → Option String
  | .null => some "null"
  | .bool true => some "true"
  | .bool false => some "false"
  | .number (.int n) => some (String.ofList (ofInt n))
  | .number (.double x) => some (String.ofList (x.write NumberStyle.scalar))
  | .number .minusZero => some "-0.0"
  | .number (.infinite false) => some ".inf"
  | .number (.infinite true) => some "-.inf"
  | .number .undefined => some ".nan"
  | .text s => some s
  | .list _ => none
  | .map _ => none

/-- A text. -/
def text (d : Dialect) (t : Tree) : Decoded String :=
  match d with
  | .plain =>
      match scalarText? t with
      | some s => .ok s
      | none => .error .invalidType
  | _ =>
      match t with
      | .text s => .ok s
      | _ => .error .invalidType

/-- A truth value. -/
def bool : Tree → Decoded Bool
  | .bool b => .ok b
  | _ => .error .invalidType

/-- A signed integer of 64 bits. -/
def int : Tree → Decoded Int
  | .number (.int n) =>
      if -(Int.pow 2 63) ≤ n ∧ n < Int.pow 2 63 then .ok n
      else if Numeral.inWord n then .error .invalidValue
      else .error .invalidType
  | _ => .error .invalidType

/-- A part that may be null. -/
def optional {α : Type} (part : Tree → Decoded α) : Tree → Decoded (Option α)
  | .null => .ok none
  | t => (part t).map some

/-- Decode each item in turn; the first that fails decides. -/
def each {α : Type} (part : Tree → Decoded α) : List Tree → Decoded (List α)
  | [] => .ok []
  | t :: rest =>
      match part t with
      | .error e => .error e
      | .ok a => (each part rest).map (a :: ·)

/-- A list. -/
def list {α : Type} (part : Tree → Decoded α) : Tree → Decoded (List α)
  | .list items => each part items
  | _ => .error .invalidType

/-- Decode each entry of a map in turn; the first that fails decides. -/
def eachEntry {α : Type} (part : Tree → Decoded α) :
    List (String × Tree) → Decoded (List (String × α))
  | [] => .ok []
  | (k, t) :: rest =>
      match part t with
      | .error e => .error e
      | .ok a => (eachEntry part rest).map ((k, a) :: ·)

/-- A map whose entries are all alike. -/
def entries {α : Type} (part : Tree → Decoded α) : Tree → Decoded (List (String × α))
  | .map es => eachEntry part es
  | _ => .error .invalidType

/-- The choice that a name stands for. -/
def choiceOf {α : Type} (known : String → Option α) (name : String) : Decoded α :=
  match known name with
  | some a => .ok a
  | none => .error (.unknownVariant name)

/-- One of several named choices: its name, or a map from its name to nothing. -/
def choice {α : Type} (known : String → Option α) (d : Dialect) (t : Tree) : Decoded α :=
  match d with
  | .plain =>
      match scalarText? t with
      | some name => choiceOf known name
      | none => .error .invalidType
  | .direct =>
      match t with
      | .text name => choiceOf known name
      | .map ((name, held) :: rest) =>
          match choiceOf known name, held, rest with
          | .ok a, .null, [] => .ok a
          | .ok _, .null, _ :: _ => .error .other
          | .ok _, _, _ => .error .invalidType
          | .error e, _, _ => .error e
      | _ => .error .other
  | .buffered =>
      match t with
      | .text name => choiceOf known name
      | .map [(name, held)] =>
          match choiceOf known name, held with
          | .ok a, .null => .ok a
          | .ok a, .map [] => .ok a
          | .ok _, _ => .error .invalidType
          | .error e, _ => .error e
      | .map _ => .error .invalidValue
      | _ => .error .invalidType

/-- The choice among values with names. -/
def named {α : Type} (values : List α) (name : α → String) (s : String) : Option α :=
  values.find? fun a => name a = s

/-- The choice among values with names, any other name standing for `rest`. -/
def namedOr {α : Type} (values : List α) (name : α → String) (rest : α) (s : String) : Option α :=
  some ((named values name s).getD rest)

end Decode

/-- What is wrong with the entries of a map. -/
inductive Fault where
  /-- An objection to the entry at a place. -/
  | entry (place : Nat) (error : DecodeError)
  /-- A missing entry. -/
  | missing (name : String)
  deriving DecidableEq, Repr

namespace Fault

/-- Of two faults the one that stands first; missing entries come last. -/
def first : Fault → Fault → Fault
  | entry i e, entry j f => if j < i then entry j f else entry i e
  | missing _, entry j f => entry j f
  | a, missing _ => a

/-- The objection. -/
def error : Fault → DecodeError
  | entry _ e => e
  | missing name => .missingField name

/-- The first entry that has no slot, when all need one, or that repeats a name. -/
def stray (closed : Bool) (names : List String) :
    Nat → List String → List (String × Tree) → Option Fault
  | _, _, [] => none
  | place, seen, (k, _) :: rest =>
      if names.contains k then
        if seen.contains k then some (entry place (.duplicateField k))
        else stray closed names (place + 1) (k :: seen) rest
      else if closed then some (entry place (.unknownField k))
      else stray closed names (place + 1) seen rest

end Fault

/-- Named parts of a map, read in one go.  The same parts may also stand in a list
in the order of the slots. -/
structure Slots (α : Type) where
  names : List String
  ofEntries : List (String × Tree) → Except Fault α
  ofItems : List Tree → Decoded (α × List Tree)

namespace Slots

/-- The first entry of a name, with its place. -/
def find (name : String) : Nat → List (String × Tree) → Option (Nat × Tree)
  | _, [] => none
  | place, (k, t) :: rest => if k = name then some (place, t) else find name (place + 1) rest

/-- No slots. -/
def none {α : Type} (a : α) : Slots α where
  names := []
  ofEntries _ := .ok a
  ofItems items := .ok (a, items)

/-- Decode the tree in a slot. -/
def decodeAt {α : Type} (part : Tree → Decoded α) (place : Nat) (t : Tree) : Except Fault α :=
  match part t with
  | .ok a => .ok a
  | .error e => .error (.entry place e)

/-- A slot that must be filled. -/
def required {α : Type} (name : String) (part : Tree → Decoded α) : Slots α where
  names := [name]
  ofEntries es :=
    match find name 0 es with
    | some (place, t) => decodeAt part place t
    | .none => .error (.missing name)
  ofItems
    | [] => .error .invalidLength
    | t :: rest => (part t).map fun a => (a, rest)

/-- A slot that stands for `default` when it is not filled. -/
def withDefault {α : Type} (default : α) (name : String) (part : Tree → Decoded α) : Slots α where
  names := [name]
  ofEntries es :=
    match find name 0 es with
    | some (place, t) => decodeAt part place t
    | .none => .ok default
  ofItems
    | [] => .ok (default, [])
    | t :: rest => (part t).map fun a => (a, rest)

/-- A slot that may be missing or null. -/
def optional {α : Type} (name : String) (part : Tree → Decoded α) : Slots (Option α) :=
  withDefault Option.none name (Decode.optional part)

/-- One more slot: it fills the next argument. -/
def and {α β : Type} (slots : Slots (α → β)) (slot : Slots α) : Slots β where
  names := slots.names ++ slot.names
  ofEntries es :=
    match slots.ofEntries es, slot.ofEntries es with
    | .ok f, .ok a => .ok (f a)
    | .error e, .ok _ => .error e
    | .ok _, .error e => .error e
    | .error e, .error e' => .error (e.first e')
  ofItems items :=
    match slots.ofItems items with
    | .error e => .error e
    | .ok (f, rest) => (slot.ofItems rest).map fun (a, rest) => (f a, rest)

/-- Decode the entries of a map. -/
def decodeEntries {α : Type} (slots : Slots α) (closed : Bool) (es : List (String × Tree)) :
    Decoded α :=
  match slots.ofEntries es, Fault.stray closed slots.names 0 [] es with
  | .ok a, .none => .ok a
  | .ok _, some fault => .error fault.error
  | .error fault, .none => .error fault.error
  | .error fault, some other => .error (fault.first other).error

/-- Decode the items of a list, where no item may be left over. -/
def decodeItems {α : Type} (slots : Slots α) (leftOver : DecodeError) (items : List Tree) :
    Decoded α :=
  match slots.ofItems items with
  | .ok (a, []) => .ok a
  | .ok (_, _ :: _) => .error leftOver
  | .error e => .error e

/-- Decode a map, or a list where the dialect allows one. -/
def decode {α : Type} (slots : Slots α) (closed : Bool) (d : Dialect) (t : Tree) : Decoded α :=
  match t with
  | .map es => slots.decodeEntries closed es
  | .list items =>
      match d with
      | .direct => slots.decodeItems .other items
      | .buffered => slots.decodeItems .invalidLength items
      | .plain => .error .invalidType
  | _ => .error .invalidType

end Slots
end EventRules
