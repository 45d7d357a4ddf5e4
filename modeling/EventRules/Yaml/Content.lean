/-
# EventRules.Yaml.Content -- what the scalars of a document stand for

A plain scalar without a tag may stand for nothing, a truth value or a number;
every other scalar is a text.  Integers may be written in base ten, and with the
letters `0x`, `0o` and `0b` in other bases; digits after a leading zero are text.

`Node.content` is a node with its scalars understood.  A tag that names a type of
its own is an objection, and so is an integer of more than 64 bits.
`Content.toTree` is the tree of a content whose keys are all scalars.
-/
import EventRules.Yaml.Node
import EventRules.Decoding.Basic
namespace EventRules.Yaml

set_option autoImplicit false

open Text

/-- What a scalar stands for. -/
inductive Atom where
  | null
  | bool (b : Bool)
  | number (n : Numeral)
  | text (s : String)
  deriving DecidableEq

namespace Atom

/-- Whether a text is a word for nothing. -/
def isNullWord (s : String) : Bool := ["null", "Null", "NULL", "~"].contains s

/-- The truth value that a word stands for. -/
def boolWord? (s : String) : Option Bool :=
  if ["true", "True", "TRUE"].contains s then some true
  else if ["false", "False", "FALSE"].contains s then some false
  else none

/-- Drop a sign. -/
def unsigned : List Char → List Char
  | '+' :: rest => rest
  | '-' :: rest => rest
  | s => s

/-- Whether a text is digits after a leading zero. -/
def isPaddedDigits (s : List Char) : Bool :=
  match unsigned s with
  | '0' :: c :: rest => (c :: rest).all Char.isDigit
  | _ => false

/-- The number of an unsigned integer in the base that its first letters say. -/
def natural? (s : List Char) : Option Nat :=
  match s with
  | '0' :: 'x' :: digits => natInBase? 16 digits
  | '0' :: 'o' :: digits => natInBase? 8 digits
  | '0' :: 'b' :: digits => natInBase? 2 digits
  | digits => natInBase? 10 digits

/-- The integer that a text is written for. -/
def int? (s : List Char) : Option Int :=
  if isPaddedDigits s then none
  else
    match s with
    | '-' :: rest => (natural? rest).map fun n => -(n : Int)
    | '+' :: rest => (natural? rest).map Int.ofNat
    | s => (natural? s).map Int.ofNat

/-- The infinity that a word stands for. -/
def infinity? (s : String) : Option Bool :=
  if [".inf", ".Inf", ".INF", "+.inf", "+.Inf", "+.INF"].contains s then some false
  else if ["-.inf", "-.Inf", "-.INF"].contains s then some true
  else none

/-- The numeral of a decimal or of a word for a number that is not finite. -/
def float? (s : String) : Option Numeral :=
  match infinity? s with
  | some negative => some (.infinite negative)
  | none =>
      if [".nan", ".NaN", ".NAN"].contains s then some .undefined
      else
        match Decimal.read s.toList with
        | some (d, []) => Numeral.ofDecimal? d
        | _ => none

/-- Whether an integer fits 128 bits, signed or unsigned. -/
def inDoubleWord (n : Int) : Bool := -(Int.pow 2 127) ≤ n && n < Int.pow 2 128

/-- The integer that a text is written for; one of more than 64 and at most 128
bits is an objection. -/
def ofInt? (s : String) : Decoded (Option Atom) :=
  match int? s.toList with
  | none => .ok none
  | some n =>
      if Numeral.inWord n then .ok (some (.number (.int n)))
      else if inDoubleWord n then .error .invalidType
      else .ok none

/-- What a plain scalar without a tag stands for. -/
def ofPlain (s : String) : Decoded Atom :=
  if s.isEmpty || isNullWord s then .ok .null
  else
    match boolWord? s with
    | some b => .ok (.bool b)
    | none => (ofInt? s).map fun found =>
        match found with
        | some n => n
        | none =>
            if isPaddedDigits s.toList then .text s
            else
              match float? s with
              | some n => .number n
              | none => .text s

/-- What a scalar with the tag of a standard type stands for. -/
def ofTagged (tag : String) (s : String) : Decoded Atom :=
  let must := fun (found : Option Atom) =>
    match found with
    | some a => (.ok a : Decoded Atom)
    | none => .error .invalidValue
  if tag = "tag:yaml.org,2002:bool" then must ((boolWord? s).map .bool)
  else if tag = "tag:yaml.org,2002:int" then
    match ofInt? s with
    | .ok found => must found
    | .error e => .error e
  else if tag = "tag:yaml.org,2002:float" then
    must ((float? s).map .number)
  else if tag = "tag:yaml.org,2002:null" then
    must (if isNullWord s then some .null else none)
  else .ok (.text s)

/-- An atom as a leaf. -/
def toTree : Atom → Tree
  | null => .null
  | bool b => .bool b
  | number n => .number n
  | text s => .text s

/-- An atom as a key. -/
def keyText (a : Atom) : String := (Decode.scalarText? a.toTree).getD ""

end Atom

/-- Whether a tag names a type of its own. -/
def isLocalTag (tag : Option String) : Bool :=
  match tag with
  | some tag => tag.startsWith "!"
  | none => false

/-- A node with its scalars understood. -/
inductive Content where
  | atom (a : Atom)
  | list (items : List Content)
  | map (entries : List (Content × Content))

/-- What a scalar stands for. -/
def Scalar.atom (tag : Option String) (s : Scalar) : Decoded Atom :=
  match tag with
  | some tag => if tag.startsWith "!" then .error .other else Atom.ofTagged tag s.text
  | none => if s.style = .plain then Atom.ofPlain s.text else .ok (.text s.text)

mutual
/-- A node with its scalars understood, or the first objection.  Lists and maps may
be nested to at most `depth`. -/
def Node.content (depth : Nat) : Node → Decoded Content
  | .scalar tag s => (s.atom tag).map .atom
  | .list tag items =>
      if isLocalTag tag || depth = 0 then .error .other
      else (contents (depth - 1) items).map .list
  | .map tag entries =>
      if isLocalTag tag || depth = 0 then .error .other
      else (entryContents (depth - 1) entries).map .map
  | .broken => .error .other

/-- Each item with its scalars understood, or the first objection. -/
def contents (depth : Nat) : List Node → Decoded (List Content)
  | [] => .ok []
  | node :: rest =>
      match node.content depth with
      | .error e => .error e
      | .ok a => (contents depth rest).map (a :: ·)

/-- Each entry with its scalars understood, or the first objection. -/
def entryContents (depth : Nat) : List (Node × Node) → Decoded (List (Content × Content))
  | [] => .ok []
  | (key, value) :: rest =>
      match key.content depth with
      | .error e => .error e
      | .ok k =>
          match value.content depth with
          | .error e => .error e
          | .ok v => (entryContents depth rest).map ((k, v) :: ·)
end

namespace Content

/-- The atom of a content that is one. -/
def atom? : Content → Option Atom
  | .atom a => some a
  | _ => none

/-- Whether a content is a map with a single entry. -/
def isSingle : Content → Bool
  | .map [_] => true
  | _ => false

mutual
/-- Whether no scalar is twice a key of one map. -/
def isUnambiguous : Content → Bool
  | .atom _ => true
  | .list items => allUnambiguous items
  | .map entries =>
      decide (entries.filterMap fun e => e.1.atom?).Nodup && entriesUnambiguous entries

/-- Whether this holds of every item. -/
def allUnambiguous : List Content → Bool
  | [] => true
  | a :: rest => a.isUnambiguous && allUnambiguous rest

/-- Whether this holds of every key and every value. -/
def entriesUnambiguous : List (Content × Content) → Bool
  | [] => true
  | (k, v) :: rest => k.isUnambiguous && v.isUnambiguous && entriesUnambiguous rest
end

mutual
/-- Whether the content can be written out as a document again: a map with a single
entry cannot be the key of another such map. -/
def isWritable : Content → Bool
  | .atom _ => true
  | .list items => allWritable items
  | .map [(k, v)] => !k.isSingle && k.isWritable && v.isWritable
  | .map entries => entriesWritable entries

/-- Whether this holds of every item. -/
def allWritable : List Content → Bool
  | [] => true
  | a :: rest => a.isWritable && allWritable rest

/-- Whether this holds of every key and every value. -/
def entriesWritable : List (Content × Content) → Bool
  | [] => true
  | (k, v) :: rest => k.isWritable && v.isWritable && entriesWritable rest
end

mutual
/-- The tree of a content.  A key that is no scalar is an objection. -/
def toTree : Content → Decoded Tree
  | .atom a => .ok a.toTree
  | .list items => (trees items).map .list
  | .map entries => (entryTrees entries).map .map

/-- The trees of all items. -/
def trees : List Content → Decoded (List Tree)
  | [] => .ok []
  | a :: rest =>
      match a.toTree with
      | .error e => .error e
      | .ok t => (trees rest).map (t :: ·)

/-- The entries of a tree. -/
def entryTrees : List (Content × Content) → Decoded (List (String × Tree))
  | [] => .ok []
  | (k, v) :: rest =>
      match k.atom?, v.toTree with
      | none, _ => .error .invalidType
      | some _, .error e => .error e
      | some a, .ok t => (entryTrees rest).map ((a.keyText, t) :: ·)
end

end Content
end EventRules.Yaml
