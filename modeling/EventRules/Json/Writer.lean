/-
# EventRules.Json.Writer -- trees as JSON text

`Json.write` is the compact text: no blanks, map entries in the order of the
tree.  A text escapes only the quote, the backslash and the control characters
below U+0020.  Binary numbers are written in the canonical style, and a number
that JSON cannot hold as null.

`Json.pretty` is the same text with each item on a line of its own.
-/
import EventRules.Tree
namespace EventRules.Json

set_option autoImplicit false

open Text

/-- A character inside a quoted text. -/
def escape (c : Char) : List Char :=
  if c = '"' then ['\\', '"']
  else if c = '\\' then ['\\', '\\']
  else if c = '\n' then ['\\', 'n']
  else if c = '\r' then ['\\', 'r']
  else if c = '\t' then ['\\', 't']
  else if c = '\x08' then ['\\', 'b']
  else if c = '\x0c' then ['\\', 'f']
  else if c.toNat < 32 then '\\' :: 'u' :: hexPadded 4 c.toNat
  else [c]

/-- A text in quotes. -/
def quoted (s : String) : List Char :=
  '"' :: (s.toList.flatMap escape ++ ['"'])

/-- A number. -/
def numeral : Numeral → List Char
  | .int n => ofInt n
  | .double x => x.write NumberStyle.canonical
  | .minusZero => ['-', '0', '.', '0']
  | .infinite _ => ['n', 'u', 'l', 'l']
  | .undefined => ['n', 'u', 'l', 'l']

/-- A scalar. -/
def leaf : Tree → List Char
  | .bool true => ['t', 'r', 'u', 'e']
  | .bool false => ['f', 'a', 'l', 's', 'e']
  | .number n => numeral n
  | .text s => quoted s
  | _ => ['n', 'u', 'l', 'l']

mutual
/-- The compact text of a tree. -/
def chars : Tree → List Char
  | .list items => '[' :: (itemChars items ++ [']'])
  | .map entries => '\x7b' :: (entryChars entries ++ ['\x7d'])
  | .null => leaf .null
  | .bool b => leaf (.bool b)
  | .number n => leaf (.number n)
  | .text s => leaf (.text s)

/-- The items of a list, separated by commas. -/
def itemChars : List Tree → List Char
  | [] => []
  | [t] => chars t
  | t :: next :: rest => chars t ++ ',' :: itemChars (next :: rest)

/-- The entries of a map, separated by commas. -/
def entryChars : List (String × Tree) → List Char
  | [] => []
  | [(k, t)] => quoted k ++ ':' :: chars t
  | (k, t) :: next :: rest => quoted k ++ ':' :: (chars t ++ ',' :: entryChars (next :: rest))
end

/-- The compact text of a tree. -/
def write (t : Tree) : String := String.ofList (chars t)

/-- A new line, indented by two blanks a level. -/
def newLine (level : Nat) : List Char := '\n' :: List.replicate (2 * level) ' '

mutual
/-- The text of a tree with one item a line, at a level of indentation. -/
def prettyChars (level : Nat) : Tree → List Char
  | .list [] => ['[', ']']
  | .list (t :: rest) => '[' :: (prettyItems (level + 1) (t :: rest) ++ newLine level ++ [']'])
  | .map [] => ['\x7b', '\x7d']
  | .map (e :: rest) =>
      '\x7b' :: (prettyEntries (level + 1) (e :: rest) ++ newLine level ++ ['\x7d'])
  | .null => leaf .null
  | .bool b => leaf (.bool b)
  | .number n => leaf (.number n)
  | .text s => leaf (.text s)

/-- The items of a list, each on its line. -/
def prettyItems (level : Nat) : List Tree → List Char
  | [] => []
  | [t] => newLine level ++ prettyChars level t
  | t :: next :: rest =>
      newLine level ++ prettyChars level t ++ ',' :: prettyItems level (next :: rest)

/-- The entries of a map, each on its line. -/
def prettyEntries (level : Nat) : List (String × Tree) → List Char
  | [] => []
  | [(k, t)] => newLine level ++ quoted k ++ ':' :: ' ' :: prettyChars level t
  | (k, t) :: next :: rest =>
      newLine level ++ quoted k ++ ':' :: ' ' :: prettyChars level t ++
        ',' :: prettyEntries level (next :: rest)
end

/-- The text of a tree with one item a line. -/
def pretty (t : Tree) : String := String.ofList (prettyChars 0 t)

end EventRules.Json
