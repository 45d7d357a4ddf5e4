/-
# EventRules.Markup.Token -- message templates as parts and tokens

A message template is text with tags: `{{ … }}` puts out an expression, `{% … %}`
is a statement, `{# … #}` is a comment.  A minus sign inside a tag
drops the blanks on that side of it.  One line end at the end of the template
does not count.

`Part.scan` cuts a template into text and tags, and the tags into tokens.  Inside
brackets the two characters that close a tag are brackets like any other.
-/
import EventRules.Tree
import EventRules.Text.Blank
namespace EventRules.Markup

set_option autoImplicit false

open Text

/-- Why a template has no text. -/
inductive Fault where
  /-- The template is no template. -/
  | malformed
  /-- Something was asked of a value that is not there. -/
  | undefinedValue
  | unknownFilter (name : String)
  | unknownTest (name : String)
  | unknownFunction (name : String)
  /-- An operation on values that do not have it. -/
  | badOperand
  /-- A filter or a function was given something it does not take. -/
  | badArgument
  /-- Another template is needed, and there is none. -/
  | missingTemplate
  deriving DecidableEq, Repr

/-- A token inside a tag. -/
inductive Token where
  | name (s : String)
  | text (s : String)
  | number (n : Numeral)
  /-- An operator or a punctuation mark. -/
  | mark (s : String)
  deriving DecidableEq

/-- A part of a template. -/
inductive Part where
  | text (chars : List Char)
  /-- An expression to put out. -/
  | output (tokens : List Token)
  /-- A statement. -/
  | statement (tokens : List Token)
  deriving DecidableEq

namespace Token

/-- Whether a character may start a name. -/
def startsName (c : Char) : Bool := c.isAlpha || c = '_'

/-- Whether a character may stand in a name. -/
def inName (c : Char) : Bool := c.isAlphanum || c = '_'

/-- The character of an escape of one letter. -/
def escapeChar? (c : Char) : Option Char :=
  if c = '"' || c = '\\' || c = '/' || c = '\'' then some c
  else if c = 'b' then some '\x08'
  else if c = 'f' then some '\x0c'
  else if c = 'n' then some '\n'
  else if c = 'r' then some '\r'
  else if c = 't' then some '\t'
  else none

/-- Read a quoted text up to its closing quote. -/
def quoted (quote : Char) : List Char → Option (List Char × List Char)
  | [] => none
  | '\\' :: 'u' :: a :: b :: c :: d :: rest => do
      let unit ← natInBase? 16 [a, b, c, d]
      if 0xD800 ≤ unit && unit < 0xE000 then none
      else
        let (s, rest) ← quoted quote rest
        some (Char.ofNat unit :: s, rest)
  | '\\' :: c :: rest => do
      let ch ← escapeChar? c
      let (s, rest) ← quoted quote rest
      some (ch :: s, rest)
  | c :: rest =>
      if c = quote then some ([], rest)
      else (quoted quote rest).map fun (s, rest) => (c :: s, rest)

/-- Leading characters that may stand in a number, underscores dropped. -/
def digitRun (digit : Char → Bool) (chars : List Char) : List Char × List Char :=
  ((chars.takeWhile fun c => digit c || c = '_').filter (· ≠ '_'),
   chars.dropWhile fun c => digit c || c = '_')

/-- The numeral of an integer in a base. -/
def based (base : Nat) (digit : Char → Bool) (chars : List Char) : Option (Token × List Char) :=
  let (digits, rest) := digitRun digit chars
  (natInBase? base digits).map fun n => (number (.int n), rest)

/-- Read a number that starts with a digit. -/
def numeral (chars : List Char) : Option (Token × List Char) :=
  match chars with
  | '0' :: 'x' :: rest => based 16 (fun c => (hexValue? c).isSome) rest
  | '0' :: 'o' :: rest => based 8 Char.isDigit rest
  | '0' :: 'b' :: rest => based 2 Char.isDigit rest
  | chars =>
      let (whole, rest) := digitRun Char.isDigit chars
      let (fraction, rest, point) :=
        match rest with
        | '.' :: tail =>
            let (digits, tail') := digitRun Char.isDigit tail
            if digits.isEmpty then ([], rest, false) else (digits, tail', true)
        | tail => ([], tail, false)
      let (exponent, rest') := Decimal.readExponent rest
      if point || rest'.length ≠ rest.length then
        (Numeral.ofDecimal? ⟨false, natOf (whole ++ fraction), exponent - fraction.length⟩).map
          fun n => (number n, rest')
      else some (number (.int (natOf whole)), rest)

/-- The marks of two characters. -/
def longMarks : List (List Char) :=
  [['/', '/'], ['*', '*'], ['=', '='], ['!', '='], ['>', '='], ['<', '=']]

/-- The marks of one character. -/
def shortMarks : List Char :=
  ['+', '-', '*', '/', '%', '<', '>', '=', '~', '|', '.', ',', ':', '(', ')', '[', ']',
   '\x7b', '\x7d']

/-- Read one token. -/
def read? (chars : List Char) : Option (Token × List Char) :=
  match chars with
  | [] => none
  | c :: rest =>
      if startsName c then
        some (name (String.ofList (chars.takeWhile inName)), chars.dropWhile inName)
      else if c.isDigit then numeral chars
      else if c = '"' || c = '\'' then
        (quoted c rest).map fun (s, rest) => (text (String.ofList s), rest)
      else if longMarks.contains (chars.take 2) then
        some (mark (String.ofList (chars.take 2)), chars.drop 2)
      else if shortMarks.contains c then some (mark (String.singleton c), rest)
      else none

/-- How a token changes the number of open brackets. -/
def opens : Token → Int
  | mark "(" => 1
  | mark "[" => 1
  | mark "\x7b" => 1
  | mark ")" => -1
  | mark "]" => -1
  | mark "\x7d" => -1
  | _ => 0

/-- The end of a tag: what follows it, and whether blanks are dropped there. -/
def closing? (closer : List Char) (chars : List Char) : Option (Bool × List Char) :=
  if closer.isPrefixOf chars then some (false, chars.drop closer.length)
  else
    match chars with
    | '-' :: rest => if closer.isPrefixOf rest then some (true, rest.drop closer.length) else none
    | _ => none

/-- The tokens of a tag up to its end.  Each token takes a character, so `fuel`
need not be more than their number. -/
def untilClosed (closer : List Char) :
    Nat → Int → List Char → Except Fault (List Token × Bool × List Char)
  | 0, _, _ => .error .malformed
  | fuel + 1, depth, chars =>
      let chars := skipBlanks chars
      match if depth = 0 then closing? closer chars else none with
      | some (trim, rest) => .ok ([], trim, rest)
      | none =>
          match read? chars with
          | none => .error .malformed
          | some (token, rest) =>
              match untilClosed closer fuel (depth + token.opens) rest with
              | .ok (tokens, trim, rest) => .ok (token :: tokens, trim, rest)
              | .error e => .error e

end Token

namespace Part

/-- The kind of a tag. -/
inductive Opening where
  | output | statement | comment
  deriving DecidableEq

/-- The text before the first tag, the tag's kind and what follows its opening. -/
def nextTag : List Char → List Char × Option (Opening × List Char)
  | '\x7b' :: '\x7b' :: rest => ([], some (.output, rest))
  | '\x7b' :: '%' :: rest => ([], some (.statement, rest))
  | '\x7b' :: '#' :: rest => ([], some (.comment, rest))
  | [] => ([], none)
  | c :: rest =>
      let (before, found) := nextTag rest
      (c :: before, found)

/-- Drop blanks at the end. -/
def dropBlanksAtEnd (chars : List Char) : List Char := (skipBlanks chars.reverse).reverse

/-- The sign after the opening of a tag: whether blanks before it are dropped. -/
def openingSign : List Char → Bool × List Char
  | '-' :: rest => (true, rest)
  | '+' :: rest => (false, rest)
  | chars => (false, chars)

/-- What follows the end of a comment, and whether blanks are dropped there. -/
def afterComment : List Char → Option (Bool × List Char)
  | [] => none
  | '-' :: '#' :: '\x7d' :: rest => some (true, rest)
  | '#' :: '\x7d' :: rest => some (false, rest)
  | _ :: rest => afterComment rest

/-- A statement that is one word, with the signs at both its ends. -/
def wordStatement (word : List Char) (chars : List Char) : Option (Bool × Bool × List Char) :=
  let (trimBefore, rest) := openingSign chars
  let rest := skipBlanks rest
  if word.isPrefixOf rest then
    match Token.closing? ['%', '\x7d'] (skipBlanks (rest.drop word.length)) with
    | some (trimAfter, rest) => some (trimBefore, trimAfter, rest)
    | none => none
  else none

/-- A section that is text as it stands. -/
structure Raw where
  text : List Char
  /-- Whether blanks are dropped at its end. -/
  trimEnd : Bool
  /-- Whether blanks are dropped after it. -/
  trimAfter : Bool
  rest : List Char

/-- Read a raw section up to the statement that ends it. -/
def rawSection : List Char → Option Raw
  | [] => none
  | c :: rest =>
      let here :=
        match c, rest with
        | '\x7b', '%' :: tail => wordStatement ['e', 'n', 'd', 'r', 'a', 'w'] tail
        | _, _ => none
      match here with
      | some (trimEnd, trimAfter, rest) => some ⟨[], trimEnd, trimAfter, rest⟩
      | none => (rawSection rest).map fun raw => { raw with text := c :: raw.text }

/-- The text of a raw section, blanks dropped where they are to be. -/
def Raw.kept (trimStart : Bool) (raw : Raw) : List Char :=
  let kept := if trimStart then skipBlanks raw.text else raw.text
  if raw.trimEnd then dropBlanksAtEnd kept else kept

/-- Put a part before parts that were scanned after it. -/
def before (part : Part) (parts : Except Fault (List Part)) : Except Fault (List Part) :=
  parts.map (part :: ·)

/-- Cut a template into parts, where `trim` says whether blanks are dropped here.
Each tag takes a character, so `fuel` need not be more than their number. -/
def scan : Nat → Bool → List Char → Except Fault (List Part)
  | 0, _, _ => .error .malformed
  | fuel + 1, trim, chars =>
      let chars := if trim then skipBlanks chars else chars
      match nextTag chars with
      | (lead, none) => .ok [text lead]
      | (lead, some (opening, inside)) =>
          let (trimLead, body) := openingSign inside
          let lead := text (if trimLead then dropBlanksAtEnd lead else lead)
          match opening with
          | .comment =>
              match afterComment body with
              | some (trim, rest) => before lead (scan fuel trim rest)
              | none => .error .malformed
          | .output =>
              match Token.untilClosed ['\x7d', '\x7d'] (body.length + 1) 0 body with
              | .ok (tokens, trim, rest) =>
                  before lead (before (output tokens) (scan fuel trim rest))
              | .error e => .error e
          | .statement =>
              match wordStatement ['r', 'a', 'w'] inside with
              | some (_, trimRaw, rest) =>
                  match rawSection rest with
                  | some raw =>
                      before lead
                        (before (text (raw.kept trimRaw)) (scan fuel raw.trimAfter raw.rest))
                  | none => .error .malformed
              | none =>
                  match Token.untilClosed ['%', '\x7d'] (body.length + 1) 0 body with
                  | .ok (tokens, trim, rest) =>
                      before lead (before (statement tokens) (scan fuel trim rest))
                  | .error e => .error e

/-- Drop one line end at the end. -/
def dropLineEnd (chars : List Char) : List Char :=
  match chars.reverse with
  | '\n' :: '\r' :: rest => rest.reverse
  | '\n' :: rest => rest.reverse
  | _ => chars

/-- The parts of a template. -/
def ofTemplate (template : String) : Except Fault (List Part) :=
  let chars := dropLineEnd template.toList
  scan (chars.length + 1) false chars

end Part
end EventRules.Markup
