/-
# EventRules.Json.Reader -- trees from JSON text

A text is JSON when one value stands in it, with blanks around.  Integers that
fit 64 bits stay integers; a larger one, and every number with a fraction or an
exponent, is rounded to a binary number, and one too large for that is refused.
Containers may be nested to a given depth.

The reader of a container tries one item after the other; as each takes at least
one character, the length of the text bounds their number.
-/
import EventRules.Tree
namespace EventRules.Json

set_option autoImplicit false

open Text

/-- How deep containers may be nested in a document. -/
def documentDepth : Nat := 127

/-- Drop spaces, tabs and line ends. -/
def skipGaps (chars : List Char) : List Char :=
  chars.dropWhile fun c => c == ' ' || c == '\n' || c == '\t' || c == '\r'

/-- The character of a code unit that is no surrogate. -/
def unitChar? (n : Nat) : Option Char :=
  if 0xD800 ≤ n && n < 0xE000 then none else some (Char.ofNat n)

/-- The character of a pair of surrogates. -/
def pairChar? (high low : Nat) : Option Char :=
  if 0xD800 ≤ high && high < 0xDC00 && 0xDC00 ≤ low && low < 0xE000 then
    some (Char.ofNat (0x10000 + (high - 0xD800) * 0x400 + (low - 0xDC00)))
  else none

/-- The character that a one-letter escape stands for. -/
def escapeChar? (c : Char) : Option Char :=
  if c = '"' || c = '\\' || c = '/' then some c
  else if c = 'b' then some '\x08'
  else if c = 'f' then some '\x0c'
  else if c = 'n' then some '\n'
  else if c = 'r' then some '\r'
  else if c = 't' then some '\t'
  else none

/-- Put a character before a text that was read after it. -/
def before (c : Char) : Option (List Char × List Char) → Option (List Char × List Char)
  | some (s, rest) => some (c :: s, rest)
  | none => none

/-- Read a text up to its closing quote. -/
def quotedRest : List Char → Option (List Char × List Char)
  | [] => none
  | '"' :: rest => some ([], rest)
  | '\\' :: 'u' :: a :: b :: c :: d :: rest =>
      match natInBase? 16 [a, b, c, d] with
      | none => none
      | some unit =>
          match unitChar? unit with
          | some ch => before ch (quotedRest rest)
          | none =>
              match rest with
              | '\\' :: 'u' :: e :: f :: g :: h :: rest =>
                  match natInBase? 16 [e, f, g, h] with
                  | none => none
                  | some low =>
                      match pairChar? unit low with
                      | some ch => before ch (quotedRest rest)
                      | none => none
              | _ => none
  | '\\' :: c :: rest =>
      match escapeChar? c with
      | some ch => before ch (quotedRest rest)
      | none => none
  | c :: rest => if c.toNat < 32 then none else before c (quotedRest rest)

/-- The numeral of an integer: itself if it fits 64 bits, else rounded. -/
def integer? (negative : Bool) (n : Nat) : Option Numeral :=
  if negative && n = 0 then some .minusZero
  else
    let signed : Int := if negative then -(n : Int) else n
    if Numeral.inWord signed then some (.int signed)
    else Numeral.ofDecimal? ⟨negative, n, 0⟩

/-- Read the exponent of a number, if there is one, and round what was read. -/
def numberTail (negative : Bool) (whole fraction tail : List Char) :
    Option (Numeral × List Char) :=
  let marked :=
    match tail with
    | c :: _ => c = 'e' || c = 'E'
    | [] => false
  let digits := natOf (whole ++ fraction)
  let places : Int := fraction.length
  if marked then
    let (exponent, rest) := Decimal.readExponent tail
    if rest.length = tail.length then none
    else (Numeral.ofDecimal? ⟨negative, digits, exponent - places⟩).map fun n => (n, rest)
  else if fraction.isEmpty then (integer? negative digits).map fun n => (n, tail)
  else (Numeral.ofDecimal? ⟨negative, digits, -places⟩).map fun n => (n, tail)

/-- Read a number without its sign: an integer without leading zeros, a fraction
if there is one, an exponent if there is one. -/
def unsignedNumber (negative : Bool) (chars : List Char) : Option (Numeral × List Char) :=
  let (whole, rest) := spanDigits chars
  let fits :=
    match whole with
    | [] => false
    | first :: more => first != '0' || more.isEmpty
  if fits then
    match rest with
    | '.' :: tail =>
        let (fraction, tail) := spanDigits tail
        if fraction.isEmpty then none else numberTail negative whole fraction tail
    | tail => numberTail negative whole [] tail
  else none

/-- Read a given word. -/
def word (letters : List Char) (chars : List Char) : Option (List Char) :=
  if letters.isPrefixOf chars then some (chars.drop letters.length) else none

/-- Read the items of a list after its bracket, or after a comma. -/
def items (value : List Char → Option (Tree × List Char)) :
    Nat → List Char → Option (List Tree × List Char)
  | 0, _ => none
  | fuel + 1, chars =>
      match value (skipGaps chars) with
      | none => none
      | some (t, rest) =>
          match skipGaps rest with
          | ',' :: rest => (items value fuel rest).map fun (ts, rest) => (t :: ts, rest)
          | ']' :: rest => some ([t], rest)
          | _ => none

/-- Read the entries of a map after its brace, or after a comma. -/
def entries (value : List Char → Option (Tree × List Char)) :
    Nat → List Char → Option (List (String × Tree) × List Char)
  | 0, _ => none
  | fuel + 1, chars =>
      match skipGaps chars with
      | '"' :: rest =>
          match quotedRest rest with
          | none => none
          | some (key, rest) =>
              match skipGaps rest with
              | ':' :: rest =>
                  match value (skipGaps rest) with
                  | none => none
                  | some (t, rest) =>
                      let e := (String.ofList key, t)
                      match skipGaps rest with
                      | ',' :: rest =>
                          (entries value fuel rest).map fun (es, rest) => (e :: es, rest)
                      | '\x7d' :: rest => some ([e], rest)
                      | _ => none
              | _ => none
      | _ => none

/-- Read a value whose containers are nested to at most `depth`. -/
def value : Nat → List Char → Option (Tree × List Char)
  | _, [] => none
  | depth, c :: rest =>
      if c = '"' then
        (quotedRest rest).map fun (s, rest) => (.text (String.ofList s), rest)
      else if c = '[' then
        match depth with
        | 0 => none
        | depth + 1 =>
            match skipGaps rest with
            | ']' :: rest => some (.list [], rest)
            | tail => (items (value depth) tail.length tail).map fun (ts, rest) => (.list ts, rest)
      else if c = '\x7b' then
        match depth with
        | 0 => none
        | depth + 1 =>
            match skipGaps rest with
            | '\x7d' :: rest => some (.map [], rest)
            | tail => (entries (value depth) tail.length tail).map fun (es, rest) => (.map es, rest)
      else if c = '-' then
        (unsignedNumber true rest).map fun (n, rest) => (.number n, rest)
      else if c.isDigit then
        (unsignedNumber false (c :: rest)).map fun (n, rest) => (.number n, rest)
      else if c = 't' then (word ['r', 'u', 'e'] rest).map fun rest => (.bool true, rest)
      else if c = 'f' then (word ['a', 'l', 's', 'e'] rest).map fun rest => (.bool false, rest)
      else if c = 'n' then (word ['u', 'l', 'l'] rest).map fun rest => (.null, rest)
      else none

/-- The tree of a JSON text whose containers are nested to at most `depth`. -/
def readTo (depth : Nat) (chars : List Char) : Option Tree :=
  match value depth (skipGaps chars) with
  | some (t, rest) => if (skipGaps rest).isEmpty then some t else none
  | none => none

/-- The tree of a JSON document. -/
def read (s : String) : Option Tree := readTo documentDepth s.toList

end EventRules.Json
