/-
# EventRules.Number.Decimal -- decimal numerals and the numbers they denote

A numeral is a count of a power of ten, with a sign.  `Decimal.read` takes the
longest numeral at the start of a text -- digits with at most one point, then at
most one exponent -- and `Decimal.toDouble?` rounds a numeral to the nearest
number, failing exactly when it is too large.

`Double.ofText?` is the number that a text denotes as a whole.  The words for
infinity and for an undefined number denote none, since a number is finite.
-/
import EventRules.Number.Double
import EventRules.Text.Blank
import EventRules.Text.Digits
namespace EventRules

set_option autoImplicit false

open Text

/-- The numeral ± `digits` · 10^`exponent`. -/
structure Decimal where
  negative : Bool
  digits : Nat
  exponent : Int
  deriving DecidableEq, Repr

namespace Decimal

/-- The nearest number; `none` when it is too large.  A numeral whose leading
digit stands beyond the range of the format is decided by its size alone. -/
def toDouble? (d : Decimal) : Option Double :=
  let size : Int := (ofNat d.digits).length + d.exponent
  if d.digits = 0 then some Double.zero
  else if 400 < size then none
  else if size < -400 then some Double.zero
  else
    Double.nearest d.negative (d.digits * Nat.pow 10 d.exponent.toNat)
      (Nat.pow 10 (-d.exponent).toNat)

/-- Read an exponent mark with its integer: `e` or `E`, a sign if any, digits.
Without digits there is no exponent, and nothing is taken. -/
def readExponent : List Char → Int × List Char
  | mark :: rest =>
      if mark = 'e' || mark = 'E' then
        let (negative, tail) :=
          match rest with
          | '+' :: tail => (false, tail)
          | '-' :: tail => (true, tail)
          | tail => (false, tail)
        let (digits, tail) := spanDigits tail
        if digits.isEmpty then (0, mark :: rest)
        else (if negative then -(natOf digits : Int) else natOf digits, tail)
      else (0, mark :: rest)
  | [] => (0, [])

/-- Read an unsigned numeral: digits with at most one point among them, at least
one digit in all, then at most one exponent. -/
def readUnsigned (negative : Bool) (chars : List Char) : Option (Decimal × List Char) :=
  let (whole, rest) := spanDigits chars
  let (fraction, rest) :=
    match rest with
    | '.' :: tail => spanDigits tail
    | tail => ([], tail)
  if whole.isEmpty && fraction.isEmpty then none
  else
    let (exponent, rest) := readExponent rest
    some (⟨negative, natOf (whole ++ fraction), exponent - fraction.length⟩, rest)

/-- Read a numeral with a sign if any. -/
def read : List Char → Option (Decimal × List Char)
  | '+' :: rest => readUnsigned false rest
  | '-' :: rest => readUnsigned true rest
  | chars => readUnsigned false chars

end Decimal

/-- The number that a text denotes as a whole, as in `12`, `-3.5`, `.5`, `2.` or
`1e5`.  A text that is no numeral, or too large a one, denotes none. -/
def Double.ofText? (chars : List Char) : Option Double :=
  match Decimal.read chars with
  | some (numeral, []) => numeral.toDouble?
  | _ => none

end EventRules
