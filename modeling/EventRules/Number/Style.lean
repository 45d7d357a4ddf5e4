/-
# EventRules.Number.Style -- the written forms of a number

A number is written with the digits of its shortest numeral.  A `NumberStyle`
decides the rest: which leading exponents are written out in full, whether a
whole number keeps `.0`, and whether a positive exponent has a plus sign.

* `NumberStyle.canonical` is the form inside canonical text: `2.5`, `7.0`,
  `1e+16`, `1e-7`.
* `NumberStyle.scalar` is the form a document scalar takes when it is read as
  text: as above, without the plus sign.
* `Double.plain` is the form a person would type: whole numbers below 10^15 as
  integers, all others in full, never with an exponent.
* `Double.fixed` has a given number of decimal places; a tie goes to the even
  neighbour.
-/
import EventRules.Number.Shortest
namespace EventRules

set_option autoImplicit false

open Text

/-- What is decided about the written form of a number besides its digits. -/
structure NumberStyle where
  /-- The exponents of the leading digit that are written in full; `none` when
  all are. -/
  inFull : Option (Int × Int)
  /-- Whether a whole number keeps `.0`. -/
  wholeMark : Bool
  /-- Whether a positive exponent has a plus sign. -/
  plusSign : Bool

namespace NumberStyle

/-- The form inside canonical text. -/
def canonical : NumberStyle := ⟨some (-5, 15), true, true⟩

/-- The form of a document scalar read as text. -/
def scalar : NumberStyle := ⟨some (-5, 15), true, false⟩

/-- Every digit written out, whole numbers without a point. -/
def full : NumberStyle := ⟨none, false, false⟩

/-- Every digit written out, whole numbers with `.0`. -/
def fullMarked : NumberStyle := ⟨none, true, false⟩

end NumberStyle

namespace Decimal

/-- The digits of a numeral with a point where its exponent says, and `whole`
after the digits when there is no fraction. -/
def positional (whole : List Char) (d : Decimal) : List Char :=
  let digits := ofNat d.digits
  if 0 ≤ d.exponent then
    digits ++ List.replicate d.exponent.toNat '0' ++ whole
  else
    let places := (-d.exponent).toNat
    if places < digits.length then
      digits.take (digits.length - places) ++ '.' :: digits.drop (digits.length - places)
    else '0' :: '.' :: (List.replicate (places - digits.length) '0' ++ digits)

/-- One digit, a point and the others if there are any, an exponent mark and the
exponent of the leading digit. -/
def withExponent (plusSign : Bool) (leading : Int) (d : Decimal) : List Char :=
  let significand :=
    match ofNat d.digits with
    | first :: second :: rest => first :: '.' :: second :: rest
    | short => short
  let sign := if plusSign && 0 ≤ leading then ['+'] else []
  significand ++ 'e' :: (sign ++ ofInt leading)

/-- The written form of a numeral in a style. -/
def write (style : NumberStyle) (d : Decimal) : List Char :=
  let leading := ((ofNat d.digits).length : Int) - 1 + d.exponent
  let inFull :=
    match style.inFull with
    | none => true
    | some (lowest, highest) => lowest ≤ leading && leading ≤ highest
  let body :=
    if inFull then d.positional (if style.wholeMark then ['.', '0'] else [])
    else d.withExponent style.plusSign leading
  if d.negative then '-' :: body else body

end Decimal

namespace Double

/-- The written form of a number in a style. -/
def write (style : NumberStyle) (x : Double) : List Char :=
  x.shortest.write style

/-- The form a person would type: whole numbers below 10^15 as integers, all
others with every digit written out. -/
def plain (x : Double) : List Char :=
  if x.isWhole && x.truncate.natAbs < Nat.pow 10 15 then Text.ofInt x.truncate
  else x.write NumberStyle.full

/-- The number with `places` decimal places: rounded to the nearest, a tie to the
even neighbour.  The sign stays when all digits are zero. -/
def fixed (places : Nat) (x : Double) : List Char :=
  let scaled := x.units.natAbs * Nat.pow 10 places
  let below := scaled / unitsPerOne
  let rest := scaled % unitsPerOne
  let count :=
    if unitsPerOne < 2 * rest || (2 * rest == unitsPerOne && below % 2 == 1) then below + 1
    else below
  let digits := padded (places + 1) count
  let whole := digits.take (digits.length - places)
  let body := if places = 0 then whole else whole ++ '.' :: digits.drop (digits.length - places)
  if x.units < 0 then '-' :: body else body

end Double
end EventRules
