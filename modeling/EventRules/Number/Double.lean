/-
# EventRules.Number.Double -- finite binary floating-point numbers

A number of a record is a finite binary64 number.  It is held exactly, as an
integer count of units of 2^-1074, the smallest positive number of the format: a
count belongs to the format when it has at most 53 significant bits and stays
below 2^1024.  Order and equality of numbers are then those of integers, and
zero has one representation.

* `Double.nearest` rounds a fraction to the nearest number, ties to the even
  neighbour; it fails exactly when the result is too large.
* `Double.truncate` and `Double.isWhole` read the integer part.
-/
namespace EventRules

set_option autoImplicit false

/-- A count of units of 2^-1074 that is a finite binary64 number: at most 53
significant bits, below 2^1024. -/
def Double.Representable (units : Int) : Prop :=
  units.natAbs < Nat.pow 2 2098 ∧ units.natAbs % Nat.pow 2 (units.natAbs.log2 - 52) = 0

instance (units : Int) : Decidable (Double.Representable units) :=
  inferInstanceAs (Decidable (_ ∧ _))

/-- A finite binary64 number, as a count of units of 2^-1074. -/
structure Double where
  units : Int
  representable : Double.Representable units
  deriving DecidableEq

namespace Double

/-- How many units make one. -/
def unitsPerOne : Nat := Nat.pow 2 1074

/-- The number with a given count of units, if the format holds it. -/
def ofUnits? (units : Int) : Option Double :=
  if representable : Representable units then some ⟨units, representable⟩ else none

/-- Zero. -/
def zero : Double := ⟨0, Nat.two_pow_pos 2098, Nat.zero_mod _⟩

instance : Inhabited Double := ⟨zero⟩

/-- The number nearest to `numerator / denominator`, with a sign; a tie goes to
the neighbour with an even last bit.  `none` when it is too large. -/
def nearest (negative : Bool) (numerator denominator : Nat) : Option Double :=
  let total := numerator * unitsPerOne
  let step := Nat.pow 2 ((total / denominator).log2 - 52)
  let cell := denominator * step
  let below := total / cell
  let rest := total % cell
  let count := if cell < 2 * rest || (2 * rest == cell && below % 2 == 1) then below + 1 else below
  let magnitude : Int := ↑(count * step)
  ofUnits? (if negative then -magnitude else magnitude)

/-- The number nearest to an integer.  Integers of 64 bits are never too large;
zero stands for one that is. -/
def ofInt (n : Int) : Double :=
  (nearest (n < 0) n.natAbs 1).getD zero

/-- Whether the number has no fractional part. -/
def isWhole (x : Double) : Bool := x.units.natAbs % unitsPerOne == 0

/-- The integer part: the fraction is dropped, toward zero. -/
def truncate (x : Double) : Int := x.units.tdiv unitsPerOne

/-- The number with the sign changed. -/
def negate (x : Double) : Double :=
  ⟨-x.units, by unfold Representable; rw [Int.natAbs_neg]; exact x.representable⟩

instance : Ord Double := ⟨fun x y => compare x.units y.units⟩

end Double
end EventRules
