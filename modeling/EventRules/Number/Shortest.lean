/-
# EventRules.Number.Shortest -- the fewest digits that read back

Each number has an interval of reals that round to it: half a step to either
side, a quarter step below a power of two, the ends included exactly when the
last bit is even.  The shortest numeral is the one with the fewest digits in that
interval, and among those the nearest to the number.

`Double.shortest` tries 1, 2, … 17 digits in turn.  On each grid only the two
neighbours of the number are tested, which loses nothing: when a point of a grid
lies in the interval, so does one of the two neighbours on that grid.  All tests
compare integers.
-/
import EventRules.Number.Decimal
namespace EventRules.Double

set_option autoImplicit false

open Text

/-- A positive number with its rounding interval, in quarters of a unit. -/
structure Interval where
  low : Nat
  value : Nat
  high : Nat
  /-- Whether the two ends themselves round to the number. -/
  closed : Bool

/-- The reals that round to the number with this magnitude, in quarter units. -/
def interval (magnitude : Nat) : Interval :=
  let shift := magnitude.log2 - 52
  let step := Nat.pow 2 shift
  let significand := magnitude / step
  let lowGap := if significand == Nat.pow 2 52 && 0 < shift then step else 2 * step
  { low := 4 * magnitude - lowGap
    value := 4 * magnitude
    high := 4 * magnitude + 2 * step
    closed := significand % 2 == 0 }

/-- Whether `candidate / denominator`, both in the scale of the interval's own
numbers times `scale`, lies in the interval. -/
def Interval.holds (i : Interval) (scale candidate : Nat) : Bool :=
  if i.closed then i.low * scale ≤ candidate && candidate ≤ i.high * scale
  else i.low * scale < candidate && candidate < i.high * scale

/-- The neighbour on the grid of 10^`place` that reads back, if any: of two the
nearer one, of two equally near the even one. -/
def onGrid (i : Interval) (place : Int) : Option Nat :=
  let scale := Nat.pow 10 (-place).toNat
  let unit := 4 * unitsPerOne * Nat.pow 10 place.toNat
  let exact := i.value * scale
  let below := exact / unit
  let lowFits := i.holds scale (below * unit)
  let highFits := i.holds scale ((below + 1) * unit)
  let rest := exact % unit
  match lowFits, highFits with
  | true, true =>
      if 2 * rest < unit || (2 * rest == unit && below % 2 == 0) then some below
      else some (below + 1)
  | true, false => some below
  | false, true => some (below + 1)
  | false, false => none

/-- The exponent of the leading decimal digit of a positive magnitude: no number
is below 10^-400, so the integer part of 10^400 times it has a digit. -/
def leadingPlace (magnitude : Nat) : Int :=
  ((ofNat (magnitude * Nat.pow 10 400 / unitsPerOne)).length : Int) - 401

/-- Try grids of ever more digits, `count` at most. -/
def searchGrids (i : Interval) : Nat → Int → Nat × Int
  | 0, place =>
      (i.value * Nat.pow 10 (-place).toNat / (4 * unitsPerOne * Nat.pow 10 place.toNat), place)
  | count + 1, place =>
      match onGrid i place with
      | some digits => (digits, place)
      | none => searchGrids i count (place - 1)

/-- Drop trailing zeros of a count of a power of ten. -/
def dropZeros : Nat → Nat → Int → Nat × Int
  | 0, digits, place => (digits, place)
  | fuel + 1, digits, place =>
      if digits % 10 == 0 && 0 < digits then dropZeros fuel (digits / 10) (place + 1)
      else (digits, place)

/-- The shortest numeral that reads back as the number, without trailing zeros. -/
def shortest (x : Double) : Decimal :=
  let magnitude := x.units.natAbs
  if magnitude = 0 then ⟨false, 0, 0⟩
  else
    let (digits, place) := searchGrids (interval magnitude) 17 (leadingPlace magnitude)
    let (digits, place) := dropZeros 20 digits place
    ⟨x.units < 0, digits, place⟩

end EventRules.Double
