import Lox.Number.Binary64

/-!
# Shortest decimals

The decimal that stands for a binary64 number is the shortest one that rounds back to it and,
among those, the one nearest to it. The reals that round to the number form an interval
around it whose ends belong to it exactly when the significand is even. On the grid of
decimals with a given digit count, some point lies in the interval only if one of the two
neighbours of the number does, so the search tries the two neighbours on finer and finer
grids. Seventeen digits always suffice.

All comparisons are made in quarters of the unit `2 ^ (-1074)`, where the ends of the
interval are whole.
-/

set_option autoImplicit false

namespace Lox

/-- A positive decimal: its digits stand behind the point of `0.digits * 10 ^ point`. -/
structure Decimal where
  /-- The digits, most significant first. -/
  digits : List Char
  /-- The power of ten that the digits are scaled by. -/
  point : Int

namespace Binary64

/-- The reals that round to a positive number, in quarters of a unit. -/
structure Interval where
  low : Nat
  middle : Nat
  high : Nat
  /-- Whether the two ends belong to the interval. -/
  closed : Bool

/-- The interval of a magnitude; below a power of two the neighbours are closer. -/
def Interval.of (magnitude : Magnitude) : Interval :=
  let middle := 4 * magnitude.units
  let step := Nat.pow 2 magnitude.scale
  let atPower := magnitude.significand == Nat.pow 2 52 && magnitude.scale != 0
  { low := middle - (if atPower then step else 2 * step)
    middle
    high := middle + 2 * step
    closed := magnitude.significand % 2 == 0 }

/-- Whether the ratio of a count of quarters lies in the interval. -/
def Interval.contains (interval : Interval) (numerator denominator : Nat) : Bool :=
  let low := interval.low * denominator
  let high := interval.high * denominator
  if interval.closed then low ≤ numerator && numerator ≤ high
  else low < numerator && numerator < high

/-- The decimal digits of a natural number. -/
def decimalDigits (number : Nat) : List Char := Nat.toDigits 10 number

/-- A power of ten that brings a positive number to one or above; numbers that are there, or
not far below, need little, and the smallest number is above `10 ^ (-400)`. -/
def shiftOf (units : Nat) : Nat :=
  if unitsPerOne ≤ units then 0
  else if unitsPerOne ≤ units * Nat.pow 10 20 then 20
  else 400

/-- The least power of ten above a positive number. -/
def Magnitude.point (magnitude : Magnitude) : Int :=
  let units := magnitude.units
  let shift := shiftOf units
  let shifted := units * Nat.pow 10 shift / unitsPerOne
  Int.ofNat (decimalDigits shifted).length - Int.ofNat shift

/-- The neighbour of the number on the grid of decimals with the given digit count that is in
the interval and nearest to the number, a tie going to the even one. -/
def Interval.gridPoint? (interval : Interval) (point : Int) (count : Nat) : Option Nat :=
  let exponent := point - Int.ofNat count
  -- One step of the grid is `weight / divisor` quarters of a unit.
  let weight := 4 * unitsPerOne * Nat.pow 10 exponent.toNat
  let divisor := Nat.pow 10 (-exponent).toNat
  let below := interval.middle * divisor / weight
  let above := below + 1
  let belowFits := interval.contains (below * weight) divisor
  let aboveFits := interval.contains (above * weight) divisor
  let centre := interval.middle * divisor
  let toBelow := centre - below * weight
  let toAbove := above * weight - centre
  if belowFits && aboveFits then
    some (if toBelow < toAbove || (toBelow == toAbove && below % 2 == 0) then below else above)
  else if belowFits then some below
  else if aboveFits then some above
  else none

/-- The digits of a grid point, without trailing zeros, and its power of ten. -/
def ofGridPoint (point : Int) (count : Nat) (number : Nat) : Decimal :=
  let digits := decimalDigits number
  { digits := (digits.reverse.dropWhile (· == '0')).reverse
    point := point + Int.ofNat digits.length - Int.ofNat count }

/-- The shortest decimal that rounds to a positive number, and the nearest of those. -/
def Magnitude.shortest (magnitude : Magnitude) : Decimal :=
  let interval := Interval.of magnitude
  let point := magnitude.point
  match (List.range 17).findSome? fun fewer =>
      (interval.gridPoint? point (fewer + 1)).map (ofGridPoint point (fewer + 1)) with
  | some decimal => decimal
  | none => ofGridPoint point 17 0

end Binary64
end Lox
