import Lox.Number.Shortest

/-!
# Spelling of numbers

A number is written by its shortest decimal. Where the decimal exponent is moderate the
digits are written around a point, with a fraction even when it is zero; otherwise they are
written with one digit before the point and an exponent, which always has a sign and at
least two digits.
-/

set_option autoImplicit false

namespace Lox

/-- The choices that fix how a decimal is written. -/
structure Spelling where
  /-- The least decimal exponent that is written without an exponent. -/
  leastPlain : Int
  /-- The first decimal exponent above which an exponent is written. -/
  plainBound : Int
  exponentWidth : Nat
  infinity : String
  invalid : String

namespace Spelling

/-- Plain from `0.0001` up to, not including, ten to the sixteenth. -/
def standard : Spelling where
  leastPlain := -4
  plainBound := 16
  exponentWidth := 2
  infinity := "inf"
  invalid := "nan"

/-- The digits around a point, with at least one digit on each side. -/
def plain (decimal : Decimal) : List Char :=
  if decimal.point ≤ 0 then
    '0' :: '.' :: List.replicate (-decimal.point).toNat '0' ++ decimal.digits
  else
    let count := decimal.point.toNat
    let whole := decimal.digits.take count
    let fraction := decimal.digits.drop count
    whole ++ List.replicate (count - whole.length) '0' ++ '.' ::
      (if fraction.isEmpty then ['0'] else fraction)

/-- The sign and the digits of an exponent. -/
def exponent (spelling : Spelling) (power : Int) : List Char :=
  let digits := Nat.toDigits 10 power.natAbs
  (if power < 0 then '-' else '+') ::
    List.replicate (spelling.exponentWidth - digits.length) '0' ++ digits

/-- One digit, the further digits behind a point, and the exponent. -/
def scientific (spelling : Spelling) (decimal : Decimal) : List Char :=
  let fraction := decimal.digits.drop 1
  decimal.digits.take 1 ++ (if fraction.isEmpty then [] else '.' :: fraction) ++
    'e' :: spelling.exponent (decimal.point - 1)

/-- A positive decimal, plain where its exponent is moderate. -/
def decimal (spelling : Spelling) (number : Decimal) : List Char :=
  if spelling.leastPlain ≤ number.point - 1 && number.point - 1 < spelling.plainBound then
    plain number
  else
    spelling.scientific number

/-- A number, the negative ones behind a minus sign. -/
def number (spelling : Spelling) : Binary64 → String
  | .nan => spelling.invalid
  | .infinite negative => (if negative then "-" else "") ++ spelling.infinity
  | .signed negative magnitude =>
    (if negative then "-" else "") ++
      String.ofList
        (if magnitude.significand = 0 then ['0', '.', '0']
         else spelling.decimal magnitude.shortest)

end Spelling
end Lox
