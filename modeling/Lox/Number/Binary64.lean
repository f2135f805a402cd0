/-!
# Binary64 numbers

A finite binary64 number is a whole number of units of `2 ^ (-1074)`, the smallest positive
number of the format. Its count of units is `significand * 2 ^ scale`, with a significand
below `2 ^ 53` and a scale of at most 2045 (`Binary64.Magnitude`); so comparing numbers,
testing for an integer and rounding a ratio are exact arithmetic on natural numbers.

Rounding goes to the nearest number of the format, a tie to the even significand, and past
the largest number to infinity (`Binary64.ofRatio`). A decimal text is the ratio of its
digits and a power of ten (`Binary64.ofDigits`).
-/

set_option autoImplicit false

namespace Lox

namespace Binary64

/-- The number of units in the integer one. -/
def unitsPerOne : Nat := Nat.pow 2 1074

/-- The first significand that is too long for the format. -/
def significandBound : Nat := Nat.pow 2 53

/-- The largest scale of a finite number. -/
def maxScale : Nat := 2045

/-- The size of a finite number: `significand * 2 ^ scale` units of `2 ^ (-1074)`. The
significand has at most 53 binary digits, and exactly so many unless the scale is zero, so that
there is one magnitude of each size. -/
structure Magnitude where
  significand : Nat
  scale : Nat
  significand_lt : significand < significandBound
  scale_le : scale ≤ maxScale
  full : scale ≠ 0 → Nat.pow 2 52 ≤ significand
  deriving DecidableEq

/-- The count of units of a magnitude. -/
def Magnitude.units (magnitude : Magnitude) : Nat :=
  magnitude.significand * Nat.pow 2 magnitude.scale

end Binary64

/-- A number of the binary64 format. -/
inductive Binary64
  /-- A finite number: a magnitude with a sign. -/
  | signed (negative : Bool) (magnitude : Binary64.Magnitude)
  | infinite (negative : Bool)
  | nan
  deriving DecidableEq

namespace Binary64

/-- The finite number of a sign, a significand and a scale; that numerals are within the bounds
is decided where they are written. -/
def finite (negative : Bool) (significand scale : Nat)
    (significand_lt : significand < significandBound := by decide)
    (scale_le : scale ≤ maxScale := by decide)
    (full : scale ≠ 0 → Nat.pow 2 52 ≤ significand := by decide) : Binary64 :=
  signed negative ⟨significand, scale, significand_lt, scale_le, full⟩

/-! ## Rounding -/

/-- A quotient rounded to the nearest natural number, a tie to the even one. -/
def roundHalfEven (numerator denominator : Nat) : Nat :=
  let quotient := numerator / denominator
  let remainder := numerator % denominator
  if 2 * remainder < denominator then quotient
  else if denominator < 2 * remainder then quotient + 1
  else quotient + quotient % 2

/-- Rounding gives the quotient or the number above it. -/
theorem roundHalfEven_bounds (numerator denominator : Nat) :
    numerator / denominator ≤ roundHalfEven numerator denominator ∧
      roundHalfEven numerator denominator ≤ numerator / denominator + 1 := by
  simp only [roundHalfEven]
  split
  · omega
  · split <;> omega

/-- The scale at which a whole number of units has at most 53 binary digits. -/
def scaleOf (units : Nat) : Nat := units.log2 - 52

section Scale

variable {units : Nat}

/-- At its scale, a number of units has at most 53 binary digits. -/
theorem div_scaleOf_lt (units : Nat) : units / Nat.pow 2 (scaleOf units) < significandBound := by
  rw [significandBound, Nat.pow_eq, Nat.pow_eq, Nat.div_lt_iff_lt_mul (Nat.two_pow_pos _),
    ← Nat.pow_add]
  refine Nat.lt_of_lt_of_le Nat.lt_log2_self (Nat.pow_le_pow_right (by decide) ?_)
  unfold scaleOf
  omega

/-- At a scale above zero, it has exactly so many. -/
theorem le_div_scaleOf (scaled : scaleOf units ≠ 0) :
    Nat.pow 2 52 ≤ units / Nat.pow 2 (scaleOf units) := by
  have digits : 52 + scaleOf units = units.log2 := by
    unfold scaleOf at scaled ⊢
    omega
  have positive : units ≠ 0 := by
    rintro rfl
    simp [scaleOf] at scaled
  rw [Nat.pow_eq, Nat.pow_eq, Nat.le_div_iff_mul_le (Nat.two_pow_pos _), ← Nat.pow_add, digits]
  exact Nat.log2_self_le positive

variable {denominator : Nat}

/-- A ratio is rounded to at most 53 binary digits, or to the first number with 54. -/
theorem roundHalfEven_scaleOf_le :
    roundHalfEven units (denominator * Nat.pow 2 (scaleOf (units / denominator))) ≤
      significandBound := by
  have rounded := (roundHalfEven_bounds units
    (denominator * Nat.pow 2 (scaleOf (units / denominator)))).2
  rw [← Nat.div_div_eq_div_mul] at rounded
  exact Nat.le_trans rounded (div_scaleOf_lt (units / denominator))

/-- At a scale above zero, it is rounded to no fewer. -/
theorem le_roundHalfEven_scaleOf (scaled : scaleOf (units / denominator) ≠ 0) :
    Nat.pow 2 52 ≤
      roundHalfEven units (denominator * Nat.pow 2 (scaleOf (units / denominator))) := by
  have rounded := (roundHalfEven_bounds units
    (denominator * Nat.pow 2 (scaleOf (units / denominator)))).1
  rw [← Nat.div_div_eq_div_mul] at rounded
  exact Nat.le_trans (le_div_scaleOf scaled) rounded

end Scale

/-- A significand that was rounded to, with a sign and a scale. Where rounding has carried into
one digit too many the scale is one more, and past the largest number it is infinity. -/
def ofScaled (negative : Bool) (significand scale : Nat) (most : significand ≤ significandBound)
    (full : scale ≠ 0 → Nat.pow 2 52 ≤ significand) : Binary64 :=
  if carried : significand = significandBound then
    if within : scale + 1 ≤ maxScale then
      finite negative (Nat.pow 2 52) (scale + 1) (by decide) within (fun _ => Nat.le_refl _)
    else infinite negative
  else if within : scale ≤ maxScale then
    finite negative significand scale (Nat.lt_of_le_of_ne most carried) within full
  else infinite negative

/-- The number nearest to a ratio of natural numbers, with the given sign. -/
def ofRatio (negative : Bool) (numerator denominator : Nat) : Binary64 :=
  let units := numerator * unitsPerOne
  let scale := scaleOf (units / denominator)
  ofScaled negative (roundHalfEven units (denominator * Nat.pow 2 scale)) scale
    roundHalfEven_scaleOf_le le_roundHalfEven_scaleOf

/-- The natural number written by a list of ASCII digits. -/
def digitsValue (digits : List Char) : Nat :=
  digits.foldl (fun value digit => 10 * value + (digit.toNat - '0'.toNat)) 0

/-- The number nearest to a decimal text, given by its digits before and after the point. -/
def ofDigits (whole fraction : List Char) : Binary64 :=
  ofRatio false (digitsValue (whole ++ fraction)) (Nat.pow 10 fraction.length)

/-! ## Exact values -/

/-- The signed count of units of a finite number. -/
def units? : Binary64 → Option Int
  | signed negative magnitude =>
    let units : Int := Int.ofNat magnitude.units
    some (if negative then -units else units)
  | _ => none

/-- The integer that a number equals, if it equals one; the negative zero equals zero. -/
def integer? (number : Binary64) : Option Int :=
  number.units?.bind fun units =>
    if units % Int.ofNat unitsPerOne = 0 then some (units / Int.ofNat unitsPerOne) else none

/-- Numeric equality: the two zeros are equal and no invalid result equals anything. -/
def sameNumber (left right : Binary64) : Bool :=
  match left, right with
  | infinite a, infinite b => a == b
  | signed .., signed .. => left.units? == right.units?
  | _, _ => false

end Binary64
end Lox
