import Lox.Proofs.Number.Rounding
import Mathlib.Data.List.DropRight

/-!
# Shortest decimals round back

A decimal stands for a rational number (`Decimal.value`). The search for the shortest decimal tries
the neighbours of a number on grids of decimals and takes only those that are in the interval of the
number (`Binary64.holds_of_gridPoint`). It succeeds, because the grid of seventeen digits is so fine
that a neighbour of the number on it is in the interval (`Binary64.exists_gridPoint`).

Hence the shortest decimal of a number is in its interval (`Binary64.holds_shortest`), so that it
is rounded to the number.
-/

set_option autoImplicit false

namespace Lox

open Binary64

/-! ## Digits and their values -/

namespace Binary64

variable {digits : List Char} {number : Nat}

theorem digitsValue_eq (digits : List Char) : digitsValue digits = Nat.ofDigitChars 10 digits 0 :=
  Nat.ofDigitChars_eq_foldl.symm

theorem digitsValue_append (first second : List Char) :
    digitsValue (first ++ second) =
      digitsValue first * 10 ^ second.length + digitsValue second := by
  rw [digitsValue_eq, digitsValue_eq, digitsValue_eq, Nat.ofDigitChars_append,
    Nat.ofDigitChars_eq_ofDigitChars_zero, Nat.mul_comm]

theorem digitsValue_replicate (count : Nat) : digitsValue (List.replicate count '0') = 0 := by
  rw [digitsValue_eq, Nat.ofDigitChars_replicate_zero, Nat.mul_zero]

/-- Zeros behind the digits scale them. -/
theorem digitsValue_append_replicate (digits : List Char) (count : Nat) :
    digitsValue (digits ++ List.replicate count '0') = digitsValue digits * 10 ^ count := by
  rw [digitsValue_append, digitsValue_replicate, List.length_replicate, Nat.add_zero]

/-- Zeros before the digits do not matter. -/
theorem digitsValue_replicate_append (count : Nat) (digits : List Char) :
    digitsValue (List.replicate count '0' ++ digits) = digitsValue digits := by
  rw [digitsValue_append, digitsValue_replicate, Nat.zero_mul, Nat.zero_add]

theorem digitsValue_decimalDigits (number : Nat) : digitsValue (decimalDigits number) = number :=
  (digitsValue_eq _).trans Nat.ofDigitChars_ten_toDigits

theorem isDigit_of_mem_decimalDigits {c : Char} (member : c ∈ decimalDigits number) :
    c.isDigit = true :=
  Nat.isDigit_of_mem_toDigits (by decide) (by decide) member

/-- A positive number has as many digits as there are powers of ten up to it. -/
theorem decimalDigits_bounds (positive : 0 < number) :
    10 ^ ((decimalDigits number).length - 1) ≤ number ∧
      number < 10 ^ (decimalDigits number).length := by
  have some : 0 < (decimalDigits number).length := Nat.length_toDigits_pos
  constructor
  · refine Nat.le_of_not_lt fun less => ?_
    by_cases single : (decimalDigits number).length = 1
    · simp [single] at less
      omega
    · have := (Nat.length_toDigits_le_iff (by decide) (by omega)).mpr less
      rw [← decimalDigits] at this
      omega
  · exact (Nat.length_toDigits_le_iff (by decide) some).mp (Nat.le_refl _)

/-- Digits are those up to the last one that is not zero, and zeros. -/
theorem exists_append_replicate (digits : List Char) :
    ∃ zeros, digits =
      (digits.reverse.dropWhile (· == '0')).reverse ++ List.replicate zeros '0' := by
  refine ⟨(digits.rtakeWhile (· == '0')).length, ?_⟩
  have zeros : digits.rtakeWhile (· == '0') =
      List.replicate (digits.rtakeWhile (· == '0')).length '0' :=
    List.eq_replicate_of_mem fun c member => by simpa using List.mem_rtakeWhile_imp member
  rw [← zeros]
  exact (List.rdropWhile_append_rtakeWhile ..).symm

end Binary64

/-! ## Decimals and their values -/

/-- The rational number that a decimal stands for. -/
def Decimal.value (decimal : Decimal) : ℚ :=
  digitsValue decimal.digits * 10 ^ (decimal.point - decimal.digits.length)

namespace Binary64

variable {magnitude : Magnitude} {count number : Nat} {point : Int}

/-- A grid point stands for a multiple of the step of the grid. -/
theorem value_ofGridPoint (point : Int) (count number : Nat) :
    (ofGridPoint point count number).value = number * 10 ^ (point - count) := by
  obtain ⟨zeros, whole⟩ := exists_append_replicate (decimalDigits number)
  have value := congrArg digitsValue whole
  have length := congrArg List.length whole
  rw [digitsValue_decimalDigits, digitsValue_append_replicate] at value
  rw [List.length_append, List.length_replicate] at length
  simp only [ofGridPoint, Decimal.value, Int.ofNat_eq_natCast]
  generalize ((decimalDigits number).reverse.dropWhile (· == '0')).reverse = kept at *
  rw [length, value]
  have power : point + ((kept.length + zeros : ℕ) : ℤ) - count - kept.length =
      (zeros : ℤ) + (point - count) := by
    push_cast
    ring
  rw [power, zpow_add₀ (by norm_num), zpow_natCast]
  push_cast
  ring

/-- The point of a grid point that is not zero says where its first digit stands. -/
theorem ofGridPoint_bounds (positive : 0 < number) :
    (10 : ℚ) ^ ((ofGridPoint point count number).point - 1) ≤
        (ofGridPoint point count number).value ∧
      (ofGridPoint point count number).value < 10 ^ (ofGridPoint point count number).point := by
  have some : 0 < (decimalDigits number).length := Nat.length_toDigits_pos
  obtain ⟨lower, upper⟩ := decimalDigits_bounds positive
  rw [value_ofGridPoint]
  simp only [ofGridPoint, Int.ofNat_eq_natCast]
  have step : (0 : ℚ) < 10 ^ (point - count) := by positivity
  constructor
  · have power : point + ((decimalDigits number).length : ℤ) - count - 1 =
        (((decimalDigits number).length - 1 : ℕ) : ℤ) + (point - count) := by omega
    rw [power, zpow_add₀ (by norm_num), zpow_natCast]
    exact mul_le_mul_of_nonneg_right (by exact_mod_cast lower) step.le
  · have power : point + ((decimalDigits number).length : ℤ) - count =
        ((decimalDigits number).length : ℤ) + (point - count) := by omega
    rw [power, zpow_add₀ (by norm_num), zpow_natCast]
    exact mul_lt_mul_of_pos_right (by exact_mod_cast upper) step

theorem isDigit_of_mem_ofGridPoint {c : Char}
    (member : c ∈ (ofGridPoint point count number).digits) : c.isDigit = true := by
  simp only [ofGridPoint, List.mem_reverse] at member
  exact isDigit_of_mem_decimalDigits
    (List.mem_reverse.mp ((List.dropWhile_suffix _).subset member))

/-! ## The place of the first digit -/

/-- The smallest positive number is above a small power of ten. -/
theorem unitsPerOne_le : unitsPerOne ≤ 10 ^ 400 := by
  unfold unitsPerOne
  have exponents : 1074 ≤ 3 * 400 := by decide
  -- The powers are not to be evaluated.
  generalize 1074 = binary at *
  generalize 400 = decimal at *
  calc 2 ^ binary ≤ 2 ^ (3 * decimal) := Nat.pow_le_pow_right (by decide) exponents
    _ = 8 ^ decimal := by rw [Nat.pow_mul]
    _ ≤ 10 ^ decimal := Nat.pow_le_pow_left (by decide) _

/-- The shift brings a positive number to one or above. -/
theorem le_shifted {units : Nat} (positive : 0 < units) :
    unitsPerOne ≤ units * 10 ^ shiftOf units := by
  unfold shiftOf
  simp only [Nat.pow_eq]
  split
  · next large => simpa using large
  · split
    · assumption
    · exact unitsPerOne_le.trans (Nat.le_mul_of_pos_left _ positive)

/-- The first digit of a number does not stand behind the place that is found for it. -/
theorem pow_point_le (positive : 0 < magnitude.significand) :
    (10 : ℚ) ^ (magnitude.point - 1) ≤ magnitude.value := by
  have filled : 0 < magnitude.units := Nat.mul_pos positive (Nat.pow_pos (by decide))
  have shifted := le_shifted filled
  have one : 0 < magnitude.units * 10 ^ shiftOf magnitude.units / unitsPerOne :=
    Nat.div_pos shifted unitsPerOne_pos
  obtain ⟨lower, _⟩ := decimalDigits_bounds one
  have some : 0 < (decimalDigits (magnitude.units * 10 ^ shiftOf magnitude.units /
      unitsPerOne)).length := Nat.length_toDigits_pos
  rw [Nat.le_div_iff_mul_le unitsPerOne_pos] at lower
  simp only [Magnitude.point, Nat.pow_eq, Int.ofNat_eq_natCast]
  generalize (decimalDigits _).length = length at *
  generalize shiftOf _ = shift at *
  have power : (length : ℤ) - shift - 1 = ((length - 1 : ℕ) : ℤ) - shift := by omega
  have ones : (0 : ℚ) < unitsPerOne := by exact_mod_cast unitsPerOne_pos
  rw [power, zpow_sub₀ (by norm_num), zpow_natCast, zpow_natCast, Magnitude.value,
    div_le_div_iff₀ (by positivity) ones]
  rw [Magnitude.units, Nat.pow_eq] at lower
  exact_mod_cast lower

/-! ## Grids -/

theorem ten_zpow_eq (exponent : Int) :
    (10 : ℚ) ^ exponent = 10 ^ exponent.toNat / 10 ^ (-exponent).toNat := by
  have whole : exponent = (exponent.toNat : ℤ) - ((-exponent).toNat : ℤ) := by omega
  conv_lhs => rw [whole, zpow_sub₀ (by norm_num), zpow_natCast, zpow_natCast]

/-- A multiple of a power of ten, as a ratio in quarters of a unit. -/
theorem quarters_mul_zpow (number : Nat) (exponent : Int) :
    quarters (number * 10 ^ exponent) =
      ((number * (4 * unitsPerOne * 10 ^ exponent.toNat) : ℕ) : ℚ) /
        ((10 ^ (-exponent).toNat : ℕ) : ℚ) := by
  rw [quarters, ten_zpow_eq]
  push_cast
  ring

/-- A grid point that is taken is in the interval. -/
theorem holds_of_gridPoint {interval : Interval}
    (found : interval.gridPoint? point count = some number) :
    interval.Holds (quarters (number * 10 ^ (point - count))) := by
  rw [quarters_mul_zpow, ← Interval.contains_iff (by positivity)]
  simp only [Interval.gridPoint?, Nat.pow_eq, Int.ofNat_eq_natCast] at found
  split at found
  · next both =>
    obtain ⟨below, above⟩ := Bool.and_eq_true_iff.mp both
    cases found
    split
    · exact below
    · exact above
  · split at found
    · next below =>
      cases found
      exact below
    · split at found
      · next above =>
        cases found
        exact above
      · contradiction

/-- The ends of the interval of a positive number are the number less half of its unit, or less a
quarter where the unit is smaller below, and the number and half of its unit. -/
theorem Interval.ends_of (positive : 0 < magnitude.significand) :
    ((Interval.of magnitude).low : ℚ) = 4 * (magnitude.significand * 2 ^ magnitude.scale) -
        (if magnitude.significand = 2 ^ 52 ∧ magnitude.scale ≠ 0 then 2 ^ magnitude.scale
          else 2 * 2 ^ magnitude.scale) ∧
      ((Interval.of magnitude).high : ℚ) =
        4 * (magnitude.significand * 2 ^ magnitude.scale) + 2 * 2 ^ magnitude.scale := by
  have least : 2 ^ magnitude.scale ≤ magnitude.significand * 2 ^ magnitude.scale :=
    Nat.le_mul_of_pos_left _ positive
  rw [Interval.low_of, Interval.high_of, Nat.cast_sub (by split <;> omega)]
  constructor
  · split <;> push_cast <;> ring
  · push_cast
    ring

/-- The interval of a positive number has only positive numbers. -/
theorem pos_of_holds (positive : 0 < magnitude.significand) {ratio : ℚ}
    (holds : (Interval.of magnitude).Holds (quarters ratio)) : 0 < ratio := by
  have unit : (0 : ℚ) < 2 ^ magnitude.scale := by positivity
  have one : (1 : ℚ) ≤ magnitude.significand := by exact_mod_cast positive
  have least := mul_le_mul_of_nonneg_right one unit.le
  have low := holds.low_le
  rw [(Interval.ends_of positive).1] at low
  have above : 0 < quarters ratio := by
    split at low <;> linarith
  refine lt_of_not_ge fun none => above.not_ge ?_
  exact (quarters_le_iff.mpr none).trans_eq quarters_zero

/-- On a grid that is fine enough one of the neighbours of a number is in its interval. -/
theorem holds_below_or_above (positive : 0 < magnitude.significand) {step below : ℚ}
    (fine : 10 ^ 16 * step ≤ 4 * (magnitude.significand * 2 ^ magnitude.scale))
    (lower : below ≤ 4 * (magnitude.significand * 2 ^ magnitude.scale))
    (upper : 4 * (magnitude.significand * 2 ^ magnitude.scale) < below + step) :
    (Interval.of magnitude).Holds below ∨ (Interval.of magnitude).Holds (below + step) := by
  obtain ⟨low, high⟩ := Interval.ends_of positive
  have unit : (0 : ℚ) < 2 ^ magnitude.scale := by positivity
  have most : (magnitude.significand : ℚ) ≤ 2 ^ 53 := by exact_mod_cast magnitude.significand_lt.le
  have units := mul_le_mul_of_nonneg_right most unit.le
  by_cases near : below + step <
      4 * (magnitude.significand * 2 ^ magnitude.scale) + 2 * 2 ^ magnitude.scale
  · have inside : ((Interval.of magnitude).low : ℚ) < below + step := by
      rw [low]
      split <;> linarith
    refine .inr ⟨inside.le, ?_, ?_⟩
    · rw [high]
      exact near.le
    · rintro (same | same)
      · exact absurd same inside.ne'
      · rw [high] at same
        exact absurd same near.ne
  · -- The step is less than a unit, so the neighbour below is less than half a unit off.
    have ordinary : ¬ (magnitude.significand = 2 ^ 52 ∧ magnitude.scale ≠ 0) := by
      rintro ⟨power, -⟩
      rw [power] at fine lower near
      push_cast at fine lower near
      linarith
    rw [if_neg ordinary] at low
    have inside : ((Interval.of magnitude).low : ℚ) < below := by
      rw [low]
      linarith
    refine .inl ⟨inside.le, ?_, ?_⟩
    · rw [high]
      linarith
    · rintro (same | same)
      · exact absurd same inside.ne'
      · rw [high] at same
        linarith

/-- A neighbour that is in the interval is taken. -/
theorem exists_gridPoint_of_holds {interval : Interval} {below : Nat}
    (neighbour : interval.middle * 10 ^ (-(point - (count : Int))).toNat /
      (4 * unitsPerOne * 10 ^ (point - (count : Int)).toNat) = below)
    (holds : interval.Holds (quarters (below * 10 ^ (point - count))) ∨
      interval.Holds (quarters ((below + 1 : ℕ) * 10 ^ (point - count)))) :
    ∃ number, interval.gridPoint? point count = some number := by
  rw [quarters_mul_zpow, quarters_mul_zpow, ← Interval.contains_iff (by positivity),
    ← Interval.contains_iff (by positivity)] at holds
  simp only [Interval.gridPoint?, Nat.pow_eq, Int.ofNat_eq_natCast, neighbour]
  split
  · exact ⟨_, rfl⟩
  · split
    · exact ⟨_, rfl⟩
    · split
      · exact ⟨_, rfl⟩
      · next below above => exact absurd holds (not_or.mpr ⟨below, above⟩)

/-- **On the grid of seventeen digits a neighbour is taken.** -/
theorem exists_gridPoint (positive : 0 < magnitude.significand)
    (place : (10 : ℚ) ^ (point - 1) ≤ magnitude.value) :
    ∃ number, (Interval.of magnitude).gridPoint? point 17 = some number := by
  obtain ⟨below, neighbour⟩ : ∃ below, (Interval.of magnitude).middle *
      10 ^ (-(point - (17 : ℕ))).toNat / (4 * unitsPerOne * 10 ^ (point - (17 : ℕ)).toNat) =
        below := ⟨_, rfl⟩
  refine exists_gridPoint_of_holds neighbour ?_
  have weight : 0 < 4 * unitsPerOne * 10 ^ (point - (17 : ℕ)).toNat :=
    Nat.mul_pos (Nat.mul_pos (by decide) unitsPerOne_pos) (Nat.pow_pos (by decide))
  have divisor : (0 : ℚ) < ((10 ^ (-(point - (17 : ℕ))).toNat : ℕ) : ℚ) := by positivity
  have lower := Nat.div_mul_le_self (4 * (magnitude.significand * 2 ^ magnitude.scale) *
    10 ^ (-(point - (17 : ℕ))).toNat) (4 * unitsPerOne * 10 ^ (point - (17 : ℕ)).toNat)
  have upper := Nat.lt_div_mul_add (a := 4 * (magnitude.significand * 2 ^ magnitude.scale) *
    10 ^ (-(point - (17 : ℕ))).toNat) weight
  rw [Interval.middle_of] at neighbour
  rw [neighbour] at lower upper
  have next : quarters ((below + 1 : ℕ) * 10 ^ (point - (17 : ℕ))) =
      quarters (below * 10 ^ (point - (17 : ℕ))) + quarters (10 ^ (point - (17 : ℕ))) := by
    simp only [quarters]
    push_cast
    ring
  have fine : 10 ^ 16 * quarters (10 ^ (point - (17 : ℕ))) ≤
      4 * (magnitude.significand * 2 ^ magnitude.scale) := by
    rw [← quarters_value]
    refine le_trans (le_of_eq ?_) (quarters_le_iff.mpr place)
    have power : point - 1 = ((16 : ℕ) : ℤ) + (point - (17 : ℕ)) := by omega
    rw [power, zpow_add₀ (by norm_num), zpow_natCast]
    simp only [quarters]
    ring
  rw [next]
  refine holds_below_or_above positive fine ?_ ?_
  · rw [quarters_mul_zpow, div_le_iff₀ divisor]
    exact_mod_cast lower
  · rw [← next, quarters_mul_zpow, lt_div_iff₀ divisor]
    rw [← Nat.succ_mul] at upper
    exact_mod_cast upper

/-! ## The shortest decimal -/

/-- The shortest decimal is a grid point in the interval. -/
theorem exists_shortest_eq (positive : 0 < magnitude.significand) :
    ∃ point count number, 0 < number ∧
      magnitude.shortest = ofGridPoint point count number ∧
        (Interval.of magnitude).Holds (quarters (number * 10 ^ (point - count))) := by
  obtain ⟨last, finest⟩ := exists_gridPoint positive (pow_point_le positive)
  simp only [Magnitude.shortest]
  split
  · next decimal found =>
    obtain ⟨fewer, _, found⟩ := List.exists_of_findSome?_eq_some found
    obtain ⟨number, taken, rfl⟩ := Option.map_eq_some_iff.mp found
    have holds := holds_of_gridPoint taken
    have filled : 0 < number := by
      have := pos_of_holds positive holds
      refine Nat.pos_of_ne_zero ?_
      rintro rfl
      simp at this
    exact ⟨_, _, number, filled, rfl, holds⟩
  · next none =>
    have missing := List.findSome?_eq_none_iff.mp none 16 (by decide)
    simp [finest] at missing

variable (positive : 0 < magnitude.significand)
include positive

/-- **The shortest decimal of a number is in its interval.** -/
theorem holds_shortest : (Interval.of magnitude).Holds (quarters magnitude.shortest.value) := by
  obtain ⟨point, count, number, _, same, holds⟩ := exists_shortest_eq positive
  rwa [same, value_ofGridPoint]

/-- The point of the shortest decimal says where its first digit stands. -/
theorem shortest_bounds :
    (10 : ℚ) ^ (magnitude.shortest.point - 1) ≤ magnitude.shortest.value ∧
      magnitude.shortest.value < 10 ^ magnitude.shortest.point := by
  obtain ⟨point, count, number, filled, same, _⟩ := exists_shortest_eq positive
  rw [same]
  exact ofGridPoint_bounds filled

/-- The shortest decimal has a digit. -/
theorem shortest_digits_ne_nil : magnitude.shortest.digits ≠ [] := by
  intro none
  have value := (shortest_bounds positive).1
  rw [Decimal.value, none, digitsValue, List.foldl_nil, Nat.cast_zero, zero_mul] at value
  exact value.not_gt (by positivity)

omit positive in
theorem isDigit_of_mem_shortest {c : Char} (member : c ∈ magnitude.shortest.digits) :
    c.isDigit = true := by
  simp only [Magnitude.shortest] at member
  split at member
  · next decimal found =>
    obtain ⟨fewer, _, found⟩ := List.exists_of_findSome?_eq_some found
    obtain ⟨number, _, rfl⟩ := Option.map_eq_some_iff.mp found
    exact isDigit_of_mem_ofGridPoint member
  · exact isDigit_of_mem_ofGridPoint member

end Binary64

end Lox
