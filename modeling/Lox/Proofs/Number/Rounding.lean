import Lox.Number.Shortest
import Mathlib.Algebra.Order.Field.Power
import Mathlib.Algebra.Order.Field.Rat
import Mathlib.Tactic.FieldSimp
import Mathlib.Tactic.Linarith
import Mathlib.Tactic.Positivity
import Mathlib.Tactic.Ring

/-!
# Rounding to the format

A magnitude stands for a rational number (`Binary64.Magnitude.value`). Rounding a ratio gives
infinity or a number with a magnitude (`Binary64.ofRatio_cases`).

The rationals that round to a number are those in the interval around it
(`Binary64.ofRatio_of_holds`). In particular a ratio that is the value of a magnitude is rounded to
that magnitude (`Binary64.ofRatio_of_eq_value`).
-/

set_option autoImplicit false

namespace Lox.Binary64

/-! ## Rounding a quotient -/

section Quotient

variable {numerator denominator rounded : Nat}

/-- A quotient that is at most one half off is rounded, where at exactly one half only to an even
number. -/
theorem roundHalfEven_eq (positive : 0 < denominator)
    (lower : 2 * (rounded * denominator) ≤ 2 * numerator + denominator)
    (upper : 2 * numerator ≤ 2 * (rounded * denominator) + denominator)
    (tie : 2 * (rounded * denominator) = 2 * numerator + denominator ∨
      2 * numerator = 2 * (rounded * denominator) + denominator → rounded % 2 = 0) :
    roundHalfEven numerator denominator = rounded := by
  have parts := Nat.div_add_mod numerator denominator
  have small := Nat.mod_lt numerator positive
  simp only [roundHalfEven]
  generalize numerator / denominator = quotient at parts ⊢
  generalize numerator % denominator = remainder at parts small ⊢
  rw [Nat.mul_comm] at parts
  have least : quotient ≤ rounded := by
    refine Nat.le_of_not_lt fun less => ?_
    have := Nat.mul_le_mul_right denominator (show rounded + 1 ≤ quotient from less)
    rw [Nat.add_mul] at this
    omega
  have greatest : rounded ≤ quotient + 1 := by
    refine Nat.le_of_not_lt fun more => ?_
    have := Nat.mul_le_mul_right denominator (show quotient + 2 ≤ rounded from more)
    rw [Nat.add_mul] at this
    omega
  rcases Nat.eq_or_lt_of_le least with rfl | above
  · split
    · rfl
    · split
      · omega
      · rw [tie (.inr (by omega)), Nat.add_zero]
  · obtain rfl : rounded = quotient + 1 := by omega
    rw [Nat.add_mul, Nat.one_mul] at lower tie
    split
    · omega
    · split
      · rfl
      · have := tie (.inl (by omega))
        omega

end Quotient

/-! ## Scales -/

variable {magnitude : Magnitude} {scale numerator denominator rounded : Nat}

theorem unitsPerOne_eq : unitsPerOne = 2 ^ 1074 := by
  unfold unitsPerOne
  -- The power is not to be evaluated.
  generalize 1074 = exponent
  rfl

theorem unitsPerOne_pos : 0 < unitsPerOne := by
  unfold unitsPerOne
  generalize 1074 = exponent
  exact Nat.pow_pos (Nat.succ_pos 1)

theorem significandBound_eq : significandBound = 2 ^ 53 := rfl

/-- The scale that leaves 53 binary digits, or none where there are fewer. -/
theorem scaleOf_eq {units : Nat} (upper : units < 2 ^ (53 + scale))
    (lower : scale ≠ 0 → 2 ^ (52 + scale) ≤ units) : scaleOf units = scale := by
  unfold scaleOf
  by_cases zero : units = 0
  · subst zero
    rw [Nat.log2_zero]
    refine Nat.eq_zero_of_not_pos ?_ |>.symm
    intro positive
    have := lower (Nat.pos_iff_ne_zero.mp positive)
    have : 0 < 2 ^ (52 + scale) := by positivity
    omega
  · have below := (Nat.log2_lt zero).mpr upper
    by_cases unscaled : scale = 0
    · omega
    · have := (Nat.le_log2 zero).mpr (lower unscaled)
      omega

theorem two_pow_add_mul (digits scale denominator : Nat) :
    2 ^ (digits + scale) * denominator = 2 ^ digits * (denominator * 2 ^ scale) := by
  rw [Nat.pow_add]
  ring

/-- A ratio is rounded at the scale at which it has 53 binary digits, or fewer at the least one. -/
theorem ofRatio_eq_ofScaled (positive : 0 < denominator)
    (upper : numerator * unitsPerOne < 2 ^ 53 * (denominator * 2 ^ scale))
    (lower : scale ≠ 0 → 2 ^ 52 * (denominator * 2 ^ scale) ≤ numerator * unitsPerOne)
    (rounds : roundHalfEven (numerator * unitsPerOne) (denominator * 2 ^ scale) = rounded)
    (most : rounded ≤ significandBound) (full : scale ≠ 0 → 2 ^ 52 ≤ rounded) :
    ofRatio false numerator denominator = ofScaled false rounded scale most full := by
  simp only [ofRatio, Nat.pow_eq]
  generalize numerator * unitsPerOne = units at *
  have atScale : scaleOf (units / denominator) = scale := by
    refine scaleOf_eq ?_ fun scaled => ?_
    · rwa [Nat.div_lt_iff_lt_mul positive, two_pow_add_mul]
    · rw [Nat.le_div_iff_mul_le positive, two_pow_add_mul]
      exact lower scaled
  simp only [atScale, rounds]

theorem ofScaled_cases (most : rounded ≤ significandBound) (full : scale ≠ 0 → 2 ^ 52 ≤ rounded) :
    ofScaled false rounded scale most full = infinite false ∨
      ∃ magnitude, ofScaled false rounded scale most full = signed false magnitude := by
  unfold ofScaled
  split
  · split
    · exact .inr ⟨_, rfl⟩
    · exact .inl rfl
  · split
    · exact .inr ⟨_, rfl⟩
    · exact .inl rfl

/-- Rounding gives infinity or a finite number. -/
theorem ofRatio_cases (numerator denominator : Nat) :
    ofRatio false numerator denominator = infinite false ∨
      ∃ magnitude, ofRatio false numerator denominator = signed false magnitude :=
  ofScaled_cases roundHalfEven_scaleOf_le le_roundHalfEven_scaleOf

/-! ## The numbers that round to a number -/

/-- A number of quarters of a unit lies in an interval, at an end of it only if it is closed. -/
structure Interval.Holds (interval : Interval) (quarters : ℚ) : Prop where
  low_le : interval.low ≤ quarters
  le_high : quarters ≤ interval.high
  closed : quarters = interval.low ∨ quarters = interval.high → interval.closed = true

theorem Interval.holds_iff {interval : Interval} (positive : 0 < denominator) :
    interval.Holds ((numerator : ℚ) / denominator) ↔
      interval.low * denominator ≤ numerator ∧ numerator ≤ interval.high * denominator ∧
        (numerator = interval.low * denominator ∨ numerator = interval.high * denominator →
          interval.closed = true) := by
  have positive : (0 : ℚ) < denominator := by exact_mod_cast positive
  have lower : (interval.low : ℚ) ≤ numerator / denominator ↔
      interval.low * denominator ≤ numerator := by
    rw [le_div_iff₀ positive]
    norm_cast
  have upper : (numerator / denominator : ℚ) ≤ interval.high ↔
      numerator ≤ interval.high * denominator := by
    rw [div_le_iff₀ positive]
    norm_cast
  have atLow : (numerator / denominator : ℚ) = interval.low ↔
      numerator = interval.low * denominator := by
    rw [div_eq_iff positive.ne']
    norm_cast
  have atHigh : (numerator / denominator : ℚ) = interval.high ↔
      numerator = interval.high * denominator := by
    rw [div_eq_iff positive.ne']
    norm_cast
  rw [← lower, ← upper, ← atLow, ← atHigh]
  exact ⟨fun ⟨low, high, ends⟩ => ⟨low, high, ends⟩, fun ⟨low, high, ends⟩ => ⟨low, high, ends⟩⟩

theorem Interval.contains_iff {interval : Interval} (positive : 0 < denominator) :
    interval.contains numerator denominator = true ↔
      interval.Holds ((numerator : ℚ) / denominator) := by
  rw [holds_iff positive, Interval.contains]
  cases interval.closed with
  | true => simp
  | false =>
    simp only [Bool.false_eq_true, if_false, Bool.and_eq_true, decide_eq_true_eq, imp_false]
    omega

/-- What is between two numbers of an interval is in the interval. -/
theorem Interval.Holds.between {interval : Interval} {first second middle : ℚ}
    (lower : interval.Holds first) (upper : interval.Holds second) (above : first ≤ middle)
    (below : middle ≤ second) : interval.Holds middle := by
  refine ⟨lower.low_le.trans above, below.trans upper.le_high, ?_⟩
  rintro (rfl | rfl)
  · exact lower.closed (.inl (above.antisymm lower.low_le))
  · exact upper.closed (.inr (upper.le_high.antisymm below))

/-- A rational number in quarters of a unit. -/
def quarters (ratio : ℚ) : ℚ := 4 * unitsPerOne * ratio

theorem quarters_zero : quarters 0 = 0 := mul_zero _

theorem quarters_le_iff {first second : ℚ} : quarters first ≤ quarters second ↔ first ≤ second := by
  have positive : (0 : ℚ) < 4 * unitsPerOne := by
    have : (0 : ℚ) < unitsPerOne := by exact_mod_cast unitsPerOne_pos
    positivity
  exact mul_le_mul_iff_right₀ positive

/-- The rational number that a magnitude stands for. -/
def Magnitude.value (magnitude : Magnitude) : ℚ :=
  magnitude.significand * 2 ^ magnitude.scale / unitsPerOne

theorem Magnitude.value_of_eq_zero (zero : magnitude.significand = 0) : magnitude.value = 0 := by
  rw [value, zero, Nat.cast_zero, zero_mul, zero_div]

theorem quarters_value (magnitude : Magnitude) :
    quarters magnitude.value = 4 * (magnitude.significand * 2 ^ magnitude.scale) := by
  have : (unitsPerOne : ℚ) ≠ 0 := by exact_mod_cast unitsPerOne_pos.ne'
  unfold quarters Magnitude.value
  field_simp

/-! ### The interval of a number -/

namespace Interval

theorem middle_of (magnitude : Magnitude) :
    (of magnitude).middle = 4 * (magnitude.significand * 2 ^ magnitude.scale) := rfl

theorem high_of (magnitude : Magnitude) :
    (of magnitude).high =
      4 * (magnitude.significand * 2 ^ magnitude.scale) + 2 * 2 ^ magnitude.scale := rfl

theorem low_of (magnitude : Magnitude) :
    (of magnitude).low = 4 * (magnitude.significand * 2 ^ magnitude.scale) -
      (if magnitude.significand = 2 ^ 52 ∧ magnitude.scale ≠ 0 then 2 ^ magnitude.scale
        else 2 * 2 ^ magnitude.scale) := by
  simp [of, Magnitude.units]

theorem closed_of (magnitude : Magnitude) :
    (of magnitude).closed = true ↔ magnitude.significand % 2 = 0 := by
  simp [of]

end Interval

/-- A number is in its own interval. -/
theorem holds_value (magnitude : Magnitude) :
    (Interval.of magnitude).Holds (quarters magnitude.value) := by
  have unit : 0 < 2 ^ magnitude.scale := by positivity
  have whole : quarters magnitude.value =
      ((4 * (magnitude.significand * 2 ^ magnitude.scale) : ℕ) : ℚ) / (1 : ℕ) := by
    rw [quarters_value]
    simp
  rw [whole, Interval.holds_iff Nat.one_pos, Interval.low_of, Interval.high_of, Interval.closed_of]
  refine ⟨by omega, by omega, ?_⟩
  rintro (none | none)
  · have : magnitude.significand * 2 ^ magnitude.scale = 0 := by
      split at none <;> omega
    rcases Nat.mul_eq_zero.mp this with zero | zero
    · rw [zero]
    · omega
  · omega

/-- A ratio in the interval of a number differs from it by at most one half of its unit, and by
less below the smallest significand with all digits. -/
theorem bounds_of_holds (positive : 0 < denominator)
    (holds : (Interval.of magnitude).Holds (quarters (numerator / denominator))) :
    let significand := magnitude.significand
    let scale := magnitude.scale
    let units := numerator * unitsPerOne
    let unit := denominator * 2 ^ scale
    4 * (significand * unit) ≤ 4 * units + 2 * unit ∧
      4 * units ≤ 4 * (significand * unit) + 2 * unit ∧
      (4 * (significand * unit) = 4 * units + 2 * unit ∨
        4 * units = 4 * (significand * unit) + 2 * unit → significand % 2 = 0) ∧
      (significand = 2 ^ 52 → scale ≠ 0 → 4 * (significand * unit) ≤ 4 * units + unit) := by
  intro significand scale units unit
  have ratio : quarters (numerator / denominator) =
      ((4 * units : ℕ) : ℚ) / denominator := by
    simp only [quarters, units]
    push_cast
    ring
  rw [ratio, Interval.holds_iff positive, Interval.low_of, Interval.high_of,
    Interval.closed_of, Nat.sub_mul, Nat.add_mul] at holds
  have middle : 4 * (significand * 2 ^ scale) * denominator = 4 * (significand * unit) := by
    simp only [unit]
    ring
  have half : 2 * 2 ^ scale * denominator = 2 * unit := by
    simp only [unit]
    ring
  have quarter : 2 ^ scale * denominator = unit := Nat.mul_comm ..
  obtain ⟨lower, upper, ends⟩ := holds
  rw [middle] at lower upper ends
  rw [half] at upper ends
  have filled : 0 < unit := by positivity
  split at lower
  · next power =>
    rw [if_pos power, quarter] at ends
    rw [quarter] at lower
    exact ⟨by omega, upper, fun _ => (congrArg (· % 2) power.1).trans (by decide),
      fun _ _ => by omega⟩
  · next ordinary =>
    rw [if_neg ordinary, half] at ends
    rw [half] at lower
    refine ⟨by omega, upper, fun tie => ends (by omega), fun same scaled => ?_⟩
    exact absurd ⟨same, scaled⟩ ordinary

theorem ofScaled_of_magnitude (magnitude : Magnitude)
    (most : magnitude.significand ≤ significandBound) :
    ofScaled false magnitude.significand magnitude.scale most magnitude.full =
      signed false magnitude := by
  rw [ofScaled, dif_neg magnitude.significand_lt.ne, dif_pos magnitude.scale_le]
  rfl

/-- Rounding up to the first significand with too many digits gives the number above. -/
theorem ofScaled_carried (within : scale + 1 ≤ maxScale)
    (full : scale ≠ 0 → 2 ^ 52 ≤ significandBound) :
    ofScaled false significandBound scale (Nat.le_refl _) full =
      finite false (2 ^ 52) (scale + 1) (by decide) within fun _ => Nat.le_refl _ := by
  rw [ofScaled, dif_pos rfl, dif_pos within]
  rfl

/-- A ratio that is less than half a unit below the first significand with too many digits is
rounded up to it. -/
theorem ofRatio_carried (positive : 0 < denominator) (within : scale + 1 ≤ maxScale)
    (below : numerator * unitsPerOne < 2 ^ 53 * (denominator * 2 ^ scale))
    (near : 2 * (2 ^ 53 * (denominator * 2 ^ scale)) ≤
      2 * (numerator * unitsPerOne) + denominator * 2 ^ scale) :
    ofRatio false numerator denominator =
      finite false (2 ^ 52) (scale + 1) (by decide) within fun _ => Nat.le_refl _ := by
  have unit : 0 < denominator * 2 ^ scale := by positivity
  have rounds : roundHalfEven (numerator * unitsPerOne) (denominator * 2 ^ scale) =
      significandBound := by
    rw [significandBound_eq]
    exact roundHalfEven_eq unit near (by omega) fun _ => by decide
  have full : scale ≠ 0 → 2 ^ 52 ≤ significandBound := fun _ => by decide
  rw [ofRatio_eq_ofScaled positive below (fun _ => by omega) rounds (Nat.le_refl _) full]
  exact ofScaled_carried within full

/-- **The ratios in the interval of a number are rounded to it.** -/
theorem ofRatio_of_holds (positive : 0 < denominator)
    (holds : (Interval.of magnitude).Holds (quarters (numerator / denominator))) :
    ofRatio false numerator denominator = signed false magnitude := by
  obtain ⟨lower, upper, tie, power⟩ := bounds_of_holds positive holds
  obtain ⟨significand, scale, significand_lt, scale_le, full⟩ := magnitude
  simp only at lower upper tie power
  have unit : 0 < denominator * 2 ^ scale := by positivity
  by_cases inScale : scale ≠ 0 → 2 ^ 52 * (denominator * 2 ^ scale) ≤ numerator * unitsPerOne
  · have below : numerator * unitsPerOne < 2 ^ 53 * (denominator * 2 ^ scale) := by
      have := Nat.mul_le_mul_right (denominator * 2 ^ scale) significand_lt
      rw [Nat.succ_eq_add_one, Nat.add_mul, significandBound_eq] at this
      omega
    have rounds : roundHalfEven (numerator * unitsPerOne) (denominator * 2 ^ scale) =
        significand := roundHalfEven_eq unit (by omega) (by omega) fun half => tie (by omega)
    rw [ofRatio_eq_ofScaled positive below inScale rounds significand_lt.le full]
    exact ofScaled_of_magnitude ⟨significand, scale, significand_lt, scale_le, full⟩ _
  · -- The ratio is below the smallest significand with all digits, so it has a smaller scale.
    obtain ⟨scaled, below⟩ := Classical.not_imp.mp inScale
    obtain rfl : significand = 2 ^ 52 := by
      refine Nat.le_antisymm (Nat.le_of_not_lt fun more => ?_) (full scaled)
      have := Nat.mul_le_mul_right (denominator * 2 ^ scale) more
      rw [Nat.succ_eq_add_one, Nat.add_mul] at this
      omega
    have near := power rfl scaled
    obtain ⟨smaller, rfl⟩ := Nat.exists_eq_succ_of_ne_zero scaled
    have double : denominator * 2 ^ (smaller + 1) = 2 * (denominator * 2 ^ smaller) := by
      rw [Nat.pow_succ]
      ring
    rw [Nat.succ_eq_add_one, double] at below near
    exact ofRatio_carried positive scale_le (by omega) (by omega)

/-- A ratio that is the value of a magnitude is rounded to that magnitude. -/
theorem ofRatio_of_eq_value (positive : 0 < denominator)
    (same : (numerator / denominator : ℚ) = magnitude.value) :
    ofRatio false numerator denominator = signed false magnitude := by
  refine ofRatio_of_holds positive ?_
  rw [same]
  exact holds_value magnitude

end Lox.Binary64
