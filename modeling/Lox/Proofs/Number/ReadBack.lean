import Lox.Proofs.Number.Integral
import Lox.Proofs.Number.Spelling

/-!
# Which numbers are read back from their printed form

A number that is printed with digits, or with digits around a point, is scanned back as itself: an
integer because its digits are its value, and any other number because its shortest decimal is
rounded to it (`Binary64.spells_print`). Printed with an exponent, or as the name of infinity, it
has a letter, so it is not scanned as a number (`Value.not_readsBack_of_letter`).

The shortest decimal of a number without a fraction is not printed. That of any other number is
below ten to the sixteenth, and it is one ten-thousandth or more exactly if the number is
(`Binary64.le_shortest_iff`). So a number that the scanner finds is read back exactly if it is zero
or finite and at least one ten-thousandth (`Scan.readsBack_iff_isModerate`).
-/

set_option autoImplicit false

namespace Lox

/-! ## The exponent of the shortest decimal -/

namespace Binary64

variable {magnitude : Magnitude}

/-- A number that is no integer. -/
def Magnitude.IsFractional (magnitude : Magnitude) : Prop :=
  ∀ number : Nat, magnitude.value ≠ number

namespace Magnitude.IsFractional

theorem pos (fractional : magnitude.IsFractional) : 0 < magnitude.significand :=
  Nat.pos_of_ne_zero fun zero =>
    fractional 0 ((value_of_eq_zero zero).trans Nat.cast_zero.symm)

/-- A number with a fraction is written with a unit below one. -/
theorem scale_lt (fractional : magnitude.IsFractional) : magnitude.scale < 1074 := by
  refine Nat.lt_of_not_le fun large => ?_
  obtain ⟨further, scaled⟩ := Nat.exists_eq_add_of_le large
  refine fractional (magnitude.significand * 2 ^ further) (value_eq_natCast_iff.mpr ?_)
  rw [unitsPerOne_eq, scaled]
  -- The power is not to be evaluated.
  generalize 1074 = one
  rw [Nat.pow_add]
  ring

/-- The shortest decimal of a number with a fraction is not large. -/
theorem shortest_lt (fractional : magnitude.IsFractional) :
    magnitude.shortest.value < 10 ^ 16 := by
  obtain ⟨half, one, unit⟩ : ∃ half, unitsPerOne = half * 2 ∧ 2 ^ magnitude.scale ≤ half := by
    have small := fractional.scale_lt
    have exponents : 1074 = 1073 + 1 := rfl
    rw [exponents] at small
    rw [unitsPerOne_eq, exponents]
    -- The power is not to be evaluated.
    generalize 1073 = last at *
    exact ⟨2 ^ last, Nat.pow_succ .., Nat.pow_le_pow_right (by decide) (Nat.le_of_lt_succ small)⟩
  have filled : 0 < 2 ^ magnitude.scale := by positivity
  have bound : magnitude.significand * 2 ^ magnitude.scale ≤ 2 ^ 53 * 2 ^ magnitude.scale :=
    Nat.mul_le_mul_right _ magnitude.significand_lt.le
  have high := (holds_shortest fractional.pos).le_high
  have most : (Interval.of magnitude).high ≤ (4 * 2 ^ 53 + 2) * half := by
    rw [Interval.high_of]
    omega
  have most : ((Interval.of magnitude).high : ℚ) ≤ (4 * 2 ^ 53 + 2) * half := by
    exact_mod_cast most
  have filled : (0 : ℚ) < half := by exact_mod_cast filled.trans_le unit
  refine lt_of_not_ge fun large => ?_
  have := mul_le_mul_of_nonneg_left large filled.le
  rw [quarters, one] at high
  push_cast at high
  linarith

end Magnitude.IsFractional

/-- Where a number is one ten-thousandth or more is told from the counts of units. -/
theorem le_value_iff :
    1 / 10 ^ 4 ≤ magnitude.value ↔
      unitsPerOne ≤ magnitude.significand * 2 ^ magnitude.scale * 10 ^ 4 := by
  have ones : (0 : ℚ) < unitsPerOne := Nat.cast_pos.mpr unitsPerOne_pos
  rw [Magnitude.value, div_le_div_iff₀ (by norm_num) ones, one_mul]
  -- The integer one is not to be evaluated.
  generalize unitsPerOne = one at *
  norm_cast

/-- The magnitude nearest to one ten-thousandth. -/
def tenThousandth : Magnitude :=
  ⟨7378697629483821, 1008, by decide, by decide, by decide⟩

/-- The number nearest to one ten-thousandth is above it, and its shortest decimal is just that. -/
theorem of_holds_tenThousandth (holds : (Interval.of magnitude).Holds (quarters (1 / 10 ^ 4))) :
    1 / 10 ^ 4 ≤ magnitude.value ∧ magnitude.shortest.value = 1 / 10 ^ 4 := by
  have nearest : ofRatio false 1 10000 = signed false tenThousandth := by decide +kernel
  have above : unitsPerOne ≤ tenThousandth.significand * 2 ^ tenThousandth.scale * 10 ^ 4 := by
    decide +kernel
  have digits : tenThousandth.shortest.digits = ['1'] := by decide +kernel
  have point : tenThousandth.shortest.point = -3 := by decide +kernel
  have ratio : (1 / 10 ^ 4 : ℚ) = (1 : ℕ) / (10000 : ℕ) := by norm_num
  rw [ratio] at holds
  have rounded := ofRatio_of_holds (by decide) holds
  rw [nearest] at rounded
  obtain ⟨-, rfl⟩ := signed.inj rounded
  refine ⟨le_value_iff.mpr above, ?_⟩
  have one : digitsValue ['1'] = 1 := rfl
  rw [Decimal.value, digits, point, one]
  norm_num

/-- **The shortest decimal of a number is one ten-thousandth or more exactly if the number is.** -/
theorem le_shortest_iff (positive : 0 < magnitude.significand) :
    1 / 10 ^ 4 ≤ magnitude.shortest.value ↔ 1 / 10 ^ 4 ≤ magnitude.value := by
  have shortest := holds_shortest positive
  have own := holds_value magnitude
  -- If one ten-thousandth is between the number and its decimal, it is rounded to the number.
  constructor
  · intro above
    refine le_of_not_gt fun below => ?_
    have between := own.between shortest (quarters_le_iff.mpr below.le) (quarters_le_iff.mpr above)
    exact below.not_ge (of_holds_tenThousandth between).1
  · intro above
    refine le_of_not_gt fun below => ?_
    have between := shortest.between own (quarters_le_iff.mpr below.le) (quarters_le_iff.mpr above)
    exact below.ne (of_holds_tenThousandth between).2

/-- The decimal exponent of a number that is not small is not small. -/
theorem le_point_iff (positive : 0 < magnitude.significand) :
    -4 ≤ magnitude.shortest.point - 1 ↔ 1 / 10 ^ 4 ≤ magnitude.value := by
  obtain ⟨lower, upper⟩ := shortest_bounds positive
  have power : (1 / 10 ^ 4 : ℚ) = 10 ^ (-4 : ℤ) := by norm_num
  rw [← le_shortest_iff positive, power]
  constructor
  · exact fun large => (zpow_le_zpow_right₀ (by norm_num) large).trans lower
  · intro large
    have := (zpow_lt_zpow_iff_right₀ (by norm_num)).mp (large.trans_lt upper)
    omega

/-! ## Printed forms that are numbers -/

/-- A number that is zero, or finite and at least one ten-thousandth. -/
def IsModerate : Binary64 → Prop
  | signed _ magnitude => magnitude.significand = 0 ∨ 1 / 10 ^ 4 ≤ magnitude.value
  | _ => False

/-- A number with a fraction is printed by its shortest decimal. -/
theorem Magnitude.IsFractional.print_eq (fractional : magnitude.IsFractional) :
    (Value.number (signed false magnitude)).print.toList =
      Spelling.standard.decimal magnitude.shortest := by
  have noInteger : (signed false magnitude).integer? = none := by
    refine Option.eq_none_iff_forall_ne_some.mpr fun count found => ?_
    obtain ⟨number, _, same⟩ := integer?_eq_some_iff.mp found
    exact fractional number same
  simp only [Value.print, noInteger, Spelling.number, if_neg fractional.pos.ne', Bool.false_eq_true,
    if_false, String.toList_append, String.toList_ofList]
  rfl

/-- Digits around a point that stand for the shortest decimal of a number are rounded to it. -/
theorem ofDigits_of_pointed_eq (positive : 0 < magnitude.significand)
    {whole fraction : List Char}
    (same : Spelling.pointed whole fraction = magnitude.shortest.value) :
    ofDigits whole fraction = signed false magnitude := by
  refine ofRatio_of_holds (Nat.pow_pos (by decide)) ?_
  have ratio : (digitsValue (whole ++ fraction) : ℚ) / (Nat.pow 10 fraction.length : ℕ) =
      magnitude.shortest.value := same
  rw [ratio]
  exact holds_shortest positive

/-- An integer is printed as digits that are rounded to it. -/
theorem spells_print_of_value_eq {number : Nat} (same : magnitude.value = number) :
    Lexeme.Spells .number (.number (signed false magnitude))
      (Value.number (signed false magnitude)).print.toList := by
  rw [Value.print_of_value_eq same, Nat.toString_eq_ofList_toDigits, String.toList_ofList]
  rw [← digitsValue_decimalDigits number] at same
  have rounded : ofDigits (decimalDigits number) [] = signed false magnitude :=
    ofDigits_of_value_eq same 0
  have areDigits := areDigits_decimalDigits number
  exact rounded ▸ .whole areDigits.1 areDigits.2

/-- A number with a fraction that is not small is printed as digits around a point. -/
theorem Magnitude.IsFractional.decimal_eq_plain (fractional : magnitude.IsFractional)
    (large : 1 / 10 ^ 4 ≤ magnitude.value) :
    Spelling.standard.decimal magnitude.shortest = Spelling.plain magnitude.shortest := by
  have least := (le_point_iff fractional.pos).mpr large
  have most : magnitude.shortest.point - 1 < 16 := by
    have := (shortest_bounds fractional.pos).1.trans_lt fractional.shortest_lt
    rw [← zpow_natCast] at this
    exact (zpow_lt_zpow_iff_right₀ (by norm_num)).mp this
  simp [Spelling.decimal, Spelling.standard, least, most]

/-- A number with a fraction that is small is printed with an exponent. -/
theorem Magnitude.IsFractional.decimal_eq_scientific (fractional : magnitude.IsFractional)
    (small : ¬ 1 / 10 ^ 4 ≤ magnitude.value) :
    Spelling.standard.decimal magnitude.shortest =
      Spelling.standard.scientific magnitude.shortest := by
  have low := mt (le_point_iff fractional.pos).mp small
  simp [Spelling.decimal, Spelling.standard, low]

/-- **A moderate number is printed as a number that is rounded to it.** -/
theorem spells_print (moderate : (signed false magnitude).IsModerate) :
    Lexeme.Spells .number (.number (signed false magnitude))
      (Value.number (signed false magnitude)).print.toList := by
  by_cases integral : ∃ number : Nat, magnitude.value = number
  · obtain ⟨number, same⟩ := integral
    exact spells_print_of_value_eq same
  · have fractional : magnitude.IsFractional := not_exists.mp integral
    have plain := fractional.decimal_eq_plain (moderate.resolve_left fractional.pos.ne')
    obtain ⟨whole, fraction, text, areDigits, ⟨filled, further⟩, same⟩ :=
      Spelling.exists_plain_eq (shortest_digits_ne_nil fractional.pos)
        fun _ => isDigit_of_mem_shortest
    have spells := Lexeme.spells_numberText areDigits further
    rw [ofDigits_of_pointed_eq fractional.pos same, Lexeme.numberText,
      List.isEmpty_eq_false_iff.mpr filled] at spells
    rwa [fractional.print_eq, plain, text]

/-- **Any other number is printed with a letter.** -/
theorem e_mem_print (immoderate : ¬ (signed false magnitude).IsModerate) :
    'e' ∈ (Value.number (signed false magnitude)).print.toList := by
  obtain ⟨positive, small⟩ := not_or.mp immoderate
  have fractional : magnitude.IsFractional := by
    intro number same
    rw [same] at small
    have zero : (number : ℚ) < 1 := lt_of_not_ge fun large => small (le_trans (by norm_num) large)
    obtain rfl : number = 0 := Nat.lt_one_iff.mp (by exact_mod_cast zero)
    rw [Magnitude.value_eq_natCast_iff, Nat.zero_mul] at same
    exact (Nat.mul_pos (Nat.pos_of_ne_zero positive) (by positivity)).ne' same
  rw [fractional.print_eq, fractional.decimal_eq_scientific small]
  exact Spelling.e_mem_scientific

end Binary64

/-! ## Reading back -/

/-- The printed form of a value, scanned by itself, is one number with an equal value. -/
structure Value.ReadsBack (value : Value) (file : String) : Prop where
  errors : (Scan.ofText file value.print.toList).errors = []
  body : ∃ token, (Scan.ofText file value.print.toList).tokens.body = [token] ∧
    token.kind = .number ∧ token.value.same value = true

theorem Value.readsBack_of_spells {magnitude : Binary64.Magnitude}
    (spells : Lexeme.Spells .number (.number (.signed false magnitude))
      (Value.number (.signed false magnitude)).print.toList) (file : String) :
    (Value.number (.signed false magnitude)).ReadsBack file := by
  obtain ⟨errors, body⟩ := Scan.ofText_of_spells spells file
  exact ⟨errors, _, body, rfl, beq_self_eq_true _⟩

/-- There is no trivia in a printed number. -/
theorem Spelling.isSolid_of_isNumeric {c : Char} (numeric : isNumeric c = true) :
    Text.isSolid c = true := by
  simp only [isNumeric, Bool.or_eq_true, beq_iff_eq] at numeric
  rcases numeric with ((letter | rfl) | rfl) | rfl
  · have part : Lexeme.isWordPart c = true := by
      simp only [Char.isAlphanum, Bool.or_eq_true] at letter
      simp only [Lexeme.isWordPart, Lexeme.isWordStart, Bool.or_eq_true]
      exact letter.imp_left .inl
    have slash : c ≠ '/' := by
      rintro rfl
      contradiction
    simp [Text.isSolid, Lexeme.isBlank_eq_false_of_isWordPart part, slash]
  · decide
  · decide
  · decide

/-- A number that is printed with a letter is not read back. -/
theorem Value.not_readsBack_of_letter {binary : Binary64} {c : Char}
    (member : c ∈ (Value.number binary).print.toList) (letter : c.isAlpha = true) (file : String) :
    ¬ (Value.number binary).ReadsBack file := by
  rintro ⟨errors, token, body, number, _⟩
  have solid : ∀ c ∈ (Value.number binary).print.toList, Text.isSolid c = true :=
    fun c member => Spelling.isSolid_of_isNumeric (isNumeric_of_mem_print member)
  have spells := Scan.spells_of_body_eq solid errors body
  rw [number] at spells
  rcases Lexeme.isDigit_of_mem_number spells member with digit | rfl
  · have := Lexeme.isWordStart_eq_false_of_isDigit digit
    simp [Lexeme.isWordStart, letter] at this
  · contradiction

namespace Scan

variable {file : String} {text : List Char} {token : Token}

/-- **A number that the scanner finds is read back from its printed form exactly if it is zero, or
finite and at least one ten-thousandth.** Smaller ones are printed with an exponent and too large
ones as infinity, and neither is written like a number. -/
theorem readsBack_iff_isModerate (member : token ∈ (ofText file text).tokens.body)
    (number : token.kind = .number) :
    ∃ binary, token.value = .number binary ∧
      ∀ name, token.value.ReadsBack name ↔ binary.IsModerate := by
  have spells := spells_of_mem_body member
  rw [number] at spells
  obtain ⟨whole, fraction, _, _, value, _⟩ := Lexeme.spells_number_iff.mp spells
  refine ⟨_, value, fun name => ?_⟩
  rw [value]
  rw [Binary64.ofDigits]
  rcases Binary64.ofRatio_cases (Binary64.digitsValue (whole ++ fraction))
    (Nat.pow 10 fraction.length) with infinite | ⟨magnitude, finite⟩
  · rw [infinite]
    have letter : 'i' ∈ (Value.number (.infinite false)).print.toList := by decide
    exact iff_of_false (Value.not_readsBack_of_letter letter (by decide) name) id
  · rw [finite]
    constructor
    · refine Function.mtr fun immoderate => ?_
      exact Value.not_readsBack_of_letter (Binary64.e_mem_print immoderate) (by decide) name
    · exact fun moderate => Value.readsBack_of_spells (Binary64.spells_print moderate) name

/-- A text that is a lexeme has a token of its kind and value. -/
theorem exists_token_of_spells {kind : TokenKind} {value : Value}
    (spells : Lexeme.Spells kind value text) (file : String) :
    ∃ token ∈ (ofText file text).tokens.body, token.kind = kind ∧ token.value = value := by
  rw [(ofText_of_spells spells file).2]
  exact ⟨_, List.mem_singleton_self _, rfl, rfl⟩

/-- The number nearest to one half is read back. -/
theorem readsBack_iff_isModerate_half :
    ∃ token ∈ (ofText "" "0.5".toList).tokens.body, token.kind = .number ∧
      token.value.print = "0.5" ∧ token.value.ReadsBack "" := by
  have spells : Lexeme.Spells .number (.number (Binary64.ofDigits ['0'] ['5'])) "0.5".toList :=
    Lexeme.spells_numberText ⟨by decide, List.all_eq_true.mp rfl⟩ (List.all_eq_true.mp rfl)
  have half : Binary64.ofDigits ['0'] ['5'] = .finite false (2 ^ 52) 1021 := by decide +kernel
  have printed : (Value.number (.finite false (2 ^ 52) 1021)).print = "0.5" := by decide +kernel
  have moderate : (Binary64.finite false (2 ^ 52) 1021).IsModerate :=
    .inr (Binary64.le_value_iff.mpr (by decide +kernel))
  rw [half] at spells
  obtain ⟨token, member, number, value⟩ := exists_token_of_spells spells ""
  obtain ⟨binary, same, readsBack⟩ := readsBack_iff_isModerate member number
  obtain rfl := Value.number.inj (value.symm.trans same)
  exact ⟨token, member, number, value ▸ printed, (readsBack "").mpr moderate⟩

/-- The number nearest to one hundred-thousandth is printed with an exponent and not read back. -/
theorem not_readsBack_hundredThousandth :
    ∃ token ∈ (ofText "" "0.00001".toList).tokens.body, token.kind = .number ∧
      token.value.print = "1e-05" ∧ ¬ token.value.ReadsBack "" := by
  have spells : Lexeme.Spells .number (.number (Binary64.ofDigits ['0'] "00001".toList))
      "0.00001".toList :=
    Lexeme.spells_numberText ⟨by decide, List.all_eq_true.mp rfl⟩ (List.all_eq_true.mp rfl)
  have printed : (Value.number (Binary64.ofDigits ['0'] "00001".toList)).print = "1e-05" := by
    decide +kernel
  -- The number is not to be evaluated again.
  generalize Binary64.ofDigits ['0'] "00001".toList = binary at spells printed
  obtain ⟨token, member, number, value⟩ := exists_token_of_spells spells ""
  refine ⟨token, member, number, value ▸ printed, ?_⟩
  rw [value]
  refine Value.not_readsBack_of_letter (c := 'e') ?_ (by decide) ""
  rw [printed]
  decide

end Scan
end Lox
