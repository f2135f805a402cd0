import Lox.Proofs.Number.Shortest
import Lox.Proofs.Reading
import Lox.Proofs.Scan.Numeral

/-!
# Integers among the numbers

A number that is an integer is printed as its decimal digits (`Value.print_of_value_eq`). The
integers up to the first one with 54 binary digits are numbers of the format
(`Binary64.exists_magnitude_of_le`), so a text that denotes one of them is rounded to just that
integer, however many zeros stand before it or behind its point. It is printed without them
(`Reading.exists_literal_of_integer`).
-/

set_option autoImplicit false

namespace Lox

namespace Binary64

variable {magnitude : Magnitude} {number : Nat} {digits : List Char}

/-! ## Integers of the format -/

namespace Magnitude

theorem value_eq_natCast_iff :
    magnitude.value = number ↔
      magnitude.significand * 2 ^ magnitude.scale = number * unitsPerOne := by
  have ones : (unitsPerOne : ℚ) ≠ 0 := by exact_mod_cast unitsPerOne_pos.ne'
  rw [value, div_eq_iff ones]
  -- The integer one is not to be evaluated.
  generalize unitsPerOne = one at *
  norm_cast

/-- At the scale 1022 a significand of 53 binary digits counts from one up to two. -/
theorem value_eq_of_mul_eq {places : Nat} (scaled : magnitude.scale = 1022 + places)
    (same : magnitude.significand * 2 ^ places = number * 2 ^ 52) : magnitude.value = number := by
  have exponents : 1074 = 1022 + 52 := rfl
  rw [value_eq_natCast_iff, unitsPerOne_eq, exponents, scaled]
  -- The power is not to be evaluated.
  generalize 1022 = shift
  rw [Nat.pow_add, Nat.pow_add, Nat.mul_left_comm, same, Nat.mul_left_comm]

end Magnitude

/-- The integer that a number equals is its quotient by the integer one, if nothing remains. -/
theorem integer?_signed (magnitude : Magnitude) :
    (signed false magnitude).integer? =
      if magnitude.significand * 2 ^ magnitude.scale % unitsPerOne = 0 then
        some ((magnitude.significand * 2 ^ magnitude.scale / unitsPerOne : Nat) : Int)
      else none := by
  simp only [integer?, units?, Magnitude.units, Nat.pow_eq, Bool.false_eq_true, if_false,
    Option.bind_some, Int.ofNat_eq_natCast]
  generalize unitsPerOne = one
  norm_cast

theorem integer?_eq_some_iff {count : Int} :
    (signed false magnitude).integer? = some count ↔
      ∃ number : Nat, count = number ∧ magnitude.value = number := by
  simp only [Magnitude.value_eq_natCast_iff]
  rw [integer?_signed]
  constructor
  · intro found
    split at found
    · next whole =>
      cases found
      exact ⟨_, rfl, (Nat.div_mul_cancel (Nat.dvd_of_mod_eq_zero whole)).symm⟩
    · contradiction
  · rintro ⟨number, rfl, same⟩
    rw [same, Nat.mul_mod_left, if_pos rfl, Nat.mul_div_cancel _ unitsPerOne_pos]

/-- A positive integer of at most 53 binary digits is in the format. Its significand has the
digits of the integer, and zeros behind them. -/
theorem exists_magnitude_of_lt (positive : 0 < number) (small : number < 2 ^ 53) :
    ∃ magnitude : Magnitude, magnitude.value = number := by
  have digits := (Nat.log2_lt positive.ne').mpr small
  obtain ⟨zeros, places⟩ := Nat.exists_eq_add_of_le (Nat.le_of_lt_succ digits)
  have above : number < 2 ^ (number.log2 + 1) := Nat.lt_log2_self
  have below := Nat.log2_self_le positive.ne'
  have unit : 0 < 2 ^ zeros := by positivity
  have full : 2 ^ 52 = 2 ^ number.log2 * 2 ^ zeros := by rw [places, Nat.pow_add]
  have bound : significandBound = 2 ^ (number.log2 + 1) * 2 ^ zeros := by
    rw [Nat.pow_succ, Nat.mul_right_comm, ← full]
    rfl
  have counts : number * 2 ^ zeros * 2 ^ number.log2 = number * 2 ^ 52 := by
    rw [full, Nat.mul_assoc, Nat.mul_comm (2 ^ zeros)]
  refine ⟨⟨number * 2 ^ zeros, 1022 + number.log2, ?_, ?_, fun _ => ?_⟩,
    Magnitude.value_eq_of_mul_eq rfl counts⟩
  · rw [bound]
    exact Nat.mul_lt_mul_of_pos_right above unit
  · rw [maxScale]
    omega
  · rw [Nat.pow_eq, full]
    exact Nat.mul_le_mul_right _ below

/-- The integers up to the first one with 54 binary digits are in the format. -/
theorem exists_magnitude_of_le (small : number ≤ 2 ^ 53) :
    ∃ magnitude : Magnitude, magnitude.value = number := by
  rcases Nat.eq_zero_or_pos number with rfl | positive
  · exact ⟨⟨0, 0, by decide, Nat.zero_le _, fun scaled => absurd rfl scaled⟩,
      Magnitude.value_of_eq_zero rfl⟩
  · rcases Nat.eq_or_lt_of_le small with rfl | less
    · exact ⟨⟨2 ^ 52, 1022 + 53, by decide, by decide, fun _ => Nat.le_refl _⟩,
        Magnitude.value_eq_of_mul_eq rfl (Nat.mul_comm ..)⟩
    · exact exists_magnitude_of_lt positive less

/-- A numeral of an integer of the format is rounded to it. -/
theorem ofDigits_of_value_eq (same : magnitude.value = digitsValue digits) (zeros : Nat) :
    ofDigits digits (List.replicate zeros '0') = signed false magnitude := by
  rw [ofDigits, digitsValue_append_replicate, List.length_replicate, Nat.pow_eq]
  refine ofRatio_of_eq_value (by positivity) ?_
  rw [same]
  push_cast
  field_simp

theorem areDigits_decimalDigits (number : Nat) : Lexeme.AreDigits (decimalDigits number) :=
  ⟨List.length_pos_iff.mp Nat.length_toDigits_pos, fun _ => isDigit_of_mem_decimalDigits⟩

end Binary64

/-! ## Integers as text -/

/-- A natural number is written without zeros before it. -/
theorem Text.decimal_natCast (number : Nat) : Text.decimal number = toString number := by
  have natural : ¬ (number : Int) < 0 := Int.not_lt.mpr (Int.natCast_nonneg number)
  rw [Text.decimal, if_neg natural, Int.natAbs_natCast, Nat.toString_eq_ofList_toDigits]

/-- **A number that is an integer is printed as the integer.** -/
theorem Value.print_of_value_eq {magnitude : Binary64.Magnitude} {number : Nat}
    (same : magnitude.value = number) :
    (Value.number (.signed false magnitude)).print = toString number := by
  have whole : (Binary64.signed false magnitude).integer? = some (number : Int) :=
    Binary64.integer?_eq_some_iff.mpr ⟨number, rfl, same⟩
  rw [Value.print, whole]
  exact Text.decimal_natCast number

/-! ## Reading a literal -/

namespace Reading

/-- A reading that gives a tree gives no errors. -/
theorem ofText_eq_of_tree {text : String} {file : Option String} {settings : Settings}
    {requireEnd : Bool} {tree : Expr}
    (returned : (ofText text file settings requireEnd).tree = some tree) :
    ofText text file settings requireEnd = ⟨some tree, [], []⟩ := by
  have given : (ofText text file settings requireEnd).ok = true := by simp [ok, returned]
  rcases hasOneOutcome_ofText text file settings requireEnd with
    ⟨gives, _⟩ | ⟨_, gives, _⟩ | ⟨_, _, gives⟩
  · have lexical := gives.lexicalErrors
    have syntactic := gives.syntaxErrors
    generalize ofText text file settings requireEnd = reading at returned lexical syntactic ⊢
    cases reading
    simp_all only
  · simp [gives.ok] at given
  · simp [gives.ok] at given

/-- A text that is a number is read as a literal with its value. -/
theorem ofText_of_spells {text : String} {value : Value}
    (spells : Lexeme.Spells .number value text.toList) (file : Option String)
    (settings : Settings) :
    ofText text file settings true = ⟨some (.literal value), [], []⟩ := by
  obtain ⟨errors, body⟩ := Scan.ofText_of_spells spells (file.getD settings.file)
  refine ofText_eq_of_tree (tree_ofText_eq_some_iff.mpr
    ⟨errors, ?_, .literal value, ?_, fun _ _ => Nat.zero_le _⟩)
  · have number : TokenKind.number ∈ literalKinds := by decide
    rw [body]
    exact .expression (.operand (.operand (.operand (.operand (.primary (.literal number))))))
  · rw [body]
    exact .literal (.carried (.inl rfl))

/-- **An integer of at most 53 binary digits, or the one above them, survives reading and
printing.** It may have zeros before it, and zeros behind its point. -/
theorem exists_literal_of_integer {digits : List Char} (areDigits : Lexeme.AreDigits digits)
    (small : Nat.ofDigitChars 10 digits 0 ≤ 2 ^ 53) (zeros : Nat) (file : Option String)
    (settings : Settings) :
    let text := String.ofList (Lexeme.numberText digits (List.replicate zeros '0'))
    ∃ value, ofText text file settings true = ⟨some (.literal value), [], []⟩ ∧
      (Expr.literal value).print = toString (Nat.ofDigitChars 10 digits 0) := by
  intro text
  rw [← Binary64.digitsValue_eq] at small ⊢
  obtain ⟨magnitude, same⟩ := Binary64.exists_magnitude_of_le small
  have zero : ∀ c ∈ List.replicate zeros '0', c.isDigit = true := fun c member =>
    List.eq_of_mem_replicate member ▸ rfl
  have spells := Lexeme.spells_numberText areDigits zero
  rw [Binary64.ofDigits_of_value_eq same] at spells
  refine ⟨_, ofText_of_spells ?_ file settings, Value.print_of_value_eq same⟩
  rwa [String.toList_ofList]

/-- The greatest of these integers, with zeros before it and behind its point. -/
theorem exists_literal_of_integer_greatest :
    ∃ value, ofText "009007199254740992.00" none .standard true = ⟨some (.literal value), [], []⟩ ∧
      (Expr.literal value).print = "9007199254740992" := by
  have areDigits : Lexeme.AreDigits "009007199254740992".toList :=
    ⟨by decide, List.all_eq_true.mp rfl⟩
  have value : Nat.ofDigitChars 10 "009007199254740992".toList 0 = 2 ^ 53 := by decide
  have read := exists_literal_of_integer areDigits (Nat.le_of_eq value) 2 none .standard
  rwa [value] at read

/-- The integer above it is rounded to it. -/
example : (Value.number (Binary64.ofDigits "9007199254740993".toList [])).print =
    "9007199254740992" := by decide +kernel

end Reading
end Lox
