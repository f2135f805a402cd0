import Lox.Proofs.Number.Shortest
import Lox.Value

/-!
# What the spelling of a number consists of

A decimal that is written around a point has digits before the point and digits behind it, and
together these digits stand for its value (`Spelling.exists_plain_eq`). A decimal that is written
with an exponent has the letter `e` (`Spelling.e_mem_scientific`).

However a number is printed, it is printed with letters, digits, points and signs
(`Value.isNumeric_of_mem_print`).
-/

set_option autoImplicit false

namespace Lox

open Binary64

namespace Spelling

variable {decimal : Decimal} {spelling : Spelling} {c : Char}

/-! ## Digits around a point -/

/-- Digits before a point and digits behind it, as the ratio that they stand for. -/
def pointed (whole fraction : List Char) : ℚ :=
  (digitsValue (whole ++ fraction) : ℚ) / (10 ^ fraction.length : ℕ)

/-- Where the first digit stands behind the point, zeros stand between. -/
theorem pointed_of_point_nonpos (behind : decimal.point ≤ 0) :
    pointed ['0'] (List.replicate (-decimal.point).toNat '0' ++ decimal.digits) =
      decimal.value := by
  have zeros : ['0'] ++ (List.replicate (-decimal.point).toNat '0' ++ decimal.digits) =
      List.replicate ((-decimal.point).toNat + 1) '0' ++ decimal.digits := rfl
  have power : decimal.point - decimal.digits.length =
      -(((-decimal.point).toNat + decimal.digits.length : ℕ) : ℤ) := by
    omega
  rw [pointed, zeros, digitsValue_replicate_append, Decimal.value, power, zpow_neg, zpow_natCast,
    List.length_append, List.length_replicate, div_eq_mul_inv]
  push_cast
  rfl

/-- Where the point stands behind the last digit, zeros stand between and one behind it. -/
theorem pointed_of_length_le {count : Nat} (place : decimal.point = count)
    (behind : decimal.digits.length ≤ count) :
    pointed (decimal.digits ++ List.replicate (count - decimal.digits.length) '0') ['0'] =
      decimal.value := by
  have zeros : decimal.digits ++ List.replicate (count - decimal.digits.length) '0' ++ ['0'] =
      decimal.digits ++ List.replicate (count - decimal.digits.length + 1) '0' := by
    rw [List.replicate_succ', List.append_assoc]
  have power : decimal.point - decimal.digits.length =
      ((count - decimal.digits.length : ℕ) : ℤ) := by
    omega
  rw [pointed, zeros, digitsValue_append_replicate, Decimal.value, power, zpow_natCast,
    List.length_singleton, pow_succ]
  push_cast
  field_simp

/-- Where the point stands between two digits, they are the digits of the decimal. -/
theorem pointed_of_lt_length {count : Nat} (place : decimal.point = count)
    (inside : count < decimal.digits.length) :
    pointed (decimal.digits.take count) (decimal.digits.drop count) = decimal.value := by
  have power : decimal.point - decimal.digits.length =
      -((decimal.digits.length - count : ℕ) : ℤ) := by
    omega
  rw [pointed, List.take_append_drop, Decimal.value, power, zpow_neg, zpow_natCast,
    List.length_drop, div_eq_mul_inv]
  push_cast
  rfl

/-- **A plain decimal has digits on both sides of the point, which stand for its value.** -/
theorem exists_plain_eq (filled : decimal.digits ≠ [])
    (digits : ∀ c ∈ decimal.digits, c.isDigit = true) :
    ∃ whole fraction, plain decimal = whole ++ '.' :: fraction ∧
      (whole ≠ [] ∧ ∀ c ∈ whole, c.isDigit = true) ∧
        (fraction ≠ [] ∧ ∀ c ∈ fraction, c.isDigit = true) ∧
          pointed whole fraction = decimal.value := by
  have zero : '0'.isDigit = true := rfl
  rw [plain]
  split
  · next behind =>
    refine ⟨['0'], List.replicate (-decimal.point).toNat '0' ++ decimal.digits, rfl, by simp,
      ⟨by simp [filled], ?_⟩, pointed_of_point_nonpos behind⟩
    simp only [List.mem_append, List.mem_replicate]
    rintro c (⟨-, rfl⟩ | member)
    · exact zero
    · exact digits c member
  · next before =>
    obtain ⟨count, place⟩ := Int.eq_ofNat_of_zero_le (Int.le_of_lt (Int.not_le.mp before))
    have some : count ≠ 0 := by omega
    rw [place, Int.toNat_natCast]
    by_cases inside : count < decimal.digits.length
    · have further : decimal.digits.drop count ≠ [] := by simpa using inside
      have full : count - (decimal.digits.take count).length = 0 := by
        rw [List.length_take]
        omega
      simp only [full, List.replicate_zero, List.append_nil, List.isEmpty_eq_false_iff.mpr further,
        Bool.false_eq_true, if_false]
      exact ⟨_, _, rfl,
        ⟨by simp [some, filled], fun c member => digits c (List.mem_of_mem_take member)⟩,
        ⟨further, fun c member => digits c (List.mem_of_mem_drop member)⟩,
        pointed_of_lt_length place inside⟩
    · have behind := Nat.le_of_not_lt inside
      simp only [List.drop_eq_nil_of_le behind, List.take_of_length_le behind, List.isEmpty_nil,
        if_true]
      refine ⟨_, _, rfl, ⟨by simp [filled], ?_⟩, by simp, pointed_of_length_le place behind⟩
      simp only [List.mem_append, List.mem_replicate]
      rintro c (member | ⟨-, rfl⟩)
      · exact digits c member
      · exact zero

theorem e_mem_scientific : 'e' ∈ spelling.scientific decimal := by
  simp [scientific]

/-! ## Characters -/

/-- Whether a character is a letter, a digit, a point or a sign. -/
def isNumeric (c : Char) : Bool := c.isAlphanum || c == '.' || c == '+' || c == '-'

theorem isNumeric_of_isDigit (digit : c.isDigit = true) : isNumeric c = true := by
  simp [isNumeric, Char.isAlphanum, digit]

theorem isNumeric_of_mem_plain (digits : ∀ c ∈ decimal.digits, c.isDigit = true)
    (member : c ∈ plain decimal) : isNumeric c = true := by
  have zero : isNumeric '0' = true := rfl
  have point : isNumeric '.' = true := rfl
  unfold plain at member
  split at member
  · simp only [List.cons_append, List.mem_cons, List.mem_append, List.mem_replicate] at member
    rcases member with rfl | rfl | ⟨-, rfl⟩ | member
    · exact zero
    · exact point
    · exact zero
    · exact isNumeric_of_isDigit (digits c member)
  · simp only [List.mem_append, List.mem_cons, List.mem_replicate] at member
    rcases member with (member | ⟨-, rfl⟩) | rfl | member
    · exact isNumeric_of_isDigit (digits c (List.mem_of_mem_take member))
    · exact zero
    · exact point
    · split at member
      · exact List.mem_singleton.mp member ▸ zero
      · exact isNumeric_of_isDigit (digits c (List.mem_of_mem_drop member))

theorem isNumeric_of_mem_exponent {power : Int} (member : c ∈ spelling.exponent power) :
    isNumeric c = true := by
  simp only [exponent, List.cons_append, List.mem_cons, List.mem_append, List.mem_replicate]
    at member
  rcases member with rfl | ⟨-, rfl⟩ | member
  · split <;> rfl
  · rfl
  · exact isNumeric_of_isDigit (isDigit_of_mem_decimalDigits member)

theorem isNumeric_of_mem_scientific (digits : ∀ c ∈ decimal.digits, c.isDigit = true)
    (member : c ∈ spelling.scientific decimal) : isNumeric c = true := by
  simp only [scientific, List.mem_append, List.mem_cons] at member
  rcases member with (member | member) | rfl | member
  · exact isNumeric_of_isDigit (digits c (List.mem_of_mem_take member))
  · split at member
    · contradiction
    · rcases List.mem_cons.mp member with rfl | member
      · rfl
      · exact isNumeric_of_isDigit (digits c (List.mem_of_mem_drop member))
  · rfl
  · exact isNumeric_of_mem_exponent member

theorem isNumeric_of_mem_number {binary : Binary64}
    (member : c ∈ (standard.number binary).toList) : isNumeric c = true := by
  have sign (negative : Bool) : ∀ c ∈ (if negative then "-" else "").toList,
      isNumeric c = true := by
    cases negative <;> exact List.all_eq_true.mp rfl
  have words : ∀ c ∈ standard.infinity.toList ++ standard.invalid.toList, isNumeric c = true :=
    List.all_eq_true.mp rfl
  have zero : ∀ c ∈ ['0', '.', '0'], isNumeric c = true := List.all_eq_true.mp rfl
  unfold number at member
  split at member
  · exact words c (List.mem_append_right _ member)
  · rw [String.toList_append] at member
    rcases List.mem_append.mp member with member | member
    · exact sign _ c member
    · exact words c (List.mem_append_left _ member)
  · rw [String.toList_append, String.toList_ofList] at member
    rcases List.mem_append.mp member with member | member
    · exact sign _ c member
    · split at member
      · exact zero c member
      · unfold Spelling.decimal at member
        split at member
        · exact isNumeric_of_mem_plain (fun _ => isDigit_of_mem_shortest) member
        · exact isNumeric_of_mem_scientific (fun _ => isDigit_of_mem_shortest) member

end Spelling

/-- An integer is written with digits and a sign. -/
theorem Text.isNumeric_of_mem_decimal {integer : Int} {c : Char}
    (member : c ∈ (Text.decimal integer).toList) : Spelling.isNumeric c = true := by
  simp only [Text.decimal, String.toList_ofList] at member
  split at member
  · rcases List.mem_cons.mp member with rfl | member
    · rfl
    · exact Spelling.isNumeric_of_isDigit (isDigit_of_mem_decimalDigits member)
  · exact Spelling.isNumeric_of_isDigit (isDigit_of_mem_decimalDigits member)

/-- **A number is printed with letters, digits, points and signs.** -/
theorem Value.isNumeric_of_mem_print {binary : Binary64} {c : Char}
    (member : c ∈ (Value.number binary).print.toList) : Spelling.isNumeric c = true := by
  simp only [Value.print] at member
  split at member
  · exact Text.isNumeric_of_mem_decimal member
  · exact Spelling.isNumeric_of_mem_number member

end Lox
