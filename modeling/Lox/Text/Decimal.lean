/-!
# Decimal numerals

Integers are written in base ten without leading zeros, negative ones behind a minus sign.
-/

set_option autoImplicit false

namespace Lox.Text

/-- The decimal numeral of an integer. -/
def decimal (integer : Int) : String :=
  let digits := Nat.toDigits 10 integer.natAbs
  String.ofList (if integer < 0 then '-' :: digits else digits)

end Lox.Text
