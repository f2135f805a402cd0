import Lox.Text.Ranges

/-!
# Blank characters

A blank separates tokens and surrounds settings without meaning anything itself: the white
space of Unicode together with the four information separators U+001C to U+001F.
-/

set_option autoImplicit false

namespace Lox.Text

/-- The blank code points, as closed ranges in ascending order. -/
def blankRanges : List (Nat × Nat) := [
  (0x09, 0x0D), (0x1C, 0x20), (0x85, 0x85), (0xA0, 0xA0), (0x1680, 0x1680), (0x2000, 0x200A),
  (0x2028, 0x2029), (0x202F, 0x202F), (0x205F, 0x205F), (0x3000, 0x3000)]

/-- Whether a character is blank. -/
def isBlank (c : Char) : Bool := inRanges blankRanges c.toNat

/-- A text without the blanks at its two ends. -/
def strip (text : List Char) : List Char :=
  ((text.dropWhile isBlank).reverse.dropWhile isBlank).reverse

/-- The newline is blank. -/
theorem isBlank_newline : isBlank '\n' = true := by decide

/-- The plain space is blank. -/
theorem isBlank_space : isBlank ' ' = true := by decide

end Lox.Text
