import Lox.Text.Printable

/-!
# Quoted text

A text is shown between quotes with every character that could mislead a reader escaped.
The quotes are single, unless the text holds a single quote and no double quote. Inside, a
backslash and the quote in use are preceded by a backslash; newline, carriage return and tab
have letters of their own, and any other character that is not printable is written by its
code point in two, four or eight lower-case hexadecimal digits.
-/

set_option autoImplicit false

namespace Lox.Text

/-- The digits of a number in lower-case hexadecimal, with zeros up to the given width. -/
def hexDigits (width code : Nat) : List Char :=
  let digits := Nat.toDigits 16 code
  List.replicate (width - digits.length) '0' ++ digits

/-- The shortest of the three numeric escapes that holds the character. -/
def numericEscape (c : Char) : List Char :=
  if c.toNat < 0x100 then '\\' :: 'x' :: hexDigits 2 c.toNat
  else if c.toNat < 0x10000 then '\\' :: 'u' :: hexDigits 4 c.toNat
  else '\\' :: 'U' :: hexDigits 8 c.toNat

/-- One character between the given quotes. -/
def quotedChar (quote c : Char) : List Char :=
  if c = quote || c = '\\' then ['\\', c]
  else if c = '\n' then ['\\', 'n']
  else if c = '\r' then ['\\', 'r']
  else if c = '\t' then ['\\', 't']
  else if isPrintable c then [c]
  else numericEscape c

/-- The quote that surrounds a text: double if it holds a single quote and no double one. -/
def quoteFor (text : List Char) : Char :=
  if text.contains '\'' && !text.contains '"' then '"' else '\''

/-- A text between quotes, with everything that could mislead escaped. -/
def quoted (text : String) : String :=
  let quote := quoteFor text.toList
  String.ofList (quote :: text.toList.flatMap (quotedChar quote) ++ [quote])

end Lox.Text
