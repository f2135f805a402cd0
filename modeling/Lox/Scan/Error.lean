import Lox.Diagnostic
import Lox.Text.Printable
import Lox.Text.Quoted

/-!
# Lexical errors

The two things that can be wrong with a text before it is parsed: a character that starts
no lexeme, and a string literal that runs to the end of the text.
-/

set_option autoImplicit false

namespace Lox

/-- What is wrong with a piece of text. -/
inductive LexicalFault
  | unexpectedCharacter (c : Char)
  | unterminatedString
  deriving DecidableEq

/-- A fault and the place where it starts. -/
structure LexicalError where
  fault : LexicalFault
  location : Location
  deriving DecidableEq

namespace LexicalFault

/-- The codes of lexical errors and what they stand for. -/
def codes : List (String × String) := [
  ("L001", "Unexpected character"), ("L002", "Unterminated string literal")]

/-- The message of a fault. -/
def message : LexicalFault → String
  | unexpectedCharacter _ => "Unexpected character."
  | unterminatedString => "Unterminated string."

/-- The code of a fault. -/
def code : LexicalFault → String
  | unexpectedCharacter _ => "L001"
  | unterminatedString => "L002"

/-- The code point of a character in at least four upper-case hexadecimal digits. -/
def codePoint (c : Char) : String :=
  String.ofList ((Text.hexDigits 4 c.toNat).map Char.toUpper)

/-- The explanation of a fault; a character that cannot be shown is given by its number. -/
def help : LexicalFault → String
  | unexpectedCharacter c =>
    if Text.isPrintable c then
      "The character '" ++ String.singleton c ++ "' is not valid in Lox source code."
    else
      "Non-printable character (Unicode: U+" ++ codePoint c ++ ") is not allowed."
  | unterminatedString => "String literals must be closed with a matching '\"'."

/-- What could be done about a fault. -/
def suggestions : LexicalFault → Option (List String)
  | unexpectedCharacter _ => none
  | unterminatedString => some ["Add a closing '\"'"]

end LexicalFault

namespace LexicalError

/-- A lexical error as a diagnostic. -/
def diagnostic (error : LexicalError) : Diagnostic where
  message := error.fault.message
  location := error.location
  severity := "error"
  code := some error.fault.code
  help := some error.fault.help
  suggestions := error.fault.suggestions

/-- The full text of a lexical error. -/
def print (error : LexicalError) : String := error.diagnostic.print

/-- A lexical error in one line. -/
def summary (error : LexicalError) : String :=
  "[line " ++ Text.decimal error.location.line ++ "] Error: " ++ error.fault.message

end LexicalError
end Lox
