import Lox.Diagnostic
import Lox.Token

/-!
# Syntax errors

A report is a message at a token; its one-line text names the line and the token. A syntax
error is a report with a code, a help text and suggestions. The code follows from the message
and the help text from the code, unless they are given.
-/

set_option autoImplicit false

namespace Lox

/-! ## Reports -/

/-- A message at a token. -/
structure Report where
  token : Token
  message : String
  deriving DecidableEq

/-- The report in one line; a token at the end of the input has no text to show. -/
def Report.print (report : Report) : String :=
  "[line " ++ Text.decimal report.token.location.line ++ "] Error" ++
    (if report.token.isEnd then " at end" else " at '" ++ report.token.lexeme ++ "'") ++
    ": " ++ report.message

/-! ## Messages, codes and help -/

namespace SyntaxError

/-- The message where an operand is missing. -/
def operandExpected : String := "Expect expression."

/-- The message where a closing parenthesis is missing. -/
def closingExpected : String := "Expect ')' after expression."

/-- The message where nesting passes its limit. -/
def nestingTooDeep : String := "Expression nesting too deep."

/-- The message where something follows a complete expression. -/
def endExpected : String := "Expect end of expression."

/-- The codes of syntax errors and what they stand for. -/
def codes : List (String × String) := [
  ("P001", "Unexpected token"), ("P002", "Expected token not found"),
  ("P003", "Nesting too deep"), ("P004", "Unexpected trailing tokens")]

/-- The codes of the messages that the parser makes. -/
def messageCodes : List (String × String) := [
  (operandExpected, "P001"), (closingExpected, "P002"), (nestingTooDeep, "P003"),
  (endExpected, "P004")]

/-- The help texts of the codes. -/
def helpTexts : List (String × String) := [
  ("P001", "An operand (number, string, true, false, nil or '(') was expected here."),
  ("P002", "Every '(' must be closed by a matching ')'."),
  ("P003", "Split the expression or raise the parser's max_depth setting."),
  ("P004", "Only one expression may appear here; join the parts with an operator.")]

end SyntaxError

/-! ## Syntax errors -/

/-- A report with what tools and readers need to act on it. -/
structure SyntaxError where
  /-- The message and its token. -/
  report : Report
  /-- The code of the message. -/
  code : Option String
  help : Option String
  suggestions : Option (List String)
  /-- The limit that nesting passed, where that is the error. -/
  passedLimit : Option (Option Int)
  deriving DecidableEq

namespace SyntaxError

/-- The error of a report, with code and help text as given or else as they follow. -/
def ofReport (report : Report) (code help : Option String)
    (suggestions : Option (List String)) : SyntaxError :=
  let code := code.or (messageCodes.lookup report.message)
  { report
    code
    help := help.or (code.bind (List.lookup · helpTexts))
    suggestions
    passedLimit := none }

/-- The error of a message at a token. -/
def atToken (token : Token) (message : String) : SyntaxError :=
  ofReport ⟨token, message⟩ none none none

/-- The error of nesting past a limit. -/
def tooDeep (token : Token) (limit : Option Int) : SyntaxError :=
  let levels := (limit.map Text.decimal).getD "None"
  { atToken token nestingTooDeep with
    suggestions := some ["Keep nesting at or below " ++ levels ++ " levels"]
    passedLimit := some limit }

/-- A syntax error as a diagnostic. -/
def diagnostic (error : SyntaxError) : Diagnostic where
  message := error.report.message
  location := error.report.token.location
  severity := "error"
  code := error.code
  help := error.help
  suggestions := error.suggestions

/-- The error in one line. -/
def print (error : SyntaxError) : String := error.report.print

@[simp]
theorem report_atToken (token : Token) (message : String) :
    (atToken token message).report = ⟨token, message⟩ :=
  rfl

@[simp]
theorem report_tooDeep (token : Token) (limit : Option Int) :
    (tooDeep token limit).report = ⟨token, nestingTooDeep⟩ :=
  rfl

end SyntaxError
end Lox
