import Lox.Parse.Parser
import Lox.Scan.Scanner
import Lox.Settings

/-!
# Reading a text

A text is read by scanning it and, if that finds no error, parsing one expression from its
tokens. The result is a tree, or the lexical errors, or the syntax error. Where the end of the
text is required, tokens behind the expression are an error too.
-/

set_option autoImplicit false

namespace Lox

/-- Parses one expression from the start and, where that is required, checks for the end. -/
def Parser.parseWhole (parser : Parser) (requireEnd : Bool) : Option Expr × Parser :=
  match parser.parse with
  | (none, behind) => (none, behind)
  | (some tree, behind) =>
    if requireEnd then
      match behind.expectEnd with
      | (true, behind) => (some tree, behind)
      | (false, behind) => (none, behind)
    else (some tree, behind)

/-- What reading a text gives. -/
structure Reading where
  tree : Option Expr
  lexicalErrors : List LexicalError
  syntaxErrors : List SyntaxError

namespace Reading

/-- Whether reading gave a tree. -/
def ok (reading : Reading) : Bool := reading.tree.isSome

/-- The full texts of the errors, those of scanning first. -/
def errorTexts (reading : Reading) : List String :=
  reading.lexicalErrors.map LexicalError.print ++ reading.syntaxErrors.map SyntaxError.print

/-- Reads what a scan found. -/
def ofScan (scan : Scan) (settings : Settings) (requireEnd : Bool) : Reading :=
  match scan.errors with
  | [] =>
    let (tree, parser) := (Parser.start scan.tokens settings.limit).parseWhole requireEnd
    ⟨tree, [], parser.errors⟩
  | errors => ⟨none, errors, []⟩

/-- Reads a text, under the name that the settings give unless another is given. -/
def ofText (text : String) (file : Option String) (settings : Settings) (requireEnd : Bool) :
    Reading :=
  ofScan (Scan.ofText (file.getD settings.file) text.toList) settings requireEnd

end Reading
end Lox
