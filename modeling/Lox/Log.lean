import Lox.Reading

/-!
# The log of a reading

Scanner and parser can be watched at work. Each line of the log has a level, the part of the
program that it comes from and a message. The lines follow from what was read: first what the
scanner found, then, if it found no error, the reports of the parser and how it ended.
-/

set_option autoImplicit false

namespace Lox

/-- A line of the log. -/
structure LogLine where
  level : String
  origin : String
  message : String

namespace LogLine

/-- The text of a line. -/
def print (line : LogLine) : String := line.level ++ " " ++ line.origin ++ ": " ++ line.message

/-- The line of a scan. -/
def ofScan (file : String) (scan : Scan) : LogLine where
  level := "DEBUG"
  origin := "loxparse.lexer.lexer"
  message :=
    "scanned " ++ Text.decimal scan.tokens.toList.length ++ " tokens from " ++ file ++ " (" ++
      Text.decimal scan.errors.length ++ " errors)"

/-- The line of a report. -/
def ofReport (report : Report) : LogLine where
  level := "INFO"
  origin := "loxparse.parser.errors"
  message := report.print

/-- A line about how reading an expression ended. -/
def ofParser (message : String) : LogLine where
  level := "DEBUG"
  origin := "loxparse.parser.parser"
  message := message

/-- The lines of parsing one expression from the start and then checking for the end. -/
def ofParse (parser : Parser) (requireEnd : Bool) : List LogLine :=
  match parser.parse with
  | (none, behind) =>
    behind.reports.map ofReport ++ behind.errors.map fun error =>
      ofParser ("parse failed at token " ++ Text.decimal behind.cursor ++ ": " ++
        error.report.message)
  | (some tree, behind) =>
    ofParser ("parsed tokens 0.." ++ Text.decimal behind.cursor ++ " into " ++ tree.nodeName) ::
      (if requireEnd then behind.expectEnd.2.reports.map ofReport else [])

/-- The lines of reading a text. -/
def ofReading (text : String) (file : Option String) (settings : Settings)
    (requireEnd : Bool) : List LogLine :=
  let name := file.getD settings.file
  let scan := Scan.ofText name text.toList
  ofScan name scan ::
    (if scan.errors.isEmpty then ofParse (Parser.start scan.tokens settings.limit) requireEnd
     else [])

end LogLine
end Lox
