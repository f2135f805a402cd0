import Lox.Location
import Lox.Text.UpperCase

/-!
# Diagnostics

A diagnostic says what is wrong and where, how severe it is, and what could be done about
it. Scanner and parser errors render alike because both are diagnostics.
-/

set_option autoImplicit false

namespace Lox

/-- A message about a place in the source. -/
structure Diagnostic where
  message : String
  location : Location
  severity : String
  code : Option String
  help : Option String
  suggestions : Option (List String)

namespace Diagnostic

/-- The line of a help text; an empty text has none. -/
def helpLine (help : Option String) : String :=
  match help with
  | none => ""
  | some text => if text.isEmpty then "" else "  help: " ++ text ++ "\n"

/-- The lines of suggestions, under a heading; without suggestions there is no heading. -/
def suggestionLines (suggestions : Option (List String)) : String :=
  match suggestions.getD [] with
  | [] => ""
  | texts => "  suggestions:\n" ++ String.join (texts.map fun text => "    - " ++ text ++ "\n")

/-- The diagnostic as lines of text. -/
def print (diagnostic : Diagnostic) : String :=
  Text.upperCase diagnostic.severity ++ ": " ++ diagnostic.message ++ "\n" ++
    "  --> " ++ diagnostic.location.print ++ "\n" ++
    helpLine diagnostic.help ++ suggestionLines diagnostic.suggestions

end Diagnostic
end Lox
