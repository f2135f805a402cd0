/-!
# Line ends

Text files end their lines with a line feed, a carriage return or both. Inside the library
only the line feed ends a line, so a text that is read from a file has its line ends made
uniform first.
-/

set_option autoImplicit false

namespace Lox.Text

/-- The text with every carriage return, alone or before a line feed, made a line feed. -/
def uniformNewlines : List Char → List Char
  | [] => []
  | '\r' :: '\n' :: rest => '\n' :: uniformNewlines rest
  | c :: rest => (if c = '\r' then '\n' else c) :: uniformNewlines rest

end Lox.Text
