import Lox.CommandLine.Arguments

/-!
# Help and usage

The texts that the command line shows on request, and those that go with a usage error.
-/

set_option autoImplicit false

namespace Lox.CommandLine

/-- The line that shows how the program is called. -/
def usageLine : String :=
  "usage: loxparse [-h] [-f FILE] [--max-depth MAX_DEPTH] [-v] [expression]\n"

/-- The help text. -/
def helpText : String :=
  usageLine ++
    "\n" ++
    "Parse a Lox expression and print it fully parenthesized\n" ++
    "\n" ++
    "positional arguments:\n" ++
    "  expression            Expression source text\n" ++
    "\n" ++
    "options:\n" ++
    "  -h, --help            show this help message and exit\n" ++
    "  -f FILE, --file FILE  Read the expression from a file\n" ++
    "  --max-depth MAX_DEPTH\n" ++
    "                        Maximum nesting of groupings and unary operators (0 =\n" ++
    "                        unlimited)\n" ++
    "  -v, --verbose         Log scanner and parser activity to stderr\n" ++
    "\n" ++
    "Examples:\n" ++
    "    loxparse \"1 + 2 * 3\"            # (+ 1 (* 2 3))\n" ++
    "    loxparse -f expr.lox            # Parse the contents of a file\n" ++
    "    loxparse --max-depth 8 \"((1))\"  # Tighter nesting limit\n" ++
    "    loxparse \"-(1)\"                 # Leading '-' is taken as the expression\n" ++
    "    loxparse -- -false              # Use '--' when it could be mistaken for an option\n" ++
    "        \n"

/-- The text of a usage error. -/
def UsageError.print (error : UsageError) : String :=
  usageLine ++ "loxparse: error: " ++ error.message ++ "\n"

end Lox.CommandLine
