import Lox.Parse.Machine
import Lox.TokenSequence

/-!
# Parsers

A parser is a token sequence with a cursor in it, together with the errors that it recorded
and the reports that it made. Every error is reported when it is found; reading an
expression and the check for the end also record it. A grammar rule that is called by itself
reports its error and hands it back without recording it.

After an error, `Parser.synchronize` moves to where a statement probably begins, so that a
text with several expressions can be read on.
-/

set_option autoImplicit false

namespace Lox

/-- A token sequence that is being read. -/
structure Parser where
  tokens : TokenSequence
  /-- The greatest number of levels of nesting, if there is one. -/
  limit : Option Nat
  cursor : Nat
  /-- The number of levels of nesting that have begun and are not complete. -/
  depth : Nat
  errors : List SyntaxError
  reports : List Report

namespace Parser

/-- A parser at the start of a token sequence. -/
def start (tokens : TokenSequence) (limit : Option Nat) : Parser := ⟨tokens, limit, 0, 0, [], []⟩

/-! ## The cursor -/

/-- The current token. -/
def current (parser : Parser) : Token := parser.tokens.get parser.cursor

/-- The token before the cursor; before the first token the sequence closes to a ring. -/
def previous (parser : Parser) : Token :=
  match parser.cursor with
  | 0 => parser.tokens.stop
  | index + 1 => parser.tokens.get index

/-- Whether the current token marks the end. -/
def atEnd (parser : Parser) : Bool := parser.current.isEnd

/-- Moves to the next token, unless the current one marks the end. -/
def advance (parser : Parser) : Parser :=
  if parser.atEnd then parser else { parser with cursor := parser.cursor + 1 }

/-- Whether the current token has a kind; the mark of the end has none. -/
def check (parser : Parser) (kind : TokenKind) : Bool :=
  !parser.atEnd && parser.current.kind == kind

/-- Moves past the current token if it has one of the kinds, and says whether it does. -/
def accept (parser : Parser) (kinds : List TokenKind) : Bool × Parser :=
  if kinds.any parser.check then (true, parser.advance) else (false, parser)

/-! ## Errors -/

/-- Reports a message at a token. -/
def report (parser : Parser) (report : Report) : Parser :=
  { parser with reports := parser.reports ++ [report] }

/-- Reports a message at the current token. -/
def reportHere (parser : Parser) (message : String) : Parser :=
  parser.report ⟨parser.current, message⟩

/-- Records an error. -/
def record (parser : Parser) (error : SyntaxError) : Parser :=
  { parser with errors := parser.errors ++ [error] }

/-- Forgets every report. -/
def resetReports (parser : Parser) : Parser := { parser with reports := [] }

/-- Moves past the current token if it has a kind, and reports a message if it has not. -/
def expect (parser : Parser) (kind : TokenKind) (message : String) :
    Except SyntaxError Token × Parser :=
  if parser.check kind then (.ok parser.current, parser.advance)
  else (.error (.atToken parser.current message), parser.reportHere message)

/-! ## Reading -/

/-- Reads by a grammar rule from the cursor on. The levels of nesting are counted from those
that the parser has. An error is reported and not recorded. -/
def readRule (parser : Parser) (rule : Rule) : Except SyntaxError Expr × Parser :=
  let outcome := Machine.run rule parser.limit parser.tokens.stop
    ⟨parser.cursor, parser.depth, [], none⟩ (parser.tokens.bodyFrom parser.cursor)
  let behind := { parser with cursor := outcome.cursor, depth := outcome.depth }
  match outcome.result with
  | .ok tree => (.ok tree, behind)
  | .error error => (.error error, behind.report error.report)

/-- Reads one expression from the cursor on, and records the error if there is one. -/
def parseNext (parser : Parser) : Option Expr × Parser :=
  match { parser with depth := 0 }.readRule .expression with
  | (.ok tree, parser) => (some tree, parser)
  | (.error error, parser) => (none, parser.record error)

/-- Reads one expression from the start, forgetting the recorded errors. -/
def parse (parser : Parser) : Option Expr × Parser :=
  { parser with cursor := 0, errors := [] }.parseNext

/-- Whether everything has been read; what is left is an error at its first token. -/
def expectEnd (parser : Parser) : Bool × Parser :=
  if parser.atEnd then (true, parser)
  else
    (false, (parser.reportHere SyntaxError.endExpected).record
      (.atToken parser.current SyntaxError.endExpected))

/-! ## Recovery -/

/-- The number of tokens up to a boundary of statements: behind a semicolon, before a word
that begins a statement, or at the mark of the end. -/
def distanceToBoundary (previous : Token) : List Token → Nat
  | [] => 0
  | token :: tokens =>
    if token.isEnd || previous.kind == .semicolon || token.kind.startsStatement then 0
    else distanceToBoundary token tokens + 1

/-- Moves at least one token on, to the nearest boundary of statements. -/
def synchronize (parser : Parser) : Parser :=
  if parser.atEnd then parser
  else
    let next := parser.cursor + 1
    let skipped := distanceToBoundary parser.current (parser.tokens.bodyFrom next)
    { parser with cursor := next + skipped }

end Parser
end Lox
