/-!
# Kinds of tokens

Every token of Lox has a kind, also those that only statements use: expressions alone are
parsed, but error recovery stops at the words that begin a statement. The tables say which
text has which kind: reserved words, characters that are a token by themselves, and
characters that a following `=` changes. Each table is in ascending order of its texts.
-/

set_option autoImplicit false

namespace Lox

/-- The kind of a token. -/
inductive TokenKind
  | leftParen | rightParen | leftBrace | rightBrace | comma | dot | minus | plus
  | semicolon | slash | star | bang | bangEqual | equal | equalEqual | greater
  | greaterEqual | less | lessEqual | identifier | string | number | andWord | classWord
  | elseWord | falseWord | funWord | forWord | ifWord | nilWord | orWord | printWord
  | returnWord | superWord | thisWord | trueWord | varWord | whileWord | endOfInput
  deriving DecidableEq

namespace TokenKind

/-- Every kind, in the order of its number. -/
def all : List TokenKind := [
  .leftParen, .rightParen, .leftBrace, .rightBrace, .comma, .dot, .minus, .plus, .semicolon,
  .slash, .star, .bang, .bangEqual, .equal, .equalEqual, .greater, .greaterEqual, .less,
  .lessEqual, .identifier, .string, .number, .andWord, .classWord, .elseWord, .falseWord,
  .funWord, .forWord, .ifWord, .nilWord, .orWord, .printWord, .returnWord, .superWord,
  .thisWord, .trueWord, .varWord, .whileWord, .endOfInput]

/-- The name of a kind. -/
def name : TokenKind → String
  | leftParen => "LEFT_PAREN"
  | rightParen => "RIGHT_PAREN"
  | leftBrace => "LEFT_BRACE"
  | rightBrace => "RIGHT_BRACE"
  | comma => "COMMA"
  | dot => "DOT"
  | minus => "MINUS"
  | plus => "PLUS"
  | semicolon => "SEMICOLON"
  | slash => "SLASH"
  | star => "STAR"
  | bang => "BANG"
  | bangEqual => "BANG_EQUAL"
  | equal => "EQUAL"
  | equalEqual => "EQUAL_EQUAL"
  | greater => "GREATER"
  | greaterEqual => "GREATER_EQUAL"
  | less => "LESS"
  | lessEqual => "LESS_EQUAL"
  | identifier => "IDENTIFIER"
  | string => "STRING"
  | number => "NUMBER"
  | andWord => "AND"
  | classWord => "CLASS"
  | elseWord => "ELSE"
  | falseWord => "FALSE"
  | funWord => "FUN"
  | forWord => "FOR"
  | ifWord => "IF"
  | nilWord => "NIL"
  | orWord => "OR"
  | printWord => "PRINT"
  | returnWord => "RETURN"
  | superWord => "SUPER"
  | thisWord => "THIS"
  | trueWord => "TRUE"
  | varWord => "VAR"
  | whileWord => "WHILE"
  | endOfInput => "EOF"

/-- The kind with a given name. -/
def ofName? (name : String) : Option TokenKind := all.find? (·.name == name)

/-- The number of a kind, counted from one. -/
def index (kind : TokenKind) : Nat := all.idxOf kind + 1

/-- Every kind is listed. -/
theorem mem_all (kind : TokenKind) : kind ∈ all := by cases kind <;> decide

/-! ## Texts and their kinds -/

/-- The reserved words. -/
def keywords : List (String × TokenKind) := [
  ("and", .andWord), ("class", .classWord), ("else", .elseWord), ("false", .falseWord),
  ("for", .forWord), ("fun", .funWord), ("if", .ifWord), ("nil", .nilWord), ("or", .orWord),
  ("print", .printWord), ("return", .returnWord), ("super", .superWord), ("this", .thisWord),
  ("true", .trueWord), ("var", .varWord), ("while", .whileWord)]

/-- The characters that are a token whatever follows. -/
def punctuation : List (Char × TokenKind) := [
  ('(', .leftParen), (')', .rightParen), ('*', .star), ('+', .plus), (',', .comma),
  ('-', .minus), ('.', .dot), (';', .semicolon), ('\x7b', .leftBrace), ('\x7d', .rightBrace)]

/-- The characters that a following `=` joins: the kind with it, and the kind alone. -/
def equalSuffixed : List (Char × TokenKind × TokenKind) := [
  ('!', .bangEqual, .bang), ('<', .lessEqual, .less), ('=', .equalEqual, .equal),
  ('>', .greaterEqual, .greater)]

/-- The kind of a word: a reserved word has its own, any other is an identifier. -/
def ofWord (word : String) : TokenKind := (keywords.lookup word).getD .identifier

/-- The words that begin a statement, in the order of their names. -/
def statementWords : List TokenKind := [
  .classWord, .forWord, .funWord, .ifWord, .printWord, .returnWord, .varWord, .whileWord]

/-- Whether a token of this kind begins a statement. -/
def startsStatement (kind : TokenKind) : Bool := statementWords.contains kind

end TokenKind
end Lox
