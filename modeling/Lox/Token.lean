import Lox.Location
import Lox.TokenKind
import Lox.Value

/-!
# Tokens

A token is a piece of source text with its kind, the value that it denotes and the place
where it starts. Numbers and string literals denote a value; every other token carries
`nil`.
-/

set_option autoImplicit false

namespace Lox

/-- A token of source text. -/
structure Token where
  kind : TokenKind
  lexeme : String
  value : Value
  location : Location
  deriving DecidableEq

namespace Token

/-- Whether the value says more than the text: it is there, and it is not the text itself. -/
def showsValue (token : Token) : Bool :=
  match token.value with
  | .nil => false
  | .text characters => characters != token.lexeme
  | _ => true

/-- The token in short: kind, text and, where it says more, the value. -/
def print (token : Token) : String :=
  token.kind.name ++ "(" ++ Text.quoted token.lexeme ++
    (if token.showsValue then " -> " ++ token.value.describe else "") ++ ")"

/-- The token with all its parts. -/
def describe (token : Token) : String :=
  "Token(" ++ token.kind.name ++ ", " ++ Text.quoted token.lexeme ++ ", " ++
    token.value.describe ++ ", " ++ token.location.describe ++ ")"

/-- Equality of tokens, with values compared as numbers. -/
def same (left right : Token) : Bool :=
  left.kind == right.kind && left.lexeme == right.lexeme && left.value.same right.value &&
    left.location == right.location

/-- Whether the token marks the end of the input. -/
def isEnd (token : Token) : Bool := token.kind == .endOfInput

theorem isEnd_iff {token : Token} : token.isEnd = true ↔ token.kind = .endOfInput :=
  beq_iff_eq

/-- The token that marks the end of the input. -/
def endAt (location : Location) : Token := ⟨.endOfInput, "", .nil, location⟩

@[simp]
theorem isEnd_endAt (location : Location) : (endAt location).isEnd = true := rfl

end Token
end Lox
