import Lox.Expr
import Lox.Parse.Error
import Lox.Parse.Grammar

/-!
# Reading an expression

An expression is read by a machine that takes one token at a time and keeps a stack of
frames, one for each construct that has begun and is not complete: an open parenthesis, a
unary operator that waits for its operand, a binary operator that has its left operand.

The machine is either waiting for an operand or has just read one. When it has one, the next
token decides which waiting constructs are complete: all unary operators, and the binary ones
that bind at least as tightly as the token does (`Machine.close`). A token that can neither
continue the operand nor close a parenthesis ends the expression, and is left unread.

Each open parenthesis and each unary operator on the stack is one level of nesting. The
machine counts the levels, above those that its caller counted, and refuses to begin one
past its limit; the token that would begin it has then been read.

Since each step takes a token, the machine recurses on the tokens that are left and needs no
other measure.
-/

set_option autoImplicit false

namespace Lox

/-- The literal that a token is by itself. -/
def Token.literal? (token : Token) : Option Expr :=
  match token.kind with
  | .falseWord => some (.literal (.truth false))
  | .trueWord => some (.literal (.truth true))
  | .nilWord => some (.literal .nil)
  | .number | .string => some (.literal token.value)
  | _ => none

namespace Machine

/-! ## Frames and states -/

/-- A construct that has begun and is not complete. -/
inductive Frame
  | group
  | unary (operator : Token)
  | binary (tier : Tier) (left : Expr) (operator : Token)
  deriving DecidableEq

/-- What the machine knows between two tokens. -/
structure State where
  /-- The number of tokens read before. -/
  cursor : Nat
  /-- The number of levels of nesting that have begun. -/
  depth : Nat
  /-- The constructs that have begun, the innermost first. -/
  frames : List Frame
  /-- The operand just read, if one was. -/
  operand : Option Expr
  deriving DecidableEq

/-- What reading ends with. -/
structure Outcome where
  result : Except SyntaxError Expr
  cursor : Nat
  /-- The number of levels of nesting that have begun and are not complete. -/
  depth : Nat

/-- Completes the constructs that a token of the given strength does not continue: unary
operators, and binary operators at least as strong. The depth drops by one for each unary
operator. -/
def close (strength : Nat) (operand : Expr) (depth : Nat) : List Frame → Expr × Nat × List Frame
  | .unary operator :: frames => close strength (.unary operator operand) (depth - 1) frames
  | .binary tier left operator :: frames =>
    if strength ≤ tier.strength then close strength (.binary left operator operand) depth frames
    else (operand, depth, .binary tier left operator :: frames)
  | frames => (operand, depth, frames)

/-! ## Steps -/

/-- What the machine does at a token. -/
inductive Action
  | take (state : State)
  /-- Stops; the token may have been read. -/
  | stop (outcome : Outcome)

/-- Stops before the current token with an error at it. -/
def State.fail (state : State) (depth : Nat) (token : Token) (message : String) : Outcome :=
  ⟨.error (.atToken token message), state.cursor, depth⟩

/-- Begins one level of nesting at a token, unless that passes the limit. -/
def State.nest (limit : Option Nat) (state : State) (frame : Frame) (token : Token) : Action :=
  let depth := state.depth + 1
  match limit with
  | some bound =>
    if bound < depth then
      .stop ⟨.error (.tooDeep token (some bound)), state.cursor + 1, depth⟩
    else .take ⟨state.cursor + 1, depth, frame :: state.frames, none⟩
  | none => .take ⟨state.cursor + 1, depth, frame :: state.frames, none⟩

/-- Whether a unary operator may stand here: everywhere but at the start of a primary. -/
def State.allowsUnary (rule : Rule) (state : State) : Bool :=
  rule != .primary || !state.frames.isEmpty

/-- The action at a token where an operand is expected. -/
def State.start (rule : Rule) (limit : Option Nat) (state : State) (token : Token) : Action :=
  match token.literal? with
  | some literal => .take { state with cursor := state.cursor + 1, operand := some literal }
  | none =>
    if token.kind = .leftParen then state.nest limit .group token
    else if token.kind.isUnary && state.allowsUnary rule then
      state.nest limit (.unary token) token
    else .stop (state.fail state.depth token SyntaxError.operandExpected)

/-- Stops before a token that continues nothing; an open parenthesis makes that an error. -/
def State.finish (state : State) (operand : Expr) (token : Token) : Outcome :=
  match close 0 operand state.depth state.frames with
  | (_, depth, .group :: _) => state.fail depth token SyntaxError.closingExpected
  | (tree, depth, _) => ⟨.ok tree, state.cursor, depth⟩

/-- The action at a binary operator behind an operand. -/
def State.join (rule : Rule) (state : State) (operand : Expr) (tier : Tier) (token : Token) :
    Action :=
  match close tier.strength operand state.depth state.frames with
  | (left, depth, frames) =>
    if frames.isEmpty && !rule.joins tier then .stop (state.finish operand token)
    else .take ⟨state.cursor + 1, depth, .binary tier left token :: frames, none⟩

/-- The action at a closing parenthesis behind an operand. -/
def State.closeGroup (state : State) (operand : Expr) (token : Token) : Action :=
  match close 0 operand state.depth state.frames with
  | (inner, depth, .group :: frames) =>
    .take ⟨state.cursor + 1, depth - 1, frames, some (.grouping inner)⟩
  | _ => .stop (state.finish operand token)

/-- The action at a token. -/
def State.step (rule : Rule) (limit : Option Nat) (state : State) (token : Token) : Action :=
  match state.operand with
  | none => state.start rule limit token
  | some operand =>
    match token.kind.tier? with
    | some tier => state.join rule operand tier token
    | none =>
      if token.kind = .rightParen then state.closeGroup operand token
      else .stop (state.finish operand token)

/-- The outcome at the token that marks the end. -/
def State.atEnd (state : State) (stop : Token) : Outcome :=
  match state.operand with
  | none => state.fail state.depth stop SyntaxError.operandExpected
  | some operand => state.finish operand stop

/-! ## Runs -/

/-- Reads tokens until the machine stops, at the latest at the mark of the end. -/
def run (rule : Rule) (limit : Option Nat) (stop : Token) (state : State) : List Token → Outcome
  | [] => state.atEnd stop
  | token :: tokens =>
    match state.step rule limit token with
    | .take state => run rule limit stop state tokens
    | .stop outcome => outcome

end Machine
end Lox
