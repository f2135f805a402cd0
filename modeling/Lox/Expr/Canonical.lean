import Lox.Expr
import Lox.Parse.Grammar

/-!
# Canonical trees

A tree is canonical when it puts parentheses wherever the binding of operators needs them: the
operand of a unary operator is no binary operation, the left operand of a binary operator
binds at least as tightly as the operator, and the right one tighter.

`Expr.Flattens` relates a tree to the tokens that it is written with. Every operator node
holds the token at its place, a grouping stands between parentheses, and a literal is a token
that denotes its value.
-/

set_option autoImplicit false

namespace Lox

/-- A token that is a literal with the given value. -/
inductive Token.Denotes : Token → Value → Prop
  /-- A number or a string literal denotes the value that it carries. -/
  | carried {token : Token} :
      token.kind = .number ∨ token.kind = .string → Denotes token token.value
  | truth {token : Token} : token.kind = .trueWord → Denotes token (.truth true)
  | falsehood {token : Token} : token.kind = .falseWord → Denotes token (.truth false)
  | absent {token : Token} : token.kind = .nilWord → Denotes token .nil

namespace Expr

/-- How tightly the root of a tree binds: a binary operator as its tier, all else tighter. -/
def strength : Expr → Nat
  | binary _ operator _ => (operator.kind.tier?.map Tier.strength).getD 0
  | _ => 4

/-- A tree that needs no further parentheses. -/
inductive Canonical : Expr → Prop
  | literal (value : Value) : Canonical (.literal value)
  | grouping {inner : Expr} : Canonical inner → Canonical (.grouping inner)
  /-- A unary operator before an operand that is no binary operation. -/
  | unary {operator : Token} {operand : Expr} :
      operator.kind ∈ unaryOperators → operand.strength = 4 → Canonical operand →
        Canonical (.unary operator operand)
  /-- A binary operator between operands that bind tightly enough. -/
  | binary {tier : Tier} {left right : Expr} {operator : Token} :
      operator.kind ∈ tier.operators → tier.strength ≤ left.strength →
        tier.strength < right.strength → Canonical left → Canonical right →
          Canonical (.binary left operator right)

/-- The tokens that a tree is written with. -/
inductive Flattens : Expr → List Token → Prop
  | literal {token : Token} {value : Value} :
      token.Denotes value → Flattens (.literal value) [token]
  | grouping {opening closing : Token} {inner : Expr} {tokens : List Token} :
      opening.kind = .leftParen → Flattens inner tokens → closing.kind = .rightParen →
        Flattens (.grouping inner) (opening :: tokens ++ [closing])
  | unary {operator : Token} {operand : Expr} {tokens : List Token} :
      Flattens operand tokens → Flattens (.unary operator operand) (operator :: tokens)
  | binary {operator : Token} {left right : Expr} {before behind : List Token} :
      Flattens left before → Flattens right behind →
        Flattens (.binary left operator right) (before ++ operator :: behind)

/-- A tree is written with at least one token. -/
theorem Flattens.ne_nil {tree : Expr} {tokens : List Token} (flattens : tree.Flattens tokens) :
    tokens ≠ [] := by
  cases flattens <;> simp

end Expr
end Lox
