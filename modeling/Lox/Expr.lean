import Lox.Token

/-!
# Expressions

An expression is a literal, an expression in parentheses, a unary operator before an
operand, or a binary operator between two. Parentheses are kept in the tree, and an operator
node holds the very token that it was read from.

`Expr.print` writes every operator before its operands and puts parentheses around each, so
that precedence and associativity can be seen: `1 + 2 * 3` becomes `(+ 1 (* 2 3))`.
-/

set_option autoImplicit false

namespace Lox

/-- An expression tree. -/
inductive Expr
  | literal (value : Value)
  | grouping (inner : Expr)
  | unary (operator : Token) (operand : Expr)
  | binary (left : Expr) (operator : Token) (right : Expr)
  deriving DecidableEq

namespace Expr

/-- The name of the kind of node at the root. -/
def nodeName : Expr → String
  | literal _ => "Literal"
  | grouping _ => "Grouping"
  | unary .. => "Unary"
  | binary .. => "Binary"

/-- The expressions directly below the root, from left to right. -/
def children : Expr → List Expr
  | literal _ => []
  | grouping inner => [inner]
  | unary _ operand => [operand]
  | binary left _ right => [left, right]

/-- The expression and all below it, each before those below it, from left to right. -/
def walk : Expr → List Expr
  | literal value => [literal value]
  | grouping inner => grouping inner :: inner.walk
  | unary operator operand => unary operator operand :: operand.walk
  | binary left operator right => binary left operator right :: (left.walk ++ right.walk)

/-- The nodes of a tree are its root and the nodes of its children. -/
theorem walk_eq (tree : Expr) : tree.walk = tree :: tree.children.flatMap walk := by
  cases tree <;> simp [walk, children]

/-- The greatest number of groupings and unary operators on a path from the root. -/
def nesting : Expr → Nat
  | literal _ => 0
  | grouping inner => inner.nesting + 1
  | unary _ operand => operand.nesting + 1
  | binary left _ right => max left.nesting right.nesting

/-- The tree fully parenthesised, every operator before its operands. -/
def print : Expr → String
  | literal value => value.print
  | grouping inner => "(group " ++ inner.print ++ ")"
  | unary operator operand => "(" ++ operator.lexeme ++ " " ++ operand.print ++ ")"
  | binary left operator right =>
    "(" ++ operator.lexeme ++ " " ++ left.print ++ " " ++ right.print ++ ")"

/-- The tree with all its parts. -/
def describe : Expr → String
  | literal value => "Literal(value=" ++ value.describe ++ ")"
  | grouping inner => "Grouping(expression=" ++ inner.describe ++ ")"
  | unary operator operand =>
    "Unary(operator=" ++ operator.describe ++ ", right=" ++ operand.describe ++ ")"
  | binary left operator right =>
    "Binary(left=" ++ left.describe ++ ", operator=" ++ operator.describe ++ ", right=" ++
      right.describe ++ ")"

/-- Equality of trees, with values compared as numbers. -/
def same : Expr → Expr → Bool
  | literal a, literal b => a.same b
  | grouping a, grouping b => a.same b
  | unary p a, unary q b => p.same q && a.same b
  | binary a p b, binary c q d => a.same c && p.same q && b.same d
  | _, _ => false

end Expr
end Lox
