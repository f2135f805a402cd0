import Lox.Token

/-!
# The grammar of expressions

Binary operators fall into four tiers, the loosest first: equality, comparison, term and
factor. An operator of a tier joins operands that bind tighter, and within a tier operators
group to the left. Unary operators bind tighter than all of them.

`Derives` is the language of each rule, as strings of token kinds. It says nothing of trees or
of how a string is read.
-/

set_option autoImplicit false

namespace Lox

/-! ## Operators -/

/-- The tiers of binary operators, the loosest first. -/
inductive Tier
  | equality | comparison | term | factor
  deriving DecidableEq

namespace Tier

/-- The strength of a tier; a greater one binds tighter. -/
def strength : Tier → Nat
  | equality => 0
  | comparison => 1
  | term => 2
  | factor => 3

/-- The binary operators of a tier. -/
def operators : Tier → List TokenKind
  | equality => [.bangEqual, .equalEqual]
  | comparison => [.greater, .greaterEqual, .less, .lessEqual]
  | term => [.minus, .plus]
  | factor => [.slash, .star]

end Tier

/-- The binary operators, those of the loosest tier first. -/
def binaryOperators : List TokenKind := [
  .bangEqual, .equalEqual, .greater, .greaterEqual, .less, .lessEqual, .minus, .plus, .slash,
  .star]

/-- The unary operators. -/
def unaryOperators : List TokenKind := [.bang, .minus]

/-- The kinds of tokens that are an expression by themselves. -/
def literalKinds : List TokenKind := [.number, .string, .trueWord, .falseWord, .nilWord]

/-- The tier of a binary operator. -/
def TokenKind.tier? : TokenKind → Option Tier
  | .bangEqual | .equalEqual => some .equality
  | .greater | .greaterEqual | .less | .lessEqual => some .comparison
  | .minus | .plus => some .term
  | .slash | .star => some .factor
  | _ => none

/-- The tier of an operator is the one that lists it. -/
theorem TokenKind.tier?_eq_some_iff (kind : TokenKind) (tier : Tier) :
    kind.tier? = some tier ↔ kind ∈ tier.operators := by
  cases kind <;> cases tier <;> decide

/-- The binary operators are those of the tiers. -/
theorem TokenKind.mem_binaryOperators_iff (kind : TokenKind) :
    kind ∈ binaryOperators ↔ ∃ tier : Tier, kind ∈ tier.operators := by
  have listed : kind ∈ binaryOperators ↔ kind.tier?.isSome = true := by cases kind <;> decide
  simp only [listed, Option.isSome_iff_exists, tier?_eq_some_iff]

/-- Whether a token of this kind is a unary operator. -/
def TokenKind.isUnary : TokenKind → Bool
  | .bang | .minus => true
  | _ => false

theorem TokenKind.isUnary_iff (kind : TokenKind) :
    kind.isUnary = true ↔ kind ∈ unaryOperators := by
  cases kind <;> decide

/-! ## Rules -/

/-- The rules of the grammar from which reading can start, the loosest first. -/
inductive Rule
  | expression
  /-- Operands joined by operators of a tier, or of a tighter one. -/
  | tiered (loosest : Tier)
  | unary
  | primary
  deriving DecidableEq

/-- Whether a rule joins operands by operators of a tier. -/
def Rule.joins : Rule → Tier → Bool
  | expression, _ => true
  | tiered loosest, tier => loosest.strength ≤ tier.strength
  | _, _ => false

/-- The rule of the operands that operators of a tier join. -/
def Tier.operandRule : Tier → Rule
  | equality => .tiered .comparison
  | comparison => .tiered .term
  | term => .tiered .factor
  | factor => .unary

/-- The strings of token kinds that a rule gives. -/
inductive Derives : Rule → List TokenKind → Prop
  /-- An expression is what the loosest tier gives. -/
  | expression {word : List TokenKind} :
      Derives (.tiered .equality) word → Derives .expression word
  /-- A single operand needs no operator. -/
  | operand {tier : Tier} {word : List TokenKind} :
      Derives tier.operandRule word → Derives (.tiered tier) word
  /-- Operators of a tier group to the left. -/
  | join {tier : Tier} {left right : List TokenKind} {operator : TokenKind} :
      Derives (.tiered tier) left → operator ∈ tier.operators → Derives tier.operandRule right →
        Derives (.tiered tier) (left ++ operator :: right)
  /-- An operand without unary operators. -/
  | primary {word : List TokenKind} : Derives .primary word → Derives .unary word
  /-- A unary operator before an operand. -/
  | unary {operator : TokenKind} {word : List TokenKind} :
      operator ∈ unaryOperators → Derives .unary word → Derives .unary (operator :: word)
  /-- A literal. -/
  | literal {kind : TokenKind} : kind ∈ literalKinds → Derives .primary [kind]
  /-- An expression in parentheses. -/
  | group {word : List TokenKind} :
      Derives .expression word → Derives .primary (.leftParen :: word ++ [.rightParen])

/-- Every rule gives strings with at least one token. -/
theorem Derives.ne_nil {rule : Rule} {word : List TokenKind} (derivation : Derives rule word) :
    word ≠ [] := by
  induction derivation <;> simp_all

end Lox
