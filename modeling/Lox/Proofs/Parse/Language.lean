import Lox.Proofs.Parse.Completeness

/-!
# The language that is parsed

The strings of the grammar are the kinds of the tokens of canonical trees
(`derives_expression_iff`). In one direction the rule of a tree is that of the strength of its root
(`Rule.ofStrength`), and a rule gives every string of a tighter one. In the other direction a
derivation builds the tree.

Since reading returns exactly the canonical trees, it recognises exactly the grammar: it returns a
tree and stops at a token if the kinds of the tokens before it are an expression and the token is
no binary operator (`Parser.parse_recognises_expression`).
-/

set_option autoImplicit false

namespace Lox

/-! ## Rules and strengths -/

/-- The rule of the trees whose root binds as tightly as given. -/
def Rule.ofStrength : Nat → Rule
  | 0 => .tiered .equality
  | 1 => .tiered .comparison
  | 2 => .tiered .term
  | 3 => .tiered .factor
  | _ => .unary

/-- How tightly the root of a tree binds that a rule gives. -/
def Rule.strength : Rule → Nat
  | .expression => 0
  | .tiered tier => tier.strength
  | .unary | .primary => 4

theorem Rule.ofStrength_tier (tier : Tier) : Rule.ofStrength tier.strength = .tiered tier := by
  cases tier <;> rfl

theorem Rule.ofStrength_operand (tier : Tier) :
    Rule.ofStrength (tier.strength + 1) = tier.operandRule := by
  cases tier <;> rfl

theorem Rule.strength_operandRule (tier : Tier) :
    tier.operandRule.strength = tier.strength + 1 := by
  cases tier <;> rfl

/-- A rule gives every string of a tighter rule. -/
theorem Derives.loosen {strength weaker : Nat} {word : List TokenKind}
    (derivation : Derives (.ofStrength strength) word) (loose : weaker ≤ strength) :
    Derives (.ofStrength weaker) word := by
  induction strength with
  | zero =>
    obtain rfl := Nat.le_zero.mp loose
    exact derivation
  | succ strength ih =>
    rcases Nat.lt_or_eq_of_le loose with loose | rfl
    · refine ih ?_ (Nat.le_of_lt_succ loose)
      -- Each tier gives what the next one gives, and behind the last the rule stays the same.
      match strength, derivation with
      | 0, derivation => exact .operand derivation
      | 1, derivation => exact .operand derivation
      | 2, derivation => exact .operand derivation
      | 3, derivation => exact .operand derivation
      | _ + 4, derivation => exact derivation
    · exact derivation

/-! ## Trees and derivations -/

/-- The kinds of the tokens of a canonical tree are a string of the rule of its root. -/
theorem Expr.Canonical.derives {tree : Expr} (canonical : tree.Canonical) {tokens : List Token}
    (flattens : tree.Flattens tokens) :
    Derives (.ofStrength tree.strength) (tokens.map Token.kind) := by
  induction canonical generalizing tokens with
  | literal value =>
    cases flattens with
    | literal denotes => exact .primary (.literal denotes.kind_mem)
  | grouping _ ih =>
    cases flattens with
    | grouping opened flattens closed =>
      have inner := (ih flattens).loosen (Nat.zero_le _)
      rw [List.map_append, List.map_cons, opened, List.map_singleton, closed]
      exact .primary (.group (.expression inner))
  | unary kind tight _ ih =>
    cases flattens with
    | unary flattens =>
      have operand := ih flattens
      rw [tight] at operand
      exact .unary kind operand
  | @binary tier left right operator kind enough tighter _ _ leftDerives rightDerives =>
    cases flattens with
    | binary before behind =>
      rw [Expr.strength_binary kind, Rule.ofStrength_tier, List.map_append, List.map_cons]
      have left := (leftDerives before).loosen enough
      have right := (rightDerives behind).loosen tighter
      rw [Rule.ofStrength_tier] at left
      rw [Rule.ofStrength_operand] at right
      exact .join left kind right

/-- A string that a rule gives is the kinds of the tokens of a canonical tree. -/
theorem Derives.exists_canonical {rule : Rule} {word : List TokenKind}
    (derivation : Derives rule word) :
    ∀ tokens : List Token, tokens.map Token.kind = word →
      ∃ tree : Expr, tree.Canonical ∧ tree.Flattens tokens ∧ rule.strength ≤ tree.strength := by
  induction derivation with
  | expression _ ih => exact ih
  | operand _ ih =>
    intro tokens kinds
    obtain ⟨tree, canonical, flattens, binds⟩ := ih tokens kinds
    rw [Rule.strength_operandRule] at binds
    exact ⟨tree, canonical, flattens, Nat.le_of_succ_le binds⟩
  | join _ operator _ left right =>
    intro tokens kinds
    obtain ⟨before, rest, rfl, leftKinds, rest_kinds⟩ := List.map_eq_append_iff.mp kinds
    obtain ⟨token, behind, rfl, rfl, rightKinds⟩ := List.map_eq_cons_iff.mp rest_kinds
    obtain ⟨first, firstCanonical, firstFlattens, enough⟩ := left before leftKinds
    obtain ⟨second, secondCanonical, secondFlattens, tighter⟩ := right behind rightKinds
    rw [Rule.strength_operandRule] at tighter
    refine ⟨.binary first token second, ?_, .binary firstFlattens secondFlattens, ?_⟩
    · exact .binary operator enough tighter firstCanonical secondCanonical
    · rw [Expr.strength_binary operator]
      exact Nat.le_refl _
  | primary _ ih => exact ih
  | unary operator _ ih =>
    intro tokens kinds
    obtain ⟨token, rest, rfl, rfl, restKinds⟩ := List.map_eq_cons_iff.mp kinds
    obtain ⟨operand, canonical, flattens, binds⟩ := ih rest restKinds
    have tight : operand.strength = 4 := Nat.le_antisymm operand.strength_le_four binds
    exact ⟨_, .unary operator tight canonical, .unary flattens, Nat.le_refl 4⟩
  | literal kind =>
    intro tokens kinds
    obtain ⟨token, rfl, rfl⟩ := List.map_eq_singleton_iff.mp kinds
    obtain ⟨value, denotes⟩ := Token.exists_denotes kind
    exact ⟨_, .literal value, .literal denotes, Nat.le_refl 4⟩
  | group _ ih =>
    intro tokens kinds
    obtain ⟨opened, last, rfl, openedKinds, lastKinds⟩ := List.map_eq_append_iff.mp kinds
    obtain ⟨opening, inside, rfl, openingKind, insideKinds⟩ := List.map_eq_cons_iff.mp openedKinds
    obtain ⟨closing, rfl, closingKind⟩ := List.map_eq_singleton_iff.mp lastKinds
    obtain ⟨inner, canonical, flattens, _⟩ := ih inside insideKinds
    exact ⟨_, .grouping canonical, .grouping openingKind flattens closingKind, Nat.le_refl 4⟩

/-- **The strings of the grammar are the kinds of the tokens of canonical trees.** -/
theorem derives_expression_iff (tokens : List Token) :
    Derives .expression (tokens.map Token.kind) ↔
      ∃ tree : Expr, tree.Canonical ∧ tree.Flattens tokens := by
  constructor
  · intro derivation
    obtain ⟨tree, canonical, flattens, _⟩ := derivation.exists_canonical tokens rfl
    exact ⟨tree, canonical, flattens⟩
  · rintro ⟨tree, canonical, flattens⟩
    exact .expression ((canonical.derives flattens).loosen (Nat.zero_le _))

/-! ## Recognition -/

namespace Parser

/-- A tree is returned and the cursor left at a token exactly if the kinds of the tokens before it
are an expression and the token is no binary operator. -/
theorem exists_parse_iff (tokens : TokenSequence) (cursor : Nat) :
    (∃ tree behind, (start tokens none).parse = (some tree, behind) ∧ behind.cursor = cursor) ↔
      Derives .expression ((tokens.toList.take cursor).map Token.kind) ∧
        ∃ next ∈ tokens.toList[cursor]?, next.kind ∉ binaryOperators := by
  constructor
  · rintro ⟨tree, behind, parsed, rfl⟩
    obtain ⟨⟨canonical, _⟩, flattens, kind⟩ :=
      (parse_eq_some_iff tokens none tree behind.cursor).mp (by simp [parsed])
    have inside := TokenSequence.le_length_body canonical flattens
    refine ⟨(derives_expression_iff _).mpr ⟨tree, canonical, flattens⟩, _, ?_, kind⟩
    exact tokens.getElem?_toList inside
  · rintro ⟨derivation, next, found, kind⟩
    obtain ⟨tree, canonical, flattens⟩ := (derives_expression_iff _).mp derivation
    have inside := TokenSequence.le_length_body canonical flattens
    rw [tokens.getElem?_toList inside] at found
    obtain rfl : tokens.get cursor = next := Option.some.inj found
    have parsed := (parse_eq_some_iff tokens none tree cursor).mpr
      ⟨⟨canonical, Machine.forall_mem_none _⟩, flattens, kind⟩
    exact ⟨tree, _, Prod.ext parsed.1 rfl, parsed.2⟩

/-- What stands before the cursor is everything before the first mark of the end, if the cursor
stands at one. -/
theorem beforeEnd_eq_take {tokens : TokenSequence} {tree : Expr} {cursor : Nat}
    (canonical : tree.Canonical) (flattens : tree.Flattens (tokens.toList.take cursor))
    (atEnd : (tokens.get cursor).isEnd = true) : tokens.beforeEnd = tokens.toList.take cursor := by
  obtain ⟨second, whole⟩ :=
    tokens.exists_toList_eq (TokenSequence.le_length_body canonical flattens)
  refine TokenSequence.beforeEnd_eq whole atEnd fun token member => ?_
  have kind := canonical.kind_ne_endOfInput flattens token member
  simpa [Token.isEnd] using kind

/-- A tree is returned and nothing left exactly if the tokens before the first mark of the end are
an expression. -/
theorem exists_parse_expectEnd_iff (tokens : TokenSequence) :
    (∃ tree behind, (start tokens none).parse = (some tree, behind) ∧
        behind.expectEnd.1 = true) ↔
      Derives .expression (tokens.beforeEnd.map Token.kind) := by
  constructor
  · rintro ⟨tree, behind, parsed, ended⟩
    obtain ⟨⟨canonical, _⟩, flattens, _⟩ :=
      (parse_eq_some_iff tokens none tree behind.cursor).mp (by simp [parsed])
    have atEnd : (tokens.get behind.cursor).isEnd = true := by
      rw [expectEnd_fst, Parser.atEnd, current, tokens_of_parse parsed] at ended
      exact ended
    rw [beforeEnd_eq_take canonical flattens atEnd]
    exact (derives_expression_iff _).mpr ⟨tree, canonical, flattens⟩
  · intro derivation
    obtain ⟨stop, second, whole, isEnd⟩ := tokens.exists_toList_eq_beforeEnd
    have kind : stop.kind = .endOfInput := Token.isEnd_iff.mp isEnd
    obtain ⟨tree, behind, parsed, cursor⟩ :=
      (exists_parse_iff tokens tokens.beforeEnd.length).mpr
        ⟨by rwa [whole, List.take_left], stop, by simp [whole], by simp [kind, binaryOperators]⟩
    refine ⟨tree, behind, parsed, ?_⟩
    rw [expectEnd_fst, Parser.atEnd, current, tokens_of_parse parsed, cursor,
      TokenSequence.get_of_toList_eq whole]
    exact isEnd

/-- **Reading recognises the grammar.** A tree is returned and the cursor left at a token exactly
if the kinds of the tokens before it are an expression and the token is no binary operator. A tree
is returned and nothing left exactly if the tokens before the first mark of the end are one. -/
theorem parse_recognises_expression (tokens : TokenSequence) :
    (∀ cursor, (∃ tree behind, (start tokens none).parse = (some tree, behind) ∧
        behind.cursor = cursor) ↔
      Derives .expression ((tokens.toList.take cursor).map Token.kind) ∧
        ∃ next ∈ tokens.toList[cursor]?, next.kind ∉ binaryOperators) ∧
      ((∃ tree behind, (start tokens none).parse = (some tree, behind) ∧
          behind.expectEnd.1 = true) ↔
        Derives .expression (tokens.beforeEnd.map Token.kind)) := by
  constructor
  · exact exists_parse_iff tokens
  · exact exists_parse_expectEnd_iff tokens

end Parser
end Lox
