import Lox.Proofs.Parse.Completeness
import Lox.Proofs.Parse.Cursor

/-!
# The cursor stays in range

A tree is written with the tokens between the cursor before it was read and the cursor behind it
(`Parser.exists_flattens`). So each of its operators is one of these tokens, and none is taken from
the end of the sequence when the cursor stands at its start.

Together with the bound on the cursor this says that a parser never looks outside its tokens, in
whatever order it is used and whatever failed before (`Parser.cursor_stays_in_range`).
-/

set_option autoImplicit false

namespace Lox

/-! ## Operators and their tokens -/

namespace Expr

/-- The tokens of the operators of a tree, from left to right. -/
def operators : Expr → List Token
  | literal _ => []
  | grouping inner => inner.operators
  | unary operator operand => operator :: operand.operators
  | binary left operator right => left.operators ++ operator :: right.operators

/-- The operators of a tree are some of the tokens that it is written with. -/
theorem Flattens.operators_sublist {tree : Expr} {tokens : List Token}
    (flattens : tree.Flattens tokens) : tree.operators.Sublist tokens := by
  induction flattens with
  | literal => exact List.nil_sublist _
  | grouping _ _ _ ih => exact (ih.cons _).trans (List.sublist_append_left _ _)
  | unary _ ih => exact ih.cons_cons _
  | binary _ _ left right => exact left.append (right.cons_cons _)

end Expr

/-- A token stands in the sequence at an index from the first given one on, before the second. -/
def TokenSequence.Between (tokens : TokenSequence) (start stop : Nat) (token : Token) : Prop :=
  ∃ index, start ≤ index ∧ index < stop ∧ tokens.toList[index]? = some token

/-- The tokens of a part of the sequence stand at the indices of the part. -/
theorem TokenSequence.between_of_drop_eq {tokens : TokenSequence} {start : Nat}
    {first second : List Token} (whole : tokens.toList.drop start = first ++ second)
    {token : Token} (member : token ∈ first) :
    tokens.Between start (start + first.length) token := by
  obtain ⟨offset, inFirst, found⟩ := List.getElem_of_mem member
  refine ⟨start + offset, Nat.le_add_right _ _, Nat.add_lt_add_left inFirst _, ?_⟩
  rw [← List.getElem?_drop, whole, List.getElem?_append_left inFirst,
    List.getElem?_eq_getElem inFirst, found]

namespace Parser

open Machine

variable {parser : Parser} {rule : Rule} {tree : Expr}

/-! ## Reading -/

/-- **A tree is written with the tokens that were read for it.** -/
theorem exists_flattens (inside : parser.cursor ≤ parser.tokens.body.length)
    (returned : (parser.ruleOutcome rule).result = .ok tree) :
    ∃ first second, parser.tokens.toList.drop parser.cursor = first ++ second ∧
      (parser.ruleOutcome rule).cursor = parser.cursor + first.length ∧ tree.Flattens first := by
  obtain ⟨first, token, second, last, whole, reaches, stops⟩ :=
    parser.exists_ruleOutcome rule inside
  refine ⟨first, token :: second, whole, ?_, ?_⟩
  · rw [stops.cursor_eq returned, reaches.cursor_eq]
  · exact (stops.canonical returned (Reads.of_reaches (.waiting .bottom) reaches)).2

/-- The operators of a tree stand between the cursors before it and behind it. -/
theorem between_of_mem_operators (inside : parser.cursor ≤ parser.tokens.body.length)
    (returned : (parser.ruleOutcome rule).result = .ok tree) :
    ∀ operator ∈ tree.operators,
      parser.tokens.Between parser.cursor (parser.ruleOutcome rule).cursor operator := by
  intro operator member
  obtain ⟨first, second, whole, ended, flattens⟩ := exists_flattens inside returned
  rw [ended]
  exact TokenSequence.between_of_drop_eq whole (flattens.operators_sublist.subset member)

/-- While it reads by a rule, a parser comes to an index when the tokens before it are taken. -/
def ComesTo (parser : Parser) (rule : Rule) (index : Nat) : Prop :=
  ∃ first second last, parser.tokens.toList.drop parser.cursor = first ++ second ∧
    Reaches rule parser.limit ⟨parser.cursor, parser.depth, [], none⟩ first last ∧
      last.cursor = index

/-- Reading never comes past the first mark of the end. -/
theorem ComesTo.le_firstEnd {index : Nat} (comes : parser.ComesTo rule index)
    (inside : parser.cursor ≤ parser.tokens.firstEnd) : index ≤ parser.tokens.firstEnd := by
  obtain ⟨first, second, last, whole, reaches, rfl⟩ := comes
  rw [reaches.cursor_eq]
  refine Nat.le_of_not_lt fun past => ?_
  have taken := reaches.kind_mem _ (TokenSequence.get_mem_of_drop_eq whole inside past)
  have unmarked := Token.isEnd_of_kind_mem taken
  rw [parser.tokens.isEnd_get_firstEnd] at unmarked
  contradiction

/-! ## Operations -/

theorem cursor_le_advance (parser : Parser) : parser.cursor ≤ parser.advance.cursor := by
  unfold advance
  split
  · exact Nat.le_refl _
  · exact Nat.le_succ _

theorem cursor_le_synchronize (parser : Parser) : parser.cursor ≤ parser.synchronize.cursor := by
  unfold synchronize
  split
  · exact Nat.le_refl _
  · exact Nat.le_trans (Nat.le_succ _) (Nat.le_add_right _ _)

theorem cursor_accept_of_false {kinds : List TokenKind} (fails : (parser.accept kinds).1 = false) :
    (parser.accept kinds).2.cursor = parser.cursor := by
  unfold accept at fails ⊢
  split
  · next accepted => simp [accepted] at fails
  · rfl

theorem cursor_expect_of_error {kind : TokenKind} {message : String} {error : SyntaxError}
    (fails : (parser.expect kind message).1 = .error error) :
    (parser.expect kind message).2.cursor = parser.cursor := by
  unfold expect at fails ⊢
  split
  · next expected => simp [expected] at fails
  · rfl

/-- Only reading from the start moves the cursor back. -/
theorem cursor_le_operate (inside : parser.cursor ≤ parser.tokens.body.length)
    {operation : Operation} (keeps : operation ≠ .call .parse) :
    parser.cursor ≤ (parser.operate operation).cursor := by
  cases operation with
  | call call =>
    cases call with
    | parse => contradiction
    | parseNext => exact cursor_le_parseNext inside
    | synchronize => exact parser.cursor_le_synchronize
    | expectEnd =>
      simp only [operate, perform, expectEnd]
      split <;> exact Nat.le_refl _
  | readRule rule =>
    obtain ⟨reports, behind⟩ := parser.exists_readRule_snd rule
    rw [operate, behind]
    exact cursor_le_ruleOutcome inside
  | advance => exact parser.cursor_le_advance
  | accept kinds =>
    simp only [operate, accept]
    split
    · exact parser.cursor_le_advance
    · exact Nat.le_refl _
  | expect kind message =>
    simp only [operate, expect]
    split
    · exact parser.cursor_le_advance
    · exact Nat.le_refl _
  | report => exact Nat.le_refl _
  | resetReports => exact Nat.le_refl _

/-! ## The range of the cursor -/

/-- The cursor of a parser is in range, and what is done next looks only at tokens in range. -/
structure InRange (parser : Parser) : Prop where
  cursor_le : parser.cursor ≤ parser.tokens.firstEnd
  getElem?_cursor : parser.tokens.toList[parser.cursor]? = some parser.current
  previous_mem : parser.previous ∈ parser.tokens.toList
  /-- Reading by a rule looks at no token behind the first mark of the end. -/
  le_of_comesTo : ∀ rule index, parser.ComesTo rule index → index ≤ parser.tokens.firstEnd
  cursor_le_operate : ∀ operation, operation ≠ .call .parse →
    parser.cursor ≤ (parser.operate operation).cursor
  cursor_accept : ∀ kinds, (parser.accept kinds).1 = false →
    (parser.accept kinds).2.cursor = parser.cursor
  cursor_expect : ∀ kind message error, (parser.expect kind message).1 = .error error →
    (parser.expect kind message).2.cursor = parser.cursor
  /-- The operators of a tree are tokens that were walked over, and no marks of the end. -/
  operators_readRule : ∀ rule tree behind, parser.readRule rule = (.ok tree, behind) →
    ∀ operator ∈ tree.operators, operator.isEnd = false ∧
      parser.tokens.Between parser.cursor behind.cursor operator
  operators_parseNext : ∀ tree behind, parser.parseNext = (some tree, behind) →
    ∀ operator ∈ tree.operators, operator.isEnd = false ∧
      parser.tokens.Between parser.cursor behind.cursor operator

theorem previous_mem_toList (inside : parser.cursor ≤ parser.tokens.body.length) :
    parser.previous ∈ parser.tokens.toList := by
  unfold previous
  split
  · exact List.mem_append_right _ (List.mem_singleton_self _)
  · next index before =>
    rw [before] at inside
    exact List.mem_of_getElem? (parser.tokens.getElem?_toList (Nat.le_of_succ_le inside))

/-- The operators of a tree that a rule gives are in range. -/
theorem operators_of_ruleOutcome (inside : parser.cursor ≤ parser.tokens.firstEnd)
    (returned : (parser.ruleOutcome rule).result = .ok tree) :
    ∀ operator ∈ tree.operators, operator.isEnd = false ∧
      parser.tokens.Between parser.cursor (parser.ruleOutcome rule).cursor operator := by
  intro operator member
  have body := Nat.le_trans inside parser.tokens.firstEnd_le
  have between := between_of_mem_operators body returned operator member
  refine ⟨?_, between⟩
  obtain ⟨index, lower, upper, found⟩ := between
  have before : index < parser.tokens.firstEnd :=
    Nat.lt_of_lt_of_le upper (cursor_ruleOutcome_le_firstEnd inside)
  rw [parser.tokens.getElem?_toList
    (Nat.le_trans (Nat.le_of_lt before) parser.tokens.firstEnd_le)] at found
  rw [← Option.some.inj found]
  exact TokenSequence.isEnd_get_of_lt_firstEnd before

/-- **The cursor stays in range.** Whatever was done with a parser, its cursor is in front of the
first mark of the end or at it, and so are the tokens that it looks at next. Only reading from the
start moves the cursor back, and a token that is not accepted does not move it. The operators of a
tree stand between the cursors before it and behind it. -/
theorem cursor_stays_in_range (reachable : parser.Reachable) : parser.InRange := by
  have inside := reachable.cursor_le_firstEnd
  have body := reachable.cursor_le_length
  exact {
    cursor_le := inside
    getElem?_cursor := parser.tokens.getElem?_toList body
    previous_mem := previous_mem_toList body
    le_of_comesTo := fun _ _ comes => comes.le_firstEnd inside
    cursor_le_operate := fun _ keeps => cursor_le_operate body keeps
    cursor_accept := fun _ => cursor_accept_of_false
    cursor_expect := fun _ _ _ => cursor_expect_of_error
    operators_readRule := by
      intro rule tree behind read
      cases ended : (parser.ruleOutcome rule).result with
      | ok returned =>
        rw [readRule_of_ok ended] at read
        cases read
        exact operators_of_ruleOutcome inside ended
      | error error =>
        rw [readRule_of_error ended] at read
        cases read
    operators_parseNext := by
      intro tree behind read
      cases ended : parser.outcome.result with
      | ok returned =>
        rw [parseNext_of_ok ended] at read
        cases read
        have start : ({ parser with depth := 0 } : Parser).cursor ≤ parser.tokens.firstEnd := inside
        exact operators_of_ruleOutcome start ended
      | error error =>
        rw [parseNext_of_error ended] at read
        cases read }

/-- A parser of `(; -nil`, a mark of the end and `+`, at the minus, behind a rule that failed. -/
def interruptedParser : Parser :=
  ((startBehind (.ofKinds [.leftParen, .semicolon, .minus, .nilWord, .endOfInput, .plus]) none
    []).operate (.readRule .primary)).operate .advance

theorem cursor_stays_in_range_interrupted :
    (interruptedParser.Reachable ∧ interruptedParser.cursor = 2 ∧
      interruptedParser.tokens.firstEnd = 4) ∧
        interruptedParser.InRange ∧
          interruptedParser.tokens.Between 2 4 (.ofKind .minus) := by
  have reachable : interruptedParser.Reachable := .operate _ (.operate _ (.start _ _ _))
  have inRange := cursor_stays_in_range reachable
  have between := (inRange.operators_parseNext _ _ rfl (.ofKind .minus)
    (List.mem_singleton_self _)).2
  exact ⟨⟨reachable, rfl, rfl⟩, inRange, between⟩

end Parser
end Lox
