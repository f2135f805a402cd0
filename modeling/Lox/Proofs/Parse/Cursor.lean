import Lox.Proofs.Parse.Session

/-!
# Where the cursor can be

Reading walks over tokens of the kinds that expressions are written with (`expressionKinds`), and
over nothing else: the cursor moves over the tokens that are taken, and over one that passes the
limit on nesting, which is a token of these kinds too (`Parser.exists_walk`). Recovery moves behind
the first token that ends a statement (`Parser.exists_synchronize`).

A parser is used through a few calls (`Parser.Call`), and more can be done with it one rule or one
token at a time (`Parser.Operation`). The mark of the end is no token of an expression and ends a
statement in front of it, so nothing of this moves the cursor past the first one
(`Parser.Reachable.cursor_le_firstEnd`).
-/

set_option autoImplicit false

namespace Lox

/-! ## Tokens of expressions -/

/-- The kinds of the tokens that expressions are written with. -/
def expressionKinds : List TokenKind :=
  .leftParen :: .rightParen :: (unaryOperators ++ literalKinds ++ binaryOperators)

theorem Token.isEnd_of_kind_mem {token : Token} (kind : token.kind ∈ expressionKinds) :
    token.isEnd = false := by
  refine Bool.eq_false_iff.mpr fun isEnd => ?_
  have marks : token.kind = .endOfInput := Token.isEnd_iff.mp isEnd
  rw [marks] at kind
  exact absurd kind (by decide)

namespace Machine

theorem Opens.kind_mem {token : Token} {frame : Frame} (opens : Opens token frame) :
    token.kind ∈ expressionKinds := by
  cases opens with
  | group kind => simp [kind, expressionKinds]
  | unary kind => simp [kind, expressionKinds]

section Walk

variable {rule : Rule} {limit : Option Nat} {state next : State} {token : Token}
variable {tokens : List Token} {outcome : Outcome}

/-- A token that is taken is one that expressions are written with. -/
theorem Takes.kind_mem (takes : Takes rule limit state token next) :
    token.kind ∈ expressionKinds := by
  cases takes with
  | literal denotes => simp [denotes.kind_mem, expressionKinds]
  | nest opens => exact opens.kind_mem
  | join kind =>
    have operator := (token.kind.mem_binaryOperators_iff).mpr ⟨_, kind⟩
    simp [operator, expressionKinds]
  | closing kind => simp [kind, expressionKinds]

theorem Reaches.kind_mem (reaches : Reaches rule limit state tokens next) :
    ∀ token ∈ tokens, token.kind ∈ expressionKinds := by
  induction reaches with
  | refl => simp
  | step takes _ ih => simpa using ⟨takes.kind_mem, ih⟩

/-- Reading stops before a token, or behind one that begins a level of nesting. -/
theorem Stops.cursor_cases (stops : Stops rule limit state token outcome) :
    outcome.cursor = state.cursor ∨
      outcome.cursor = state.cursor + 1 ∧ ∃ frame, Opens token frame := by
  cases stops with
  | tooDeep opens => exact .inr ⟨rfl, _, opens⟩
  | _ => exact .inl rfl

end Walk

end Machine

namespace Parser

open Machine

/-! ## Walking -/

/-- **Reading walks over tokens that expressions are written with.** -/
theorem exists_walk (parser : Parser) (rule : Rule)
    (inside : parser.cursor ≤ parser.tokens.body.length) :
    ∃ walked further, parser.tokens.toList.drop parser.cursor = walked ++ further ∧
      (parser.ruleOutcome rule).cursor = parser.cursor + walked.length ∧
        ∀ token ∈ walked, token.kind ∈ expressionKinds := by
  obtain ⟨first, token, second, last, whole, reaches, stops⟩ :=
    parser.exists_ruleOutcome rule inside
  have taken := reaches.cursor_eq
  rcases stops.cursor_cases with before | ⟨behind, frame, opens⟩
  · exact ⟨first, token :: second, whole, before.trans taken, reaches.kind_mem⟩
  · refine ⟨first ++ [token], second, by simpa using whole, ?_, ?_⟩
    · rw [behind, taken, List.length_append, List.length_singleton, Nat.add_assoc]
    · intro other member
      rcases List.mem_append.mp member with member | member
      · exact reaches.kind_mem other member
      · obtain rfl := List.mem_singleton.mp member
        exact opens.kind_mem

section Walk

variable {parser : Parser} {rule : Rule}

theorem cursor_le_ruleOutcome (inside : parser.cursor ≤ parser.tokens.body.length) :
    parser.cursor ≤ (parser.ruleOutcome rule).cursor := by
  obtain ⟨walked, _, _, ended, _⟩ := parser.exists_walk rule inside
  omega

theorem cursor_le_parseNext (inside : parser.cursor ≤ parser.tokens.body.length) :
    parser.cursor ≤ parser.parseNext.2.cursor := by
  have started : ({ parser with depth := 0 } : Parser).cursor ≤ parser.tokens.body.length := inside
  rw [cursor_parseNext, outcome]
  exact cursor_le_ruleOutcome started

theorem kind_mem_of_walked (inside : parser.cursor ≤ parser.tokens.body.length) {index : Nat}
    (lower : parser.cursor ≤ index) (upper : index < (parser.ruleOutcome rule).cursor) :
    (parser.tokens.get index).kind ∈ expressionKinds := by
  obtain ⟨walked, _, whole, ended, kinds⟩ := parser.exists_walk rule inside
  rw [ended] at upper
  exact kinds _ (TokenSequence.get_mem_of_drop_eq whole lower upper)

/-- A token of another kind is not walked over. -/
theorem cursor_ruleOutcome_le {index : Nat} (inside : parser.cursor ≤ parser.tokens.body.length)
    (lower : parser.cursor ≤ index) (kind : (parser.tokens.get index).kind ∉ expressionKinds) :
    (parser.ruleOutcome rule).cursor ≤ index :=
  Nat.le_of_not_lt fun past => kind (kind_mem_of_walked inside lower past)

theorem cursor_ruleOutcome_le_firstEnd (inside : parser.cursor ≤ parser.tokens.firstEnd) :
    (parser.ruleOutcome rule).cursor ≤ parser.tokens.firstEnd := by
  refine cursor_ruleOutcome_le (Nat.le_trans inside parser.tokens.firstEnd_le) inside fun kind => ?_
  have unmarked := Token.isEnd_of_kind_mem kind
  rw [parser.tokens.isEnd_get_firstEnd] at unmarked
  contradiction

end Walk

end Parser

/-! ## Skipping -/

namespace TokenSequence

theorem get_eq_head (tokens : TokenSequence) (index : Nat) :
    tokens.get index = (tokens.bodyFrom index).head?.getD tokens.stop := by
  rw [get, bodyFrom, List.head?_drop]

/-- A statement probably ends with the token at an index: the token is a semicolon, or the next one
begins a statement or marks the end. -/
def EndsStatement (tokens : TokenSequence) (index : Nat) : Prop :=
  (tokens.get index).kind = .semicolon ∨ (tokens.get (index + 1)).kind.startsStatement = true ∨
    (tokens.get (index + 1)).isEnd = true

end TokenSequence

namespace Parser

/-- The nearest boundary is the first one. -/
theorem endsStatement_distance (tokens : TokenSequence) (index : Nat) (rest : List Token)
    (left : tokens.bodyFrom (index + 1) = rest) :
    tokens.EndsStatement (index + distanceToBoundary (tokens.get index) rest) ∧
      ∀ other, index ≤ other → other < index + distanceToBoundary (tokens.get index) rest →
        ¬ tokens.EndsStatement other := by
  have next := tokens.get_eq_head (index + 1)
  rw [left] at next
  induction rest generalizing index with
  | nil =>
    refine ⟨.inr (.inr ?_), fun other lower upper => ?_⟩
    · change (tokens.get (index + 1)).isEnd = true
      rw [next]
      exact tokens.stop_isEnd
    · simp only [distanceToBoundary] at upper
      omega
  | cons token rest ih =>
    rw [List.head?_cons, Option.getD_some] at next
    have further : tokens.bodyFrom (index + 2) = rest := by
      have tail := congrArg List.tail left
      rwa [TokenSequence.bodyFrom, List.tail_drop] at tail
    unfold distanceToBoundary
    split
    · next boundary =>
      refine ⟨?_, fun other lower upper => absurd upper (Nat.not_lt.mpr lower)⟩
      simp only [Bool.or_eq_true, beq_iff_eq] at boundary
      rcases boundary with (isEnd | semicolon) | starts
      · exact .inr (.inr (next ▸ isEnd))
      · exact .inl semicolon
      · exact .inr (.inl (next ▸ starts))
    · next inside =>
      simp only [Bool.or_eq_true, beq_iff_eq, not_or] at inside
      have here : ¬ tokens.EndsStatement index := by
        rintro (semicolon | starts | isEnd)
        · exact inside.1.2 semicolon
        · exact inside.2 (next ▸ starts)
        · exact inside.1.1 (next ▸ isEnd)
      have behind := ih (index + 1) further (further ▸ tokens.get_eq_head (index + 2))
      rw [next] at behind
      rw [← Nat.add_assoc, Nat.add_right_comm]
      refine ⟨behind.1, fun other lower upper => ?_⟩
      rcases Nat.eq_or_lt_of_le lower with rfl | lower
      · exact here
      · exact behind.2 other lower upper

/-- **Recovery moves behind the first token, from the current one on, that ends a statement.** -/
theorem exists_synchronize {parser : Parser} (further : parser.atEnd = false) :
    ∃ last, parser.cursor ≤ last ∧ parser.synchronize = { parser with cursor := last + 1 } ∧
      parser.tokens.EndsStatement last ∧
        ∀ index, parser.cursor ≤ index → index < last → ¬ parser.tokens.EndsStatement index := by
  obtain ⟨ends, before⟩ := endsStatement_distance parser.tokens parser.cursor _ rfl
  refine ⟨_, Nat.le_add_right _ _, ?_, ends, before⟩
  rw [synchronize, further, if_neg (by decide)]
  simp only [current, Nat.add_right_comm]

theorem synchronize_atEnd {parser : Parser} (atEnd : parser.atEnd = true) :
    parser.synchronize = parser := by
  rw [synchronize, if_pos atEnd]

/-! ## Operations -/

/-- The calls by which expressions are read one after the other. -/
inductive Call
  | parse | parseNext | synchronize | expectEnd
  deriving DecidableEq

/-- What a call leaves behind. -/
def perform (parser : Parser) : Call → Parser
  | .parse => parser.parse.2
  | .parseNext => parser.parseNext.2
  | .synchronize => parser.synchronize
  | .expectEnd => parser.expectEnd.2

/-- Everything that changes a parser or what it reported. -/
inductive Operation
  | call (call : Call)
  /-- Reads by a rule; behind an error, levels of nesting stay counted. -/
  | readRule (rule : Rule)
  | advance
  | accept (kinds : List TokenKind)
  | expect (kind : TokenKind) (message : String)
  | report (report : Report)
  | resetReports

/-- What an operation leaves behind. -/
def operate (parser : Parser) : Operation → Parser
  | .call call => parser.perform call
  | .readRule rule => (parser.readRule rule).2
  | .advance => parser.advance
  | .accept kinds => (parser.accept kinds).2
  | .expect kind message => (parser.expect kind message).2
  | .report report => parser.report report
  | .resetReports => parser.resetReports

/-- A parser at the start of a token sequence, whose reports come behind those already made. -/
def startBehind (tokens : TokenSequence) (limit : Option Nat) (heard : List Report) : Parser :=
  { start tokens limit with reports := heard }

/-- The parsers that operations lead to, from the start of a token sequence. -/
inductive Reachable : Parser → Prop
  | start (tokens : TokenSequence) (limit : Option Nat) (heard : List Report) :
      Reachable (startBehind tokens limit heard)
  | operate {parser : Parser} (operation : Operation) :
      Reachable parser → Reachable (parser.operate operation)

/-! ## The cursor never passes the first mark of the end -/

/-- One parser leaves another behind: the tokens stay, and the cursor, if it is not past the first
mark of the end, does not pass it. -/
structure Leaves (parser behind : Parser) : Prop where
  tokens_eq : behind.tokens = parser.tokens
  cursor_le : parser.cursor ≤ parser.tokens.firstEnd → behind.cursor ≤ parser.tokens.firstEnd

theorem Leaves.of_eq {parser behind : Parser} (tokens : behind.tokens = parser.tokens)
    (cursor : behind.cursor = parser.cursor) : parser.Leaves behind :=
  ⟨tokens, fun inside => cursor ▸ inside⟩

theorem cursor_lt_firstEnd {parser : Parser} (inside : parser.cursor ≤ parser.tokens.firstEnd)
    (further : parser.atEnd = false) : parser.cursor < parser.tokens.firstEnd := by
  refine Nat.lt_of_le_of_ne inside fun same => ?_
  rw [atEnd, current, same, parser.tokens.isEnd_get_firstEnd] at further
  contradiction

theorem leaves_advance (parser : Parser) : parser.Leaves parser.advance := by
  cases ended : parser.atEnd with
  | true =>
    rw [advance, if_pos ended]
    exact .of_eq rfl rfl
  | false =>
    rw [advance, ended]
    exact ⟨rfl, fun inside => cursor_lt_firstEnd inside ended⟩

theorem leaves_readRule (parser : Parser) (rule : Rule) :
    parser.Leaves (parser.readRule rule).2 := by
  obtain ⟨reports, behind⟩ := parser.exists_readRule_snd rule
  rw [behind]
  exact ⟨rfl, cursor_ruleOutcome_le_firstEnd⟩

theorem leaves_parseNext (parser : Parser) : parser.Leaves parser.parseNext.2 := by
  refine ⟨parser.tokens_parseNext, fun inside => ?_⟩
  rw [cursor_parseNext, outcome]
  exact cursor_ruleOutcome_le_firstEnd inside

theorem leaves_synchronize (parser : Parser) : parser.Leaves parser.synchronize := by
  cases ended : parser.atEnd with
  | true =>
    rw [synchronize_atEnd ended]
    exact .of_eq rfl rfl
  | false =>
    obtain ⟨last, _, moved, _, before⟩ := exists_synchronize ended
    rw [moved]
    refine ⟨rfl, fun inside => Nat.le_of_not_lt fun past => ?_⟩
    -- The token in front of the mark of the end would have been skipped.
    have room := cursor_lt_firstEnd inside ended
    simp only at past
    refine before (parser.tokens.firstEnd - 1) (by omega) (by omega) (.inr (.inr ?_))
    rw [Nat.sub_add_cancel (Nat.zero_lt_of_lt room)]
    exact parser.tokens.isEnd_get_firstEnd

theorem leaves_perform (parser : Parser) (call : Call) : parser.Leaves (parser.perform call) := by
  cases call with
  | parse =>
    have left := ({ parser with cursor := 0, errors := [] } : Parser).leaves_parseNext
    exact ⟨left.tokens_eq, fun _ => left.cursor_le (Nat.zero_le _)⟩
  | parseNext => exact parser.leaves_parseNext
  | synchronize => exact parser.leaves_synchronize
  | expectEnd =>
    simp only [perform, expectEnd]
    split <;> exact .of_eq rfl rfl

/-- An operation keeps the cursor in front of the first mark of the end, or at it. -/
theorem leaves_operate (parser : Parser) (operation : Operation) :
    parser.Leaves (parser.operate operation) := by
  cases operation with
  | call call => exact parser.leaves_perform call
  | readRule rule => exact parser.leaves_readRule rule
  | advance => exact parser.leaves_advance
  | accept kinds =>
    simp only [operate, accept]
    split
    · exact parser.leaves_advance
    · exact .of_eq rfl rfl
  | expect kind message =>
    simp only [operate, expect]
    split
    · exact parser.leaves_advance
    · exact .of_eq rfl rfl
  | report => exact .of_eq rfl rfl
  | resetReports => exact .of_eq rfl rfl

/-- **The cursor never passes the first mark of the end.** -/
theorem Reachable.cursor_le_firstEnd {parser : Parser} (reachable : parser.Reachable) :
    parser.cursor ≤ parser.tokens.firstEnd := by
  induction reachable with
  | start => exact Nat.zero_le _
  | @operate before operation _ ih =>
    have left := before.leaves_operate operation
    rw [left.tokens_eq]
    exact left.cursor_le ih

theorem Reachable.cursor_le_length {parser : Parser} (reachable : parser.Reachable) :
    parser.cursor ≤ parser.tokens.body.length :=
  Nat.le_trans reachable.cursor_le_firstEnd parser.tokens.firstEnd_le

end Parser
end Lox
