import Lox.Proofs.Parse.Language
import Lox.Reading

/-!
# Errors stand at the first token that cannot go on

A string of kinds is viable if some expression begins with it. The machine takes some tokens
exactly if their kinds are viable (`viable_iff_reaches`). In one direction the state that was
reached is completed: an operand where one is expected, and a closing parenthesis for each open one
(`Machine.exists_completion`). In the other direction an expression is read from the start, so each
of its beginnings is.

Hence reading without a limit on nesting fails where it has to and never earlier or later. The
tokens before the error are viable, and with the token at the error they no longer are
(`Parser.parseWhole_fails_at_first_unviable`).
-/

set_option autoImplicit false

namespace Lox

/-- A string of kinds with which some expression begins. -/
def Viable (word : List TokenKind) : Prop := ∃ rest, Derives .expression (word ++ rest)

namespace Machine

/-! ## Completing a state -/

section Completion

variable (rule : Rule) (limit : Option Nat)

theorem length_close_le {strength depth outside : Nat} {operand tree : Expr}
    {frames outer : List Frame}
    (closed : close strength operand depth frames = (tree, outside, outer)) :
    outer.length ≤ frames.length := by
  refine close_keeps (motive := fun _ _ above => above.length ≤ frames.length) ?_ ?_ closed
    (Nat.le_refl _)
  · intro _ _ _ _ shorter
    exact Nat.le_of_succ_le shorter
  · intro _ _ _ _ _ _ shorter
    exact Nat.le_of_succ_le shorter

/-- Behind an operand, closing parentheses complete every construct. -/
theorem exists_closings (cursor depth : Nat) (frames : List Frame) (operand : Expr) :
    ∃ tokens last outcome tree,
      Reaches rule limit ⟨cursor, depth, frames, some operand⟩ tokens last ∧
        Stops rule limit last (.ofKind .endOfInput) outcome ∧ outcome.result = .ok tree := by
  rcases close_zero_cases operand depth frames with
    ⟨tree, outside, closed⟩ | ⟨inner, inside, outer, closed⟩
  · refine ⟨[], _, _, tree, .refl _, .complete (fun tier operator => ?_) closed, rfl⟩
    exact absurd operator (by cases tier <;> decide)
  · have shorter : outer.length < frames.length := length_close_le closed
    obtain ⟨tokens, last, outcome, tree, reaches, stops, returned⟩ :=
      exists_closings (cursor + 1) (inside - 1) outer (.grouping inner)
    have first : Takes rule limit ⟨cursor, depth, frames, some operand⟩ (.ofKind .rightParen)
        ⟨cursor + 1, inside - 1, outer, some (.grouping inner)⟩ := .closing rfl closed
    exact ⟨_ :: tokens, last, outcome, tree, .step first reaches, stops, returned⟩
termination_by frames.length

/-- **Some further tokens complete every construct of a state.** -/
theorem exists_completion (state : State) :
    ∃ tokens last outcome tree, Reaches rule limit state tokens last ∧
      Stops rule limit last (.ofKind .endOfInput) outcome ∧ outcome.result = .ok tree := by
  obtain ⟨cursor, depth, frames, _ | operand⟩ := state
  · have first : Takes rule limit ⟨cursor, depth, frames, none⟩ (.ofKind .nilWord)
        ⟨cursor + 1, depth, frames, some (.literal .nil)⟩ := .literal (.absent rfl)
    obtain ⟨tokens, last, outcome, tree, reaches, stops, returned⟩ :=
      exists_closings rule limit (cursor + 1) depth frames (.literal .nil)
    exact ⟨_ :: tokens, last, outcome, tree, .step first reaches, stops, returned⟩
  · exact exists_closings rule limit cursor depth frames operand

end Completion

end Machine

open Machine

/-! ## Viable strings -/

theorem Token.map_kind_ofKind (word : List TokenKind) :
    (word.map Token.ofKind).map Token.kind = word := by
  rw [List.map_map]
  exact List.map_id word

/-- What was read can be completed to an expression. -/
theorem viable_of_reaches {limit : Option Nat} {tokens : List Token} {last : State}
    (reaches : Reaches .expression limit (.initial 0) tokens last) :
    Viable (tokens.map Token.kind) := by
  obtain ⟨further, final, outcome, tree, completes, stops, returned⟩ :=
    exists_completion .expression limit last
  have read := Reads.of_reaches (.waiting .bottom) (reaches.append completes)
  have sound := stops.canonical returned read
  refine ⟨further.map Token.kind, ?_⟩
  rw [← List.map_append]
  exact (derives_expression_iff _).mpr ⟨tree, sound⟩

/-- **Without a limit on nesting, the tokens that can be read are those of viable strings.** -/
theorem viable_iff_reaches (tokens : List Token) :
    Viable (tokens.map Token.kind) ↔
      ∃ last, Reaches .expression none (.initial 0) tokens last := by
  constructor
  · rintro ⟨rest, derivation⟩
    rw [← Token.map_kind_ofKind rest, ← List.map_append] at derivation
    obtain ⟨tree, canonical, flattens⟩ := (derives_expression_iff _).mp derivation
    obtain ⟨last, reaches, _⟩ :=
      readsBack_of_canonical canonical flattens 0 0 [] (Nat.zero_le _) (forall_mem_none _)
    exact reaches.exists_middle
  · rintro ⟨last, reaches⟩
    exact viable_of_reaches reaches

/-- No expression begins with what was read and a token that stops reading. -/
theorem not_viable_of_stops {tokens : List Token} {last : State} {token : Token}
    {outcome : Outcome} (reaches : Reaches .expression none (.initial 0) tokens last)
    (stops : Stops .expression none last token outcome) :
    ¬ Viable ((tokens ++ [token]).map Token.kind) := by
  intro viable
  obtain ⟨final, further⟩ := (viable_iff_reaches _).mp viable
  cases reaches.of_append further with
  | step takes _ => exact takes.not_stops stops

/-! ## The first token that cannot go on -/

/-- Without a limit an error stands at the token that stops reading, before the cursor moves. -/
theorem Machine.Stops.error_at_token {rule : Rule} {state : State} {token : Token}
    {outcome : Outcome} {error : SyntaxError} (stops : Stops rule none state token outcome)
    (failed : outcome.result = .error error) :
    outcome.cursor = state.cursor ∧ error.report.token = token := by
  rcases stops.error_cases failed with ⟨stays, message, _, rfl⟩ | ⟨bound, given, _⟩
  · exact ⟨stays, rfl⟩
  · exact absurd given (Option.not_mem_none bound)

namespace Parser

/-- A whole parse fails where reading fails, or at what is left behind a complete expression. -/
theorem parseWhole_eq_none_cases {tokens : TokenSequence} {limit : Option Nat} {behind : Parser}
    (failed : (start tokens limit).parseWhole true = (none, behind)) :
    (∃ error, (start tokens limit).outcome.result = .error error ∧
      behind.cursor = (start tokens limit).outcome.cursor ∧ behind.errors = [error]) ∨
      ∃ tree, (start tokens limit).outcome.result = .ok tree ∧
        behind.cursor = (start tokens limit).outcome.cursor ∧
          (tokens.get behind.cursor).isEnd = false ∧
            behind.errors = [.atToken (tokens.get behind.cursor) SyntaxError.endExpected] := by
  cases ended : (start tokens limit).outcome.result with
  | error error =>
    rw [parseWhole, parse_start_of_error tokens limit ended] at failed
    cases failed
    exact .inl ⟨error, rfl, rfl, rfl⟩
  | ok tree =>
    rw [parseWhole, parse_start_of_ok tokens limit ended] at failed
    simp only [if_true, expectEnd] at failed
    cases atEnd : ((start tokens limit).behind (start tokens limit).outcome).atEnd with
    | true => simp [atEnd] at failed
    | false =>
      simp only [atEnd] at failed
      cases failed
      exact .inr ⟨tree, rfl, rfl, atEnd, rfl⟩

/-- Where reading fails at a mark of the end, the tokens before it are no expression. -/
theorem not_derives_of_error {tokens : TokenSequence} {error : SyntaxError}
    {first second : List Token} {stop : Token}
    (failed : (start tokens none).outcome.result = .error error)
    (whole : tokens.toList = first ++ stop :: second) (isEnd : stop.isEnd = true) :
    ¬ Derives .expression (first.map Token.kind) := by
  intro derivation
  have kind : stop.kind = .endOfInput := Token.isEnd_iff.mp isEnd
  obtain ⟨tree, behind, parsed, _⟩ := (exists_parse_iff tokens first.length).mpr
    ⟨by rwa [whole, List.take_left], stop, by simp [whole], by simp [kind, binaryOperators]⟩
  rw [parse_start_of_error tokens none failed] at parsed
  cases parsed

/-- **Without a limit on nesting, an error stands at the earliest token that shows it.** If a whole
parse fails, its one error is at the cursor. The tokens before the cursor begin some expression. At
a mark of the end they are no expression themselves, and at any other token no expression begins
with them and that token. -/
theorem parseWhole_fails_at_first_unviable {tokens : TokenSequence} {behind : Parser}
    (failed : (start tokens none).parseWhole true = (none, behind)) :
    behind.cursor ≤ tokens.body.length ∧
      (∃ error, behind.errors = [error] ∧ error.report.token = tokens.get behind.cursor) ∧
        Viable ((tokens.toList.take behind.cursor).map Token.kind) ∧
          ((tokens.get behind.cursor).isEnd = true ∧
              ¬ Derives .expression ((tokens.toList.take behind.cursor).map Token.kind) ∨
            (tokens.get behind.cursor).isEnd = false ∧
              ¬ Viable ((tokens.toList.take (behind.cursor + 1)).map Token.kind)) := by
  obtain ⟨first, token, second, last, whole, reaches, stops⟩ := exists_outcome tokens none
  have read : last.cursor = first.length := by
    rw [reaches.cursor_eq]
    exact Nat.zero_add _
  have here : tokens.get first.length = token := TokenSequence.get_of_toList_eq whole
  have before : tokens.toList.take first.length = first := by rw [whole, List.take_left]
  have upTo : tokens.toList.take (first.length + 1) = first ++ [token] := by
    rw [whole, List.take_length_add_append, List.take_succ_cons, List.take_zero]
  have inside : first.length ≤ tokens.body.length := TokenSequence.length_le_of_toList_eq whole
  have viable := viable_of_reaches reaches
  have unviable := not_viable_of_stops reaches stops
  rcases parseWhole_eq_none_cases failed with
    ⟨error, ended, cursor, recorded⟩ | ⟨tree, ended, cursor, further, recorded⟩
  · obtain ⟨stays, at_token⟩ := stops.error_at_token ended
    rw [stays, read] at cursor
    rw [cursor, here, before, upTo]
    refine ⟨inside, ⟨error, recorded, at_token⟩, viable, ?_⟩
    cases isEnd : token.isEnd with
    | true => exact .inl ⟨rfl, not_derives_of_error ended whole isEnd⟩
    | false => exact .inr ⟨rfl, unviable⟩
  · rw [stops.cursor_eq ended, read] at cursor
    rw [cursor, here] at further recorded
    rw [cursor, here, before, upTo]
    exact ⟨inside, ⟨_, recorded, rfl⟩, viable, .inr ⟨further, unviable⟩⟩

/-- The tokens of `(nil ;` and the mark of the end. -/
def unclosedTokens : TokenSequence := .ofKinds [.leftParen, .nilWord, .semicolon]

theorem parseWhole_fails_at_first_unviable_unclosed :
    (start unclosedTokens none).parseWhole true =
        (none, ((start unclosedTokens none).parseWhole true).2) ∧
      ((start unclosedTokens none).parseWhole true).2.cursor = 2 ∧
        Viable [.leftParen, .nilWord] ∧ ¬ Viable [.leftParen, .nilWord, .semicolon] :=
  have failed : (start unclosedTokens none).parseWhole true = (none, _) := rfl
  have ⟨_, _, viable, unviable⟩ := parseWhole_fails_at_first_unviable failed
  ⟨rfl, rfl, viable, (unviable.resolve_left fun ended => nomatch ended.1).2⟩

end Parser
end Lox
