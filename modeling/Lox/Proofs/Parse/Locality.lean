import Lox.Proofs.Parse.Completeness
import Lox.Proofs.Parse.Cursor

/-!
# Reading depends only on the tokens that it walks over

The machine never looks at its cursor, so a step, a run and an end are the same wherever they stand
(`Machine.Takes.shift`, `Machine.Reaches.shift`, `Machine.Stops.shift`). A run looks at the tokens
that it takes and at the one that stops it, and at nothing else.

So two parsers with the same limit read alike where the same tokens follow, whatever the rest of
their tokens is and whatever was done with them before (`Parser.parseNext_reads_what_it_walks`).
-/

set_option autoImplicit false

namespace Lox

namespace Machine

/-! ## Moving the cursor -/

section Shift

variable {rule : Rule} {limit : Option Nat} {state next : State} {token : Token}
variable {tokens : List Token} {outcome : Outcome}

/-- A token is taken in the same way wherever it stands. -/
theorem Takes.shift (takes : Takes rule limit state token next) (cursor : Nat) :
    Takes rule limit { state with cursor } token { next with cursor := cursor + 1 } := by
  cases takes with
  | literal denotes => exact .literal denotes
  | nest opens allows below => exact .nest opens allows below
  | join kind closed joins => exact .join kind closed joins
  | closing kind closed => exact .closing kind closed

theorem Reaches.shift (reaches : Reaches rule limit state tokens next) (cursor : Nat) :
    Reaches rule limit { state with cursor } tokens
      { next with cursor := cursor + tokens.length } := by
  induction reaches generalizing cursor with
  | refl => exact .refl _
  | step takes _ ih =>
    have further := ih (cursor + 1)
    rw [Nat.add_right_comm] at further
    exact .step (takes.shift cursor) further

/-- Reading stops in the same way wherever it does, before the token or behind it. -/
theorem Stops.shift (stops : Stops rule limit state token outcome) :
    ∃ further, outcome.cursor = state.cursor + further ∧
      ∀ cursor, Stops rule limit { state with cursor } token
        { outcome with cursor := cursor + further } := by
  cases stops with
  | operandExpected noLiteral noLevel =>
    exact ⟨0, rfl, fun _ => .operandExpected noLiteral noLevel⟩
  | tooDeep opens allows given passed =>
    exact ⟨1, rfl, fun _ => .tooDeep opens allows given passed⟩
  | closingExpected noOperator noClosing opened =>
    exact ⟨0, rfl, fun _ => .closingExpected noOperator noClosing opened⟩
  | complete stays closed => exact ⟨0, rfl, fun _ => .complete stays closed⟩

end Shift

end Machine

/-! ## Two parsers before the same tokens -/

/-- A list that agrees with another on a long enough beginning begins like it. -/
theorem exists_eq_append_of_take_eq {α : Type} {here there first second : List α} {token : α}
    {further : Nat} (whole : here = first ++ token :: second)
    (same : there.take (first.length + further + 1) = here.take (first.length + further + 1)) :
    ∃ rest, there = first ++ token :: rest := by
  have begins : first ++ [token] <+: here.take (first.length + further + 1) := by
    rw [List.prefix_take_iff, whole, List.length_append, List.length_singleton]
    exact ⟨⟨second, by simp⟩, by omega⟩
  rw [← same] at begins
  obtain ⟨rest, eq⟩ := begins.trans (List.take_prefix _ there)
  exact ⟨rest, by rw [← eq, List.append_assoc, List.singleton_append]⟩

namespace Parser

open Machine

/-- **Reading by a rule depends only on the tokens that it walks over and the next one.** -/
theorem exists_ruleOutcome_eq (here : Parser) (rule : Rule)
    (inside : here.cursor ≤ here.tokens.body.length) :
    ∃ walked, (here.ruleOutcome rule).cursor = here.cursor + walked ∧
      ∀ there : Parser, there.limit = here.limit → there.depth = here.depth →
        (there.tokens.toList.drop there.cursor).take (walked + 1) =
            (here.tokens.toList.drop here.cursor).take (walked + 1) →
          there.ruleOutcome rule =
            { here.ruleOutcome rule with cursor := there.cursor + walked } := by
  obtain ⟨first, token, second, last, whole, reaches, stops⟩ := here.exists_ruleOutcome rule inside
  obtain ⟨further, ended, anywhere⟩ := stops.shift
  refine ⟨first.length + further, by rw [ended, reaches.cursor_eq, Nat.add_assoc], ?_⟩
  intro there limits depths same
  obtain ⟨rest, wholeThere⟩ := exists_eq_append_of_take_eq whole same
  have reachesThere := reaches.shift there.cursor
  have stopsThere := anywhere (there.cursor + first.length)
  rw [Nat.add_assoc] at stopsThere
  rw [← limits, ← depths] at reachesThere
  rw [← limits] at stopsThere
  exact there.ruleOutcome_eq wholeThere reachesThere stopsThere

/-- Two parsers read the same expression, or fail with the same error. -/
def ReadAlike (here there : Parser) : Prop :=
  (∃ tree, here.parseNext.1 = some tree ∧ there.parseNext.1 = some tree) ∨
    ∃ error, (here.parseNext.1 = none ∧ there.parseNext.1 = none) ∧
      here.parseNext.2.errors = here.errors ++ [error] ∧
        there.parseNext.2.errors = there.errors ++ [error]

theorem readAlike_of_result_eq {here there : Parser}
    (same : there.outcome.result = here.outcome.result) : here.ReadAlike there := by
  cases ended : here.outcome.result with
  | ok tree =>
    rw [ended] at same
    rw [ReadAlike, parseNext_of_ok ended, parseNext_of_ok same]
    exact .inl ⟨tree, rfl, rfl⟩
  | error error =>
    rw [ended] at same
    rw [ReadAlike, parseNext_of_error ended, parseNext_of_error same]
    exact .inr ⟨error, ⟨rfl, rfl⟩, rfl, rfl⟩

/-- Reading from the start does not depend on what was done before. -/
theorem parse_eq_parse_start (parser : Parser) :
    parser.parse.1 = (start parser.tokens parser.limit).parse.1 ∧
      parser.parse.2.errors = (start parser.tokens parser.limit).parse.2.errors ∧
        parser.parse.2.cursor = (start parser.tokens parser.limit).parse.2.cursor := by
  have same : ({ parser with cursor := 0, errors := [] } : Parser).outcome =
      (start parser.tokens parser.limit).outcome := rfl
  cases ended : (start parser.tokens parser.limit).outcome.result with
  | ok tree =>
    have endedHere := (congrArg Outcome.result same).trans ended
    rw [parse_start_of_ok _ _ ended, parse, parseNext_of_ok endedHere]
    exact ⟨rfl, rfl, rfl⟩
  | error error =>
    have endedHere := (congrArg Outcome.result same).trans ended
    rw [parse_start_of_error _ _ ended, parse, parseNext_of_error endedHere]
    exact ⟨rfl, rfl, rfl⟩

/-- **Reading depends only on the tokens that it walks over.** Whatever was done with a parser,
reading an expression moves its cursor on over some of its tokens. Any parser with the same limit
before the same tokens, those walked over and the next one, reads the same expression or fails with
the same error, and its cursor moves as far. Reading from the start is as in the beginning. -/
theorem parseNext_reads_what_it_walks {here : Parser} (reachable : here.Reachable) :
    (∃ walked, here.parseNext.2.cursor = here.cursor + walked ∧
      here.cursor + walked ≤ here.tokens.body.length ∧
        ∀ there : Parser, there.limit = here.limit →
          (there.tokens.toList.drop there.cursor).take (walked + 1) =
              (here.tokens.toList.drop here.cursor).take (walked + 1) →
            there.parseNext.2.cursor = there.cursor + walked ∧ here.ReadAlike there) ∧
      here.parse.1 = (start here.tokens here.limit).parse.1 ∧
        here.parse.2.errors = (start here.tokens here.limit).parse.2.errors ∧
          here.parse.2.cursor = (start here.tokens here.limit).parse.2.cursor := by
  refine ⟨?_, here.parse_eq_parse_start⟩
  obtain ⟨walked, ended, anywhere⟩ :=
    ({ here with depth := 0 } : Parser).exists_ruleOutcome_eq .expression
      reachable.cursor_le_length
  have inside := here.leaves_parseNext.cursor_le reachable.cursor_le_firstEnd
  rw [cursor_parseNext, outcome, ended] at inside
  refine ⟨walked, ?_, Nat.le_trans inside here.tokens.firstEnd_le, ?_⟩
  · rw [cursor_parseNext, outcome, ended]
  · intro there limits same
    have alike : there.outcome = { here.outcome with cursor := there.cursor + walked } :=
      anywhere { there with depth := 0 } limits rfl same
    have result : there.outcome.result = here.outcome.result := by rw [alike]
    refine ⟨?_, readAlike_of_result_eq result⟩
    rw [cursor_parseNext, alike]

/-- A parser of `(; (nil ;` at the second parenthesis, with a level left from the first one. -/
def leftoverParser : Parser :=
  ((startBehind (.ofKinds [.leftParen, .semicolon, .leftParen, .nilWord, .semicolon]) (some 1)
    []).operate (.readRule .primary)).operate .advance

/-- A parser at the start of `(nil ; *`. -/
def freshParser : Parser :=
  start (.ofKinds [.leftParen, .nilWord, .semicolon, .star]) (some 1)

theorem parseNext_reads_what_it_walks_leftover :
    (leftoverParser.Reachable ∧ leftoverParser.depth = 1 ∧ leftoverParser.cursor = 2) ∧
      leftoverParser.parseNext.2.cursor = 4 ∧ freshParser.parseNext.2.cursor = 2 ∧
        leftoverParser.ReadAlike freshParser := by
  have reachable : leftoverParser.Reachable := .operate _ (.operate _ (.start _ _ _))
  obtain ⟨⟨walked, moved, _, anywhere⟩, _⟩ := parseNext_reads_what_it_walks reachable
  have two : 4 = 2 + walked := moved
  obtain rfl : walked = 2 := by omega
  obtain ⟨cursor, alike⟩ := anywhere freshParser rfl rfl
  exact ⟨⟨reachable, rfl, rfl⟩, moved, cursor, alike⟩

end Parser
end Lox
