import Lox.Proofs.Parse.Range

/-!
# Where reading stops at an error

An error names the token that stops reading, and in general the cursor is left at that token. There
is one exception: a token that begins a level of nesting is passed before the level is counted, so
the error of nesting past the limit leaves the cursor right behind the token that it names
(`Parser.exists_errorPlace`).

So the cursor is not on the token of the error after every failure (`Parser.cursor_behind_error`),
but only where the error is another one (`Parser.parseNext_stops_at_error`).
-/

set_option autoImplicit false

namespace Lox

/-- The token at the end of a part of the sequence stands at the index where the part ends. -/
theorem TokenSequence.getElem?_of_drop_eq {tokens : TokenSequence} {start : Nat} {token : Token}
    {first second : List Token} (whole : tokens.toList.drop start = first ++ token :: second) :
    tokens.toList[start + first.length]? = some token := by
  rw [← List.getElem?_drop, whole, List.getElem?_append_right (Nat.le_refl _), Nat.sub_self,
    List.getElem?_cons_zero]

namespace Machine

/-- Only a token that begins a level of nesting is passed where reading stops. -/
theorem Stops.exists_opens_of_moved {rule : Rule} {limit : Option Nat} {state : State}
    {token : Token} {outcome : Outcome} (stops : Stops rule limit state token outcome)
    (moved : outcome.cursor = state.cursor + 1) : ∃ frame, Opens token frame := by
  rcases stops.cursor_cases with stayed | ⟨_, opens⟩
  · omega
  · exact opens

end Machine

namespace Parser

open Machine

variable {parser : Parser} {rule : Rule} {error : SyntaxError}

/-- The cursor is where an error about the token at an index leaves it: at the token, or right
behind it if the token begins a level of nesting past the limit. -/
inductive LeftAt (limit : Option Nat) (error : SyntaxError) (index : Nat) : Nat → Prop
  | before : error.report.message ≠ SyntaxError.nestingTooDeep → LeftAt limit error index index
  | behind {bound : Nat} {frame : Frame} :
      limit = some bound → error = .tooDeep error.report.token (some bound) →
        Opens error.report.token frame → LeftAt limit error index (index + 1)

/-- Reading by a rule ends at the token of its error, or right behind it. -/
theorem exists_errorPlace (inside : parser.cursor ≤ parser.tokens.body.length)
    (failed : (parser.ruleOutcome rule).result = .error error) :
    ∃ index, parser.cursor ≤ index ∧ parser.tokens.toList[index]? = some error.report.token ∧
      LeftAt parser.limit error index (parser.ruleOutcome rule).cursor := by
  obtain ⟨first, token, second, last, whole, reaches, stops⟩ :=
    parser.exists_ruleOutcome rule inside
  have found := TokenSequence.getElem?_of_drop_eq whole
  have taken : last.cursor = parser.cursor + first.length := reaches.cursor_eq
  refine ⟨parser.cursor + first.length, Nat.le_add_right _ _, ?_⟩
  rcases stops.error_cases failed with ⟨stayed, message, other, rfl⟩ | ⟨bound, given, moved, rfl⟩
  · rw [stayed, taken]
    exact ⟨found, .before other⟩
  · obtain ⟨frame, opens⟩ := stops.exists_opens_of_moved moved
    rw [moved, taken]
    exact ⟨found, .behind given rfl opens⟩

/-- **Reading stops at the token of its error.** When no tree is read, one error is recorded. It
names a token at or behind the old cursor, and leaves the new cursor on that very token, unless it
is the error of nesting past the limit. Then the token begins a level of nesting, and the cursor is
right behind it. -/
theorem parseNext_stops_at_error (inside : parser.cursor ≤ parser.tokens.body.length)
    (failed : parser.parseNext.1 = none) :
    ∃ error index, parser.parseNext.2.errors = parser.errors ++ [error] ∧
      parser.cursor ≤ index ∧ parser.tokens.toList[index]? = some error.report.token ∧
        LeftAt parser.limit error index parser.parseNext.2.cursor := by
  cases ended : parser.outcome.result with
  | ok tree =>
    rw [parseNext_of_ok ended] at failed
    contradiction
  | error error =>
    have start : ({ parser with depth := 0 } : Parser).cursor ≤ parser.tokens.body.length := inside
    obtain ⟨index, lower, found, left⟩ := exists_errorPlace start ended
    refine ⟨error, index, ?_, lower, found, ?_⟩
    · rw [parseNext_of_error ended]
      rfl
    · rw [cursor_parseNext]
      exact left

/-- The tokens of `( ( nil ) )` and the mark of the end. -/
def deepTokens : TokenSequence :=
  .ofKinds [.leftParen, .leftParen, .nilWord, .rightParen, .rightParen]

/-- With one level allowed, the second parenthesis is the token of the error, and has been read. -/
theorem parseNext_stops_at_error_deep :
    (start deepTokens (some 1)).cursor ≤ deepTokens.body.length ∧
      (start deepTokens (some 1)).parseNext.1 = none ∧
        ∃ error index, (start deepTokens (some 1)).parseNext.2.errors = [error] ∧
          deepTokens.toList[index]? = some error.report.token ∧
            LeftAt (some 1) error index 2 := by
  have inside : (start deepTokens (some 1)).cursor ≤ deepTokens.body.length := Nat.zero_le _
  have failed : (start deepTokens (some 1)).parseNext.1 = none := rfl
  obtain ⟨error, index, recorded, _, found, left⟩ := parseNext_stops_at_error inside failed
  exact ⟨inside, failed, error, index, recorded, found, left⟩

/-- The token of an error need not be the one at the cursor. -/
theorem cursor_behind_error :
    (start deepTokens (some 1)).Reachable ∧ (start deepTokens (some 1)).parseNext.1 = none ∧
      ¬ ∃ error, (start deepTokens (some 1)).parseNext.2.errors = [error] ∧
        (start deepTokens (some 1)).parseNext.2.current = error.report.token := by
  refine ⟨.start deepTokens (some 1) [], rfl, ?_⟩
  rintro ⟨error, recorded, named⟩
  have errors : (start deepTokens (some 1)).parseNext.2.errors =
      [.tooDeep (.ofKind .leftParen) (some 1)] := rfl
  obtain rfl := List.singleton_inj.mp (recorded.symm.trans errors)
  have current : (start deepTokens (some 1)).parseNext.2.current = .ofKind .nilWord := rfl
  rw [current] at named
  exact absurd (congrArg Token.kind named) (by decide)

end Parser
end Lox
