import Lox.Proofs.Parse.Completeness
import Lox.Proofs.Parse.Cursor

/-!
# Errors and reports

A call to a parser adds nothing to its errors and its reports, or it adds one error and the report
of that error (`Parser.Adds`). It adds an error exactly if it fails, so no failure is reported
twice, and none is reported without being recorded.

Only `parse` forgets errors, and it does so before it reads. Hence, over any calls, the recorded
errors are those whose reports were made since the last `parse` began
(`Parser.reports_since_parse_are_errors`).
-/

set_option autoImplicit false

namespace Lox

/-- An error with another message is not about the limit on nesting. -/
theorem SyntaxError.passedLimit_atToken_iff {message : String} (other : message ≠ nestingTooDeep)
    (token : Token) :
    (atToken token message).passedLimit.isSome = true ↔
      (atToken token message).report.message = nestingTooDeep :=
  ⟨fun passed => absurd passed Bool.false_ne_true, fun same => absurd same other⟩

/-- An error is one about the limit on nesting exactly if its message says so. -/
theorem Machine.Stops.passedLimit_iff {rule : Rule} {limit : Option Nat} {state : Machine.State}
    {token : Token} {outcome : Machine.Outcome} {error : SyntaxError}
    (stops : Machine.Stops rule limit state token outcome)
    (failed : outcome.result = .error error) :
    error.passedLimit.isSome = true ↔ error.report.message = SyntaxError.nestingTooDeep := by
  rcases stops.error_cases failed with ⟨_, message, other, rfl⟩ | ⟨bound, _, _, rfl⟩
  · exact SyntaxError.passedLimit_atToken_iff other token
  · exact ⟨fun _ => rfl, fun _ => rfl⟩

namespace Parser

open Machine

/-! ## What a call adds -/

/-- From one parser to another nothing is added to the errors and the reports, or one error and its
report are. -/
structure Adds (before behind : Parser) (added : Option SyntaxError) : Prop where
  recorded : behind.errors = before.errors ++ added.toList
  reported : behind.reports = before.reports ++ (added.map SyntaxError.report).toList
  /-- An error is one about the limit on nesting exactly if its message says so. -/
  passedLimit_iff : ∀ error ∈ added,
    error.passedLimit.isSome = true ↔ error.report.message = SyntaxError.nestingTooDeep

theorem Adds.nothing {before behind : Parser} (errors : behind.errors = before.errors)
    (reports : behind.reports = before.reports) : before.Adds behind none where
  recorded := by simp [errors]
  reported := by simp [reports]
  passedLimit_iff := by simp

/-- Reading stops at some token. -/
theorem exists_stops (parser : Parser) (rule : Rule) :
    ∃ last token, Stops rule parser.limit last token (parser.ruleOutcome rule) := by
  obtain ⟨_, token, _, last, _, _, stops⟩ :=
    exists_reaches_stops rule parser.limit parser.tokens.stop_isEnd
      ⟨parser.cursor, parser.depth, [], none⟩ (parser.tokens.bodyFrom parser.cursor)
  exact ⟨last, token, stops⟩

/-- **Reading an expression adds one error exactly if it gives no tree.** -/
theorem adds_parseNext (parser : Parser) :
    ∃ added, parser.Adds parser.parseNext.2 added ∧
      (added = none ↔ parser.parseNext.1.isSome = true) := by
  cases ended : parser.outcome.result with
  | ok tree =>
    rw [parseNext_of_ok ended]
    exact ⟨none, .nothing rfl rfl, by simp⟩
  | error error =>
    rw [parseNext_of_error ended]
    refine ⟨some error, ⟨rfl, rfl, ?_⟩, by simp⟩
    intro other given
    obtain rfl := Option.mem_some.mp given
    obtain ⟨_, _, stops⟩ := ({ parser with depth := 0 } : Parser).exists_stops .expression
    exact stops.passedLimit_iff ended

/-- Reading from the start does the same, once the recorded errors are forgotten. -/
theorem adds_parse (parser : Parser) :
    ∃ added, ({ parser with errors := [] } : Parser).Adds parser.parse.2 added ∧
      (added = none ↔ parser.parse.1.isSome = true) := by
  obtain ⟨added, adds, fails⟩ := adds_parseNext { parser with cursor := 0, errors := [] }
  exact ⟨added, ⟨adds.recorded, adds.reported, adds.passedLimit_iff⟩, fails⟩

/-- The check for the end adds one error, at the current token, exactly if that is no mark of the
end. -/
theorem adds_expectEnd (parser : Parser) :
    parser.Adds parser.expectEnd.2
      (if parser.current.isEnd then none
      else some (.atToken parser.current SyntaxError.endExpected)) := by
  cases isEnd : parser.current.isEnd with
  | true =>
    rw [expectEnd, atEnd, if_pos isEnd]
    exact .nothing rfl rfl
  | false =>
    rw [expectEnd, atEnd, isEnd]
    refine ⟨rfl, rfl, ?_⟩
    intro error given
    obtain rfl := Option.mem_some.mp given
    exact SyntaxError.passedLimit_atToken_iff (by decide) parser.current

theorem adds_synchronize (parser : Parser) : parser.Adds parser.synchronize none := by
  unfold synchronize
  split <;> exact .nothing rfl rfl

/-- Every call but `parse` adds an error and its report, or nothing. -/
theorem exists_adds_perform (parser : Parser) {call : Call} (keeps : call ≠ .parse) :
    ∃ added, parser.Adds (parser.perform call) added := by
  cases call with
  | parse => contradiction
  | parseNext =>
    obtain ⟨added, adds, _⟩ := parser.adds_parseNext
    exact ⟨added, adds⟩
  | synchronize => exact ⟨none, parser.adds_synchronize⟩
  | expectEnd => exact ⟨_, parser.adds_expectEnd⟩

/-! ## Calls one after the other -/

/-- What some calls, one after the other, leave behind. -/
def after (parser : Parser) (calls : List Call) : Parser := calls.foldl perform parser

theorem after_append (parser : Parser) (first second : List Call) :
    parser.after (first ++ second) = (parser.after first).after second := by
  simp only [after, List.foldl_append]

/-- Behind some earlier reports, the reports are those of the recorded errors. -/
def Settled (earlier : List Report) (parser : Parser) : Prop :=
  parser.reports = earlier ++ parser.errors.map SyntaxError.report

section Settled

variable {earlier : List Report} {parser behind : Parser}

theorem Settled.adds {added : Option SyntaxError} (settled : Settled earlier parser)
    (adds : parser.Adds behind added) : Settled earlier behind := by
  rw [Settled, adds.reported, adds.recorded, settled, Option.toList_map, List.map_append,
    List.append_assoc]

/-- When `parse` begins, all reports are earlier ones. -/
theorem settled_parse (parser : Parser) : Settled parser.reports (parser.perform .parse) := by
  have emptied : Settled parser.reports { parser with errors := [] } := by
    simp [Settled]
  obtain ⟨added, adds, _⟩ := parser.adds_parse
  exact emptied.adds adds

theorem Settled.after (settled : Settled earlier parser) {calls : List Call}
    (keep : .parse ∉ calls) : Settled earlier (parser.after calls) := by
  induction calls generalizing parser with
  | nil => exact settled
  | cons call calls ih =>
    simp only [List.mem_cons, not_or] at keep
    obtain ⟨added, adds⟩ := parser.exists_adds_perform (Ne.symm keep.1)
    exact ih (settled.adds adds) keep.2

end Settled

/-- Each call adds one error and its report exactly if it fails. -/
structure Accounts (parser : Parser) : Prop where
  /-- The errors recorded before are forgotten. -/
  parse : ∃ added, ({ parser with errors := [] } : Parser).Adds parser.parse.2 added ∧
    (added = none ↔ parser.parse.1.isSome = true)
  parseNext : ∃ added, parser.Adds parser.parseNext.2 added ∧
    (added = none ↔ parser.parseNext.1.isSome = true)
  synchronize : parser.Adds parser.synchronize none
  expectEnd_fst : parser.expectEnd.1 = parser.current.isEnd
  expectEnd_snd : parser.Adds parser.expectEnd.2
    (if parser.current.isEnd then none
    else some (.atToken parser.current SyntaxError.endExpected))

theorem accounts (parser : Parser) : parser.Accounts where
  parse := parser.adds_parse
  parseNext := parser.adds_parseNext
  synchronize := parser.adds_synchronize
  expectEnd_fst := parser.expectEnd_fst
  expectEnd_snd := parser.adds_expectEnd

/-- **The recorded errors are those reported since the last `parse` began.** Behind any calls, each
call adds one error and its report exactly if it fails, and else nothing. The reports that were
made since the last `parse` began, or since the start, are those of the recorded errors. -/
theorem reports_since_parse_are_errors (tokens : TokenSequence) (limit : Option Nat)
    (heard : List Report) :
    (∀ calls : List Call, ((startBehind tokens limit heard).after calls).Accounts) ∧
    (∀ calls : List Call, .parse ∉ calls →
      ((startBehind tokens limit heard).after calls).reports =
        heard ++ ((startBehind tokens limit heard).after calls).errors.map SyntaxError.report) ∧
    ∀ earlier calls : List Call, .parse ∉ calls →
      ((startBehind tokens limit heard).after (earlier ++ .parse :: calls)).reports =
        ((startBehind tokens limit heard).after earlier).reports ++
          ((startBehind tokens limit heard).after (earlier ++ .parse :: calls)).errors.map
            SyntaxError.report := by
  refine ⟨fun calls => accounts _, fun calls keep => ?_, fun earlier calls keep => ?_⟩
  · have fresh : Settled heard (startBehind tokens limit heard) := (List.append_nil heard).symm
    exact fresh.after keep
  · have begun := ((startBehind tokens limit heard).after earlier).settled_parse
    rw [after_append]
    exact begun.after keep

/-- The tokens of `(; nil nil` and the mark of the end. -/
def brokenTokens : TokenSequence := .ofKinds [.leftParen, .semicolon, .nilWord, .nilWord]

/-- A failed `parse`, recovery, a tree and the check for the end: two errors and two reports. -/
theorem reports_since_parse_are_errors_broken :
    Call.parse ∉ [Call.synchronize, .parseNext, .expectEnd] ∧
      ((startBehind brokenTokens none []).after
        ([.parse, .expectEnd] ++ .parse :: [.synchronize, .parseNext, .expectEnd])).reports =
          ((startBehind brokenTokens none []).after [.parse, .expectEnd]).reports ++
            [⟨.ofKind .semicolon, SyntaxError.operandExpected⟩,
              ⟨.ofKind .nilWord, SyntaxError.endExpected⟩] :=
  ⟨by decide, (reports_since_parse_are_errors brokenTokens none []).2.2 [.parse, .expectEnd]
    [.synchronize, .parseNext, .expectEnd] (by decide)⟩

end Parser
end Lox
