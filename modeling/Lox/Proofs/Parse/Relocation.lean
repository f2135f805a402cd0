import Lox.Proofs.Parse.Session
import Lox.Proofs.Scan.Relocation
import Lox.Reading

/-!
# Parsing tokens at another place

The machine looks at the kinds, the lexemes and the values of tokens and never at their locations.
So a step commutes with moving the locations (`Machine.Takes.relocate`, `Machine.Stops.relocate`),
and with the steps a run does (`Machine.run_relocate`): the tree and the error are those of the
tokens that were not moved, with the locations in them moved (`Parser.parseWhole_relocate`).
-/

set_option autoImplicit false

namespace Lox

/-! ## Trees and errors at another place -/

/-- The tree with the locations of its operators moved. -/
def Expr.relocate (move : Location → Location) : Expr → Expr
  | literal value => literal value
  | grouping inner => grouping (inner.relocate move)
  | unary operator operand => unary (operator.relocate move) (operand.relocate move)
  | binary left operator right =>
    binary (left.relocate move) (operator.relocate move) (right.relocate move)

/-- A token denotes the same value wherever it stands. -/
theorem Token.Denotes.relocate {token : Token} {value : Value} (denotes : token.Denotes value)
    (move : Location → Location) : (token.relocate move).Denotes value := by
  cases denotes with
  | carried kind => exact .carried kind
  | truth kind => exact .truth kind
  | falsehood kind => exact .falsehood kind
  | absent kind => exact .absent kind

/-- The report at a token whose location is moved. -/
def Report.relocate (move : Location → Location) (report : Report) : Report :=
  { report with token := report.token.relocate move }

/-- The error at a token whose location is moved. -/
def SyntaxError.relocate (move : Location → Location) (error : SyntaxError) : SyntaxError :=
  { error with report := error.report.relocate move }

namespace Machine

/-- The construct with the locations in it moved. -/
def Frame.relocate (move : Location → Location) : Frame → Frame
  | group => group
  | unary operator => unary (operator.relocate move)
  | binary tier left operator => binary tier (left.relocate move) (operator.relocate move)

/-- The state with the locations in it moved. -/
def State.relocate (move : Location → Location) (state : State) : State :=
  { state with
    frames := state.frames.map (Frame.relocate move)
    operand := state.operand.map (Expr.relocate move) }

/-- The outcome with the locations in it moved. -/
def Outcome.relocate (move : Location → Location) (outcome : Outcome) : Outcome :=
  { outcome with
    result :=
      match outcome.result with
      | .ok tree => .ok (tree.relocate move)
      | .error error => .error (error.relocate move) }

/-! ## Steps and runs -/

section Relocate

variable (move : Location → Location)

/-- Which constructs are complete does not depend on where they stand. -/
theorem close_relocate {strength depth shallower : Nat} {operand tree : Expr}
    {frames outer : List Frame}
    (closed : close strength operand depth frames = (tree, shallower, outer)) :
    close strength (operand.relocate move) depth (frames.map (Frame.relocate move)) =
      (tree.relocate move, shallower, outer.map (Frame.relocate move)) := by
  induction frames generalizing operand depth with
  | nil =>
    cases closed
    rfl
  | cons frame frames ih =>
    cases frame with
    | group =>
      cases closed
      rfl
    | unary operator => exact ih closed
    | binary tier left operator =>
      simp only [close] at closed
      simp only [List.map_cons, Frame.relocate, close]
      split
      · next completes =>
        rw [if_pos completes] at closed
        exact ih closed
      · next stays =>
        rw [if_neg stays] at closed
        cases closed
        rfl

theorem Opens.relocate {token : Token} {frame : Frame} (opens : Opens token frame) :
    Opens (token.relocate move) (frame.relocate move) := by
  cases opens with
  | group kind => exact .group kind
  | unary kind => exact .unary kind

theorem Allows.relocate {rule : Rule} {frames : List Frame} {frame : Frame}
    (allows : Allows rule frames frame) :
    Allows rule (frames.map (Frame.relocate move)) (frame.relocate move) := by
  cases frame with
  | unary => exact allows.imp_right fun inner => by simpa using inner
  | group => trivial
  | binary => trivial

variable {rule : Rule} {limit : Option Nat} {state next : State} {token stop : Token}
variable {outcome : Outcome}

/-- A token is taken in the same way wherever it stands. -/
theorem Takes.relocate (takes : Takes rule limit state token next) :
    Takes rule limit (state.relocate move) (token.relocate move) (next.relocate move) := by
  cases takes with
  | literal denotes => exact .literal (denotes.relocate move)
  | nest opens allows below => exact .nest (opens.relocate move) (allows.relocate move) below
  | join kind closed joins =>
    exact .join kind (close_relocate move closed) fun outermost => joins (by simpa using outermost)
  | closing kind closed => exact .closing kind (close_relocate move closed)

/-- A token stops reading in the same way wherever it stands. -/
theorem Stops.relocate (stops : Stops rule limit state token outcome) :
    Stops rule limit (state.relocate move) (token.relocate move) (outcome.relocate move) := by
  cases stops with
  | operandExpected noLiteral noLevel =>
    refine .operandExpected noLiteral fun frame opens allows => ?_
    cases opens with
    | group kind => exact noLevel .group (.group kind) trivial
    | unary kind =>
      refine noLevel (.unary token) (.unary kind) (allows.imp_right fun inner => ?_)
      simpa using inner
  | tooDeep opens allows given passed =>
    exact .tooDeep (opens.relocate move) (allows.relocate move) given passed
  | closingExpected noOperator noClosing opened =>
    exact .closingExpected noOperator noClosing (close_relocate move opened)
  | complete stays closed =>
    refine .complete (fun tier kind => ?_) (close_relocate move closed)
    obtain ⟨outermost, apart⟩ := stays tier kind
    rw [close_relocate move rfl, outermost]
    exact ⟨rfl, apart⟩

/-- **A run commutes with moving the locations.** -/
theorem run_relocate (rule : Rule) (limit : Option Nat) (isEnd : stop.isEnd = true)
    (state : State) (tokens : List Token) :
    run rule limit (stop.relocate move) (state.relocate move) (tokens.map (Token.relocate move)) =
      (run rule limit stop state tokens).relocate move := by
  induction tokens generalizing state with
  | nil =>
    -- The mark of the end stops both runs, and in one way only.
    have isEndThere : (stop.relocate move).isEnd = true := isEnd
    have ended := (stops_atEnd rule limit state isEnd).relocate move
    have endedThere := stops_atEnd rule limit (state.relocate move) isEndThere
    exact Action.stop.inj ((step_of_stops endedThere).symm.trans (step_of_stops ended))
  | cons token tokens ih =>
    rcases takes_or_stops rule limit state token with ⟨next, takes⟩ | ⟨outcome, stops⟩
    · rw [List.map_cons, run, run, step_of_takes takes, step_of_takes (takes.relocate move)]
      exact ih next
    · rw [List.map_cons, run, run, step_of_stops stops, step_of_stops (stops.relocate move)]

end Relocate

end Machine

/-! ## Parsers -/

/-- The parser with the locations in it moved. -/
def Parser.relocate (move : Location → Location) (parser : Parser) : Parser :=
  { parser with
    tokens := parser.tokens.relocate move
    errors := parser.errors.map (SyntaxError.relocate move)
    reports := parser.reports.map (Report.relocate move) }

namespace Parser

variable (move : Location → Location) (parser : Parser)

theorem current_relocate : (parser.relocate move).current = parser.current.relocate move := by
  simp only [current, relocate, TokenSequence.get, TokenSequence.relocate, List.getElem?_map]
  cases parser.tokens.body[parser.cursor]? <;> rfl

theorem ruleOutcome_relocate (rule : Rule) :
    (parser.relocate move).ruleOutcome rule = (parser.ruleOutcome rule).relocate move := by
  have read := Machine.run_relocate move rule parser.limit parser.tokens.stop_isEnd
    ⟨parser.cursor, parser.depth, [], none⟩ (parser.tokens.bodyFrom parser.cursor)
  rw [TokenSequence.bodyFrom, List.map_drop] at read
  exact read

theorem record_relocate (error : SyntaxError) :
    (parser.relocate move).record (error.relocate move) =
      (parser.record error).relocate move := by
  simp [record, relocate]

theorem report_relocate (report : Report) :
    (parser.relocate move).report (report.relocate move) =
      (parser.report report).relocate move := by
  simp [Parser.report, relocate]

/-- **Reading an expression commutes with moving the locations.** -/
theorem parseNext_relocate :
    (parser.relocate move).parseNext =
      (parser.parseNext.1.map (Expr.relocate move), parser.parseNext.2.relocate move) := by
  have read : (parser.relocate move).outcome = parser.outcome.relocate move :=
    ruleOutcome_relocate move { parser with depth := 0 } .expression
  cases ended : parser.outcome.result with
  | ok tree =>
    have endedThere : (parser.relocate move).outcome.result = .ok (tree.relocate move) := by
      simp only [read, Machine.Outcome.relocate, ended]
    rw [parseNext_of_ok ended, parseNext_of_ok endedThere, read]
    rfl
  | error error =>
    have endedThere : (parser.relocate move).outcome.result = .error (error.relocate move) := by
      simp only [read, Machine.Outcome.relocate, ended]
    rw [parseNext_of_error ended, parseNext_of_error endedThere, read, ← record_relocate,
      ← report_relocate]
    rfl

theorem parse_relocate :
    (parser.relocate move).parse =
      (parser.parse.1.map (Expr.relocate move), parser.parse.2.relocate move) :=
  parseNext_relocate move { parser with cursor := 0, errors := [] }

theorem expectEnd_relocate :
    (parser.relocate move).expectEnd =
      (parser.expectEnd.1, parser.expectEnd.2.relocate move) := by
  have current := parser.current_relocate move
  have atEnd : (parser.relocate move).atEnd = parser.atEnd := by
    rw [Parser.atEnd, current]
    rfl
  unfold expectEnd
  rw [atEnd]
  split
  · rfl
  · rw [reportHere, reportHere, current, ← record_relocate, ← report_relocate]
    rfl

/-- **Parsing a whole text commutes with moving the locations.** -/
theorem parseWhole_relocate (requireEnd : Bool) :
    (parser.relocate move).parseWhole requireEnd =
      ((parser.parseWhole requireEnd).1.map (Expr.relocate move),
        (parser.parseWhole requireEnd).2.relocate move) := by
  have parsed := parser.parse_relocate move
  unfold parseWhole
  rw [parsed]
  obtain ⟨_ | tree, behind⟩ := parser.parse
  · rfl
  · cases requireEnd with
    | false => rfl
    | true =>
      simp only [Option.map_some, if_true, expectEnd_relocate]
      obtain ⟨_ | _, further⟩ := behind.expectEnd <;> rfl

end Parser
end Lox
