import Lox.Proofs.Parse.Step

/-!
# Parsers and runs of the machine

Reading by a rule is one run of the machine from the cursor on (`Parser.ruleOutcome`), and reading
an expression is the same with the levels counted from zero (`Parser.outcome`). What a parser
returns, records and reports follows from how that run ends.

From anywhere up to the last token, the run takes some tokens and stops at the next one
(`Parser.exists_ruleOutcome`), and it is enough to know these to know how it ends
(`Parser.ruleOutcome_eq`). For a parser at the start of a token sequence the same is said of the
whole sequence (`Parser.exists_outcome`, `Parser.outcome_eq`).
-/

set_option autoImplicit false

namespace Lox

open Machine

/-! ## The first mark of the end -/

namespace TokenSequence

/-- The tokens before the first mark of the end. -/
def beforeEnd (tokens : TokenSequence) : List Token :=
  tokens.toList.takeWhile fun token => !token.isEnd

/-- A mark of the end stands behind the tokens before the first one. -/
theorem exists_toList_eq_beforeEnd (tokens : TokenSequence) :
    ∃ stop second, tokens.toList = tokens.beforeEnd ++ stop :: second ∧ stop.isEnd = true := by
  obtain ⟨body, last, isEnd⟩ := tokens
  simp only [beforeEnd, toList]
  induction body with
  | nil => exact ⟨last, [], by simp [isEnd], isEnd⟩
  | cons token body ih =>
    cases marked : token.isEnd with
    | true => exact ⟨token, body ++ [last], by simp [marked], marked⟩
    | false =>
      obtain ⟨stop, second, whole, stopIsEnd⟩ := ih
      refine ⟨stop, second, ?_, stopIsEnd⟩
      rw [List.cons_append, List.takeWhile_cons_of_pos (by simp [marked]), List.cons_append]
      exact congrArg (token :: ·) whole

/-- Tokens in front of a mark of the end, and no mark themselves, are those before the first. -/
theorem beforeEnd_eq {tokens : TokenSequence} {first second : List Token} {stop : Token}
    (whole : tokens.toList = first ++ stop :: second) (isEnd : stop.isEnd = true)
    (unmarked : ∀ token ∈ first, token.isEnd = false) : tokens.beforeEnd = first := by
  rw [beforeEnd, whole, List.takeWhile_append_of_pos (by simpa using unmarked)]
  simp [isEnd]

/-- The index of the first mark of the end. -/
def firstEnd (tokens : TokenSequence) : Nat := tokens.beforeEnd.length

theorem isEnd_get_firstEnd (tokens : TokenSequence) :
    (tokens.get tokens.firstEnd).isEnd = true := by
  obtain ⟨stop, second, whole, isEnd⟩ := tokens.exists_toList_eq_beforeEnd
  rw [firstEnd, get_of_toList_eq whole]
  exact isEnd

theorem isEnd_get_of_lt_firstEnd {tokens : TokenSequence} {index : Nat}
    (before : index < tokens.firstEnd) : (tokens.get index).isEnd = false := by
  obtain ⟨stop, second, whole, _⟩ := tokens.exists_toList_eq_beforeEnd
  have whole : tokens.toList.drop 0 = tokens.beforeEnd ++ stop :: second := whole
  have member : tokens.get index ∈ tokens.beforeEnd :=
    get_mem_of_drop_eq whole (Nat.zero_le index) (by rwa [Nat.zero_add])
  simpa using List.all_eq_true.mp List.all_takeWhile _ member

theorem firstEnd_le (tokens : TokenSequence) : tokens.firstEnd ≤ tokens.body.length := by
  obtain ⟨stop, second, whole, _⟩ := tokens.exists_toList_eq_beforeEnd
  exact length_le_of_toList_eq whole

end TokenSequence

namespace Parser

/-! ## Outcomes -/

/-- What reading by a rule from the cursor on ends with. -/
def ruleOutcome (parser : Parser) (rule : Rule) : Outcome :=
  run rule parser.limit parser.tokens.stop ⟨parser.cursor, parser.depth, [], none⟩
    (parser.tokens.bodyFrom parser.cursor)

/-- What reading an expression from the cursor on ends with. -/
def outcome (parser : Parser) : Outcome := { parser with depth := 0 }.ruleOutcome .expression

/-- The parser where reading ended. -/
def behind (parser : Parser) (outcome : Outcome) : Parser :=
  { parser with cursor := outcome.cursor, depth := outcome.depth }

variable {parser : Parser} {rule : Rule} {tree : Expr} {error : SyntaxError}

theorem readRule_of_ok (returned : (parser.ruleOutcome rule).result = .ok tree) :
    parser.readRule rule = (.ok tree, parser.behind (parser.ruleOutcome rule)) := by
  unfold ruleOutcome at returned
  simp [readRule, returned, behind, ruleOutcome]

theorem readRule_of_error (failed : (parser.ruleOutcome rule).result = .error error) :
    parser.readRule rule =
      (.error error, (parser.behind (parser.ruleOutcome rule)).report error.report) := by
  unfold ruleOutcome at failed
  simp [readRule, failed, behind, ruleOutcome]

/-- A tree is returned without a report or a recorded error. -/
theorem parseNext_of_ok (returned : parser.outcome.result = .ok tree) :
    parser.parseNext = (some tree, parser.behind parser.outcome) := by
  rw [parseNext, readRule_of_ok returned]
  rfl

/-- An error is reported once and recorded once. -/
theorem parseNext_of_error (failed : parser.outcome.result = .error error) :
    parser.parseNext =
      (none, ((parser.behind parser.outcome).report error.report).record error) := by
  rw [parseNext, readRule_of_error failed]
  rfl

/-- Only reports tell how reading by a rule ended from where it ended. -/
theorem exists_readRule_snd (parser : Parser) (rule : Rule) :
    ∃ reports,
      (parser.readRule rule).2 = { parser.behind (parser.ruleOutcome rule) with reports } := by
  cases ended : (parser.ruleOutcome rule).result with
  | ok tree => exact ⟨parser.reports, by rw [readRule_of_ok ended]; rfl⟩
  | error error => exact ⟨parser.reports ++ [error.report], by rw [readRule_of_error ended]; rfl⟩

theorem exists_parseNext_snd (parser : Parser) :
    ∃ errors reports,
      parser.parseNext.2 = { parser.behind parser.outcome with errors, reports } := by
  cases ended : parser.outcome.result with
  | ok tree => exact ⟨parser.errors, parser.reports, by rw [parseNext_of_ok ended]; rfl⟩
  | error error =>
    exact ⟨parser.errors ++ [error], parser.reports ++ [error.report], by
      rw [parseNext_of_error ended]; rfl⟩

theorem tokens_parseNext (parser : Parser) : parser.parseNext.2.tokens = parser.tokens := by
  obtain ⟨_, _, behind⟩ := parser.exists_parseNext_snd
  rw [behind, Parser.behind]

theorem cursor_parseNext (parser : Parser) :
    parser.parseNext.2.cursor = parser.outcome.cursor := by
  obtain ⟨_, _, behind⟩ := parser.exists_parseNext_snd
  rw [behind, Parser.behind]

theorem expectEnd_fst (parser : Parser) : parser.expectEnd.1 = parser.atEnd := by
  unfold expectEnd
  split
  · next atEnd => exact atEnd.symm
  · next further => simpa using further

/-! ## Where reading ends -/

/-- Reading by a rule takes some tokens and stops at the next one. -/
theorem exists_ruleOutcome (parser : Parser) (rule : Rule)
    (inside : parser.cursor ≤ parser.tokens.body.length) :
    ∃ first token second last, parser.tokens.toList.drop parser.cursor = first ++ token :: second ∧
      Reaches rule parser.limit ⟨parser.cursor, parser.depth, [], none⟩ first last ∧
        Stops rule parser.limit last token (parser.ruleOutcome rule) := by
  rw [← parser.tokens.bodyFrom_append_stop inside]
  exact exists_reaches_stops rule parser.limit parser.tokens.stop_isEnd _ _

/-- Reading by a rule ends where a token stops it. -/
theorem ruleOutcome_eq (parser : Parser) {first second : List Token} {token : Token}
    {last : State} {outcome : Outcome}
    (whole : parser.tokens.toList.drop parser.cursor = first ++ token :: second)
    (reaches : Reaches rule parser.limit ⟨parser.cursor, parser.depth, [], none⟩ first last)
    (stops : Stops rule parser.limit last token outcome) : parser.ruleOutcome rule = outcome := by
  have inside : parser.cursor ≤ parser.tokens.body.length :=
    Nat.le_trans (Nat.le_add_right _ _) (TokenSequence.add_length_le_of_drop_eq whole)
  rw [← parser.tokens.bodyFrom_append_stop inside] at whole
  exact reaches.run_eq parser.tokens.stop_isEnd stops whole

/-! ## Reading from the start -/

variable (tokens : TokenSequence) (limit : Option Nat)

theorem parse_start_of_ok (returned : (start tokens limit).outcome.result = .ok tree) :
    (start tokens limit).parse =
      (some tree, (start tokens limit).behind (start tokens limit).outcome) :=
  parseNext_of_ok returned

theorem parse_start_of_error (failed : (start tokens limit).outcome.result = .error error) :
    (start tokens limit).parse =
      (none, (((start tokens limit).behind (start tokens limit).outcome).report
        error.report).record error) :=
  parseNext_of_error failed

/-- **Reading takes some tokens and stops at the next one.** -/
theorem exists_outcome :
    ∃ first token second last, tokens.toList = first ++ token :: second ∧
      Reaches .expression limit (.initial 0) first last ∧
        Stops .expression limit last token (start tokens limit).outcome :=
  exists_ruleOutcome (start tokens limit) .expression (Nat.zero_le _)

variable {tokens limit}

/-- Reading keeps the tokens. -/
theorem tokens_of_parse {result : Option Expr} {behind : Parser}
    (parsed : (start tokens limit).parse = (result, behind)) : behind.tokens = tokens := by
  have kept := tokens_parseNext (start tokens limit)
  rwa [show (start tokens limit).parseNext = (result, behind) from parsed] at kept

/-- Reading ends where a token stops it. -/
theorem outcome_eq {first second : List Token} {token : Token} {last : State} {outcome : Outcome}
    (whole : tokens.toList = first ++ token :: second)
    (reaches : Reaches .expression limit (.initial 0) first last)
    (stops : Stops .expression limit last token outcome) :
    (start tokens limit).outcome = outcome :=
  (start tokens limit).ruleOutcome_eq whole reaches stops

end Parser
end Lox
