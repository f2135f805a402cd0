import Lox.Proofs.Parse.Accounting
import Lox.Proofs.Parse.Range

/-!
# Reading on behind errors

Several expressions are read in rounds. Each round reads one expression, and recovers if that fails
(`Parser.readOn`); the rounds go on until the cursor is at a mark of the end (`Parser.Rounds`).

A round moves the cursor on (`Parser.cursor_lt_readOn`), for one of three reasons. A tree is written
with at least one token. Recovery moves at least one token on, also if the error is at the very
token where reading began. And if the error is at a mark of the end, where recovery does nothing,
then reading has walked there over some token. A round also adds at most one error, with its report
(`Parser.exists_adds_readOn`).

So there are at most as many rounds as tokens in front of the first mark of the end, and that is
where they end (`Parser.recovery_loop_ends`).
-/

set_option autoImplicit false

namespace Lox.Parser

open Machine

/-! ## Rounds -/

/-- Reads one expression, and moves to the nearest boundary of statements if there is none. -/
def readOn (parser : Parser) : Parser :=
  match parser.parseNext with
  | (some _, behind) => behind
  | (none, behind) => behind.synchronize

/-- A number of rounds lead from one parser to another. No round begins at a mark of the end. -/
inductive Rounds : Nat → Parser → Parser → Prop
  | refl (parser : Parser) : Rounds 0 parser parser
  | round {parser last : Parser} {count : Nat} :
      parser.atEnd = false → Rounds count parser.readOn last → Rounds (count + 1) parser last

variable {parser middle behind last : Parser} {tree : Expr} {count : Nat}
variable {added : Option SyntaxError}

theorem readOn_of_some (read : parser.parseNext.1 = some tree) :
    parser.readOn = parser.parseNext.2 := by
  unfold readOn
  split
  · next same => rw [same]
  · next failed => simp [failed] at read

theorem readOn_of_none (failed : parser.parseNext.1 = none) :
    parser.readOn = parser.parseNext.2.synchronize := by
  unfold readOn
  split
  · next read => simp [read] at failed
  · next same => rw [same]

/-! ## What a round leaves behind -/

theorem Leaves.trans (before : parser.Leaves middle) (further : middle.Leaves behind) :
    parser.Leaves behind where
  tokens_eq := further.tokens_eq.trans before.tokens_eq
  cursor_le := by
    intro inside
    have kept := before.tokens_eq
    rw [← kept]
    apply further.cursor_le
    rw [kept]
    exact before.cursor_le inside

theorem leaves_readOn (parser : Parser) : parser.Leaves parser.readOn := by
  cases read : parser.parseNext.1 with
  | some tree =>
    rw [readOn_of_some read]
    exact parser.leaves_parseNext
  | none =>
    rw [readOn_of_none read]
    exact parser.leaves_parseNext.trans parser.parseNext.2.leaves_synchronize

/-- Nothing that is added behind an error changes what was added. -/
theorem Adds.trans_none (before : parser.Adds middle added) (further : middle.Adds behind none) :
    parser.Adds behind added where
  recorded := by rw [further.recorded, before.recorded, Option.toList_none, List.append_nil]
  reported := by
    rw [further.reported, before.reported, Option.map_none, Option.toList_none, List.append_nil]
  passedLimit_iff := before.passedLimit_iff

/-- **A round adds one error, and its report, exactly if it reads no tree.** -/
theorem exists_adds_readOn (parser : Parser) :
    ∃ added, parser.Adds parser.readOn added ∧
      (added = none ↔ parser.parseNext.1.isSome = true) := by
  obtain ⟨added, adds, fails⟩ := parser.adds_parseNext
  refine ⟨added, ?_, fails⟩
  cases read : parser.parseNext.1 with
  | some tree =>
    rw [readOn_of_some read]
    exact adds
  | none =>
    rw [readOn_of_none read]
    exact adds.trans_none parser.parseNext.2.adds_synchronize

/-! ## Progress -/

/-- A tree takes at least one token. -/
theorem cursor_lt_parseNext (inside : parser.cursor ≤ parser.tokens.body.length)
    (read : parser.parseNext.1 = some tree) : parser.cursor < parser.parseNext.2.cursor := by
  cases ended : parser.outcome.result with
  | error error =>
    rw [parseNext_of_error ended] at read
    contradiction
  | ok other =>
    have start : ({ parser with depth := 0 } : Parser).cursor ≤ parser.tokens.body.length := inside
    obtain ⟨first, _, _, taken, flattens⟩ := exists_flattens start ended
    have filled := List.length_pos_iff.mpr flattens.ne_nil
    rw [cursor_parseNext, outcome, taken]
    exact Nat.lt_add_of_pos_right filled

/-- **Every round moves the cursor on.** -/
theorem cursor_lt_readOn (inside : parser.cursor ≤ parser.tokens.body.length)
    (further : parser.atEnd = false) : parser.cursor < parser.readOn.cursor := by
  cases read : parser.parseNext.1 with
  | some tree =>
    rw [readOn_of_some read]
    exact cursor_lt_parseNext inside read
  | none =>
    rw [readOn_of_none read]
    have walked := cursor_le_parseNext inside
    cases ended : parser.parseNext.2.atEnd with
    | false =>
      obtain ⟨skipped, lower, moved, _⟩ := exists_synchronize ended
      rw [moved]
      exact Nat.lt_succ_of_le (Nat.le_trans walked lower)
    | true =>
      rw [synchronize_atEnd ended]
      apply Nat.lt_of_le_of_ne walked
      -- A cursor that stayed would be at a mark of the end from the start.
      intro stayed
      rw [atEnd, current, tokens_parseNext, ← stayed] at ended
      rw [atEnd, current, ended] at further
      contradiction

/-! ## All rounds -/

/-- What some rounds lead to: each of them moved the cursor on, and added at most one error and its
report. -/
structure Progresses (count : Nat) (parser behind : Parser) : Prop where
  tokens_eq : behind.tokens = parser.tokens
  cursor_add_le : parser.cursor + count ≤ behind.cursor
  cursor_le : behind.cursor ≤ parser.tokens.firstEnd
  exists_errors : ∃ errors, errors.length ≤ count ∧ behind.errors = parser.errors ++ errors ∧
    behind.reports = parser.reports ++ errors.map SyntaxError.report

theorem Rounds.progresses (rounds : Rounds count parser last)
    (inside : parser.cursor ≤ parser.tokens.firstEnd) : Progresses count parser last := by
  induction rounds with
  | refl parser => exact ⟨rfl, Nat.le_refl _, inside, [], by simp⟩
  | @round parser last count further _ ih =>
    have left := parser.leaves_readOn
    have moved := cursor_lt_readOn (Nat.le_trans inside parser.tokens.firstEnd_le) further
    obtain ⟨added, adds, _⟩ := parser.exists_adds_readOn
    obtain ⟨tokens, cursor, bound, errors, few, recorded, reported⟩ :=
      ih (left.tokens_eq ▸ left.cursor_le inside)
    refine ⟨tokens.trans left.tokens_eq, by omega, left.tokens_eq ▸ bound,
      added.toList ++ errors, ?_, ?_, ?_⟩
    · have one : added.toList.length ≤ 1 := by cases added <;> simp
      rw [List.length_append]
      omega
    · rw [recorded, adds.recorded, List.append_assoc]
    · rw [reported, adds.reported, Option.toList_map, List.map_append, List.append_assoc]

/-- The rounds come to a mark of the end. -/
theorem exists_rounds (parser : Parser) (inside : parser.cursor ≤ parser.tokens.firstEnd) :
    ∃ count last, Rounds count parser last ∧ last.atEnd = true := by
  cases ended : parser.atEnd with
  | true => exact ⟨0, parser, .refl parser, ended⟩
  | false =>
    have left := parser.leaves_readOn
    have moved := cursor_lt_readOn (Nat.le_trans inside parser.tokens.firstEnd_le) ended
    have bound := left.cursor_le inside
    obtain ⟨count, last, rounds, atEnd⟩ :=
      exists_rounds parser.readOn (left.tokens_eq ▸ bound)
    exact ⟨count + 1, last, .round ended rounds, atEnd⟩
termination_by parser.tokens.firstEnd - parser.cursor
decreasing_by
  rw [left.tokens_eq]
  omega

/-- A cursor in front of the first mark of the end, or at it, is at a mark of the end only there. -/
theorem cursor_eq_firstEnd (inside : parser.cursor ≤ parser.tokens.firstEnd)
    (ended : parser.atEnd = true) : parser.cursor = parser.tokens.firstEnd := by
  apply Nat.le_antisymm inside
  apply Nat.le_of_not_lt
  intro before
  rw [atEnd, current, TokenSequence.isEnd_get_of_lt_firstEnd before] at ended
  contradiction

/-- Reading an expression ends: the machine takes at most the given number of tokens, one step for
each, and the next token stops it with what reading gives. -/
def EndsWithin (parser : Parser) (steps : Nat) : Prop :=
  ∃ first token second last outcome,
    parser.tokens.toList.drop parser.cursor = first ++ token :: second ∧ first.length ≤ steps ∧
      Reaches .expression parser.limit (.initial parser.cursor) first last ∧
        Stops .expression parser.limit last token outcome ∧
          parser.parseNext.1 = outcome.result.toOption ∧
            parser.parseNext.2.cursor = outcome.cursor

theorem endsWithin (inside : parser.cursor ≤ parser.tokens.firstEnd) :
    parser.EndsWithin (parser.tokens.firstEnd - parser.cursor) := by
  have body := Nat.le_trans inside parser.tokens.firstEnd_le
  have start : ({ parser with depth := 0 } : Parser).cursor ≤ parser.tokens.body.length := body
  obtain ⟨first, token, second, last, whole, reaches, stops⟩ :=
    exists_ruleOutcome { parser with depth := 0 } .expression start
  have comes : ({ parser with depth := 0 } : Parser).ComesTo .expression last.cursor :=
    ⟨first, token :: second, last, whole, reaches, rfl⟩
  have bound := comes.le_firstEnd inside
  have taken := reaches.cursor_eq
  refine ⟨first, token, second, last, parser.outcome, whole, ?_, reaches, stops, ?_,
    parser.cursor_parseNext⟩
  · simp only at bound taken
    omega
  · cases ended : parser.outcome.result with
    | ok tree => rw [parseNext_of_ok ended, Except.toOption]
    | error error => rw [parseNext_of_error ended, Except.toOption]

/-- **The recovery loop ends.** In every round that it comes to, reading ends, the cursor moves on,
and at most one error is added and reported. So there are never more rounds than tokens in front of
the first mark of the end, and the rounds come to that mark. -/
theorem recovery_loop_ends (reachable : parser.Reachable) :
    (∀ count behind, Rounds count parser behind →
      Progresses count parser behind ∧
      behind.EndsWithin (behind.tokens.firstEnd - behind.cursor) ∧
      (behind.atEnd = false → behind.cursor < behind.readOn.cursor ∧
        ∃ added, behind.Adds behind.readOn added ∧
          (added = none ↔ behind.parseNext.1.isSome = true))) ∧
    ∃ count last, Rounds count parser last ∧ last.atEnd = true ∧
      last.cursor = parser.tokens.firstEnd ∧ count ≤ parser.tokens.firstEnd - parser.cursor := by
  have inside := reachable.cursor_le_firstEnd
  constructor
  · intro count behind rounds
    have progresses := rounds.progresses inside
    have bound : behind.cursor ≤ behind.tokens.firstEnd :=
      progresses.tokens_eq ▸ progresses.cursor_le
    refine ⟨progresses, endsWithin bound, fun further => ⟨?_, behind.exists_adds_readOn⟩⟩
    exact cursor_lt_readOn (Nat.le_trans bound behind.tokens.firstEnd_le) further
  · obtain ⟨count, last, rounds, ended⟩ := exists_rounds parser inside
    have progresses := rounds.progresses inside
    have bound : last.cursor ≤ last.tokens.firstEnd := progresses.tokens_eq ▸ progresses.cursor_le
    have cursor := cursor_eq_firstEnd bound ended
    rw [progresses.tokens_eq] at cursor
    have moved := progresses.cursor_add_le
    exact ⟨count, last, rounds, ended, cursor, by omega⟩

/-- The tokens of `nil ) ; (` and the mark of the end. -/
def mixedTokens : TokenSequence := .ofKinds [.nilWord, .rightParen, .semicolon, .leftParen]

/-- A tree, an error that takes no token, and one that is found at the mark of the end. -/
theorem recovery_loop_ends_mixed :
    (start mixedTokens none).Reachable ∧
      Rounds 3 (start mixedTokens none) (start mixedTokens none).readOn.readOn.readOn ∧
        Progresses 3 (start mixedTokens none) (start mixedTokens none).readOn.readOn.readOn ∧
          ∃ count last, Rounds count (start mixedTokens none) last ∧ last.atEnd = true ∧
            last.cursor = 4 ∧ count ≤ 4 := by
  have reachable : (start mixedTokens none).Reachable := .start mixedTokens none []
  have rounds : Rounds 3 (start mixedTokens none) (start mixedTokens none).readOn.readOn.readOn :=
    .round rfl (.round rfl (.round rfl (.refl _)))
  have loop := recovery_loop_ends reachable
  exact ⟨reachable, rounds, (loop.1 3 _ rounds).1, loop.2⟩

end Lox.Parser
