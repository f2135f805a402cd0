import Lox.Proofs.Parse.Completeness

/-!
# The limit on nesting

A limit changes nothing about a step that ends within it, and turns a step past it into an error.
So a run with a limit is the run without one, as long as the depth stays within the limit, and else
it ends at the first token that passes it (`Machine.run_limit_cases`). For a parser this gives that
the limit is exact and otherwise invisible (`Parser.parse_under_limit`).
-/

set_option autoImplicit false

namespace Lox

namespace Machine

/-! ## Steps under a limit -/

section Step

variable {rule : Rule} {bound : Nat} {state next : State} {token : Token} {outcome : Outcome}

/-- A token that is taken without a limit is taken where the depth ends within it. -/
theorem Takes.under_limit (takes : Takes rule none state token next)
    (within : next.depth ≤ bound) : Takes rule (some bound) state token next := by
  cases takes with
  | literal denotes => exact .literal denotes
  | nest opens allows =>
    exact .nest opens allows fun _ given => Option.mem_some.mp given ▸ within
  | join kind closed joins => exact .join kind closed joins
  | closing kind closed => exact .closing kind closed

/-- A token that stops reading without a limit stops it with one. -/
theorem Stops.under_limit (stops : Stops rule none state token outcome) :
    Stops rule (some bound) state token outcome := by
  cases stops with
  | operandExpected noLiteral noLevel => exact .operandExpected noLiteral noLevel
  | tooDeep _ _ given => cases given
  | closingExpected noOperator noClosing opened =>
    exact .closingExpected noOperator noClosing opened
  | complete stays closed => exact .complete stays closed

/-- A token that brings the depth past a limit begins a level, and stops reading with that limit. -/
theorem Takes.past_limit (takes : Takes rule none state token next) (within : state.depth ≤ bound)
    (past : bound < next.depth) :
    next.depth = bound + 1 ∧ (∃ frame, Opens token frame) ∧
      Stops rule (some bound) state token
        ⟨.error (.tooDeep token (some bound)), state.cursor + 1, bound + 1⟩ := by
  cases takes with
  | literal => exact absurd past (Nat.not_lt.mpr within)
  | @nest _ depth _ _ frame opens allows =>
    obtain rfl : depth = bound := Nat.le_antisymm within (Nat.le_of_lt_succ past)
    exact ⟨rfl, ⟨frame, opens⟩, .tooDeep opens allows rfl (Nat.le_refl _)⟩
  | join _ closed =>
    have shallower := depth_close_le closed
    exact absurd past (Nat.not_lt.mpr (Nat.le_trans shallower within))
  | closing _ closed =>
    have shallower := Nat.le_trans (Nat.sub_le _ 1) (depth_close_le closed)
    exact absurd past (Nat.not_lt.mpr (Nat.le_trans shallower within))

/-- Without a limit no error is about it. -/
theorem Stops.passedLimit_eq_none {error : SyntaxError}
    (stops : Stops rule none state token outcome) (failed : outcome.result = .error error) :
    error.passedLimit = none := by
  rcases stops.error_cases failed with ⟨_, message, _, rfl⟩ | ⟨bound, given, _⟩
  · rfl
  · exact absurd given (Option.not_mem_none bound)

end Step

/-! ## Runs under a limit -/

/-- Reading some tokens without a limit never brings the depth past a bound. -/
def StaysWithin (rule : Rule) (bound : Nat) (state : State) (tokens : List Token) : Prop :=
  ∀ read next, read <+: tokens → Reaches rule none state read next → next.depth ≤ bound

/-- Behind some tokens a further one brings the depth past a bound for the first time. -/
structure PassesAt (rule : Rule) (bound : Nat) (state : State) (before : List Token)
    (token : Token) : Prop where
  before_within : StaysWithin rule bound state before
  /-- The token brings it to one more. -/
  passes : ∃ next, Reaches rule none state (before ++ [token]) next ∧ next.depth = bound + 1
  /-- The token is an opening parenthesis or a unary operator. -/
  opens : ∃ frame, Opens token frame

section Run

variable {rule : Rule} {bound : Nat} {state next : State} {token : Token} {tokens : List Token}

theorem StaysWithin.nil (within : state.depth ≤ bound) : StaysWithin rule bound state [] := by
  intro read next front reaches
  obtain rfl := List.prefix_nil.mp front
  cases reaches
  exact within

theorem StaysWithin.cons (within : state.depth ≤ bound) (takes : Takes rule none state token next)
    (stays : StaysWithin rule bound next tokens) :
    StaysWithin rule bound state (token :: tokens) := by
  intro read last front reaches
  cases reaches with
  | refl => exact within
  | step other further =>
    obtain ⟨rfl, behind⟩ := List.cons_prefix_cons.mp front
    obtain rfl := other.unique takes
    exact stays _ _ behind further

theorem StaysWithin.of_stops {outcome : Outcome} (within : state.depth ≤ bound)
    (stops : Stops rule none state token outcome) :
    StaysWithin rule bound state (token :: tokens) := by
  intro read last front reaches
  cases reaches with
  | refl => exact within
  | step takes _ =>
    obtain ⟨rfl, _⟩ := List.cons_prefix_cons.mp front
    exact absurd stops takes.not_stops

/-- **A run with a limit is the run without one, or ends at the first token that passes it.** -/
theorem run_limit_cases (rule : Rule) (tokens : List Token) (stop : Token)
    (within : state.depth ≤ bound) :
    (StaysWithin rule bound state tokens ∧
      run rule (some bound) stop state tokens = run rule none stop state tokens) ∨
      ∃ before token second, tokens = before ++ token :: second ∧
        PassesAt rule bound state before token ∧
          run rule (some bound) stop state tokens =
            ⟨.error (.tooDeep token (some bound)), state.cursor + before.length + 1,
              bound + 1⟩ := by
  induction tokens generalizing state with
  | nil => exact .inl ⟨.nil within, rfl⟩
  | cons token tokens ih =>
    rcases takes_or_stops rule none state token with ⟨next, takes⟩ | ⟨outcome, stops⟩
    · by_cases inside : next.depth ≤ bound
      · have limited := step_of_takes (takes.under_limit inside)
        rcases ih inside with ⟨stays, same⟩ | ⟨before, last, second, rfl, passes, ended⟩
        · refine .inl ⟨stays.cons within takes, ?_⟩
          simpa only [run, step_of_takes takes, limited] using same
        · refine .inr ⟨token :: before, last, second, rfl, ⟨?_, ?_, passes.opens⟩, ?_⟩
          · exact passes.before_within.cons within takes
          · obtain ⟨deeper, reaches, depth⟩ := passes.passes
            exact ⟨deeper, .step takes reaches, depth⟩
          · rw [run, limited]
            simp only [ended, takes.cursor_eq, List.length_cons]
            congr 1
            omega
      · obtain ⟨depth, opens, stops⟩ := takes.past_limit within (Nat.lt_of_not_le inside)
        refine .inr ⟨[], token, tokens, rfl, ⟨.nil within, ?_, opens⟩, ?_⟩
        · exact ⟨next, .single takes, depth⟩
        · rw [run, step_of_stops stops]
          rfl
    · refine .inl ⟨.of_stops within stops, ?_⟩
      simp only [run, step_of_stops stops, step_of_stops stops.under_limit]

end Run

end Machine

namespace Parser

open Machine

/-! ## Parsers with a limit -/

/-- A parser with a limit does what it does without one, or stops behind the first token that
passes the limit. -/
theorem parse_limit_cases (tokens : TokenSequence) (bound : Nat) :
    (StaysWithin .expression bound (.initial 0) tokens.body ∧
      (start tokens (some bound)).parse =
        ((start tokens none).parse.1,
          { (start tokens none).parse.2 with limit := some bound })) ∨
      ∃ before token second, tokens.body = before ++ token :: second ∧
        PassesAt .expression bound (.initial 0) before token ∧
          (start tokens (some bound)).parse =
            (none, ⟨tokens, some bound, before.length + 1, bound + 1,
              [.tooDeep token (some bound)], [⟨token, SyntaxError.nestingTooDeep⟩]⟩) := by
  have within : (State.initial 0).depth ≤ bound := Nat.zero_le bound
  rcases run_limit_cases .expression tokens.body tokens.stop within with
    ⟨stays, same⟩ | ⟨before, token, second, whole, passes, ended⟩
  · refine .inl ⟨stays, ?_⟩
    have same : (start tokens (some bound)).outcome = (start tokens none).outcome := same
    cases ended : (start tokens none).outcome.result with
    | ok tree =>
      rw [parse_start_of_ok tokens none ended,
        parse_start_of_ok tokens (some bound) (same ▸ ended), same]
      rfl
    | error error =>
      rw [parse_start_of_error tokens none ended,
        parse_start_of_error tokens (some bound) (same ▸ ended), same]
      rfl
  · refine .inr ⟨before, token, second, whole, passes, ?_⟩
    have ended : (start tokens (some bound)).outcome =
        ⟨.error (.tooDeep token (some bound)), before.length + 1, bound + 1⟩ := by
      refine Eq.trans ended ?_
      simp [State.initial]
    rw [parse_start_of_error tokens (some bound) (congrArg Outcome.result ended), ended]
    rfl

/-- Without a limit no error about one is recorded. -/
theorem errors_parse_ne_tooDeep (tokens : TokenSequence) (token : Token) (limit : Option Int) :
    (start tokens none).parse.2.errors ≠ [.tooDeep token limit] := by
  obtain ⟨_, _, _, _, _, _, stops⟩ := exists_outcome tokens none
  cases ended : (start tokens none).outcome.result with
  | ok tree =>
    rw [parse_start_of_ok tokens none ended]
    exact (List.cons_ne_nil _ _).symm
  | error error =>
    rw [parse_start_of_error tokens none ended]
    intro recorded
    obtain rfl : error = .tooDeep token limit := (List.cons.inj recorded).1
    have passed := stops.passedLimit_eq_none ended
    contradiction

/-- A tree is returned under a limit exactly if it is returned without one and nests within it. -/
theorem parse_limit_eq_some_iff (tokens : TokenSequence) (bound : Nat) (tree : Expr)
    (cursor : Nat) :
    ((start tokens (some bound)).parse.1 = some tree ∧
      (start tokens (some bound)).parse.2.cursor = cursor) ↔
      ((start tokens none).parse.1 = some tree ∧ (start tokens none).parse.2.cursor = cursor) ∧
        tree.nesting ≤ bound := by
  rw [parse_eq_some_iff, parse_eq_some_iff]
  constructor
  · rintro ⟨⟨canonical, within⟩, rest⟩
    exact ⟨⟨⟨canonical, forall_mem_none _⟩, rest⟩, within bound rfl⟩
  · rintro ⟨⟨⟨canonical, _⟩, rest⟩, within⟩
    exact ⟨⟨canonical, fun _ given => Option.mem_some.mp given ▸ within⟩, rest⟩

/-- **A limit is exact and otherwise invisible.** A tree is returned under it exactly if it is
returned without it and nests no deeper. What fails under it fails as without it, or because of
it. The latter happens exactly if the depth passes the limit somewhere without it, and then the
error is at the first token that makes it do so. -/
theorem parse_under_limit (tokens : TokenSequence) (bound : Nat) :
    (∀ (tree : Expr) (cursor : Nat),
      ((start tokens (some bound)).parse.1 = some tree ∧
        (start tokens (some bound)).parse.2.cursor = cursor) ↔
      ((start tokens none).parse.1 = some tree ∧ (start tokens none).parse.2.cursor = cursor) ∧
        tree.nesting ≤ bound) ∧
    ((start tokens (some bound)).parse.1 = none →
      (start tokens (some bound)).parse =
          (none, { (start tokens none).parse.2 with limit := some bound }) ∧
          (start tokens none).parse.1 = none ∨
        ∃ token, (start tokens (some bound)).parse.2.errors = [.tooDeep token (some bound)]) ∧
    ((∃ token, (start tokens (some bound)).parse.2.errors = [.tooDeep token (some bound)]) ↔
      ∃ read state, read <+: tokens.body ∧ Reaches .expression none (.initial 0) read state ∧
        bound < state.depth) ∧
    ∀ token, (start tokens (some bound)).parse.2.errors = [.tooDeep token (some bound)] →
      ∃ before second, tokens.body = before ++ token :: second ∧
        PassesAt .expression bound (.initial 0) before token ∧
          (start tokens (some bound)).parse =
            (none, ⟨tokens, some bound, before.length + 1, bound + 1,
              [.tooDeep token (some bound)], [⟨token, SyntaxError.nestingTooDeep⟩]⟩) := by
  refine ⟨parse_limit_eq_some_iff tokens bound, ?_⟩
  · rcases parse_limit_cases tokens bound with
      ⟨stays, same⟩ | ⟨before, token, second, whole, passes, ended⟩
    · rw [same]
      refine ⟨fun failed => .inl ⟨by rw [failed], failed⟩, ?_, ?_⟩
      · refine ⟨fun ⟨token, recorded⟩ => ?_, fun ⟨read, state, front, reaches, past⟩ => ?_⟩
        · exact absurd recorded (errors_parse_ne_tooDeep tokens token _)
        · exact absurd past (Nat.not_lt.mpr (stays read state front reaches))
      · intro token recorded
        exact absurd recorded (errors_parse_ne_tooDeep tokens token _)
    · rw [ended]
      obtain ⟨next, reaches, depth⟩ := passes.passes
      refine ⟨fun _ => .inr ⟨token, rfl⟩, ⟨fun _ => ?_, fun _ => ⟨token, rfl⟩⟩, ?_⟩
      · refine ⟨before ++ [token], next, ⟨second, ?_⟩, reaches, depth ▸ Nat.lt_succ_self bound⟩
        rw [whole, List.append_assoc, List.singleton_append]
      · intro other recorded
        obtain rfl : token = other :=
          congrArg (fun error => error.report.token) (List.cons.inj recorded).1
        exact ⟨before, second, whole, passes, rfl⟩

/-- The tokens of `-(nil)` and the mark of the end. -/
def nestedTokens : TokenSequence := .ofKinds [.minus, .leftParen, .nilWord, .rightParen]

/-- The tree of `-(nil)`. -/
def nestedTree : Expr := .unary (.ofKind .minus) (.grouping (.literal .nil))

theorem parse_under_limit_nested :
    ((start nestedTokens (some 2)).parse.1 = some nestedTree ∧
      (start nestedTokens (some 2)).parse.2.cursor = 4) ∧
      (start nestedTokens (some 1)).parse.1 = none ∧
      (∃ token, (start nestedTokens (some 1)).parse.2.errors = [.tooDeep token (some 1)]) ∧
      ∃ before second, nestedTokens.body = before ++ .ofKind .leftParen :: second ∧
        PassesAt .expression 1 (.initial 0) before (.ofKind .leftParen) :=
  have ⟨before, second, whole, passes, _⟩ :=
    (parse_under_limit nestedTokens 1).2.2.2 (.ofKind .leftParen) rfl
  ⟨((parse_under_limit nestedTokens 2).1 nestedTree 4).mpr ⟨⟨rfl, rfl⟩, by decide⟩, rfl,
    ⟨_, rfl⟩, before, second, whole, passes⟩

end Parser
end Lox
