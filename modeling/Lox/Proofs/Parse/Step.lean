import Lox.Expr.Canonical
import Lox.Parse.Parser

/-!
# Steps and runs of the machine

What the machine does at a token, said as two relations: `Machine.Takes` lists the ways in which
a token is taken, `Machine.Stops` the ways in which reading ends at one. Each is the graph of one
half of `State.step` (`step_eq_take_iff`, `step_eq_stop_iff`), so that a fact about a step is
proved by going through the cases of a relation.

A run takes some tokens one by one (`Machine.Reaches`) and stops at the next one
(`exists_reaches_stops`). The token that marks the end stops every run, so a run over a token
sequence always ends at one of its tokens.
-/

set_option autoImplicit false

namespace Lox

/-! ## Literals -/

/-- The tokens that are literals are those that denote a value. -/
theorem Token.literal?_eq_some_iff (token : Token) (tree : Expr) :
    token.literal? = some tree ↔ ∃ value, token.Denotes value ∧ tree = .literal value := by
  constructor
  · intro found
    unfold Token.literal? at found
    split at found
    · next kind => exact ⟨_, .falsehood kind, (Option.some.inj found).symm⟩
    · next kind => exact ⟨_, .truth kind, (Option.some.inj found).symm⟩
    · next kind => exact ⟨_, .absent kind, (Option.some.inj found).symm⟩
    · next kind => exact ⟨_, .carried (.inl kind), (Option.some.inj found).symm⟩
    · next kind => exact ⟨_, .carried (.inr kind), (Option.some.inj found).symm⟩
    · contradiction
  · rintro ⟨value, denotes, rfl⟩
    cases denotes with
    | carried kind => rcases kind with kind | kind <;> simp [Token.literal?, kind]
    | truth kind => simp [Token.literal?, kind]
    | falsehood kind => simp [Token.literal?, kind]
    | absent kind => simp [Token.literal?, kind]

/-- A token that denotes a value has one of the literal kinds. -/
theorem Token.Denotes.kind_mem {token : Token} {value : Value} (denotes : token.Denotes value) :
    token.kind ∈ literalKinds := by
  cases denotes with
  | carried kind => rcases kind with kind | kind <;> simp [kind, literalKinds]
  | truth kind => simp [kind, literalKinds]
  | falsehood kind => simp [kind, literalKinds]
  | absent kind => simp [kind, literalKinds]

/-- A token of a literal kind denotes a value. -/
theorem Token.exists_denotes {token : Token} (kind : token.kind ∈ literalKinds) :
    ∃ value, token.Denotes value := by
  simp only [literalKinds, List.mem_cons, List.not_mem_nil, or_false] at kind
  rcases kind with kind | kind | kind | kind | kind
  · exact ⟨_, .carried (.inl kind)⟩
  · exact ⟨_, .carried (.inr kind)⟩
  · exact ⟨_, .truth kind⟩
  · exact ⟨_, .falsehood kind⟩
  · exact ⟨_, .absent kind⟩

theorem Token.literal?_eq_none {token : Token} (kind : token.kind ∉ literalKinds) :
    token.literal? = none := by
  rw [Option.eq_none_iff_forall_ne_some]
  intro tree found
  obtain ⟨_, denotes, _⟩ := (token.literal?_eq_some_iff tree).mp found
  exact kind denotes.kind_mem

namespace Machine

/-! ## Steps -/

/-- The state before the first token of an expression. -/
def State.initial (cursor : Nat) : State := ⟨cursor, 0, [], none⟩

/-- A token that begins a level of nesting, and the construct that it begins. -/
inductive Opens : Token → Frame → Prop
  | group {token : Token} : token.kind = .leftParen → Opens token .group
  | unary {token : Token} : token.kind ∈ unaryOperators → Opens token (.unary token)

/-- No bound is passed where there is no limit. -/
theorem forall_mem_none (p : Nat → Prop) : ∀ bound ∈ (none : Option Nat), p bound :=
  fun _ given => absurd given (Option.not_mem_none _)

/-- Whether a rule allows a construct to begin behind the given ones. -/
def Allows (rule : Rule) (frames : List Frame) : Frame → Prop
  | .unary _ => rule ≠ .primary ∨ frames ≠ []
  | _ => True

/-- The ways in which the machine takes a token. -/
inductive Takes (rule : Rule) (limit : Option Nat) : State → Token → State → Prop
  /-- A literal is an operand. -/
  | literal {cursor depth : Nat} {frames : List Frame} {token : Token} {value : Value} :
      token.Denotes value →
        Takes rule limit ⟨cursor, depth, frames, none⟩ token
          ⟨cursor + 1, depth, frames, some (.literal value)⟩
  /-- A level of nesting begins below the limit. -/
  | nest {cursor depth : Nat} {frames : List Frame} {token : Token} {frame : Frame} :
      Opens token frame → Allows rule frames frame → (∀ bound ∈ limit, depth < bound) →
        Takes rule limit ⟨cursor, depth, frames, none⟩ token
          ⟨cursor + 1, depth + 1, frame :: frames, none⟩
  /-- A binary operator takes the operand that it completes as its left one. -/
  | join {cursor depth shallower : Nat} {frames outer : List Frame} {operand left : Expr}
      {token : Token} {tier : Tier} :
      token.kind ∈ tier.operators →
        close tier.strength operand depth frames = (left, shallower, outer) →
          (outer = [] → rule.joins tier = true) →
            Takes rule limit ⟨cursor, depth, frames, some operand⟩ token
              ⟨cursor + 1, shallower, .binary tier left token :: outer, none⟩
  /-- A closing parenthesis makes an operand of what stands behind the opening one. -/
  | closing {cursor depth inside : Nat} {frames outer : List Frame} {operand inner : Expr}
      {token : Token} :
      token.kind = .rightParen →
        close 0 operand depth frames = (inner, inside, .group :: outer) →
          Takes rule limit ⟨cursor, depth, frames, some operand⟩ token
            ⟨cursor + 1, inside - 1, outer, some (.grouping inner)⟩

/-- The ways in which reading ends at a token. -/
inductive Stops (rule : Rule) (limit : Option Nat) : State → Token → Outcome → Prop
  /-- The token begins no operand. -/
  | operandExpected {cursor depth : Nat} {frames : List Frame} {token : Token} :
      token.kind ∉ literalKinds →
        (∀ frame, Opens token frame → ¬ Allows rule frames frame) →
          Stops rule limit ⟨cursor, depth, frames, none⟩ token
            ⟨.error (.atToken token SyntaxError.operandExpected), cursor, depth⟩
  /-- The token begins a level of nesting past the limit. -/
  | tooDeep {cursor depth bound : Nat} {frames : List Frame} {token : Token} {frame : Frame} :
      Opens token frame → Allows rule frames frame → bound ∈ limit → bound ≤ depth →
        Stops rule limit ⟨cursor, depth, frames, none⟩ token
          ⟨.error (.tooDeep token (some bound)), cursor + 1, depth + 1⟩
  /-- An open parenthesis is not closed. -/
  | closingExpected {cursor depth inside : Nat} {frames outer : List Frame}
      {operand inner : Expr} {token : Token} :
      (∀ tier : Tier, token.kind ∉ tier.operators) → token.kind ≠ .rightParen →
        close 0 operand depth frames = (inner, inside, .group :: outer) →
          Stops rule limit ⟨cursor, depth, frames, some operand⟩ token
            ⟨.error (.atToken token SyntaxError.closingExpected), cursor, inside⟩
  /-- The token does not continue a complete expression. -/
  | complete {cursor depth outside : Nat} {frames : List Frame} {operand tree : Expr}
      {token : Token} :
      (∀ tier : Tier, token.kind ∈ tier.operators →
        (close tier.strength operand depth frames).2.2 = [] ∧ rule.joins tier = false) →
        close 0 operand depth frames = (tree, outside, []) →
          Stops rule limit ⟨cursor, depth, frames, some operand⟩ token
            ⟨.ok tree, cursor, outside⟩

/-- Completing everything up to an open parenthesis leaves one, or nothing. -/
theorem close_zero_cases (operand : Expr) (depth : Nat) (frames : List Frame) :
    (∃ tree outside, close 0 operand depth frames = (tree, outside, [])) ∨
      ∃ inner inside outer, close 0 operand depth frames = (inner, inside, .group :: outer) := by
  induction frames generalizing operand depth with
  | nil => exact .inl ⟨operand, depth, rfl⟩
  | cons frame frames ih =>
    cases frame with
    | group => exact .inr ⟨operand, depth, frames, rfl⟩
    | unary operator => exact ih ..
    | binary tier left operator =>
      simp only [close, Nat.zero_le, if_true]
      exact ih ..

/-- Completing the constructs on top of an open parenthesis never reaches the bottom. -/
theorem close_frames_ne_nil {operand : Expr} {depth : Nat} {frames outer : List Frame}
    (opened : (close 0 operand depth frames).2.2 = .group :: outer) (strength : Nat) :
    (close strength operand depth frames).2.2 ≠ [] := by
  induction frames generalizing operand depth with
  | nil => simp [close] at opened
  | cons frame frames ih =>
    cases frame with
    | group => simp [close]
    | unary operator => exact ih opened
    | binary tier left operator =>
      simp only [close, Nat.zero_le, if_true] at opened
      unfold close
      split
      · exact ih opened
      · simp

theorem literal?_eq_none_of_opens {token : Token} {frame : Frame} (opens : Opens token frame) :
    token.literal? = none := by
  cases opens with
  | group kind => simp [Token.literal?, kind]
  | unary kind =>
    simp only [unaryOperators, List.mem_cons, List.not_mem_nil, or_false] at kind
    rcases kind with kind | kind <;> simp [Token.literal?, kind]

/-- Where a token begins a level of nesting, the machine begins it. -/
theorem start_eq_nest {rule : Rule} {limit : Option Nat} {state : State} {token : Token}
    {frame : Frame} (opens : Opens token frame) (allows : Allows rule state.frames frame) :
    state.start rule limit token = state.nest limit frame token := by
  simp only [State.start, literal?_eq_none_of_opens opens]
  cases opens with
  | group kind => rw [if_pos kind]
  | unary kind =>
    have other : token.kind ≠ .leftParen := by
      rintro same
      simp [same, unaryOperators] at kind
    have allowed : state.allowsUnary rule = true := by
      simpa [State.allowsUnary, Allows] using allows
    rw [if_neg other, if_pos (by simp [(TokenKind.isUnary_iff _).mpr kind, allowed])]

theorem step_of_takes {rule : Rule} {limit : Option Nat} {state next : State} {token : Token}
    (takes : Takes rule limit state token next) : state.step rule limit token = .take next := by
  cases takes with
  | literal denotes =>
    have found := (Token.literal?_eq_some_iff token _).mpr ⟨_, denotes, rfl⟩
    simp [State.step, State.start, found]
  | nest opens allows below =>
    rw [State.step, start_eq_nest opens allows]
    cases limit with
    | none => rfl
    | some bound =>
      have := below bound rfl
      simp only [State.nest]
      rw [if_neg (by omega)]
  | join kind closed joins =>
    have tier := (TokenKind.tier?_eq_some_iff token.kind _).mpr kind
    simp only [State.step, tier, State.join, closed]
    rw [if_neg]
    intro outermost
    simp only [Bool.and_eq_true, List.isEmpty_iff, Bool.not_eq_true'] at outermost
    simp [joins outermost.1] at outermost
  | closing kind closed =>
    simp [State.step, kind, TokenKind.tier?, State.closeGroup, closed]

theorem step_of_stops {rule : Rule} {limit : Option Nat} {state : State} {token : Token}
    {outcome : Outcome} (stops : Stops rule limit state token outcome) :
    state.step rule limit token = .stop outcome := by
  cases stops with
  | operandExpected noLiteral noLevel =>
    have noParenthesis : token.kind ≠ .leftParen := fun kind =>
      noLevel .group (.group kind) trivial
    simp only [State.step, State.start, Token.literal?_eq_none noLiteral, if_neg noParenthesis]
    rw [if_neg]
    · rfl
    · intro operator
      obtain ⟨kind, allowed⟩ := Bool.and_eq_true_iff.mp operator
      refine noLevel (.unary token) (.unary ((TokenKind.isUnary_iff _).mp kind)) ?_
      simpa [State.allowsUnary, Allows] using allowed
  | tooDeep opens allows given passed =>
    rw [State.step, start_eq_nest opens allows]
    cases Option.mem_def.mp given
    simp only [State.nest]
    rw [if_pos (by omega)]
  | closingExpected noOperator noClosing opened =>
    have noTier : token.kind.tier? = none := by
      rw [Option.eq_none_iff_forall_ne_some]
      exact fun tier found => noOperator tier ((TokenKind.tier?_eq_some_iff _ _).mp found)
    simp [State.step, noTier, noClosing, State.finish, opened, State.fail]
  | complete noJoin closed =>
    cases found : token.kind.tier? with
    | some tier =>
      obtain ⟨outermost, joins⟩ := noJoin tier ((TokenKind.tier?_eq_some_iff _ _).mp found)
      simp [State.step, found, State.join, outermost, joins, State.finish, closed]
    | none => simp [State.step, found, State.closeGroup, State.finish, closed]

/-- The machine takes a token or stops at it. -/
theorem takes_or_stops (rule : Rule) (limit : Option Nat) (state : State) (token : Token) :
    (∃ next, Takes rule limit state token next) ∨
      ∃ outcome, Stops rule limit state token outcome := by
  rcases state with ⟨cursor, depth, frames, _ | operand⟩
  · by_cases literal : token.kind ∈ literalKinds
    · obtain ⟨value, denotes⟩ := Token.exists_denotes literal
      exact .inl ⟨_, .literal denotes⟩
    · by_cases level : ∃ frame, Opens token frame ∧ Allows rule frames frame
      · obtain ⟨frame, opens, allows⟩ := level
        cases limit with
        | none => exact .inl ⟨_, .nest opens allows (forall_mem_none _)⟩
        | some bound =>
          by_cases below : depth < bound
          · refine .inl ⟨_, .nest opens allows ?_⟩
            exact fun _ given => Option.mem_some.mp given ▸ below
          · exact .inr ⟨_, .tooDeep opens allows rfl (Nat.not_lt.mp below)⟩
      · refine .inr ⟨_, .operandExpected literal fun frame opens allows => ?_⟩
        exact level ⟨frame, opens, allows⟩
  · by_cases joins : ∃ tier : Tier, token.kind ∈ tier.operators ∧
        ((close tier.strength operand depth frames).2.2 = [] → rule.joins tier = true)
    · obtain ⟨tier, kind, joins⟩ := joins
      exact .inl ⟨_, .join kind rfl joins⟩
    · have stays : ∀ tier : Tier, token.kind ∈ tier.operators →
          (close tier.strength operand depth frames).2.2 = [] ∧ rule.joins tier = false := by
        intro tier kind
        have stays := fun joined => joins ⟨tier, kind, joined⟩
        simpa using stays
      rcases close_zero_cases operand depth frames with
        ⟨tree, outside, closed⟩ | ⟨inner, inside, outer, opened⟩
      · exact .inr ⟨_, .complete stays closed⟩
      · by_cases closes : token.kind = .rightParen
        · exact .inl ⟨_, .closing closes opened⟩
        · refine .inr ⟨_, .closingExpected (fun tier kind => ?_) closes opened⟩
          exact close_frames_ne_nil (congrArg (·.2.2) opened) _ (stays tier kind).1

theorem step_eq_take_iff {rule : Rule} {limit : Option Nat} {state next : State} {token : Token} :
    state.step rule limit token = .take next ↔ Takes rule limit state token next := by
  refine ⟨fun taken => ?_, step_of_takes⟩
  rcases takes_or_stops rule limit state token with ⟨other, takes⟩ | ⟨outcome, stops⟩
  · rw [step_of_takes takes] at taken
    exact Action.take.inj taken ▸ takes
  · rw [step_of_stops stops] at taken
    contradiction

theorem step_eq_stop_iff {rule : Rule} {limit : Option Nat} {state : State} {token : Token}
    {outcome : Outcome} :
    state.step rule limit token = .stop outcome ↔ Stops rule limit state token outcome := by
  refine ⟨fun stopped => ?_, step_of_stops⟩
  rcases takes_or_stops rule limit state token with ⟨next, takes⟩ | ⟨other, stops⟩
  · rw [step_of_takes takes] at stopped
    contradiction
  · rw [step_of_stops stops] at stopped
    exact Action.stop.inj stopped ▸ stops

theorem Takes.unique {rule : Rule} {limit : Option Nat} {state first second : State}
    {token : Token} (one : Takes rule limit state token first)
    (other : Takes rule limit state token second) : first = second :=
  Action.take.inj ((step_of_takes one).symm.trans (step_of_takes other))

theorem Takes.not_stops {rule : Rule} {limit : Option Nat} {state next : State} {token : Token}
    {outcome : Outcome} (takes : Takes rule limit state token next) :
    ¬ Stops rule limit state token outcome := fun stops => by
  have same := (step_of_takes takes).symm.trans (step_of_stops stops)
  contradiction

theorem Takes.cursor_eq {rule : Rule} {limit : Option Nat} {state next : State} {token : Token}
    (takes : Takes rule limit state token next) : next.cursor = state.cursor + 1 := by
  cases takes <;> rfl

/-- A tree is returned where everything below the operand is completed and nothing joins it. -/
theorem Stops.complete_of_ok {rule : Rule} {limit : Option Nat} {state : State} {token : Token}
    {outcome : Outcome} {tree : Expr} (stops : Stops rule limit state token outcome)
    (returned : outcome.result = .ok tree) :
    ∃ operand outside, state.operand = some operand ∧
      close 0 operand state.depth state.frames = (tree, outside, []) ∧
        outcome = ⟨.ok tree, state.cursor, outside⟩ ∧
          ∀ tier : Tier, token.kind ∈ tier.operators → rule.joins tier = false := by
  cases stops with
  | operandExpected => contradiction
  | tooDeep => contradiction
  | closingExpected => contradiction
  | complete stays closed =>
    cases returned
    exact ⟨_, _, rfl, closed, rfl, fun tier operator => (stays tier operator).2⟩

/-- An error is at the token that stops reading. The cursor stays in front of the token, unless the
error is that the token passes the limit. -/
theorem Stops.error_cases {rule : Rule} {limit : Option Nat} {state : State} {token : Token}
    {outcome : Outcome} {error : SyntaxError} (stops : Stops rule limit state token outcome)
    (failed : outcome.result = .error error) :
    (outcome.cursor = state.cursor ∧ ∃ message, message ≠ SyntaxError.nestingTooDeep ∧
      error = .atToken token message) ∨
      ∃ bound ∈ limit, outcome.cursor = state.cursor + 1 ∧
        error = .tooDeep token (some bound) := by
  cases stops with
  | operandExpected =>
    cases failed
    exact .inl ⟨rfl, _, by decide, rfl⟩
  | tooDeep _ _ given =>
    cases failed
    exact .inr ⟨_, given, rfl, rfl⟩
  | closingExpected =>
    cases failed
    exact .inl ⟨rfl, _, by decide, rfl⟩
  | complete => contradiction

/-- Reading stops at the token that marks the end. -/
theorem stops_atEnd (rule : Rule) (limit : Option Nat) (state : State) {stop : Token}
    (isEnd : stop.isEnd = true) : Stops rule limit state stop (state.atEnd stop) := by
  have kind : stop.kind = .endOfInput := Token.isEnd_iff.mp isEnd
  rcases state with ⟨cursor, depth, frames, _ | operand⟩
  · refine .operandExpected (by simp [kind, literalKinds]) ?_
    intro frame opens
    cases opens with
    | group parenthesis => simp [kind] at parenthesis
    | unary operator => simp [kind, unaryOperators] at operator
  · have noOperator : ∀ tier : Tier, stop.kind ∉ tier.operators := by
      intro tier
      cases tier <;> simp [kind, Tier.operators]
    rcases close_zero_cases operand depth frames with
      ⟨tree, outside, closed⟩ | ⟨inner, inside, outer, opened⟩
    · simp only [State.atEnd, State.finish, closed]
      exact .complete (fun tier operator => absurd operator (noOperator tier)) closed
    · simp only [State.atEnd, State.finish, opened]
      exact .closingExpected noOperator (by simp [kind]) opened

/-! ## Runs -/

/-- The machine gets from one state to another by taking some tokens one by one. -/
inductive Reaches (rule : Rule) (limit : Option Nat) : State → List Token → State → Prop
  | refl (state : State) : Reaches rule limit state [] state
  | step {state next last : State} {token : Token} {tokens : List Token} :
      Takes rule limit state token next → Reaches rule limit next tokens last →
        Reaches rule limit state (token :: tokens) last

namespace Reaches

variable {rule : Rule} {limit : Option Nat} {state middle last : State}
variable {first second tokens : List Token} {token : Token}

theorem single (takes : Takes rule limit state token last) :
    Reaches rule limit state [token] last :=
  .step takes (.refl last)

theorem append (before : Reaches rule limit state first middle)
    (behind : Reaches rule limit middle second last) :
    Reaches rule limit state (first ++ second) last := by
  induction before with
  | refl => exact behind
  | step takes _ ih => exact .step takes (ih behind)

/-- What is taken first is taken in one way only, so a longer run goes on from there. -/
theorem of_append (before : Reaches rule limit state first middle)
    (whole : Reaches rule limit state (first ++ second) last) :
    Reaches rule limit middle second last := by
  induction before with
  | refl => exact whole
  | step takes _ ih =>
    cases whole with
    | step other further =>
      obtain rfl := other.unique takes
      exact ih further

/-- The tokens that are taken first are taken. -/
theorem exists_middle (whole : Reaches rule limit state (first ++ second) last) :
    ∃ middle, Reaches rule limit state first middle := by
  induction first generalizing state with
  | nil => exact ⟨state, .refl state⟩
  | cons token first ih =>
    cases whole with
    | step takes further =>
      obtain ⟨middle, reaches⟩ := ih further
      exact ⟨middle, .step takes reaches⟩

theorem cursor_eq (reaches : Reaches rule limit state tokens last) :
    last.cursor = state.cursor + tokens.length := by
  induction reaches with
  | refl => rfl
  | step takes _ ih =>
    rw [ih, takes.cursor_eq, List.length_cons]
    omega

/-- Tokens that are taken are left behind by a run. -/
theorem run_append (reaches : Reaches rule limit state tokens last) (stop : Token)
    (rest : List Token) :
    run rule limit stop state (tokens ++ rest) = run rule limit stop last rest := by
  induction reaches with
  | refl => rfl
  | step takes _ ih => simpa [run, step_of_takes takes] using ih

/-- A run ends where a token stops it. -/
theorem run_eq (reaches : Reaches rule limit state first last) {stop : Token}
    (isEnd : stop.isEnd = true) {outcome : Outcome} (stops : Stops rule limit last token outcome)
    (whole : tokens ++ [stop] = first ++ token :: second) :
    run rule limit stop state tokens = outcome := by
  -- The token that stops the run is the mark of the end, or one of the tokens before it.
  rcases List.eq_nil_or_concat second with rfl | ⟨rest, final, rfl⟩
  · obtain ⟨rfl, same⟩ := List.append_inj' whole rfl
    obtain rfl : stop = token := (List.cons.inj same).1
    have ended := reaches.run_append stop []
    rw [List.append_nil] at ended
    rw [ended, run]
    have here := stops_atEnd rule limit last isEnd
    exact Action.stop.inj ((step_of_stops here).symm.trans (step_of_stops stops))
  · have front : tokens = first ++ token :: rest := by
      have joined : tokens ++ [stop] = (first ++ token :: rest) ++ [final] := by simpa using whole
      exact (List.append_inj' joined rfl).1
    rw [front, reaches.run_append, run, step_of_stops stops]

end Reaches

/-- **A run takes some tokens and stops at the next one.** -/
theorem exists_reaches_stops (rule : Rule) (limit : Option Nat) {stop : Token}
    (isEnd : stop.isEnd = true) (state : State) (tokens : List Token) :
    ∃ first token second last, tokens ++ [stop] = first ++ token :: second ∧
      Reaches rule limit state first last ∧
        Stops rule limit last token (run rule limit stop state tokens) := by
  induction tokens generalizing state with
  | nil => exact ⟨[], stop, [], state, rfl, .refl state, stops_atEnd rule limit state isEnd⟩
  | cons token tokens ih =>
    rcases takes_or_stops rule limit state token with ⟨next, takes⟩ | ⟨outcome, stops⟩
    · obtain ⟨first, final, second, last, whole, reaches, stops⟩ := ih next
      refine ⟨token :: first, final, second, last, ?_, .step takes reaches, ?_⟩
      · rw [List.cons_append, whole, List.cons_append]
      · rwa [run, step_of_takes takes]
    · refine ⟨[], token, tokens ++ [stop], state, rfl, .refl state, ?_⟩
      rwa [run, step_of_stops stops]

end Machine
end Lox
