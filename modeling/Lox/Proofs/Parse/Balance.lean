import Lox.Proofs.Parse.Cursor
import Lox.Proofs.Parse.Nesting
import Lox.Proofs.Parse.Language

/-!
# The depth counts what is left open

The depth of a parser is raised by each opening parenthesis and by each unary operator, and lowered
when the parenthesis is closed or the operand of the operator complete. So where a rule gives a
tree, the depth is what it was before. Where it fails, the depth has grown by what the tokens that
were walked over leave open: the parentheses without a matching one (`Unmatched`) and the unary
operators without an operand (`AwaitsOperand`).

Both are said of the kinds of the tokens alone. A tree that is complete leaves nothing open
(`Expr.Canonical.places_eq_zero`), and the stack of the machine has a level for each thing that is
left open (`Machine.Stacked.places_eq_levels`). With what ends a run this gives the depth behind a
rule (`Parser.readRule_balances_depth`).
-/

set_option autoImplicit false

namespace Lox

/-! ## Places in a text -/

open Classical in
/-- At how many places in the middle part of a text a property holds. It speaks of a token, of what
stands in front of it and of what stands behind it. -/
noncomputable def places (property : List TokenKind → TokenKind → List TokenKind → Prop) :
    (before middle behind : List TokenKind) → Nat
  | _, [], _ => 0
  | before, kind :: middle, behind =>
    (if property before kind (middle ++ behind) then 1 else 0) +
      places property (before ++ [kind]) middle behind

section Places

variable {property other : List TokenKind → TokenKind → List TokenKind → Prop}
  {before middle behind : List TokenKind} {kind : TokenKind}

theorem places_nil : places property before [] behind = 0 := rfl

theorem places_cons_of (holds : property before kind (middle ++ behind)) :
    places property before (kind :: middle) behind =
      1 + places property (before ++ [kind]) middle behind := by
  rw [places, if_pos holds]

theorem places_cons_of_not (fails : ¬ property before kind (middle ++ behind)) :
    places property before (kind :: middle) behind =
      places property (before ++ [kind]) middle behind := by
  rw [places, if_neg fails, Nat.zero_add]

theorem places_append (first second : List TokenKind) :
    places property before (first ++ second) behind =
      places property before first (second ++ behind) +
        places property (before ++ first) second behind := by
  induction first generalizing before with
  | nil => rw [List.nil_append, List.append_nil, places_nil, Nat.zero_add]
  | cons kind first ih =>
    rw [List.cons_append, places, places, ih, List.append_assoc, List.append_assoc, Nat.add_assoc,
      List.singleton_append]

/-- Two properties that exclude each other hold at different places. -/
theorem places_or (exclusive : ∀ before kind behind,
      property before kind behind → ¬ other before kind behind) (middle : List TokenKind) :
    places (fun before kind behind => property before kind behind ∨ other before kind behind)
        before middle behind =
      places property before middle behind + places other before middle behind := by
  induction middle generalizing before with
  | nil => rfl
  | cons kind middle ih =>
    simp only [places, ih]
    by_cases one : property before kind (middle ++ behind)
    · rw [if_pos (.inl one), if_pos one, if_neg (exclusive _ _ _ one)]
      omega
    · by_cases two : other before kind (middle ++ behind)
      · rw [if_pos (.inr two), if_neg one, if_pos two]
        omega
      · rw [if_neg (not_or.mpr ⟨one, two⟩), if_neg one, if_neg two]
        omega

end Places

/-! ## What a text leaves open -/

/-- The kinds of the tokens with which operands end. -/
def operandEnds : List TokenKind := .rightParen :: literalKinds

/-- A text ends where an operand can end. -/
def EndsOperand (word : List TokenKind) : Prop := ∃ last ∈ word.getLast?, last ∈ operandEnds

/-- An opening parenthesis without a matching one: behind it there is no point up to which one more
parenthesis is closed than opened. -/
def Unmatched (_before : List TokenKind) (kind : TokenKind) (behind : List TokenKind) : Prop :=
  kind = .leftParen ∧
    ∀ group, group <+: behind → group.count .rightParen ≠ group.count .leftParen + 1

/-- A unary operator without an operand: it stands where no operand ends, and nothing that begins
behind it is an operand. -/
def AwaitsOperand (before : List TokenKind) (kind : TokenKind) (behind : List TokenKind) : Prop :=
  (kind ∈ unaryOperators ∧ ¬ EndsOperand before) ∧
    ∀ operand, operand <+: behind → ¬ Derives .unary operand

/-- A token that begins something that is left open. -/
def LeftOpen (before : List TokenKind) (kind : TokenKind) (behind : List TokenKind) : Prop :=
  Unmatched before kind behind ∨ AwaitsOperand before kind behind

theorem places_leftOpen (before middle behind : List TokenKind) :
    places LeftOpen before middle behind =
      places Unmatched before middle behind + places AwaitsOperand before middle behind := by
  refine places_or (fun before kind behind unmatched awaits => ?_) middle
  have operator := awaits.1.1
  rw [unmatched.1] at operator
  exact absurd operator (by decide)

variable {before behind word : List TokenKind} {kind : TokenKind}

theorem EndsOperand.append (ends : EndsOperand word) (before : List TokenKind) :
    EndsOperand (before ++ word) := by
  obtain ⟨last, found, ends⟩ := ends
  refine ⟨last, ?_, ends⟩
  rw [List.getLast?_append, Option.mem_def.mp found]
  rfl

theorem endsOperand_concat_iff : EndsOperand (before ++ [kind]) ↔ kind ∈ operandEnds := by
  unfold EndsOperand
  rw [List.getLast?_concat]
  simp

/-- Operators and opening parentheses end no operand. -/
theorem not_endsOperand_concat (begins : kind ∈ .leftParen :: unaryOperators ++ binaryOperators) :
    ¬ EndsOperand (before ++ [kind]) := by
  rw [endsOperand_concat_iff]
  cases kind <;> revert begins <;> decide

/-! ## Parentheses -/

theorem TokenKind.ne_parenthesis
    (other : kind ∈ unaryOperators ++ literalKinds ++ binaryOperators) :
    kind ≠ .leftParen ∧ kind ≠ .rightParen := by
  cases kind <;> revert other <;> decide

/-- A text closes no parenthesis from in front of it. -/
def StaysOpen (word : List TokenKind) : Prop :=
  ∀ front, front <+: word → front.count .rightParen ≤ front.count .leftParen

namespace StaysOpen

theorem nil : StaysOpen [] := by
  intro front beginning
  obtain rfl := List.prefix_nil.mp beginning
  exact Nat.le_refl _

theorem cons (noClosing : kind ≠ .rightParen) (stays : StaysOpen word) :
    StaysOpen (kind :: word) := by
  intro front beginning
  rcases List.prefix_cons_iff.mp beginning with rfl | ⟨front, rfl, further⟩
  · exact Nat.le_refl _
  · have within := stays front further
    have skipped := List.count_cons_of_ne noClosing (l := front)
    have kept : front.count .leftParen ≤ (kind :: front).count .leftParen :=
      (List.sublist_cons_self kind front).count_le _
    omega

theorem append {first second : List TokenKind} (one : StaysOpen first)
    (other : StaysOpen second) : StaysOpen (first ++ second) := by
  intro front beginning
  rcases List.prefix_or_prefix_of_prefix beginning (List.prefix_append first second) with
    inFirst | ⟨rest, rfl⟩
  · exact one front inFirst
  · have whole := one first (List.prefix_refl _)
    have within := other rest ((List.prefix_append_right_inj first).mp beginning)
    rw [List.count_append, List.count_append]
    omega

end StaysOpen

/-- A text opens and closes the same parentheses. -/
structure Balanced (word : List TokenKind) : Prop where
  staysOpen : StaysOpen word
  count_eq : word.count .rightParen = word.count .leftParen

namespace Balanced

theorem singleton (other : kind ≠ .leftParen ∧ kind ≠ .rightParen) : Balanced [kind] where
  staysOpen := .cons other.2 .nil
  count_eq := by
    rw [List.count_cons_of_ne other.1, List.count_cons_of_ne other.2]
    rfl

theorem append {first second : List TokenKind} (one : Balanced first) (other : Balanced second) :
    Balanced (first ++ second) where
  staysOpen := one.staysOpen.append other.staysOpen
  count_eq := by rw [List.count_append, List.count_append, one.count_eq, other.count_eq]

theorem parenthesized (balanced : Balanced word) : Balanced (.leftParen :: word ++ [.rightParen])
    where
  staysOpen := by
    intro front beginning
    rcases List.prefix_concat_iff.mp beginning with rfl | beginning
    · have same := balanced.count_eq
      simp [same]
    · exact balanced.staysOpen.cons (by decide) front beginning
  count_eq := by
    have same := balanced.count_eq
    simp [same]

end Balanced

/-- The strings of the grammar open and close the same parentheses. -/
theorem Derives.balanced {rule : Rule} (derivation : Derives rule word) : Balanced word := by
  induction derivation with
  | expression _ ih | operand _ ih | primary _ ih => exact ih
  | @join tier _ _ operator _ operates _ left right =>
    have binary := (TokenKind.mem_binaryOperators_iff operator).mpr ⟨tier, operates⟩
    have middle := Balanced.singleton (TokenKind.ne_parenthesis (List.mem_append_right _ binary))
    exact left.append (middle.append right)
  | unary operator _ ih =>
    exact (Balanced.singleton (TokenKind.ne_parenthesis (by simp [operator]))).append ih
  | literal kind => exact .singleton (TokenKind.ne_parenthesis (by simp [kind]))
  | group _ ih => exact ih.parenthesized

/-! ## Operands behind an operator and in parentheses -/

/-- Behind a unary operator, the operand that it begins goes on with an operand. -/
theorem Derives.of_operator (operator : kind ∈ unaryOperators)
    (derivation : Derives .unary (kind :: word)) : Derives .unary word := by
  generalize whole : kind :: word = written at derivation
  cases derivation with
  | unary _ operand =>
    obtain ⟨_, rfl⟩ := List.cons.inj whole
    exact operand
  | primary derivation =>
    -- No literal and no parenthesis is a unary operator.
    cases derivation with
    | literal literal =>
      obtain ⟨rfl, _⟩ := List.cons.inj whole
      refine absurd literal ?_
      clear whole
      cases kind <;> revert operator <;> decide
    | group =>
      obtain ⟨rfl, _⟩ := List.cons.inj whole
      exact absurd operator (by decide)

/-- No operand begins at a parenthesis that is not closed. -/
theorem StaysOpen.not_derives (stays : StaysOpen behind) {rule : Rule} {operand : List TokenKind}
    (beginning : operand <+: .leftParen :: behind) : ¬ Derives rule operand := by
  intro derivation
  obtain ⟨front, rfl, further⟩ :=
    (List.prefix_cons_iff.mp beginning).resolve_left derivation.ne_nil
  have same := derivation.balanced.count_eq
  rw [List.count_cons_self, List.count_cons_of_ne (by decide)] at same
  have within := stays front further
  omega

/-! ## What is left open, and what is not -/

/-- Only parentheses and unary operators begin something. -/
theorem not_leftOpen (noParenthesis : kind ≠ .leftParen) (noOperator : kind ∉ unaryOperators) :
    ¬ LeftOpen before kind behind := by
  rintro (unmatched | awaits)
  · exact noParenthesis unmatched.1
  · exact noOperator awaits.1.1

theorem not_leftOpen_of_balanced (balanced : Balanced word) :
    ¬ LeftOpen before .leftParen (word ++ .rightParen :: behind) := by
  rintro (⟨_, unmatched⟩ | ⟨⟨operator, _⟩, _⟩)
  · refine unmatched (word ++ [.rightParen]) ⟨behind, by simp⟩ ?_
    have same := balanced.count_eq
    simp [same]
  · exact absurd operator (by decide)

theorem not_leftOpen_of_derives (operator : kind ∈ unaryOperators)
    (operand : Derives .unary word) : ¬ LeftOpen before kind (word ++ behind) := by
  rintro (⟨rfl, _⟩ | ⟨_, awaits⟩)
  · exact absurd operator (by decide)
  · exact awaits word (List.prefix_append word behind) operand

/-- An operator behind an operand is a binary one. -/
theorem not_leftOpen_of_endsOperand (operator : kind ∈ binaryOperators)
    (ends : EndsOperand before) : ¬ LeftOpen before kind behind := by
  rintro (⟨rfl, _⟩ | ⟨⟨_, alone⟩, _⟩)
  · exact absurd operator (by decide)
  · exact alone ends

/-- A parenthesis is left open in front of a text that closes none. -/
theorem StaysOpen.leftOpen (stays : StaysOpen behind) : LeftOpen before .leftParen behind := by
  refine .inl ⟨rfl, fun group beginning same => ?_⟩
  have within := stays group beginning
  omega

/-! ## Trees -/

namespace Expr

variable {tree : Expr} {tokens : List Token}

theorem Flattens.endsOperand (flattens : tree.Flattens tokens) :
    EndsOperand (tokens.map Token.kind) := by
  induction flattens with
  | literal denotes => exact ⟨_, rfl, List.mem_cons_of_mem _ denotes.kind_mem⟩
  | grouping _ _ closed =>
    rw [List.map_append, List.map_singleton, endsOperand_concat_iff, closed]
    exact List.mem_cons_self
  | unary _ ih => exact ih.append [_]
  | binary _ _ _ ih =>
    rw [List.map_append, List.map_cons]
    exact (ih.append [_]).append _

/-- **A tree leaves nothing open**, wherever its tokens stand. -/
theorem Canonical.places_eq_zero (canonical : tree.Canonical) (flattens : tree.Flattens tokens)
    (before behind : List TokenKind) :
    places LeftOpen before (tokens.map Token.kind) behind = 0 := by
  induction canonical generalizing tokens before behind with
  | literal value =>
    cases flattens with
    | @literal token _ denotes =>
      have begins : ¬ LeftOpen before token.kind behind := by
        have literal := denotes.kind_mem
        apply not_leftOpen
        · exact (TokenKind.ne_parenthesis (by simp [literal])).1
        · revert literal
          cases token.kind <;> decide
      exact places_cons_of_not begins
  | grouping canonical ih =>
    cases flattens with
    | grouping opened flattens closed =>
      have balanced := (canonical.derives flattens).balanced
      rw [List.map_append, List.map_cons, List.map_singleton, opened, closed, places_append,
        List.singleton_append, places_cons_of_not (not_leftOpen_of_balanced balanced),
        ih flattens, places_cons_of_not (not_leftOpen (by decide) (by decide)), places_nil]
  | unary operator tight canonical ih =>
    cases flattens with
    | unary flattens =>
      have operand := canonical.derives flattens
      rw [tight] at operand
      rw [List.map_cons, places_cons_of_not (not_leftOpen_of_derives operator operand)]
      exact ih flattens _ _
  | @binary tier _ _ operator operates _ _ _ _ left right =>
    cases flattens with
    | binary first second =>
      have binary := (TokenKind.mem_binaryOperators_iff operator.kind).mpr ⟨tier, operates⟩
      rw [List.map_append, List.map_cons, places_append, left first,
        places_cons_of_not (not_leftOpen_of_endsOperand binary (first.endsOperand.append before)),
        right second]

end Expr

/-! ## The stack -/

namespace Machine

section Stack

variable {frames : List Frame} {tokens : List Token}

/-- An operand is expected behind the tokens of frames. -/
theorem Stacked.not_endsOperand (stacked : Stacked frames tokens) :
    ¬ EndsOperand (tokens.map Token.kind) := by
  cases stacked with
  | bottom =>
    rintro ⟨_, found, _⟩
    contradiction
  | group _ opened =>
    rw [List.map_append, List.map_singleton, opened]
    exact not_endsOperand_concat List.mem_cons_self
  | unary _ operator =>
    rw [List.map_append, List.map_singleton]
    exact not_endsOperand_concat (by simp [operator])
  | @binary _ _ _ tier _ operator _ _ _ _ _ operates =>
    have binary := (TokenKind.mem_binaryOperators_iff operator.kind).mpr ⟨tier, operates⟩
    rw [List.map_append, List.map_singleton]
    exact not_endsOperand_concat (List.mem_append_right _ binary)

/-- **The stack has a level for each thing that its tokens leave open**, in front of a text that
closes none of its parentheses and completes none of its unary operators. -/
theorem Stacked.places_eq_levels (stacked : Stacked frames tokens) {rest : List TokenKind}
    (stays : StaysOpen rest)
    (waits : demand frames = 4 → ∀ operand, operand <+: rest → ¬ Derives .unary operand) :
    places LeftOpen [] (tokens.map Token.kind) rest = levels frames := by
  induction stacked generalizing rest with
  | bottom => rfl
  | group _ opened ih =>
    have below := ih (stays.cons (by decide)) fun _ _ => stays.not_derives
    rw [List.map_append, List.map_singleton, opened, places_append, List.singleton_append, below,
      places_cons_of stays.leftOpen]
    rfl
  | @unary _ tokens operator stacked operates ih =>
    -- An operand that begins at the operator would go on with one behind it.
    have waiting : ∀ operand, operand <+: operator.kind :: rest → ¬ Derives .unary operand := by
      intro operand beginning derivation
      obtain ⟨front, rfl, further⟩ :=
        (List.prefix_cons_iff.mp beginning).resolve_left derivation.ne_nil
      exact waits rfl front further (derivation.of_operator operates)
    have other : operator.kind ≠ .leftParen ∧ operator.kind ≠ .rightParen :=
      TokenKind.ne_parenthesis (by simp [operates])
    have below := ih (stays.cons other.2) fun _ => waiting
    have opens : LeftOpen ([] ++ tokens.map Token.kind) operator.kind ([] ++ rest) :=
      .inr ⟨⟨operates, stacked.not_endsOperand⟩, waits rfl⟩
    rw [List.map_append, List.map_singleton, places_append, List.singleton_append, below,
      places_cons_of opens]
    rfl
  | @binary _ tokens before tier _ operator stacked lower canonical flattens _ operates ih =>
    have binary := (TokenKind.mem_binaryOperators_iff operator.kind).mpr ⟨tier, operates⟩
    have other := TokenKind.ne_parenthesis (List.mem_append_right _ binary)
    have further := (canonical.derives flattens).balanced.staysOpen.append (stays.cons other.2)
    have below := ih further fun unary => by
      have looser := tier.strength_lt_four
      omega
    have ends := flattens.endsOperand.append ([] ++ tokens.map Token.kind)
    rw [List.map_append, List.map_append, List.map_singleton, places_append, places_append,
      List.singleton_append, below, canonical.places_eq_zero flattens, ← List.append_assoc,
      places_cons_of_not (not_leftOpen_of_endsOperand binary ends)]
    rfl

/-- Where an operand is expected, the stack has a level for each thing that is left open. -/
theorem Stacked.levels_eq (stacked : Stacked frames tokens) :
    levels frames = places LeftOpen [] (tokens.map Token.kind) [] := by
  refine (stacked.places_eq_levels .nil fun _ operand beginning derivation => ?_).symm
  exact derivation.ne_nil (List.prefix_nil.mp beginning)

/-- So it has behind an operand, if that is not the operand of a unary operator. -/
theorem Topped.levels_eq {least : Nat} {operand : Expr}
    (topped : Topped least frames operand tokens) (noUnary : demand frames ≠ 4) :
    levels frames = places LeftOpen [] (tokens.map Token.kind) [] := by
  obtain ⟨stacked, canonical, flattens, _⟩ := topped
  have stays := (canonical.derives flattens).balanced.staysOpen
  rw [List.map_append, places_append, List.append_nil, canonical.places_eq_zero flattens,
    stacked.places_eq_levels stays fun unary => absurd unary noUnary, Nat.add_zero]

theorem Stacked.nest {token : Token} {frame : Frame} (stacked : Stacked frames tokens)
    (opens : Opens token frame) : Stacked (frame :: frames) (tokens ++ [token]) := by
  cases opens with
  | group kind => exact stacked.group kind
  | unary kind => exact stacked.unary kind

theorem Opens.levels_eq {token : Token} {frame : Frame} (opens : Opens token frame) :
    levels (frame :: frames) = levels frames + 1 := by
  cases opens <;> rfl

end Stack

/-! ## Ends of runs -/

section Ends

variable {rule : Rule} {limit : Option Nat} {cursor base bound : Nat} {state : State}
variable {tokens : List Token} {token : Token} {outcome : Outcome}
variable {error : SyntaxError} {tree : Expr}

/-- Behind a tree that is returned the depth is what it was in front of it. -/
theorem Stops.depth_eq_of_ok (stops : Stops rule limit state token outcome)
    (returned : outcome.result = .ok tree) (counted : state.depth = base + levels state.frames) :
    outcome.depth = base := by
  cases stops with
  | complete _ closed => exact depth_close counted closed
  | _ => contradiction

/-- **Behind an error the depth has grown by what the tokens that were walked over leave open.** -/
theorem Stops.exists_walked (stops : Stops rule limit state token outcome)
    (failed : outcome.result = .error error) (reads : Reads state tokens)
    (counted : state.depth = base + levels state.frames) :
    ∃ walked further, tokens ++ [token] = walked ++ further ∧
      outcome.cursor + tokens.length = state.cursor + walked.length ∧
        outcome.depth = base + places LeftOpen [] (walked.map Token.kind) [] := by
  cases stops with
  | operandExpected =>
    cases reads with
    | waiting stacked =>
      refine ⟨tokens, [token], rfl, rfl, ?_⟩
      rw [← stacked.levels_eq]
      exact counted
  | tooDeep opens =>
    cases reads with
    | waiting stacked =>
      -- The token has been read, and its level is counted.
      refine ⟨tokens ++ [token], [], (List.append_nil _).symm, ?_, ?_⟩
      · rw [List.length_append, List.length_singleton, Nat.add_assoc, Nat.add_comm 1]
      · rw [← (stacked.nest opens).levels_eq, opens.levels_eq]
        exact congrArg Nat.succ counted
  | closingExpected _ _ closed =>
    cases reads with
    | holding topped =>
      obtain ⟨within, _⟩ := topped.close (demand_le_four _) (Nat.zero_le 4) closed
      refine ⟨tokens, [token], rfl, rfl, ?_⟩
      rw [← within.levels_eq (Nat.zero_ne_add_one 3)]
      exact depth_close counted closed
  | complete => contradiction

/-- Within a limit the depth stays within it. -/
theorem Reaches.depth_le (reaches : Reaches rule limit ⟨cursor, base, [], none⟩ tokens state)
    (given : bound ∈ limit) (start : base ≤ bound) : state.depth ≤ bound := by
  have within := reaches.peak_le given rfl start
  have counted : state.depth = base + levels state.frames := reaches.depth_eq rfl
  rw [State.peak, peak_eq_max] at within
  omega

/-- **A run passes a limit by one level, and only with the error that says so.** -/
theorem Stops.depth_le (stops : Stops rule limit state token outcome)
    (failed : outcome.result = .error error) (given : bound ∈ limit)
    (within : state.depth ≤ bound) :
    outcome.depth ≤ bound + 1 ∧
      (outcome.depth = bound + 1 ↔ ∃ token limit, error = .tooDeep token limit) := by
  have other (place : Token) (message : String) :
      ¬ ∃ token limit, SyntaxError.atToken place message = .tooDeep token limit := by
    rintro ⟨token, limit, same⟩
    have passed := congrArg SyntaxError.passedLimit same
    contradiction
  cases stops with
  | operandExpected =>
    cases failed
    refine ⟨Nat.le_succ_of_le within, iff_of_false ?_ (other _ _)⟩
    exact Nat.ne_of_lt (Nat.lt_succ_of_le within)
  | @tooDeep _ depth passed _ _ _ _ _ inLimit reached =>
    cases failed
    obtain rfl : passed = bound := Option.mem_unique inLimit given
    have exactly : depth = passed := Nat.le_antisymm within reached
    exact ⟨Nat.succ_le_succ within, iff_of_true (congrArg Nat.succ exactly) ⟨_, _, rfl⟩⟩
  | closingExpected _ _ closed =>
    cases failed
    have inside := Nat.le_trans (depth_close_le closed) within
    refine ⟨Nat.le_succ_of_le inside, iff_of_false ?_ (other _ _)⟩
    exact Nat.ne_of_lt (Nat.lt_succ_of_le inside)
  | complete => contradiction

end Ends

end Machine

/-! ## Rules -/

namespace Parser

open Machine

/-- The kinds of the tokens between the cursors of two parsers. -/
def walked (parser behind : Parser) : List TokenKind :=
  ((parser.tokens.toList.take behind.cursor).drop parser.cursor).map Token.kind

theorem walked_eq {parser behind : Parser} {tokens further : List Token}
    (whole : parser.tokens.toList.drop parser.cursor = tokens ++ further)
    (ended : behind.cursor = parser.cursor + tokens.length) :
    parser.walked behind = tokens.map Token.kind := by
  rw [walked, List.drop_take, whole, ended, Nat.add_sub_cancel_left, List.take_left]

/-- **The depth counts what is left open.** From every parser that operations lead to, a rule that
gives a tree leaves the depth as it was. A rule that fails leaves it higher by the number of
parentheses without a matching one and of unary operators without an operand among the tokens that
were walked over. Where the depth was within the limit it passes it by one level at most, and does
so exactly where the error is that nesting is too deep. -/
theorem readRule_balances_depth {parser : Parser} (reachable : parser.Reachable) (rule : Rule) :
    (∀ tree behind, parser.readRule rule = (.ok tree, behind) → behind.depth = parser.depth) ∧
      ∀ error behind, parser.readRule rule = (.error error, behind) →
        behind.depth = parser.depth + places Unmatched [] (parser.walked behind) [] +
            places AwaitsOperand [] (parser.walked behind) [] ∧
          ∀ bound ∈ parser.limit, parser.depth ≤ bound →
            behind.depth ≤ bound + 1 ∧
              (behind.depth = bound + 1 ↔ ∃ token limit, error = .tooDeep token limit) := by
  obtain ⟨first, token, second, last, whole, reaches, stops⟩ :=
    parser.exists_ruleOutcome rule reachable.cursor_le_length
  have counted : last.depth = parser.depth + levels last.frames := reaches.depth_eq rfl
  cases ended : (parser.ruleOutcome rule).result with
  | ok returned =>
    rw [readRule_of_ok ended]
    refine ⟨?_, fun _ _ read => by cases read⟩
    rintro tree behind ⟨⟩
    exact stops.depth_eq_of_ok ended counted
  | error error =>
    rw [readRule_of_error ended]
    refine ⟨fun _ _ read => (by cases read), ?_⟩
    rintro _ behind ⟨⟩
    have reads : Reads last first := .of_reaches (.waiting .bottom) reaches
    obtain ⟨taken, further, split, stopped, depth⟩ := stops.exists_walked ended reads counted
    have apart : parser.tokens.toList.drop parser.cursor = taken ++ (further ++ second) := by
      rw [whole, ← List.append_assoc, ← split, List.append_assoc, List.singleton_append]
    have moved : (parser.ruleOutcome rule).cursor = parser.cursor + taken.length := by
      have before := reaches.cursor_eq
      simp only at before
      omega
    constructor
    · rw [walked_eq apart moved, Nat.add_assoc, ← places_leftOpen]
      exact depth
    · intro bound given within
      exact stops.depth_le ended given (reaches.depth_le given within)

/-- The text `(-(nil) - !`, which leaves the first parenthesis and the last operator open. -/
def openedWord : List TokenKind :=
  [.leftParen, .minus, .leftParen, .nilWord, .rightParen, .minus, .bang]

/-- A parser in front of that text, behind a rule that failed at the second token. -/
def openedParser : Parser :=
  ((startBehind (.ofKinds (.leftParen :: .semicolon :: openedWord ++ [.semicolon])) (some 4)
    []).operate (.readRule .primary)).operate .advance

theorem readRule_balances_depth_opened :
    (openedParser.Reachable ∧ openedParser.cursor = 2 ∧ openedParser.depth = 1) ∧
      ((openedParser.readRule .expression).2.cursor = 9 ∧
          (openedParser.readRule .expression).2.depth = 3) ∧
        3 = 1 + places Unmatched [] openedWord [] + places AwaitsOperand [] openedWord [] ∧
          (3 ≤ 4 + 1 ∧ (3 = 4 + 1 ↔ ∃ token limit,
            SyntaxError.atToken (.ofKind .semicolon) SyntaxError.operandExpected =
              .tooDeep token limit)) := by
  have reachable : openedParser.Reachable := .operate _ (.operate _ (.start _ _ _))
  obtain ⟨grown, within⟩ := (readRule_balances_depth reachable .expression).2 _ _ rfl
  exact ⟨⟨reachable, rfl, rfl⟩, ⟨rfl, rfl⟩, grown, within 4 rfl (by decide)⟩

end Parser
end Lox
