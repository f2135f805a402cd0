import Lox.Proofs.Parse.Step

/-!
# The tree that was read is written with the tokens that were read

The stack of the machine is a tree that is not complete. `Machine.Stacked` relates its frames to
the tokens that they were read from, and says what makes the tree canonical later: each left
operand is canonical and binds tightly enough for its operator, and each operator stands where
the frames below it let it stand (`Machine.demand`).

Completing constructs keeps the tokens (`Topped.close`) and so does each step
(`Reads.of_takes`). Hence a tree that a run returns is canonical, and the tokens before the cursor
are its tokens (`Stops.canonical`).
-/

set_option autoImplicit false

namespace Lox

/-! ## Strength -/

namespace Expr

theorem strength_binary {tier : Tier} {operator : Token} (kind : operator.kind ∈ tier.operators)
    (left right : Expr) : (binary left operator right).strength = tier.strength := by
  simp [strength, (TokenKind.tier?_eq_some_iff _ _).mpr kind]

end Expr

theorem Tier.strength_lt_four (tier : Tier) : tier.strength < 4 := by
  cases tier <;> decide

theorem Expr.strength_le_four (tree : Expr) : tree.strength ≤ 4 := by
  cases tree with
  | binary left operator right =>
    simp only [Expr.strength]
    cases operator.kind.tier? with
    | none => simp
    | some tier => simpa using Nat.le_of_lt tier.strength_lt_four
  | _ => exact Nat.le_refl 4

namespace Machine

/-! ## Frames and their tokens -/

/-- How tightly an operand on top of the frames has to bind. -/
def demand : List Frame → Nat
  | .unary _ :: _ => 4
  | .binary tier _ _ :: _ => tier.strength + 1
  | _ => 0

theorem demand_le_four (frames : List Frame) : demand frames ≤ 4 := by
  unfold demand
  split
  · exact Nat.le_refl 4
  · next tier _ _ _ => exact tier.strength_lt_four
  · exact Nat.zero_le 4

/-- The tokens that frames were read from. -/
inductive Stacked : List Frame → List Token → Prop
  | bottom : Stacked [] []
  | group {frames : List Frame} {tokens : List Token} {opening : Token} :
      Stacked frames tokens → opening.kind = .leftParen →
        Stacked (.group :: frames) (tokens ++ [opening])
  | unary {frames : List Frame} {tokens : List Token} {operator : Token} :
      Stacked frames tokens → operator.kind ∈ unaryOperators →
        Stacked (.unary operator :: frames) (tokens ++ [operator])
  | binary {frames : List Frame} {tokens before : List Token} {tier : Tier} {left : Expr}
      {operator : Token} :
      Stacked frames tokens → demand frames ≤ tier.strength →
        left.Canonical → left.Flattens before → tier.strength ≤ left.strength →
          operator.kind ∈ tier.operators →
            Stacked (.binary tier left operator :: frames) (tokens ++ before ++ [operator])

/-- The tokens that frames and an operand on top of them were read from, where the operand binds
at least as tightly as given. -/
inductive Topped (least : Nat) (frames : List Frame) (operand : Expr) : List Token → Prop
  | intro {before behind : List Token} :
      Stacked frames before → operand.Canonical → operand.Flattens behind →
        least ≤ operand.strength → Topped least frames operand (before ++ behind)

/-- **Completing constructs keeps the tokens that they were read from.** -/
theorem Topped.close {least strength depth outside : Nat} {frames outer : List Frame}
    {operand tree : Expr} {tokens : List Token} (topped : Topped least frames operand tokens)
    (demanded : demand frames ≤ least) (weaker : strength ≤ least)
    (closed : close strength operand depth frames = (tree, outside, outer)) :
    Topped strength outer tree tokens ∧ demand outer ≤ strength := by
  induction frames generalizing least operand depth tokens with
  | nil =>
    obtain ⟨stacked, canonical, flattens, binds⟩ := topped
    cases closed
    exact ⟨.intro stacked canonical flattens (Nat.le_trans weaker binds), Nat.zero_le _⟩
  | cons frame frames ih =>
    obtain ⟨stacked, canonical, flattens, binds⟩ := topped
    cases stacked with
    | group below kind =>
      cases closed
      exact ⟨.intro (.group below kind) canonical flattens (Nat.le_trans weaker binds),
        Nat.zero_le _⟩
    | unary below kind =>
      have tight : operand.strength = 4 :=
        Nat.le_antisymm operand.strength_le_four (Nat.le_trans demanded binds)
      have completed := Topped.intro below (.unary kind tight canonical) (.unary flattens)
        (Nat.le_refl 4)
      simp only [List.append_assoc, List.singleton_append]
      exact ih completed (demand_le_four frames) (by omega) closed
    | binary below lower left before enough kind =>
      unfold Machine.close at closed
      split at closed
      · next continues =>
        have tighter : _ < operand.strength := Nat.le_trans demanded binds
        have completed := Topped.intro below (.binary kind enough tighter left canonical)
          (.binary before flattens) (Nat.le_of_eq (Expr.strength_binary kind _ _).symm)
        simp only [List.append_assoc, List.singleton_append] at completed ⊢
        exact ih completed lower continues closed
      · next stays =>
        cases closed
        exact ⟨.intro (.binary below lower left before enough kind) canonical flattens
          (Nat.le_trans weaker binds), Nat.lt_of_not_le stays⟩

/-! ## States and their tokens -/

/-- The tokens that a state was read from. -/
inductive Reads : State → List Token → Prop
  /-- An operand is expected on top of the frames. -/
  | waiting {cursor depth : Nat} {frames : List Frame} {tokens : List Token} :
      Stacked frames tokens → Reads ⟨cursor, depth, frames, none⟩ tokens
  /-- An operand without open operators stands on top of the frames. -/
  | holding {cursor depth : Nat} {frames : List Frame} {operand : Expr} {tokens : List Token} :
      Topped 4 frames operand tokens → Reads ⟨cursor, depth, frames, some operand⟩ tokens

namespace Reads

variable {rule : Rule} {limit : Option Nat} {state next : State} {tokens : List Token}

/-- A token that is taken stands behind those that were read. -/
theorem of_takes {token : Token} (reads : Reads state tokens)
    (takes : Takes rule limit state token next) : Reads next (tokens ++ [token]) := by
  cases takes with
  | literal denotes =>
    cases reads with
    | waiting stacked =>
      exact .holding (.intro stacked (.literal _) (.literal denotes) (Nat.le_refl 4))
  | nest opens _ _ =>
    cases reads with
    | waiting stacked =>
      cases opens with
      | group kind => exact .waiting (.group stacked kind)
      | unary kind => exact .waiting (.unary stacked kind)
  | @join _ _ _ _ _ _ _ _ tier kind closed _ =>
    cases reads with
    | holding topped =>
      obtain ⟨⟨stacked, canonical, flattens, binds⟩, lower⟩ :=
        topped.close (demand_le_four _) (Nat.le_of_lt tier.strength_lt_four) closed
      exact .waiting (.binary stacked lower canonical flattens binds kind)
  | closing kind closed =>
    cases reads with
    | holding topped =>
      obtain ⟨⟨stacked, canonical, flattens, _⟩, _⟩ :=
        topped.close (demand_le_four _) (Nat.zero_le 4) closed
      cases stacked with
      | group below opening =>
        have grouped := Topped.intro below (.grouping canonical)
          (.grouping opening flattens kind) (Nat.le_refl 4)
        simpa only [List.append_assoc, List.cons_append, List.nil_append] using
          Reads.holding grouped

theorem of_reaches {further : List Token} (reads : Reads state tokens)
    (reaches : Reaches rule limit state further next) : Reads next (tokens ++ further) := by
  induction reaches generalizing tokens with
  | refl => simpa using reads
  | step takes _ ih => simpa using ih (reads.of_takes takes)

end Reads

/-! ## Ends -/

variable {rule : Rule} {limit : Option Nat} {state : State} {token : Token} {outcome : Outcome}
variable {tree : Expr}

/-- **A tree that is returned is canonical and written with the tokens that were read.** -/
theorem Stops.canonical {tokens : List Token} (stops : Stops rule limit state token outcome)
    (returned : outcome.result = .ok tree) (reads : Reads state tokens) :
    tree.Canonical ∧ tree.Flattens tokens := by
  obtain ⟨operand, _, held, closed, _⟩ := stops.complete_of_ok returned
  cases reads with
  | waiting => contradiction
  | holding topped =>
    cases held
    obtain ⟨⟨stacked, canonical, flattens, _⟩, _⟩ :=
      topped.close (demand_le_four _) (Nat.zero_le 4) closed
    cases stacked
    exact ⟨canonical, flattens⟩

/-- The token behind a tree that is returned is left unread. -/
theorem Stops.cursor_eq (stops : Stops rule limit state token outcome)
    (returned : outcome.result = .ok tree) : outcome.cursor = state.cursor := by
  obtain ⟨_, _, _, _, rfl, _⟩ := stops.complete_of_ok returned
  rfl

/-- The token behind a tree that is returned is no operator that would have continued it. -/
theorem Stops.not_joins (stops : Stops rule limit state token outcome)
    (returned : outcome.result = .ok tree) {tier : Tier} (operator : token.kind ∈ tier.operators) :
    rule.joins tier = false := by
  obtain ⟨_, _, _, _, _, stays⟩ := stops.complete_of_ok returned
  exact stays tier operator

end Machine
end Lox
