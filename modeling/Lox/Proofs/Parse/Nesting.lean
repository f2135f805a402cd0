import Lox.Proofs.Parse.Step

/-!
# Levels of nesting

The depth of the machine is the number of levels of nesting that its frames have begun
(`Reaches.depth_eq`). The tree that the frames will be completed to is nested at least as deeply
as they are now (`State.peak`). Only a token that begins a level can raise that bound, and it
raises it to the depth at most, so a limit on the depth limits the nesting of the tree
(`Reaches.peak_le`).
-/

set_option autoImplicit false

namespace Lox.Machine

/-- The number of levels of nesting that frames have begun. -/
def levels : List Frame → Nat
  | [] => 0
  | .binary .. :: frames => levels frames
  | _ :: frames => levels frames + 1

/-- The nesting of the tree to which frames are completed with an operand of the given nesting. -/
def peak (nesting : Nat) : List Frame → Nat
  | [] => nesting
  | .binary _ left _ :: frames => peak (max left.nesting nesting) frames
  | _ :: frames => peak (nesting + 1) frames

/-- The nesting of the tree to which the frames of a state are completed, with a literal where an
operand is still expected. -/
def State.peak (state : State) : Nat :=
  Machine.peak (state.operand.elim 0 Expr.nesting) state.frames

/-! ## Completing constructs -/

section Close

variable {strength depth outside : Nat} {operand tree : Expr} {frames outer : List Frame}

/-- What completing one construct keeps, completing constructs keeps. -/
theorem close_keeps {motive : Expr → Nat → List Frame → Prop}
    (unary : ∀ operand depth operator frames, motive operand depth (.unary operator :: frames) →
      motive (.unary operator operand) (depth - 1) frames)
    (binary : ∀ operand depth tier left operator frames,
      motive operand depth (.binary tier left operator :: frames) →
        motive (.binary left operator operand) depth frames)
    (closed : close strength operand depth frames = (tree, outside, outer))
    (kept : motive operand depth frames) : motive tree outside outer := by
  induction frames generalizing operand depth with
  | nil =>
    cases closed
    exact kept
  | cons frame frames ih =>
    cases frame with
    | group =>
      cases closed
      exact kept
    | unary operator => exact ih closed (unary _ _ _ _ kept)
    | binary tier left operator =>
      unfold close at closed
      split at closed
      · exact ih closed (binary _ _ _ _ _ _ kept)
      · cases closed
        exact kept

/-- Completing constructs takes their levels off the depth. -/
theorem depth_close {base : Nat} (counted : depth = base + levels frames)
    (closed : close strength operand depth frames = (tree, outside, outer)) :
    outside = base + levels outer := by
  refine close_keeps (motive := fun _ depth frames => depth = base + levels frames) ?_ ?_ closed
    counted
  · intro _ depth operator frames counted
    simp only [levels] at counted
    omega
  · intro _ _ _ _ _ _ counted
    exact counted

/-- Completing constructs never raises the depth. -/
theorem depth_close_le (closed : close strength operand depth frames = (tree, outside, outer)) :
    outside ≤ depth := by
  refine close_keeps (motive := fun _ inside _ => inside ≤ depth) ?_ ?_ closed (Nat.le_refl depth)
  · intro _ inside _ _ below
    exact Nat.le_trans (Nat.sub_le inside 1) below
  · intro _ _ _ _ _ _ below
    exact below

/-- Completing constructs does not change the nesting of the whole. -/
theorem peak_close (closed : close strength operand depth frames = (tree, outside, outer)) :
    peak tree.nesting outer = peak operand.nesting frames := by
  refine close_keeps (motive := fun inner _ above => peak inner.nesting above = _) ?_ ?_ closed rfl
  · intro _ _ _ _ whole
    exact whole
  · intro _ _ _ _ _ _ whole
    exact whole

end Close

/-- The nesting of the whole comes from the operand under all the levels, or from elsewhere. -/
theorem peak_eq_max (nesting : Nat) (frames : List Frame) :
    peak nesting frames = max (nesting + levels frames) (peak 0 frames) := by
  induction frames generalizing nesting with
  | nil => simp [peak, levels]
  | cons frame frames ih =>
    cases frame with
    | group | unary =>
      simp only [peak, levels]
      rw [ih (nesting + 1), ih (0 + 1)]
      omega
    | binary tier left operator =>
      simp only [peak, levels]
      rw [ih (max left.nesting nesting), ih (max left.nesting 0)]
      omega

/-! ## Steps and runs -/

variable {rule : Rule} {limit : Option Nat} {base : Nat} {state next : State}

/-- A step keeps the count of the levels that have begun. -/
theorem Takes.depth_eq {token : Token} (takes : Takes rule limit state token next)
    (counted : state.depth = base + levels state.frames) :
    next.depth = base + levels next.frames := by
  cases takes with
  | literal => exact counted
  | nest opens => cases opens <;> (simp only [levels] at counted ⊢; omega)
  | join _ closed _ =>
    have outside := depth_close counted closed
    exact outside
  | closing _ closed =>
    have inside := depth_close counted closed
    simp only [levels] at inside ⊢
    omega

/-- A step within the limit keeps the nesting of the whole within it. -/
theorem Takes.peak_le {bound : Nat} {token : Token} (takes : Takes rule limit state token next)
    (given : bound ∈ limit) (counted : state.depth = base + levels state.frames)
    (within : base + state.peak ≤ bound) : base + next.peak ≤ bound := by
  cases takes with
  | literal => exact within
  | @nest _ depth frames _ _ opens _ below =>
    have deeper : base + Machine.peak 1 frames ≤ bound := by
      have room : depth < bound := below bound given
      have before : base + Machine.peak 0 frames ≤ bound := within
      simp only at counted
      rw [peak_eq_max]
      omega
    cases opens <;> exact deeper
  | join _ closed _ =>
    have whole := peak_close closed
    simpa only [State.peak, Option.elim, peak, Nat.max_zero, whole] using within
  | closing _ closed =>
    have whole := congrArg (base + ·) (peak_close closed)
    exact Nat.le_trans (Nat.le_of_eq whole) within

/-- **The depth counts the levels of nesting that have begun.** -/
theorem Reaches.depth_eq {tokens : List Token} (reaches : Reaches rule limit state tokens next)
    (counted : state.depth = base + levels state.frames) :
    next.depth = base + levels next.frames := by
  induction reaches with
  | refl => exact counted
  | step takes _ ih => exact ih (takes.depth_eq counted)

theorem Reaches.peak_le {bound : Nat} {tokens : List Token}
    (reaches : Reaches rule limit state tokens next) (given : bound ∈ limit)
    (counted : state.depth = base + levels state.frames) (within : base + state.peak ≤ bound) :
    base + next.peak ≤ bound := by
  induction reaches with
  | refl => exact within
  | step takes _ ih => exact ih (takes.depth_eq counted) (takes.peak_le given counted within)

/-- **A limit on the depth limits the nesting of the tree.** -/
theorem Stops.nesting_le {cursor bound : Nat} {tokens : List Token} {token : Token} {tree : Expr}
    {outcome : Outcome} (reaches : Reaches rule limit ⟨cursor, base, [], none⟩ tokens state)
    (stops : Stops rule limit state token outcome) (returned : outcome.result = .ok tree)
    (given : bound ∈ limit) (start : base ≤ bound) : base + tree.nesting ≤ bound := by
  have within := reaches.peak_le given rfl start
  obtain ⟨operand, _, held, closed, _⟩ := stops.complete_of_ok returned
  have whole : tree.nesting = peak operand.nesting state.frames := peak_close closed
  rw [whole]
  simpa only [State.peak, held, Option.elim] using within

end Lox.Machine
