import Lox.Proofs.Parse.Nesting
import Lox.Proofs.Parse.Session
import Lox.Proofs.Parse.Soundness

/-!
# Every canonical tree is read back

The machine completes a construct only when it sees a token that does not continue it, so behind
the last token of a tree some of its constructs are still frames. What is true there is that
completing them gives what completing the tree itself would give, at every strength up to that of
the tree (`State.Carries`). With that, a canonical tree is read from its tokens on top of any
frames that let it stand there (`readsBack_of_canonical`).

Together with soundness this says exactly when reading returns a tree and where it stops
(`Parser.parse_eq_some_iff`).
-/

set_option autoImplicit false

namespace Lox

namespace Machine

/-- Completing the constructs of a state gives what completing a tree on top of frames gives. -/
def State.Carries (state : State) (tree : Expr) (depth : Nat) (frames : List Frame) : Prop :=
  ∃ operand, state.operand = some operand ∧ ∀ strength ≤ tree.strength,
    close strength operand state.depth state.frames = close strength tree depth frames

/-- Frames below an operator that binds tighter than they demand are not completed. -/
theorem close_of_demand_le {strength : Nat} {frames : List Frame}
    (demanded : demand frames ≤ strength) (binary : strength < 4) (operand : Expr) (depth : Nat) :
    close strength operand depth frames = (operand, depth, frames) := by
  cases frames with
  | nil => rfl
  | cons frame frames =>
    cases frame with
    | group => rfl
    | unary operator =>
      simp only [demand] at demanded
      omega
    | binary tier left operator =>
      simp only [demand] at demanded
      rw [close, if_neg (by omega)]

theorem allows_expression (frames : List Frame) (frame : Frame) :
    Allows .expression frames frame := by
  cases frame with
  | unary operator => exact .inl (by decide)
  | _ => trivial

/-- The machine reads a tree from some tokens, on top of any frames that let it stand there and as
far as the limit lets it be nested. -/
def ReadsBack (limit : Option Nat) (tree : Expr) (tokens : List Token) : Prop :=
  ∀ cursor depth frames, demand frames ≤ tree.strength →
    (∀ bound ∈ limit, depth + tree.nesting ≤ bound) →
      ∃ last, Reaches .expression limit ⟨cursor, depth, frames, none⟩ tokens last ∧
        last.Carries tree depth frames

namespace ReadsBack

variable {limit : Option Nat} {tokens : List Token}

theorem literal {token : Token} {value : Value} (denotes : token.Denotes value) :
    ReadsBack limit (.literal value) [token] := by
  intro cursor depth frames _ _
  exact ⟨_, .single (.literal denotes), _, rfl, fun _ _ => rfl⟩

/-- A construct that begins a level is read with what stands in it, one level deeper. -/
theorem nest {token : Token} {frame : Frame} {inner : Expr} (opens : Opens token frame)
    (readsBack : ReadsBack limit inner tokens) (cursor depth : Nat) (frames : List Frame)
    (fits : demand (frame :: frames) ≤ inner.strength)
    (within : ∀ bound ∈ limit, depth + (inner.nesting + 1) ≤ bound) :
    ∃ last, Reaches .expression limit ⟨cursor, depth, frames, none⟩ (token :: tokens) last ∧
      last.Carries inner (depth + 1) (frame :: frames) := by
  have room : ∀ bound ∈ limit, depth + 1 + inner.nesting ≤ bound := by
    intro bound given
    have := within bound given
    omega
  have first : Takes .expression limit ⟨cursor, depth, frames, none⟩ token
      ⟨cursor + 1, depth + 1, frame :: frames, none⟩ :=
    .nest opens (allows_expression frames frame) fun bound given => by
      have := room bound given
      omega
  obtain ⟨last, reaches, carries⟩ := readsBack (cursor + 1) (depth + 1) (frame :: frames) fits room
  exact ⟨last, .step first reaches, carries⟩

theorem grouping {opening closing : Token} {inner : Expr} (opened : opening.kind = .leftParen)
    (readsBack : ReadsBack limit inner tokens) (closed : closing.kind = .rightParen) :
    ReadsBack limit (.grouping inner) (opening :: tokens ++ [closing]) := by
  intro cursor depth frames _ within
  obtain ⟨⟨read, deep, above, held⟩, reaches, operand, rfl, carried⟩ :=
    readsBack.nest (.group opened) cursor depth frames (Nat.zero_le _) within
  have last : Takes .expression limit ⟨read, deep, above, some operand⟩ closing
      ⟨read + 1, depth, frames, some (.grouping inner)⟩ :=
    .closing closed (carried 0 (Nat.zero_le _))
  exact ⟨_, reaches.append (.single last), _, rfl, fun _ _ => rfl⟩

theorem unary {operator : Token} {operand : Expr} (kind : operator.kind ∈ unaryOperators)
    (tight : operand.strength = 4) (readsBack : ReadsBack limit operand tokens) :
    ReadsBack limit (.unary operator operand) (operator :: tokens) := by
  intro cursor depth frames _ within
  obtain ⟨last, reaches, held, holds, carried⟩ :=
    readsBack.nest (.unary kind) cursor depth frames (Nat.le_of_eq tight.symm) within
  -- The operator is still a frame, and every strength completes it.
  refine ⟨last, reaches, held, holds, fun strength weaker => ?_⟩
  exact carried strength (Nat.le_trans weaker (Nat.le_of_eq tight.symm))

theorem binary {operator : Token} {left right : Expr} {tier : Tier} {before behind : List Token}
    (kind : operator.kind ∈ tier.operators) (enough : tier.strength ≤ left.strength)
    (tighter : tier.strength < right.strength) (leftReadsBack : ReadsBack limit left before)
    (rightReadsBack : ReadsBack limit right behind) :
    ReadsBack limit (.binary left operator right) (before ++ operator :: behind) := by
  intro cursor depth frames fits within
  rw [Expr.strength_binary kind] at fits
  have room : ∀ bound ∈ limit, depth + left.nesting ≤ bound ∧ depth + right.nesting ≤ bound := by
    intro bound given
    have := within bound given
    simp only [Expr.nesting] at this
    omega
  obtain ⟨⟨read, deep, above, held⟩, toLeft, operand, rfl, leftCarried⟩ :=
    leftReadsBack cursor depth frames (Nat.le_trans fits enough) fun bound given =>
      (room bound given).1
  have completed : close tier.strength operand deep above = (left, depth, frames) :=
    (leftCarried tier.strength enough).trans
      (close_of_demand_le fits tier.strength_lt_four left depth)
  have joined : Takes .expression limit ⟨read, deep, above, some operand⟩ operator
      ⟨read + 1, depth, .binary tier left operator :: frames, none⟩ :=
    .join kind completed fun _ => rfl
  obtain ⟨last, toRight, held, holds, rightCarried⟩ :=
    rightReadsBack (read + 1) depth (.binary tier left operator :: frames) tighter
      fun bound given => (room bound given).2
  refine ⟨last, toLeft.append (.step joined toRight), held, holds, ?_⟩
  intro strength weaker
  rw [Expr.strength_binary kind] at weaker
  rw [rightCarried strength (by omega), close, if_pos weaker]

end ReadsBack

/-- **The machine reads a canonical tree from its tokens.** -/
theorem readsBack_of_canonical {limit : Option Nat} {tree : Expr} {tokens : List Token}
    (canonical : tree.Canonical) (flattens : tree.Flattens tokens) :
    ReadsBack limit tree tokens := by
  induction canonical generalizing tokens with
  | literal value =>
    cases flattens with
    | literal denotes => exact .literal denotes
  | grouping _ ih =>
    cases flattens with
    | grouping opened flattens closed => exact .grouping opened (ih flattens) closed
  | unary kind tight _ ih =>
    cases flattens with
    | unary flattens => exact .unary kind tight (ih flattens)
  | binary kind enough tighter _ _ left right =>
    cases flattens with
    | binary before behind => exact .binary kind enough tighter (left before) (right behind)

/-- A state that carries a tree on top of nothing returns it at a token that continues nothing. -/
theorem State.Carries.stops {limit : Option Nat} {tree : Expr} {state : State} {token : Token}
    (carries : state.Carries tree 0 []) (kind : token.kind ∉ binaryOperators) :
    Stops .expression limit state token ⟨.ok tree, state.cursor, 0⟩ := by
  obtain ⟨cursor, depth, frames, held⟩ := state
  obtain ⟨operand, rfl, carried⟩ := carries
  refine .complete (fun tier operator => ?_) (carried 0 (Nat.zero_le _))
  exact absurd ((token.kind.mem_binaryOperators_iff).mpr ⟨tier, operator⟩) kind

end Machine

/-- No token of a canonical tree marks the end. -/
theorem Expr.Canonical.kind_ne_endOfInput {tree : Expr} (canonical : tree.Canonical)
    {tokens : List Token} (flattens : tree.Flattens tokens) :
    ∀ token ∈ tokens, token.kind ≠ .endOfInput := by
  induction canonical generalizing tokens with
  | literal value =>
    cases flattens with
    | literal denotes =>
      intro token member same
      obtain rfl := List.mem_singleton.mp member
      have kind := denotes.kind_mem
      simp [same, literalKinds] at kind
  | grouping _ ih =>
    cases flattens with
    | grouping opened flattens closed =>
      intro token member
      simp only [List.cons_append, List.mem_cons, List.mem_append, List.not_mem_nil, or_false]
        at member
      rcases member with rfl | member | rfl
      · simp [opened]
      · exact ih flattens token member
      · simp [closed]
  | unary kind _ _ ih =>
    cases flattens with
    | unary flattens =>
      intro token member
      rcases List.mem_cons.mp member with rfl | member
      · rintro same
        simp [same, unaryOperators] at kind
      · exact ih flattens token member
  | @binary tier _ _ _ kind _ _ _ _ left right =>
    cases flattens with
    | binary before behind =>
      intro token member
      rcases List.mem_append.mp member with member | member
      · exact left before token member
      · rcases List.mem_cons.mp member with rfl | member
        · rintro same
          rw [same] at kind
          cases tier <;> simp [Tier.operators] at kind
        · exact right behind token member

/-- A token of a kind, without text. -/
def Token.ofKind (kind : TokenKind) : Token := ⟨kind, "", .nil, ⟨"", 1, 1, 0⟩⟩

/-- Tokens of some kinds and the mark of the end. -/
def TokenSequence.ofKinds (kinds : List TokenKind) : TokenSequence where
  body := kinds.map Token.ofKind
  stop := .ofKind .endOfInput
  stop_isEnd := rfl

/-- The tokens of a canonical tree stand before the mark of the end. -/
theorem TokenSequence.le_length_body {tokens : TokenSequence} {tree : Expr} {cursor : Nat}
    (canonical : tree.Canonical) (flattens : tree.Flattens (tokens.toList.take cursor)) :
    cursor ≤ tokens.body.length := by
  refine Nat.le_of_lt_succ (Nat.lt_of_not_le fun past => ?_)
  rw [List.take_of_length_le (by rw [tokens.length_toList]; exact past)] at flattens
  have stop : tokens.stop.kind = .endOfInput := Token.isEnd_iff.mp tokens.stop_isEnd
  exact canonical.kind_ne_endOfInput flattens tokens.stop (by simp [toList]) stop

namespace Parser

open Machine

/-- **Reading returns a tree exactly if the tree is canonical and within the limit, the tokens
before the cursor are its tokens, and the next one is no binary operator.** -/
theorem parse_eq_some_iff (tokens : TokenSequence) (limit : Option Nat) (tree : Expr)
    (cursor : Nat) :
    ((start tokens limit).parse.1 = some tree ∧ (start tokens limit).parse.2.cursor = cursor) ↔
      (tree.Canonical ∧ ∀ bound ∈ limit, tree.nesting ≤ bound) ∧
        tree.Flattens (tokens.toList.take cursor) ∧
          (tokens.get cursor).kind ∉ binaryOperators := by
  constructor
  · rintro ⟨returned, rfl⟩
    obtain ⟨first, token, second, last, whole, reaches, stops⟩ := exists_outcome tokens limit
    cases ended : (start tokens limit).outcome.result with
    | error error => simp [parse_start_of_error tokens limit ended] at returned
    | ok result =>
      rw [parse_start_of_ok tokens limit ended] at returned ⊢
      obtain rfl : result = tree := Option.some.inj returned
      have cursor : (start tokens limit).outcome.cursor = first.length := by
        rw [stops.cursor_eq ended, reaches.cursor_eq]
        exact Nat.zero_add _
      have sound := stops.canonical ended (Reads.of_reaches (.waiting .bottom) reaches)
      refine ⟨⟨sound.1, fun bound given => ?_⟩, ?_, ?_⟩
      · have nested := stops.nesting_le reaches ended given (Nat.zero_le bound)
        rwa [Nat.zero_add] at nested
      · simp only [behind, cursor, whole, List.take_left]
        exact sound.2
      · simp only [behind, cursor, TokenSequence.get_of_toList_eq whole]
        intro operator
        obtain ⟨tier, operator⟩ := (token.kind.mem_binaryOperators_iff).mp operator
        exact absurd (stops.not_joins ended operator) (by simp [Rule.joins])
  · rintro ⟨⟨canonical, within⟩, flattens, kind⟩
    have inside := TokenSequence.le_length_body canonical flattens
    obtain ⟨second, whole⟩ := tokens.exists_toList_eq inside
    obtain ⟨last, reaches, carries⟩ :=
      readsBack_of_canonical canonical flattens 0 0 [] (Nat.zero_le _) fun bound given => by
        rw [Nat.zero_add]
        exact within bound given
    have ended := outcome_eq whole reaches (carries.stops kind)
    have read : last.cursor = cursor := by
      rw [reaches.cursor_eq, List.length_take, tokens.length_toList]
      change 0 + min cursor (tokens.body.length + 1) = cursor
      omega
    rw [parse_start_of_ok tokens limit (congrArg Outcome.result ended), ended]
    exact ⟨rfl, read⟩

/-- **Parsing undoes flattening on canonical trees, and flattening undoes parsing.** A tree that
is returned, whatever the limit, is canonical and written with the tokens before the cursor. A
canonical tree is returned from its tokens when a mark of the end stands behind them. -/
theorem parse_undoes_flattening (tokens : TokenSequence) :
    (∀ (limit : Option Nat) (tree : Expr) (behind : Parser),
      (start tokens limit).parse = (some tree, behind) →
        tree.Canonical ∧ behind.cursor ≤ tokens.body.length ∧
          tree.Flattens (tokens.toList.take behind.cursor)) ∧
      ∀ (tree : Expr) (written further : List Token) (stop : Token),
        tree.Canonical → tree.Flattens written → stop.isEnd = true →
          tokens.toList = written ++ stop :: further →
            ∃ behind, (start tokens none).parse = (some tree, behind) ∧
              behind.cursor = written.length := by
  constructor
  · intro limit tree behind parsed
    obtain ⟨⟨canonical, _⟩, flattens, _⟩ :=
      (parse_eq_some_iff tokens limit tree behind.cursor).mp (by simp [parsed])
    exact ⟨canonical, TokenSequence.le_length_body canonical flattens, flattens⟩
  · intro tree written further stop canonical flattens isEnd whole
    have kind : stop.kind = .endOfInput := Token.isEnd_iff.mp isEnd
    have parsed := (parse_eq_some_iff tokens none tree written.length).mpr
      ⟨⟨canonical, forall_mem_none _⟩, by rwa [whole, List.take_left],
        by simp [TokenSequence.get_of_toList_eq whole, kind, binaryOperators]⟩
    exact ⟨_, Prod.ext parsed.1 rfl, parsed.2⟩

/-! ## A canonical tree and its tokens -/

/-- The tree of `-nil == (true)`. -/
def equalityTree : Expr :=
  .binary (.unary (.ofKind .minus) (.literal .nil)) (.ofKind .equalEqual)
    (.grouping (.literal (.truth true)))

/-- The tokens of `-nil == (true)` and the mark of the end. -/
def equalityTokens : TokenSequence :=
  .ofKinds [.minus, .nilWord, .equalEqual, .leftParen, .trueWord, .rightParen]

theorem equalityTree_canonical : equalityTree.Canonical :=
  .binary (show _ ∈ Tier.equality.operators by decide) (by decide) (by decide)
    (.unary (by decide) rfl (.literal _)) (.grouping (.literal _))

theorem equalityTree_flattens : equalityTree.Flattens equalityTokens.body := by
  have left : Expr.Flattens (.unary (.ofKind .minus) (.literal .nil))
      [.ofKind .minus, .ofKind .nilWord] :=
    .unary (.literal (.absent rfl))
  have right : Expr.Flattens (.grouping (.literal (.truth true)))
      [.ofKind .leftParen, .ofKind .trueWord, .ofKind .rightParen] :=
    .grouping rfl (.literal (.truth rfl)) rfl
  exact .binary left right

theorem parse_undoes_flattening_equality :
    (equalityTree.Canonical ∧ equalityTree.Flattens equalityTokens.body) ∧
      (∃ behind, (start equalityTokens none).parse = (some equalityTree, behind) ∧
        behind.cursor = 6) ∧
      (start equalityTokens (some 1)).parse =
          (some equalityTree, ⟨equalityTokens, some 1, 6, 0, [], []⟩) ∧
        equalityTree.Flattens (equalityTokens.toList.take 6) :=
  ⟨⟨equalityTree_canonical, equalityTree_flattens⟩,
    (parse_undoes_flattening equalityTokens).2 equalityTree equalityTokens.body []
      equalityTokens.stop equalityTree_canonical equalityTree_flattens rfl rfl,
    rfl, ((parse_undoes_flattening equalityTokens).1 (some 1) equalityTree _ rfl).2.2⟩

end Parser
end Lox
