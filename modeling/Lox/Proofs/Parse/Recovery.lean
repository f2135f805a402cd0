import Lox.Proofs.Parse.Completeness
import Lox.Proofs.Parse.Cursor

/-!
# Recovery behind an error

Recovery moves the cursor behind the first token that ends a statement
(`Parser.cursor_synchronize_eq`), so it stops at the nearest boundary of statements and changes
nothing else (`Parser.synchronize_stops_at_nearest_boundary`). Reading an expression never walks
over a semicolon, whether it fails or not, and wherever it stops before one, the next token that
ends a statement is that semicolon, as long as no word in between begins a statement.

Hence in a text whose expressions are separated by semicolons an error in one of them does not
reach into the next: recovery leaves the cursor right behind the separator, or at the mark of the
end if there is none (`Parser.recovery_isolates_expressions`).
-/

set_option autoImplicit false

namespace Lox

/-- The first semicolon from an index on, in front of every mark of the end. -/
structure TokenSequence.NextSeparator (tokens : TokenSequence) (start separator : Nat) : Prop where
  start_le : start ≤ separator
  lt_firstEnd : separator < tokens.firstEnd
  kind_eq : (tokens.get separator).kind = .semicolon
  first : ∀ index, start ≤ index → index < separator → (tokens.get index).kind ≠ .semicolon

/-- A token that is no semicolon, in front of one that neither begins a statement nor marks the
end, ends no statement. -/
theorem TokenSequence.not_endsStatement {tokens : TokenSequence} {index : Nat}
    (noSeparator : (tokens.get index).kind ≠ .semicolon)
    (noWord : (tokens.get (index + 1)).kind.startsStatement = false)
    (before : index + 1 < tokens.firstEnd) : ¬ tokens.EndsStatement index := by
  rintro (semicolon | word | isEnd)
  · exact noSeparator semicolon
  · rw [noWord] at word
    contradiction
  · rw [isEnd_get_of_lt_firstEnd before] at isEnd
    contradiction

/-- Statements may be divided in front of the token at an index: the token marks the end or begins a
statement, or the token before it is a semicolon. -/
def TokenSequence.IsBoundary (tokens : TokenSequence) (index : Nat) : Prop :=
  (tokens.get index).isEnd = true ∨
    (∃ before, index = before + 1 ∧ (tokens.get before).kind = .semicolon) ∨
      (tokens.get index).kind ∈ TokenKind.statementWords

theorem TokenKind.startsStatement_iff (kind : TokenKind) :
    kind.startsStatement = true ↔ kind ∈ statementWords :=
  List.contains_iff_mem

/-- A token ends a statement exactly if there is a boundary behind it. -/
theorem TokenSequence.isBoundary_succ_iff (tokens : TokenSequence) (index : Nat) :
    tokens.IsBoundary (index + 1) ↔ tokens.EndsStatement index := by
  unfold IsBoundary EndsStatement
  rw [TokenKind.startsStatement_iff]
  constructor
  · rintro (isEnd | ⟨before, same, semicolon⟩ | word)
    · exact .inr (.inr isEnd)
    · obtain rfl := Nat.succ.inj same
      exact .inl semicolon
    · exact .inr (.inl word)
  · rintro (semicolon | word | isEnd)
    · exact .inr (.inl ⟨index, rfl, semicolon⟩)
    · exact .inr (.inr word)
    · exact .inl isEnd

namespace Parser

variable {parser : Parser}

theorem atEnd_eq_false (before : parser.cursor < parser.tokens.firstEnd) :
    parser.atEnd = false :=
  TokenSequence.isEnd_get_of_lt_firstEnd before

/-! ## Where recovery stops -/

/-- Recovery stops behind the first token that ends a statement. -/
theorem cursor_synchronize_eq {last : Nat} (further : parser.atEnd = false)
    (lower : parser.cursor ≤ last) (ends : parser.tokens.EndsStatement last)
    (first : ∀ index, parser.cursor ≤ index → index < last → ¬ parser.tokens.EndsStatement index) :
    parser.synchronize.cursor = last + 1 := by
  obtain ⟨other, lowerOther, moved, endsOther, firstOther⟩ := exists_synchronize further
  have same : other = last := by
    rcases Nat.lt_trichotomy other last with before | same | behind
    · exact absurd endsOther (first other lowerOther before)
    · exact same
    · exact absurd ends (firstOther last lower behind)
  rw [moved, same]

/-- **Recovery stops at the nearest boundary of statements.** At a mark of the end it does nothing.
Anywhere else it moves the cursor at least one token on, to the first boundary from there, and so
never past the first mark of the end; the depth, the errors and the reports stay as they are. -/
theorem synchronize_stops_at_nearest_boundary (reachable : parser.Reachable) :
    (parser.current.isEnd = true → parser.synchronize = parser) ∧
    (parser.current.isEnd = false → ∃ index, parser.synchronize = { parser with cursor := index } ∧
      parser.cursor < index ∧ index ≤ parser.tokens.firstEnd ∧ parser.tokens.IsBoundary index ∧
        ∀ other, parser.cursor < other → other < index → ¬ parser.tokens.IsBoundary other) := by
  constructor
  · intro isEnd
    exact synchronize_atEnd isEnd
  · intro further
    obtain ⟨last, lower, moved, ends, first⟩ := exists_synchronize further
    have bound := parser.leaves_synchronize.cursor_le reachable.cursor_le_firstEnd
    rw [moved] at bound
    refine ⟨last + 1, moved, Nat.lt_succ_of_le lower, bound,
      (parser.tokens.isBoundary_succ_iff last).mpr ends, ?_⟩
    intro other behind before boundary
    -- There is a token before the other boundary, and it would be passed without ending a
    -- statement.
    obtain ⟨index, rfl⟩ := Nat.exists_eq_succ_of_ne_zero (Nat.ne_zero_of_lt behind)
    exact first index (Nat.le_of_lt_succ behind) (Nat.lt_of_succ_lt_succ before)
      ((parser.tokens.isBoundary_succ_iff index).mp boundary)

/-- A parser of `; while for nil` at the word `while`, where recovery from the start stopped. -/
def wordsParser : Parser :=
  (startBehind (.ofKinds [.semicolon, .whileWord, .forWord, .nilWord]) none []).operate
    (.call .synchronize)

/-- Of two words in a row that begin statements the second is the next boundary. -/
theorem synchronize_stops_at_nearest_boundary_words :
    wordsParser.Reachable ∧ wordsParser.cursor = 1 ∧ wordsParser.current.isEnd = false ∧
      wordsParser.synchronize.cursor = 2 ∧
        ∃ index, wordsParser.synchronize = { wordsParser with cursor := index } ∧
          wordsParser.tokens.IsBoundary index ∧
            ∀ other, 1 < other → other < index → ¬ wordsParser.tokens.IsBoundary other := by
  have reachable : wordsParser.Reachable := .operate _ (.start _ _ _)
  obtain ⟨index, moved, _, _, boundary, nearest⟩ :=
    (synchronize_stops_at_nearest_boundary reachable).2 rfl
  exact ⟨reachable, rfl, rfl, rfl, index, moved, boundary, nearest⟩

/-- From any place in front of a separator recovery moves right behind it. -/
theorem cursor_synchronize_of_separator {separator : Nat}
    (next : parser.tokens.NextSeparator parser.cursor separator)
    (noWord : ∀ index, parser.cursor ≤ index → index ≤ separator →
      (parser.tokens.get index).kind.startsStatement = false) :
    parser.synchronize.cursor = separator + 1 := by
  have before : parser.cursor < parser.tokens.firstEnd :=
    Nat.lt_of_le_of_lt next.start_le next.lt_firstEnd
  refine cursor_synchronize_eq (atEnd_eq_false before) next.start_le (.inl next.kind_eq) ?_
  intro index lower upper
  exact TokenSequence.not_endsStatement (next.first index lower upper)
    (noWord (index + 1) (Nat.le_succ_of_le lower) upper) (Nat.lt_of_le_of_lt upper next.lt_firstEnd)

/-- Where neither a separator nor a word that begins a statement follows, recovery moves to the
first mark of the end. -/
theorem cursor_synchronize_of_no_separator (inside : parser.cursor ≤ parser.tokens.firstEnd)
    (plain : ∀ index, parser.cursor ≤ index → index < parser.tokens.firstEnd →
      (parser.tokens.get index).kind ≠ .semicolon ∧
        (parser.tokens.get index).kind.startsStatement = false) :
    parser.synchronize.cursor = parser.tokens.firstEnd := by
  rcases Nat.eq_or_lt_of_le inside with same | before
  · have atEnd : parser.atEnd = true := by
      rw [atEnd, current, same]
      exact parser.tokens.isEnd_get_firstEnd
    rw [synchronize_atEnd atEnd, same]
  · -- The token in front of the mark of the end is the last one that is skipped.
    obtain ⟨last, position⟩ := Nat.exists_eq_succ_of_ne_zero (Nat.ne_zero_of_lt before)
    rw [position] at before plain ⊢
    have ends : parser.tokens.EndsStatement last := by
      refine .inr (.inr ?_)
      rw [← Nat.succ_eq_add_one, ← position]
      exact parser.tokens.isEnd_get_firstEnd
    refine cursor_synchronize_eq (atEnd_eq_false (position ▸ before)) (Nat.le_of_lt_succ before)
      ends ?_
    intro index lower upper
    exact TokenSequence.not_endsStatement
      (plain index lower (Nat.lt_succ_of_lt upper)).1
      (plain (index + 1) (Nat.le_succ_of_le lower) (Nat.succ_lt_succ upper)).2
      (position ▸ Nat.succ_lt_succ upper)

/-! ## Reading and recovering -/

/-- Reading does not walk over a separator. -/
theorem cursor_parseNext_le_separator {separator : Nat}
    (next : parser.tokens.NextSeparator parser.cursor separator) :
    parser.parseNext.2.cursor ≤ separator := by
  have inside : parser.cursor ≤ parser.tokens.body.length :=
    Nat.le_trans next.start_le (Nat.le_trans (Nat.le_of_lt next.lt_firstEnd)
      parser.tokens.firstEnd_le)
  have foreign : (parser.tokens.get separator).kind ∉ expressionKinds := by
    rw [next.kind_eq]
    decide
  rw [cursor_parseNext, outcome]
  exact cursor_ruleOutcome_le inside next.start_le foreign

/-- **An error in one expression does not reach into the next.** Reading stops in front of the next
separator, and recovery then leaves the cursor right behind it, if no word up to there begins a
statement. If there is neither a separator nor such a word, recovery leaves the cursor at the first
mark of the end. All this holds however reading ends, so in particular if it fails. -/
theorem recovery_isolates_expressions (reachable : parser.Reachable) :
    (∀ separator, parser.tokens.NextSeparator parser.cursor separator →
      (∀ index, parser.cursor ≤ index → index ≤ separator →
        (parser.tokens.get index).kind.startsStatement = false) →
        parser.cursor ≤ parser.parseNext.2.cursor ∧ parser.parseNext.2.cursor ≤ separator ∧
          parser.parseNext.2.synchronize.cursor = separator + 1) ∧
    ((∀ index, parser.cursor ≤ index → index < parser.tokens.firstEnd →
      (parser.tokens.get index).kind ≠ .semicolon ∧
        (parser.tokens.get index).kind.startsStatement = false) →
      parser.parseNext.2.synchronize.cursor = parser.tokens.firstEnd) := by
  have walked := cursor_le_parseNext reachable.cursor_le_length
  have kept := parser.tokens_parseNext
  constructor
  · intro separator next noWord
    have before := cursor_parseNext_le_separator next
    refine ⟨walked, before, cursor_synchronize_of_separator ?_ ?_⟩
    · rw [kept]
      exact ⟨before, next.lt_firstEnd, next.kind_eq, fun index lower =>
        next.first index (Nat.le_trans walked lower)⟩
    · rw [kept]
      exact fun index lower => noWord index (Nat.le_trans walked lower)
  · intro plain
    rw [← kept]
    refine cursor_synchronize_of_no_separator ?_ ?_
    · rw [kept]
      exact parser.leaves_parseNext.cursor_le reachable.cursor_le_firstEnd
    · rw [kept]
      exact fun index lower => plain index (Nat.le_trans walked lower)

/-- The tokens of `(-; nil (` and the mark of the end. -/
def separatedTokens : TokenSequence :=
  .ofKinds [.leftParen, .minus, .semicolon, .nilWord, .leftParen]

/-- The error of nesting past one level stops right at the separator. -/
theorem recovery_isolates_expressions_separated :
    separatedTokens.NextSeparator 0 2 ∧
      (start separatedTokens (some 1)).parseNext.1 = none ∧
        (start separatedTokens (some 1)).parseNext.2.cursor = 2 ∧
          (start separatedTokens (some 1)).parseNext.2.synchronize.cursor = 3 := by
  have noSeparator : ∀ index < 2, (separatedTokens.get index).kind ≠ .semicolon := by decide
  have noWord : ∀ index ≤ 2, (separatedTokens.get index).kind.startsStatement = false := by decide
  have next : separatedTokens.NextSeparator 0 2 :=
    ⟨by decide, by decide, rfl, fun index _ => noSeparator index⟩
  have isolated := recovery_isolates_expressions (.start separatedTokens (some 1) [])
  exact ⟨next, rfl, rfl, (isolated.1 2 next fun index _ => noWord index).2.2⟩

end Parser
end Lox
