import Lox.Proofs.Scan.Events

/-!
# Texts written from lexemes

A text is written from lexemes by putting trivia between them that begins with a blank. It does not
matter what trivia that is: scanning skips it as a whole (`skipTriviaFrom_append`) and finds each
lexeme as it is, since nothing continues a lexeme in front of a blank (`Cursor.next?_of_spells`). So
a scan of such a text finds exactly the lexemes, and no error (`Scan.ofText_reads_back`).
-/

set_option autoImplicit false

namespace Lox

open Lexeme

/-! ## Spaced lexemes -/

/-- What follows a lexeme: further lexemes, each behind trivia that begins with a blank. -/
inductive Spaced : List String → List Char → Prop
  | finish {gap : List Char} : IsFinalTrivia gap → Separates gap → Spaced [] gap
  | lexeme {gap rest : List Char} {lexeme : String} {lexemes : List String} :
      IsTrivia gap → gap ≠ [] → Separates gap → IsLexeme lexeme.toList → Spaced lexemes rest →
        Spaced (lexeme :: lexemes) (gap ++ lexeme.toList ++ rest)

/-- A text that is written from lexemes. In front of the first one there may be any trivia. -/
inductive WrittenFrom : List String → List Char → Prop
  | nothing {gap : List Char} : IsFinalTrivia gap → WrittenFrom [] gap
  | lexemes {gap rest : List Char} {lexeme : String} {lexemes : List String} :
      IsTrivia gap → IsLexeme lexeme.toList → Spaced lexemes rest →
        WrittenFrom (lexeme :: lexemes) (gap ++ lexeme.toList ++ rest)

variable {gap text rest : List Char} {lexemes : List String}

/-- What follows a lexeme does not continue it. -/
theorem Spaced.separates (spaced : Spaced lexemes rest) : Separates rest := by
  cases spaced with
  | finish _ separates => exact separates
  | lexeme _ filled separates =>
    obtain ⟨c, behind, rfl⟩ := List.exists_cons_of_ne_nil filled
    exact separates

/-- Lexemes with a space in front of each follow a lexeme. -/
theorem spaced_flatMap (all : ∀ lexeme ∈ lexemes, IsLexeme lexeme.toList) :
    Spaced lexemes (lexemes.flatMap fun lexeme => [' '] ++ lexeme.toList) := by
  induction lexemes with
  | nil => exact .finish (.ended .nil) .nil
  | cons lexeme lexemes ih =>
    obtain ⟨first, others⟩ := List.forall_mem_cons.mp all
    have space : Separates [' '] := by simp [Separates, Text.isBlank_space]
    exact .lexeme (.blank Text.isBlank_space .nil) (List.cons_ne_nil _ _) space first (ih others)

theorem toList_intercalate_cons (separator lexeme : String) (lexemes : List String) :
    (separator.intercalate (lexeme :: lexemes)).toList =
      lexeme.toList ++ lexemes.flatMap fun lexeme => separator.toList ++ lexeme.toList := by
  rw [String.toList_intercalate]
  induction lexemes generalizing lexeme with
  | nil => simp
  | cons next lexemes ih =>
    rw [List.map_cons, List.map_cons, List.intercalate_cons_cons, ← List.map_cons, ih,
      List.flatMap_cons, List.append_assoc, List.append_assoc]

/-- Lexemes that are joined by spaces are a text that is written from them. -/
theorem writtenFrom_intercalate (all : ∀ lexeme ∈ lexemes, IsLexeme lexeme.toList) :
    WrittenFrom lexemes (" ".intercalate lexemes).toList := by
  cases lexemes with
  | nil => exact .nothing (.ended .nil)
  | cons lexeme lexemes =>
    obtain ⟨first, others⟩ := List.forall_mem_cons.mp all
    rw [toList_intercalate_cons]
    exact .lexemes .nil first (spaced_flatMap others)

/-! ## Skipping trivia -/

/-- Trivia is skipped as a whole. -/
theorem skipTriviaFrom_append (trivia : IsTrivia gap) (position : Position) (rest : List Char) :
    skipTriviaFrom false position (gap ++ rest) =
      skipTriviaFrom false (position.after gap) rest := by
  induction trivia generalizing position with
  | nil => rfl
  | blank blank _ ih =>
    rw [List.cons_append, skipTriviaFrom, if_neg Bool.false_ne_true, if_pos blank, ih,
      Position.after_cons]
  | @comment inside behind unended _ ih =>
    have whole : '/' :: '/' :: inside ++ '\n' :: behind ++ rest =
        '/' :: '/' :: (inside ++ '\n' :: (behind ++ rest)) := by simp
    rw [whole, skipTriviaFrom_slashes, skipTriviaFrom_line _ unended, ih, ← Position.after_append,
      ← Position.after_append]
    simp

/-- Trivia at the end is skipped to the end. -/
theorem skipTriviaFrom_final (trivia : IsFinalTrivia gap) (position : Position) :
    skipTriviaFrom false position gap = ⟨position.after gap, []⟩ := by
  cases trivia with
  | ended trivia =>
    have skipped := skipTriviaFrom_append trivia position []
    rwa [List.append_nil] at skipped
  | @unended before comment trivia unended =>
    rw [skipTriviaFrom_append trivia, skipTriviaFrom_slashes, skipTriviaFrom_unended _ unended,
      ← Position.after_append, ← Position.after_append]
    simp

/-! ## Lexemes that stand behind trivia -/

/-- In front of a lexeme that nothing continues there is no trivia. -/
theorem skipTriviaFrom_lexeme (isLexeme : IsLexeme text) (separates : Separates rest)
    (position : Position) :
    skipTriviaFrom false position (text ++ rest) = ⟨position, text ++ rest⟩ := by
  cases text with
  | nil =>
    obtain ⟨_, _, spells⟩ := isLexeme
    exact absurd rfl spells.ne_nil
  | cons c tail =>
    have visible : ¬ Text.isBlank c = true := by simp [isLexeme.isBlank_eq_false]
    have noComment : ¬ (c = '/' && (tail ++ rest).head? == some '/') = true := by
      simp only [Bool.and_eq_true, decide_eq_true_eq, beq_iff_eq, not_and]
      rintro rfl second
      obtain rfl := isLexeme.eq_nil_of_slash
      have blank := separates '/' second
      contradiction
    rw [List.cons_append, skipTriviaFrom, if_neg Bool.false_ne_true, if_neg visible,
      if_neg noComment]

namespace Cursor

variable {file : String} {kind : TokenKind} {value : Value}

/-- A lexeme that nothing continues is found as it is. -/
theorem next?_of_spells (spells : Spells kind value text) (separates : Separates rest)
    (file : String) (position : Position) :
    next? file ⟨position, text ++ rest⟩ =
      some (.token ⟨kind, String.ofList text, value, position.inFile file⟩,
        ⟨position.after text, rest⟩) := by
  obtain ⟨c, tail, rfl⟩ := List.exists_cons_of_ne_nil spells.ne_nil
  simp only [next?, List.cons_append, front_of_spells spells separates]
  rfl

/-- Behind trivia a lexeme that nothing continues is found first. -/
theorem exists_scan_eq_cons {lexeme : String} (trivia : IsTrivia gap)
    (isLexeme : IsLexeme lexeme.toList) (separates : Separates rest) (file : String)
    (position : Position) :
    ∃ token behind, token.lexeme = lexeme ∧
      (scan file ⟨position, gap ++ lexeme.toList ++ rest⟩).1 =
        .token token :: (scan file ⟨behind, rest⟩).1 := by
  have skipped : skipTrivia ⟨position, gap ++ lexeme.toList ++ rest⟩ =
      ⟨position.after gap, lexeme.toList ++ rest⟩ := by
    rw [skipTrivia, List.append_assoc, skipTriviaFrom_append trivia]
    exact skipTriviaFrom_lexeme isLexeme separates _
  obtain ⟨kind, value, spells⟩ := isLexeme
  have found := next?_of_spells spells separates file (position.after gap)
  rw [← skipped] at found
  rw [scan_of_some found]
  exact ⟨_, _, String.ofList_toList, rfl⟩

/-- In trivia at the end nothing is found. -/
theorem scan_of_final (trivia : IsFinalTrivia gap) (file : String) (position : Position) :
    (scan file ⟨position, gap⟩).1 = [] := by
  rw [scan_of_none]
  rw [skipTrivia, skipTriviaFrom_final trivia]
  rfl

/-- All that a scan finds is tokens, and these are their lexemes. -/
def FindsTokens (file : String) (cursor : Cursor) (lexemes : List String) : Prop :=
  ∃ tokens : List Token, (cursor.scan file).1 = tokens.map .token ∧
    tokens.map Token.lexeme = lexemes

theorem FindsTokens.cons {behind : Position} (finds : FindsTokens file ⟨behind, rest⟩ lexemes)
    {cursor : Cursor} {token : Token}
    (found : (cursor.scan file).1 = .token token :: (scan file ⟨behind, rest⟩).1) :
    FindsTokens file cursor (token.lexeme :: lexemes) := by
  obtain ⟨tokens, events, rfl⟩ := finds
  exact ⟨token :: tokens, by rw [found, events, List.map_cons], List.map_cons⟩

/-- A scan of spaced lexemes finds the lexemes. -/
theorem findsTokens_of_spaced (spaced : Spaced lexemes text) (file : String)
    (position : Position) : FindsTokens file ⟨position, text⟩ lexemes := by
  induction spaced generalizing position with
  | finish trivia _ => exact ⟨[], scan_of_final trivia file position, rfl⟩
  | lexeme trivia _ _ isLexeme spaced ih =>
    obtain ⟨token, behind, rfl, found⟩ :=
      exists_scan_eq_cons trivia isLexeme spaced.separates file position
    exact (ih behind).cons found

/-- A scan of a text that is written from lexemes finds the lexemes. -/
theorem findsTokens_of_writtenFrom (written : WrittenFrom lexemes text) (file : String) :
    FindsTokens file (start text) lexemes := by
  cases written with
  | nothing trivia => exact ⟨[], scan_of_final trivia file _, rfl⟩
  | lexemes trivia isLexeme spaced =>
    obtain ⟨token, behind, rfl, found⟩ :=
      exists_scan_eq_cons trivia isLexeme spaced.separates file Position.start
    exact (findsTokens_of_spaced spaced file behind).cons found

end Cursor

/-! ## Scans of written texts -/

/-- What a token says wherever it stands: its kind, its text and its value. -/
def Token.content (token : Token) : TokenKind × String × Value :=
  (token.kind, token.lexeme, token.value)

/-- Tokens with the same lexemes say the same. -/
theorem map_content_eq {first second : List Token}
    (spells : ∀ token ∈ first, Spells token.kind token.value token.lexeme.toList)
    (others : ∀ token ∈ second, Spells token.kind token.value token.lexeme.toList)
    (same : first.map Token.lexeme = second.map Token.lexeme) :
    first.map Token.content = second.map Token.content := by
  induction first generalizing second with
  | nil =>
    obtain rfl := List.map_eq_nil_iff.mp same.symm
    rfl
  | cons token first ih =>
    obtain ⟨other, second, rfl, here, further⟩ := List.map_eq_cons_iff.mp same.symm
    obtain ⟨firstSpells, spells⟩ := List.forall_mem_cons.mp spells
    obtain ⟨otherSpells, others⟩ := List.forall_mem_cons.mp others
    rw [here] at otherSpells
    obtain ⟨kind, value⟩ := firstSpells.unique otherSpells
    rw [List.map_cons, List.map_cons, ih spells others further.symm, Token.content,
      Token.content, kind, value, here]

namespace Scan

/-- The tokens and the errors of a scan that finds only tokens. -/
theorem ofText_of_findsTokens {file : String}
    (finds : Cursor.FindsTokens file (.start text) lexemes) :
    (ofText file text).errors = [] ∧
      (ofText file text).tokens.body.map Token.lexeme = lexemes := by
  obtain ⟨tokens, events, rfl⟩ := finds
  have errors := congrArg (List.filterMap ScanEvent.error?) events
  have body := congrArg (List.filterMap ScanEvent.token?) events
  rw [List.filterMap_map] at errors body
  constructor
  · refine Eq.trans errors ?_
    simp [Function.comp_def, ScanEvent.error?]
  · refine congrArg (List.map Token.lexeme) (Eq.trans body ?_)
    simp [Function.comp_def, ScanEvent.token?]

/-- **What is written from lexemes is read back, whatever stands between them.** A scan of a text
that is written from lexemes has no errors, the lexemes for its tokens, each with the kind and the
value that it determines, and the mark of the end behind them. In particular, when the lexemes of
any scan are joined by spaces, a scan of that says the same without errors. -/
theorem ofText_reads_back (file : String) :
    (∀ lexemes text, WrittenFrom lexemes text →
      (ofText file text).errors = [] ∧
      (ofText file text).tokens.body.map Token.lexeme = lexemes ∧
      (∀ token ∈ (ofText file text).tokens.body, ∀ kind value,
        Spells kind value token.lexeme.toList ↔ kind = token.kind ∧ value = token.value) ∧
      (ofText file text).tokens.stop = Token.endAt ((Position.start.after text).inFile file)) ∧
    ∀ text,
      let joined := " ".intercalate ((ofText file text).tokens.body.map Token.lexeme)
      (ofText file joined.toList).errors = [] ∧
      (ofText file joined.toList).tokens.toList.map Token.content =
        (ofText file text).tokens.toList.map Token.content := by
  constructor
  · intro lexemes text written
    obtain ⟨errors, body⟩ := ofText_of_findsTokens (Cursor.findsTokens_of_writtenFrom written file)
    refine ⟨errors, body, ?_, stop_ofText file text⟩
    intro token member kind value
    have spells := spells_of_mem_body member
    constructor
    · exact spells.unique
    · rintro ⟨rfl, rfl⟩
      exact spells
  · intro text joined
    have written : WrittenFrom ((ofText file text).tokens.body.map Token.lexeme) joined.toList := by
      refine writtenFrom_intercalate fun lexeme member => ?_
      obtain ⟨token, found, rfl⟩ := List.mem_map.mp member
      exact ⟨_, _, spells_of_mem_body found⟩
    obtain ⟨errors, body⟩ := ofText_of_findsTokens (Cursor.findsTokens_of_writtenFrom written file)
    refine ⟨errors, ?_⟩
    rw [TokenSequence.toList, TokenSequence.toList, List.map_append, List.map_append,
      map_content_eq (fun _ => spells_of_mem_body) (fun _ => spells_of_mem_body) body,
      stop_ofText, stop_ofText]
    rfl

/-- A comment that holds a quote keeps two marks apart. -/
theorem ofText_reads_back_marks :
    WrittenFrom ["!", "="] ['!', ' ', '/', '/', '"', '\n', '='] ∧
      (ofText "" ['!', ' ', '/', '/', '"', '\n', '=']).errors = [] ∧
        (ofText "" ['!', ' ', '/', '/', '"', '\n', '=']).tokens.body.map Token.lexeme =
          ["!", "="] := by
  have bang : IsLexeme "!".toList := ⟨.bang, .nil, .mark (by decide)⟩
  have equal : IsLexeme "=".toList := ⟨.equal, .nil, .mark (by decide)⟩
  have comment : IsTrivia ('/' :: '/' :: ['"'] ++ '\n' :: []) := .comment (by decide) .nil
  have space : Separates (' ' :: ('/' :: '/' :: ['"'] ++ '\n' :: [])) := by
    simp [Separates, Text.isBlank_space]
  have written : WrittenFrom ["!", "="] ['!', ' ', '/', '/', '"', '\n', '='] :=
    .lexemes .nil bang (.lexeme (.blank Text.isBlank_space comment) (List.cons_ne_nil _ _) space
      equal (.finish (.ended .nil) .nil))
  have read := (ofText_reads_back "").1 _ _ written
  exact ⟨written, read.1, read.2.1⟩

end Scan

end Lox
