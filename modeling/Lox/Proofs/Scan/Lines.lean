import Lox.Proofs.Scan.Position
import Lox.Proofs.Scan.Relocation
import Lox.Proofs.Scan.Spacing

/-!
# Scanning line by line

A line feed ends a comment and continues no lexeme. So the text in front of a line feed is read as
if it were the whole text: trivia reaches as far (`skipTriviaFrom_line_cases`), and the same lexemes
and the same unexpected characters stand at the front (`Lexeme.front_append_separates`), whatever
follows. Only a string literal that is still open at the line feed goes on behind it.

Hence, where no string literal is open, a scan of two texts with a line feed between them finds
what a scan of the first finds, and then what a scan of the second finds
(`Cursor.scan_followedBy_line`), with the lines and the offsets of the second moved down
(`Scan.ofText_append_line`).
-/

set_option autoImplicit false

namespace Lox

namespace Lexeme

variable {p : Char → Bool} {c : Char} {source further : List Char}

/-! ## What is at the front of a longer text -/

/-- A run of characters stops in front of a text that begins with another one. -/
theorem takeWhile_append_of_head (ends : ∀ c ∈ further.head?, p c = false) (source : List Char) :
    (source ++ further).takeWhile p = source.takeWhile p := by
  induction source with
  | nil =>
    have stopped : ([] ++ further).takeWhile p = [] := takeWhile_eq (by simp) ends
    simpa using stopped
  | cons c source ih =>
    rw [List.cons_append, List.takeWhile_cons, List.takeWhile_cons, ih]

theorem dropWhile_append_of_head (ends : ∀ c ∈ further.head?, p c = false) (source : List Char) :
    (source ++ further).dropWhile p = source.dropWhile p ++ further := by
  induction source with
  | nil =>
    exact dropWhile_eq (by simp) ends
  | cons c source ih =>
    rw [List.cons_append, List.dropWhile_cons, List.dropWhile_cons, ih]
    split <;> rfl

/-- What stands at the front of a text when more text is put behind it. -/
def Front.followedBy (further : List Char) : Front → Front
  | lexeme kind value text rest => lexeme kind value text (rest ++ further)
  | unexpected c => unexpected c
  | unterminated => unterminated

theorem splitFraction_of_ne (other : c ≠ '.') (source : List Char) :
    splitFraction (c :: source) = ([], c :: source) := by
  unfold splitFraction
  split
  · next same => exact absurd (List.cons.inj same).1 other
  · rfl

theorem splitFraction_append_separates (separates : Separates further) (source : List Char) :
    splitFraction (source ++ further) =
      ((splitFraction source).1, (splitFraction source).2 ++ further) := by
  have ends := separates.isDigit_eq_false
  match source with
  | [] => exact separates.splitFraction_eq
  | [c] =>
    by_cases point : c = '.'
    · subst point
      cases further with
      | nil => rfl
      | cons d further => simp [splitFraction, ends d rfl]
    · rw [List.singleton_append, splitFraction_of_ne point, splitFraction_of_ne point]
      rfl
  | c :: d :: source =>
    by_cases point : c = '.'
    · subst point
      have taken := takeWhile_append_of_head ends (d :: source)
      have dropped := dropWhile_append_of_head ends (d :: source)
      simp only [List.cons_append] at taken dropped ⊢
      simp only [splitFraction]
      split
      · rw [taken, dropped]
      · rfl
    · rw [List.cons_append, splitFraction_of_ne point, splitFraction_of_ne point]
      rfl

theorem number_append_separates (separates : Separates further) (source : List Char) :
    number (source ++ further) = (number source).followedBy further := by
  have ends := separates.isDigit_eq_false
  simp only [number, takeWhile_append_of_head ends, dropWhile_append_of_head ends,
    splitFraction_append_separates separates, Front.followedBy]

theorem word_append_separates (separates : Separates further) (source : List Char) :
    word (source ++ further) = (word source).followedBy further := by
  have ends := separates.isWordPart_eq_false
  simp only [word, takeWhile_append_of_head ends, dropWhile_append_of_head ends, Front.followedBy]

/-- A string literal that is closed does not depend on what follows. -/
theorem stringLiteral_append_of_closed (closed : stringLiteral source ≠ .unterminated)
    (further : List Char) :
    stringLiteral (source ++ further) = (stringLiteral source).followedBy further := by
  by_cases quoted : '"' ∈ source
  · obtain ⟨content, rest, rfl, unquoted⟩ := List.eq_append_cons_of_mem quoted
    rw [List.append_assoc, List.cons_append, stringLiteral_of_content unquoted,
      stringLiteral_of_content unquoted]
    rfl
  · have remains : (source ++ []).dropWhile (· != '"') = [] :=
      dropWhile_eq (forall_ne_quote quoted) (by simp)
    rw [List.append_nil] at remains
    exact absurd (by simp only [stringLiteral, remains]) closed

/-- A mark that an equals sign could follow stands alone in front of anything else. -/
theorem mark_of_ne_equal {joined alone : TokenKind}
    (entry : TokenKind.equalSuffixed.lookup c = some (joined, alone))
    (other : ∀ behind, source ≠ '=' :: behind) :
    mark c source = .lexeme alone .nil [c] source := by
  simp only [mark, entry]

theorem mark_append_separates (separates : Separates further) (c : Char) (source : List Char) :
    mark c (source ++ further) = (mark c source).followedBy further := by
  cases entry : TokenKind.equalSuffixed.lookup c with
  | none =>
    simp only [mark, entry]
    split
    · rfl
    · cases TokenKind.punctuation.lookup c <;> rfl
  | some kinds =>
    cases source with
    | nil =>
      have equal : ∀ behind, further ≠ '=' :: behind := fun _ => separates.ne_cons (by decide)
      rw [List.nil_append, mark_of_ne_equal entry equal, mark_of_ne_equal entry (by simp)]
      rfl
    | cons d source =>
      by_cases joins : d = '='
      · subst joins
        simp only [mark, entry, List.cons_append]
        rfl
      · have other : ∀ source behind, d :: source ≠ '=' :: behind := by
          intro source behind same
          exact joins (List.cons.inj same).1
        rw [List.cons_append, mark_of_ne_equal entry (other _), mark_of_ne_equal entry (other _)]
        rfl

/-- **What stands at the front of a text does not depend on what follows the text,** if that begins
with a blank and no string literal is open. -/
theorem front_append_separates (separates : Separates further) (c : Char) (source : List Char)
    (closed : front c source ≠ .unterminated) :
    front c (source ++ further) = (front c source).followedBy further := by
  unfold front at closed ⊢
  split
  · exact number_append_separates separates (c :: source)
  · next digit =>
    rw [if_neg digit] at closed
    split
    · exact word_append_separates separates (c :: source)
    · next start =>
      rw [if_neg start] at closed
      split
      · next quote =>
        rw [if_pos quote] at closed
        exact stringLiteral_append_of_closed closed further
      · exact mark_append_separates separates c source

end Lexeme

/-! ## A text behind a line feed -/

/-- What holds of all errors of a scan holds of the first event and of those behind it. -/
theorem ScanEvent.forall_errors_cons {event : ScanEvent} {events : List ScanEvent}
    {holds : LexicalError → Prop} :
    (∀ error ∈ (event :: events).filterMap error?, holds error) ↔
      (∀ error ∈ event.error?, holds error) ∧ ∀ error ∈ events.filterMap error?, holds error := by
  cases event <;> simp [error?]

/-- The cursor with more text behind what is still to be read. -/
def Cursor.followedBy (cursor : Cursor) (further : List Char) : Cursor :=
  { cursor with rest := cursor.rest ++ further }

/-- Trivia in front of a line feed reaches as far as at the end of the text. If all that is left is
trivia, it goes on behind the line feed. -/
theorem skipTriviaFrom_line_cases (inComment : Bool) (position : Position)
    (text below : List Char) :
    ((skipTriviaFrom inComment position text).rest = [] ∧
      skipTriviaFrom inComment position (text ++ '\n' :: below) =
        skipTriviaFrom false (position.after (text ++ ['\n'])) below) ∨
    ((skipTriviaFrom inComment position text).rest ≠ [] ∧
      skipTriviaFrom inComment position (text ++ '\n' :: below) =
        (skipTriviaFrom inComment position text).followedBy ('\n' :: below)) := by
  induction text generalizing inComment position with
  | nil =>
    left
    refine ⟨rfl, ?_⟩
    cases inComment with
    | true => rfl
    | false => simp [skipTriviaFrom, Text.isBlank_newline]
  | cons c text ih =>
    have second : ((text ++ '\n' :: below).head? == some '/') = (text.head? == some '/') := by
      cases text <;> rfl
    rw [List.cons_append, skipTriviaFrom, skipTriviaFrom, second]
    split
    · exact ih _ _
    · split
      · exact ih _ _
      · split
        · exact ih _ _
        · exact .inr ⟨List.cons_ne_nil _ _, rfl⟩

namespace Cursor

variable {file : String} {cursor behind : Cursor} {event : ScanEvent} {further : List Char}

/-- The cursor behind the text and a line feed, in front of another text. -/
def nextLine (cursor : Cursor) (below : List Char) : Cursor :=
  ⟨cursor.position.after (cursor.rest ++ ['\n']), below⟩

theorem skipTrivia_line_cases (cursor : Cursor) (below : List Char) :
    (cursor.skipTrivia.rest = [] ∧
      (cursor.followedBy ('\n' :: below)).skipTrivia = (cursor.nextLine below).skipTrivia) ∨
    (cursor.skipTrivia.rest ≠ [] ∧
      (cursor.followedBy ('\n' :: below)).skipTrivia =
        cursor.skipTrivia.followedBy ('\n' :: below)) :=
  skipTriviaFrom_line_cases false cursor.position cursor.rest below

/-- The next line does not move when the cursor moves on over some of the text. -/
theorem Passes.nextLine {next : Cursor} {text : List Char} (passes : cursor.Passes text next)
    (below : List Char) : next.nextLine below = cursor.nextLine below := by
  rw [Cursor.nextLine, Cursor.nextLine, passes.position_eq, passes.rest_eq,
    ← Position.after_append, List.append_assoc]

/-- **An event does not depend on what follows the text,** if that begins with a blank and no string
literal is open. -/
theorem next?_followedBy (separates : Lexeme.Separates further)
    (found : cursor.next? file = some (event, behind))
    (closed : ∀ error ∈ event.error?, error.fault ≠ .unterminatedString) :
    (cursor.followedBy further).next? file = some (event, behind.followedBy further) ∧
      (behind.followedBy further).resume event = (behind.resume event).followedBy further := by
  rcases cursor with ⟨position, _ | ⟨c, rest⟩⟩
  · contradiction
  · cases front : Lexeme.front c rest with
    | unterminated =>
      simp only [next?, front, Option.some.injEq, Prod.mk.injEq] at found
      obtain ⟨rfl, -⟩ := found
      exact absurd rfl (closed _ rfl)
    | lexeme kind value text remaining =>
      have longer := Lexeme.front_append_separates separates c rest (by simp [front])
      simp only [next?, front, Option.some.injEq, Prod.mk.injEq] at found
      obtain ⟨rfl, rfl⟩ := found
      refine ⟨?_, rfl⟩
      simp only [next?, followedBy, List.cons_append, longer, front, Lexeme.Front.followedBy]
      rfl
    | unexpected other =>
      have longer := Lexeme.front_append_separates separates c rest (by simp [front])
      simp only [next?, front, Option.some.injEq, Prod.mk.injEq] at found
      obtain ⟨rfl, rfl⟩ := found
      refine ⟨?_, rfl⟩
      simp only [next?, followedBy, List.cons_append, longer, front, Lexeme.Front.followedBy]

/-- A scan begins by skipping trivia. -/
theorem scan_congr {first second : Cursor} (same : first.skipTrivia = second.skipTrivia)
    (file : String) : first.scan file = second.scan file := by
  cases found : second.skipTrivia.next? file with
  | none =>
    rw [scan_of_none found, scan_of_none (same ▸ found), same]
  | some next =>
    rw [scan_of_some found, scan_of_some (same ▸ found)]

/-- **A scan of two lines is a scan of the first, and then of the second.** -/
theorem scan_followedBy_line (file : String) (cursor : Cursor) (below : List Char)
    (closed : ∀ error ∈ (cursor.scan file).1.filterMap ScanEvent.error?,
      error.fault ≠ .unterminatedString) :
    (cursor.followedBy ('\n' :: below)).scan file =
      ((cursor.scan file).1 ++ ((cursor.nextLine below).scan file).1,
        ((cursor.nextLine below).scan file).2) := by
  obtain ⟨gap, skipped, _⟩ := cursor.exists_passes_skipTrivia
  rcases cursor.skipTrivia_line_cases below with ⟨atEnd, skips⟩ | ⟨further, skips⟩
  · have nothing : cursor.skipTrivia.next? file = none := by simp only [next?, atEnd]
    rw [scan_congr skips, scan_of_none nothing]
    rfl
  · rcases next?_cases file cursor.skipTrivia with
      ⟨atEnd, _⟩ | ⟨event, behind, span, found, passes, _, _⟩
    · exact absurd atEnd further
    · have shorter : (behind.resume event).rest.length < cursor.rest.length :=
        length_rest_resume_skipTrivia_lt found
      rw [scan_of_some found] at closed ⊢
      have blank : Lexeme.Separates ('\n' :: below) := by
        simp [Lexeme.Separates, Text.isBlank_newline]
      obtain ⟨here, later⟩ := ScanEvent.forall_errors_cons.mp closed
      obtain ⟨foundThere, resumes⟩ := next?_followedBy blank found here
      rw [← skips] at foundThere
      rw [scan_of_some foundThere, resumes,
        scan_followedBy_line file (behind.resume event) below later,
        (skipped.trans passes).nextLine]
      rfl
termination_by cursor.rest.length

end Cursor

/-! ## The places of the second text -/

theorem Text.lastLine_append_newline (upper text : List Char) :
    lastLine (upper ++ '\n' :: text) = lastLine text := by
  have stops : ∀ c ∈ ('\n' :: upper.reverse).head?, (c != '\n') = false := by simp
  rw [lastLine, List.reverse_append, List.reverse_cons, List.append_assoc, List.singleton_append,
    Lexeme.takeWhile_append_of_head stops]
  rfl

/-- The location of a place in a text when another text and a line feed are put in front of it. -/
def Location.below (upper : List Char) (location : Location) : Location :=
  { location with
    line := location.line + (1 + upper.count '\n' : Nat)
    offset := location.offset + (upper.length + 1 : Nat) }

/-- A place on the lines behind a text is that place, moved below the text. -/
theorem Position.inFile_after_line (file : String) (upper text : List Char) :
    ((start.after (upper ++ ['\n'])).after text).inFile file =
      ((start.after text).inFile file).below upper := by
  have whole := counts_after_start (upper ++ '\n' :: text)
  have part := counts_after_start text
  have line := whole.line_eq
  have column := whole.column_eq
  have offset := whole.offset_eq
  rw [Text.lastLine_append_newline, ← part.column_eq] at column
  rw [List.count_append, List.count_cons_self] at line
  rw [List.length_append, List.length_cons] at offset
  have lineThere := part.line_eq
  have offsetThere := part.offset_eq
  rw [← after_append, List.append_assoc, List.singleton_append]
  simp only [inFile, Location.below, Location.mk.injEq, true_and]
  refine ⟨by omega, by omega, by omega⟩

namespace Scan

/-- **Scanning goes line by line.** If no string literal of a text is left open, then a scan of the
text, a line feed and another text finds the tokens and the errors of the first text, and behind
them those of the second, moved below the first. The mark of the end is that of the second, moved in
the same way. -/
theorem ofText_append_line (file : String) (upper lower : List Char)
    (closed : ∀ error ∈ (ofText file upper).errors, error.fault ≠ .unterminatedString) :
    (ofText file (upper ++ '\n' :: lower)).tokens.body =
        (ofText file upper).tokens.body ++
          (ofText file lower).tokens.body.map (Token.relocate (Location.below upper)) ∧
      (ofText file (upper ++ '\n' :: lower)).errors =
          (ofText file upper).errors ++
            (ofText file lower).errors.map (LexicalError.relocate (Location.below upper)) ∧
        (ofText file (upper ++ '\n' :: lower)).tokens.stop =
          (ofText file lower).tokens.stop.relocate (Location.below upper) := by
  have relocates : Cursor.Relocates (Location.below upper) file file (.start lower)
      ((Cursor.start upper).nextLine lower) :=
    ⟨rfl, Position.inFile_after_line file upper⟩
  obtain ⟨events, stop⟩ := relocates.scan
  have whole := Cursor.scan_followedBy_line file (.start upper) lower closed
  have start : (Cursor.start upper).followedBy ('\n' :: lower) =
      .start (upper ++ '\n' :: lower) := rfl
  rw [start, events] at whole
  simp only [ofText, ofEvents, whole, List.filterMap_append, ScanEvent.tokens_relocate,
    ScanEvent.errors_relocate, stop.inFile, true_and]
  rfl

/-- Two slashes on two lines are no comment, and an unexpected character is found in front of
them. -/
theorem ofText_append_line_slashes :
    (∀ error ∈ (ofText "" ['@', '/']).errors, error.fault ≠ .unterminatedString) ∧
      (ofText "" ['@', '/', '\n', '/']).tokens.body =
        [⟨.slash, "/", .nil, ⟨"", 1, 2, 1⟩⟩, ⟨.slash, "/", .nil, ⟨"", 2, 1, 3⟩⟩] ∧
      (ofText "" ['@', '/', '\n', '/']).errors = [⟨.unexpectedCharacter '@', ⟨"", 1, 1, 0⟩⟩] := by
  have unexpected : (Cursor.start ['@', '/']).skipTrivia.next? "" =
      some (.error ⟨.unexpectedCharacter '@', ⟨"", 1, 1, 0⟩⟩, .start ['@', '/']) := rfl
  have slash : (Cursor.start ['@', '/']).advance.skipTrivia.next? "" =
      some (.token ⟨.slash, "/", .nil, ⟨"", 1, 2, 1⟩⟩, ⟨⟨1, 3, 2⟩, []⟩) := rfl
  have upper : ((Cursor.start ['@', '/']).scan "").1 =
      [.error ⟨.unexpectedCharacter '@', ⟨"", 1, 1, 0⟩⟩,
        .token ⟨.slash, "/", .nil, ⟨"", 1, 2, 1⟩⟩] := by
    rw [Cursor.scan_of_some unexpected, Cursor.resume, Cursor.scan_of_some slash, Cursor.resume,
      Cursor.scan_of_none rfl]
  have alone : (Cursor.start ['/']).skipTrivia.next? "" =
      some (.token ⟨.slash, "/", .nil, ⟨"", 1, 1, 0⟩⟩, ⟨⟨1, 2, 1⟩, []⟩) := rfl
  have lower : ((Cursor.start ['/']).scan "").1 = [.token ⟨.slash, "/", .nil, ⟨"", 1, 1, 0⟩⟩] := by
    rw [Cursor.scan_of_some alone, Cursor.resume, Cursor.scan_of_none rfl]
  have errors : (ofText "" ['@', '/']).errors = [⟨.unexpectedCharacter '@', ⟨"", 1, 1, 0⟩⟩] :=
    congrArg (List.filterMap ScanEvent.error?) upper
  have closed : ∀ error ∈ (ofText "" ['@', '/']).errors, error.fault ≠ .unterminatedString := by
    rw [errors]
    simp
  obtain ⟨tokens, faults, _⟩ := ofText_append_line "" ['@', '/'] ['/'] closed
  refine ⟨closed, tokens.trans ?_, faults.trans ?_⟩
  · simp only [ofText, ofEvents, upper, lower]
    rfl
  · simp only [ofText, ofEvents, upper, lower]
    rfl

end Scan

end Lox
