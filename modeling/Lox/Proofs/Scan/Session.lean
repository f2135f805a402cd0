import Lox.Proofs.Scan.Layout
import Lox.Proofs.Scan.Position

/-!
# Scanners and places

A scanner can be used step by step (`Scanner.Operation`). Every step but a scan of the whole text
moves its cursor on over some of the text and changes nothing else
(`Scanner.exists_passes_operate`), and a scan of the whole text leaves it at the end.

So whatever is done with a scanner, its cursor stands behind the text that it passed, and the
tokens and errors that it keeps are located where their pieces of text begin (`Scanner.Placed`).
Since positions count the text in front of them, all lines and columns are right
(`Scanner.after_keeps_places`).
-/

set_option autoImplicit false

namespace Lox

/-! ## Pieces of a text -/

/-- A location is that of a piece of the text of a file, in front of the rest of the text. -/
def Location.Marks (location : Location) (file : String) (text piece rest : List Char) : Prop :=
  ∃ before, text = before ++ piece ++ rest ∧ location.IsBehind file before

/-- A token is located where its lexeme begins; without a lexeme it is at the end of the text. -/
def Token.StandsIn (token : Token) (file : String) (text : List Char) : Prop :=
  ∃ rest, token.location.Marks file text token.lexeme.toList rest ∧
    (token.lexeme.toList = [] → rest = [])

/-- An error is located where the piece of text begins that it is about. -/
def LexicalError.StandsIn (error : LexicalError) (file : String) (text : List Char) : Prop :=
  ∃ piece rest, error.location.Marks file text piece rest ∧
    (ScanEvent.error error).Covers piece rest

namespace Scan

variable {file : String} {text : List Char}

/-- The events of a scan are located where their pieces of text begin. -/
theorem exists_marks {events : List ScanEvent} (layout : Layout file Position.start text events) :
    ∀ event ∈ events, ∃ piece rest, event.location.Marks file text piece rest ∧
      event.Covers piece rest := by
  intro event member
  obtain ⟨before, piece, rest, whole, covers, located⟩ :=
    layout.exists_covers (Position.after_nil _).symm event member
  refine ⟨piece, rest, ⟨before, whole, ?_⟩, covers⟩
  rw [located]
  exact Location.isBehind_after_start file before

theorem standsIn_of_mem_tokens {token : Token} (member : token ∈ (ofText file text).tokens.toList) :
    token.StandsIn file text := by
  obtain ⟨events, body, _, layout⟩ := exists_layout file text
  rcases List.mem_append.mp member with inBody | last
  · rw [body] at inBody
    obtain ⟨event, found, same⟩ := List.mem_filterMap.mp inBody
    obtain ⟨piece, rest, marks, covers⟩ := exists_marks layout event found
    cases covers with
    | token filled _ =>
      obtain rfl := Option.some.inj same
      exact ⟨rest, marks, fun empty => absurd empty filled⟩
    | unexpected => contradiction
    | unterminated => contradiction
  · obtain rfl := List.mem_singleton.mp last
    rw [stop_ofText]
    refine ⟨[], ⟨text, ?_, Location.isBehind_after_start file text⟩, fun _ => rfl⟩
    simp [Token.endAt]

theorem standsIn_of_mem_errors {error : LexicalError} (member : error ∈ (ofText file text).errors) :
    error.StandsIn file text := by
  obtain ⟨events, _, errors, layout⟩ := exists_layout file text
  rw [errors] at member
  obtain ⟨event, found, same⟩ := List.mem_filterMap.mp member
  obtain ⟨piece, rest, marks, covers⟩ := exists_marks layout event found
  cases event with
  | token => contradiction
  | error other =>
    obtain rfl : other = error := Option.some.inj same
    exact ⟨piece, rest, marks, covers⟩

end Scan

namespace Scanner

/-! ## Operations -/

/-- Everything that moves a scanner. -/
inductive Operation
  | scanAll | next | skipTrivia | advance
  /-- Skips a number of characters; a negative one skips none. -/
  | advanceBy (count : Int)
  deriving DecidableEq

/-- What an operation leaves behind. -/
def operate (scanner : Scanner) : Operation → Scanner
  | .scanAll => scanner.scanAll
  | .next => scanner.next.2
  | .skipTrivia => scanner.skipTrivia
  | .advance => scanner.advanceBy 1
  | .advanceBy count => scanner.advanceBy count.toNat

/-- What some operations, one after the other, leave behind. -/
def after (scanner : Scanner) (operations : List Operation) : Scanner :=
  operations.foldl operate scanner

/-- A scan of the whole text leaves the cursor at the end, and keeps what it found. -/
theorem scanAll_eq (scanner : Scanner) :
    scanner.scanAll =
      { scanner with
        cursor := (Cursor.start scanner.text).finish
        tokens := (Scan.ofText scanner.file scanner.text).tokens.toList
        errors := (Scan.ofText scanner.file scanner.text).errors } := by
  rw [← (Cursor.scan_layout scanner.file (.start scanner.text)).2]
  rfl

theorem passes_advanceBy (cursor : Cursor) (count : Nat) :
    cursor.Passes (cursor.rest.take count) (cursor.advanceBy count) :=
  .past (List.take_append_drop count cursor.rest).symm

/-- What reading leaves behind, by what it gives. -/
theorem exists_passes_of_finds {file : String} {cursor behind : Cursor} {event : ScanEvent}
    (finds : cursor.Finds file (some (event, behind))) : ∃ passed, cursor.Passes passed behind := by
  cases finds with
  | token _ _ _ passes => exact ⟨_, passes⟩
  | unexpected => exact ⟨[], .refl _⟩
  | unterminated => exact ⟨cursor.rest, .past (List.append_nil _).symm⟩

/-- **Every operation but a scan of the whole text moves the cursor on, and changes nothing
else.** -/
theorem exists_passes_operate (scanner : Scanner) {operation : Operation}
    (keeps : operation ≠ .scanAll) :
    ∃ passed cursor, scanner.cursor.Passes passed cursor ∧
      scanner.operate operation = { scanner with cursor } := by
  cases operation with
  | scanAll => contradiction
  | next =>
    have finds := scanner.cursor.finds_next? scanner.file
    simp only [operate, next]
    generalize scanner.cursor.next? scanner.file = found at finds
    cases found with
    | none => exact ⟨[], _, .refl _, rfl⟩
    | some found =>
      obtain ⟨event, behind⟩ := found
      obtain ⟨passed, passes⟩ := exists_passes_of_finds finds
      exact ⟨passed, behind, passes, rfl⟩
  | skipTrivia =>
    obtain ⟨gap, passes, _⟩ := scanner.cursor.exists_passes_skipTrivia
    exact ⟨gap, _, passes, rfl⟩
  | advance => exact ⟨_, _, passes_advanceBy scanner.cursor 1, rfl⟩
  | advanceBy count => exact ⟨_, _, passes_advanceBy scanner.cursor count.toNat, rfl⟩

/-! ## Places -/

/-- A scanner of the text of a file stands behind a part of the text, and what it keeps is located
in the text. -/
structure Placed (file : String) (text : List Char) (scanner : Scanner) : Prop where
  file_eq : scanner.file = file
  text_eq : scanner.text = text
  exists_passes : ∃ passed, (Cursor.start text).Passes passed scanner.cursor
  tokens : ∀ token ∈ scanner.tokens, token.StandsIn file text
  errors : ∀ error ∈ scanner.errors, error.StandsIn file text

section Placed

variable {file : String} {text : List Char} {scanner : Scanner}

theorem placed_start (file : String) (text : List Char) : Placed file text (start file text) where
  file_eq := rfl
  text_eq := rfl
  exists_passes := ⟨[], .refl _⟩
  tokens := by simp [start]
  errors := by simp [start]

theorem Placed.operate (placed : Placed file text scanner) (operation : Operation) :
    Placed file text (scanner.operate operation) := by
  by_cases whole : operation = .scanAll
  · obtain ⟨rfl, rfl, _, _, _⟩ := placed
    rw [whole, Scanner.operate, scanAll_eq]
    exact {
      file_eq := rfl
      text_eq := rfl
      exists_passes := ⟨scanner.text, .past (List.append_nil _).symm⟩
      tokens := fun _ => Scan.standsIn_of_mem_tokens
      errors := fun _ => Scan.standsIn_of_mem_errors }
  · obtain ⟨passed, cursor, passes, left⟩ := scanner.exists_passes_operate whole
    obtain ⟨before, passedBefore⟩ := placed.exists_passes
    rw [left]
    exact { placed with exists_passes := ⟨before ++ passed, passedBefore.trans passes⟩ }

/-- **Whatever is done with a scanner, it stands behind a part of its text.** -/
theorem Placed.after (placed : Placed file text scanner) (operations : List Operation) :
    Placed file text (scanner.after operations) := by
  induction operations generalizing scanner with
  | nil => exact placed
  | cons operation operations ih => exact ih (placed.operate operation)

/-- The place of a scanner counts the text in front of it. -/
theorem Placed.counts (placed : Placed file text scanner) :
    scanner.cursor.position.Counts (text.take scanner.cursor.position.offset) ∧
      scanner.cursor.rest = text.drop scanner.cursor.position.offset := by
  obtain ⟨passed, passes⟩ := placed.exists_passes
  have counts : scanner.cursor.position.Counts passed := by
    rw [passes.position_eq]
    exact Position.counts_after_start passed
  have whole : text = passed ++ scanner.cursor.rest := passes.rest_eq
  have offset : scanner.cursor.position.offset = passed.length := counts.offset_eq
  rw [offset, whole, List.take_left, List.drop_left]
  exact ⟨counts, rfl⟩

theorem Placed.offset_le (placed : Placed file text scanner) :
    scanner.cursor.position.offset ≤ text.length := by
  have counted := placed.counts.1.offset_eq
  rw [List.length_take] at counted
  omega

theorem next_snd_of_none (ended : scanner.next.1 = none) : scanner.next.2 = scanner := by
  unfold next at ended ⊢
  split
  · rfl
  · next found => simp [found] at ended

/-- What a scanner reads is found at its cursor. -/
theorem finds_of_next {event : ScanEvent} (found : scanner.next.1 = some event) :
    scanner.cursor.Finds scanner.file (some (event, scanner.next.2.cursor)) := by
  have finds := scanner.cursor.finds_next? scanner.file
  unfold next at found ⊢
  split
  · next none => simp [none] at found
  · next other behind here =>
    rw [here] at found finds
    cases found
    exact finds

/-- A scanner reads nothing exactly at the end of its text. -/
theorem Placed.next_eq_none_iff (placed : Placed file text scanner) :
    scanner.next.1 = none ↔ scanner.cursor.position.offset = text.length := by
  have inside := placed.offset_le
  have atEnd : scanner.cursor.rest = [] ↔ scanner.cursor.position.offset = text.length := by
    rw [placed.counts.2, List.drop_eq_nil_iff]
    omega
  rw [← atEnd]
  constructor
  · intro ended
    have finds := scanner.cursor.finds_next? scanner.file
    unfold next at ended
    split at ended
    · next found =>
      rw [found] at finds
      cases finds
      assumption
    · contradiction
  · intro empty
    simp [next, Cursor.next?, empty]

/-- A token that a scanner reads is the piece of the text that is passed. -/
theorem Placed.extract_eq_lexeme (placed : Placed file text scanner) {token : Token}
    (found : scanner.next.1 = some (.token token)) :
    token.lexeme.toList ≠ [] ∧
      text.extract scanner.cursor.position.offset scanner.next.2.cursor.position.offset =
        token.lexeme.toList := by
  cases finds_of_next found with
  | token filled _ _ passes =>
    refine ⟨filled, ?_⟩
    rw [passes.position_eq, Position.offset_after, List.extract_eq_take_drop, ← placed.counts.2,
      Nat.add_sub_cancel_left, passes.rest_eq, List.take_left]

end Placed

/-- Every place that a scanner comes to, and every location that it gives, is right. -/
structure KeepsPlace (file : String) (text : List Char) (scanner : Scanner) : Prop where
  offset_le : scanner.cursor.position.offset ≤ text.length
  counts : scanner.cursor.position.Counts (text.take scanner.cursor.position.offset)
  /-- Only a scan of the whole text moves back. -/
  offset_le_operate : ∀ operation, operation ≠ .scanAll →
    scanner.cursor.position.offset ≤ (scanner.operate operation).cursor.position.offset
  tokens : ∀ token ∈ scanner.tokens, token.StandsIn file text
  errors : ∀ error ∈ scanner.errors, error.StandsIn file text
  next_eq_none_iff : scanner.next.1 = none ↔ scanner.cursor.position.offset = text.length
  next_of_none : scanner.next.1 = none → scanner.next.2 = scanner
  /-- A token that is read is the piece of the text that is passed. -/
  next_of_token : ∀ token, scanner.next.1 = some (.token token) →
    token.location = scanner.cursor.position.inFile file ∧ token.lexeme.toList ≠ [] ∧
      text.extract scanner.cursor.position.offset scanner.next.2.cursor.position.offset =
        token.lexeme.toList
  /-- An error leaves the scanner where it is, or at the end of the text. -/
  next_of_error : ∀ error, scanner.next.1 = some (.error error) →
    error.location = scanner.cursor.position.inFile file ∧
      (∀ c, error.fault = .unexpectedCharacter c → scanner.next.2.cursor = scanner.cursor) ∧
        (error.fault = .unterminatedString →
          scanner.next.2.cursor.position.offset = text.length)

/-- **The places of a scanner are always right.** After any operations the scanner is at a place in
its text whose line and column are those that the text in front of it gives. Only a scan of the
whole text moves it back. Tokens and errors are located where their pieces of text begin. Reading
moves behind the token that it gives, stays where a character is not expected, and goes to the end
of the text where a string literal is not closed. -/
theorem after_keeps_places (file : String) (text : List Char) (operations : List Operation) :
    KeepsPlace file text ((start file text).after operations) := by
  have placed := (placed_start file text).after operations
  generalize (start file text).after operations = scanner at placed
  exact {
    offset_le := placed.offset_le
    counts := placed.counts.1
    offset_le_operate := by
      intro operation keeps
      obtain ⟨passed, cursor, passes, left⟩ := scanner.exists_passes_operate keeps
      rw [left, passes.position_eq, Position.offset_after]
      exact Nat.le_add_right _ _
    tokens := placed.tokens
    errors := placed.errors
    next_eq_none_iff := placed.next_eq_none_iff
    next_of_none := next_snd_of_none
    next_of_token := by
      intro token found
      refine ⟨?_, placed.extract_eq_lexeme found⟩
      cases finds_of_next found with
      | token _ _ located _ => rw [located, placed.file_eq]
    next_of_error := by
      intro error found
      have finds := finds_of_next found
      rw [placed.file_eq] at finds
      generalize scanner.next.2.cursor = behind at finds
      cases finds with
      | unexpected => exact ⟨rfl, fun _ _ => rfl, nofun⟩
      | unterminated whole alone =>
        refine ⟨rfl, nofun, fun _ => ?_⟩
        have inside := placed.offset_le
        simp only [Cursor.finish, Cursor.past, Position.offset_after, placed.counts.2,
          List.length_drop]
        omega }

/-- A quote on the second line, that nothing closes, is read to the end of the text. -/
example : ((start "" ['a', '\n', '"', 'b']).after [.next, .advance, .next]).cursor.position =
    ⟨2, 3, 4⟩ := rfl

end Scanner
end Lox
