import Lox.Proofs.Scan.Layout

/-!
# Scanning a text at another place

Where a text stands, and in which file, is seen in the locations of its tokens and errors and
nowhere else. If the places of a text in one file are moved to those in another
(`Cursor.Relocates`), every step of a scan keeps them so, and scanning finds the same tokens and
errors, moved in the same way (`Cursor.Relocates.scan`).

In particular the name of a file is only a part of the locations (`Scan.ofText_relocate`).
-/

set_option autoImplicit false

namespace Lox

/-! ## Tokens and errors at another place -/

/-- The token where its location is moved to. -/
def Token.relocate (move : Location → Location) (token : Token) : Token :=
  { token with location := move token.location }

/-- The error where its location is moved to. -/
def LexicalError.relocate (move : Location → Location) (error : LexicalError) : LexicalError :=
  { error with location := move error.location }

/-- The event where its location is moved to. -/
def ScanEvent.relocate (move : Location → Location) : ScanEvent → ScanEvent
  | token found => token (found.relocate move)
  | error found => error (found.relocate move)

/-- The tokens where their locations are moved to. -/
def TokenSequence.relocate (move : Location → Location) (tokens : TokenSequence) :
    TokenSequence where
  body := tokens.body.map (Token.relocate move)
  stop := tokens.stop.relocate move
  stop_isEnd := tokens.stop_isEnd

/-- The scan with all locations moved. -/
def Scan.relocate (move : Location → Location) (scan : Scan) : Scan where
  tokens := scan.tokens.relocate move
  errors := scan.errors.map (LexicalError.relocate move)

section Events

variable (move : Location → Location) (events : List ScanEvent)

theorem ScanEvent.tokens_relocate :
    (events.map (relocate move)).filterMap token? =
      (events.filterMap token?).map (Token.relocate move) := by
  rw [List.filterMap_map, List.map_filterMap]
  congr 1
  funext event
  cases event <;> rfl

theorem ScanEvent.errors_relocate :
    (events.map (relocate move)).filterMap error? =
      (events.filterMap error?).map (LexicalError.relocate move) := by
  rw [List.filterMap_map, List.map_filterMap]
  congr 1
  funext event
  cases event <;> rfl

end Events

/-! ## Cursors before the same text -/

/-- How far trivia reaches does not depend on where it stands. -/
theorem exists_skipTriviaFrom (inComment : Bool) (text : List Char) :
    ∃ gap rest, ∀ position,
      skipTriviaFrom inComment position text = ⟨position.after gap, rest⟩ := by
  induction text generalizing inComment with
  | nil => exact ⟨[], [], fun _ => rfl⟩
  | cons c text ih =>
    have skips : ∀ inside, ∃ gap rest, ∀ position : Position,
        skipTriviaFrom inside (position.next c) text = ⟨position.after gap, rest⟩ := by
      intro inside
      obtain ⟨gap, rest, reaches⟩ := ih inside
      exact ⟨c :: gap, rest, fun position => reaches (position.next c)⟩
    -- Whether the trivia goes on is decided by the characters alone.
    unfold skipTriviaFrom
    split
    · exact skips _
    · split
      · exact skips _
      · split
        · exact skips _
        · exact ⟨[], c :: text, fun _ => rfl⟩

namespace Cursor

/-- Two cursors are before the same text, and the place behind every text is moved from the one
file to the other. -/
structure Relocates (move : Location → Location) (file other : String) (here there : Cursor) :
    Prop where
  rest_eq : there.rest = here.rest
  inFile_after : ∀ text : List Char,
    (there.position.after text).inFile other = move ((here.position.after text).inFile file)

namespace Relocates

variable {move : Location → Location} {file other : String} {here there : Cursor}

theorem inFile (relocates : Relocates move file other here there) :
    there.position.inFile other = move (here.position.inFile file) :=
  relocates.inFile_after []

theorem past (relocates : Relocates move file other here there) (text rest : List Char) :
    Relocates move file other (here.past text rest) (there.past text rest) where
  rest_eq := rfl
  inFile_after := by
    intro further
    simp only [Cursor.past, ← Position.after_append]
    exact relocates.inFile_after (text ++ further)

theorem advance (relocates : Relocates move file other here there) :
    Relocates move file other here.advance there.advance := by
  unfold Cursor.advance advanceBy
  rw [relocates.rest_eq]
  exact relocates.past _ _

theorem finish (relocates : Relocates move file other here there) :
    Relocates move file other here.finish there.finish := by
  unfold Cursor.finish
  rw [relocates.rest_eq]
  exact relocates.past _ _

theorem skipTrivia (relocates : Relocates move file other here there) :
    Relocates move file other here.skipTrivia there.skipTrivia := by
  obtain ⟨gap, rest, skips⟩ := exists_skipTriviaFrom false here.rest
  unfold Cursor.skipTrivia
  rw [relocates.rest_eq, skips, skips]
  exact relocates.past gap rest

theorem resume (relocates : Relocates move file other here there) (event : ScanEvent) :
    Relocates move file other (here.resume event) (there.resume (event.relocate move)) := by
  cases event with
  | token => exact relocates
  | error => exact relocates.advance

/-- **What is found at one of two cursors is found at the other, moved.** -/
theorem next?_cases (relocates : Relocates move file other here there) :
    (here.next? file = none ∧ there.next? other = none) ∨
      ∃ event behind behindThere, here.next? file = some (event, behind) ∧
        there.next? other = some (event.relocate move, behindThere) ∧
          Relocates move file other behind behindThere := by
  have located := relocates.inFile
  have same := relocates.rest_eq
  cases whole : here.rest with
  | nil =>
    rw [whole] at same
    exact .inl ⟨by simp only [next?, whole], by simp only [next?, same]⟩
  | cons c rest =>
    rw [whole] at same
    right
    simp only [next?, whole, same, located]
    cases Lexeme.front c rest with
    | lexeme kind value text remaining => exact ⟨_, _, _, rfl, rfl, relocates.past text remaining⟩
    | unexpected c => exact ⟨_, _, _, rfl, rfl, relocates⟩
    | unterminated => exact ⟨_, _, _, rfl, rfl, relocates.finish⟩

/-- **A text is scanned alike at both cursors.** -/
theorem scan {here there : Cursor} (relocates : Relocates move file other here there) :
    (there.scan other).1 = (here.scan file).1.map (ScanEvent.relocate move) ∧
      Relocates move file other (here.scan file).2 (there.scan other).2 := by
  rcases relocates.skipTrivia.next?_cases with
    ⟨none, noneThere⟩ | ⟨event, behind, behindThere, found, foundThere, further⟩
  · rw [scan_of_none none, scan_of_none noneThere]
    exact ⟨rfl, relocates.skipTrivia⟩
  · have shorter : (behind.resume event).rest.length < here.rest.length :=
      length_rest_resume_skipTrivia_lt found
    obtain ⟨events, stop⟩ := scan (further.resume event)
    rw [scan_of_some found, scan_of_some foundThere, events, List.map_cons]
    exact ⟨rfl, stop⟩
termination_by here.rest.length

end Relocates

end Cursor

/-! ## Scans of a text -/

/-- The location in a file of another name. -/
def Location.rename (other : String) (location : Location) : Location :=
  { location with file := other }

/-- **The name of a file is seen in the locations only.** -/
theorem Scan.ofText_relocate (file other : String) (text : List Char) :
    ofText other text = (ofText file text).relocate (Location.rename other) := by
  have relocates : Cursor.Relocates (Location.rename other) file other (.start text)
      (.start text) := ⟨rfl, fun _ => rfl⟩
  obtain ⟨events, stop⟩ := relocates.scan
  simp only [ofText, ofEvents, relocate, TokenSequence.relocate, events,
    ScanEvent.tokens_relocate, ScanEvent.errors_relocate, stop.inFile]
  rfl

end Lox
