import Lox.Proofs.Scan.Lexeme
import Lox.Proofs.Scan.Trivia
import Lox.Scan.Scanner

/-!
# How a scan lays out a text

The events of a scan stand in the text one behind the other, each on a piece of the text of its
own, and what is between them is trivia (`ScanEvent.Covers`, `Layout`). Scanning gives such a layout
and ends at the end of the text (`Cursor.scan_layout`): trivia is skipped, an event is found, and
scanning goes on behind the piece of text that the event is about.

A layout fixes where every event is, so no text is lost and none is read twice
(`Scan.ofText_loses_nothing`).
-/

set_option autoImplicit false

namespace Lox

/-! ## Events and the text -/

namespace ScanEvent

/-- Where an event starts. -/
def location : ScanEvent → Location
  | token found => found.location
  | error found => found.location

/-- The offset at which an event ends in a text of the given length. -/
def stop (size : Nat) : ScanEvent → Int
  | token found => found.location.offset + found.lexeme.length
  | error ⟨.unexpectedCharacter _, location⟩ => location.offset + 1
  | error ⟨.unterminatedString, _⟩ => size

/-- An event is about a piece of text, in front of some more. -/
inductive Covers : ScanEvent → List Char → List Char → Prop
  /-- A token is about its lexeme. -/
  | token {found : Token} {rest : List Char} :
      found.lexeme.toList ≠ [] → found.kind ≠ .endOfInput →
        Covers (.token found) found.lexeme.toList rest
  /-- An unexpected character is about itself. -/
  | unexpected {c : Char} {location : Location} {rest : List Char} :
      Covers (.error ⟨.unexpectedCharacter c, location⟩) [c] rest
  /-- An unterminated string literal is about all that follows its only quote. -/
  | unterminated {content : List Char} {location : Location} :
      '"' ∉ content → Covers (.error ⟨.unterminatedString, location⟩) ('"' :: content) []

namespace Covers

variable {event : ScanEvent} {span rest : List Char}

/-- No event is about nothing. -/
theorem ne_nil (covers : event.Covers span rest) : span ≠ [] := by
  cases covers with
  | token filled _ => exact filled
  | unexpected => exact List.cons_ne_nil _ _
  | unterminated => exact List.cons_ne_nil _ _

/-- An event ends where its piece of text does. -/
theorem stop_eq (covers : event.Covers span rest) {size : Nat}
    (whole : event.location.offset + span.length + rest.length = size) :
    event.stop size = event.location.offset + span.length := by
  cases covers with
  | token =>
    rw [String.length_toList]
    rfl
  | unexpected => rfl
  | unterminated => simpa [stop] using whole.symm

end Covers

end ScanEvent

/-- A text from a position on, as events with trivia between them. -/
inductive Layout (file : String) : Position → List Char → List ScanEvent → Prop
  /-- Behind the last event there is trivia. -/
  | finish {position : Position} {gap : List Char} :
      IsFinalTrivia gap → Layout file position gap []
  /-- In front of an event there is trivia, and further events are behind it. -/
  | event {position : Position} {gap span rest : List Char} {event : ScanEvent}
      {events : List ScanEvent} :
      IsTrivia gap → event.Covers span rest →
        event.location = (position.after gap).inFile file →
          Layout file (position.after (gap ++ span)) rest events →
            Layout file position (gap ++ span ++ rest) (event :: events)

namespace Layout

variable {file : String} {position : Position} {text : List Char} {events : List ScanEvent}

/-- Every event covers a piece of the text, and says where. -/
theorem exists_covers (layout : Layout file position text events) {passed : List Char}
    (here : position = Position.start.after passed) :
    ∀ event ∈ events, ∃ before span behind, passed ++ text = before ++ span ++ behind ∧
      event.Covers span behind ∧ event.location = (Position.start.after before).inFile file := by
  induction layout generalizing passed with
  | finish => exact fun _ member => absurd member List.not_mem_nil
  | @event position gap span rest first events trivia covers located _ ih =>
    subst here
    intro event member
    rcases List.mem_cons.mp member with rfl | member
    · refine ⟨passed ++ gap, span, rest, by simp, covers, ?_⟩
      rw [located, Position.after_append]
    · obtain ⟨before, piece, behind, whole, covers, located⟩ :=
        ih (Position.after_append _ passed (gap ++ span)).symm event member
      exact ⟨before, piece, behind, by simpa using whole, covers, located⟩

/-- No event starts in front of the text. -/
theorem offset_le (layout : Layout file position text events) :
    ∀ event ∈ events, (position.offset : Int) ≤ event.location.offset := by
  induction layout with
  | finish => exact fun _ member => absurd member List.not_mem_nil
  | event _ _ located _ ih =>
    intro event member
    rcases List.mem_cons.mp member with rfl | member
    · rw [located]
      simp only [Position.inFile, Position.offset_after]
      omega
    · have later := ih event member
      simp only [Position.offset_after] at later
      omega

/-- An event ends before the next one starts. -/
theorem pairwise_stop_le (layout : Layout file position text events) {size : Nat}
    (whole : position.offset + text.length = size) :
    events.Pairwise fun first second => first.stop size ≤ second.location.offset := by
  induction layout with
  | finish => exact .nil
  | @event position gap span rest event events _ covers located layout ih =>
    simp only [List.length_append] at whole
    have ends : event.location.offset + span.length + rest.length = size := by
      rw [located]
      simp only [Position.inFile, Position.offset_after]
      omega
    have stop := covers.stop_eq ends
    refine List.pairwise_cons.mpr ⟨fun later member => ?_, ih ?_⟩
    · have behind := layout.offset_le later member
      rw [stop, located]
      simp only [Position.inFile, Position.offset_after, List.length_append] at behind ⊢
      omega
    · simp only [Position.offset_after, List.length_append]
      omega

/-- Every event of a whole text starts before it ends, on a piece of the text. -/
theorem exists_piece (layout : Layout file Position.start text events) {event : ScanEvent}
    (member : event ∈ events) :
    event.location.offset < event.stop text.length ∧
      ∃ before span behind, text = before ++ span ++ behind ∧ event.Covers span behind ∧
        event.location.offset = before.length ∧
          event.stop text.length = (before ++ span).length := by
  obtain ⟨before, span, behind, whole, covers, located⟩ :=
    layout.exists_covers (Position.after_nil _).symm event member
  have offset : event.location.offset = before.length := by
    rw [located]
    simp [Position.inFile, Position.start]
  have size := congrArg List.length whole
  simp only [List.nil_append, List.length_append] at whole size
  have stop : event.stop text.length = event.location.offset + span.length := by
    refine covers.stop_eq ?_
    omega
  have filled := List.length_pos_iff.mpr covers.ne_nil
  refine ⟨by omega, before, span, behind, whole, covers, offset, ?_⟩
  rw [stop, offset, List.length_append]
  rfl

/-- No token of a text marks the end. -/
theorem kind_ne_endOfInput (layout : Layout file Position.start text events) {token : Token}
    (member : token ∈ events.filterMap ScanEvent.token?) : token.kind ≠ .endOfInput := by
  obtain ⟨event, member, found⟩ := List.mem_filterMap.mp member
  obtain ⟨_, _, _, _, _, covers, _⟩ := layout.exists_piece member
  cases covers with
  | token _ kind => exact Option.some.inj found ▸ kind
  | unexpected => contradiction
  | unterminated => contradiction

/-- There is no event in no text. -/
theorem eq_nil (layout : Layout file position text events) (empty : text = []) : events = [] := by
  cases layout with
  | finish => rfl
  | event _ covers _ _ =>
    simp only [List.append_eq_nil_iff] at empty
    exact absurd empty.1.2 covers.ne_nil

/-- Nothing follows an unterminated string literal. -/
theorem eq_nil_of_unterminated (layout : Layout file position text events)
    {before behind : List ScanEvent} {error : LexicalError}
    (whole : events = before ++ .error error :: behind)
    (unterminated : error.fault = .unterminatedString) : behind = [] := by
  induction layout generalizing before with
  | finish => simp at whole
  | event _ covers _ layout ih =>
    cases before with
    | nil =>
      obtain ⟨rfl, rfl⟩ := List.cons.inj whole
      cases covers with
      | unexpected => contradiction
      | unterminated => exact layout.eq_nil rfl
    | cons first before => exact ih (List.cons.inj whole).2

/-- An unterminated string literal is the last error, and every token is in front of it. -/
theorem unterminated_last (layout : Layout file Position.start text events)
    {before behind : List LexicalError} {error : LexicalError}
    (errors : events.filterMap ScanEvent.error? = before ++ error :: behind)
    (unterminated : error.fault = .unterminatedString) :
    behind = [] ∧ ∀ token ∈ events.filterMap ScanEvent.token?,
      token.location.offset < error.location.offset := by
  obtain ⟨first, second, rfl, _, behindErrors⟩ := List.filterMap_eq_append_iff.mp errors
  obtain ⟨third, event, last, rfl, _, found, rfl⟩ := List.filterMap_eq_cons_iff.mp behindErrors
  cases event with
  | token => contradiction
  | error other =>
    obtain rfl : other = error := Option.some.inj found
    rw [← List.append_assoc] at layout
    obtain rfl := layout.eq_nil_of_unterminated rfl unterminated
    refine ⟨rfl, fun token kept => ?_⟩
    obtain ⟨event, member, same⟩ := List.mem_filterMap.mp kept
    rw [← List.append_assoc] at member
    cases event with
    | error => contradiction
    | token found =>
      obtain rfl : found = token := Option.some.inj same
      have inside := (layout.exists_piece member).1
      rcases List.mem_append.mp member with front | final
      · have apart := (List.pairwise_append.mp (layout.pairwise_stop_le (Nat.zero_add _))).2.2
        have ordered := apart _ front _ (List.mem_singleton_self _)
        exact Int.lt_of_lt_of_le inside ordered
      · cases List.mem_singleton.mp final

end Layout

/-! ## Scanning -/

namespace Cursor

variable {file : String} {cursor behind : Cursor} {event : ScanEvent}

/-- What reading at a cursor gives: an event and the cursor behind it, or nothing. -/
inductive Finds (file : String) (cursor : Cursor) : Option (ScanEvent × Cursor) → Prop
  | atEnd : cursor.rest = [] → Finds file cursor none
  /-- A token is its lexeme, which is passed. -/
  | token {found : Token} {behind : Cursor} :
      found.lexeme.toList ≠ [] → found.kind ≠ .endOfInput →
        found.location = cursor.position.inFile file →
          cursor.Passes found.lexeme.toList behind → Finds file cursor (some (.token found, behind))
  /-- A character that is not expected is left unread. -/
  | unexpected {c : Char} {rest : List Char} :
      cursor.rest = c :: rest →
        Finds file cursor
          (some (.error ⟨.unexpectedCharacter c, cursor.position.inFile file⟩, cursor))
  /-- A string literal that never ends is read to the end of the text. -/
  | unterminated {content : List Char} :
      cursor.rest = '"' :: content → '"' ∉ content →
        Finds file cursor
          (some (.error ⟨.unterminatedString, cursor.position.inFile file⟩, cursor.finish))

theorem finds_next? (file : String) (cursor : Cursor) :
    cursor.Finds file (cursor.next? file) := by
  rcases cursor with ⟨position, _ | ⟨c, rest⟩⟩
  · exact .atEnd rfl
  · cases front : Lexeme.front c rest with
    | lexeme kind value text remaining =>
      have spells := Lexeme.spells_of_front front
      simp only [next?, front]
      refine .token (by simpa using spells.ne_nil) spells.kind_ne_endOfInput rfl ⟨?_, ?_⟩
      · simpa [past] using (Lexeme.front_append front).symm
      · simp [past]
    | unexpected found =>
      obtain rfl := Lexeme.eq_of_front_unexpected front
      simp only [next?, front]
      exact .unexpected rfl
    | unterminated =>
      obtain ⟨rfl, alone⟩ := Lexeme.of_front_unterminated front
      simp only [next?, front]
      exact .unterminated rfl alone

/-- At the end of the text there is nothing, and elsewhere an event about a piece of the text,
behind which scanning goes on. -/
theorem next?_cases (file : String) (cursor : Cursor) :
    (cursor.rest = [] ∧ cursor.next? file = none) ∨
      ∃ event behind span, cursor.next? file = some (event, behind) ∧
        cursor.Passes span (behind.resume event) ∧
          event.Covers span (behind.resume event).rest ∧
            event.location = cursor.position.inFile file := by
  have finds := cursor.finds_next? file
  generalize cursor.next? file = found at finds
  cases finds with
  | atEnd empty => exact .inl ⟨empty, rfl⟩
  | token filled kind located passes =>
    exact .inr ⟨_, _, _, rfl, passes, .token filled kind, located⟩
  | @unexpected c rest whole =>
    refine .inr ⟨_, _, [c], rfl, ⟨?_, ?_⟩, .unexpected, rfl⟩
    · simp [resume, advance, advanceBy, past, whole]
    · simp [resume, advance, advanceBy, past, whole]
  | unterminated whole alone =>
    refine .inr ⟨_, _, cursor.rest, rfl, ⟨?_, rfl⟩, ?_, rfl⟩
    · simp [resume, advance, advanceBy, past, finish]
    · rw [whole]
      exact .unterminated alone

theorem scan_of_none (found : cursor.skipTrivia.next? file = none) :
    cursor.scan file = ([], cursor.skipTrivia) := by
  rw [scan]
  split
  · rfl
  · next other => simp [found] at other

theorem scan_of_some (found : cursor.skipTrivia.next? file = some (event, behind)) :
    cursor.scan file =
      (event :: ((behind.resume event).scan file).1, ((behind.resume event).scan file).2) := by
  rw [scan]
  split
  · next other => simp [found] at other
  · next other =>
    rw [found] at other
    cases other
    rfl

/-- **Scanning lays out the text, and ends at its end.** -/
theorem scan_layout (file : String) (cursor : Cursor) :
    Layout file cursor.position cursor.rest (cursor.scan file).1 ∧
      (cursor.scan file).2 = cursor.finish := by
  obtain ⟨gap, skipped, trivia⟩ := cursor.exists_passes_skipTrivia
  rcases next?_cases file cursor.skipTrivia with
    ⟨atEnd, found⟩ | ⟨event, behind, span, found, passes, covers, located⟩
  · have whole := skipped.rest_eq
    rw [atEnd, List.append_nil] at whole
    rw [scan_of_none found, whole]
    refine ⟨.finish (atEnd ▸ trivia).final, ?_⟩
    rw [finish, past, whole, ← skipped.position_eq, ← atEnd]
  · have shorter : (behind.resume event).rest.length < cursor.rest.length :=
      length_rest_resume_skipTrivia_lt found
    obtain ⟨layout, ended⟩ := scan_layout file (behind.resume event)
    have further : cursor.skipTrivia.rest ≠ [] := by
      rw [passes.rest_eq]
      exact fun empty => covers.ne_nil (List.append_eq_nil_iff.mp empty).1
    have read := skipped.trans passes
    rw [read.position_eq] at layout
    rw [skipped.position_eq] at located
    have before : Layout file cursor.position cursor.rest
        (event :: ((behind.resume event).scan file).1) := by
      rw [read.rest_eq]
      exact .event (trivia.ended further) covers located layout
    refine ⟨by rwa [scan_of_some found], ?_⟩
    rw [scan_of_some found, ended, finish, finish, past, past, read.position_eq, read.rest_eq,
      ← Position.after_append]
termination_by cursor.rest.length

/-- Every round of a scan reaches the end of the text or moves on. -/
theorem skipTrivia_atEnd_or_moves (file : String) (cursor : Cursor) :
    cursor.skipTrivia.rest = [] ∨
      ∃ event behind, cursor.skipTrivia.next? file = some (event, behind) ∧
        ∃ passed, passed ≠ [] ∧ cursor.Passes passed (behind.resume event) := by
  obtain ⟨gap, skipped, _⟩ := cursor.exists_passes_skipTrivia
  rcases next?_cases file cursor.skipTrivia with
    ⟨atEnd, _⟩ | ⟨event, behind, span, found, passes, covers, _⟩
  · exact .inl atEnd
  · refine .inr ⟨event, behind, found, gap ++ span, ?_, skipped.trans passes⟩
    exact fun empty => covers.ne_nil (List.append_eq_nil_iff.mp empty).2

end Cursor

/-! ## Scans of a text -/

namespace Scan

variable (file : String) (text : List Char)

/-- The events of a scan are its tokens and its errors. -/
theorem exists_layout :
    ∃ events, (ofText file text).tokens.body = events.filterMap ScanEvent.token? ∧
      (ofText file text).errors = events.filterMap ScanEvent.error? ∧
        Layout file Position.start text events :=
  ⟨((Cursor.start text).scan file).1, rfl, rfl, (Cursor.scan_layout file (.start text)).1⟩

theorem stop_ofText :
    (ofText file text).tokens.stop = Token.endAt ((Position.start.after text).inFile file) := by
  have ended := (Cursor.scan_layout file (.start text)).2
  exact congrArg (fun cursor => Token.endAt (cursor.position.inFile file)) ended

/-- **Scanning loses nothing and invents nothing.** Tokens and errors stand in the text one behind
the other, each on a piece of its own, with trivia between them. The mark of the end, and no other
token, is at the end of the text. An unterminated string literal is the last that is found. Every
round of the scan moves on or reaches the end of the text. -/
theorem ofText_loses_nothing :
    (∃ events,
      (ofText file text).tokens.body = events.filterMap ScanEvent.token? ∧
      (ofText file text).errors = events.filterMap ScanEvent.error? ∧
      Layout file Position.start text events ∧
      (events.Pairwise fun first second => first.stop text.length ≤ second.location.offset) ∧
      ∀ event ∈ events, event.location.offset < event.stop text.length ∧
        ∃ before span behind, text = before ++ span ++ behind ∧ event.Covers span behind ∧
          event.location.offset = before.length ∧
            event.stop text.length = (before ++ span).length) ∧
    (∀ token ∈ (ofText file text).tokens.body, token.kind ≠ .endOfInput) ∧
    (∃ location, (ofText file text).tokens.stop = Token.endAt location ∧
      location.offset = text.length) ∧
    (∀ before error behind, (ofText file text).errors = before ++ error :: behind →
      error.fault = .unterminatedString → behind = [] ∧
        ∀ token ∈ (ofText file text).tokens.body,
          token.location.offset < error.location.offset) ∧
    ∀ cursor : Cursor, cursor.skipTrivia.rest = [] ∨
      ∃ event behind, cursor.skipTrivia.next? file = some (event, behind) ∧
        cursor.position.offset < (behind.resume event).position.offset ∧
          (behind.resume event).rest.length < cursor.rest.length := by
  obtain ⟨events, body, errors, layout⟩ := exists_layout file text
  refine ⟨⟨events, body, errors, layout, layout.pairwise_stop_le (Nat.zero_add _),
    fun _ => layout.exists_piece⟩, ?_, ⟨_, stop_ofText file text, ?_⟩, ?_, ?_⟩
  · intro token member
    rw [body] at member
    exact layout.kind_ne_endOfInput member
  · simp [Position.inFile, Position.start]
  · intro before error behind found unterminated
    rw [body]
    exact layout.unterminated_last (errors ▸ found) unterminated
  · intro cursor
    refine (cursor.skipTrivia_atEnd_or_moves file).imp_right ?_
    rintro ⟨event, behind, found, passed, filled, passes⟩
    refine ⟨event, behind, found, ?_⟩
    have moved := List.length_pos_iff.mpr filled
    rw [passes.position_eq, passes.rest_eq, Position.offset_after, List.length_append]
    omega

theorem ofText_loses_nothing_unterminated :
    (ofText "" ['(', '"']).errors = [⟨.unterminatedString, ⟨"", 1, 2, 1⟩⟩] ∧
      ∀ token ∈ (ofText "" ['(', '"']).tokens.body, token.location.offset < 1 := by
  have opened : (Cursor.start ['(', '"']).skipTrivia.next? "" = some (_, ⟨⟨1, 2, 1⟩, ['"']⟩) := rfl
  have quoted : (Cursor.skipTrivia ⟨⟨1, 2, 1⟩, ['"']⟩).next? "" = some (_, ⟨⟨1, 3, 2⟩, []⟩) := rfl
  have errors : (ofText "" ['(', '"']).errors = [⟨.unterminatedString, ⟨"", 1, 2, 1⟩⟩] := by
    rw [ofText, Cursor.scan_of_some opened, Cursor.resume, Cursor.scan_of_some quoted,
      Cursor.scan_of_none rfl]
    rfl
  exact ⟨errors, ((ofText_loses_nothing "" _).2.2.2.1 [] _ [] errors rfl).2⟩

end Scan

end Lox
