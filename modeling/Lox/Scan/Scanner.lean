import Lox.Scan.Error
import Lox.Scan.Lexeme
import Lox.Scan.Trivia
import Lox.TokenSequence

/-!
# Scanning

Scanning a text gives a list of events, tokens and errors in the order of the text, and the
cursor where it stopped. After an error it goes on behind the character that was not
expected, so one scan finds every fault. The tokens of a scan are those among the events,
followed by the token that marks the end.

A `Scanner` is a text with a cursor in it that is moved by hand: it can read one token,
skip trivia or single characters, look around, and scan the whole text from its start.
-/

set_option autoImplicit false

namespace Lox

/-! ## Events -/

/-- What scanning finds: a token or an error. -/
inductive ScanEvent
  | token (token : Token)
  | error (error : LexicalError)

namespace ScanEvent

/-- The token of an event. -/
def token? : ScanEvent → Option Token
  | token found => some found
  | error _ => none

/-- The error of an event. -/
def error? : ScanEvent → Option LexicalError
  | token _ => none
  | error found => some found

end ScanEvent

namespace Cursor

/-- What stands at the cursor and the cursor behind it; nothing at the end of the text. A
character that was not expected is left unread, and an unterminated string is read to the
end. -/
def next? (file : String) (cursor : Cursor) : Option (ScanEvent × Cursor) :=
  match cursor.rest with
  | [] => none
  | c :: rest =>
    let location := cursor.position.inFile file
    match Lexeme.front c rest with
    | .lexeme kind value text rest =>
      some (.token ⟨kind, String.ofList text, value, location⟩, cursor.past text rest)
    | .unexpected c => some (.error ⟨.unexpectedCharacter c, location⟩, cursor)
    | .unterminated => some (.error ⟨.unterminatedString, location⟩, cursor.finish)

/-- The cursor from which scanning goes on after an event. -/
def resume (cursor : Cursor) : ScanEvent → Cursor
  | .token _ => cursor
  | .error _ => cursor.advance

/-- Every event moves the scan forward. -/
theorem length_rest_resume_lt {file : String} {cursor behind : Cursor} {event : ScanEvent}
    (found : cursor.next? file = some (event, behind)) :
    (behind.resume event).rest.length < cursor.rest.length := by
  rcases cursor with ⟨position, rest⟩
  cases rest with
  | nil => simp [next?] at found
  | cons c rest =>
    cases front : Lexeme.front c rest with
    | lexeme kind value text remaining =>
      simp only [next?, front, Option.some.injEq, Prod.mk.injEq] at found
      obtain ⟨rfl, rfl⟩ := found
      simpa [resume, past] using Lexeme.length_rest_lt front
    | unexpected c =>
      simp only [next?, front, Option.some.injEq, Prod.mk.injEq] at found
      obtain ⟨rfl, rfl⟩ := found
      simp [resume, advance, advanceBy, past]
    | unterminated =>
      simp only [next?, front, Option.some.injEq, Prod.mk.injEq] at found
      obtain ⟨rfl, rfl⟩ := found
      simp [resume, advance, advanceBy, past, finish]

/-- Trivia that is skipped in front of an event moves the scan forward too. -/
theorem length_rest_resume_skipTrivia_lt {file : String} {cursor behind : Cursor}
    {event : ScanEvent} (found : cursor.skipTrivia.next? file = some (event, behind)) :
    (behind.resume event).rest.length < cursor.rest.length :=
  Nat.lt_of_lt_of_le (length_rest_resume_lt found) cursor.length_rest_skipTrivia_le

/-- The events from the cursor on, and the cursor at the end of the text. -/
def scan (file : String) (cursor : Cursor) : List ScanEvent × Cursor :=
  match found : cursor.skipTrivia.next? file with
  | none => ([], cursor.skipTrivia)
  | some (event, behind) =>
    have := Nat.lt_of_lt_of_le (length_rest_resume_lt found) cursor.length_rest_skipTrivia_le
    let (events, stop) := scan file (behind.resume event)
    (event :: events, stop)
termination_by cursor.rest.length

end Cursor

/-! ## Scans -/

/-- The result of scanning a whole text. -/
structure Scan where
  tokens : TokenSequence
  errors : List LexicalError

namespace Scan

/-- The scan that consists of the given events and ends at the given cursor. -/
def ofEvents (file : String) (events : List ScanEvent) (stop : Cursor) : Scan where
  tokens :=
    { body := events.filterMap ScanEvent.token?
      stop := Token.endAt (stop.position.inFile file)
      stop_isEnd := Token.isEnd_endAt _ }
  errors := events.filterMap ScanEvent.error?

/-- The scan of a text. -/
def ofText (file : String) (text : List Char) : Scan :=
  let (events, stop) := (Cursor.start text).scan file
  ofEvents file events stop

/-- The tokens of a scan without errors, or the first error. -/
def tokensOrError (scan : Scan) : Except LexicalError TokenSequence :=
  match scan.errors with
  | [] => .ok scan.tokens
  | error :: _ => .error error

end Scan

/-! ## Scanners -/

/-- A text that is scanned step by step. -/
structure Scanner where
  file : String
  text : List Char
  cursor : Cursor
  /-- The tokens of the last scan of the whole text. -/
  tokens : List Token
  /-- The errors of the last scan of the whole text. -/
  errors : List LexicalError

namespace Scanner

/-- A scanner at the start of a text. -/
def start (file : String) (text : List Char) : Scanner := ⟨file, text, Cursor.start text, [], []⟩

/-- Scans the whole text from its start and keeps what it finds. -/
def scanAll (scanner : Scanner) : Scanner :=
  let (events, stop) := (Cursor.start scanner.text).scan scanner.file
  let scan := Scan.ofEvents scanner.file events stop
  { scanner with cursor := stop, tokens := scan.tokens.toList, errors := scan.errors }

/-- Reads what stands at the cursor, without keeping it. -/
def next (scanner : Scanner) : Option ScanEvent × Scanner :=
  match scanner.cursor.next? scanner.file with
  | none => (none, scanner)
  | some (event, cursor) => (some event, { scanner with cursor })

/-- Skips the trivia at the cursor. -/
def skipTrivia (scanner : Scanner) : Scanner :=
  { scanner with cursor := scanner.cursor.skipTrivia }

/-- Skips a number of characters. -/
def advanceBy (scanner : Scanner) (count : Nat) : Scanner :=
  { scanner with cursor := scanner.cursor.advanceBy count }

/-- The character a number of places ahead of the cursor, or behind it if the number is
negative. Past the end of the text there is the null character. Before its start the text
repeats once, as the characters of a ring do; farther back there is nothing. -/
def peek (scanner : Scanner) (ahead : Int) : Option Char :=
  let size : Int := scanner.text.length
  let index := scanner.cursor.position.offset + ahead
  if size ≤ index then some '\x00'
  else if 0 ≤ index then scanner.text[index.toNat]?
  else if 0 ≤ index + size then scanner.text[(index + size).toNat]?
  else none

/-- Whether the last scan of the whole text found an error. -/
def hasErrors (scanner : Scanner) : Bool := !scanner.errors.isEmpty

end Scanner
end Lox
