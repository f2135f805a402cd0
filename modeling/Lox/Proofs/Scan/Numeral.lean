import Lox.Proofs.Scan.Spacing

/-!
# Texts that are one lexeme

A number is digits, or digits around a point (`Lexeme.spells_number_iff`). A text that is a lexeme
is scanned as just that (`Scan.ofText_of_spells`). Conversely, where a text without blanks and
slashes is scanned as one token, it is the lexeme of that token (`Scan.spells_of_body_eq`), since
there can be no trivia in it.
-/

set_option autoImplicit false

namespace Lox

open Lexeme

/-! ## Numbers -/

namespace Lexeme

variable {value : Value} {text whole fraction : List Char} {c : Char}

/-- A text that is not empty and has digits only. -/
def AreDigits (text : List Char) : Prop := text ≠ [] ∧ ∀ c ∈ text, c.isDigit = true

theorem spells_numberText (areDigits : AreDigits whole)
    (further : ∀ c ∈ fraction, c.isDigit = true) :
    Spells .number (.number (Binary64.ofDigits whole fraction)) (numberText whole fraction) := by
  unfold numberText
  split
  · next empty =>
    obtain rfl := List.isEmpty_iff.mp empty
    exact .whole areDigits.1 areDigits.2
  · next filled =>
    exact .fraction areDigits.1 areDigits.2 (fun empty => filled (by simp [empty])) further

/-- The lexemes that are numbers are digits, or digits around a point. -/
theorem spells_number_iff :
    Spells .number value text ↔ ∃ whole fraction, AreDigits whole ∧
      (∀ c ∈ fraction, c.isDigit = true) ∧ value = .number (Binary64.ofDigits whole fraction) ∧
        text = numberText whole fraction := by
  constructor
  · intro spells
    generalize named : TokenKind.number = kind at spells
    cases spells with
    | whole filled digits => exact ⟨_, [], ⟨filled, digits⟩, nofun, rfl, rfl⟩
    | fraction filled digits more further =>
      refine ⟨_, _, ⟨filled, digits⟩, further, rfl, ?_⟩
      rw [numberText, List.isEmpty_eq_false_iff.mpr more]
      rfl
    | @word c letters =>
      rcases ofWord_cases (String.ofList (c :: letters)) with plain | found
      · rw [plain] at named
        contradiction
      · rw [← named] at found
        simp [TokenKind.keywords] at found
    | string => contradiction
    | mark member =>
      subst named
      simp [marks] at member
  · rintro ⟨whole, fraction, areDigits, further, rfl, rfl⟩
    exact spells_numberText areDigits further

/-- A number has digits and a point only. -/
theorem isDigit_of_mem_number (spells : Spells .number value text) (member : c ∈ text) :
    c.isDigit = true ∨ c = '.' := by
  obtain ⟨whole, fraction, areDigits, further, _, rfl⟩ := spells_number_iff.mp spells
  unfold numberText at member
  split at member
  · exact .inl (areDigits.2 c member)
  · rcases List.mem_append.mp member with member | member
    · exact .inl (areDigits.2 c member)
    · exact (List.mem_cons.mp member).symm.imp_left (further c)

end Lexeme

/-! ## Texts without trivia -/

/-- Whether neither blanks nor comments can begin with a character. -/
def Text.isSolid (c : Char) : Bool := !isBlank c && c != '/'

theorem IsTrivia.eq_nil {gap : List Char} (trivia : IsTrivia gap)
    (solid : ∀ c ∈ gap, Text.isSolid c = true) : gap = [] := by
  cases trivia with
  | nil => rfl
  | blank blank => simpa [Text.isSolid, blank] using solid _ List.mem_cons_self
  | comment => exact absurd (solid '/' (by simp)) (by decide)

theorem IsFinalTrivia.eq_nil {gap : List Char} (trivia : IsFinalTrivia gap)
    (solid : ∀ c ∈ gap, Text.isSolid c = true) : gap = [] := by
  cases trivia with
  | ended trivia => exact trivia.eq_nil solid
  | unended => exact absurd (solid '/' (by simp)) (by decide)

namespace Scan

variable {kind : TokenKind} {value : Value} {text : List Char} {file : String} {token : Token}

/-- **A text that is a lexeme is scanned as that lexeme.** -/
theorem ofText_of_spells (spells : Spells kind value text) (file : String) :
    (ofText file text).errors = [] ∧ (ofText file text).tokens.body =
      [⟨kind, String.ofList text, value, Position.start.inFile file⟩] := by
  have found := Cursor.next?_of_spells spells .nil file Position.start
  have skipped := skipTriviaFrom_lexeme ⟨_, _, spells⟩ .nil Position.start
  rw [List.append_nil] at found skipped
  have first : (Cursor.start text).skipTrivia.next? file = _ :=
    (congrArg (Cursor.next? file) skipped).trans found
  have ended : (Cursor.skipTrivia ⟨Position.start.after text, []⟩).next? file = none := rfl
  have events : ((Cursor.start text).scan file).1 =
      [.token ⟨kind, String.ofList text, value, Position.start.inFile file⟩] := by
    rw [Cursor.scan_of_some first, Cursor.resume, Cursor.scan_of_none ended]
  exact ⟨congrArg (List.filterMap ScanEvent.error?) events,
    congrArg (List.filterMap ScanEvent.token?) events⟩

/-- Where there are neither tokens nor errors, there are no events. -/
theorem eq_nil_of_filterMap {events : List ScanEvent}
    (tokens : events.filterMap ScanEvent.token? = [])
    (errors : events.filterMap ScanEvent.error? = []) : events = [] := by
  cases events with
  | nil => rfl
  | cons event events =>
    cases event with
    | token => simp [ScanEvent.token?] at tokens
    | error => simp [ScanEvent.error?] at errors

/-- **A text without trivia that is scanned as one token is the lexeme of the token.** -/
theorem spells_of_body_eq (solid : ∀ c ∈ text, Text.isSolid c = true)
    (errors : (ofText file text).errors = []) (body : (ofText file text).tokens.body = [token]) :
    Spells token.kind token.value text := by
  have spells : Spells token.kind token.value token.lexeme.toList :=
    spells_of_mem_body (by rw [body]; exact List.mem_singleton_self token)
  obtain ⟨events, tokens, faults, layout⟩ := exists_layout file text
  rw [body] at tokens
  rw [errors] at faults
  cases layout with
  | finish => contradiction
  | @event position gap span rest event events trivia covers _ behind =>
    simp only [List.mem_append, or_imp, forall_and] at solid
    obtain ⟨⟨before, _⟩, after⟩ := solid
    obtain rfl := trivia.eq_nil before
    cases covers with
    | token =>
      obtain ⟨rfl, further⟩ := List.cons.inj tokens
      obtain rfl := eq_nil_of_filterMap further.symm faults.symm
      cases behind with
      | finish final =>
        obtain rfl := final.eq_nil after
        rwa [List.nil_append, List.append_nil]
    | unexpected => exact absurd faults.symm (List.cons_ne_nil _ _)
    | unterminated => exact absurd faults.symm (List.cons_ne_nil _ _)

end Scan
end Lox
