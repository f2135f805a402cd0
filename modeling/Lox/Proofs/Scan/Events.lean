import Lox.Proofs.Scan.Layout
import Lox.Proofs.Scan.Longest

/-!
# What the events of a scan stand for

Every event of a scan is found at a place of the text (`Cursor.exists_found`), and what is found
there depends only on the text from there on. A token is the longest lexeme at the front of that
text, with the kind and the value that the lexeme determines. An error says that no lexeme is there:
either no character that could begin one, or a quote that is never closed (`ScanEvent.Describes`).

Together this says that scanning reads the lexical grammar by longest match
(`Scan.ofText_reads_longest`).
-/

set_option autoImplicit false

namespace Lox

open Lexeme

/-! ## Events and the text in front of which they stand -/

/-- The fault that a text begins with. -/
inductive LexicalFault.Heads : LexicalFault → List Char → Prop
  /-- No lexeme stands at the front, and no string literal begins there. -/
  | unexpected {c : Char} {rest : List Char} :
      c ≠ '"' → (∀ lexeme, IsLexeme lexeme → ¬ lexeme <+: c :: rest) →
        Heads (.unexpectedCharacter c) (c :: rest)
  /-- A string literal begins and never ends. -/
  | unterminated {content : List Char} : '"' ∉ content → Heads .unterminatedString ('"' :: content)

/-- An event describes the front of a text. -/
inductive ScanEvent.Describes : ScanEvent → List Char → Prop
  | token {found : Token} {text : List Char} :
      Spells found.kind found.value found.lexeme.toList → IsLongest found.lexeme.toList text →
        Describes (.token found) text
  | error {found : LexicalError} {text : List Char} :
      found.fault.Heads text → Describes (.error found) text

namespace Cursor

variable {file : String} {cursor behind : Cursor} {event : ScanEvent}

/-- What is found at a place describes the text from there on. -/
theorem describes_of_next? (found : cursor.next? file = some (event, behind)) :
    event.Describes cursor.rest ∧ event.location = cursor.position.inFile file := by
  rcases cursor with ⟨position, _ | ⟨c, rest⟩⟩
  · contradiction
  · cases front : Lexeme.front c rest with
    | lexeme kind value text remaining =>
      simp only [next?, front, Option.some.injEq, Prod.mk.injEq] at found
      obtain ⟨rfl, -⟩ := found
      refine ⟨.token ?_ ?_, rfl⟩
      · simpa using spells_of_front front
      · simpa using isLongest_of_front front
    | unexpected other =>
      obtain rfl := eq_of_front_unexpected front
      simp only [next?, front, Option.some.injEq, Prod.mk.injEq] at found
      obtain ⟨rfl, -⟩ := found
      obtain ⟨quote, none⟩ := not_isLexeme_of_front_unexpected front
      exact ⟨.error (.unexpected quote none), rfl⟩
    | unterminated =>
      obtain ⟨rfl, alone⟩ := of_front_unterminated front
      simp only [next?, front, Option.some.injEq, Prod.mk.injEq] at found
      obtain ⟨rfl, -⟩ := found
      exact ⟨.error (.unterminated alone), rfl⟩

/-- **Every event of a scan is found at a place that the scan comes to.** -/
theorem exists_found (file : String) (cursor : Cursor) :
    ∀ event ∈ (cursor.scan file).1, ∃ passed place behind, cursor.Passes passed place ∧
      place.next? file = some (event, behind) := by
  intro event member
  obtain ⟨gap, skipped, _⟩ := cursor.exists_passes_skipTrivia
  rcases next?_cases file cursor.skipTrivia with
    ⟨_, found⟩ | ⟨first, behind, span, found, passes, _, _⟩
  · rw [scan_of_none found] at member
    contradiction
  · rw [scan_of_some found] at member
    rcases List.mem_cons.mp member with rfl | later
    · exact ⟨gap, _, behind, skipped, found⟩
    · have shorter : (behind.resume first).rest.length < cursor.rest.length :=
        length_rest_resume_skipTrivia_lt found
      obtain ⟨passed, place, next, further, foundThere⟩ :=
        exists_found file (behind.resume first) event later
      exact ⟨_, place, next, (skipped.trans passes).trans further, foundThere⟩
termination_by cursor.rest.length

end Cursor

/-! ## The kind and the value of a lexeme -/

namespace Lexeme

variable {kind : TokenKind} {value : Value} {text : List Char}

/-- The reserved words are words. -/
theorem spells_keyword {word : String} (entry : (word, kind) ∈ TokenKind.keywords) :
    Spells kind .nil word.toList := by
  have words : ∀ entry ∈ TokenKind.keywords, TokenKind.ofWord entry.1 = entry.2 ∧
      entry.1.toList.head?.any isWordStart = true ∧
        entry.1.toList.tail.all isWordPart = true := by decide
  obtain ⟨reserved, start, parts⟩ := words _ entry
  cases whole : word.toList with
  | nil => simp [whole] at start
  | cons c letters =>
    have same : String.ofList (c :: letters) = word := by rw [← whole, String.ofList_toList]
    have spells : Spells (TokenKind.ofWord (String.ofList (c :: letters))) .nil (c :: letters) :=
      .word (by simpa [whole] using start) (by simpa [whole] using parts)
    rwa [same, show TokenKind.ofWord word = kind from reserved] at spells

/-- A lexeme has the kind of a reserved word exactly if it is that word. -/
theorem Spells.kind_eq_iff (spells : Spells kind value text) {word : String}
    {reserved : TokenKind} (entry : (word, reserved) ∈ TokenKind.keywords) :
    kind = reserved ↔ String.ofList text = word := by
  constructor
  · rintro rfl
    have others : ∀ entry ∈ TokenKind.keywords, entry.2 ≠ .number ∧ entry.2 ≠ .string ∧
        entry.2 ≠ .identifier ∧ ∀ mark ∈ marks, mark.2 ≠ entry.2 := by decide
    obtain ⟨number, string, identifier, mark⟩ := others _ entry
    cases spells with
    | whole => exact absurd rfl number
    | fraction => exact absurd rfl number
    | string => exact absurd rfl string
    | mark member => exact absurd rfl (mark _ member)
    | @word c letters start parts =>
      have distinct : ∀ first ∈ TokenKind.keywords, ∀ second ∈ TokenKind.keywords,
          first.2 = second.2 → first.1 = second.1 := by decide
      rcases ofWord_cases (String.ofList (c :: letters)) with plain | found
      · exact absurd plain identifier
      · exact distinct _ found _ entry rfl
  · rintro rfl
    have same := spells_keyword entry
    rw [String.toList_ofList] at same
    exact (same.unique spells).1

/-- Only numbers and string literals carry a value, and a string literal its content. -/
theorem Spells.value_cases (spells : Spells kind value text) :
    (kind ≠ .number → kind ≠ .string → value = .nil) ∧
      (kind = .string → ∃ content, '"' ∉ content ∧ text = '"' :: content ++ ['"'] ∧
        value = .text (String.ofList content)) := by
  cases spells with
  | whole => exact ⟨fun number => absurd rfl number, nofun⟩
  | fraction => exact ⟨fun number => absurd rfl number, nofun⟩
  | string unquoted => exact ⟨fun _ string => absurd rfl string, fun _ => ⟨_, unquoted, rfl, rfl⟩⟩
  | @word c letters =>
    refine ⟨fun _ _ => rfl, fun string => ?_⟩
    rcases ofWord_cases (String.ofList (c :: letters)) with plain | found
    · rw [plain] at string
      contradiction
    · rw [string] at found
      simp [TokenKind.keywords] at found
  | mark member =>
    refine ⟨fun _ _ => rfl, ?_⟩
    rintro rfl
    simp [marks] at member

end Lexeme

/-! ## Scans of a text -/

namespace Scan

/-- Every event of a scan describes the text from its place on. -/
theorem exists_describes (file : String) (text : List Char) :
    ∀ event ∈ ((Cursor.start text).scan file).1, ∃ before rest, text = before ++ rest ∧
      event.location.offset = before.length ∧ event.Describes rest := by
  intro event member
  obtain ⟨passed, place, behind, passes, found⟩ := Cursor.exists_found file _ event member
  obtain ⟨describes, located⟩ := Cursor.describes_of_next? found
  refine ⟨passed, place.rest, passes.rest_eq, ?_, describes⟩
  rw [located, passes.position_eq]
  simp [Position.inFile, Cursor.start, Position.start]

/-- The lexemes of the tokens spell their kinds and values. -/
theorem spells_of_mem_body {file : String} {text : List Char} {token : Token}
    (member : token ∈ (ofText file text).tokens.body) :
    Spells token.kind token.value token.lexeme.toList := by
  obtain ⟨event, found, same⟩ := List.mem_filterMap.mp member
  obtain ⟨_, _, _, _, describes⟩ := exists_describes file text event found
  cases describes with
  | token spells _ => exact Option.some.inj same ▸ spells
  | error => contradiction

/-- **Scanning reads the lexical grammar by longest match.** Every token is the longest lexeme at
its place. Its kind and its value are those that the lexeme determines; in particular it has the
kind of a reserved word exactly if it is that word, and only numbers and string literals carry a
value. Every error stands where there is no lexeme: at a character that begins none, or at a quote
behind which there is no other. -/
theorem ofText_reads_longest (file : String) (text : List Char) :
    (∀ token ∈ (ofText file text).tokens.body, ∃ before rest, text = before ++ rest ∧
      token.location.offset = before.length ∧ IsLongest token.lexeme.toList rest ∧
        (∀ kind value, Spells kind value token.lexeme.toList ↔
          kind = token.kind ∧ value = token.value) ∧
        (∀ word kind, (word, kind) ∈ TokenKind.keywords →
          (token.kind = kind ↔ token.lexeme = word)) ∧
        (token.kind ≠ .number → token.kind ≠ .string → token.value = .nil) ∧
        (token.kind = .string → ∃ content, '"' ∉ content ∧
          token.lexeme.toList = '"' :: content ++ ['"'] ∧
            token.value = .text (String.ofList content))) ∧
    ∀ error ∈ (ofText file text).errors, ∃ before rest, text = before ++ rest ∧
      error.location.offset = before.length ∧ error.fault.Heads rest := by
  constructor
  · intro token member
    obtain ⟨event, found, same⟩ := List.mem_filterMap.mp member
    obtain ⟨before, rest, whole, offset, describes⟩ := exists_describes file text event found
    cases describes with
    | error => contradiction
    | token spells longest =>
      obtain rfl := Option.some.inj same
      refine ⟨before, rest, whole, offset, longest, ?_, ?_, spells.value_cases⟩
      · intro kind value
        constructor
        · exact spells.unique
        · rintro ⟨rfl, rfl⟩
          exact spells
      · intro word kind entry
        simpa using spells.kind_eq_iff entry
  · intro error member
    obtain ⟨event, found, same⟩ := List.mem_filterMap.mp member
    obtain ⟨before, rest, whole, offset, describes⟩ := exists_describes file text event found
    cases describes with
    | token => contradiction
    | error heads =>
      obtain rfl := Option.some.inj same
      exact ⟨before, rest, whole, offset, heads⟩

/-- A word that begins with a reserved one is another word, and a quote behind it is alone. -/
theorem ofText_reads_longest_identifier :
    (∃ token ∈ (ofText "" ['o', 'r', '_', '"']).tokens.body,
      token.lexeme = "or_" ∧ IsLongest token.lexeme.toList ['o', 'r', '_', '"'] ∧
        token.kind ≠ .orWord) ∧
      ∃ error ∈ (ofText "" ['o', 'r', '_', '"']).errors, ∃ before rest,
        ['o', 'r', '_', '"'] = before ++ rest ∧ (3 : Int) = before.length ∧
          error.fault.Heads rest := by
  have word : (Cursor.start ['o', 'r', '_', '"']).skipTrivia.next? "" =
      some (.token ⟨.identifier, "or_", .nil, ⟨"", 1, 1, 0⟩⟩, ⟨⟨1, 4, 3⟩, ['"']⟩) := rfl
  have quote : (Cursor.skipTrivia ⟨⟨1, 4, 3⟩, ['"']⟩).next? "" =
      some (.error ⟨.unterminatedString, ⟨"", 1, 4, 3⟩⟩, ⟨⟨1, 5, 4⟩, []⟩) := rfl
  have events : ((Cursor.start ['o', 'r', '_', '"']).scan "").1 =
      [.token ⟨.identifier, "or_", .nil, ⟨"", 1, 1, 0⟩⟩,
        .error ⟨.unterminatedString, ⟨"", 1, 4, 3⟩⟩] := by
    rw [Cursor.scan_of_some word, Cursor.resume, Cursor.scan_of_some quote,
      Cursor.scan_of_none rfl]
  have body : ⟨.identifier, "or_", .nil, ⟨"", 1, 1, 0⟩⟩ ∈
      (ofText "" ['o', 'r', '_', '"']).tokens.body :=
    List.mem_filterMap.mpr ⟨_, events ▸ List.mem_cons_self, rfl⟩
  have errors : ⟨.unterminatedString, ⟨"", 1, 4, 3⟩⟩ ∈ (ofText "" ['o', 'r', '_', '"']).errors :=
    List.mem_filterMap.mpr ⟨_, events ▸ List.mem_cons_of_mem _ List.mem_cons_self, rfl⟩
  obtain ⟨read, faults⟩ := ofText_reads_longest "" ['o', 'r', '_', '"']
  obtain ⟨before, rest, whole, offset, longest, _, reserved, _⟩ := read _ body
  obtain rfl : before = [] := List.eq_nil_of_length_eq_zero (Int.ofNat_eq_zero.mp offset.symm)
  obtain rfl : _ = rest := whole
  refine ⟨⟨_, body, rfl, longest, ?_⟩, _, errors, faults _ errors⟩
  rw [ne_eq, reserved "or" .orWord (by decide)]
  decide

end Scan

end Lox
