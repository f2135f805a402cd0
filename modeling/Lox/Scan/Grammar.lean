import Lox.Scan.Lexeme
import Lox.Text.Blank

/-!
# The lexical grammar

Which texts are lexemes and which are trivia, said without regard to how a text is read.

A lexeme is a number, a word, a closed string literal or one of the fixed marks
(`Lexeme.Spells`); a reader of a text takes the longest one at its front
(`Lexeme.IsLongest`). Trivia is a run of blanks and comments, each comment ended by a line
feed (`IsTrivia`); at the end of a text the last comment may go without (`IsFinalTrivia`).
-/

set_option autoImplicit false

namespace Lox

/-! ## Lexemes -/

namespace Lexeme

/-- The marks, each with its kind. -/
def marks : List (List Char × TokenKind) := [
  (['('], .leftParen), ([')'], .rightParen), (['\x7b'], .leftBrace), (['\x7d'], .rightBrace),
  ([','], .comma), (['.'], .dot), (['-'], .minus), (['+'], .plus), ([';'], .semicolon),
  (['/'], .slash), (['*'], .star), (['!'], .bang), (['!', '='], .bangEqual), (['='], .equal),
  (['=', '='], .equalEqual), (['>'], .greater), (['>', '='], .greaterEqual), (['<'], .less),
  (['<', '='], .lessEqual)]

/-- A text that is a lexeme, with the kind and the value that it gives. -/
inductive Spells : TokenKind → Value → List Char → Prop
  | whole {digits : List Char} :
      digits ≠ [] → (∀ c ∈ digits, c.isDigit = true) →
        Spells .number (.number (Binary64.ofDigits digits [])) digits
  | fraction {digits further : List Char} :
      digits ≠ [] → (∀ c ∈ digits, c.isDigit = true) →
        further ≠ [] → (∀ c ∈ further, c.isDigit = true) →
          Spells .number (.number (Binary64.ofDigits digits further)) (digits ++ '.' :: further)
  | word {c : Char} {letters : List Char} :
      isWordStart c = true → (∀ c ∈ letters, isWordPart c = true) →
        Spells (TokenKind.ofWord (String.ofList (c :: letters))) .nil (c :: letters)
  | string {content : List Char} :
      '"' ∉ content →
        Spells .string (.text (String.ofList content)) ('"' :: content ++ ['"'])
  | mark {text : List Char} {kind : TokenKind} : (text, kind) ∈ marks → Spells kind .nil text

/-- A text that is a lexeme of some kind. -/
def IsLexeme (text : List Char) : Prop := ∃ kind value, Spells kind value text

/-- The longest lexeme at the front of a text. -/
def IsLongest (text source : List Char) : Prop :=
  IsLexeme text ∧ text <+: source ∧
    ∀ other, IsLexeme other → other <+: source → other.length ≤ text.length

/-- No lexeme is empty. -/
theorem Spells.ne_nil {kind : TokenKind} {value : Value} {text : List Char}
    (spells : Spells kind value text) : text ≠ [] := by
  cases spells with
  | whole filled _ => exact filled
  | fraction => simp
  | word => simp
  | string => simp
  | mark member =>
    rintro rfl
    revert member
    simp [marks]

end Lexeme

/-! ## Trivia -/

/-- Blanks and comments, each comment ended by a line feed. -/
inductive IsTrivia : List Char → Prop
  | nil : IsTrivia []
  | blank {c : Char} {rest : List Char} :
      Text.isBlank c = true → IsTrivia rest → IsTrivia (c :: rest)
  /-- A comment with its line feed, and further trivia. -/
  | comment {text rest : List Char} :
      '\n' ∉ text → IsTrivia rest → IsTrivia ('/' :: '/' :: text ++ '\n' :: rest)

/-- Trivia at the end of a text, where the last comment may go without a line feed. -/
inductive IsFinalTrivia : List Char → Prop
  | ended {text : List Char} : IsTrivia text → IsFinalTrivia text
  /-- The last comment runs to the end of the text. -/
  | unended {before text : List Char} :
      IsTrivia before → '\n' ∉ text → IsFinalTrivia (before ++ '/' :: '/' :: text)

/-- Two runs of trivia make one. -/
theorem IsTrivia.append {first second : List Char} (before : IsTrivia first)
    (behind : IsTrivia second) : IsTrivia (first ++ second) := by
  induction before with
  | nil => exact behind
  | blank blank _ ih => exact .blank blank ih
  | comment inner _ ih => simpa [List.append_assoc] using IsTrivia.comment inner ih

end Lox
