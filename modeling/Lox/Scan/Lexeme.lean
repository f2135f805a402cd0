import Lox.TokenKind
import Lox.Value

/-!
# Lexemes

A lexeme is the text of one token. `Lexeme.front` says what stands at the front of a text:
a lexeme with its kind, its value and the text behind it, or one of the two faults of the
lexical grammar, a character that starts no lexeme and a string literal that never ends.

Words and numbers are ASCII. A number takes a point only together with a digit behind it, and
a string literal runs to the next double quote, over line ends and without escapes.

Nothing is lost: a lexeme and the text behind it make up the text (`Lexeme.front_append`),
and no lexeme is empty (`Lexeme.front_ne_nil`).
-/

set_option autoImplicit false

namespace Lox.Lexeme

/-! ## Characters -/

/-- Whether a character can start a word. -/
def isWordStart (c : Char) : Bool := c.isAlpha || c == '_'

/-- Whether a character can continue a word. -/
def isWordPart (c : Char) : Bool := isWordStart c || c.isDigit

/-! ## The front of a text -/

/-- What stands at the front of a text that is not empty. -/
inductive Front
  /-- A lexeme with its kind and value, and the text behind it. -/
  | lexeme (kind : TokenKind) (value : Value) (text rest : List Char)
  | unexpected (c : Char)
  | unterminated

/-- A text split into the fraction at its front, without the point, and the text behind it. -/
def splitFraction : List Char → List Char × List Char
  | '.' :: c :: rest =>
    if c.isDigit then ((c :: rest).takeWhile Char.isDigit, (c :: rest).dropWhile Char.isDigit)
    else ([], '.' :: c :: rest)
  | text => ([], text)

/-- The text of a number: a fraction follows its point. -/
def numberText (whole fraction : List Char) : List Char :=
  if fraction.isEmpty then whole else whole ++ '.' :: fraction

/-- The number at the front of a text. -/
def number (text : List Char) : Front :=
  let whole := text.takeWhile Char.isDigit
  let (fraction, rest) := splitFraction (text.dropWhile Char.isDigit)
  .lexeme .number (.number (Binary64.ofDigits whole fraction)) (numberText whole fraction) rest

/-- The word at the front of a text. -/
def word (text : List Char) : Front :=
  let letters := text.takeWhile isWordPart
  .lexeme (TokenKind.ofWord (String.ofList letters)) .nil letters (text.dropWhile isWordPart)

/-- The string literal behind its opening quote. -/
def stringLiteral (text : List Char) : Front :=
  let content := text.takeWhile (· != '"')
  match text.dropWhile (· != '"') with
  | [] => .unterminated
  | quote :: rest =>
    .lexeme .string (.text (String.ofList content)) ('"' :: content ++ [quote]) rest

/-- The operator or punctuation mark that starts with the given character. -/
def mark (c : Char) (rest : List Char) : Front :=
  match TokenKind.equalSuffixed.lookup c, rest with
  | some (joined, _), '=' :: rest => .lexeme joined .nil [c, '='] rest
  | some (_, alone), rest => .lexeme alone .nil [c] rest
  | none, rest =>
    if c = '/' then .lexeme .slash .nil [c] rest
    else
      match TokenKind.punctuation.lookup c with
      | some kind => .lexeme kind .nil [c] rest
      | none => .unexpected c

/-- What stands at the front of the text `c :: rest`. -/
def front (c : Char) (rest : List Char) : Front :=
  if c.isDigit then number (c :: rest)
  else if isWordStart c then word (c :: rest)
  else if c = '"' then stringLiteral rest
  else mark c rest

/-! ## Nothing is lost -/

/-- The fraction, behind its point, and the rest make up the text. -/
theorem splitFraction_append (text : List Char) :
    (if (splitFraction text).1.isEmpty then [] else '.' :: (splitFraction text).1) ++
      (splitFraction text).2 = text := by
  unfold splitFraction
  split
  · split
    · next c rest digit => simp [digit]
    · simp
  · simp

theorem number_append {text rest : List Char} {kind : TokenKind} {value : Value}
    {source : List Char} (found : number source = .lexeme kind value text rest) :
    text ++ rest = source := by
  simp only [number, Front.lexeme.injEq] at found
  obtain ⟨-, -, rfl, rfl⟩ := found
  have whole := splitFraction_append (source.dropWhile Char.isDigit)
  unfold numberText
  split
  · next empty => simp_all
  · next filled =>
    simp only [filled] at whole
    simpa [List.append_assoc] using
      (congrArg (source.takeWhile Char.isDigit ++ ·) whole).trans List.takeWhile_append_dropWhile

theorem word_append {text rest : List Char} {kind : TokenKind} {value : Value}
    {source : List Char} (found : word source = .lexeme kind value text rest) :
    text ++ rest = source := by
  simp only [word, Front.lexeme.injEq] at found
  obtain ⟨-, -, rfl, rfl⟩ := found
  exact List.takeWhile_append_dropWhile

theorem stringLiteral_append {text rest : List Char} {kind : TokenKind} {value : Value}
    {source : List Char} (found : stringLiteral source = .lexeme kind value text rest) :
    text ++ rest = '"' :: source := by
  unfold stringLiteral at found
  split at found
  · contradiction
  · next quote behind remains =>
    simp only [Front.lexeme.injEq] at found
    obtain ⟨-, -, rfl, rfl⟩ := found
    have whole := List.takeWhile_append_dropWhile (p := (· != '"')) (l := source)
    rw [remains] at whole
    simpa using whole

theorem mark_append {c : Char} {text rest : List Char} {kind : TokenKind} {value : Value}
    {source : List Char} (found : mark c source = .lexeme kind value text rest) :
    text ++ rest = c :: source ∧ text ≠ [] := by
  unfold mark at found
  split at found
  · simp_all only [Front.lexeme.injEq]
    obtain ⟨-, -, rfl, rfl⟩ := found
    simp
  · simp_all only [Front.lexeme.injEq]
    obtain ⟨-, -, rfl, rfl⟩ := found
    simp
  · split at found
    · simp_all only [Front.lexeme.injEq]
      obtain ⟨-, -, rfl, rfl⟩ := found
      simp
    · split at found
      · simp_all only [Front.lexeme.injEq]
        obtain ⟨-, -, rfl, rfl⟩ := found
        simp
      · contradiction

/-- **A lexeme and the text behind it make up the text.** -/
theorem front_append {c : Char} {source text rest : List Char} {kind : TokenKind}
    {value : Value} (found : front c source = .lexeme kind value text rest) :
    text ++ rest = c :: source := by
  unfold front at found
  split at found
  · exact number_append found
  · split at found
    · exact word_append found
    · split at found
      · next quote => exact quote ▸ stringLiteral_append found
      · exact (mark_append found).1

/-- **No lexeme is empty.** -/
theorem front_ne_nil {c : Char} {source text rest : List Char} {kind : TokenKind}
    {value : Value} (found : front c source = .lexeme kind value text rest) : text ≠ [] := by
  unfold front at found
  split at found
  · next digit =>
    simp only [number, Front.lexeme.injEq] at found
    obtain ⟨-, -, rfl, -⟩ := found
    unfold numberText
    split <;> simp [digit]
  · split at found
    · next start =>
      simp only [word, Front.lexeme.injEq] at found
      obtain ⟨-, -, rfl, -⟩ := found
      simp [isWordPart, start]
    · split at found
      · unfold stringLiteral at found
        split at found
        · contradiction
        · simp only [Front.lexeme.injEq] at found
          obtain ⟨-, -, rfl, -⟩ := found
          simp
      · exact (mark_append found).2

/-- The text behind a lexeme is shorter. -/
theorem length_rest_lt {c : Char} {source text rest : List Char} {kind : TokenKind}
    {value : Value} (found : front c source = .lexeme kind value text rest) :
    rest.length < source.length + 1 := by
  have whole := congrArg List.length (front_append found)
  have positive := List.length_pos_iff.mpr (front_ne_nil found)
  simp only [List.length_append, List.length_cons] at whole
  omega

end Lox.Lexeme
