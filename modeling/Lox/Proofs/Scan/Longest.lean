import Lox.Proofs.Scan.Lexeme

/-!
# Longest lexemes

The first character of a lexeme tells whether it is a numeral, a word, a string literal or a mark
(`Lexeme.IsLexeme.start_cases`). So of the lexemes at the front of a text only those of one sort
compete, and what `Lexeme.front` takes is the longest of them (`Lexeme.isLongest_of_front`). A
character is unexpected only where there is no lexeme at all
(`Lexeme.not_isLexeme_of_front_unexpected`).

Nothing continues a lexeme at the end of the text or in front of a blank. There `Lexeme.front`
finds each lexeme as it is (`Lexeme.front_of_spells`), and hence a lexeme has one kind and one value
(`Lexeme.Spells.unique`).
-/

set_option autoImplicit false

namespace Lox

namespace Lexeme

/-! ## Parts of a text with one property -/

theorem takeWhile_eq {p : Char → Bool} {inside rest : List Char} (holds : ∀ c ∈ inside, p c = true)
    (ends : ∀ c ∈ rest.head?, p c = false) : (inside ++ rest).takeWhile p = inside := by
  rw [List.takeWhile_append_of_pos holds]
  cases rest with
  | nil => simp
  | cons c rest => simp [ends c rfl]

theorem dropWhile_eq {p : Char → Bool} {inside rest : List Char} (holds : ∀ c ∈ inside, p c = true)
    (ends : ∀ c ∈ rest.head?, p c = false) : (inside ++ rest).dropWhile p = rest := by
  rw [List.dropWhile_append_of_pos holds]
  cases rest with
  | nil => rfl
  | cons c rest => simp [ends c rfl]

theorem prefix_takeWhile {p : Char → Bool} {inside text : List Char}
    (holds : ∀ c ∈ inside, p c = true) (front : inside <+: text) : inside <+: text.takeWhile p := by
  obtain ⟨rest, rfl⟩ := front
  rw [List.takeWhile_append_of_pos holds]
  exact List.prefix_append ..

theorem forall_ne_quote {text : List Char} (unquoted : '"' ∉ text) :
    ∀ c ∈ text, (c != '"') = true := by
  intro c member
  rw [bne_iff_ne]
  rintro rfl
  exact unquoted member

/-! ## The first character -/

variable {c : Char} {source text rest other tail : List Char} {kind : TokenKind} {value : Value}

/-- A word begins with an ASCII letter or an underscore. -/
theorem isWordStart_iff : isWordStart c = true ↔
    0x41 ≤ c.toNat ∧ c.toNat ≤ 0x5A ∨ 0x61 ≤ c.toNat ∧ c.toNat ≤ 0x7A ∨ c = '_' := by
  change (decide (0x41 ≤ c.val ∧ c.val ≤ 0x5A) ||
    (decide (0x61 ≤ c.val) && decide (c.val ≤ 0x7A)) || c == '_') = true ↔ _
  simp only [Bool.or_eq_true, Bool.and_eq_true, decide_eq_true_eq, beq_iff_eq,
    UInt32.le_iff_toNat_le, or_assoc]
  rfl

theorem isWordStart_eq_false_of_isDigit (digit : c.isDigit = true) : isWordStart c = false := by
  refine Bool.eq_false_iff.mpr fun start => ?_
  obtain ⟨lower, upper⟩ : 0x30 ≤ c.toNat ∧ c.toNat ≤ 0x39 := Char.isDigit_iff_toNat.mp digit
  rcases isWordStart_iff.mp start with letter | letter | rfl
  · omega
  · omega
  · contradiction

/-- The marks start with neither a digit nor a letter nor a quote. -/
theorem start_of_mem_marks (member : (c :: tail, kind) ∈ marks) :
    c.isDigit = false ∧ isWordStart c = false ∧ c ≠ '"' := by
  have every : ∀ entry ∈ marks, entry.1.head?.all
      (fun d => !d.isDigit && !isWordStart d && d != '"') = true := by decide
  simpa [and_assoc] using every _ member

/-- The text of a number: digits, perhaps with a point and further digits behind them. -/
def IsNumeral (text : List Char) : Prop :=
  (∀ c ∈ text, c.isDigit = true) ∨
    ∃ digits further, text = digits ++ '.' :: further ∧ (∀ c ∈ digits, c.isDigit = true) ∧
      further ≠ [] ∧ ∀ c ∈ further, c.isDigit = true

/-- The first character of a lexeme tells what kind of text it is. -/
theorem IsLexeme.start_cases (isLexeme : IsLexeme (c :: tail)) :
    c.isDigit = true ∧ IsNumeral (c :: tail) ∨
      isWordStart c = true ∧ (∀ d ∈ tail, isWordPart d = true) ∨
        c = '"' ∧ (∃ content, '"' ∉ content ∧ tail = content ++ ['"']) ∨
          ∃ kind, (c :: tail, kind) ∈ marks := by
  obtain ⟨kind, value, spells⟩ := isLexeme
  generalize whole : c :: tail = lexeme at spells
  cases spells with
  | whole filled digits =>
    subst whole
    exact .inl ⟨digits c List.mem_cons_self, .inl digits⟩
  | @fraction digits further filled areDigits _ _ =>
    obtain ⟨first, others, rfl⟩ := List.exists_cons_of_ne_nil filled
    obtain ⟨rfl, rfl⟩ := List.cons.inj whole
    exact .inl ⟨areDigits _ List.mem_cons_self, .inr ⟨_, further, rfl, areDigits, ‹_›, ‹_›⟩⟩
  | word start parts =>
    obtain ⟨rfl, rfl⟩ := List.cons.inj whole
    exact .inr (.inl ⟨start, parts⟩)
  | string unquoted =>
    obtain ⟨rfl, rfl⟩ := List.cons.inj whole
    exact .inr (.inr (.inl ⟨rfl, _, unquoted, rfl⟩))
  | mark member =>
    subst whole
    exact .inr (.inr (.inr ⟨_, member⟩))

/-! ## Longest match -/

/-- A lexeme that begins with a digit is a numeral. -/
theorem isNumeral_of_isDigit (isLexeme : IsLexeme (c :: tail)) (digit : c.isDigit = true) :
    IsNumeral (c :: tail) := by
  rcases isLexeme.start_cases with ⟨_, numeral⟩ | ⟨start, _⟩ | ⟨rfl, _⟩ | ⟨kind, member⟩
  · exact numeral
  · simp [isWordStart_eq_false_of_isDigit digit] at start
  · contradiction
  · simp [(start_of_mem_marks member).1] at digit

theorem isWordPart_of_isWordStart (isLexeme : IsLexeme (c :: tail)) (start : isWordStart c = true) :
    ∀ d ∈ c :: tail, isWordPart d = true := by
  rcases isLexeme.start_cases with ⟨digit, _⟩ | ⟨_, parts⟩ | ⟨rfl, _⟩ | ⟨kind, member⟩
  · simp [isWordStart_eq_false_of_isDigit digit] at start
  · exact List.forall_mem_cons.mpr ⟨by simp [isWordPart, start], parts⟩
  · contradiction
  · simp [(start_of_mem_marks member).2.1] at start

theorem exists_content_of_quote (isLexeme : IsLexeme ('"' :: tail)) :
    ∃ content, '"' ∉ content ∧ tail = content ++ ['"'] := by
  rcases isLexeme.start_cases with ⟨digit, _⟩ | ⟨start, _⟩ | ⟨_, string⟩ | ⟨kind, member⟩
  · contradiction
  · contradiction
  · exact string
  · exact absurd rfl (start_of_mem_marks member).2.2

theorem exists_mem_marks (isLexeme : IsLexeme (c :: tail)) (digit : c.isDigit ≠ true)
    (start : isWordStart c ≠ true) (quote : c ≠ '"') : ∃ kind, (c :: tail, kind) ∈ marks := by
  rcases isLexeme.start_cases with ⟨isDigit, _⟩ | ⟨isStart, _⟩ | ⟨isQuote, _⟩ | mark
  · exact absurd isDigit digit
  · exact absurd isStart start
  · exact absurd isQuote quote
  · exact mark

/-- A fraction that is there is found, as far as its digits go. -/
theorem prefix_splitFraction {further : List Char} (filled : further ≠ [])
    (digits : ∀ c ∈ further, c.isDigit = true) :
    further <+: (splitFraction ('.' :: further ++ rest)).1 := by
  obtain ⟨first, others, rfl⟩ := List.exists_cons_of_ne_nil filled
  simp only [List.cons_append, splitFraction, digits first List.mem_cons_self, if_true]
  exact prefix_takeWhile digits (List.prefix_append ..)

theorem length_le_number (numeral : IsNumeral other) (front : other <+: source)
    (found : number source = .lexeme kind value text rest) : other.length ≤ text.length := by
  simp only [number, Front.lexeme.injEq] at found
  obtain ⟨-, -, rfl, -⟩ := found
  rcases numeral with digits | ⟨digits, further, rfl, areDigits, filled, furtherDigits⟩
  · refine Nat.le_trans (prefix_takeWhile digits front).length_le ?_
    unfold numberText
    split <;> simp
  · obtain ⟨behind, rfl⟩ := front
    rw [List.append_assoc]
    have point : ∀ c ∈ ('.' :: further ++ behind).head?, c.isDigit = false := by simp
    rw [takeWhile_eq areDigits point, dropWhile_eq areDigits point]
    have longer : further <+: (splitFraction ('.' :: further ++ behind)).1 :=
      prefix_splitFraction filled furtherDigits
    have kept : (splitFraction ('.' :: further ++ behind)).1 ≠ [] := by
      intro empty
      rw [empty, List.prefix_nil] at longer
      exact filled longer
    rw [numberText, List.isEmpty_eq_false_iff.mpr kept]
    simpa using longer.length_le

theorem length_le_word (parts : ∀ c ∈ other, isWordPart c = true) (front : other <+: source)
    (found : word source = .lexeme kind value text rest) : other.length ≤ text.length := by
  simp only [word, Front.lexeme.injEq] at found
  obtain ⟨-, -, rfl, -⟩ := found
  exact (prefix_takeWhile parts front).length_le

theorem length_le_stringLiteral {content : List Char} (unquoted : '"' ∉ content)
    (front : content ++ ['"'] <+: source)
    (found : stringLiteral source = .lexeme kind value text rest) :
    content.length + 2 ≤ text.length := by
  unfold stringLiteral at found
  split at found
  · contradiction
  · next quote behind remains =>
    simp only [Front.lexeme.injEq] at found
    obtain ⟨-, -, rfl, -⟩ := found
    have inside := forall_ne_quote unquoted
    have shorter := (prefix_takeWhile inside ((List.prefix_append ..).trans front)).length_le
    simpa using shorter

/-- A mark is in one of the tables that `mark` looks up, or is the slash. -/
theorem marks_cases (member : (text, kind) ∈ marks) :
    (∃ c joined alone, TokenKind.equalSuffixed.lookup c = some (joined, alone) ∧
      (text = [c, '='] ∧ kind = joined ∨ text = [c] ∧ kind = alone)) ∨
      ∃ c, TokenKind.equalSuffixed.lookup c = none ∧ text = [c] ∧
        (c = '/' ∧ kind = .slash ∨ c ≠ '/' ∧ TokenKind.punctuation.lookup c = some kind) := by
  have every : ∀ entry ∈ marks,
      (∃ pair ∈ TokenKind.equalSuffixed, TokenKind.equalSuffixed.lookup pair.1 = some pair.2 ∧
        (entry = ([pair.1, '='], pair.2.1) ∨ entry = ([pair.1], pair.2.2))) ∨
      entry = (['/'], .slash) ∨
      ∃ pair ∈ TokenKind.punctuation, TokenKind.equalSuffixed.lookup pair.1 = none ∧
        pair.1 ≠ '/' ∧ TokenKind.punctuation.lookup pair.1 = some pair.2 ∧
          entry = ([pair.1], pair.2) := by decide
  rcases every _ member with
    ⟨⟨c, joined, alone⟩, _, entry, same⟩ | slash | ⟨⟨c, kind⟩, _, missing, noSlash, entry, same⟩
  · exact .inl ⟨c, joined, alone, entry, same.imp Prod.mk.inj Prod.mk.inj⟩
  · obtain ⟨rfl, rfl⟩ := Prod.mk.inj slash
    exact .inr ⟨'/', by decide, rfl, .inl ⟨rfl, rfl⟩⟩
  · obtain ⟨rfl, rfl⟩ := Prod.mk.inj same
    exact .inr ⟨c, missing, rfl, .inr ⟨noSlash, entry⟩⟩

theorem length_le_mark (member : (other, kind) ∈ marks) (front : other <+: c :: source)
    {found : TokenKind} (marked : mark c source = .lexeme found value text rest) :
    other.length ≤ text.length := by
  have filled := List.length_pos_iff.mpr (mark_append marked).2
  rcases marks_cases member with
    ⟨d, joined, alone, entry, ⟨rfl, _⟩ | ⟨rfl, _⟩⟩ | ⟨d, _, rfl, _⟩
  · obtain ⟨behind, whole⟩ := front
    obtain ⟨rfl, rfl⟩ := List.cons.inj whole
    simp only [mark, entry] at marked
    obtain ⟨-, -, rfl, -⟩ := marked
    exact Nat.le_refl _
  · exact filled
  · exact filled

/-- **What is found at the front of a text is the longest lexeme there.** -/
theorem isLongest_of_front (found : front c source = .lexeme kind value text rest) :
    IsLongest text (c :: source) := by
  refine ⟨⟨kind, value, spells_of_front found⟩, ⟨rest, front_append found⟩, ?_⟩
  intro other isLexeme shorter
  cases other with
  | nil => exact Nat.zero_le _
  | cons d tail =>
    obtain ⟨rfl, behind⟩ := List.cons_prefix_cons.mp shorter
    unfold front at found
    split at found
    · next digit => exact length_le_number (isNumeral_of_isDigit isLexeme digit) shorter found
    · next digit =>
      split at found
      · next start => exact length_le_word (isWordPart_of_isWordStart isLexeme start) shorter found
      · next start =>
        split at found
        · next quote =>
          subst quote
          obtain ⟨content, unquoted, rfl⟩ := exists_content_of_quote isLexeme
          have enough := length_le_stringLiteral unquoted behind found
          rwa [List.length_cons, List.length_append, List.length_singleton]
        · next quote =>
          obtain ⟨_, member⟩ := exists_mem_marks isLexeme digit start quote
          exact length_le_mark member shorter found

/-! ## Faults -/

theorem mark_ne_unexpected (member : (c :: tail, kind) ∈ marks) (d : Char) :
    mark c source ≠ .unexpected d := by
  unfold mark
  rcases marks_cases member with
    ⟨e, joined, alone, entry, ⟨same, _⟩ | ⟨same, _⟩⟩ |
      ⟨e, missing, same, ⟨slash, _⟩ | ⟨_, entry⟩⟩
  all_goals obtain ⟨rfl, rfl⟩ := List.cons.inj same
  · simp only [entry]
    split <;> simp_all
  · simp only [entry]
    split <;> simp_all
  · subst slash
    nofun
  · simp only [missing, entry]
    split <;> nofun

/-- Where a character is not expected, there is no lexeme and no string literal begins. -/
theorem not_isLexeme_of_front_unexpected {d : Char} (unexpected : front c source = .unexpected d) :
    c ≠ '"' ∧ ∀ other, IsLexeme other → ¬ other <+: c :: source := by
  unfold front at unexpected
  split at unexpected
  · contradiction
  · next digit =>
    split at unexpected
    · contradiction
    · next start =>
      split at unexpected
      · unfold stringLiteral at unexpected
        split at unexpected <;> contradiction
      · next quote =>
        refine ⟨quote, fun other isLexeme shorter => ?_⟩
        cases other with
        | nil =>
          obtain ⟨_, _, spells⟩ := isLexeme
          exact spells.ne_nil rfl
        | cons first tail =>
          obtain ⟨rfl, _⟩ := List.cons_prefix_cons.mp shorter
          obtain ⟨_, member⟩ := exists_mem_marks isLexeme digit start quote
          exact mark_ne_unexpected member d unexpected

/-! ## Lexemes that nothing continues -/

/-- No visible ASCII character is blank. -/
theorem toNat_of_isBlank (blank : Text.isBlank c = true) : c.toNat ≤ 0x20 ∨ 0x7F ≤ c.toNat := by
  obtain ⟨range, member, lower, upper⟩ := (Text.inRanges_eq_true_iff _ _).mp blank
  have outside : ∀ range ∈ Text.blankRanges, range.2 ≤ 0x20 ∨ 0x7F ≤ range.1 := by decide
  have := outside range member
  omega

theorem toNat_of_isWordPart (part : isWordPart c = true) : 0x20 < c.toNat ∧ c.toNat < 0x7F := by
  rw [isWordPart, Bool.or_eq_true, isWordStart_iff] at part
  rcases part with (upper | lower | rfl) | digit
  · omega
  · omega
  · decide
  · have : 0x30 ≤ c.toNat ∧ c.toNat ≤ 0x39 := Char.isDigit_iff_toNat.mp digit
    omega

theorem isBlank_eq_false_of_isWordPart (part : isWordPart c = true) : Text.isBlank c = false := by
  refine Bool.eq_false_iff.mpr fun blank => ?_
  have visible := toNat_of_isWordPart part
  have := toNat_of_isBlank blank
  omega

/-- No lexeme begins with a blank. -/
theorem IsLexeme.isBlank_eq_false (isLexeme : IsLexeme (c :: tail)) : Text.isBlank c = false := by
  rcases isLexeme.start_cases with ⟨digit, _⟩ | ⟨start, _⟩ | ⟨rfl, _⟩ | ⟨kind, member⟩
  · exact isBlank_eq_false_of_isWordPart (by simp [isWordPart, digit])
  · exact isBlank_eq_false_of_isWordPart (by simp [isWordPart, start])
  · decide
  · have every : ∀ entry ∈ marks, entry.1.head?.all (fun d => !Text.isBlank d) = true := by decide
    simpa using every _ member

/-- A lexeme that begins with a slash is just that. -/
theorem IsLexeme.eq_nil_of_slash (isLexeme : IsLexeme ('/' :: tail)) : tail = [] := by
  obtain ⟨kind, member⟩ := exists_mem_marks isLexeme (by decide) (by decide) (by decide)
  have every : ∀ entry ∈ marks, entry.1.head? = some '/' → entry.1.tail = [] := by decide
  exact every _ member rfl

/-- A text that continues no lexeme: it is empty or begins with a blank. -/
def Separates (rest : List Char) : Prop := ∀ c ∈ rest.head?, Text.isBlank c = true

namespace Separates

theorem nil : Separates [] := by simp [Separates]

/-- No part of a word stands at the front. -/
theorem isWordPart_eq_false (separates : Separates rest) :
    ∀ c ∈ rest.head?, isWordPart c = false := by
  intro c first
  refine Bool.eq_false_iff.mpr fun part => ?_
  have visible := isBlank_eq_false_of_isWordPart part
  simp [separates c first] at visible

theorem isDigit_eq_false (separates : Separates rest) : ∀ c ∈ rest.head?, c.isDigit = false := by
  intro c first
  have := separates.isWordPart_eq_false c first
  simp only [isWordPart, Bool.or_eq_false_iff] at this
  exact this.2

/-- A visible character is not at the front. -/
theorem ne_cons (separates : Separates rest) (visible : Text.isBlank c = false) :
    rest ≠ c :: tail := by
  rintro rfl
  simp [separates c rfl] at visible

theorem splitFraction_eq (separates : Separates rest) : splitFraction rest = ([], rest) := by
  unfold splitFraction
  split
  · exact absurd rfl (separates.ne_cons (by decide))
  · rfl

end Separates

theorem number_eq {digits further : List Char} (whole : source.takeWhile Char.isDigit = digits)
    (fraction : splitFraction (source.dropWhile Char.isDigit) = (further, rest)) :
    number source =
      .lexeme .number (.number (Binary64.ofDigits digits further)) (numberText digits further)
        rest := by
  rw [number, whole, fraction]

theorem number_whole {digits : List Char} (separates : Separates rest)
    (areDigits : ∀ c ∈ digits, c.isDigit = true) :
    number (digits ++ rest) =
      .lexeme .number (.number (Binary64.ofDigits digits [])) digits rest := by
  have ends := separates.isDigit_eq_false
  refine number_eq (takeWhile_eq areDigits ends) ?_
  rw [dropWhile_eq areDigits ends]
  exact separates.splitFraction_eq

theorem number_fraction {digits further : List Char} (separates : Separates rest)
    (areDigits : ∀ c ∈ digits, c.isDigit = true) (filled : further ≠ [])
    (furtherDigits : ∀ c ∈ further, c.isDigit = true) :
    number (digits ++ '.' :: further ++ rest) =
      .lexeme .number (.number (Binary64.ofDigits digits further)) (digits ++ '.' :: further)
        rest := by
  obtain ⟨first, others, rfl⟩ := List.exists_cons_of_ne_nil filled
  have ends := separates.isDigit_eq_false
  have point : ∀ c ∈ ('.' :: first :: others ++ rest).head?, c.isDigit = false := by simp
  rw [List.append_assoc]
  refine number_eq (takeWhile_eq areDigits point) ?_
  rw [dropWhile_eq areDigits point]
  simp only [List.cons_append, splitFraction, furtherDigits first List.mem_cons_self, if_true]
  rw [← List.cons_append, takeWhile_eq furtherDigits ends, dropWhile_eq furtherDigits ends]

theorem stringLiteral_of_content {content : List Char} (unquoted : '"' ∉ content) :
    stringLiteral (content ++ '"' :: rest) =
      .lexeme .string (.text (String.ofList content)) ('"' :: content ++ ['"']) rest := by
  have inside := forall_ne_quote unquoted
  have quote : ∀ c ∈ ('"' :: rest).head?, (c != '"') = false := by simp
  simp only [stringLiteral, takeWhile_eq inside quote, dropWhile_eq inside quote]

theorem mark_of_mem_marks (separates : Separates rest) (member : (c :: tail, kind) ∈ marks) :
    mark c (tail ++ rest) = .lexeme kind .nil (c :: tail) rest := by
  have equal : ∀ behind, rest ≠ '=' :: behind := fun _ => separates.ne_cons (by decide)
  unfold mark
  rcases marks_cases member with
    ⟨d, joined, alone, entry, ⟨same, rfl⟩ | ⟨same, rfl⟩⟩ |
      ⟨d, missing, same, ⟨slash, rfl⟩ | ⟨noSlash, entry⟩⟩
  all_goals obtain ⟨rfl, rfl⟩ := List.cons.inj same
  · simp only [entry, List.cons_append, List.nil_append]
  · simp only [entry, List.nil_append]
  · subst slash
    rfl
  · simp [missing, noSlash, entry]

/-- **A lexeme that nothing continues is found as it is.** -/
theorem front_of_spells (spells : Spells kind value (c :: tail)) (separates : Separates rest) :
    front c (tail ++ rest) = .lexeme kind value (c :: tail) rest := by
  unfold front
  generalize whole : c :: tail = lexeme at spells
  cases spells with
  | whole filled digits =>
    subst whole
    rw [if_pos (digits c List.mem_cons_self), ← List.cons_append]
    exact number_whole separates digits
  | fraction filled digits more furtherDigits =>
    have first : c.isDigit = true := by
      obtain ⟨d, others, rfl⟩ := List.exists_cons_of_ne_nil filled
      obtain ⟨rfl, _⟩ := List.cons.inj whole
      exact digits c List.mem_cons_self
    rw [if_pos first, ← List.cons_append, whole]
    exact number_fraction separates digits more furtherDigits
  | word start parts =>
    obtain ⟨rfl, rfl⟩ := List.cons.inj whole
    have digit : ¬ c.isDigit = true := fun digit => by
      simp [isWordStart_eq_false_of_isDigit digit] at start
    have inside : ∀ d ∈ c :: tail, isWordPart d = true :=
      List.forall_mem_cons.mpr ⟨by simp [isWordPart, start], parts⟩
    have ends := separates.isWordPart_eq_false
    rw [if_neg digit, if_pos start, word, ← List.cons_append, takeWhile_eq inside ends,
      dropWhile_eq inside ends]
  | string unquoted =>
    obtain ⟨rfl, rfl⟩ := List.cons.inj whole
    rw [if_neg (by decide), if_neg (by decide), if_pos rfl]
    simpa using stringLiteral_of_content unquoted
  | mark member =>
    subst whole
    obtain ⟨digit, start, quote⟩ := start_of_mem_marks member
    rw [if_neg (by simp [digit]), if_neg (by simp [start]), if_neg quote]
    exact mark_of_mem_marks separates member

/-- **A lexeme determines its kind and its value.** -/
theorem Spells.unique (spells : Spells kind value text) {otherKind : TokenKind}
    {otherValue : Value} (other : Spells otherKind otherValue text) :
    otherKind = kind ∧ otherValue = value := by
  obtain ⟨c, tail, rfl⟩ := List.exists_cons_of_ne_nil spells.ne_nil
  have found := front_of_spells spells .nil
  rw [front_of_spells other .nil] at found
  simp only [Front.lexeme.injEq, and_true] at found
  exact found

end Lexeme
end Lox
