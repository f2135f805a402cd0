import Lox.Scan.Grammar

/-!
# What stands at the front of a text

What `Lexeme.front` finds, said by the lexical grammar: a lexeme is spelled as its kind and value
say (`Lexeme.spells_of_front`), a character that is not expected is the first one of the text, and
a string literal that never ends begins with the first quote of the text and there is no second.
-/

set_option autoImplicit false

namespace Lox.Lexeme

theorem mem_takeWhile {p : Char → Bool} {text : List Char} {c : Char}
    (member : c ∈ text.takeWhile p) : p c = true :=
  List.all_eq_true.mp List.all_takeWhile c member

theorem mem_of_lookup {α β : Type} [BEq α] [LawfulBEq α] {table : List (α × β)} {key : α}
    {found : β} (entry : table.lookup key = some found) : (key, found) ∈ table := by
  obtain ⟨before, behind, rfl, _⟩ := List.lookup_eq_some_iff.mp entry
  simp

section Lexemes

variable {c : Char} {source text rest : List Char} {kind : TokenKind} {value : Value}

/-! ## Lexemes -/

/-- A fraction has digits only. -/
theorem isDigit_of_mem_splitFraction {text : List Char} {c : Char}
    (member : c ∈ (splitFraction text).1) : c.isDigit = true := by
  unfold splitFraction at member
  split at member
  · split at member
    · exact mem_takeWhile member
    · contradiction
  · contradiction

theorem spells_of_number (digit : c.isDigit = true)
    (found : number (c :: source) = .lexeme kind value text rest) : Spells kind value text := by
  simp only [number, Front.lexeme.injEq] at found
  obtain ⟨rfl, rfl, rfl, -⟩ := found
  have filled : (c :: source).takeWhile Char.isDigit ≠ [] := by simp [digit]
  unfold numberText
  split
  · next empty =>
    rw [List.isEmpty_iff.mp empty]
    exact .whole filled fun _ => mem_takeWhile
  · next further =>
    refine .fraction filled (fun _ => mem_takeWhile) (fun empty => further ?_) fun _ member => ?_
    · exact List.isEmpty_iff.mpr empty
    · exact isDigit_of_mem_splitFraction member

theorem spells_of_word (start : isWordStart c = true)
    (found : word (c :: source) = .lexeme kind value text rest) : Spells kind value text := by
  simp only [word, Front.lexeme.injEq] at found
  obtain ⟨rfl, rfl, rfl, -⟩ := found
  rw [List.takeWhile_cons_of_pos (by simp [isWordPart, start])]
  exact .word start fun _ => mem_takeWhile

theorem spells_of_stringLiteral
    (found : stringLiteral source = .lexeme kind value text rest) : Spells kind value text := by
  unfold stringLiteral at found
  split at found
  · contradiction
  · next quote behind remains =>
    have first := List.head?_dropWhile_not (· != '"') source
    rw [remains] at first
    obtain rfl : quote = '"' := by simpa using first
    simp only [Front.lexeme.injEq] at found
    obtain ⟨rfl, rfl, rfl, -⟩ := found
    refine .string fun member => ?_
    simpa using mem_takeWhile member

/-- The marks that an equals sign may follow, and what they become. -/
theorem mem_marks_of_equalSuffixed {joined alone : TokenKind}
    (entry : (c, joined, alone) ∈ TokenKind.equalSuffixed) :
    ([c, '='], joined) ∈ marks ∧ ([c], alone) ∈ marks := by
  simp only [TokenKind.equalSuffixed, List.mem_cons, Prod.mk.injEq, List.not_mem_nil,
    or_false] at entry
  rcases entry with ⟨rfl, rfl, rfl⟩ | ⟨rfl, rfl, rfl⟩ | ⟨rfl, rfl, rfl⟩ | ⟨rfl, rfl, rfl⟩ <;>
    simp [marks]

theorem mem_marks_of_punctuation (entry : (c, kind) ∈ TokenKind.punctuation) :
    ([c], kind) ∈ marks := by
  simp only [TokenKind.punctuation, List.mem_cons, Prod.mk.injEq, List.not_mem_nil,
    or_false] at entry
  rcases entry with ⟨rfl, rfl⟩ | ⟨rfl, rfl⟩ | ⟨rfl, rfl⟩ | ⟨rfl, rfl⟩ | ⟨rfl, rfl⟩ |
    ⟨rfl, rfl⟩ | ⟨rfl, rfl⟩ | ⟨rfl, rfl⟩ | ⟨rfl, rfl⟩ | ⟨rfl, rfl⟩ <;> simp [marks]

theorem spells_of_mark (found : mark c source = .lexeme kind value text rest) :
    Spells kind value text := by
  unfold mark at found
  split at found
  · next entry =>
    simp only [Front.lexeme.injEq] at found
    obtain ⟨rfl, rfl, rfl, -⟩ := found
    exact .mark (mem_marks_of_equalSuffixed (mem_of_lookup entry)).1
  · next entry _ =>
    simp only [Front.lexeme.injEq] at found
    obtain ⟨rfl, rfl, rfl, -⟩ := found
    exact .mark (mem_marks_of_equalSuffixed (mem_of_lookup entry)).2
  · split at found
    · next slash =>
      simp only [Front.lexeme.injEq] at found
      obtain ⟨rfl, rfl, rfl, -⟩ := found
      exact .mark (by simp [slash, marks])
    · split at found
      · next entry =>
        simp only [Front.lexeme.injEq] at found
        obtain ⟨rfl, rfl, rfl, -⟩ := found
        exact .mark (mem_marks_of_punctuation (mem_of_lookup entry))
      · contradiction

/-- **The lexeme at the front of a text is spelled as its kind and value say.** -/
theorem spells_of_front (found : front c source = .lexeme kind value text rest) :
    Spells kind value text := by
  unfold front at found
  split at found
  · next digit => exact spells_of_number digit found
  · split at found
    · next start => exact spells_of_word start found
    · split at found
      · exact spells_of_stringLiteral found
      · exact spells_of_mark found

/-- A word that is not reserved is an identifier. -/
theorem ofWord_cases (word : String) :
    TokenKind.ofWord word = .identifier ∨
      (word, TokenKind.ofWord word) ∈ TokenKind.keywords := by
  unfold TokenKind.ofWord
  cases entry : TokenKind.keywords.lookup word with
  | none => exact .inl rfl
  | some kind => exact .inr (mem_of_lookup entry)

theorem ofWord_ne_endOfInput (word : String) : TokenKind.ofWord word ≠ .endOfInput := by
  rcases ofWord_cases word with identifier | reserved
  · simp [identifier]
  · intro marks
    simp [marks, TokenKind.keywords] at reserved

/-- No lexeme marks the end. -/
theorem Spells.kind_ne_endOfInput (spells : Spells kind value text) : kind ≠ .endOfInput := by
  cases spells with
  | whole => nofun
  | fraction => nofun
  | word => exact ofWord_ne_endOfInput _
  | string => nofun
  | mark member =>
    rintro rfl
    simp [marks] at member

/-! ## Faults -/

theorem eq_of_mark_unexpected {found : Char} (unexpected : mark c source = .unexpected found) :
    found = c := by
  unfold mark at unexpected
  split at unexpected
  · contradiction
  · contradiction
  · split at unexpected
    · contradiction
    · split at unexpected
      · contradiction
      · exact (Front.unexpected.inj unexpected).symm

theorem mark_ne_unterminated : mark c source ≠ .unterminated := by
  unfold mark
  split
  · nofun
  · nofun
  · split
    · nofun
    · split <;> nofun

/-- A character that is not expected is the first one. -/
theorem eq_of_front_unexpected {found : Char} (unexpected : front c source = .unexpected found) :
    found = c := by
  unfold front at unexpected
  split at unexpected
  · contradiction
  · split at unexpected
    · contradiction
    · split at unexpected
      · unfold stringLiteral at unexpected
        split at unexpected <;> contradiction
      · exact eq_of_mark_unexpected unexpected

/-- A string literal that never ends begins with a quote, and there is no other. -/
theorem of_front_unterminated (unterminated : front c source = .unterminated) :
    c = '"' ∧ '"' ∉ source := by
  unfold front at unterminated
  split at unterminated
  · contradiction
  · split at unterminated
    · contradiction
    · split at unterminated
      · next quote =>
        unfold stringLiteral at unterminated
        split at unterminated
        · next remains =>
          refine ⟨quote, fun member => ?_⟩
          have whole := List.takeWhile_append_dropWhile (p := (· != '"')) (l := source)
          rw [remains, List.append_nil] at whole
          rw [← whole] at member
          simpa using mem_takeWhile member
        · contradiction
      · exact absurd unterminated mark_ne_unterminated

end Lexemes

end Lox.Lexeme
