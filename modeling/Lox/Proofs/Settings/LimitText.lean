import Lox.Proofs.Scan.Longest
import Lox.Settings
import Mathlib.Data.Nat.Digits.Defs

/-!
# Limits as text

A limit on nesting is read from a text in which an integer stands between blanks. The relations
`DepthLimit.Writes` and `DepthLimit.WritesInteger` say which integers a text writes: digits of any
script with single underscores between them, and a sign in front. The reader finds exactly these
(`DepthLimit.integer?_eq_some_iff`), apart from the few texts that stand for no limit
(`DepthLimit.read_eq_ok_none_iff`, `DepthLimit.read_eq_ok_some_iff`).

The decimal numeral of an integer writes it, and so do its spellings with zeros in front. So a limit
that was written is read back (`DepthLimit.read_decimal`).
-/

set_option autoImplicit false

namespace Lox

namespace Text

variable {c : Char} {digit : Nat}

/-! ## Decimal digits -/

/-- A decimal digit lies in the block of digits of its script. -/
theorem exists_block_of_decimalDigit? (found : decimalDigit? c = some digit) :
    ∃ start ∈ digitZeros, start ≤ c.toNat ∧ c.toNat < start + 10 := by
  obtain ⟨start, block, -⟩ := Option.map_eq_some_iff.mp found
  exact ⟨start, List.mem_of_find?_eq_some block, by simpa using List.find?_some block⟩

/-- No decimal digit of any script is blank. -/
theorem isBlank_of_decimalDigit? (found : decimalDigit? c = some digit) : isBlank c = false := by
  obtain ⟨start, listed, lower, upper⟩ := exists_block_of_decimalDigit? found
  refine Bool.eq_false_iff.mpr fun blank => ?_
  obtain ⟨range, blankRange, first, last⟩ := (inRanges_eq_true_iff _ _).mp blank
  have apart : ∀ start ∈ digitZeros, ∀ range ∈ blankRanges,
      range.2 < start ∨ start + 10 ≤ range.1 := by decide
  have := apart start listed range blankRange
  omega

/-- Behind the digits of ASCII, the next ones are far away. -/
theorem decimalDigit?_eq_none (behind : 0x3A ≤ c.toNat) (before : c.toNat < 0x660) :
    decimalDigit? c = none := by
  refine Option.eq_none_iff_forall_ne_some.mpr fun digit found => ?_
  obtain ⟨start, listed, lower, upper⟩ := exists_block_of_decimalDigit? found
  have apart : ∀ start ∈ digitZeros, start + 10 ≤ 0x3A ∨ 0x660 ≤ start := by decide
  have := apart start listed
  omega

/-- The digits of ASCII have their usual values. -/
theorem decimalDigit?_of_isDigit (plain : c.isDigit = true) :
    decimalDigit? c = some (c.toNat - '0'.toNat) := by
  have range : 0x30 ≤ c.toNat ∧ c.toNat ≤ 0x39 := Char.isDigit_iff_toNat.mp plain
  have block : (0x30 ≤ c.toNat && c.toNat < 0x30 + 10) = true := by
    simp only [Bool.and_eq_true, decide_eq_true_eq]
    omega
  have found : digitZeros.find? (fun start => start ≤ c.toNat && c.toNat < start + 10) =
      some 0x30 := List.find?_cons_of_pos block
  rw [decimalDigit?, found]
  rfl

/-! ## Lower case -/

/-- Only a capital letter of ASCII becomes another character. -/
theorem toLower_cases (c : Char) : c.toLower = c ∨
    (0x41 ≤ c.toNat ∧ c.toNat ≤ 0x5A) ∧ c.toLower.toNat = c.toNat + 0x20 := by
  unfold Char.toLower
  split
  · next capital =>
    have lower : 0x41 ≤ c.toNat := UInt32.le_iff_toNat_le.mp capital.1
    have upper : c.toNat ≤ 0x5A := UInt32.le_iff_toNat_le.mp capital.2
    refine .inr ⟨⟨lower, upper⟩, ?_⟩
    change (c.toNat + 0x20) % 2 ^ 32 = c.toNat + 0x20
    omega
  · exact .inl rfl

/-- A character that is no letter is the lower-case form of itself only. -/
theorem toLower_eq_iff {other : Char} (noLetter : other.toNat < 0x61 ∧ other.toLower = other) :
    c.toLower = other ↔ c = other := by
  constructor
  · rintro rfl
    rcases toLower_cases c with same | ⟨_, shifted⟩
    · exact same.symm
    · omega
  · rintro rfl
    exact noLetter.2

theorem decimalDigit?_toLower (c : Char) : decimalDigit? c.toLower = decimalDigit? c := by
  rcases toLower_cases c with same | ⟨⟨lower, upper⟩, shifted⟩
  · rw [same]
  · rw [decimalDigit?_eq_none (by omega) (by omega), decimalDigit?_eq_none (by omega) (by omega)]

/-! ## Blanks at the ends -/

/-- Blanks at the ends of a text are taken off, up to characters that are none. -/
theorem strip_append {before text behind : List Char} (blankBefore : ∀ c ∈ before, isBlank c = true)
    (blankBehind : ∀ c ∈ behind, isBlank c = true) (filled : text ≠ [])
    (first : ∀ c ∈ text.head?, isBlank c = false)
    (last : ∀ c ∈ text.getLast?, isBlank c = false) :
    strip (before ++ text ++ behind) = text := by
  have starts : ∀ c ∈ (text ++ behind).head?, isBlank c = false := by
    obtain ⟨c, rest, rfl⟩ := List.exists_cons_of_ne_nil filled
    exact first
  have ends : ∀ c ∈ text.reverse.head?, isBlank c = false := by rwa [List.head?_reverse]
  have turned : ∀ c ∈ behind.reverse, isBlank c = true := by simpa using blankBehind
  rw [strip, List.append_assoc, Lexeme.dropWhile_eq blankBefore starts, List.reverse_append,
    Lexeme.dropWhile_eq turned ends, List.reverse_reverse]

end Text

namespace DepthLimit

open Text

/-! ## Texts that write numbers -/

/-- The texts that write some digits, of any script. Single underscores may stand between them. -/
inductive Writes : List Char → List Nat → Prop
  | last {c : Char} {digit : Nat} : decimalDigit? c = some digit → Writes [c] [digit]
  | next {c : Char} {digit : Nat} {text : List Char} {digits : List Nat} :
      decimalDigit? c = some digit → Writes text digits → Writes (c :: text) (digit :: digits)
  | apart {c : Char} {digit : Nat} {text : List Char} {digits : List Nat} :
      decimalDigit? c = some digit → Writes text digits →
        Writes (c :: '_' :: text) (digit :: digits)

/-- What may stand behind a digit: nothing, or further digits. -/
inductive Follows : List Char → List Nat → Prop
  | nothing : Follows [] []
  | next {text : List Char} {digits : List Nat} : Writes text digits → Follows text digits
  | apart {text : List Char} {digits : List Nat} : Writes text digits → Follows ('_' :: text) digits

/-- A text writes a natural number in base ten. The number of its digits is bounded, zeros in front
included. -/
def WritesNatural (text : List Char) (number : Nat) : Prop :=
  ∃ digits, Writes text digits ∧ digits.length ≤ maxDigits ∧
    Nat.ofDigits 10 digits.reverse = number

/-- The integers that a text writes, with a sign or without one. -/
inductive WritesInteger : List Char → Int → Prop
  | unsigned {text : List Char} {number : Nat} :
      WritesNatural text number → WritesInteger text number
  | plus {text : List Char} {number : Nat} :
      WritesNatural text number → WritesInteger ('+' :: text) number
  | minus {text : List Char} {number : Nat} :
      WritesNatural text number → WritesInteger ('-' :: text) (-number)

variable {text : List Char} {digits : List Nat} {c : Char}

theorem writes_cons_iff : Writes (c :: text) digits ↔
    ∃ digit rest, decimalDigit? c = some digit ∧ Follows text rest ∧ digits = digit :: rest := by
  constructor
  · intro writes
    cases writes with
    | last found => exact ⟨_, _, found, .nothing, rfl⟩
    | next found writes => exact ⟨_, _, found, .next writes, rfl⟩
    | apart found writes => exact ⟨_, _, found, .apart writes, rfl⟩
  · rintro ⟨digit, rest, found, follows, rfl⟩
    cases follows with
    | nothing => exact .last found
    | next writes => exact .next found writes
    | apart writes => exact .apart found writes

theorem not_writes_of_decimalDigit?_eq_none (none : decimalDigit? c = none) :
    ¬ Writes (c :: text) digits := by
  rw [writes_cons_iff]
  rintro ⟨digit, rest, found, -⟩
  simp [none] at found

/-! ## Reading numbers -/

/-- The reader finds the digits that a text writes, from its start as from behind a digit. -/
theorem digits?_eq_some_iff (text : List Char) (digits : List Nat) :
    (digits? false text = some digits ↔ Writes text digits) ∧
      (digits? true text = some digits ↔ Follows text digits) := by
  induction text generalizing digits with
  | nil =>
    refine ⟨⟨fun found => ?_, fun writes => ?_⟩, ⟨fun found => ?_, fun follows => ?_⟩⟩
    · cases found
    · cases writes
    · cases found
      exact .nothing
    · cases follows with
      | nothing => rfl
      | next writes => cases writes
  | cons c text ih =>
    by_cases underscore : c = '_'
    · have noDigit : decimalDigit? c = none := by
        rw [underscore]
        decide
      have noStart : ¬ Writes (c :: text) digits := not_writes_of_decimalDigit?_eq_none noDigit
      simp only [digits?, underscore, if_true] at noStart ⊢
      refine ⟨⟨fun found => ?_, fun writes => absurd writes noStart⟩,
        ⟨fun found => ?_, fun follows => ?_⟩⟩
      · cases found
      · exact .apart ((ih digits).1.mp found)
      · cases follows with
        | next writes => exact absurd writes noStart
        | apart writes => exact (ih digits).1.mpr writes
    · have start (afterDigit : Bool) :
          digits? afterDigit (c :: text) = some digits ↔ Writes (c :: text) digits := by
        rw [writes_cons_iff, digits?, if_neg underscore]
        cases found : decimalDigit? c with
        | none => simp
        | some digit => simp [(ih _).2, eq_comm]
      refine ⟨start false, (start true).trans ⟨.next, fun follows => ?_⟩⟩
      cases follows with
      | next writes => exact writes
      | apart => exact absurd rfl underscore

theorem ofDigits_reverse (digits : List Nat) : Nat.ofDigits 10 digits.reverse =
    digits.foldl (fun value digit => 10 * value + digit) 0 := by
  simp [Nat.ofDigits_eq_foldr, Nat.add_comm]

theorem natural?_eq_some_iff {number : Nat} :
    natural? text = some number ↔ WritesNatural text number := by
  simp [natural?, WritesNatural, Option.bind_eq_some_iff, (digits?_eq_some_iff _ _).1,
    ofDigits_reverse]

/-- **The reader finds the integers that a text writes.** -/
theorem integer?_eq_some_iff {integer : Int} :
    integer? text = some integer ↔ WritesInteger text integer := by
  constructor
  · intro found
    unfold integer? at found
    split at found
    all_goals obtain ⟨number, read, rfl⟩ := Option.map_eq_some_iff.mp found
    · exact .plus (natural?_eq_some_iff.mp read)
    · exact .minus (natural?_eq_some_iff.mp read)
    · exact .unsigned (natural?_eq_some_iff.mp read)
  · intro writes
    cases writes with
    | unsigned writes =>
      -- A text that writes digits begins with one, and a sign is none.
      unfold integer?
      split
      · obtain ⟨digits, begun, -⟩ := writes
        exact absurd begun (not_writes_of_decimalDigit?_eq_none (by decide))
      · obtain ⟨digits, begun, -⟩ := writes
        exact absurd begun (not_writes_of_decimalDigit?_eq_none (by decide))
      · simp [natural?_eq_some_iff.mpr writes]
    | plus writes => simp [integer?, natural?_eq_some_iff.mpr writes]
    | minus writes => simp [integer?, natural?_eq_some_iff.mpr writes]

/-- A text writes one integer at most. -/
theorem WritesInteger.unique {first second : Int} (writes : WritesInteger text first)
    (other : WritesInteger text second) : first = second :=
  Option.some.inj ((integer?_eq_some_iff.mpr writes).symm.trans (integer?_eq_some_iff.mpr other))

theorem WritesInteger.ne_zero {integer : Int} (writes : WritesInteger text integer)
    (nonzero : integer ≠ 0) : text ≠ ['0'] := by
  rintro rfl
  have zero : WritesInteger ['0'] 0 := integer?_eq_some_iff.mp (by decide)
  exact nonzero (writes.unique zero)

/-! ## The case of letters -/

theorem digits?_map_toLower (afterDigit : Bool) (text : List Char) :
    digits? afterDigit (text.map Char.toLower) = digits? afterDigit text := by
  induction text generalizing afterDigit with
  | nil => rfl
  | cons c text ih =>
    have underscore : c.toLower = '_' ↔ c = '_' := toLower_eq_iff (by decide)
    simp only [List.map_cons, digits?, underscore, ih, decimalDigit?_toLower]

theorem natural?_map_toLower (text : List Char) :
    natural? (text.map Char.toLower) = natural? text := by
  rw [natural?, digits?_map_toLower, natural?]

theorem integer?_map_toLower (text : List Char) :
    integer? (text.map Char.toLower) = integer? text := by
  cases text with
  | nil => rfl
  | cons c text =>
    by_cases positive : c = '+'
    · simp [positive, integer?, natural?_map_toLower]
    · by_cases negative : c = '-'
      · simp [negative, integer?, natural?_map_toLower]
      · have plus : c.toLower = '+' ↔ c = '+' := toLower_eq_iff (by decide)
        have minus : c.toLower = '-' ↔ c = '-' := toLower_eq_iff (by decide)
        have whole := natural?_map_toLower (c :: text)
        rw [List.map_cons] at whole ⊢
        rw [integer?, integer?, whole] <;> simp_all

/-! ## Reading limits -/

/-- A text stands for no limit, in upper or lower case. -/
def Unlimited (text : List Char) : Prop :=
  String.ofList (text.map Char.toLower) ∈ unlimitedTexts

theorem unlimited_iff :
    Unlimited text ↔ text = [] ∨ text.map Char.toLower = "none".toList ∨ text = ['0'] := by
  have noDigit : text.map Char.toLower = "0".toList ↔ text = ['0'] := by
    have zero (c : Char) : c.toLower = '0' ↔ c = '0' := toLower_eq_iff (by decide)
    simp [List.map_eq_cons_iff, zero]
  have same (word : String) :
      String.ofList (text.map Char.toLower) = word ↔ text.map Char.toLower = word.toList := by
    rw [← String.toList_inj, String.toList_ofList]
  simp only [Unlimited, unlimitedTexts, List.mem_cons, List.not_mem_nil, or_false, same, noDigit]
  simp

/-- Of the texts that stand for no limit, only that of zero writes an integer. -/
theorem WritesInteger.not_unlimited {integer : Int} (writes : WritesInteger text integer)
    (noZero : text ≠ ['0']) : ¬ Unlimited text := by
  rw [unlimited_iff]
  rintro (rfl | word | zero)
  · have := integer?_eq_some_iff.mpr writes
    contradiction
  · have read := integer?_eq_some_iff.mpr writes
    have unread : integer? "none".toList = none := by decide
    rw [← integer?_map_toLower, word, unread] at read
    contradiction
  · exact noZero zero

variable {raw : String}

/-- What is read from a text that stands for no limit, that writes a limit, and from all others. -/
theorem read_cases (raw : String) :
    Unlimited (strip raw.toList) ∧ read raw = .ok none ∨
      ¬ Unlimited (strip raw.toList) ∧
        ((∃ limit : Nat, WritesInteger (strip raw.toList) limit ∧ read raw = .ok (some limit)) ∨
          (∀ limit : Nat, ¬ WritesInteger (strip raw.toList) limit) ∧
            read raw = .error (.unreadableLimit raw)) := by
  by_cases unlimited : Unlimited (strip raw.toList)
  · exact .inl ⟨unlimited, if_pos (List.contains_iff_mem.mpr unlimited)⟩
  · refine .inr ⟨unlimited, ?_⟩
    rw [read, if_neg fun listed => unlimited (List.contains_iff_mem.mp listed),
      integer?_map_toLower]
    split
    · next limit found => exact .inl ⟨limit, integer?_eq_some_iff.mp found, rfl⟩
    · next unfound =>
      exact .inr ⟨fun limit writes => unfound limit (integer?_eq_some_iff.mpr writes), rfl⟩

theorem read_eq_ok_none_iff : read raw = .ok none ↔ Unlimited (strip raw.toList) := by
  rcases read_cases raw with ⟨unlimited, read⟩ | ⟨limited, ⟨_, _, read⟩ | ⟨_, read⟩⟩
  · simp [read, unlimited]
  · simp [read, limited]
  · simp [read, limited]

/-- **A limit is read exactly if the text between the blanks writes it**, and is not the one zero
that stands for no limit. -/
theorem read_eq_ok_some_iff {limit : Nat} : read raw = .ok (some limit) ↔
    WritesInteger (strip raw.toList) limit ∧ strip raw.toList ≠ ['0'] := by
  rcases read_cases raw with ⟨unlimited, read⟩ | ⟨limited, ⟨other, writes, read⟩ | ⟨unread, read⟩⟩
  · rw [read]
    constructor
    · rintro ⟨⟩
    · rintro ⟨writes, noZero⟩
      exact absurd unlimited (writes.not_unlimited noZero)
  · have noZero : strip raw.toList ≠ ['0'] := fun same =>
      limited (unlimited_iff.mpr (.inr (.inr same)))
    rw [read, Except.ok.injEq, Option.some.injEq]
    refine ⟨fun same => ⟨same ▸ writes, noZero⟩, fun given => ?_⟩
    exact Int.natCast_inj.mp (writes.unique given.1)
  · simp [read, unread]

/-- Where no limit is read, the error names the text, with the blanks around it. -/
theorem read_eq_error_iff {error : SettingsError} : read raw = .error error ↔
    error = .unreadableLimit raw ∧ ¬ Unlimited (strip raw.toList) ∧
      ∀ limit : Nat, ¬ WritesInteger (strip raw.toList) limit := by
  rcases read_cases raw with ⟨unlimited, read⟩ | ⟨limited, ⟨other, writes, read⟩ | ⟨unread, read⟩⟩
  · simp [read, unlimited]
  · simp only [read, reduceCtorEq, false_iff]
    exact fun given => given.2.2 other writes
  · simp [read, limited, unread, eq_comm]

/-! ## Texts between blanks -/

theorem Writes.ne_nil (writes : Writes text digits) : text ≠ [] := by
  rintro rfl
  cases writes

/-- A text that writes digits begins and ends with one. -/
theorem Writes.ends_not_blank (writes : Writes text digits) :
    (∀ c ∈ text.head?, isBlank c = false) ∧ ∀ c ∈ text.getLast?, isBlank c = false := by
  induction writes with
  | last found => simpa using isBlank_of_decimalDigit? found
  | @next c digit text digits found writes ih =>
    obtain ⟨d, rest, rfl⟩ := List.exists_cons_of_ne_nil writes.ne_nil
    simp only [List.getLast?_cons_cons]
    exact ⟨by simpa using isBlank_of_decimalDigit? found, ih.2⟩
  | @apart c digit text digits found writes ih =>
    obtain ⟨d, rest, rfl⟩ := List.exists_cons_of_ne_nil writes.ne_nil
    simp only [List.getLast?_cons_cons]
    exact ⟨by simpa using isBlank_of_decimalDigit? found, ih.2⟩

/-- Blanks around a text that writes an integer are taken off, and nothing else is. -/
theorem WritesInteger.strip_append {before behind : List Char} {integer : Int}
    (writes : WritesInteger text integer) (blankBefore : ∀ c ∈ before, isBlank c = true)
    (blankBehind : ∀ c ∈ behind, isBlank c = true) : strip (before ++ text ++ behind) = text := by
  have signed {sign : Char} {text : List Char} {number : Nat} (visible : isBlank sign = false)
      (writes : WritesNatural text number) :
      strip (before ++ sign :: text ++ behind) = sign :: text := by
    obtain ⟨digits, writes, -⟩ := writes
    refine Text.strip_append blankBefore blankBehind (List.cons_ne_nil _ _) ?_ ?_
    · simpa using visible
    · obtain ⟨d, rest, rfl⟩ := List.exists_cons_of_ne_nil writes.ne_nil
      rw [List.getLast?_cons_cons]
      exact writes.ends_not_blank.2
  cases writes with
  | unsigned writes =>
    obtain ⟨digits, writes, -⟩ := writes
    exact Text.strip_append blankBefore blankBehind writes.ne_nil writes.ends_not_blank.1
      writes.ends_not_blank.2
  | plus writes => exact signed (by decide) writes
  | minus writes => exact signed (by decide) writes

/-! ## Decimal numerals -/

/-- Digits of ASCII write their values. -/
theorem writes_of_isDigit (filled : text ≠ []) (plain : ∀ c ∈ text, c.isDigit = true) :
    Writes text (text.map fun c => c.toNat - '0'.toNat) := by
  induction text with
  | nil => contradiction
  | cons c text ih =>
    have first := decimalDigit?_of_isDigit (plain c List.mem_cons_self)
    cases text with
    | nil => exact .last first
    | cons d text =>
      exact .next first (ih (List.cons_ne_nil _ _) fun c member =>
        plain c (List.mem_cons_of_mem _ member))

/-- A natural number is written by its decimal numeral. -/
theorem writesNatural_toDigits {number : Nat}
    (short : (Nat.toDigits 10 number).length ≤ maxDigits) :
    WritesNatural (Nat.toDigits 10 number) number := by
  refine ⟨_, writes_of_isDigit ?_ ?_, ?_, ?_⟩
  · exact List.length_pos_iff.mp Nat.length_toDigits_pos
  · exact fun c => Nat.isDigit_of_mem_toDigits (by decide) (by decide)
  · simpa using short
  · rw [ofDigits_reverse, List.foldl_map]
    exact Nat.ofDigitChars_ten_toDigits

/-- An integer is written by its decimal numeral. -/
theorem writesInteger_decimal {integer : Int}
    (short : (Nat.toDigits 10 integer.natAbs).length ≤ maxDigits) :
    WritesInteger (Text.decimal integer).toList integer := by
  have writes := writesNatural_toDigits short
  rw [Text.decimal, String.toList_ofList]
  split
  · next negative =>
    have signed := WritesInteger.minus writes
    rwa [show -(integer.natAbs : Int) = integer by omega] at signed
  · next natural =>
    have unsigned := WritesInteger.unsigned writes
    rwa [show (integer.natAbs : Int) = integer by omega] at unsigned

/-- A limit above zero is read from each text that writes it, with any blanks around. -/
theorem read_of_writes {before behind : List Char} {limit : Nat}
    (writes : WritesInteger text limit) (positive : 0 < limit)
    (blankBefore : ∀ c ∈ before, isBlank c = true) (blankBehind : ∀ c ∈ behind, isBlank c = true) :
    read (String.ofList (before ++ text ++ behind)) = .ok (some limit) := by
  rw [read_eq_ok_some_iff, String.toList_ofList, writes.strip_append blankBefore blankBehind]
  exact ⟨writes, writes.ne_zero (by omega)⟩

/-- **A limit that was written is read back.** An integer has at most the greatest number of digits,
and its decimal numeral stands between any blanks. Then it is read as the limit if it is positive,
and as no limit if it is zero. If it is negative, it is an error that shows the text with its
blanks. A positive limit is also read from every other text that writes it, with zeros in front or
with underscores between its digits. -/
theorem read_decimal {before behind : List Char} {integer : Int}
    (blankBefore : ∀ c ∈ before, isBlank c = true) (blankBehind : ∀ c ∈ behind, isBlank c = true)
    (short : (Nat.toDigits 10 integer.natAbs).length ≤ maxDigits) :
    let raw := String.ofList (before ++ (Text.decimal integer).toList ++ behind)
    (0 < integer → read raw = .ok (some integer.toNat)) ∧
      (integer = 0 → read raw = .ok none) ∧
      (integer < 0 → read raw = .error (.unreadableLimit raw) ∧
        (SettingsError.unreadableLimit raw).message =
          "invalid max depth: " ++ Text.quoted raw) ∧
      ∀ text, 0 < integer → WritesNatural text integer.toNat →
        read (String.ofList (before ++ text ++ behind)) = .ok (some integer.toNat) := by
  intro raw
  have writes := writesInteger_decimal short
  have stripped : strip raw.toList = (Text.decimal integer).toList := by
    rw [String.toList_ofList, writes.strip_append blankBefore blankBehind]
  refine ⟨fun positive => ?_, fun zero => ?_, fun negative => ⟨?_, rfl⟩, ?_⟩
  · obtain ⟨limit, rfl⟩ := Int.eq_ofNat_of_zero_le (Int.le_of_lt positive)
    exact read_of_writes writes (by omega) blankBefore blankBehind
  · rw [read_eq_ok_none_iff, stripped, zero, unlimited_iff]
    exact .inr (.inr rfl)
  · rw [read_eq_error_iff, stripped]
    refine ⟨rfl, writes.not_unlimited (writes.ne_zero (by omega)), fun limit other => ?_⟩
    have := writes.unique other
    omega
  · intro text positive writes
    exact read_of_writes (.unsigned writes) (by omega) blankBefore blankBehind

/-- Twelve is read between a tab and a wide space, also with a zero in front, an underscore and a
digit of another script. -/
theorem read_decimal_twelve :
    (Nat.toDigits 10 12).length ≤ maxDigits ∧ WritesNatural ['0', '_', '1', '\u0662'] 12 ∧
      read "\t12\u3000" = .ok (some 12) ∧ read "\t0_1\u0662\u3000" = .ok (some 12) := by
  have blankBefore : ∀ c ∈ ['\t'], isBlank c = true := by
    intro c member
    obtain rfl := List.mem_singleton.mp member
    decide
  have blankBehind : ∀ c ∈ ['\u3000'], isBlank c = true := by
    intro c member
    obtain rfl := List.mem_singleton.mp member
    decide
  have short : (Nat.toDigits 10 (12 : Int).natAbs).length ≤ maxDigits := by decide
  have writes : WritesNatural ['0', '_', '1', '\u0662'] 12 :=
    ⟨[0, 1, 2], .apart rfl (.next rfl (.last rfl)), by decide, rfl⟩
  obtain ⟨decimal, -, -, spelled⟩ := read_decimal blankBefore blankBehind short
  have plain : String.ofList (['\t'] ++ (Text.decimal 12).toList ++ ['\u3000']) =
      "\t12\u3000" := rfl
  have other : String.ofList (['\t'] ++ ['0', '_', '1', '\u0662'] ++ ['\u3000']) =
      "\t0_1\u0662\u3000" := rfl
  have decimal := decimal (by decide)
  have spelled := spelled _ (by decide) writes
  rw [plain] at decimal
  rw [other] at spelled
  exact ⟨short, writes, decimal, spelled⟩

end DepthLimit
end Lox
