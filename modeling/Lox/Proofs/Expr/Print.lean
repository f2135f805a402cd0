import Lox.Expr
import Lox.Parse.Grammar
import Lox.Proofs.Number.Spelling
import Lox.Proofs.Scan.Longest

/-!
# The printed form determines the tree

A literal is printed as an atom, a text without spaces and parentheses, unless it is a text that is
none (`Value.isAtom_print`). Everything else is printed in parentheses: a name, and the operands
behind spaces.

Where a tree begins in a text, its end can be told without knowing what follows, since an atom ends
at the next space or parenthesis, and a name says how many operands there may be. So two trees
that print alike have the same nodes, the same operators and the same texts of literals
(`Expr.print_eq_print_iff`).
-/

set_option autoImplicit false

namespace Lox

/-! ## Atoms -/

/-- Whether a character is a space or a parenthesis. -/
def Text.isDelimiter (c : Char) : Bool := c == ' ' || c == '(' || c == ')'

/-- A text that is not empty and has neither spaces nor parentheses. -/
def Text.IsAtom (text : String) : Prop :=
  text.toList ≠ [] ∧ text.toList.any isDelimiter = false

instance (text : String) : Decidable (Text.IsAtom text) :=
  inferInstanceAs (Decidable (_ ∧ _))

theorem Text.IsAtom.isDelimiter_eq_false {text : String} (atom : IsAtom text) :
    ∀ c ∈ text.toList, isDelimiter c = false :=
  fun c member => Bool.eq_false_iff.mpr (List.any_eq_false.mp atom.2 c member)

theorem Spelling.isDelimiter_eq_false {c : Char} (numeric : isNumeric c = true) :
    Text.isDelimiter c = false := by
  refine Bool.eq_false_iff.mpr fun delimiter => ?_
  simp only [Text.isDelimiter, Bool.or_eq_true, beq_iff_eq] at delimiter
  rcases delimiter with (rfl | rfl) | rfl <;> revert numeric <;> decide

theorem Text.isAtom_of_isNumeric {text : String} (filled : text.toList ≠ [])
    (numeric : ∀ c ∈ text.toList, Spelling.isNumeric c = true) : IsAtom text :=
  ⟨filled, List.any_eq_false.mpr fun c member => by
    simp [Spelling.isDelimiter_eq_false (numeric c member)]⟩

theorem Text.decimal_ne_nil (integer : Int) : (Text.decimal integer).toList ≠ [] := by
  have digits : Nat.toDigits 10 integer.natAbs ≠ [] :=
    List.length_pos_iff.mp Nat.length_toDigits_pos
  simp only [Text.decimal, String.toList_ofList]
  split
  · exact List.cons_ne_nil _ _
  · exact digits

theorem Spelling.plain_ne_nil (decimal : Decimal) : plain decimal ≠ [] := by
  unfold plain
  split <;> simp

theorem Spelling.number_ne_nil (binary : Binary64) : (standard.number binary).toList ≠ [] := by
  unfold number
  split
  · decide
  · next negative => cases negative <;> decide
  · rw [String.toList_append, String.toList_ofList]
    refine List.append_ne_nil_of_right_ne_nil _ ?_
    split
    · decide
    · unfold Spelling.decimal
      split
      · exact plain_ne_nil _
      · exact List.ne_nil_of_mem e_mem_scientific

/-- **A value that is no text is printed as an atom.** -/
theorem Value.isAtom_print {value : Value} (noText : ∀ characters, value ≠ .text characters) :
    Text.IsAtom value.print := by
  cases value with
  | nil => decide
  | truth holds => cases holds <;> decide
  | number binary =>
    refine Text.isAtom_of_isNumeric ?_ fun _ => Value.isNumeric_of_mem_print
    simp only [Value.print]
    split
    · exact Text.decimal_ne_nil _
    · exact Spelling.number_ne_nil binary
  | integer count =>
    exact Text.isAtom_of_isNumeric (Text.decimal_ne_nil count) fun _ =>
      Text.isNumeric_of_mem_decimal
  | text characters => exact absurd rfl (noText characters)

/-! ## Trees whose text can be read -/

/-- The texts of the marks of the given kinds. -/
def Lexeme.textsOf (kinds : List TokenKind) : List String :=
  (marks.filter (kinds.contains ·.2)).map (String.ofList ·.1)

example : Lexeme.textsOf unaryOperators = ["-", "!"] := by decide

example : Lexeme.textsOf binaryOperators =
    ["-", "+", "/", "*", "!=", "==", ">", ">=", "<", "<="] := by decide

namespace Expr

/-- A tree whose operators have the texts of operators and whose literals are printed as atoms. -/
inductive Legible : Expr → Prop
  | literal {value : Value} : Text.IsAtom value.print → Legible (.literal value)
  | grouping {inner : Expr} : Legible inner → Legible (.grouping inner)
  | unary {operator : Token} {operand : Expr} :
      operator.lexeme ∈ Lexeme.textsOf unaryOperators → Legible operand →
        Legible (.unary operator operand)
  | binary {operator : Token} {left right : Expr} :
      operator.lexeme ∈ Lexeme.textsOf binaryOperators → Legible left → Legible right →
        Legible (.binary left operator right)

/-- Two trees with the same nodes, the same texts of operators and the same texts of literals. -/
inductive Alike : Expr → Expr → Prop
  | literal {first second : Value} :
      first.print = second.print → Alike (.literal first) (.literal second)
  | grouping {first second : Expr} :
      Alike first second → Alike (.grouping first) (.grouping second)
  | unary {operator operator' : Token} {operand operand' : Expr} :
      operator.lexeme = operator'.lexeme → Alike operand operand' →
        Alike (.unary operator operand) (.unary operator' operand')
  | binary {operator operator' : Token} {left left' right right' : Expr} :
      operator.lexeme = operator'.lexeme → Alike left left' → Alike right right' →
        Alike (.binary left operator right) (.binary left' operator' right')

/-- Trees that are alike print alike. -/
theorem Alike.print_eq {first second : Expr} (alike : first.Alike second) :
    first.print = second.print := by
  induction alike with
  | literal same => exact same
  | grouping _ ih => rw [print, print, ih]
  | unary same _ ih => rw [print, print, same, ih]
  | binary same _ _ left right => rw [print, print, same, left, right]

/-! ## The parts of a printed tree -/

section Parts

variable {name name' rest rest' : List Char} {operator : Token}

theorem grouping_append (inner : Expr) (rest : List Char) :
    (grouping inner).print.toList ++ rest =
      '(' :: ("group".toList ++ ' ' :: (inner.print.toList ++ ')' :: rest)) := by
  simp [print]

theorem unary_append (operator : Token) (operand : Expr) (rest : List Char) :
    (unary operator operand).print.toList ++ rest =
      '(' :: (operator.lexeme.toList ++ ' ' :: (operand.print.toList ++ ')' :: rest)) := by
  simp [print]

theorem binary_append (left : Expr) (operator : Token) (right : Expr) (rest : List Char) :
    (binary left operator right).print.toList ++ rest =
      '(' :: (operator.lexeme.toList ++
        ' ' :: (left.print.toList ++ ' ' :: (right.print.toList ++ ')' :: rest))) := by
  simp [print]

/-- What may stand behind a tree: nothing, or a delimiter. -/
def Ends (rest : List Char) : Prop := ∀ c ∈ rest.head?, Text.isDelimiter c = true

theorem ends_cons {c : Char} (delimiter : Text.isDelimiter c = true) : Ends (c :: rest) := by
  simpa [Ends] using delimiter

/-- Texts without delimiters end where a delimiter begins. -/
theorem append_inj_of_ends (inside : ∀ c ∈ name, Text.isDelimiter c = false)
    (inside' : ∀ c ∈ name', Text.isDelimiter c = false) (ends : Ends rest) (ends' : Ends rest')
    (same : name ++ rest = name' ++ rest') : name = name' ∧ rest = rest' := by
  have within {name : List Char} (inside : ∀ c ∈ name, Text.isDelimiter c = false) :
      ∀ c ∈ name, (!Text.isDelimiter c) = true := fun c member => by simp [inside c member]
  have stops {rest : List Char} (ends : Ends rest) :
      ∀ c ∈ rest.head?, (!Text.isDelimiter c) = false := fun c first => by simp [ends c first]
  have front := congrArg (List.takeWhile (!Text.isDelimiter ·)) same
  have behind := congrArg (List.dropWhile (!Text.isDelimiter ·)) same
  rw [Lexeme.takeWhile_eq (within inside) (stops ends),
    Lexeme.takeWhile_eq (within inside') (stops ends')] at front
  rw [Lexeme.dropWhile_eq (within inside) (stops ends),
    Lexeme.dropWhile_eq (within inside') (stops ends')] at behind
  exact ⟨front, behind⟩

/-- An atom does not begin with a parenthesis. -/
theorem atom_append_ne {text : String} (atom : Text.IsAtom text) :
    text.toList ++ rest ≠ '(' :: rest' := by
  intro same
  obtain ⟨c, tail, whole⟩ := List.exists_cons_of_ne_nil atom.1
  rw [whole] at same
  obtain ⟨rfl, _⟩ := List.cons.inj same
  have := atom.isDelimiter_eq_false '(' (by simp [whole])
  contradiction

/-- The name behind an opening parenthesis ends at the first space. -/
theorem name_append_inj {name name' : String} (atom : Text.IsAtom name)
    (atom' : Text.IsAtom name')
    (same : '(' :: (name.toList ++ ' ' :: rest) = '(' :: (name'.toList ++ ' ' :: rest')) :
    name = name' ∧ rest = rest' := by
  obtain ⟨names, rests⟩ := append_inj_of_ends atom.isDelimiter_eq_false
    atom'.isDelimiter_eq_false (ends_cons rfl) (ends_cons rfl) (List.cons.inj same).2
  exact ⟨String.toList_inj.mp names, (List.cons.inj rests).2⟩

/-- The text of an operator is an atom and not the name of a grouping. -/
theorem isAtom_operator (known : operator.lexeme ∈ Lexeme.textsOf unaryOperators ∨
      operator.lexeme ∈ Lexeme.textsOf binaryOperators) :
    Text.IsAtom operator.lexeme ∧ "group" ≠ operator.lexeme := by
  have every : ∀ text ∈ Lexeme.textsOf unaryOperators ++ Lexeme.textsOf binaryOperators,
      Text.IsAtom text ∧ "group" ≠ text := by decide
  exact every _ (List.mem_append.mpr known)

/-- A grouping does not begin like an operator node. -/
theorem group_append_ne (known : operator.lexeme ∈ Lexeme.textsOf unaryOperators ∨
      operator.lexeme ∈ Lexeme.textsOf binaryOperators) :
    '(' :: ("group".toList ++ ' ' :: rest) ≠ '(' :: (operator.lexeme.toList ++ ' ' :: rest') := by
  obtain ⟨atom, noGroup⟩ := isAtom_operator known
  exact fun same => noGroup (name_append_inj (by decide) atom same).1

end Parts

/-! ## Reading a printed tree -/

/-- **A tree and what follows it can be told from their text.** -/
theorem Legible.alike_of_append {first second : Expr} (legible : first.Legible)
    (legible' : second.Legible) {rest rest' : List Char} (ends : Ends rest) (ends' : Ends rest')
    (same : first.print.toList ++ rest = second.print.toList ++ rest') :
    first.Alike second ∧ rest = rest' := by
  have closing (rest : List Char) : Ends (')' :: rest) := ends_cons rfl
  have space (rest : List Char) : Ends (' ' :: rest) := ends_cons rfl
  induction legible generalizing second rest rest' with
  | literal atom =>
    cases legible' with
    | literal atom' =>
      obtain ⟨texts, rests⟩ := append_inj_of_ends atom.isDelimiter_eq_false
        atom'.isDelimiter_eq_false ends ends' same
      exact ⟨.literal (String.toList_inj.mp texts), rests⟩
    | grouping => exact absurd (same.trans (grouping_append ..)) (atom_append_ne atom)
    | unary => exact absurd (same.trans (unary_append ..)) (atom_append_ne atom)
    | binary => exact absurd (same.trans (binary_append ..)) (atom_append_ne atom)
  | grouping _ ih =>
    rw [grouping_append] at same
    cases legible' with
    | literal atom' => exact absurd same.symm (atom_append_ne atom')
    | grouping inner =>
      rw [grouping_append] at same
      obtain ⟨_, behind⟩ := name_append_inj (by decide) (by decide) same
      obtain ⟨alike, closed⟩ := ih inner (closing _) (closing _) behind
      exact ⟨.grouping alike, (List.cons.inj closed).2⟩
    | unary known => exact absurd (same.trans (unary_append ..)) (group_append_ne (.inl known))
    | binary known => exact absurd (same.trans (binary_append ..)) (group_append_ne (.inr known))
  | unary known _ ih =>
    rw [unary_append] at same
    have atom := (isAtom_operator (.inl known)).1
    cases legible' with
    | literal atom' => exact absurd same.symm (atom_append_ne atom')
    | grouping =>
      rw [grouping_append] at same
      exact absurd same.symm (group_append_ne (.inl known))
    | unary known' operand =>
      rw [unary_append] at same
      obtain ⟨names, behind⟩ := name_append_inj atom (isAtom_operator (.inl known')).1 same
      obtain ⟨alike, closed⟩ := ih operand (closing _) (closing _) behind
      exact ⟨.unary names alike, (List.cons.inj closed).2⟩
    | binary known' left =>
      -- Behind the only operand stands a parenthesis, behind the first of two a space.
      rw [binary_append] at same
      obtain ⟨_, behind⟩ := name_append_inj atom (isAtom_operator (.inr known')).1 same
      obtain ⟨_, closed⟩ := ih left (closing _) (space _) behind
      exact absurd (List.cons.inj closed).1 (by decide)
  | binary known _ _ leftward rightward =>
    rw [binary_append] at same
    have atom := (isAtom_operator (.inr known)).1
    cases legible' with
    | literal atom' => exact absurd same.symm (atom_append_ne atom')
    | grouping =>
      rw [grouping_append] at same
      exact absurd same.symm (group_append_ne (.inr known))
    | unary known' operand =>
      rw [unary_append] at same
      obtain ⟨_, behind⟩ := name_append_inj atom (isAtom_operator (.inl known')).1 same
      obtain ⟨_, closed⟩ := leftward operand (space _) (closing _) behind
      exact absurd (List.cons.inj closed).1 (by decide)
    | binary known' left right =>
      rw [binary_append] at same
      obtain ⟨names, behind⟩ := name_append_inj atom (isAtom_operator (.inr known')).1 same
      obtain ⟨alike, further⟩ := leftward left (space _) (space _) behind
      obtain ⟨alike', closed⟩ :=
        rightward right (closing _) (closing _) (List.cons.inj further).2
      exact ⟨.binary names alike alike', (List.cons.inj closed).2⟩

variable {first second : Expr}

/-- **Trees print alike exactly if they are alike**, where every literal that is no text is printed
as an atom. -/
theorem print_eq_print_iff (legible : first.Legible) (legible' : second.Legible) :
    (first.print = second.print ↔ first.Alike second) ∧
      ∀ value : Value, (∀ characters, value ≠ .text characters) → Text.IsAtom value.print := by
  refine ⟨⟨fun same => ?_, Alike.print_eq⟩, fun value noText => Value.isAtom_print noText⟩
  have nothing : Ends [] := by simp [Ends]
  refine (legible.alike_of_append legible' nothing nothing ?_).1
  rw [same]

/-- A difference of a literal that starts with a minus sign and another, where the literal is once a
text and once an integer. -/
theorem print_eq_print_iff_minus :
    let minus : Token := ⟨.minus, "-", .nil, ⟨"input", 1, 4, 3⟩⟩
    let first := binary (literal (.text "-1")) minus (literal (.truth true))
    let second := binary (literal (.integer (-1))) minus (literal (.truth true))
    first.print = "(- -1 true)" ∧ first.Legible ∧ second.Legible ∧ first.Alike second := by
  intro minus first second
  have atom : Text.IsAtom (Value.text "-1").print := by decide
  have legible : first.Legible :=
    .binary (by decide) (.literal atom) (.literal (by decide))
  have legible' : second.Legible :=
    .binary (by decide) (.literal (by decide)) (.literal (by decide))
  exact ⟨by decide, legible, legible', (print_eq_print_iff legible legible').1.mp (by decide)⟩

end Expr
end Lox
