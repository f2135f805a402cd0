import Lox.Proofs.Scan.Trivia

/-!
# Lines and columns

A position counts the text in front of it (`Position.Counts`): its line the line feeds, its column
the characters behind the last of them, and its offset all characters. A position that moves on over
a text keeps counting right, so the place behind any text that is read from the start has the right
line and column (`Position.counts_after_start`).
-/

set_option autoImplicit false

namespace Lox

/-! ## The last line of a text -/

/-- The characters of a text behind its last line feed. -/
def Text.lastLine (text : List Char) : List Char :=
  (text.reverse.takeWhile (· != '\n')).reverse

theorem Text.lastLine_concat_newline (text : List Char) : lastLine (text ++ ['\n']) = [] := by
  simp [lastLine]

theorem Text.lastLine_concat {c : Char} (other : c ≠ '\n') (text : List Char) :
    lastLine (text ++ [c]) = lastLine text ++ [c] := by
  simp [lastLine, other]

namespace Position

/-! ## Counting -/

/-- The position is the place behind a text that is counted from the start. -/
structure Counts (position : Position) (text : List Char) : Prop where
  line_eq : position.line = 1 + text.count '\n'
  column_eq : position.column = 1 + (Text.lastLine text).length
  offset_eq : position.offset = text.length

variable {position : Position} {text : List Char}

theorem counts_start : start.Counts [] := ⟨rfl, rfl, rfl⟩

/-- A position that moves over one character counts it. -/
theorem Counts.next (counts : position.Counts text) (c : Char) :
    (position.next c).Counts (text ++ [c]) := by
  have offset : (position.next c).offset = (text ++ [c]).length := by
    rw [offset_next, counts.offset_eq, List.length_append, List.length_singleton]
  by_cases ends : c = '\n'
  · subst ends
    refine ⟨?_, ?_, offset⟩
    · simp [Position.next, counts.line_eq, Nat.add_assoc]
    · simp [Position.next, Text.lastLine_concat_newline]
  · refine ⟨?_, ?_, offset⟩
    · simp [Position.next, ends, counts.line_eq]
    · simp [Position.next, ends, counts.column_eq, Text.lastLine_concat ends, Nat.add_assoc]

theorem Counts.after (counts : position.Counts text) (further : List Char) :
    (position.after further).Counts (text ++ further) := by
  induction further generalizing position text with
  | nil => simpa using counts
  | cons c further ih =>
    have counted := ih (counts.next c)
    rw [List.append_assoc] at counted
    exact counted

/-- **The place behind a text has the line and the column that the text gives it.** -/
theorem counts_after_start (text : List Char) : (start.after text).Counts text :=
  counts_start.after text

end Position

/-- A location in a file is the place behind a text. -/
def Location.IsBehind (location : Location) (file : String) (text : List Char) : Prop :=
  ∃ position : Position, position.Counts text ∧ location = position.inFile file

theorem Location.isBehind_after_start (file : String) (text : List Char) :
    ((Position.start.after text).inFile file).IsBehind file text :=
  ⟨_, Position.counts_after_start text, rfl⟩

end Lox
