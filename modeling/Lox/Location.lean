import Lox.Text.Decimal
import Lox.Text.Quoted

/-!
# Positions and locations

A position counts lines and columns from one and characters from zero. It moves one
character at a time; only the line feed ends a line. `Position.after` is the position
behind a text, and `Position.after_append` lets it be computed piece by piece.

A location is a place in a named file. Locations that are given from outside are taken as
they are, so their numbers are integers.
-/

set_option autoImplicit false

namespace Lox

/-! ## Positions -/

/-- A place in a text. -/
structure Position where
  /-- The line, counted from one. -/
  line : Nat
  /-- The column in the line, counted from one. -/
  column : Nat
  /-- The number of characters before the place. -/
  offset : Nat
  deriving DecidableEq

namespace Position

/-- The place before the first character. -/
def start : Position := ⟨1, 1, 0⟩

/-- The place behind one more character. -/
def next (position : Position) (c : Char) : Position :=
  if c = '\n' then ⟨position.line + 1, 1, position.offset + 1⟩
  else ⟨position.line, position.column + 1, position.offset + 1⟩

/-- The place behind a further text. -/
def after (position : Position) (text : List Char) : Position := text.foldl next position

@[simp]
theorem after_nil (position : Position) : position.after [] = position := rfl

@[simp]
theorem after_cons (position : Position) (c : Char) (text : List Char) :
    position.after (c :: text) = (position.next c).after text := rfl

/-- The place behind two texts is reached through the place behind the first. -/
theorem after_append (position : Position) (first second : List Char) :
    position.after (first ++ second) = (position.after first).after second := by
  simp [after, List.foldl_append]

end Position

/-! ## Locations -/

/-- A place in a named file. -/
structure Location where
  file : String
  /-- The line, counted from one. -/
  line : Int
  /-- The column, counted from one. -/
  column : Int
  /-- The number of characters before the place. -/
  offset : Int
  deriving DecidableEq

/-- A position in a file. -/
def Position.inFile (position : Position) (file : String) : Location :=
  ⟨file, position.line, position.column, position.offset⟩

namespace Location

/-- The location in the form that editors follow: file, line and column. -/
def print (location : Location) : String :=
  location.file ++ ":" ++ Text.decimal location.line ++ ":" ++
    Text.decimal location.column

/-- The location with all its parts. -/
def describe (location : Location) : String :=
  "SourceLocation(" ++ Text.quoted location.file ++ ", " ++ Text.decimal location.line ++
    ", " ++ Text.decimal location.column ++ ", " ++ Text.decimal location.offset ++ ")"

end Location
end Lox
