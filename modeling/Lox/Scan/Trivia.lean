import Lox.Location
import Lox.Text.Blank

/-!
# Cursors and trivia

A cursor is a place in a text together with the text that is still to be read. Trivia is
what stands between tokens: blanks, and comments, which run from `//` to the end of their
line. The line feed behind a comment is not part of it, but being blank it is trivia too.
-/

set_option autoImplicit false

namespace Lox

/-- A place in a text, and the text from there on. -/
structure Cursor where
  position : Position
  rest : List Char
  deriving DecidableEq

namespace Cursor

/-- The cursor before a text. -/
def start (text : List Char) : Cursor := ⟨Position.start, text⟩

/-- The cursor behind a text that stands at its front. -/
def past (cursor : Cursor) (text rest : List Char) : Cursor :=
  ⟨cursor.position.after text, rest⟩

/-- The cursor a number of characters further on, or at the end of the text. -/
def advanceBy (cursor : Cursor) (count : Nat) : Cursor :=
  cursor.past (cursor.rest.take count) (cursor.rest.drop count)

/-- The cursor one character further on; at the end of the text it stays. -/
def advance (cursor : Cursor) : Cursor := cursor.advanceBy 1

/-- The cursor at the end of the text. -/
def finish (cursor : Cursor) : Cursor := cursor.past cursor.rest []

end Cursor

/-! ## Trivia -/

/-- Skips trivia from a position on, where the text may already be inside a comment. -/
def skipTriviaFrom (inComment : Bool) (position : Position) : List Char → Cursor
  | [] => ⟨position, []⟩
  | c :: rest =>
    if inComment then skipTriviaFrom (c != '\n') (position.next c) rest
    else if Text.isBlank c then skipTriviaFrom false (position.next c) rest
    else if c = '/' && rest.head? == some '/' then skipTriviaFrom true (position.next c) rest
    else ⟨position, c :: rest⟩

/-- Skips the trivia at the front of the text. -/
def Cursor.skipTrivia (cursor : Cursor) : Cursor :=
  skipTriviaFrom false cursor.position cursor.rest

/-- Skipping trivia never makes the text longer. -/
theorem length_rest_skipTriviaFrom_le (inComment : Bool) (position : Position)
    (text : List Char) : (skipTriviaFrom inComment position text).rest.length ≤ text.length := by
  induction text generalizing inComment position with
  | nil => simp [skipTriviaFrom]
  | cons c rest ih =>
    unfold skipTriviaFrom
    split
    · exact Nat.le_succ_of_le (ih ..)
    · split
      · exact Nat.le_succ_of_le (ih ..)
      · split
        · exact Nat.le_succ_of_le (ih ..)
        · exact Nat.le_refl _

theorem Cursor.length_rest_skipTrivia_le (cursor : Cursor) :
    cursor.skipTrivia.rest.length ≤ cursor.rest.length :=
  length_rest_skipTriviaFrom_le ..

end Lox
