import Lox.Number.Spelling
import Lox.Text.Decimal
import Lox.Text.Quoted

/-!
# Values

The values that a token or a literal can carry. The scanner makes numbers and texts, the
parser adds `nil` and the two truth values, and trees that are built by hand may also hold
integers of any size.

A value has two texts. `Value.print` is its spelling in Lox, where a number without a
fraction is written without a point. `Value.describe` is its spelling in the description of
a token or a tree, where texts are quoted and every binary64 number shows that it is one.
-/

set_option autoImplicit false

namespace Lox

/-- A value that a token or a literal carries. -/
inductive Value
  | nil
  | truth (holds : Bool)
  | number (binary : Binary64)
  | integer (count : Int)
  | text (characters : String)
  deriving DecidableEq

namespace Value

/-- The spelling of a value in Lox: numbers without a fraction have no point. -/
def print : Value → String
  | nil => "nil"
  | truth holds => if holds then "true" else "false"
  | number binary =>
    match binary.integer? with
    | some count => Text.decimal count
    | none => Spelling.standard.number binary
  | integer count => Text.decimal count
  | text characters => characters

/-- The spelling of a value in a description. -/
def describe : Value → String
  | nil => "None"
  | truth holds => if holds then "True" else "False"
  | number binary => Spelling.standard.number binary
  | integer count => Text.decimal count
  | text characters => Text.quoted characters

/-- The integer that a value equals as a number, truth values counting as one and zero. -/
def integer? : Value → Option Int
  | truth holds => some (if holds then 1 else 0)
  | integer count => some count
  | number binary => binary.integer?
  | _ => none

/-- Equality of values: across truth values, integers and numbers it is numeric and exact. -/
def same (left right : Value) : Bool :=
  match left, right with
  | nil, nil => true
  | text a, text b => a == b
  | number a, number b => a.sameNumber b
  | _, _ =>
    match left.integer?, right.integer? with
    | some a, some b => a == b
    | _, _ => false

end Value
end Lox
