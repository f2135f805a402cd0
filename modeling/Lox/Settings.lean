import Lox.Text.Blank
import Lox.Text.Decimal
import Lox.Text.DecimalDigit
import Lox.Text.Quoted

/-!
# Settings

The settings of a parse are the greatest number of levels of nesting, if there is one, and
the name under which a text is scanned. A limit is at least one, which `Settings.ofLimit`
checks and the type remembers.

A limit can be given as text (`DepthLimit.read`). Blanks around it and the case of letters
do not matter; nothing, `none` and `0` stand for no limit. Anything else is an integer of at
most 4300 digits, of any script, with single underscores between digits and a sign. It must
not be negative. Other spellings of zero are read as the limit zero, which the settings then
refuse.

Limits come from the environment and from overrides. Overrides win, but a text in the
environment that cannot be read is an error in any case.
-/

set_option autoImplicit false

namespace Lox

/-- Why settings cannot be made. -/
inductive SettingsError
  | unreadableLimit (raw : String)
  | limitNotPositive (limit : Int)
  deriving DecidableEq

/-- The error in words. -/
def SettingsError.message : SettingsError → String
  | unreadableLimit raw => "invalid max depth: " ++ Text.quoted raw
  | limitNotPositive limit => "max_depth must be positive or None, got " ++ Text.decimal limit

/-! ## Limits as text -/

namespace DepthLimit

/-- The greatest number of digits of an integer that is read. -/
def maxDigits : Nat := 4300

/-- The values of digits that are separated by single underscores, where `afterDigit` says
that a digit stands just before. -/
def digits? (afterDigit : Bool) : List Char → Option (List Nat)
  | [] => if afterDigit then some [] else none
  | c :: rest =>
    if c = '_' then
      if afterDigit then digits? false rest else none
    else
      match Text.decimalDigit? c with
      | some digit => (digits? true rest).map (digit :: ·)
      | none => none

/-- The natural number that a text writes. -/
def natural? (text : List Char) : Option Nat :=
  (digits? false text).bind fun digits =>
    if digits.length ≤ maxDigits then
      some (digits.foldl (fun value digit => 10 * value + digit) 0)
    else
      none

/-- The integer that a text without blanks at its ends writes. -/
def integer? : List Char → Option Int
  | '+' :: rest => (natural? rest).map Int.ofNat
  | '-' :: rest => (natural? rest).map fun number => -Int.ofNat number
  | text => (natural? text).map Int.ofNat

/-- The texts that stand for no limit. -/
def unlimitedTexts : List String := ["", "none", "0"]

/-- The limit that a text gives. -/
def read (raw : String) : Except SettingsError (Option Nat) :=
  let text := (Text.strip raw.toList).map Char.toLower
  if unlimitedTexts.contains (String.ofList text) then .ok none
  else
    match integer? text with
    | some (.ofNat limit) => .ok (some limit)
    | _ => .error (.unreadableLimit raw)

/-- The variable of the environment that gives a limit. -/
def variableName : String := "LOXPARSE_MAX_DEPTH"

/-- The limit where none is given. -/
def standard : Nat := 64

end DepthLimit

/-! ## Settings -/

/-- The settings of a parse. -/
structure Settings where
  /-- The greatest number of levels of nesting, if there is one. -/
  limit : Option Nat
  /-- The name under which a text is scanned. -/
  file : String
  limit_pos : ∀ bound, limit = some bound → 0 < bound

namespace Settings

/-- The name of a text that comes from no file. -/
def unnamed : String := "<string>"

/-- The settings where none are given. -/
def standard : Settings where
  limit := some DepthLimit.standard
  file := unnamed
  limit_pos := by
    intro bound given
    cases given
    decide

/-- Settings with a limit, which must not be below one. -/
def ofLimit (limit : Option Int) (file : String) : Except SettingsError Settings :=
  match limit with
  | none => .ok ⟨none, file, by simp⟩
  | some bound =>
    if positive : 0 < bound then
      .ok ⟨some bound.toNat, file, by
        intro chosen given
        cases given
        omega⟩
    else .error (.limitNotPositive bound)

/-- What is given for single settings: a limit, which may be none, and a name. -/
structure Overrides where
  /-- The limit, if one is given; it may be that there is none. -/
  limit : Option (Option Int) := none
  file : Option String := none

/-- Settings that are standard where nothing is given. -/
def ofOverrides (overrides : Overrides) : Except SettingsError Settings :=
  ofLimit (overrides.limit.getD (some (Int.ofNat DepthLimit.standard)))
    (overrides.file.getD unnamed)

/-- Settings from the text that the environment gives for the limit, and from overrides. -/
def ofEnvironment (text : Option String) (overrides : Overrides) :
    Except SettingsError Settings :=
  match text.map DepthLimit.read with
  | none => ofOverrides overrides
  | some (.error error) => .error error
  | some (.ok limit) =>
    ofOverrides { overrides with limit := overrides.limit.or (some (limit.map Int.ofNat)) }

end Settings
end Lox
