import Lox.Text.DecimalDigit
import Lox.Text.Quoted

/-!
# Arguments of the command line

An argument that starts with a dash may be a flag. A long flag may be cut short as long as it
stays unique and takes its value behind an equals sign; a short flag takes its value with or
without one. What looks like a negative number or contains a space is no flag but a
positional argument, and what is left is an unknown flag. The argument `--` is not classified:
it separates the arguments that may be flags from those that are all positional.
-/

set_option autoImplicit false

namespace Lox.CommandLine

/-! ## Flags -/

/-- The flags of the command line. -/
inductive Flag
  | help | file | maxDepth | verbose
  deriving DecidableEq

namespace Flag

/-- Every flag, in the order of the usage line. -/
def all : List Flag := [help, file, maxDepth, verbose]

/-- The name behind two dashes. -/
def longName : Flag → String
  | help => "help"
  | file => "file"
  | maxDepth => "max-depth"
  | verbose => "verbose"

/-- The letter behind one dash. -/
def letter? : Flag → Option Char
  | help => some 'h'
  | file => some 'f'
  | maxDepth => none
  | verbose => some 'v'

/-- The flag with a given letter. -/
def ofLetter? (letter : Char) : Option Flag := all.find? (·.letter? == some letter)

/-- Whether the flag needs a value. -/
def takesValue : Flag → Bool
  | file | maxDepth => true
  | help | verbose => false

/-- The flag with all its names, as messages show it. -/
def title (flag : Flag) : String :=
  match flag.letter? with
  | some letter => "-" ++ String.singleton letter ++ "/--" ++ flag.longName
  | none => "--" ++ flag.longName

end Flag

/-! ## Usage errors -/

/-- What is wrong with the arguments. -/
inductive UsageError
  | ambiguous (argument : String) (candidates : List Flag)
  | valueExpected (flag : Flag)
  | valueIgnored (flag : Flag) (value : String)
  | unrecognized (arguments : List String)
  /-- Not exactly one of an expression and a file. -/
  | sourceCount
  | badSetting (message : String)
  deriving DecidableEq

/-- The error in words. -/
def UsageError.message : UsageError → String
  | ambiguous argument candidates =>
    "ambiguous option: " ++ argument ++ " could match " ++
      String.intercalate ", " (candidates.map fun flag => "--" ++ flag.longName)
  | valueExpected flag => "argument " ++ flag.title ++ ": expected one argument"
  | valueIgnored flag value =>
    "argument " ++ flag.title ++ ": ignored explicit argument " ++ Text.quoted value
  | unrecognized arguments =>
    "unrecognized arguments: " ++ String.intercalate " " arguments
  | sourceCount => "give exactly one of an expression or -f/--file"
  | badSetting message => message

/-! ## Classification -/

/-- What an argument is. -/
inductive Argument
  | positional (text : String)
  /-- A flag, by its letter or its name, and the value that is attached to it. -/
  | flag (flag : Flag) (byLetter : Bool) (attached : Option (List Char))
  | unknown (text : String)
  deriving DecidableEq

/-- Whether a text consists of digits only and has at least one. -/
def isNumeral (text : List Char) : Bool := !text.isEmpty && text.all Text.isDecimalDigit

/-- Whether the text behind a dash makes a negative number: digits, or a point before digits
with or without digits in front. One line feed may follow. -/
def isNumber (text : List Char) : Bool :=
  let text := if text.getLast? == some '\n' then text.dropLast else text
  match text.dropWhile Text.isDecimalDigit with
  | [] => isNumeral text
  | c :: fraction => c == '.' && isNumeral fraction

/-- An argument that starts with a dash and is no known flag. -/
def unflagged (argument : String) : Argument :=
  if isNumber (argument.toList.drop 1) || argument.toList.contains ' ' then .positional argument
  else .unknown argument

/-- The value behind the first equals sign, if there is one. -/
def valuePart (text : List Char) : Option (List Char) :=
  match text.dropWhile (· != '=') with
  | [] => none
  | _ :: value => some value

/-- Classifies an argument by the text behind its two dashes. -/
def classifyLong (argument : String) (text : List Char) : Except UsageError Argument :=
  let name := text.takeWhile (· != '=')
  match Flag.all.filter fun flag => name.isPrefixOf flag.longName.toList with
  | [] => .ok (unflagged argument)
  | [flag] => .ok (.flag flag false (valuePart text))
  | candidates => .error (.ambiguous argument candidates)

/-- Classifies an argument by the letter and the text behind its dash. -/
def classifyShort (argument : String) (letter : Char) (text : List Char) : Argument :=
  match Flag.ofLetter? letter with
  | none => unflagged argument
  | some flag =>
    match text with
    | [] => .flag flag true none
    | '=' :: value => .flag flag true (some value)
    | value => .flag flag true (some value)

/-- Classifies an argument that stands before the separator. -/
def classify (argument : String) : Except UsageError Argument :=
  match argument.toList with
  | '-' :: '-' :: text => classifyLong argument text
  | '-' :: letter :: text => .ok (classifyShort argument letter text)
  | _ => .ok (.positional argument)

end Lox.CommandLine
