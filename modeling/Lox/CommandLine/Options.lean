import Lox.CommandLine.Arguments

/-!
# Options

The classified arguments are read from left to right. The first positional argument is the
expression; further ones and unknown flags are left over. A flag that needs a value takes the
attached one or else the next argument, if that is positional. Letters of flags without value
may be followed by further letters. Asking for help ends the reading.

The separator `--` is dropped where it stands directly behind the expression or where the
expression is still missing, which the argument behind it then is; elsewhere it is left over
with all that follows. A value that is attached and is just `--` counts as no text at all.
-/

set_option autoImplicit false

namespace Lox.CommandLine

/-- What the arguments ask for. -/
structure Options where
  expression : Option String := none
  /-- The name of the file, if the flag is there. -/
  file : Option (Option String) := none
  /-- The text of the limit on nesting, if the flag is there. -/
  maxDepth : Option (Option String) := none
  verbose : Bool := false
  leftover : List String := []
  deriving DecidableEq

/-- What the arguments amount to. -/
inductive Request
  | help
  | read (options : Options)
  deriving DecidableEq

/-! ## Letters that stand together -/

/-- Flags that one argument gives: flags without value, and a last one, with its value if that
is attached. -/
structure Cluster where
  before : List Flag
  last : Flag
  /-- The value that is attached to the last flag. -/
  value : Option (List Char)

/-- The flags of a letter and the text behind it. -/
def Cluster.ofLetters (flag : Flag) : List Char → Except UsageError Cluster
  | [] => .ok ⟨[], flag, none⟩
  | letter :: text =>
    if flag.takesValue then .ok ⟨[], flag, some (letter :: text)⟩
    else
      match Flag.ofLetter? letter with
      | none => .error (.valueIgnored flag (String.ofList (letter :: text)))
      | some next =>
        match ofLetters next text with
        | .error error => .error error
        | .ok cluster => .ok { cluster with before := flag :: cluster.before }

/-- The flags of one argument. -/
def Cluster.of (flag : Flag) (byLetter : Bool) : Option (List Char) → Except UsageError Cluster
  | none => .ok ⟨[], flag, none⟩
  | some value =>
    if flag.takesValue then .ok ⟨[], flag, some value⟩
    else if byLetter && !value.isEmpty then ofLetters flag value
    else .error (.valueIgnored flag (String.ofList value))

/-! ## Reading the arguments -/

namespace Options

/-- The text of a value; just `--` is none. -/
def valueText (value : String) : Option String := if value = "--" then none else some value

/-- The options with a flag and the value it takes, if any. -/
def set (options : Options) (value : String) : Flag → Options
  | .help => options
  | .file => { options with file := some (valueText value) }
  | .maxDepth => { options with maxDepth := some (valueText value) }
  | .verbose => { options with verbose := true }

/-- The options with further arguments left over. -/
def leave (options : Options) (arguments : List String) : Options :=
  { options with leftover := options.leftover ++ arguments }

/-- The options with the arguments behind the separator, where there is one. -/
def separated (options : Options) : Option (List String) → Options
  | none => options
  | some arguments =>
    match options.expression with
    | none => { options with expression := arguments.head? }.leave arguments.tail
    | some _ => options.leave ("--" :: arguments)

/-- Applies the flags of one argument and goes on, unless help is asked for. -/
def apply (options : Options) (cluster : Cluster) (value : String)
    (proceed : Options → Except UsageError Request) : Except UsageError Request :=
  if (cluster.before ++ [cluster.last]).contains .help then .ok .help
  else proceed ((cluster.before ++ [cluster.last]).foldl (·.set value ·) options)

/-- Reads the arguments before the separator, given those behind it. -/
def interpret (behind : Option (List String)) (options : Options) :
    List Argument → Except UsageError Request
  | [] => .ok (.read (options.separated behind))
  | .positional text :: arguments =>
    match options.expression with
    | some _ => interpret behind (options.leave [text]) arguments
    | none =>
      let options := { options with expression := some text }
      match arguments with
      | [] => .ok (.read (options.leave (behind.getD [])))
      | arguments => interpret behind options arguments
  | .unknown text :: arguments => interpret behind (options.leave [text]) arguments
  | .flag flag byLetter attached :: arguments =>
    match Cluster.of flag byLetter attached with
    | .error error => .error error
    | .ok cluster =>
      match cluster.last.takesValue, cluster.value, arguments with
      | false, _, arguments => options.apply cluster "" (interpret behind · arguments)
      | true, some value, arguments =>
        options.apply cluster (String.ofList value) (interpret behind · arguments)
      | true, none, .positional value :: arguments =>
        options.apply cluster value (interpret behind · arguments)
      | true, none, _ => .error (.valueExpected cluster.last)

/-- The arguments before the separator and, where there is one, those behind it. -/
def splitAtSeparator : List String → List String × Option (List String)
  | [] => ([], none)
  | argument :: arguments =>
    if argument = "--" then ([], some arguments)
    else
      let (before, behind) := splitAtSeparator arguments
      (argument :: before, behind)

/-- Reads the arguments of the command line. -/
def read (arguments : List String) : Except UsageError Request :=
  let (before, behind) := splitAtSeparator arguments
  match before.mapM classify with
  | .error error => .error error
  | .ok classified => interpret behind {} classified

end Options
end Lox.CommandLine
