import Lox.CommandLine.Help
import Lox.CommandLine.Options
import Lox.Directory
import Lox.Log
import Lox.Reading

/-!
# Running the command line

The arguments and the environment are turned into a plan, which either is finished (help, a
usage error) or reads an expression from a text or a file. Reading writes the tree to the
standard output, or the errors to the standard error, where the log comes first.

A plan is carried out in any monad in which the content of a path can be read
(`Plan.carryOut`): the program reads files, and `run` is told the content of every path.
Whatever reading does, at most one path is read, and the end is that of `run` on the content that
was found there (`carryOut_plan`).

Exit statuses: 0 for a tree or help, 2 for a usage error, 65 for an expression with errors, 74
for a file that cannot be opened. A run can also break off without a status, when a file is not
text, when a path can be none, or when a flag is there without any text (`Breakdown`).
-/

set_option autoImplicit false

namespace Lox.CommandLine

/-- What a run shows and ends with. -/
structure Outcome where
  status : Nat
  /-- Whether the run ended before anything was read. -/
  early : Bool
  output : String
  errors : String
  deriving DecidableEq

/-- Why a run breaks off without a status. -/
inductive Breakdown
  /-- There is a file flag without text, and no expression. -/
  | noExpression
  | noLimitText
  | nullInPath
  | undecodable
  deriving DecidableEq

/-- Where the expression comes from. -/
inductive Source
  | text (text : String)
  | file (path : String)
  deriving DecidableEq

/-- What is to be done. -/
inductive Plan
  | finished (outcome : Outcome)
  | broken (reason : Breakdown)
  | read (source : Source) (settings : Settings) (verbose : Bool)

/-! ## Planning -/

/-- The end of a run with a usage error. -/
def refuse (error : UsageError) : Outcome := ⟨2, true, "", error.print⟩

/-- The end of a run with the help text. -/
def showHelp : Outcome := ⟨0, true, helpText, ""⟩

/-- The options after arguments that are left over: a single one that does not start with two
dashes is the expression if there is no other, since negated expressions look like flags. -/
def Options.settle (options : Options) : Except UsageError Options :=
  match options.leftover with
  | [] => .ok options
  | [argument] =>
    if options.expression.isNone && !("--".toList.isPrefixOf argument.toList) then
      .ok { options with expression := some argument, leftover := [] }
    else .error (.unrecognized [argument])
  | arguments => .error (.unrecognized arguments)

/-- The settings that the environment and the options give. -/
def Options.settings (options : Options) (environment : Option String) :
    Except SettingsError Settings :=
  match options.maxDepth.bind id with
  | none => Settings.ofEnvironment environment {}
  | some text =>
    match DepthLimit.read text with
    | .error error => .error error
    | .ok limit => Settings.ofEnvironment environment { limit := some (limit.map Int.ofNat) }

/-- Where the options take the expression from; a file without a name is none. -/
def Options.source? (options : Options) : Option Source :=
  match options.file.bind id with
  | some path => if path = "" then options.expression.map .text else some (.file path)
  | none => options.expression.map .text

/-- What the options and the environment ask to be done. -/
def planOptions (environment : Option String) (options : Options) : Plan :=
  match options.settle with
  | .error error => .finished (refuse error)
  | .ok options =>
    if options.expression.isNone == options.file.isNone then .finished (refuse .sourceCount)
    else if options.maxDepth == some none then .broken .noLimitText
    else
      match options.settings environment with
      | .error error => .finished (refuse (.badSetting error.message))
      | .ok settings =>
        match options.source? with
        | none => .broken .noExpression
        | some source => .read source settings options.verbose

/-- What the arguments and the environment ask to be done. -/
def plan (environment : Option String) (arguments : List String) : Plan :=
  match Options.read arguments with
  | .error error => .finished (refuse error)
  | .ok .help => .finished showHelp
  | .ok (.read options) => planOptions environment options

/-! ## Reading -/

/-- Texts as lines. -/
def printLines (texts : List String) : String := String.join (texts.map (· ++ "\n"))

/-- The end of a run that read an expression, without the log. -/
def conclude (reading : Reading) : Outcome :=
  match reading.tree with
  | some tree => ⟨0, false, tree.print ++ "\n", ""⟩
  | none =>
    ⟨65, false, "", printLines
      (reading.lexicalErrors.map LexicalError.summary ++
        reading.syntaxErrors.map SyntaxError.print)⟩

/-- The end of a run that reads an expression from a text, with the log if that is wanted. -/
def readText (text : String) (file : Option String) (settings : Settings) (verbose : Bool) :
    Outcome :=
  let outcome := conclude (Reading.ofText text file settings true)
  if verbose then
    { outcome with
      errors := printLines ((LogLine.ofReading text file settings true).map LogLine.print) ++
        outcome.errors }
  else outcome

/-- The end of a run that reads an expression from the content of a file. -/
def readContent (path : String) (content : Except ReadError ByteArray) (settings : Settings)
    (verbose : Bool) : Except Breakdown Outcome :=
  match content.bind decodeText with
  | .ok text => .ok (readText text (some path) settings verbose)
  | .error (.file error) =>
    .ok ⟨74, false, "", "error: cannot read " ++ path ++ ": " ++ error.message ++ "\n"⟩
  | .error .nullInPath => .error .nullInPath
  | .error .undecodable => .error .undecodable

/-! ## Running -/

/-- Carries out a plan, where the content of a path is read in a monad. -/
def Plan.carryOut {m : Type → Type} [Monad m] (content : String → m (Except ReadError ByteArray)) :
    Plan → m (Except Breakdown Outcome)
  | finished outcome => pure (.ok outcome)
  | broken reason => pure (.error reason)
  | read (.text text) settings verbose => pure (.ok (readText text none settings verbose))
  | read (.file path) settings verbose => do
    return readContent path (← content path) settings verbose

/-- Runs the command line on arguments, given the text that the environment has for the limit
on nesting and the content of every path. -/
def run (environment : Option String) (content : String → Except ReadError ByteArray)
    (arguments : List String) : Except Breakdown Outcome :=
  Id.run ((plan environment arguments).carryOut fun path => pure (content path))

section Run

variable {environment : Option String} {content : String → Except ReadError ByteArray}
  {arguments : List String} {settings : Settings} {verbose : Bool}

theorem run_of_finished {outcome : Outcome}
    (planned : plan environment arguments = .finished outcome) :
    run environment content arguments = .ok outcome := by
  rw [run, planned]
  rfl

theorem run_of_broken {reason : Breakdown}
    (planned : plan environment arguments = .broken reason) :
    run environment content arguments = .error reason := by
  rw [run, planned]
  rfl

theorem run_of_text {text : String}
    (planned : plan environment arguments = .read (.text text) settings verbose) :
    run environment content arguments = .ok (readText text none settings verbose) := by
  rw [run, planned]
  rfl

theorem run_of_file {path : String}
    (planned : plan environment arguments = .read (.file path) settings verbose) :
    run environment content arguments = readContent path (content path) settings verbose := by
  rw [run, planned]
  rfl

/-- **Whatever reading a path does, carrying out what is planned reads no path, or it reads one
and ends as the run does with the content that was found there.** -/
theorem carryOut_plan {m : Type → Type} [Monad m]
    (read : String → m (Except ReadError ByteArray)) :
    (∀ content, (plan environment arguments).carryOut read =
      pure (run environment content arguments)) ∨
    ∃ path, (plan environment arguments).carryOut read =
      read path >>= fun found => pure (run environment (fun _ => found) arguments) := by
  cases planned : plan environment arguments with
  | finished outcome =>
    refine .inl fun content => ?_
    rw [run_of_finished planned, Plan.carryOut]
  | broken reason =>
    refine .inl fun content => ?_
    rw [run_of_broken planned, Plan.carryOut]
  | read source settings verbose =>
    cases source with
    | text text =>
      refine .inl fun content => ?_
      rw [run_of_text planned, Plan.carryOut]
    | file path =>
      refine .inr ⟨path, ?_⟩
      simp only [run_of_file planned, Plan.carryOut]

end Run

end Lox.CommandLine
