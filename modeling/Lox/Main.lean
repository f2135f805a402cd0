import Lox.CommandLine.Run

/-!
# The program

Reads the arguments and the environment and carries out what is planned for them, where the
content of a path is that of a file; shows what the run shows and ends with its status.
-/

set_option autoImplicit false

namespace Lox.CommandLine

/-- The reason why a file could not be opened, or why its content could not be read; of the
errors about a wrong type, those that name the path arise while it is opened. -/
def fileError : IO.Error → FileError
  | .noFileOrDirectory .. => .notFound
  | .inappropriateType none .. => .isDirectory
  | .inappropriateType (some _) .. => .notDirectory
  | .invalidArgument .. => .nameTooLong
  | .permissionDenied .. => .other "Permission denied"
  | error => .other (toString error)

/-- The content of the file at a path. -/
def readFile (path : String) : IO (Except ReadError ByteArray) := do
  if path.toList.contains '\x00' then
    return .error .nullInPath
  try
    return .ok (← IO.FS.readBinFile path)
  catch error =>
    return .error (.file (fileError error))

/-- Shows what a run shows. -/
def finish : Except Breakdown Outcome → IO UInt32
  | .ok outcome => do
    IO.eprint outcome.errors
    IO.print outcome.output
    return outcome.status.toUInt32
  | .error _ => do
    IO.eprintln "the run broke off"
    return 1

end Lox.CommandLine

open Lox.CommandLine

/-- Runs the command line. -/
def main (arguments : List String) : IO UInt32 := do
  let environment ← IO.getEnv Lox.DepthLimit.variableName
  finish (← (plan environment arguments).carryOut readFile)
