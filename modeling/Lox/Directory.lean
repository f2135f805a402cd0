import Lox.Text.Newlines

/-!
# Files

A directory holds files and further directories under their names. A path is followed from
name to name: a name of at most 255 bytes that is there, a dot for the directory itself, two
dots for the one above. Nothing is known of what lies above the directory, except that there
are directories.

The content of a file is text in strict UTF-8, and its line ends are made uniform.
-/

set_option autoImplicit false

namespace Lox

/-- Why a file cannot be opened. -/
inductive FileError
  | notFound
  | isDirectory
  /-- The path goes on behind a file. -/
  | notDirectory
  | nameTooLong
  | other (reason : String)
  deriving DecidableEq

/-- The reason in words. -/
def FileError.message : FileError → String
  | notFound => "No such file or directory"
  | isDirectory => "Is a directory"
  | notDirectory => "Not a directory"
  | nameTooLong => "File name too long"
  | other reason => reason

/-- Why a file cannot be read as text. -/
inductive ReadError
  | file (error : FileError)
  /-- The path holds a null character, which no path may. -/
  | nullInPath
  | undecodable
  deriving DecidableEq

/-- The text that the content of a file is, with uniform line ends. -/
def decodeText (content : ByteArray) : Except ReadError String :=
  match String.fromUTF8? content with
  | some text => .ok (String.ofList (Text.uniformNewlines text.toList))
  | none => .error .undecodable

/-- What a name in a directory stands for. -/
inductive Entry
  | file (content : ByteArray)
  | directory

/-- A directory: what is in it and below it, by the path from it. A directory that something
lies in need not have an entry of its own. -/
structure Directory where
  /-- The entries, by their names joined with slashes. -/
  entries : List (String × Entry)

namespace Directory

/-- The greatest length of a name in a path, in bytes. -/
def maxName : Nat := 255

/-- The length that a path must stay below, in bytes. -/
def pathBound : Nat := 4096

/-- What lies at the given names below the directory. -/
def entry? (directory : Directory) (names : List String) : Option Entry :=
  let path := String.intercalate "/" names
  match directory.entries.lookup path with
  | some entry => some entry
  | none =>
    if directory.entries.any fun entry => entry.1.startsWith (path ++ "/") then some .directory
    else none

/-- Follows the names of a path from a place: the names that lead there from the directory, or
nothing for a place above it. -/
def follow (directory : Directory) (place : Option (List String)) :
    List String → Except FileError ByteArray
  | [] => .error .isDirectory
  | name :: path =>
    if name = "" || name = "." then follow directory place path
    else if name = ".." then
      follow directory (place.bind fun names => names.getLast?.map fun _ => names.dropLast) path
    else if maxName < name.utf8ByteSize then .error .nameTooLong
    else
      match place with
      | none => .error .notFound
      | some names =>
        match directory.entry? (names ++ [name]) with
        | none => .error .notFound
        | some .directory => follow directory (some (names ++ [name])) path
        | some (.file content) => if path.isEmpty then .ok content else .error .notDirectory

/-- The content of the file at a path. -/
def read (directory : Directory) (path : String) : Except ReadError ByteArray :=
  if path.toList.contains '\x00' then .error .nullInPath
  else if path = "" then .error (.file .notFound)
  else if pathBound ≤ path.utf8ByteSize then .error (.file .nameTooLong)
  else
    match directory.follow (if path.startsWith "/" then none else some []) (path.splitOn "/") with
    | .ok content => .ok content
    | .error error => .error (.file error)

end Directory
end Lox
