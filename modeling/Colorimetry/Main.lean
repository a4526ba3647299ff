import Colorimetry.Command.Run

/-!
# The program

The outer layer: it reads the one file that a command may ask for, and writes what the run leaves
behind.
-/

namespace Colorimetry

open Command

/-- A failure of the file system in the words of this library. -/
def fileErrorOf : IO.Error → FileError
  | .noFileOrDirectory .. => .notFound
  | .inappropriateType _ 21 _ => .isDirectory
  | .inappropriateType .. => .notDirectory
  | .invalidArgument .. => .nameTooLong
  | .permissionDenied .. => .other "Permission denied (os error 13)"
  | e => .other (toString e)

/-- The file that a run asks for, read ahead. -/
def readAhead (words : List String) : IO FileReader := do
  match (Invocation.read words).toOption.bind fun invocation => invocation.query.path? with
  | none => return fun _ => .error .notFound
  | some path =>
    let content ← (IO.FS.readBinFile ⟨path⟩).toBaseIO
    return fun _ => content.mapError fileErrorOf

end Colorimetry

open Colorimetry Command in
/-- Runs the command line. -/
def main (words : List String) : IO UInt32 := do
  let outcome := run (← readAhead words) words
  (← IO.getStdout).putStr outcome.stdout
  (← IO.getStderr).putStr outcome.stderr
  return outcome.code
