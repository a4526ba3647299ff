/-!
# Files

Where the command line takes descriptions from. A command does not open files: it is handed a
function from paths to contents (`FileReader`), and says only what a failure means. The program
hands over the file system, and `Directory` is a directory held in memory, whose paths resolve
step by step as those of a real one do.
-/

namespace Colorimetry.Command

/-- Why a file cannot be read. -/
inductive FileError where
  /-- No file has this name. -/
  | notFound
  /-- A component of the path is a file. -/
  | notDirectory
  /-- The path names a directory. -/
  | isDirectory
  /-- A component is longer than 255 bytes, or the path than 4095. -/
  | nameTooLong
  /-- The content is not text. -/
  | notText
  /-- The file system says something else. -/
  | other (description : String)
  deriving DecidableEq, Repr

/-- What a reader of the failure is told. -/
def FileError.message : FileError → String
  | .notFound => "No such file or directory (os error 2)"
  | .notDirectory => "Not a directory (os error 20)"
  | .isDirectory => "Is a directory (os error 21)"
  | .nameTooLong => "File name too long (os error 36)"
  | .notText => "stream did not contain valid UTF-8"
  | .other description => description

/-- The content of the file at a path. -/
abbrev FileReader := String → Except FileError ByteArray

/-- The text of the file at a path. -/
def readText (files : FileReader) (path : String) : Except FileError String := do
  match String.fromUTF8? (← files path) with
  | some text => return text
  | none => throw .notText

/-! ### A directory in memory -/

/-- A directory without subdirectories. -/
structure Directory where
  /-- The files by name. -/
  files : List (String × ByteArray) := []

namespace Directory

/-- A component that a step from directory to directory consists of. -/
def isStep (component : String) : Bool :=
  component == "" || component == "." || component == ".."

/-- A component of a path that leads away from the directory: whatever is there is not known. -/
def walkOutside : List String → FileError
  | [] => .isDirectory
  | component :: rest =>
    if isStep component then walkOutside rest
    else if 255 < component.utf8ByteSize then .nameTooLong
    else .notFound

/-- The components of a path followed one by one. -/
def walk (d : Directory) : List String → Except FileError ByteArray
  | [] => .error .isDirectory
  | component :: rest =>
    if component == ".." then .error (walkOutside rest)
    else if isStep component then d.walk rest
    else if 255 < component.utf8ByteSize then .error .nameTooLong
    else match d.files.lookup component with
      | none => .error .notFound
      | some content => if rest.isEmpty then .ok content else .error .notDirectory

/-- **The content of the file at a path.** -/
def read (d : Directory) : FileReader := fun path =>
  if path.isEmpty then .error .notFound
  else if 4096 ≤ path.utf8ByteSize then .error .nameTooLong
  else match path.splitOn "/" with
    | "" :: rest => .error (walkOutside rest)
    | components => d.walk components

end Directory

end Colorimetry.Command
