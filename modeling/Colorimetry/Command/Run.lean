import Colorimetry.Command.Answer

/-!
# A run

What a run of the program leaves behind: a code, and the texts of its two outputs (`Outcome`).
`run` reads the command line and lets the query be answered. The first output holds what has been
written until then, also where the query fails.

| code | meaning |
|---|---|
| 0 | the answer, the help or the version was written |
| 1 | the query has no answer |
| 2 | the command line cannot be read |
| 101 | a matrix built from the tables is singular |
-/

namespace Colorimetry.Command

/-- What a run leaves behind. -/
structure Outcome where
  /-- The code that the caller sees. -/
  code : UInt32
  /-- The text of the first output. -/
  stdout : String
  /-- The text of the second output. -/
  stderr : String
  deriving DecidableEq, Repr

/-- How the program is used, in short. This stands in for the help of `csc` and does not have its
words: that one is generated from the declarations of the arguments, and each command has one of its
own. Only that there is some text matters here. -/
def usage : String := Layout.unlines [
  "Compositor color management inspector",
  "",
  "Usage: csc [--json] [-v] COMMAND",
  "",
  "Commands:",
  "  gamma, g     NAME [-d] [-n N]",
  "  eval, e      NAME VALUE [-d]",
  "  csc          -s SRC -d DST [-l SCALE] [--cone CONE] [--sample R,G,B]",
  "  ycbcr, y     [-e ENCODING] [-f] [-b MULTIPLIER] [-i]",
  "  shader       [NAME]",
  "  surface, s   CONFIG [-d DST] [-t TRANSFER] [-b MULTIPLIER] [--sample R,G,B] [--ycbcr]",
  "  list, ls"]

/-- What is written for the version. -/
def versionLine : String := "csc 0.1.0\n"

namespace Outcome

/-- The outcome of a run that ends with reading. A command line that cannot be read gets the same
stand-in as a question for help, on the second output; the reason that `csc` gives first is left
out. -/
def ofStop : Stop → Outcome
  | .misuse => ⟨2, "", usage⟩
  | .help => ⟨0, usage, ""⟩
  | .version => ⟨0, versionLine, ""⟩

/-- The outcome of a query that fails, with what has been written before. -/
def ofFailure (written : String) (f : Failure) : Outcome :=
  ⟨if f.isDefect then 101 else 1, written, f.report⟩

/-- The outcome of a query that is answered, with what has been written. -/
def ofSuccess (written : String) : Outcome := ⟨0, written, ""⟩

end Outcome

/-- **A run of the program** on the words of a command line. -/
def run (files : FileReader) (words : List String) : Outcome :=
  match Invocation.read words with
  | .error stop => .ofStop stop
  | .ok invocation =>
    match (invocation.query.answer invocation.json files).runFrom "" with
    | (.error failure, written) => .ofFailure written failure
    | (.ok _, written) => .ofSuccess written

end Colorimetry.Command
