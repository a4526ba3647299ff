import Colorimetry.Command.Failure

/-!
# The console

Answering a query takes steps that may fail and writes lines, and nothing but the order of these
decides what a reader sees of a query that fails half way. So a query is answered in a monad that
has both effects (`Console`): what has been written stays written when a later step fails, as it
does on a terminal.

`attempt` is a step that may fail, `write` one that writes, and `Console.runFrom` tells what comes of
them behind a text that is already there.
-/

namespace Colorimetry.Command

/-- A computation that may fail and that writes to the first output. -/
abbrev Console (β : Type) := ExceptT Failure (StateM String) β

namespace Console

variable {β : Type}

/-- What a computation comes to, and all that has been written at its end, behind a text that is
already there. -/
def runFrom (c : Console β) (written : String) : Except Failure β × String :=
  (ExceptT.run c).run written

/-- A step that may fail and writes nothing. -/
def attempt (r : Except Failure β) : Console β := ExceptT.mk (pure r)

/-- A text is written. -/
def write (text : String) : Console Unit := modify (· ++ text)

/-- A line is written. -/
def writeLine (line : String) : Console Unit := write (line ++ "\n")

/-- Lines are written, one after the other. -/
def writeLines (lines : List String) : Console Unit := lines.forM writeLine

end Console

end Colorimetry.Command
