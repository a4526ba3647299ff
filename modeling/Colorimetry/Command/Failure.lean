import Colorimetry.Command.Files
import Colorimetry.Number.Literal
import Colorimetry.Surface.Error

/-!
# Why a query fails

The causes for which a well-formed query has no answer (`Failure`), and what is said of them. A
failure is reported as a sentence and the chain of its causes (`Failure.explanation`,
`Explanation.report`). A singular matrix stands apart: the tables of this library never lead to
one, so it ends the run as a defect does (`Failure.isDefect`), with its own text alone.
-/

namespace Colorimetry.Command

/-- Which of the two queries for a curve. -/
inductive CurveUse where
  /-- A table was asked for. -/
  | table
  /-- A value was asked for. -/
  | value
  deriving DecidableEq, Repr

/-- Which colorspace was asked for. -/
inductive SpaceRole where
  /-- That of the samples. -/
  | source
  /-- That of the result. -/
  | destination
  /-- That of the output of a surface. -/
  | output
  deriving DecidableEq, Repr

/-- Why a description cannot be loaded. -/
inductive LoadError where
  /-- The file cannot be read. -/
  | unreadable (cause : FileError)
  /-- The text is not a description. -/
  | malformed
  deriving DecidableEq, Repr

/-- Why a query fails. -/
inductive Failure where
  /-- A table of a single row spans nothing. -/
  | singleSample
  /-- No curve has this name. -/
  | unknownCurve (use : CurveUse) (name : String) (cause : LookupError)
  /-- No colorspace has this name. -/
  | unknownSpace (role : SpaceRole) (cause : LookupError)
  /-- No transfer function of an output has this name. -/
  | unknownOutputTransfer (cause : LookupError)
  /-- No cone responses have this name. -/
  | unknownCone (name : String) (known : List String)
  /-- No encoding has this name. -/
  | unknownEncoding (cause : LookupError)
  /-- No shader function has this name. -/
  | unknownShader (name : String) (known : List String)
  /-- A sample has another number of parts. -/
  | sampleArity (sample : String)
  /-- A part of a sample is not a number. -/
  | samplePart (part sample : String) (cause : Number.LiteralError)
  /-- A multiplier is not finite and positive. -/
  | invalidMultiplier (multiplier : Float32)
  /-- A description cannot be loaded. -/
  | loading (path : String) (cause : LoadError)
  /-- A description does not describe a surface. -/
  | description (path : String) (cause : Surface.Error Float32)
  /-- A surface cannot be shown. -/
  | surface (cause : Surface.Error Float32)
  /-- A matrix that had to be inverted is singular. -/
  | singular (cause : Singular Float32)
  /-- A range to clamp to is empty. -/
  | emptyRange (lower upper : Float32)

/-- A sentence and the chain of its causes, the nearest first. -/
structure Explanation where
  /-- What failed. -/
  summary : String
  /-- Why it failed. -/
  causes : List String := []

/-- The lines of an explanation. The causes are numbered if there are several. -/
def Explanation.report (e : Explanation) : String :=
  let causes := match e.causes with
    | [] => ""
    | [cause] => "\nCaused by:\n    " ++ cause ++ "\n"
    | causes => "\nCaused by:\n" ++
      String.join (causes.zipIdx.map fun (cause, i) =>
        "    " ++ toString i ++ ": " ++ cause ++ "\n")
  "Error: " ++ e.summary ++ "\n" ++ causes

/-- What a reader is told of a role. -/
def SpaceRole.summary : SpaceRole → String
  | .source => "Invalid source colorspace"
  | .destination => "Invalid destination colorspace"
  | .output => "Invalid output colorspace"

/-- What a reader is told of a use. -/
def CurveUse.summary : CurveUse → String
  | .table => "Cannot show curve "
  | .value => "Cannot evaluate curve "

/-- The chain of causes of a description that cannot be loaded. -/
def LoadError.causes : LoadError → List String
  | .unreadable cause => ["I/O error: " ++ cause.message, cause.message]
  | .malformed =>
    [(Surface.Error.malformed : Surface.Error Float32).message, Surface.malformedDetail]

/-- Names in parentheses. -/
def parenthesized (names : List String) : String :=
  "(" ++ String.intercalate ", " names ++ ")"

namespace Failure

/-- A surface that cannot be shown; a singular matrix is a failure of its own. -/
def ofSurface : Surface.Error Float32 → Failure
  | .singular cause => .singular cause
  | cause => .surface cause

/-- What failed and why. -/
def explanation : Failure → Explanation
  | singleSample => ⟨"Need at least 2 samples to span [0, 1]", []⟩
  | unknownCurve use name cause => ⟨use.summary ++ Text.quote name, [cause.message]⟩
  | unknownSpace role cause => ⟨role.summary, [cause.message]⟩
  | unknownOutputTransfer cause => ⟨"Invalid output transfer function", [cause.message]⟩
  | unknownCone name known =>
    ⟨"Unknown cone response " ++ Text.quote name ++ " " ++ parenthesized known, []⟩
  | unknownEncoding cause => ⟨cause.message, []⟩
  | unknownShader name known =>
    ⟨"Unknown shader function " ++ Text.quote name ++ " " ++ parenthesized known, []⟩
  | sampleArity sample => ⟨"Expected 3 comma-separated values, got " ++ Text.quote sample, []⟩
  | samplePart part sample cause =>
    ⟨"Invalid number " ++ Text.quote part ++ " in " ++ Text.quote sample, [cause.message]⟩
  | invalidMultiplier k =>
    ⟨"Bit depth multiplier must be positive, got " ++ Number.Style.plain.format k, []⟩
  | loading path cause => ⟨"Failed to load: " ++ path, cause.causes⟩
  | description path cause => ⟨"Invalid surface description: " ++ path, [cause.message]⟩
  | surface cause => ⟨cause.message, []⟩
  | singular cause => ⟨cause.message, []⟩
  | emptyRange lower upper =>
    ⟨"empty range: " ++ Number.Style.general.format lower ++ " to " ++
      Number.Style.general.format upper, []⟩

/-- Whether the data built into the library is at fault, and not the query. -/
def isDefect : Failure → Bool
  | singular _ => true
  | emptyRange .. => true
  | _ => false

/-- The text of a failure. -/
def report (f : Failure) : String :=
  if f.isDefect then "panic: " ++ f.explanation.summary ++ "\n" else f.explanation.report

end Failure

end Colorimetry.Command
