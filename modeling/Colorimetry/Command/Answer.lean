import Colorimetry.Command.Invocation
import Colorimetry.Command.Report
import Colorimetry.Command.Sample
import Colorimetry.Surface.DescriptionText

/-!
# Answers

`Query.answer` takes the steps that a query asks for, writes the report and returns it. The steps
of a query are taken in a fixed order, which decides what is reported of a query with two faults,
and how much of an answer has been written when a step fails.
-/

namespace Colorimetry.Command

/-- A singular matrix as the failure of a query. -/
def orSingular {β : Type} (r : Except (Singular Float32) β) : Except Failure β :=
  r.mapError .singular

/-- A surface that cannot be shown as the failure of a query. -/
def orSurface {β : Type} (r : Except (Surface.Error Float32) β) : Except Failure β :=
  r.mapError Failure.ofSurface

/-- The cone responses of a name. -/
def requireCone (name : String) : Except Failure ConeResponse :=
  match ConeResponse.ofName? name with
  | some cone => .ok cone
  | none => .error (.unknownCone name (ConeResponse.all.map ConeResponse.name))

/-- The description in a file. -/
def loadDescription (files : FileReader) (path : String) :
    Except Failure (Surface.Description Float32) := do
  let text ← (readText files path).mapError fun cause => .loading path (.unreadable cause)
  (Surface.Description.read text).mapError fun _ => .loading path .malformed

/-- A sample of a surface at the end of a pipeline. -/
def runPipeline (p : Surface.Pipeline Float32) (v : Rgb Float32) : Except Failure (Rgb Float32) :=
  (p.apply v).mapError fun e => .emptyRange e.lower e.upper

/-- A report is written and returned. -/
def answerWith (asJson : Bool) (report : Report) : Console Report := do
  report.write asJson
  return report

section Queries

open Console

variable (asJson : Bool)

/-- A table of a curve. -/
def answerGamma (name : String) (direction : Transfer.Direction) (samples : Nat) :
    Console Report := do
  if samples = 1 then throw .singleSample
  let transfer ← attempt ((TransferFunction.ofName name).mapError (.unknownCurve .table name))
  let curve : Transfer.Curve Float32 := transfer.curve direction
  answerWith asJson
    (.curve ⟨transfer, direction, curve.tabulate Number.float32OfNat samples⟩)

/-- A value of a curve. -/
def answerEval (name : String) (direction : Transfer.Direction) (input : Float32) :
    Console Report := do
  let transfer ← attempt ((TransferFunction.ofName name).mapError (.unknownCurve .value name))
  answerWith asJson
    (.value ⟨transfer, direction, input, (transfer.curve direction).apply input⟩)

/-- The conversion between two colorspaces. -/
def answerConversion (query : ConversionQuery) : Console Report := do
  let source ← attempt ((Colorspace.require query.source).mapError (.unknownSpace .source))
  let destination ←
    attempt ((Colorspace.require query.destination).mapError (.unknownSpace .destination))
  let cone ← attempt (requireCone query.cone)
  let matrix ← attempt (orSingular (cscMatrixWith destination source query.scale cone))
  let sample ← attempt (mapSample (fun v => .ok (matrix.convertRgb v)) query.sample)
  answerWith asJson (.conversion ⟨source, destination, cone, query.scale, matrix, sample⟩)

/-- The matrix of a YCbCr encoding. -/
def answerYcbcr (query : YcbcrQuery) : Console Report := do
  let k := query.multiplier
  if (Surface.Color.checkMultiplier k).isOk then
    let encoding ← attempt ((ColorEncoding.require query.encoding).mapError .unknownEncoding)
    let matrix ← attempt (if query.inverse then
        orSingular (ycbcrToRgbMatrix encoding k query.fullRange)
      else
        .ok (rgbToYcbcrMatrix encoding k query.fullRange))
    answerWith asJson (.ycbcr ⟨encoding, query.fullRange, k, query.inverse, matrix⟩)
  else
    throw (.invalidMultiplier k)

/-- A shader function, or all of them. -/
def answerShader : Option String → Console Report
  | none => answerWith asJson .shaderLibrary
  | some name =>
    match Glsl.find? name with
    | some f => answerWith asJson (.shader f)
    | none => throw (.unknownShader name (Glsl.library.map Glsl.Function.name))

/-- The surface of a description. -/
def answerSurface (files : FileReader) (query : SurfaceQuery) : Console Report := do
  let description ← attempt (loadDescription files query.path)
  let surface ← attempt (description.toSurface.mapError (.description query.path))
  let multiplier ← attempt (match query.multiplier with
    | some k => .ok k
    | none => orSurface description.checkedMultiplier)
  let colorspace ←
    attempt ((Colorspace.require query.destination).mapError (.unknownSpace .output))
  let transfer ←
    attempt ((TransferFunction.ofName query.transfer).mapError .unknownOutputTransfer)
  let output := Surface.Output.unit colorspace transfer
  let decoding ← attempt (orSurface (surface.ycbcrToRgb multiplier))
  let conversion ← attempt (orSurface (surface.cscTo colorspace 1))
  let sample ← attempt (mapSample (fun v => do
    let pipeline ← orSurface <|
      if query.ycbcr then surface.ycbcrPipelineTo multiplier output
      else surface.pipelineTo output
    runPipeline pipeline v) query.sample)
  answerWith asJson
    (.surface ⟨query.path, surface, multiplier, output, decoding, conversion, sample⟩)

/-- **A query is answered**: its report is written and returned. -/
def Query.answer (files : FileReader) : Query → Console Report
  | .gamma name direction samples => answerGamma asJson name direction samples
  | .eval name direction input => answerEval asJson name direction input
  | .csc query => answerConversion asJson query
  | .ycbcr query => answerYcbcr asJson query
  | .shader name => answerShader asJson name
  | .surface query => answerSurface asJson files query
  | .list => answerWith asJson .tables

end Queries

end Colorimetry.Command
