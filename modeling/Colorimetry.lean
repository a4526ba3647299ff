import Colorimetry.Adaptation
import Colorimetry.CodePoints
import Colorimetry.Colorspace
import Colorimetry.Colorspace.Conversion
import Colorimetry.Command.Answer
import Colorimetry.Command.Arguments
import Colorimetry.Command.Console
import Colorimetry.Command.Failure
import Colorimetry.Command.Files
import Colorimetry.Command.Invocation
import Colorimetry.Command.Report
import Colorimetry.Command.Report.Curve
import Colorimetry.Command.Report.Layout
import Colorimetry.Command.Report.Matrix
import Colorimetry.Command.Report.Surface
import Colorimetry.Command.Report.Tables
import Colorimetry.Command.Run
import Colorimetry.Command.Sample
import Colorimetry.Error
import Colorimetry.Glsl.Function
import Colorimetry.Glsl.Library
import Colorimetry.Linear.Inverse
import Colorimetry.Linear.Mat4
import Colorimetry.Linear.Vec4
import Colorimetry.Main
import Colorimetry.Number.Binary
import Colorimetry.Number.Literal
import Colorimetry.Number.Rounding
import Colorimetry.Number.Shortest
import Colorimetry.Number.Style
import Colorimetry.Proofs.Binary32.Enclosure
import Colorimetry.Proofs.Binary32.Inversion
import Colorimetry.Proofs.Binary32.NotANumber
import Colorimetry.Proofs.Binary32.Operations
import Colorimetry.Proofs.Binary32.Packing
import Colorimetry.Proofs.Binary32.Rounding
import Colorimetry.Proofs.Binary32.Units
import Colorimetry.Proofs.Binary32.Unpacked
import Colorimetry.Proofs.Command.Output
import Colorimetry.Proofs.Exact.Adaptation
import Colorimetry.Proofs.Exact.Agreement
import Colorimetry.Proofs.Exact.Characterization
import Colorimetry.Proofs.Exact.Conversion
import Colorimetry.Proofs.Exact.Decoding
import Colorimetry.Proofs.Exact.Inverse
import Colorimetry.Proofs.Exact.Matrix
import Colorimetry.Proofs.Exact.Neutral
import Colorimetry.Proofs.Exact.Primaries
import Colorimetry.Proofs.Exact.Scalar
import Colorimetry.Proofs.Exact.Shape
import Colorimetry.Proofs.Exact.Valid
import Colorimetry.Proofs.Linear.Related
import Colorimetry.Proofs.Multiplier.Encoding
import Colorimetry.Proofs.Multiplier.Range
import Colorimetry.Proofs.Multiplier.Regimes
import Colorimetry.Proofs.Multiplier.Span
import Colorimetry.Proofs.Surface.Fusion
import Colorimetry.Proofs.Surface.Multiplier
import Colorimetry.Proofs.Surface.Pipeline
import Colorimetry.Proofs.Surface.Resolution
import Colorimetry.Proofs.Surface.Undefined
import Colorimetry.Proofs.Transfer.HybridLogGamma
import Colorimetry.Proofs.Transfer.Naming
import Colorimetry.Proofs.Transfer.PerceptualQuantizer
import Colorimetry.Proofs.Transfer.Segments
import Colorimetry.Proofs.Transfer.Undefined
import Colorimetry.Scalar
import Colorimetry.Surface.Color
import Colorimetry.Surface.Description
import Colorimetry.Surface.DescriptionText
import Colorimetry.Surface.Error
import Colorimetry.Surface.Pipeline
import Colorimetry.Text.Blank
import Colorimetry.Text.Column
import Colorimetry.Text.Glyph
import Colorimetry.Text.Json
import Colorimetry.Text.Quoted
import Colorimetry.Transfer.Curve
import Colorimetry.Transfer.Hlg
import Colorimetry.Transfer.Pq
import Colorimetry.Transfer.Record
import Colorimetry.Transfer.Sampling
import Colorimetry.Wire
import Colorimetry.YCbCr
import Colorimetry.Yaml.Cell
import Colorimetry.Yaml.Mapping
import Colorimetry.Yaml.Node
import Colorimetry.Yaml.Scalar
import Colorimetry.Yaml.Schema
import Colorimetry.Yaml.Tag
import Colorimetry.Yaml.Token
import Colorimetry.Yaml.Writer
import Colorimetry.Proofs.Transfer.Joints
import Colorimetry.Proofs.Transfer.Order
import Colorimetry.Proofs.Transfer.RoundTrip
import Colorimetry.Proofs.Surface.Requests
import Colorimetry.Proofs.Surface.Composition
import Colorimetry.Proofs.Glsl.Distinction
import Colorimetry.Proofs.Surface.DescriptionText
import Colorimetry.Proofs.Exact.Degenerate
import Colorimetry.Proofs.Binary32.Finiteness
import Colorimetry.Proofs.Transfer.Meeting
import Colorimetry.Proofs.Surface.Clamping
import Colorimetry.Proofs.Surface.Denotation
import Colorimetry.Proofs.Exact.Chain
import Colorimetry.Proofs.Exact.CodeRange
import Colorimetry.Proofs.Binary32.Unrounded
import Colorimetry.Proofs.Binary32.Identity
import Colorimetry.Proofs.Transfer.Sampling
import Colorimetry.Proofs.Binary32.Quotients
import Colorimetry.Proofs.Command.Table
