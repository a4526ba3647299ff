import Colorimetry.Surface.Description
import Colorimetry.Yaml.Mapping
import Colorimetry.Yaml.Schema
import Colorimetry.Yaml.Writer

/-!
# Descriptions as text

A description is a flat YAML mapping whose keys are the fields. `Description.read` takes a text to
the description it holds: unknown and repeated fields are refused, an empty document describes
nothing, and the multiplier is rounded to binary64 before it is rounded to binary32.
`Description.write` is the text of a description, one line for each field that is present and one
for the range.
-/

namespace Colorimetry.Surface.Description

/-! ### Reading -/

/-- The fields of a description, each with its value if it has been read. -/
structure Fields where
  /-- The name of the colorspace. -/
  chromaticities : Option (Option String) := none
  /-- The name of the transfer function. -/
  transfer : Option (Option String) := none
  /-- The name of the YCbCr encoding. -/
  encoding : Option (Option String) := none
  /-- The range. -/
  fullRange : Option Bool := none
  /-- The multiplier. -/
  multiplier : Option (Option Float32) := none

/-- The value of a field that may be absent. -/
def optional? {α : Type} (read : Yaml.Scalar → Option α) (s : Yaml.Scalar) : Option (Option α) :=
  s.isPresent?.bind fun present => if present then (read s).map some else some none

/-- The text of a scalar, whatever it is. -/
def text? (s : Yaml.Scalar) : Option String := some s.text

/-- A multiplier. -/
def multiplier? (s : Yaml.Scalar) : Option Float32 := s.number?.map Number.Literal.toFloat32ByDouble

/-- A field that has not been read before takes a value. -/
def fill? {α : Type} (old : Option α) (new : Option α) : Option (Option α) :=
  if old.isSome then none else new.map some

/-- The fields after an entry. -/
def Fields.read? (f : Fields) (key value : Yaml.Scalar) : Option Fields :=
  match key.text with
  | "chromaticities" =>
    (fill? f.chromaticities (optional? text? value)).map fun v => { f with chromaticities := v }
  | "transfer" => (fill? f.transfer (optional? text? value)).map fun v => { f with transfer := v }
  | "encoding" => (fill? f.encoding (optional? text? value)).map fun v => { f with encoding := v }
  | "full_range" => (fill? f.fullRange value.bool?).map fun v => { f with fullRange := v }
  | "bpc_mul" =>
    (fill? f.multiplier (optional? multiplier? value)).map fun v => { f with multiplier := v }
  | _ => none

/-- The description of the fields that have been read. -/
def ofFields (f : Fields) : Description Float32 where
  chromaticities := f.chromaticities.join
  transfer := f.transfer.join
  encoding := f.encoding.join
  fullRange := f.fullRange.getD false
  multiplier := f.multiplier.join

/-- The description of a mapping. -/
def ofEntries? (entries : List (Yaml.Scalar × Yaml.Scalar)) : Option (Description Float32) :=
  (entries.foldlM (fun f (key, value) => Fields.read? f key value) ({} : Fields)).map ofFields

/-- **The description that a text holds.** -/
def read (s : String) : Except (Error Float32) (Description Float32) :=
  match (Yaml.readMapping? s).bind ofEntries? with
  | some d => .ok d
  | none => .error .malformed

/-! ### Writing -/

/-- The line of a name, if there is one. -/
def nameLine (key : String) : Option String → String
  | none => ""
  | some name => Yaml.writeEntry key (Yaml.writeText name)

/-- **The text of a description.** -/
def write (d : Description Float32) : String :=
  nameLine "chromaticities" d.chromaticities ++ nameLine "transfer" d.transfer ++
    nameLine "encoding" d.encoding ++
    Yaml.writeEntry "full_range" (if d.fullRange then "true" else "false") ++
    match d.multiplier with
    | none => ""
    | some k => Yaml.writeEntry "bpc_mul" (Number.Style.yaml.format k)

end Colorimetry.Surface.Description
