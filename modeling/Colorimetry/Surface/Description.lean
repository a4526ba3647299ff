import Colorimetry.Surface.Color

/-!
# Descriptions of surfaces

A description names what a client would send with its two requests, by the names of the tables,
and the multiplier of the stored samples. Every field is optional: a surface that is not described
has undefined chromaticities, linear transfer, BT.601 at studio range, and a multiplier of one.

`Description.toSurface` resolves the names. It fails at the first field that cannot be resolved,
in the order in which the fields are listed.
-/

namespace Colorimetry.Surface

/-- A surface described by name. -/
structure Description (α : Type) where
  /-- The name of the colorspace; none for undefined chromaticities. -/
  chromaticities : Option String := none
  /-- The name of the transfer function; none for linear. -/
  transfer : Option String := none
  /-- The name of the YCbCr encoding; none for an undefined one. -/
  encoding : Option String := none
  /-- Whether YCbCr samples take every code value. -/
  fullRange : Bool := false
  /-- The factor from a stored sample to a code value; none for one. -/
  multiplier : Option α := none
  deriving BEq, Repr

namespace Description

/-- A name resolved, or what stands for no name. -/
def resolve {α : Type} {β : Type} (ofName : String → Except LookupError β) (default : β) :
    Option String → Except (Error α) β
  | some name => Error.ofLookup (ofName name)
  | none => .ok default

variable {α : Type} [Scalar α]

/-- The multiplier, which must be finite and positive. -/
def checkedMultiplier (d : Description α) : Except (Error α) α :=
  Color.checkMultiplier (d.multiplier.getD 1)

/-- **The surface that a description stands for**, or the error of the first field that stands for
nothing. -/
def toSurface (d : Description α) : Except (Error α) Color := do
  let chromaticities ← resolve Wire.Chromaticities.ofName .undefined d.chromaticities
  let transfer ← resolve Wire.Transfer.ofName .linear d.transfer
  let encoding ← resolve Wire.Encoding.ofName .undefined d.encoding
  let _ ← d.checkedMultiplier
  return Color.new do
    Color.setColorspace chromaticities transfer
    Color.setYcbcrEncoding encoding (.ofFull d.fullRange)

end Description

end Colorimetry.Surface
