import Mathlib
import Colorimetry.Proofs.Binary32.Inversion
import Colorimetry.YCbCr

/-!
# The encoding matrix in units

The matrix that encodes samples is a matrix of code values (`codeMatrix`), which depends on the
standard and the range alone, with three of its rows multiplied by the reciprocal of the multiplier.
Its entries come out of decimal literals and quotients. For the built-in encodings both can be read
in units: the literals are rounded alike (`hasUnits_ofWire`), and no divisor overflows. So the code
values of a built-in encoding in binary32 are those that the same formulas have over `Units`
(`related_codeMatrix`), where the kernel evaluates them quickly.
-/

namespace Colorimetry

open Binary32

/-- From RGB to code values: the encoding matrix before the multiplication. -/
def codeMatrix {α : Type} [Arithmetic α] (e : ColorEncoding α) (fullRange : Bool) : Mat4 α :=
  let ranged := if fullRange then e.unitMatrix
    else e.unitMatrix.andScale (219.0 / 255.0) (112.0 / 128.0) (112.0 / 128.0)
  ranged.andOffset (if fullRange then 0 else 16.0 / 255.0) 0.5 0.5

/-- Code values multiplied by a factor. -/
def Mat4.multiplied {α : Type} [Arithmetic α] (m : Mat4 α) (f : α) : Mat4 α := m.andScale f f f

/-- The multiplication comes last, and its factor is the reciprocal of the multiplier. -/
theorem rgbToYcbcrMatrix_eq_multiplied {α : Type} [Arithmetic α] (e : ColorEncoding α)
    (multiplier : α) (fullRange : Bool) :
    rgbToYcbcrMatrix e multiplier fullRange =
      (codeMatrix e fullRange).multiplied (1 / multiplier) :=
  rfl

/-- A built-in encoding and its weights in units. The divisors of `ColorEncoding.unitMatrix` have
units as well. -/
structure ColorEncoding.HasUnits (e : ColorEncoding Float32) (u : ColorEncoding Units) : Prop where
  kr : Binary32.HasUnits e.kr u.kr
  kb : Binary32.HasUnits e.kb u.kb
  redSpan : Arithmetic.isFinite (1 - u.kr) = true
  blueSpan : Arithmetic.isFinite (1 - u.kb) = true

/-- The weights of built-in encodings are the same literals in binary32 and in units. -/
theorem hasUnits_ofWire (e : Wire.Encoding) :
    (ColorEncoding.ofWire e).HasUnits (ColorEncoding.ofWire e) where
  kr := by cases e <;> decide +kernel
  kb := by cases e <;> decide +kernel
  redSpan := by cases e <;> decide +kernel
  blueSpan := by cases e <;> decide +kernel

/-- A quotient by a finite value. -/
theorem Binary32.HasUnits.div {x y : Float32} {u v : Units} (hx : HasUnits x u) (hy : HasUnits y v)
    (hv : Arithmetic.isFinite v = true) : HasUnits (x / y) (u / v) := by
  have hne : units y ≠ none := by
    rintro hnone
    rw [← hy, hnone] at hv
    cases hv
  rw [HasUnits, units_div x hne, hx, hy]

theorem hasUnits_half : HasUnits 0.5 0.5 := by decide +kernel

theorem hasUnits_lumaSpan : HasUnits (219.0 / 255.0) (219.0 / 255.0) :=
  HasUnits.div (by decide +kernel) (by decide +kernel) (by decide +kernel)

theorem hasUnits_chromaSpan : HasUnits (112.0 / 128.0) (112.0 / 128.0) :=
  HasUnits.div (by decide +kernel) (by decide +kernel) (by decide +kernel)

theorem hasUnits_lumaOffset : HasUnits (16.0 / 255.0) (16.0 / 255.0) :=
  HasUnits.div (by decide +kernel) (by decide +kernel) (by decide +kernel)

section Related

variable {e : ColorEncoding Float32} {u : ColorEncoding Units}

theorem related_unitMatrix (h : e.HasUnits u) :
    Mat4.Related HasUnits e.unitMatrix u.unitMatrix := by
  have hR := respects_hasUnits
  have hkg : HasUnits e.kg u.kg := hR.sub (hR.sub hR.one h.kr) h.kb
  have hneg : HasUnits (-0.5) (-0.5) := hR.neg hasUnits_half
  have hred := hR.sub hR.one h.kr
  have hblue := hR.sub hR.one h.kb
  exact ⟨⟨h.kr, hkg, h.kb, hR.zero⟩,
    ⟨(hR.mul hneg h.kr).div hblue h.blueSpan, (hR.mul hneg hkg).div hblue h.blueSpan,
      hasUnits_half, hR.zero⟩,
    ⟨hasUnits_half, (hR.mul hneg hkg).div hred h.redSpan, (hR.mul hneg h.kb).div hred h.redSpan,
      hR.zero⟩,
    ⟨hR.zero, hR.zero, hR.zero, hR.one⟩⟩

/-- **Code values in units.** -/
theorem related_codeMatrix (h : e.HasUnits u) (fullRange : Bool) :
    Mat4.Related HasUnits (codeMatrix e fullRange) (codeMatrix u fullRange) := by
  have hR := respects_hasUnits
  have hunit := related_unitMatrix h
  cases fullRange with
  | true => exact hunit.andOffset hR hR.zero hasUnits_half hasUnits_half
  | false =>
    have hranged := hunit.andScale hR hasUnits_lumaSpan hasUnits_chromaSpan hasUnits_chromaSpan
    exact hranged.andOffset hR hasUnits_lumaOffset hasUnits_half hasUnits_half

end Related

end Colorimetry
