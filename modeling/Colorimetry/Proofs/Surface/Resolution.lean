import Mathlib
import Colorimetry.Proofs.Surface.Pipeline

/-!
# What a surface resolves to

The names that chromaticities and encodings carry are names of the tables, so a surface with defined
chromaticities has a colorspace from `Colorspace.table`, and every surface has an encoding from
`ColorEncoding.table`. What holds of all members of a table therefore holds of every surface, and
the error of an unknown name does not occur in `Color.cscTo`. A pipeline then is two curves with at
most one matrix in between (`Color.appendStages_eq_ok`).
-/

namespace Colorimetry.Surface.Color

variable {α : Type}

/-- Defined chromaticities are those of a built-in colorspace. -/
theorem exists_colorspace?_eq_some [Arithmetic α] {s : Color} (h : s.chromaticities ≠ .undefined) :
    ∃ cs ∈ (Colorspace.table : List (Colorspace α)), s.colorspace? = some cs := by
  have hsome : (s.colorspace? : Option (Colorspace α)).isSome := by
    unfold colorspace?
    cases hc : s.chromaticities <;>
      first
        | exact absurd hc h
        | rfl
  obtain ⟨cs, hcs⟩ := Option.isSome_iff_exists.mp hsome
  refine ⟨cs, ?_, hcs⟩
  obtain ⟨name, -, hfind⟩ := Option.bind_eq_some_iff.mp hcs
  exact List.mem_of_find?_eq_some hfind

/-- The encoding of a surface is a built-in one. -/
theorem colorEncoding_mem_table [Arithmetic α] (s : Color) :
    (s.colorEncoding : ColorEncoding α) ∈ ColorEncoding.table := by
  unfold colorEncoding
  cases s.encoding <;> simp [ColorEncoding.ofWire, ColorEncoding.table]

/-- Undefined chromaticities are not converted. -/
theorem cscTo_of_undefined [Arithmetic α] {s : Color} (h : s.chromaticities = .undefined)
    (dst : Colorspace α) (scale : α) : s.cscTo dst scale = .ok none := by
  rw [cscTo, if_pos h]

/-- Defined chromaticities are converted from a built-in colorspace. -/
theorem exists_cscTo_eq [Arithmetic α] {s : Color} (h : s.chromaticities ≠ .undefined) :
    ∃ src ∈ (Colorspace.table : List (Colorspace α)), ∀ dst scale,
      s.cscTo dst scale = (Error.ofSingular (cscMatrix dst src scale)).map some := by
  obtain ⟨src, hmem, hsrc⟩ := exists_colorspace?_eq_some (α := α) h
  refine ⟨src, hmem, ?_⟩
  intro dst scale
  rw [cscTo, if_neg h, hsrc]

/-- The matrix between the two curves of a pipeline: the conversion, else the factor of the output,
unless it is one. -/
def conversion [Scalar α] (output : Output α) (csc : Option (Mat4 α)) : Option (Mat4 α) :=
  csc.or (if output.luminanceScale != 1 then
    some (.scaling output.luminanceScale output.luminanceScale output.luminanceScale) else none)

/-- The stages behind the decoding, once the conversion is known. -/
theorem appendStages_eq_ok [Scalar α] {s : Color} {output : Output α} {csc : Option (Mat4 α)}
    (h : s.cscTo output.colorspace output.luminanceScale = .ok csc) (p : Pipeline α) :
    s.appendStages output p =
      .ok (((p.curve s.decodingCurve).push? (conversion output csc)).curve
        (output.transfer.curve .encode)) := by
  simp only [appendStages, conversion, h]
  cases csc with
  | some m => rfl
  | none =>
    by_cases hscale : (output.luminanceScale != 1) = true
    · simp only [hscale]
      rfl
    · simp only [hscale]
      rfl

/-- A finite positive multiplier passes the check. -/
theorem checkMultiplier_eq_ok_iff [Scalar α] {k : α} :
    checkMultiplier k = .ok k ↔ Arithmetic.isFinite k = true ∧ 0 < k := by
  unfold checkMultiplier
  split
  · next h => simpa using h
  · next h => simpa using h

end Colorimetry.Surface.Color
