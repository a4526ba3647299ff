import Mathlib
import Colorimetry.Proofs.Exact.Adaptation
import Colorimetry.Proofs.Exact.Primaries
import Colorimetry.YCbCr

/-!
# Every matrix keeps points points

A sample becomes a point and the homogeneous coordinate of its image is dropped, so that matrices
compose as maps of samples only if they take points to points, that is, if they are affine. This
file follows the last row through all that the library builds: it starts as `(0, 0, 0, 1)` in every
builder, and neither products nor inverses change it. Conversions are linear besides, which a
decoding of YCbCr is not, because of its offsets.

Nothing is asked of the primaries or of the weights of luma here. Where they are degenerate there is
no matrix at all, and where there is one it is affine.
-/

namespace Colorimetry

variable {K : Type} [Field K] [DecidableEq K]

/-! ### Builders -/

namespace Mat4

theorem isAffine_offset (a b c : K) : (offset a b c).IsAffine := ⟨rfl⟩

section Steps

variable {m n : Mat4 K} {name : String}

theorem IsAffine.andScale (hm : m.IsAffine) (a b c : K) : (m.andScale a b c).IsAffine :=
  (isLinear_scaling a b c).toIsAffine.mul hm

theorem IsAffine.andOffset (hm : m.IsAffine) (a b c : K) : (m.andOffset a b c).IsAffine :=
  (isAffine_offset a b c).mul hm

/-- An inverse of an affine matrix that is found is affine, -/
theorem IsAffine.requireInverse (hm : m.IsAffine) (h : m.requireInverse name = .ok n) :
    n.IsAffine :=
  hm.of_mul_eq_one (requireInverse_eq_ok_iff.mp h)

/-- and that of a linear one is linear. -/
theorem IsLinear.requireInverse (hm : m.IsLinear) (h : m.requireInverse name = .ok n) :
    n.IsLinear :=
  hm.of_mul_eq_one (requireInverse_eq_ok_iff.mp h)

end Steps

end Mat4

/-! ### Computations that have succeeded -/

section Success

variable {ε ε' α β : Type} {x : Except ε α}

/-- A step of a computation that has succeeded has succeeded, -/
theorem exists_of_bind_eq_ok {f : α → Except ε β} {b : β} (h : x >>= f = .ok b) :
    ∃ a, x = .ok a ∧ f a = .ok b := by
  cases x with
  | error e => cases h
  | ok a => exact ⟨a, rfl, h⟩

/-- and so has one whose result was changed, -/
theorem exists_of_map_eq_ok {f : α → β} {b : β} (h : x.map f = .ok b) :
    ∃ a, x = .ok a ∧ f a = b := by
  cases x with
  | error e => cases h
  | ok a => exact ⟨a, rfl, Except.ok.inj h⟩

/-- and one whose error would have been. -/
theorem eq_ok_of_mapError_eq_ok {f : ε → ε'} {a : α} (h : x.mapError f = .ok a) : x = .ok a := by
  cases x with
  | error e => cases h
  | ok a' => exact congrArg Except.ok (Except.ok.inj h)

end Success

/-! ### Conversions -/

section Conversions

variable {cs dst src : Colorspace K} {cone : ConeResponse} {m : Mat4 K}

theorem Colorspace.isLinear_toXyzMatrix (h : cs.toXyzMatrix = .ok m) : m.IsLinear := by
  obtain ⟨inverse, -, hm⟩ := exists_of_bind_eq_ok h
  cases hm
  exact cs.isLinear_primariesMatrix.mul (Mat4.isLinear_scaling ..)

theorem Colorspace.isLinear_ofXyzMatrix (h : cs.ofXyzMatrix = .ok m) : m.IsLinear := by
  obtain ⟨toXyz, htoXyz, hm⟩ := exists_of_bind_eq_ok h
  exact (isLinear_toXyzMatrix htoXyz).requireInverse hm

theorem ConeResponse.isLinear_toXyz (h : cone.toXyz = .ok m) : m.IsLinear :=
  cone.isLinear_toLms.requireInverse h

/-- **A conversion is linear**, link by link. -/
theorem isLinear_cscMatrixWith {s : K} (h : cscMatrixWith dst src s cone = .ok m) :
    m.IsLinear := by
  obtain ⟨toXyz, htoXyz, h⟩ := exists_of_bind_eq_ok h
  obtain ⟨back, hback, h⟩ := exists_of_bind_eq_ok h
  obtain ⟨ofXyz, hofXyz, h⟩ := exists_of_bind_eq_ok h
  cases h
  have hresponses : (toXyz.andThen cone.toLms).IsLinear :=
    cone.isLinear_toLms.mul (Colorspace.isLinear_toXyzMatrix htoXyz)
  have hadapted : ((toXyz.andThen cone.toLms).andThen (catMatrix dst src cone)).IsLinear :=
    (isLinear_catMatrix dst src cone).mul hresponses
  have hrgb := (Colorspace.isLinear_ofXyzMatrix hofXyz).mul
    ((ConeResponse.isLinear_toXyz hback).mul hadapted)
  exact (Mat4.isLinear_scaling s s s).mul hrgb

end Conversions

/-! ### Luma and chroma -/

section YCbCr

variable {e : ColorEncoding K} {k : K} {full : Bool} {m : Mat4 K}

theorem isAffine_encodeMatrix (e : ColorEncoding K) (factor : K) (full : Bool) :
    (encodeMatrix e factor full).IsAffine := by
  have hunit : e.unitMatrix.IsAffine := (Mat4.isLinear_linear ..).toIsAffine
  have hranged : (if full then e.unitMatrix
      else e.unitMatrix.andScale (219.0 / 255.0) (112.0 / 128.0) (112.0 / 128.0)).IsAffine := by
    split
    · exact hunit
    · exact hunit.andScale ..
  exact (hranged.andOffset ..).andScale ..

/-- **A decoding is affine**, although it is not linear. -/
theorem isAffine_ycbcrToRgbMatrix (h : ycbcrToRgbMatrix e k full = .ok m) : m.IsAffine :=
  (isAffine_encodeMatrix e (1 / k) full).requireInverse h

end YCbCr

end Colorimetry
