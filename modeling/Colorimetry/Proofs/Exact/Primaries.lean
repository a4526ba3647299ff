import Mathlib
import Colorimetry.Colorspace.Conversion
import Colorimetry.Proofs.Exact.Inverse

/-!
# Primaries and white point

The matrix from RGB to XYZ is found by solving for the luminances of the primaries. Whether that
succeeds is a matter of plane geometry. Write `Chromaticity.doubleArea p q r` for twice the signed
area of the triangle of three chromaticities. Then

* the determinant of the matrix of the primaries is the double area of the gamut
  (`Colorspace.HasLuminances.determinant_primariesMatrix`);
* the amount of a primary in the white is, up to the luminance of the white, the double area of the
  triangle that the white makes with the other two primaries, divided by that of the gamut
  (Cramer's rule, `Colorspace.IsBalance.red` and its companions).

So a colorspace has a matrix to XYZ if its primaries are not on one line (`Colorspace.Regular`), and
one from XYZ if no two primaries are on one line with the white besides
(`Colorspace.Nondegenerate`); otherwise the matrix to XYZ exists and is singular
(`Colorspace.Regular.determinant_toXyzMatrix_eq_zero_iff`). Neither matrix depends on the case
distinction for the axes of XYZ: the columns of `Colorspace.primariesMatrix` are the chromaticities
themselves in both cases.
-/

namespace Colorimetry

variable {K : Type} [Field K] [DecidableEq K]

/-! ### Triangles of chromaticities -/

namespace Chromaticity

/-- Twice the signed area of the triangle of three chromaticities. -/
def doubleArea (p q r : Chromaticity K) : K :=
  (q.x - p.x) * (r.y - p.y) - (r.x - p.x) * (q.y - p.y)

/-- Three chromaticities on one line. -/
def Collinear (p q r : Chromaticity K) : Prop := doubleArea p q r = 0

/-- The shares of `X`, `Y` and `Z`. -/
def shares (c : Chromaticity K) : Vec4 K := .point c.x c.y (1 - c.x - c.y)

/-- At the luminance `y` the coordinates are the shares. -/
theorem toXyz_y {c : Chromaticity K} (h : c.y ≠ 0) : c.toXyz c.y = c.shares := by
  ext <;> simp [toXyz, shares, Vec4.point] <;> field_simp

/-- Coordinates at luminance one. -/
theorem toXyz_one (c : Chromaticity K) :
    c.toXyz 1 = .point (c.x / c.y) 1 ((1 - c.x - c.y) / c.y) := by
  simp [toXyz, div_eq_mul_inv]

end Chromaticity

open Chromaticity

namespace Colorspace

/-! ### Regular and nondegenerate colorspaces -/

/-- A colorspace whose primaries and white have luminances to solve for. The axes of XYZ need none.
-/
structure HasLuminances (cs : Colorspace K) : Prop where
  whitepoint : cs.whitepoint.y ≠ 0
  primaries : cs.isXyzPassthrough = true ∨ (cs.r.y ≠ 0 ∧ cs.g.y ≠ 0 ∧ cs.b.y ≠ 0)

/-- A colorspace whose primaries and white have luminances to solve for, and whose primaries span a
triangle. -/
structure Regular (cs : Colorspace K) : Prop where
  whitepoint : cs.whitepoint.y ≠ 0
  primaries : cs.isXyzPassthrough = true ∨ (cs.r.y ≠ 0 ∧ cs.g.y ≠ 0 ∧ cs.b.y ≠ 0)
  triangle : ¬ Collinear cs.r cs.g cs.b

/-- A colorspace whose primaries span a triangle with the white on none of its sides, prolonged.
The luminances are not zero, unless the primaries are the axes of XYZ. -/
structure Nondegenerate (cs : Colorspace K) : Prop where
  luminances : cs.isXyzPassthrough = true ∨
    (cs.whitepoint.y ≠ 0 ∧ cs.r.y ≠ 0 ∧ cs.g.y ≠ 0 ∧ cs.b.y ≠ 0)
  triangle : ¬ Collinear cs.r cs.g cs.b
  white_gb : ¬ Collinear cs.whitepoint cs.g cs.b
  white_rb : ¬ Collinear cs.r cs.whitepoint cs.b
  white_rg : ¬ Collinear cs.r cs.g cs.whitepoint

/-- The white is on a line with two of the primaries. -/
def WhiteOnSide (cs : Colorspace K) : Prop :=
  Collinear cs.whitepoint cs.g cs.b ∨ Collinear cs.r cs.whitepoint cs.b ∨
    Collinear cs.r cs.g cs.whitepoint

theorem Nondegenerate.not_whiteOnSide {cs : Colorspace K} (h : cs.Nondegenerate) :
    ¬ cs.WhiteOnSide := by
  rintro (hgb | hrb | hrg)
  exacts [h.white_gb hgb, h.white_rb hrb, h.white_rg hrg]

theorem Regular.hasLuminances {cs : Colorspace K} (h : cs.Regular) : cs.HasLuminances :=
  ⟨h.whitepoint, h.primaries⟩

theorem isXyzPassthrough_iff {cs : Colorspace K} :
    cs.isXyzPassthrough = true ↔ cs.r = ⟨1, 0⟩ ∧ cs.g = ⟨0, 1⟩ ∧ cs.b = ⟨0, 0⟩ := by
  obtain ⟨name, w, ⟨rx, ry⟩, ⟨gx, gy⟩, ⟨bx, bY⟩⟩ := cs
  simp only [isXyzPassthrough, Bool.and_eq_true, Chromaticity.mk.injEq]
  simp [BEq.beq, instBEqChromaticity.beq, and_assoc]

/-- A white without luminance lies on the line from the `X` axis to the `Z` axis, so the axes of XYZ
are no exception for the white. -/
theorem Nondegenerate.regular {cs : Colorspace K} (h : cs.Nondegenerate) : cs.Regular := by
  refine ⟨?_, h.luminances.imp_right And.right, h.triangle⟩
  rcases h.luminances with hpass | ⟨hw, -⟩
  · obtain ⟨hr, -, hb⟩ := isXyzPassthrough_iff.mp hpass
    intro hw
    refine h.white_rb ?_
    simp [Chromaticity.Collinear, doubleArea, hr, hb, hw]
  · exact hw

/-! ### The matrix of the primaries -/

/-- The columns are the shares of the primaries, whether or not these are the axes of XYZ. -/
theorem HasLuminances.primariesMatrix_eq {cs : Colorspace K} (h : cs.HasLuminances) :
    cs.primariesMatrix = .ofColumns cs.r.shares cs.g.shares cs.b.shares := by
  unfold primariesMatrix
  by_cases hpass : cs.isXyzPassthrough = true
  · obtain ⟨hr, hg, hb⟩ := isXyzPassthrough_iff.mp hpass
    rw [if_pos hpass, hr, hg, hb]
    simp [Mat4.ofColumns, Mat4.linear, shares, Vec4.point, Mat4.identity, Mat4.scaling]
  · obtain ⟨hr, hg, hb⟩ := h.primaries.resolve_left hpass
    rw [if_neg hpass, toXyz_y hr, toXyz_y hg, toXyz_y hb]

theorem Regular.primariesMatrix_eq {cs : Colorspace K} (h : cs.Regular) :
    cs.primariesMatrix = .ofColumns cs.r.shares cs.g.shares cs.b.shares :=
  h.hasLuminances.primariesMatrix_eq

/-- A matrix of shares is singular exactly for chromaticities on one line. -/
theorem determinant_ofColumns_shares (p q r : Chromaticity K) :
    (Mat4.ofColumns p.shares q.shares r.shares).determinant = doubleArea p q r := by
  simp only [Mat4.determinant, Vec4.dotByLanes, Mat4.cofactors, Mat4.transpose, Mat4.ofColumns,
    Mat4.linear, shares, Vec4.point, doubleArea]
  ring

/-- **The determinant of the primaries is the double area of the gamut.** -/
theorem HasLuminances.determinant_primariesMatrix {cs : Colorspace K} (h : cs.HasLuminances) :
    cs.primariesMatrix.determinant = doubleArea cs.r cs.g cs.b := by
  rw [h.primariesMatrix_eq, determinant_ofColumns_shares]

/-- Whatever the primaries are, their matrix is linear. -/
theorem isLinear_primariesMatrix (cs : Colorspace K) : cs.primariesMatrix.IsLinear := by
  unfold primariesMatrix
  split
  · exact Mat4.isLinear_scaling ..
  · exact Mat4.isLinear_linear ..

/-! ### Amounts of the primaries in the white -/

/-- Amounts of the primaries that make the white. -/
def IsBalance (cs : Colorspace K) (amounts : Vec4 K) : Prop :=
  cs.primariesMatrix.transform amounts = cs.whiteXyz

section Cramer

variable {cs : Colorspace K} {amounts : Vec4 K}

/-- The three equations that the amounts solve, for the luminance of the white; the last one is the
sum of all coordinates. -/
theorem IsBalance.equations (hcs : cs.Regular) (h : cs.IsBalance amounts) :
    (cs.r.x * amounts.x + cs.g.x * amounts.y + cs.b.x * amounts.z) * cs.whitepoint.y =
        cs.whitepoint.x ∧
      (cs.r.y * amounts.x + cs.g.y * amounts.y + cs.b.y * amounts.z) * cs.whitepoint.y =
        cs.whitepoint.y ∧
      (amounts.x + amounts.y + amounts.z) * cs.whitepoint.y = 1 := by
  have hw := hcs.whitepoint
  unfold IsBalance at h
  rw [hcs.primariesMatrix_eq, whiteXyz, toXyz_one] at h
  simp only [Mat4.transform, Mat4.ofColumns, Mat4.linear, Vec4.dot, shares, Vec4.point,
    zero_mul, add_zero, Vec4.mk.injEq] at h
  obtain ⟨hx, hy, hz, -⟩ := h
  rw [eq_div_iff hw] at hx hz
  refine ⟨hx, by rw [hy, one_mul], ?_⟩
  linear_combination hx + cs.whitepoint.y * hy + hz

/-- The amount of red in the white. -/
theorem IsBalance.red (hcs : cs.Regular) (h : cs.IsBalance amounts) :
    amounts.x * doubleArea cs.r cs.g cs.b =
      doubleArea cs.whitepoint cs.g cs.b / cs.whitepoint.y := by
  obtain ⟨hx, hy, hs⟩ := h.equations hcs
  rw [eq_div_iff hcs.whitepoint]
  unfold doubleArea
  linear_combination (cs.g.y - cs.b.y) * hx + (cs.b.x - cs.g.x) * hy +
    (cs.g.x * cs.b.y - cs.b.x * cs.g.y) * hs

/-- The amount of green in the white. -/
theorem IsBalance.green (hcs : cs.Regular) (h : cs.IsBalance amounts) :
    amounts.y * doubleArea cs.r cs.g cs.b =
      doubleArea cs.r cs.whitepoint cs.b / cs.whitepoint.y := by
  obtain ⟨hx, hy, hs⟩ := h.equations hcs
  rw [eq_div_iff hcs.whitepoint]
  unfold doubleArea
  linear_combination (cs.b.y - cs.r.y) * hx + (cs.r.x - cs.b.x) * hy +
    (cs.b.x * cs.r.y - cs.r.x * cs.b.y) * hs

/-- The amount of blue in the white. -/
theorem IsBalance.blue (hcs : cs.Regular) (h : cs.IsBalance amounts) :
    amounts.z * doubleArea cs.r cs.g cs.b =
      doubleArea cs.r cs.g cs.whitepoint / cs.whitepoint.y := by
  obtain ⟨hx, hy, hs⟩ := h.equations hcs
  rw [eq_div_iff hcs.whitepoint]
  unfold doubleArea
  linear_combination (cs.r.y - cs.g.y) * hx + (cs.g.x - cs.r.x) * hy +
    (cs.r.x * cs.g.y - cs.g.x * cs.r.y) * hs

end Cramer

/-! ### The matrix to XYZ -/

/-- The image of white under a matrix whose columns are multiplied by amounts is the image of the
amounts. -/
theorem transform_mul_diagonal_white (m : Mat4 K) {v : Vec4 K} (hv : v.w = 1) :
    (m * Mat4.diagonal v).transform (.point 1 1 1) = m.transform v := by
  rw [Mat4.transform_mul]
  congr 1
  ext <;> simp [Mat4.diagonal, Mat4.scaling, Mat4.transform, Vec4.dot, Vec4.point, hv]

/-- The matrix of the primaries has an inverse. -/
theorem Regular.exists_inverse {cs : Colorspace K} (h : cs.Regular) :
    ∃ inverse, cs.primariesMatrix.requireInverse cs.name = .ok inverse ∧
      inverse * cs.primariesMatrix = 1 := by
  refine Mat4.exists_requireInverse_eq_ok cs.name ?_
  rw [h.hasLuminances.determinant_primariesMatrix]
  exact h.triangle

/-- **The matrix to XYZ**: the primaries multiplied by amounts that make the white. -/
theorem Regular.exists_toXyzMatrix_eq_ok {cs : Colorspace K} (h : cs.Regular) :
    ∃ amounts, cs.toXyzMatrix = .ok (cs.primariesMatrix * .diagonal amounts) ∧
      cs.IsBalance amounts ∧ amounts.w = 1 := by
  obtain ⟨inverse, hok, hinv⟩ := h.exists_inverse
  refine ⟨inverse.transform cs.whiteXyz, ?_, ?_, ?_⟩
  · simp [toXyzMatrix, hok, bind, Except.bind, pure, Except.pure, Mat4.andThen_eq_mul]
  · rw [IsBalance, ← Mat4.transform_mul, Mat4.mul_eq_one_of_mul_eq_one hinv, Mat4.transform_one]
  · have hlin := cs.isLinear_primariesMatrix.of_mul_eq_one hinv
    rw [Mat4.isAffine_iff.mp hlin.toIsAffine]
    rfl

/-- The matrix to XYZ is linear and takes equal amounts to the white. -/
theorem Regular.exists_toXyzMatrix {cs : Colorspace K} (h : cs.Regular) :
    ∃ m, cs.toXyzMatrix = .ok m ∧ m.IsLinear ∧ m.transform (.point 1 1 1) = cs.whiteXyz := by
  obtain ⟨amounts, hok, hbalance, hone⟩ := h.exists_toXyzMatrix_eq_ok
  refine ⟨_, hok, cs.isLinear_primariesMatrix.mul (Mat4.isLinear_scaling ..), ?_⟩
  rw [transform_mul_diagonal_white _ hone]
  exact hbalance

/-- The determinant of the matrix to XYZ, without divisions: the double areas of the triangles that
the white makes with the sides of the gamut. -/
theorem Regular.determinant_toXyzMatrix {cs : Colorspace K} (h : cs.Regular) {m : Mat4 K}
    (hm : cs.toXyzMatrix = .ok m) :
    m.determinant * (doubleArea cs.r cs.g cs.b) ^ 2 * cs.whitepoint.y ^ 3 =
      doubleArea cs.whitepoint cs.g cs.b * doubleArea cs.r cs.whitepoint cs.b *
        doubleArea cs.r cs.g cs.whitepoint := by
  have hw := h.whitepoint
  obtain ⟨amounts, hok, hbalance, hone⟩ := h.exists_toXyzMatrix_eq_ok
  obtain rfl : cs.primariesMatrix * .diagonal amounts = m := Except.ok.inj (hok.symm.trans hm)
  have hred := hbalance.red h
  have hgreen := hbalance.green h
  have hblue := hbalance.blue h
  rw [eq_div_iff hw] at hred hgreen hblue
  have hdiag : (Mat4.diagonal amounts).determinant = amounts.x * amounts.y * amounts.z := by
    simp [Mat4.diagonal, Mat4.scaling, Mat4.determinant, Vec4.dotByLanes, Mat4.cofactors,
      Mat4.transpose, mul_assoc]
  rw [Mat4.determinant_mul, hdiag, h.hasLuminances.determinant_primariesMatrix, ← hred, ← hgreen,
    ← hblue]
  ring

/-- **The matrix to XYZ is singular exactly if the white is on a side of the gamut**, prolonged. -/
theorem Regular.determinant_toXyzMatrix_eq_zero_iff {cs : Colorspace K} (h : cs.Regular)
    {m : Mat4 K} (hm : cs.toXyzMatrix = .ok m) : m.determinant = 0 ↔ cs.WhiteOnSide := by
  have harea := h.determinant_toXyzMatrix hm
  have htriangle : doubleArea cs.r cs.g cs.b ^ 2 ≠ 0 := pow_ne_zero 2 h.triangle
  have hwhite : cs.whitepoint.y ^ 3 ≠ 0 := pow_ne_zero 3 h.whitepoint
  rw [← mul_eq_zero_iff_right htriangle, ← mul_eq_zero_iff_right hwhite, harea, WhiteOnSide]
  simp only [mul_eq_zero, Chromaticity.Collinear, or_assoc]

/-! ### The matrix from XYZ -/

/-- **The matrix from XYZ**: for a nondegenerate colorspace the matrix to XYZ has an inverse. -/
theorem Nondegenerate.exists_matrices {cs : Colorspace K} (h : cs.Nondegenerate) :
    ∃ m n, cs.toXyzMatrix = .ok m ∧ cs.ofXyzMatrix = .ok n ∧ m.IsLinear ∧ n.IsLinear ∧
      n * m = 1 ∧ m.transform (.point 1 1 1) = cs.whiteXyz := by
  obtain ⟨m, hm, hlin, hwhite⟩ := h.regular.exists_toXyzMatrix
  have hdet : m.determinant ≠ 0 :=
    mt (h.regular.determinant_toXyzMatrix_eq_zero_iff hm).mp h.not_whiteOnSide
  obtain ⟨n, hn, hinv⟩ := Mat4.exists_requireInverse_eq_ok cs.name hdet
  refine ⟨m, n, hm, ?_, hlin, hlin.of_mul_eq_one hinv, hinv, hwhite⟩
  simp only [ofXyzMatrix, hm, bind, Except.bind, hn]

end Colorspace
end Colorimetry
