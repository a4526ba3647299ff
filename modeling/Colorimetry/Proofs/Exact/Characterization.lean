import Mathlib
import Colorimetry.Proofs.Exact.Valid

/-!
# What the matrix to XYZ is

Two properties single out the matrix from RGB to XYZ among all matrices of three components
(`Mat4.Reproduces`): light of one primary has the chromaticity of that primary, whatever its amount,
and equal amounts of all three make the white. `Colorspace.toXyzMatrix_unique` says that the matrix
that is computed has both, and that no other one has.

A matrix with the first property multiplies the columns of shares by three amounts
(`Mat4.Reproduces.eq_mul_diagonal`), and the second one says what these amounts make together. The
columns span the whole space, as the primaries are not on one line, so the amounts are determined.

The axes of XYZ are no exception. Their luminances cannot be divided by, so that the columns are set
apart in `Colorspace.primariesMatrix`, but they are the columns of shares again.
-/

namespace Colorimetry

variable {K : Type} [Field K] [DecidableEq K]

open Chromaticity

/-! ### Columns with a chromaticity -/

/-- Light of one chromaticity: some amount of the shares of `X`, `Y` and `Z`. -/
def Rgb.HasChromaticity (v : Rgb K) (c : Chromaticity K) : Prop :=
  ∃ amount, v = ⟨amount * c.x, amount * c.y, amount * (1 - c.x - c.y)⟩

/-- **The primaries and the white of a colorspace, as properties of a matrix**: its columns have the
chromaticities of the primaries, and it takes equal amounts to the white. -/
structure Mat4.Reproduces (m : Mat4 K) (cs : Colorspace K) : Prop where
  red : m.transpose.row0.xyz.HasChromaticity cs.r
  green : m.transpose.row1.xyz.HasChromaticity cs.g
  blue : m.transpose.row2.xyz.HasChromaticity cs.b
  white : m.transform (.point 1 1 1) = cs.whiteXyz

/-- The columns of shares, each multiplied by an amount. -/
theorem ofColumns_shares_mul_diagonal (p q r : Chromaticity K) (v : Vec4 K) :
    .ofColumns p.shares q.shares r.shares * Mat4.diagonal v =
      .linear (v.x * p.x) (v.y * q.x) (v.z * r.x)
        (v.x * p.y) (v.y * q.y) (v.z * r.y)
        (v.x * (1 - p.x - p.y)) (v.y * (1 - q.x - q.y)) (v.z * (1 - r.x - r.y)) := by
  rw [Mat4.mul_def]
  ext <;> simp [Mat4.rowTimes, Mat4.transpose, Vec4.dotFromZero, Mat4.ofColumns, Mat4.linear,
    Mat4.diagonal, Mat4.scaling, shares, Vec4.point, mul_comm]

namespace Mat4.Reproduces

variable {m : Mat4 K} {cs : Colorspace K}

/-- A matrix that keeps the chromaticities of the primaries multiplies their shares by amounts. -/
theorem eq_mul_diagonal (h : m.Reproduces cs) (hm : m.IsLinear) :
    ∃ v : Vec4 K, v.w = 1 ∧
      m = .ofColumns cs.r.shares cs.g.shares cs.b.shares * .diagonal v := by
  obtain ⟨⟨a, ha⟩, ⟨b, hb⟩, ⟨c, hc⟩, -⟩ := h
  refine ⟨.point a b c, rfl, ?_⟩
  have hrow := hm.row3
  have hcolumn := hm.column3
  simp only [transpose, Vec4.xyz, Rgb.mk.injEq, Vec4.mk.injEq] at ha hb hc hcolumn
  rw [ofColumns_shares_mul_diagonal]
  ext <;> simp only [linear, Vec4.point, hrow, ha, hb, hc, hcolumn]

end Mat4.Reproduces

namespace Colorspace

variable {cs : Colorspace K}

/-- Amounts that make the white make a matrix that reproduces the colorspace. -/
theorem IsBalance.reproduces (hcs : cs.Regular) {amounts : Vec4 K} (h : cs.IsBalance amounts)
    (hone : amounts.w = 1) : (cs.primariesMatrix * .diagonal amounts).Reproduces cs := by
  have hwhite := transform_mul_diagonal_white cs.primariesMatrix hone
  rw [hcs.primariesMatrix_eq, ofColumns_shares_mul_diagonal] at hwhite ⊢
  refine ⟨⟨_, rfl⟩, ⟨_, rfl⟩, ⟨_, rfl⟩, hwhite.trans ?_⟩
  rw [← hcs.primariesMatrix_eq]
  exact h

/-- **There is one balance of the primaries only.** -/
theorem IsBalance.eq_transform {amounts : Vec4 K} (h : cs.IsBalance amounts) {inverse : Mat4 K}
    (hinverse : inverse * cs.primariesMatrix = 1) :
    amounts = inverse.transform cs.whiteXyz := by
  rw [← h, ← Mat4.transform_mul, hinverse, Mat4.transform_one]

/-- The columns of a matrix that reproduces a colorspace are the primaries in balance. -/
theorem eq_of_reproduces (hcs : cs.Regular) {inverse m : Mat4 K}
    (hinverse : inverse * cs.primariesMatrix = 1) (hm : m.IsLinear) (h : m.Reproduces cs) :
    m = cs.primariesMatrix * .diagonal (inverse.transform cs.whiteXyz) := by
  obtain ⟨v, hone, hv⟩ := h.eq_mul_diagonal hm
  rw [← hcs.primariesMatrix_eq] at hv
  have hbalance : cs.IsBalance v := by
    rw [IsBalance, ← transform_mul_diagonal_white _ hone, ← hv]
    exact h.white
  rw [hv, hbalance.eq_transform hinverse]

/-- **The matrix to XYZ is the only one with the right primaries and the right white.** For a
colorspace whose primaries span a triangle there is one, it is linear, its columns have the
chromaticities of the primaries, and it takes equal amounts of them to the white, so that its
luminances sum to one. No other matrix of three components does that. Its formula is the same for
the axes of XYZ as for all other primaries. -/
theorem toXyzMatrix_unique (hcs : cs.Regular) :
    ∃ m, cs.toXyzMatrix = .ok m ∧
      (m.row3 = ⟨0, 0, 0, 1⟩ ∧ m.transpose.row3 = ⟨0, 0, 0, 1⟩) ∧
      m.Reproduces cs ∧
      m.transform (.point 1 1 1) = .point (cs.whitepoint.x / cs.whitepoint.y) 1
        ((1 - cs.whitepoint.x - cs.whitepoint.y) / cs.whitepoint.y) ∧
      m.row1.x + m.row1.y + m.row1.z = 1 ∧
      (∀ a b c d e f g h i : K, (Mat4.linear a b c d e f g h i).Reproduces cs →
        .linear a b c d e f g h i = m) ∧
      ∃ inverse, (Mat4.ofColumns cs.r.shares cs.g.shares cs.b.shares).requireInverse cs.name =
          .ok inverse ∧
        m = .ofColumns cs.r.shares cs.g.shares cs.b.shares *
          .diagonal (inverse.transform cs.whiteXyz) := by
  obtain ⟨amounts, hok, hbalance, hone⟩ := hcs.exists_toXyzMatrix_eq_ok
  obtain ⟨inverse, hinverse, hinv⟩ := hcs.exists_inverse
  have hlinear : (cs.primariesMatrix * .diagonal amounts).IsLinear :=
    cs.isLinear_primariesMatrix.mul (Mat4.isLinear_scaling ..)
  have hreproduces := hbalance.reproduces hcs hone
  have hwhite := hreproduces.white
  rw [whiteXyz, toXyz_one] at hwhite
  refine ⟨_, hok, ⟨hlinear.row3, hlinear.column3⟩, hreproduces, hwhite, ?_, ?_, inverse, ?_, ?_⟩
  · -- the luminance of the white is one
    have hluminance := congrArg Vec4.y hwhite
    have hcolumn := congrArg Vec4.y hlinear.column3
    simp only [Mat4.transpose] at hcolumn
    simpa [Mat4.transform, Vec4.dot, Vec4.point, hcolumn] using hluminance
  · intro a b c d e f g h i hother
    rw [eq_of_reproduces hcs hinv (Mat4.isLinear_linear ..) hother, hbalance.eq_transform hinv]
  · rw [← hcs.primariesMatrix_eq]
    exact hinverse
  · rw [← hcs.primariesMatrix_eq, hbalance.eq_transform hinv]

/-- The axes of XYZ under equal energy, whose luminances cannot be divided by. -/
theorem toXyzMatrix_unique_cieXyz :
    (.cieXyz : Colorspace ℚ).Regular ∧
    ∃ m, (.cieXyz : Colorspace ℚ).toXyzMatrix = .ok m ∧
      (m.row3 = ⟨0, 0, 0, 1⟩ ∧ m.transpose.row3 = ⟨0, 0, 0, 1⟩) ∧
      m.Reproduces .cieXyz ∧ m.transform (.point 1 1 1) = .point 1 1 1 ∧
      ∀ a b c d e f g h i : ℚ, (Mat4.linear a b c d e f g h i).Reproduces .cieXyz →
        .linear a b c d e f g h i = m := by
  have hregular : (.cieXyz : Colorspace ℚ).Regular :=
    (nondegenerate_of_mem_table (by simp [table])).regular
  obtain ⟨m, hok, hshape, hreproduces, hwhite, -, hunique, -⟩ := toXyzMatrix_unique hregular
  refine ⟨hregular, m, hok, hshape, hreproduces, hwhite.trans ?_, hunique⟩
  norm_num [cieXyz, illuminantE]

end Colorspace
end Colorimetry
