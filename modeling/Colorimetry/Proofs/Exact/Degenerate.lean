import Mathlib
import Colorimetry.Proofs.Exact.Valid

/-!
# Degenerate gamuts

A conversion between colorspaces fails for one reason only: a matrix that had to be inverted is
singular. Three inversions stand in its way. That of the cone responses never fails, since their
matrices are constant. That of the primaries fails if the primaries are on one line
(`Colorspace.HasLuminances.exists_toXyzMatrix_eq_error_iff`). That of the matrix to XYZ stands on
top of it, and has a second reason to fail: where the white is on a line with two primaries, the
third one has no part in it, and a column of the matrix is zero
(`Colorspace.Regular.determinant_toXyzMatrix_eq_zero_iff`).

Neither the gains of the cones nor the scale are inverted, so neither of them matters: a conversion
scaled to nothing exists as well.
-/

namespace Colorimetry

variable {K : Type} [Field K] [DecidableEq K]

open Chromaticity

/-! ### Lines -/

/-- **Three chromaticities are on one line** if they satisfy one linear equation. -/
theorem Chromaticity.collinear_iff_exists_line {p q r : Chromaticity K} :
    Collinear p q r ↔ ∃ a b c, (a ≠ 0 ∨ b ≠ 0) ∧
      a * p.x + b * p.y = c ∧ a * q.x + b * q.y = c ∧ a * r.x + b * r.y = c := by
  constructor
  · intro h
    rw [Chromaticity.Collinear, doubleArea] at h
    by_cases hq : q.x = p.x ∧ q.y = p.y
    · by_cases hr : r.x = p.x ∧ r.y = p.y
      · -- all three are the same
        exact ⟨1, 0, p.x, .inl one_ne_zero, by ring, by rw [hq.1]; ring, by rw [hr.1]; ring⟩
      · refine ⟨r.y - p.y, p.x - r.x, _, ?_, rfl, by rw [hq.1, hq.2], by ring⟩
        by_contra! hzero
        exact hr ⟨(sub_eq_zero.mp hzero.2).symm, sub_eq_zero.mp hzero.1⟩
    · refine ⟨q.y - p.y, p.x - q.x, _, ?_, rfl, by ring, by linear_combination -h⟩
      by_contra! hzero
      exact hq ⟨(sub_eq_zero.mp hzero.2).symm, sub_eq_zero.mp hzero.1⟩
  · rintro ⟨a, b, c, hne, hp, hq, hr⟩
    rw [Chromaticity.Collinear, doubleArea]
    rcases hne with ha | hb
    · refine (mul_eq_zero_iff_left ha).mp ?_
      linear_combination (r.y - p.y) * (hq - hp) - (q.y - p.y) * (hr - hp)
    · refine (mul_eq_zero_iff_left hb).mp ?_
      linear_combination (q.x - p.x) * (hr - hp) - (r.x - p.x) * (hq - hp)

/-! ### Failures -/

/-- A computation of two steps fails in the first one, or in the second one. -/
theorem bind_eq_error_iff {ε α β : Type} {x : Except ε α} {f : α → Except ε β} {e : ε} :
    x >>= f = .error e ↔ x = .error e ∨ ∃ a, x = .ok a ∧ f a = .error e := by
  cases x <;> simp [bind, Except.bind]

namespace Colorspace

variable {cs : Colorspace K}

/-- **There is no matrix to XYZ exactly for primaries on one line.** -/
theorem HasLuminances.exists_toXyzMatrix_eq_error_iff (h : cs.HasLuminances) :
    (∃ e, cs.toXyzMatrix = .error e) ↔ Collinear cs.r cs.g cs.b := by
  rw [Chromaticity.Collinear, ← h.determinant_primariesMatrix,
    ← Mat4.exists_requireInverse_eq_error_iff cs.name]
  refine exists_congr fun e => bind_eq_error_iff.trans (or_iff_left ?_)
  rintro ⟨inverse, -, hok⟩
  cases hok

/-- **There is no matrix from XYZ** if there is none to XYZ, and if the white is on a side of the
gamut. -/
theorem HasLuminances.exists_ofXyzMatrix_eq_error_iff (h : cs.HasLuminances) :
    (∃ e, cs.ofXyzMatrix = .error e) ↔ Collinear cs.r cs.g cs.b ∨ cs.WhiteOnSide := by
  have hbind (e : Singular K) : cs.ofXyzMatrix = .error e ↔ cs.toXyzMatrix = .error e ∨
      ∃ m, cs.toXyzMatrix = .ok m ∧ m.requireInverse cs.name = .error e := bind_eq_error_iff
  simp only [hbind, exists_or, h.exists_toXyzMatrix_eq_error_iff]
  by_cases hline : Collinear cs.r cs.g cs.b
  · simp only [hline, true_or]
  · have hregular : cs.Regular := ⟨h.whitepoint, h.primaries, hline⟩
    obtain ⟨m, hm, -⟩ := hregular.exists_toXyzMatrix
    rw [← hregular.determinant_toXyzMatrix_eq_zero_iff hm,
      ← Mat4.exists_requireInverse_eq_error_iff cs.name]
    simp [hline, hm]

end Colorspace

/-! ### Conversions -/

section Conversion

variable [CharZero K] {dst src : Colorspace K} {cone : ConeResponse}

/-- **A conversion fails as its source does**, or else as its destination does. -/
theorem cscMatrixWith_eq_error_iff {s : K} {e : Singular K} :
    cscMatrixWith dst src s cone = .error e ↔ src.toXyzMatrix = .error e ∨
      (∃ m, src.toXyzMatrix = .ok m) ∧ dst.ofXyzMatrix = .error e := by
  obtain ⟨back, hback, -⟩ := cone.exists_toXyz (K := K)
  cases hsrc : src.toXyzMatrix with
  | error e' => simp [cscMatrixWith, hsrc, bind, Except.bind]
  | ok m =>
    cases hdst : dst.ofXyzMatrix with
    | error e' => simp [cscMatrixWith, hsrc, hback, hdst, bind, Except.bind]
    | ok n => simp [cscMatrixWith, hsrc, hback, hdst, bind, Except.bind, pure, Except.pure]

/-- **Conversions fail exactly for degenerate gamuts.** There is no matrix to XYZ if and only if the
primaries are on one line, and none from XYZ if and only if they are, or the white is on a line with
two of them. A conversion fails if and only if the matrix of its source or that of its destination
does, whatever the responses of the cones to the whites and whatever the scale. -/
theorem cscMatrixWith_fails_iff (hsrc : src.HasLuminances) (hdst : dst.HasLuminances) :
    ((∃ e, src.toXyzMatrix = .error e) ↔ Collinear src.r src.g src.b) ∧
    ((∃ e, dst.ofXyzMatrix = .error e) ↔ Collinear dst.r dst.g dst.b ∨ dst.WhiteOnSide) ∧
    ∀ (s : K) (cone : ConeResponse), (∃ e, cscMatrixWith dst src s cone = .error e) ↔
      (∃ e, src.toXyzMatrix = .error e) ∨ ∃ e, dst.ofXyzMatrix = .error e := by
  refine ⟨hsrc.exists_toXyzMatrix_eq_error_iff, hdst.exists_ofXyzMatrix_eq_error_iff, ?_⟩
  intro s cone
  simp only [cscMatrixWith_eq_error_iff, exists_or, exists_and_left]
  cases src.toXyzMatrix <;> simp

/-- The primaries of BT.709 under a white on the line of red and green, in which blue has no part. -/
def Colorspace.yellowWhite : Colorspace ℚ := { bt709 with whitepoint := ⟨0.47, 0.465⟩ }

/-- Samples can be converted from a colorspace with its white on a side, but not to it, not even
scaled to nothing. -/
theorem cscMatrixWith_fails_iff_yellowWhite :
    (.bt709 : Colorspace ℚ).HasLuminances ∧ Colorspace.yellowWhite.HasLuminances ∧
    (¬ ∃ e, Colorspace.yellowWhite.toXyzMatrix = .error e) ∧
    (∃ e, Colorspace.yellowWhite.ofXyzMatrix = .error e) ∧
    (∃ e, cscMatrixWith .yellowWhite .bt709 0 .vonKries = .error e) ∧
    ¬ ∃ e, cscMatrixWith .bt709 .yellowWhite 0 .vonKries = .error e := by
  have hbt709 : (.bt709 : Colorspace ℚ).Nondegenerate :=
    Colorspace.nondegenerate_of_mem_table (by simp [Colorspace.table])
  have hluminances := hbt709.regular.hasLuminances
  have hyellow : Colorspace.yellowWhite.HasLuminances :=
    ⟨by norm_num [Colorspace.yellowWhite], hluminances.primaries⟩
  have hside : Colorspace.yellowWhite.WhiteOnSide := by
    refine .inr (.inr (Chromaticity.collinear_iff_exists_line.mpr ⟨0.27, 0.34, 0.285, ?_⟩))
    norm_num [Colorspace.yellowWhite, Colorspace.bt709]
  obtain ⟨-, hto, hin⟩ := cscMatrixWith_fails_iff hluminances hyellow
  obtain ⟨hfrom, hback, hout⟩ := cscMatrixWith_fails_iff hyellow hluminances
  have hnone : ¬ ∃ e, Colorspace.yellowWhite.toXyzMatrix = .error e :=
    mt hfrom.mp hbt709.triangle
  have hone : ∃ e, Colorspace.yellowWhite.ofXyzMatrix = .error e := hto.mpr (.inr hside)
  have hdst : ¬ ∃ e, (.bt709 : Colorspace ℚ).ofXyzMatrix = .error e := by
    rw [hback]
    exact not_or_intro hbt709.triangle hbt709.not_whiteOnSide
  exact ⟨hluminances, hyellow, hnone, hone, (hin 0 .vonKries).mpr (.inr hone),
    mt (hout 0 .vonKries).mp (not_or_intro hnone hdst)⟩

end Conversion

end Colorimetry
