import Mathlib
import Colorimetry.Proofs.Exact.Valid

/-!
# Conversions compose

A conversion between colorspaces is a chain of seven matrices. Read from the right it is

    RGB of the source → XYZ → LMS → adapted LMS → XYZ → RGB of the destination → scale

Between valid colorspaces (`Colorspace.Valid`) every conversion exists, and conversions compose like
changes of basis: in the middle of two of them the way from XYZ to RGB meets the way back, the way
from cone responses to XYZ meets its own, and the two gains multiply (`links_mul_links`). The scale
of the first conversion has to pass through the second one, which it may, since every link is linear
(`scaling_mul_mul_scaling_mul`).
-/

namespace Colorimetry

variable {K : Type} [Field K] [DecidableEq K]

/-! ### The links of a conversion -/

/-- The links of a conversion without its scale: to XYZ, to cone responses, the gain, back to XYZ,
to RGB. -/
def links (ofXyz back gain lms toXyz : Mat4 K) : Mat4 K :=
  ofXyz * (back * (gain * (lms * toXyz)))

/-- Between two conversions the inner links cancel, and the gains multiply. -/
theorem links_mul_links {n back gain lms m n' gain' m' : Mat4 K} (hrgb : m * n = 1)
    (hlms : lms * back = 1) :
    links n' back gain' lms m * links n back gain lms m' = links n' back (gain' * gain) lms m' := by
  unfold links
  calc _ = n' * (back * (gain' * (lms * ((m * n) * (back * (gain * (lms * m'))))))) := by
        simp only [mul_assoc]
    _ = n' * (back * (gain' * ((lms * back) * (gain * (lms * m'))))) := by
        rw [hrgb, one_mul]
        simp only [mul_assoc]
    _ = n' * (back * ((gain' * gain) * (lms * m'))) := by
        rw [hlms, one_mul, mul_assoc]

/-- A chain of scaled conversions is scaled by the product. -/
theorem scaling_mul_mul_scaling_mul {m : Mat4 K} (hm : m.IsLinear) (n : Mat4 K) (s t : K) :
    Mat4.scaling t t t * m * (Mat4.scaling s s s * n) =
      Mat4.scaling (s * t) (s * t) (s * t) * (m * n) := by
  calc Mat4.scaling t t t * m * (Mat4.scaling s s s * n)
      = Mat4.scaling t t t * (m * Mat4.scaling s s s) * n := by simp only [mul_assoc]
    _ = Mat4.scaling t t t * Mat4.scaling s s s * (m * n) := by
        rw [hm.scaling_comm]
        simp only [mul_assoc]
    _ = _ := by rw [Mat4.scaling_mul_scaling, mul_comm t s]

/-- A conversion is its links, scaled. -/
theorem cscMatrixWith_eq_ok {dst src : Colorspace K} {cone : ConeResponse} {m n back : Mat4 K}
    (hsrc : src.toXyzMatrix = .ok m) (hdst : dst.ofXyzMatrix = .ok n)
    (hcone : cone.toXyz = .ok back) (s : K) :
    cscMatrixWith dst src s cone =
      .ok (.scaling s s s * links n back (catMatrix dst src cone) cone.toLms m) := by
  simp [cscMatrixWith, links, hsrc, hdst, hcone, bind, Except.bind, pure, Except.pure,
    Mat4.andThen_eq_mul, Mat4.andScale]

variable [CharZero K] {cone : ConeResponse} {a b c : Colorspace K}

/-- A colorspace converts to itself by the scale. -/
theorem cscMatrixWith_self (ha : a.Valid cone) (s : K) :
    cscMatrixWith a a s cone = .ok (.scaling s s s) := by
  obtain ⟨m, n, hm, hn, -, -, hinv, -⟩ := ha.exists_matrices
  obtain ⟨back, hback, -, hlms⟩ := cone.exists_toXyz (K := K)
  have hgain : catMatrix a a cone = 1 := adaptationDiagonal_self ha.responds
  rw [cscMatrixWith_eq_ok hm hn hback, hgain, links, one_mul, ← mul_assoc back, hlms, one_mul,
    hinv, mul_one]

/-- Conversions compose, and their scales multiply. -/
theorem cscMatrixWith_comp (ha : a.Valid cone) (hb : b.Valid cone) (hc : c.Valid cone) (s t : K) :
    ∃ m n, cscMatrixWith c b t cone = .ok m ∧ cscMatrixWith b a s cone = .ok n ∧
      cscMatrixWith c a (s * t) cone = .ok (m * n) := by
  obtain ⟨ma, na, hma, hna, -, -, -, -⟩ := ha.exists_matrices
  obtain ⟨mb, nb, hmb, hnb, hmblin, -, hbinv, -⟩ := hb.exists_matrices
  obtain ⟨mc, nc, hmc, hnc, -, hnclin, -, -⟩ := hc.exists_matrices
  obtain ⟨back, hback, hbacklin, hlms⟩ := cone.exists_toXyz (K := K)
  refine ⟨_, _, cscMatrixWith_eq_ok hmb hnc hback t, cscMatrixWith_eq_ok hma hnb hback s, ?_⟩
  have hlin : (links nc back (catMatrix c b cone) cone.toLms mb).IsLinear :=
    hnclin.mul (hbacklin.mul ((isLinear_catMatrix ..).mul (cone.isLinear_toLms.mul hmblin)))
  have hgain : catMatrix c b cone * catMatrix b a cone = catMatrix c a cone :=
    adaptationDiagonal_mul hb.responds
  rw [cscMatrixWith_eq_ok hma hnc hback, scaling_mul_mul_scaling_mul hlin,
    links_mul_links (Mat4.mul_eq_one_of_mul_eq_one hbinv) (Mat4.mul_eq_one_of_mul_eq_one hlms),
    hgain]

/-- **Conversions compose like changes of basis.** Between valid colorspaces all of them exist; the
one from a colorspace to itself is the scale, the one by way of a third colorspace is the product,
and the one back, with the reciprocal scale, is the inverse. -/
theorem cscMatrixWith_groupoid (ha : a.Valid cone) (hb : b.Valid cone) (hc : c.Valid cone)
    (s t : K) :
    cscMatrixWith a a s cone = .ok (.scaling s s s) ∧
    cscMatrixWith a a 1 cone = .ok .identity ∧
    (∃ m n, cscMatrixWith c b t cone = .ok m ∧ cscMatrixWith b a s cone = .ok n ∧
      cscMatrixWith c a (s * t) cone = .ok (m * n)) ∧
    (s ≠ 0 → ∃ m n, cscMatrixWith a b (1 / s) cone = .ok m ∧ cscMatrixWith b a s cone = .ok n ∧
      m * n = .identity ∧ n * m = .identity) := by
  refine ⟨cscMatrixWith_self ha s, cscMatrixWith_self ha 1, cscMatrixWith_comp ha hb hc s t, ?_⟩
  intro hs
  obtain ⟨m, n, hm, hn, hmn⟩ := cscMatrixWith_comp ha hb ha s (1 / s)
  rw [mul_one_div_cancel hs, cscMatrixWith_self ha, Mat4.scaling_one] at hmn
  have hinv : m * n = 1 := (Except.ok.inj hmn).symm
  exact ⟨m, n, hm, hn, hinv, Mat4.mul_eq_one_of_mul_eq_one hinv⟩

/-- From BT.709 by way of BT.2020 to the theatrical P3, the light doubled and then trebled. -/
theorem cscMatrixWith_groupoid_bt709 :
    cscMatrixWith (.bt709 : Colorspace ℚ) .bt709 2 .vonKries = .ok (.scaling 2 2 2) ∧
    cscMatrixWith (.bt709 : Colorspace ℚ) .bt709 1 .vonKries = .ok .identity ∧
    (∃ m n, cscMatrixWith (.dciP3 : Colorspace ℚ) .bt2020 3 .vonKries = .ok m ∧
      cscMatrixWith (.bt2020 : Colorspace ℚ) .bt709 2 .vonKries = .ok n ∧
      cscMatrixWith (.dciP3 : Colorspace ℚ) .bt709 (2 * 3) .vonKries = .ok (m * n)) ∧
    ((2 : ℚ) ≠ 0 → ∃ m n, cscMatrixWith (.bt709 : Colorspace ℚ) .bt2020 (1 / 2) .vonKries = .ok m ∧
      cscMatrixWith (.bt2020 : Colorspace ℚ) .bt709 2 .vonKries = .ok n ∧
      m * n = .identity ∧ n * m = .identity) :=
  cscMatrixWith_groupoid (Colorspace.valid_of_mem_table (by simp [Colorspace.table]) _)
    (Colorspace.valid_of_mem_table (by simp [Colorspace.table]) _)
    (Colorspace.valid_of_mem_table (by simp [Colorspace.table]) _) 2 3

end Colorimetry
