import Mathlib
import Colorimetry.Proofs.Transfer.InversePair
import Colorimetry.Proofs.Transfer.Segments
import Colorimetry.Transfer.Hlg

/-!
# Hybrid log-gamma over the real numbers

The constants of hybrid log-gamma are chosen so that its segments meet exactly: at a twelfth of the
light both have the value a half (`Hlg.log_segment_joint`), and at a half of the signal both decode
to a twelfth (`Hlg.exp_segment_joint`). Whatever the factor of the logarithm is, the two offsets are
what makes this true, so the decimal places of the factor do not matter. Both directions rise.

For light that is not negative they also undo each other (`Hlg.inversePair`). The segments of one
direction undo those of the other, the root the square and the logarithm the exponential, and since
both rise through the joint, light below it is encoded below it and the other way round: what one
segment has encoded, the matching one decodes (`Hlg.encode_lt_half_iff`,
`Hlg.decode_lt_twelfth_iff`).
-/

namespace Colorimetry.Transfer.Hlg

/-! ### Constants -/

theorem a_pos : (0 : ℝ) < a := by
  norm_num [a]

theorem one_sub_b : (1 : ℝ) - b = 4 * a := by
  norm_num [b]

theorem c_eq : (c : ℝ) = 1 / 2 - a * Real.log (4 * a) := by
  norm_num [c]

/-! ### Segments -/

theorem encode_eq (l : ℝ) :
    encode l = if l < 1 / 12 then √(3 * l) else a * Real.log (12 * l - b) + c := by
  have h3 : (3.0 : ℝ) = 3 := by norm_num
  have h12 : (12.0 : ℝ) = 12 := by norm_num
  simp only [encode, h3, h12, sqrt_real, log_real]

theorem decode_eq (v : ℝ) :
    decode v = if v < 1 / 2 then v * v / 3 else (Real.exp ((v - c) / a) + b) / 12 := by
  have h3 : (3.0 : ℝ) = 3 := by norm_num
  have h12 : (12.0 : ℝ) = 12 := by norm_num
  have hhalf : (0.5 : ℝ) = 1 / 2 := by norm_num
  simp only [decode, h3, h12, hhalf, exp_real]

/-- The logarithm starts at a half. -/
theorem log_segment_joint : (a : ℝ) * Real.log (12 * (1 / 12) - b) + c = 1 / 2 := by
  have hbase : (12 : ℝ) * (1 / 12) - b = 4 * a := by
    rw [← one_sub_b]
    norm_num
  rw [hbase, c_eq]
  ring

/-- The exponential starts at a twelfth. -/
theorem exp_segment_joint : (Real.exp ((1 / 2 - c) / a) + b) / 12 = (1 / 12 : ℝ) := by
  have hexponent : ((1 : ℝ) / 2 - c) / a = Real.log (4 * a) := by
    rw [c_eq, sub_sub_cancel, mul_div_cancel_left₀ _ a_pos.ne']
  have hpos : (0 : ℝ) < 4 * a := mul_pos (by norm_num) a_pos
  rw [hexponent, Real.exp_log hpos, ← one_sub_b]
  ring

/-- From the joint on the logarithm has a positive argument. -/
theorem log_argument_pos {l : ℝ} (hl : 1 / 12 ≤ l) : 0 < 12 * l - b := by
  have hpos : (0 : ℝ) < 1 - b := by
    rw [one_sub_b]
    exact mul_pos (by norm_num) a_pos
  linarith

/-! ### Order -/

section Order

variable {x y : ℝ}

theorem log_segment_le (hx : 1 / 12 ≤ x) (hxy : x ≤ y) :
    a * Real.log (12 * x - b) + c ≤ a * Real.log (12 * y - b) + c := by
  have hlog : Real.log (12 * x - b) ≤ Real.log (12 * y - b) :=
    Real.log_le_log (log_argument_pos hx) (by linarith)
  have hmul := mul_le_mul_of_nonneg_left hlog a_pos.le
  linarith

theorem exp_segment_le (hxy : x ≤ y) :
    (Real.exp ((x - c) / a) + b) / 12 ≤ (Real.exp ((y - c) / a) + b) / 12 := by
  have hexponent : (x - c) / a ≤ (y - c) / a :=
    div_le_div_of_nonneg_right (by linarith) a_pos.le
  have hexp := Real.exp_le_exp.mpr hexponent
  linarith

/-- **Encoding keeps the order of all values.** -/
theorem encode_le_encode (hxy : x ≤ y) : (encode x : ℝ) ≤ encode y := by
  rw [encode_eq, encode_eq]
  refine ite_le_ite (f := fun l => √(3 * l)) (g := fun l => a * Real.log (12 * l - b) + c) hxy
    (Real.sqrt_le_sqrt (by linarith)) (fun hx => log_segment_le hx hxy) ?_
  intro hx hy
  calc √(3 * x) ≤ √((1 / 2) ^ 2) := Real.sqrt_le_sqrt (by linarith)
    _ = 1 / 2 := Real.sqrt_sq (by norm_num)
    _ = a * Real.log (12 * (1 / 12) - b) + c := log_segment_joint.symm
    _ ≤ a * Real.log (12 * y - b) + c := log_segment_le le_rfl hy

/-- **Decoding keeps the order of values that are not negative.** -/
theorem decode_le_decode (hx : 0 ≤ x) (hxy : x ≤ y) : (decode x : ℝ) ≤ decode y := by
  rw [decode_eq, decode_eq]
  have hsquare : x * x / 3 ≤ y * y / 3 :=
    div_le_div_of_nonneg_right (mul_self_le_mul_self hx hxy) (by norm_num)
  refine ite_le_ite (f := fun v => v * v / 3) (g := fun v => (Real.exp ((v - c) / a) + b) / 12)
    hxy hsquare (fun _ => exp_segment_le hxy) ?_
  intro hlow hhigh
  have hhalf : x * x ≤ 1 / 2 * (1 / 2) := mul_self_le_mul_self hx hlow.le
  calc x * x / 3 ≤ 1 / 12 := by linarith
    _ = (Real.exp ((1 / 2 - c) / a) + b) / 12 := exp_segment_joint.symm
    _ ≤ (Real.exp ((y - c) / a) + b) / 12 := exp_segment_le hhigh

end Order

/-! ### Values -/

section Values

variable {x : ℝ}

theorem encode_zero : (encode 0 : ℝ) = 0 := by
  rw [encode_eq, if_pos (by norm_num), mul_zero, Real.sqrt_zero]

theorem decode_zero : (decode 0 : ℝ) = 0 := by
  rw [decode_eq, if_pos (by norm_num), mul_zero, zero_div]

theorem encode_joint : (encode (1 / 12) : ℝ) = 1 / 2 := by
  rw [encode_eq, if_neg (lt_irrefl _), log_segment_joint]

theorem encode_pos (hx : 0 < x) : 0 < encode x := by
  rcases lt_or_ge x (1 / 12) with h | h
  · rw [encode_eq, if_pos h]
    exact Real.sqrt_pos.mpr (by linarith)
  · have hle := encode_le_encode h
    rw [encode_joint] at hle
    linarith

theorem decode_pos (hx : 0 < x) : 0 < decode x := by
  rcases lt_or_ge x (1 / 2) with h | h
  · rw [decode_eq, if_pos h]
    exact div_pos (mul_pos hx hx) (by norm_num)
  · have hle := decode_le_decode (by norm_num) h
    rw [decode_eq (1 / 2), if_neg (lt_irrefl _), exp_segment_joint] at hle
    linarith

end Values

/-! ### There and back -/

section RoundTrip

variable {l v : ℝ}

/-- **The directions choose the same segment**: light is below the joint exactly if its signal is, -/
theorem encode_lt_half_iff (l : ℝ) : encode l < 1 / 2 ↔ l < 1 / 12 := by
  constructor
  · contrapose!
    intro hl
    rw [← encode_joint]
    exact encode_le_encode hl
  · intro hl
    rw [encode_eq, if_pos hl, Real.sqrt_lt' (by norm_num)]
    linarith

/-- and a signal exactly if its light is. -/
theorem decode_lt_twelfth_iff (hv : 0 ≤ v) : decode v < 1 / 12 ↔ v < 1 / 2 := by
  constructor
  · contrapose!
    intro hhigh
    rw [decode_eq, if_neg hhigh.not_gt, ← exp_segment_joint]
    exact exp_segment_le hhigh
  · intro hlow
    have hsquare : v * v < 1 / 2 * (1 / 2) := mul_self_lt_mul_self hv hlow
    rw [decode_eq, if_pos hlow]
    linarith

/-- What was encoded is decoded by the segment that undoes it. -/
theorem decode_encode (hl : 0 ≤ l) : decode (encode l) = l := by
  rcases lt_or_ge l (1 / 12) with hlow | hhigh
  · have hthree : 0 ≤ 3 * l := mul_nonneg (by norm_num) hl
    rw [decode_eq, if_pos ((encode_lt_half_iff l).mpr hlow), encode_eq, if_pos hlow,
      Real.mul_self_sqrt hthree, mul_div_cancel_left₀ l (by norm_num)]
  · rw [decode_eq, if_neg (mt (encode_lt_half_iff l).mp hhigh.not_gt), encode_eq,
      if_neg hhigh.not_gt, add_sub_cancel_right, mul_div_cancel_left₀ _ a_pos.ne',
      Real.exp_log (log_argument_pos hhigh), sub_add_cancel, mul_div_cancel_left₀ l (by norm_num)]

/-- What was decoded is encoded by the segment that undoes it. -/
theorem encode_decode (hv : 0 ≤ v) : encode (decode v) = v := by
  rcases lt_or_ge v (1 / 2) with hlow | hhigh
  · rw [encode_eq, if_pos ((decode_lt_twelfth_iff hv).mpr hlow), decode_eq, if_pos hlow,
      mul_div_cancel₀ (v * v) (by norm_num), Real.sqrt_mul_self hv]
  · rw [encode_eq, if_neg (mt (decode_lt_twelfth_iff hv).mp hhigh.not_gt), decode_eq,
      if_neg hhigh.not_gt, mul_div_cancel₀ _ (by norm_num), add_sub_cancel_right, Real.log_exp,
      mul_div_cancel₀ _ a_pos.ne', sub_add_cancel]

/-- Encoding and decoding undo each other and keep the order. -/
theorem inversePair : InversePair encode decode where
  left_nonneg hl := encode_zero.symm.trans_le (encode_le_encode hl)
  right_nonneg hv := decode_zero.symm.trans_le (decode_le_decode le_rfl hv)
  right_left := decode_encode
  left_right := encode_decode
  left_le _ := encode_le_encode

/-- **Encoding and decoding are inverse to each other, continuous and strictly increasing** on all
values that are not negative. Light below a twelfth is what makes a signal below a half, and a
signal below a half what makes light below a twelfth, so that each direction undoes the other in the
matching segment; and wherever the logarithm is chosen, its argument is positive. -/
theorem encode_decode_homeomorphic :
    (∀ l : ℝ, 0 ≤ l → decode (encode l) = l) ∧ (∀ v : ℝ, 0 ≤ v → encode (decode v) = v) ∧
    (StrictMonoOn (encode : ℝ → ℝ) (Set.Ici 0) ∧ StrictMonoOn (decode : ℝ → ℝ) (Set.Ici 0)) ∧
    (ContinuousOn (encode : ℝ → ℝ) (Set.Ici 0) ∧ ContinuousOn (decode : ℝ → ℝ) (Set.Ici 0)) ∧
    (∀ l : ℝ, 0 ≤ l → (encode l < 1 / 2 ↔ l < 1 / 12)) ∧
    (∀ v : ℝ, 0 ≤ v → (decode v < 1 / 12 ↔ v < 1 / 2)) ∧
    ∀ l : ℝ, ¬ l < 1 / 12 → 0 < 12 * l - b :=
  ⟨fun _ => decode_encode, fun _ => encode_decode,
    ⟨inversePair.strictMonoOn, inversePair.symm.strictMonoOn⟩,
    ⟨inversePair.continuousOn, inversePair.symm.continuousOn⟩,
    fun l _ => encode_lt_half_iff l, fun _ => decode_lt_twelfth_iff,
    fun _ hl => log_argument_pos (not_lt.mp hl)⟩

end RoundTrip

end Colorimetry.Transfer.Hlg
