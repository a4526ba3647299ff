import Mathlib
import Colorimetry.Proofs.Transfer.Segments

/-!
# Records whose segments meet

The coefficients of a standard are rounded, so that its two segments miss each other by a little. Of
coefficients that are not, and whose segments meet at the knee (`Record.Meets`), the record that
`Record.decoding` derives is the exact inverse: the two directions undo each other for every value,
and both are strictly increasing (`Record.decoding_inverts`).

What has to be shown is that the two directions choose alike, although they ask on different axes.
They do because the joint is the value of both segments at the knee. So light from the knee on is
encoded as the joint or above, and light below it, on the straight segment, below the joint
(`Meets.encode_lt_joint_iff`); and the root, which starts at the knee, separates signals in the same
way (`Meets.decode_lt_knee_iff`). At the break itself both directions take the curved segment.
-/

namespace Colorimetry.Transfer.Record

/-- Coefficients of two rising segments that have the same value at the knee. -/
structure Meets (c : Record ℝ) : Prop where
  p_pos : 0 < c.p
  a_gt : -1 < c.a
  knee_nonneg : 0 ≤ c.knee
  linear_pos : 0 < c.linear
  meet : (1 + c.a) * c.knee ^ c.p - c.a = c.knee * c.linear

namespace Meets

variable {c : Record ℝ} (h : c.Meets) {l v : ℝ}

include h

theorem power_knee : c.power c.knee = c.joint := h.meet

/-- The base of the root is not negative at the joint, since it is a power of the knee there. -/
theorem rises : c.Rises where
  p_pos := h.p_pos
  a_gt := h.a_gt
  knee_nonneg := h.knee_nonneg
  linear_pos := h.linear_pos
  joint_add_nonneg := by
    rw [← h.power_knee, power, sub_add_cancel]
    exact mul_nonneg (by linarith [h.a_gt]) (Real.rpow_nonneg h.knee_nonneg _)

/-- The root starts at the knee. -/
theorem root_joint : c.root c.joint = c.knee := by
  rw [← h.power_knee, h.rises.root_power h.knee_nonneg]

/-! ### The segments that are chosen -/

/-- **The directions choose the same segment**: light is below the knee exactly if its signal is
below the joint, -/
theorem encode_lt_joint_iff (l : ℝ) : c.encode l < c.joint ↔ l < c.knee := by
  rw [encode_eq]
  rcases lt_or_ge l c.knee with hl | hl
  · rw [if_pos hl]
    exact iff_of_true (mul_lt_mul_of_pos_right hl h.linear_pos) hl
  · have hle : c.joint ≤ c.power l := by
      rw [← h.power_knee]
      exact (h.rises.power_le_power_iff h.knee_nonneg (h.knee_nonneg.trans hl)).mpr hl
    rw [if_neg hl.not_gt]
    exact iff_of_false hle.not_gt hl.not_gt

/-- and a signal below the joint exactly if its light is below the knee. -/
theorem decode_lt_knee_iff (v : ℝ) : c.decoding.decode v < c.knee ↔ v < c.joint := by
  rw [h.rises.decode_eq]
  rcases lt_or_ge v c.joint with hv | hv
  · rw [if_pos hv]
    exact iff_of_true ((div_lt_iff₀ h.linear_pos).mpr hv) hv
  · have hle : c.knee ≤ c.root v := by
      rw [← h.root_joint]
      exact h.rises.root_le_root h.rises.joint_add_nonneg hv
    rw [if_neg hv.not_gt]
    exact iff_of_false hle.not_gt hv.not_gt

/-! ### There and back -/

/-- What was encoded is decoded by the segment that undoes it. -/
theorem decode_encode (l : ℝ) : c.decoding.decode (c.encode l) = l := by
  rw [h.rises.decode_eq]
  rcases lt_or_ge l c.knee with hl | hl
  · rw [if_pos ((h.encode_lt_joint_iff l).mpr hl), encode_eq, if_pos hl,
      mul_div_cancel_right₀ l h.linear_pos.ne']
  · rw [if_neg (mt (h.encode_lt_joint_iff l).mp hl.not_gt), encode_eq, if_neg hl.not_gt,
      h.rises.root_power (h.knee_nonneg.trans hl)]

/-- What was decoded is encoded by the segment that undoes it. -/
theorem encode_decode (v : ℝ) : c.encode (c.decoding.decode v) = v :=
  h.rises.encode_decode_of_power_le h.power_knee.le v

/-! ### Order -/

/-- Encoding does not fall back where the segments meet, and it takes no two values to one. -/
theorem strictMono_encode : StrictMono c.encode := by
  have hmono : Monotone c.encode := by
    intro x y hxy
    simpa using h.rises.encode_le_encode_add hxy le_rfl (by rw [h.power_knee, add_zero])
  exact hmono.strictMono_of_injective (Function.LeftInverse.injective h.decode_encode)

/-- The inverse of an increasing function increases. -/
theorem strictMono_decode : StrictMono c.decoding.decode := by
  intro u v huv
  rw [← h.strictMono_encode.lt_iff_lt, h.encode_decode, h.encode_decode]
  exact huv

end Meets

/-- **The derived record is the inverse of a record whose segments meet.** Both directions are
strictly increasing and undo each other, and each selects the segment that the other one has
selected. -/
theorem decoding_inverts {c : Record ℝ} (h : c.Meets) :
    (StrictMono c.encode ∧ StrictMono c.decoding.decode) ∧
    (∀ x, c.decoding.decode (c.encode x) = x) ∧ (∀ x, c.encode (c.decoding.decode x) = x) ∧
    (∀ x, c.encode x < c.decoding.knee ↔ x < c.knee) ∧
    ∀ x, c.decoding.decode x < c.knee ↔ x < c.decoding.knee := by
  have hknee : c.decoding.knee = c.joint := by rw [h.rises.decoding_eq]
  rw [hknee]
  exact ⟨⟨h.strictMono_encode, h.strictMono_decode⟩, h.decode_encode, h.encode_decode,
    h.encode_lt_joint_iff, h.decode_lt_knee_iff⟩

/-- A square root with the slope of BT.709, at its knee. -/
theorem decoding_inverts_squareRoot :
    let c : Record ℝ := ⟨"square root", 1 / 2, 1 / 16, 1 / 81, 9 / 2⟩
    c.Meets ∧ StrictMono c.encode ∧ c.decoding.decode (c.encode (1 / 81)) = 1 / 81 ∧
      c.encode (c.decoding.decode (1 / 18)) = 1 / 18 ∧ ¬c.encode (1 / 81) < c.decoding.knee := by
  intro c
  have hroot : (1 / 81 : ℝ) ^ (1 / 2 : ℝ) = 1 / 9 := by
    rw [← Real.sqrt_eq_rpow, Real.sqrt_eq_iff_mul_self_eq (by norm_num) (by norm_num)]
    norm_num
  have hmeets : c.Meets := by
    refine ⟨?_, ?_, ?_, ?_, ?_⟩ <;> norm_num [c, hroot]
  obtain ⟨⟨hmono, -⟩, hback, hforth, hchoice, -⟩ := decoding_inverts hmeets
  exact ⟨hmeets, hmono, hback _, hforth _, mt (hchoice _).mp (lt_irrefl _)⟩

end Colorimetry.Transfer.Record
