import Mathlib
import Colorimetry.Proofs.Transfer.Joints

/-!
# Encoding what was decoded

A value that is decoded and encoded again comes back, if the segment that decoded it is undone by
the segment that encodes it. The two directions choose on different axes, and their choices differ
only between the two ends that meet at the break (`Rises.encode_decode`): for values from the joint
up to the start of the power segment, which the root takes below the knee, so that the straight
segment encodes them. That interval is empty unless encoding jumps. For the functions that jump it
is shorter than 2.5 · 10⁻⁴, and a value in it comes back too low, by less than 5 · 10⁻⁴
(`abs_encode_decode_sub_le`).
-/

namespace Colorimetry.TransferFunction

open Transfer

variable {tf : TransferFunction} {v : ℝ}

/-! ### Functions without a jump -/

/-- **Without a jump every value comes back.** -/
theorem encode_decode_of_not_mem_jumping (h : tf ∈ piecewise) (hjump : tf ∉ jumping) (v : ℝ) :
    tf.encode (tf.decode v) = v := by
  rw [encode_of_mem_piecewise h, decode_of_mem_piecewise h]
  refine (rises_of_mem_piecewise h).encode_decode_of_power_le ?_ v
  rcases start_cases h with hmem | rfl | hmeet
  · exact absurd hmem hjump
  · exact startsBelow_srgb.power_lt.le
  · exact hmeet.le

/-! ### Functions with a jump -/

section Jump

variable (htf : tf ∈ jumping)

include htf

/-- Outside the jump every value comes back. -/
theorem encode_decode_of_not_between
    (hv : v < tf.record.joint ∨ (tf.record : Record ℝ).power tf.record.knee ≤ v) :
    tf.encode (tf.decode v) = v := by
  have h := mem_piecewise_of_mem_jumping htf
  rw [encode_of_mem_piecewise h, decode_of_mem_piecewise h]
  refine (rises_of_mem_piecewise h).encode_decode (hv.imp_right fun hge => ⟨?_, hge⟩)
  exact (startsAbove_of_mem_jumping htf).joint_lt.le.trans hge

/-- In the jump a value comes back too low, by no more than both steps together. -/
theorem encode_decode_of_between (hjoint : tf.record.joint ≤ v)
    (hpower : v < (tf.record : Record ℝ).power tf.record.knee) :
    v < tf.record.joint + 0.00025 ∧ v - 0.0005 ≤ tf.encode (tf.decode v) ∧
      tf.encode (tf.decode v) < v := by
  have h := mem_piecewise_of_mem_jumping htf
  have hup := (startsAbove_of_mem_jumping htf).power_le
  have hdown := joint_le_of_mem_jumping htf
  rw [encode_of_mem_piecewise h, decode_of_mem_piecewise h]
  obtain ⟨hlow, hhigh⟩ := (rises_of_mem_piecewise h).encode_decode_between hjoint hpower
  exact ⟨by linarith, by linarith, by linarith⟩

end Jump

/-! ### All piecewise functions -/

/-- A value comes back, or it lies just above the joint and comes back a little too low. -/
theorem encode_decode_eq_or_lt (h : tf ∈ piecewise) (v : ℝ) :
    tf.encode (tf.decode v) = v ∨
      tf.record.joint ≤ v ∧ v < tf.record.joint + 0.00025 ∧
        v - 0.0005 ≤ tf.encode (tf.decode v) ∧ tf.encode (tf.decode v) < v := by
  by_cases htf : tf ∈ jumping
  · rcases lt_or_ge v (tf.record : Record ℝ).joint with hjoint | hjoint
    · exact .inl (encode_decode_of_not_between htf (.inl hjoint))
    · rcases lt_or_ge v ((tf.record : Record ℝ).power tf.record.knee) with hpower | hpower
      -- decoded as power, encoded as straight
      · exact .inr ⟨hjoint, encode_decode_of_between htf hjoint hpower⟩
      · exact .inl (encode_decode_of_not_between htf (.inr hpower))
  · exact .inl (encode_decode_of_not_mem_jumping h htf v)

/-- **Decode, then encode.** In every piecewise function a value that is at least 0.005 away from
the joint comes back unchanged, and every value comes back to within 0.0005. -/
theorem abs_encode_decode_sub_le (h : tf ∈ piecewise) (v : ℝ) :
    (0.005 ≤ |v - tf.record.knee * tf.record.linear| → tf.encode (tf.decode v) = v) ∧
      |tf.encode (tf.decode v) - v| ≤ 0.0005 := by
  rcases encode_decode_eq_or_lt h v with hback | ⟨hjoint, hnear, hlow, hhigh⟩
  · refine ⟨fun _ => hback, ?_⟩
    rw [hback, sub_self, abs_zero]
    norm_num
  · refine ⟨fun hfar => ?_, abs_le.mpr ⟨by linarith, by linarith⟩⟩
    rw [← Record.joint, abs_of_nonneg (sub_nonneg.mpr hjoint)] at hfar
    linarith

/-- BT.709 at its joint, which decodes below the knee. -/
theorem abs_encode_decode_sub_le_bt709 :
    bt709 ∈ piecewise ∧
    (0.005 ≤ |(0.081 : ℝ) - bt709.record.knee * bt709.record.linear| →
      bt709.encode (bt709.decode (0.081 : ℝ)) = 0.081) ∧
    |bt709.encode (bt709.decode (0.081 : ℝ)) - 0.081| ≤ 0.0005 := by
  have h : bt709 ∈ piecewise := by simp [piecewise]
  exact ⟨h, abs_encode_decode_sub_le h 0.081⟩

end Colorimetry.TransferFunction
