import Mathlib
import Colorimetry.Proofs.Transfer.HybridLogGamma
import Colorimetry.Proofs.Transfer.Joints
import Colorimetry.Proofs.Transfer.PerceptualQuantizer

/-!
# Curves keep the order of tones

Over the real numbers every built-in curve rises on each of its segments, and the two closed forms
rise throughout the unit interval. A pair of values can therefore come out in the wrong order only
across the break of a piecewise curve, and there one direction always goes wrong when the segments
do not meet:

* the functions whose encoding jumps up (`TransferFunction.jumping`) fall back when they decode, by
  up to 5.5 · 10⁻⁵ of the light, for values within 2.5 · 10⁻⁴ of the joint;
* sRGB, whose encoding steps down, falls back when it encodes, by up to 3 · 10⁻⁸, for light within
  3 · 10⁻⁹ of the knee.

`reversed_iff` gives the exact pairs, and `reversed_at_breaks` one of either kind. All other
functions keep the order in both directions (`encode_le_encode`, `decode_le_decode`).
-/

namespace Colorimetry.TransferFunction

open Transfer

variable {tf : TransferFunction} {x y : ℝ}

/-! ### Functions that keep the order -/

/-- **Encoding keeps the order of light**, except in sRGB. -/
theorem encode_le_encode (htf : tf ≠ srgb) (hx : 0 ≤ x) (hxy : x ≤ y) :
    tf.encode x ≤ tf.encode y := by
  rcases mem_piecewise_or tf with rfl | rfl | h
  · exact Pq.encode_le_encode hx hxy
  · exact Hlg.encode_le_encode hxy
  · have hrises := rises_of_mem_piecewise h
    have hstart : (tf.record : Record ℝ).joint ≤ (tf.record : Record ℝ).power tf.record.knee := by
      rcases start_cases h with hjump | rfl | hmeet
      · exact (startsAbove_of_mem_jumping hjump).joint_lt.le
      · exact absurd rfl htf
      · exact hmeet.ge
    -- encoding falls back by at most nothing
    rw [encode_of_mem_piecewise h, encode_of_mem_piecewise h]
    simpa using hrises.encode_le_encode_add hxy le_rfl (by simpa using hstart)

/-- **Decoding keeps the order of signals**, except where encoding jumps. -/
theorem decode_le_decode (htf : tf ∉ jumping) (hx : 0 ≤ x) (hxy : x ≤ y) (hy : y ≤ 1) :
    tf.decode x ≤ tf.decode y := by
  rcases mem_piecewise_or tf with rfl | rfl | h
  · exact Pq.decode_le_decode hx hxy hy
  · exact Hlg.decode_le_decode hx hxy
  · have hrises := rises_of_mem_piecewise h
    have hstart : (tf.record : Record ℝ).power tf.record.knee ≤ (tf.record : Record ℝ).joint := by
      rcases start_cases h with hjump | rfl | hmeet
      · exact absurd hjump htf
      · exact startsBelow_srgb.power_lt.le
      · exact hmeet.le
    -- the comparison at the knee, read on the axis of light
    have hroot := (hrises.power_le_iff hrises.knee_nonneg hrises.joint_add_nonneg).mp hstart
    rw [decode_of_mem_piecewise h, decode_of_mem_piecewise h]
    simpa using hrises.decode_le_decode_add hxy le_rfl (by simpa using hroot)

/-! ### Functions that do not -/

/-- The pairs that the encoding of sRGB reverses. -/
theorem srgb_encode_lt_encode_iff (hxy : x ≤ y) :
    srgb.encode y < srgb.encode x ↔ x < srgb.record.knee ∧ srgb.record.knee ≤ y ∧
      srgb.record.power y < x * srgb.record.linear := by
  have h : srgb ∈ piecewise := by simp [piecewise]
  rw [encode_of_mem_piecewise h, encode_of_mem_piecewise h,
    (rises_of_mem_piecewise h).encode_lt_encode_iff hxy]

/-- The pairs that decoding reverses where encoding jumps. -/
theorem decode_lt_decode_iff (htf : tf ∈ jumping) (hxy : x ≤ y) :
    tf.decode y < tf.decode x ↔ x < tf.record.joint ∧ tf.record.joint ≤ y ∧
      tf.record.root y < x / tf.record.linear := by
  have h := mem_piecewise_of_mem_jumping htf
  rw [decode_of_mem_piecewise h, decode_of_mem_piecewise h,
    (rises_of_mem_piecewise h).decode_lt_decode_iff hxy]

/-- A pair that the encoding of sRGB reverses lies at the knee and comes out close together. -/
theorem srgb_near_knee (hxy : x ≤ y) (hlt : srgb.encode y < srgb.encode x) :
    |x - srgb.record.knee| < 0.000000003 ∧ |y - srgb.record.knee| < 0.000000003 ∧
      srgb.encode x - srgb.encode y ≤ 0.00000003 := by
  have h : srgb ∈ piecewise := by simp [piecewise]
  have hrises := rises_of_mem_piecewise h
  have hroot := startsBelow_srgb.root_le
  have hknee := startsBelow_srgb.knee_le hrises
  have hslope : (0.00000003 : ℝ) / (srgb.record : Record ℝ).linear < 0.000000003 := by
    norm_num [record, Record.srgb]
  rw [encode_of_mem_piecewise h, encode_of_mem_piecewise h] at *
  obtain ⟨⟨hlow, hx⟩, hy, hhigh⟩ := hrises.mem_of_encode_lt_encode hxy hlt
  have hfall : srgb.record.encode x ≤ srgb.record.encode y + 0.00000003 :=
    hrises.encode_le_encode_add hxy (by norm_num) startsBelow_srgb.joint_le
  refine ⟨abs_lt.mpr ⟨by linarith, by linarith⟩, abs_lt.mpr ⟨by linarith, by linarith⟩, ?_⟩
  linarith

/-- A pair that decoding reverses lies at the joint and comes out close together. -/
theorem near_joint (htf : tf ∈ jumping) (hxy : x ≤ y) (hlt : tf.decode y < tf.decode x) :
    |x - tf.record.joint| < 0.00025 ∧ |y - tf.record.joint| < 0.00025 ∧
      tf.decode x - tf.decode y ≤ 0.000055 := by
  have h := mem_piecewise_of_mem_jumping htf
  have hrises := rises_of_mem_piecewise h
  have habove := startsAbove_of_mem_jumping htf
  have hjoint := joint_le_of_mem_jumping htf
  have hpower := habove.power_le
  rw [decode_of_mem_piecewise h, decode_of_mem_piecewise h] at *
  obtain ⟨⟨hlow, hx⟩, hy, hhigh⟩ := hrises.mem_of_decode_lt_decode hxy hlt
  have hfall : tf.record.decoding.decode x ≤ tf.record.decoding.decode y + 0.000055 :=
    hrises.decode_le_decode_add hxy (by norm_num) habove.knee_le
  refine ⟨abs_lt.mpr ⟨by linarith, by linarith⟩, abs_lt.mpr ⟨by linarith, by linarith⟩, ?_⟩
  linarith

/-! ### All functions -/

/-- **The pairs of tones that a curve reverses.** Encoding reverses a pair only in sRGB, decoding
only where encoding jumps, and both only a pair that straddles the break, if the curved segment at
the one is below the straight segment at the other. All these pairs lie close to the break, and
their values close together. -/
theorem reversed_iff (tf : TransferFunction) (hx : 0 ≤ x) (hxy : x ≤ y) (hy : y ≤ 1) :
    (tf.encode y < tf.encode x ↔ tf = srgb ∧ x < tf.record.knee ∧ tf.record.knee ≤ y ∧
      tf.record.power y < x * tf.record.linear) ∧
    (tf.decode y < tf.decode x ↔ tf ∈ jumping ∧ x < tf.record.joint ∧ tf.record.joint ≤ y ∧
      tf.record.root y < x / tf.record.linear) ∧
    (tf.encode y < tf.encode x →
      |x - tf.record.knee| < 0.000000003 ∧ |y - tf.record.knee| < 0.000000003 ∧
        tf.encode x - tf.encode y ≤ 0.00000003) ∧
    (tf.decode y < tf.decode x →
      |x - tf.record.joint| < 0.00025 ∧ |y - tf.record.joint| < 0.00025 ∧
        tf.decode x - tf.decode y ≤ 0.000055) := by
  refine ⟨?_, ?_, ?_, ?_⟩
  · by_cases htf : tf = srgb
    · subst htf
      simp only [srgb_encode_lt_encode_iff hxy, true_and]
    · simp only [(encode_le_encode htf hx hxy).not_gt, htf, false_and]
  · by_cases htf : tf ∈ jumping
    · simp only [decode_lt_decode_iff htf hxy, htf, true_and]
    · simp only [(decode_le_decode htf hx hxy hy).not_gt, htf, false_and]
  · intro hlt
    by_cases htf : tf = srgb
    · subst htf
      exact srgb_near_knee hxy hlt
    · exact absurd hlt (encode_le_encode htf hx hxy).not_gt
  · intro hlt
    by_cases htf : tf ∈ jumping
    · exact near_joint htf hxy hlt
    · exact absurd hlt (decode_le_decode htf hx hxy hy).not_gt

/-- Two tones of BT.709 on the two sides of its joint. -/
theorem reversed_iff_bt709 :
    (0 : ℝ) ≤ 0.0809 ∧ (0.0809 : ℝ) ≤ 0.0811 ∧ (0.0811 : ℝ) ≤ 1 ∧
    (bt709.encode (0.0811 : ℝ) < bt709.encode 0.0809 ↔ bt709 = srgb ∧
      0.0809 < (bt709.record : Record ℝ).knee ∧ (bt709.record : Record ℝ).knee ≤ 0.0811 ∧
      bt709.record.power 0.0811 < 0.0809 * (bt709.record : Record ℝ).linear) ∧
    (bt709.decode (0.0811 : ℝ) < bt709.decode 0.0809 ↔ bt709 ∈ jumping ∧
      0.0809 < (bt709.record : Record ℝ).joint ∧ (bt709.record : Record ℝ).joint ≤ 0.0811 ∧
      bt709.record.root 0.0811 < 0.0809 / (bt709.record : Record ℝ).linear) ∧
    (bt709.encode (0.0811 : ℝ) < bt709.encode 0.0809 →
      |0.0809 - (bt709.record : Record ℝ).knee| < 0.000000003 ∧
      |0.0811 - (bt709.record : Record ℝ).knee| < 0.000000003 ∧
      bt709.encode (0.0809 : ℝ) - bt709.encode 0.0811 ≤ 0.00000003) ∧
    (bt709.decode (0.0811 : ℝ) < bt709.decode 0.0809 →
      |0.0809 - (bt709.record : Record ℝ).joint| < 0.00025 ∧
      |0.0811 - (bt709.record : Record ℝ).joint| < 0.00025 ∧
      bt709.decode (0.0809 : ℝ) - bt709.decode 0.0811 ≤ 0.000055) := by
  have hx : (0 : ℝ) ≤ 0.0809 := by norm_num
  have hxy : (0.0809 : ℝ) ≤ 0.0811 := by norm_num
  have hy : (0.0811 : ℝ) ≤ 1 := by norm_num
  exact ⟨hx, hxy, hy, reversed_iff bt709 hx hxy hy⟩

/-- **Not every curve keeps the order**: BT.709 decodes 0.0811 to less light than 0.0809, and sRGB
encodes one of two neighboring amounts of light at its knee the wrong way round. -/
theorem reversed_at_breaks :
    ((0 : ℝ) ≤ 0.0809 ∧ (0.0809 : ℝ) ≤ 0.0811 ∧ (0.0811 : ℝ) ≤ 1 ∧
      bt709.decode (0.0811 : ℝ) < bt709.decode 0.0809) ∧
    (0 : ℝ) ≤ 0.003130804 ∧ (0.003130804 : ℝ) ≤ 0.003130805 ∧ (0.003130805 : ℝ) ≤ 1 ∧
      srgb.encode (0.003130805 : ℝ) < srgb.encode 0.003130804 := by
  refine ⟨⟨by norm_num, by norm_num, by norm_num, ?_⟩, by norm_num, by norm_num, by norm_num, ?_⟩
  · have h : bt709 ∈ piecewise := by simp [piecewise]
    have hrises := rises_of_mem_piecewise h
    -- the straight segment sends 0.0809 to light whose power is above 0.0811
    have hpower : (0.0811 : ℝ) < (bt709.record : Record ℝ).power (0.0809 / 4.5) := by
      rw [← not_le, hrises.power_le_iff_pow (i := 9) (n := 20)] <;>
        norm_num [record, Record.bt709]
    rw [decode_lt_decode_iff (by simp [jumping]) (by norm_num)]
    refine ⟨?_, ?_, (hrises.lt_power_iff ?_ ?_).mp hpower⟩ <;>
      norm_num [record, Record.bt709, Record.joint]
  · have h : srgb ∈ piecewise := by simp [piecewise]
    rw [srgb_encode_lt_encode_iff (by norm_num),
      (rises_of_mem_piecewise h).power_lt_iff_pow (i := 5) (n := 12)] <;>
      norm_num [record, Record.srgb]

end Colorimetry.TransferFunction
