import Mathlib
import Colorimetry.Proofs.Transfer.Segments
import Colorimetry.Transfer.Curve

/-!
# Where the segments of the built-in records meet

The coefficients of the standards have three or four digits, so the segments that they describe do
not meet exactly. This file measures by how much they miss, on both axes, and it is the one place
where the coefficients are computed with:

| record | the power starts | off by | the root starts | off by |
|---|---|---|---|---|
| BT.709 | above the joint | 2.5 · 10⁻⁴ | below the knee | 5.5 · 10⁻⁵ |
| SMPTE 240M | above the joint | 6 · 10⁻⁵ | below the knee | 1.5 · 10⁻⁵ |
| ProPhoto RGB | above the joint | 10⁻⁶ | below the knee | 2 · 10⁻⁷ |
| sRGB | below the joint | 3 · 10⁻⁸ | above the knee | 3 · 10⁻⁹ |
| Adobe RGB, DCI-P3, linear | at the joint, zero | | at the knee, zero | |

The exponents are fractions of small numbers, so every entry is a comparison of two natural powers
of decimals (`Rises.power_le_iff_pow`).
-/

namespace Colorimetry

namespace Transfer.Record

/-! ### Above, below, at the joint -/

/-- The power segment starts above the joint, by at most `up`, hence the root below the knee, by at
most `down`. -/
structure StartsAbove (c : Record ℝ) (up down : ℝ) : Prop where
  joint_lt : c.joint < c.power c.knee
  power_le : c.power c.knee ≤ c.joint + up
  knee_le : c.knee ≤ c.root c.joint + down

/-- The power segment starts below the joint, by at most `down`, hence the root above the knee, by
at most `up`. -/
structure StartsBelow (c : Record ℝ) (down up : ℝ) : Prop where
  power_lt : c.power c.knee < c.joint
  joint_le : c.joint ≤ c.power c.knee + down
  root_le : c.root c.joint ≤ c.knee + up

section Powers

variable {c : Record ℝ} {i n : ℕ} {up down up' down' : ℝ}

theorem StartsAbove.mono (h : c.StartsAbove up down) (hup : up ≤ up') (hdown : down ≤ down') :
    c.StartsAbove up' down' :=
  ⟨h.joint_lt, h.power_le.trans (by linarith), h.knee_le.trans (by linarith)⟩

/-- On the encoded axis the root is off by the slope times as much. -/
theorem StartsAbove.joint_le (h : c.StartsAbove up down) (hc : c.Rises) :
    c.joint ≤ c.root c.joint * c.linear + down * c.linear := by
  rw [← add_mul]
  exact mul_le_mul_of_nonneg_right h.knee_le hc.linear_pos.le

/-- On the axis of light the power is off by as much divided by the slope. -/
theorem StartsBelow.knee_le (h : c.StartsBelow down up) (hc : c.Rises) :
    c.knee ≤ c.power c.knee / c.linear + down / c.linear := by
  rw [← add_div]
  exact (le_div_iff₀ hc.linear_pos).mpr h.joint_le

/-- Starting above, for a rational exponent. -/
theorem Rises.startsAbove (h : c.Rises) (hn : n ≠ 0) (hp : c.p = i / n)
    (hup : 0 ≤ c.joint + up + c.a) (hdown : 0 ≤ c.knee - down)
    (hlt : ((c.joint + c.a) / (1 + c.a)) ^ n < c.knee ^ i)
    (hle : c.knee ^ i ≤ ((c.joint + up + c.a) / (1 + c.a)) ^ n)
    (hroot : (c.knee - down) ^ i ≤ ((c.joint + c.a) / (1 + c.a)) ^ n) :
    c.StartsAbove up down := by
  refine ⟨?_, ?_, ?_⟩
  · rw [← not_le, h.power_le_iff_pow hn hp h.knee_nonneg h.joint_add_nonneg, not_le]
    exact hlt
  · rw [h.power_le_iff_pow hn hp h.knee_nonneg hup]
    exact hle
  · rw [← sub_le_iff_le_add, ← h.power_le_iff hdown h.joint_add_nonneg,
      h.power_le_iff_pow hn hp hdown h.joint_add_nonneg]
    exact hroot

/-- Starting below, for a rational exponent. -/
theorem Rises.startsBelow (h : c.Rises) (hn : n ≠ 0) (hp : c.p = i / n)
    (hdown : 0 ≤ c.joint - down + c.a) (hup : 0 ≤ c.knee + up)
    (hlt : c.knee ^ i < ((c.joint + c.a) / (1 + c.a)) ^ n)
    (hle : ((c.joint - down + c.a) / (1 + c.a)) ^ n ≤ c.knee ^ i)
    (hroot : ((c.joint + c.a) / (1 + c.a)) ^ n < (c.knee + up) ^ i) :
    c.StartsBelow down up := by
  refine ⟨?_, ?_, ?_⟩
  · rw [h.power_lt_iff_pow hn hp h.knee_nonneg h.joint_add_nonneg]
    exact hlt
  · rw [← sub_le_iff_le_add, ← not_lt, h.power_lt_iff_pow hn hp h.knee_nonneg hdown, not_lt]
    exact hle
  · refine le_of_lt ?_
    rw [← h.lt_power_iff hup h.joint_add_nonneg, ← not_le,
      h.power_le_iff_pow hn hp hup h.joint_add_nonneg, not_le]
    exact hroot

/-- Without a knee and without an offset both segments start at zero. -/
theorem Rises.power_knee_eq_joint (h : c.Rises) (hknee : c.knee = 0) (ha : c.a = 0) :
    c.power c.knee = c.joint := by
  rw [power, joint, hknee, ha, Real.zero_rpow h.p_pos.ne']
  ring

end Powers

end Transfer.Record

/-! ### The built-in functions -/

namespace TransferFunction

open Transfer

/-- The functions that are evaluated with the coefficients of their records. -/
def piecewise : List TransferFunction :=
  [bt709, smpte240m, srgb, adobeRgb, dciP3, proPhotoRgb, linear]

/-- The piecewise functions whose encoding jumps up at the knee. -/
def jumping : List TransferFunction := [bt709, smpte240m, proPhotoRgb]

section Piecewise

variable {tf : TransferFunction}

theorem encode_of_mem_piecewise (h : tf ∈ piecewise) (l : ℝ) :
    tf.encode l = tf.record.encode l := by
  simp only [piecewise, List.mem_cons, List.not_mem_nil, or_false] at h
  rcases h with rfl | rfl | rfl | rfl | rfl | rfl | rfl <;> rfl

theorem decode_of_mem_piecewise (h : tf ∈ piecewise) (v : ℝ) :
    tf.decode v = tf.record.decoding.decode v := by
  simp only [piecewise, List.mem_cons, List.not_mem_nil, or_false] at h
  rcases h with rfl | rfl | rfl | rfl | rfl | rfl | rfl <;> rfl

/-- Both segments of every piecewise function rise. -/
theorem rises_of_mem_piecewise (h : tf ∈ piecewise) : (tf.record : Record ℝ).Rises := by
  simp only [piecewise, List.mem_cons, List.not_mem_nil, or_false] at h
  rcases h with rfl | rfl | rfl | rfl | rfl | rfl | rfl <;> constructor <;>
    norm_num [record, Record.bt709, Record.smpte240m, Record.srgb, Record.adobeRgb, Record.dciP3,
      Record.proPhotoRgb, Record.identity, Record.joint]

theorem mem_piecewise_of_mem_jumping (h : tf ∈ jumping) : tf ∈ piecewise := by
  simp only [jumping, List.mem_cons, List.not_mem_nil, or_false] at h
  rcases h with rfl | rfl | rfl <;> simp [piecewise]

/-- A function is piecewise unless it is one of the two closed forms. -/
theorem mem_piecewise_or (tf : TransferFunction) : tf = st2084 ∨ tf = hlg ∨ tf ∈ piecewise := by
  cases tf <;> simp [piecewise]

end Piecewise

/-! ### By how much the segments miss -/

theorem startsAbove_bt709 : (bt709.record : Record ℝ).StartsAbove 0.00025 0.000055 := by
  refine (rises_of_mem_piecewise (by simp [piecewise])).startsAbove (i := 9) (n := 20)
    ?_ ?_ ?_ ?_ ?_ ?_ ?_ <;> norm_num [record, Record.bt709, Record.joint]

theorem startsAbove_smpte240m : (smpte240m.record : Record ℝ).StartsAbove 0.00006 0.000015 := by
  refine (rises_of_mem_piecewise (by simp [piecewise])).startsAbove (i := 9) (n := 20)
    ?_ ?_ ?_ ?_ ?_ ?_ ?_ <;> norm_num [record, Record.smpte240m, Record.joint]

theorem startsAbove_proPhotoRgb :
    (proPhotoRgb.record : Record ℝ).StartsAbove 0.000001 0.0000002 := by
  refine (rises_of_mem_piecewise (by simp [piecewise])).startsAbove (i := 5) (n := 9)
    ?_ ?_ ?_ ?_ ?_ ?_ ?_ <;> norm_num [record, Record.proPhotoRgb, Record.joint]

theorem startsBelow_srgb : (srgb.record : Record ℝ).StartsBelow 0.00000003 0.000000003 := by
  refine (rises_of_mem_piecewise (by simp [piecewise])).startsBelow (i := 5) (n := 12)
    ?_ ?_ ?_ ?_ ?_ ?_ ?_ <;> norm_num [record, Record.srgb, Record.joint]

/-- **What a jump misses by**: none misses by more than BT.709. -/
theorem startsAbove_of_mem_jumping {tf : TransferFunction} (h : tf ∈ jumping) :
    (tf.record : Record ℝ).StartsAbove 0.00025 0.000055 := by
  simp only [jumping, List.mem_cons, List.not_mem_nil, or_false] at h
  rcases h with rfl | rfl | rfl
  · exact startsAbove_bt709
  · exact startsAbove_smpte240m.mono (by norm_num) (by norm_num)
  · exact startsAbove_proPhotoRgb.mono (by norm_num) (by norm_num)

/-- The same on the encoded axis, where the steeper slope of ProPhoto RGB tells. -/
theorem joint_le_of_mem_jumping {tf : TransferFunction} (h : tf ∈ jumping) :
    (tf.record : Record ℝ).joint ≤ (tf.record : Record ℝ).root tf.record.joint *
      (tf.record : Record ℝ).linear + 0.00025 := by
  have hrises := rises_of_mem_piecewise (mem_piecewise_of_mem_jumping h)
  simp only [jumping, List.mem_cons, List.not_mem_nil, or_false] at h
  rcases h with rfl | rfl | rfl
  · refine (startsAbove_bt709.joint_le hrises).trans (add_le_add_right ?_ _)
    norm_num [record, Record.bt709]
  · refine (startsAbove_smpte240m.joint_le hrises).trans (add_le_add_right ?_ _)
    norm_num [record, Record.smpte240m]
  · refine (startsAbove_proPhotoRgb.joint_le hrises).trans (add_le_add_right ?_ _)
    norm_num [record, Record.proPhotoRgb]

/-- **How the segments of a piecewise function meet**: with a jump up, in sRGB with a small step
down, or without a break. -/
theorem start_cases {tf : TransferFunction} (h : tf ∈ piecewise) :
    tf ∈ jumping ∨ tf = srgb ∨
      (tf.record : Record ℝ).power tf.record.knee = (tf.record : Record ℝ).joint := by
  have hrises := rises_of_mem_piecewise h
  simp only [piecewise, List.mem_cons, List.not_mem_nil, or_false] at h
  rcases h with rfl | rfl | rfl | rfl | rfl | rfl | rfl
  case inl | inr.inl | inr.inr.inr.inr.inr.inl => exact .inl (by simp [jumping])
  case inr.inr.inl => exact .inr (.inl rfl)
  all_goals exact .inr (.inr (hrises.power_knee_eq_joint rfl rfl))

end TransferFunction
end Colorimetry
