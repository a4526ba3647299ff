import Mathlib
import Colorimetry.Proofs.Exact.Scalar
import Colorimetry.Transfer.Record

/-!
# The two segments of a piecewise curve

Over the real numbers, a record whose coefficients make both of its segments rise (`Record.Rises`)
has two increasing segments in either direction:

| direction | below | segment | from there on | segment |
|---|---|---|---|---|
| encoding | `knee` | `l * linear` | `knee` | `Record.power` |
| decoding | `Record.joint` | `v / linear` | `Record.joint` | `Record.root` |

The two straight segments undo each other, and so do the two curved ones (`Rises.root_power`,
`Rises.power_root`). What that leaves open is which segment applies, since the directions ask on
different axes. They agree if the power segment starts at the joint, where the straight one ends.
The constants of the standards are rounded, and it starts a little above or a little below. If it
starts above, encoding jumps up at the knee and decoding falls back at the joint; if it starts
below, it is encoding that falls back. All statements about the break are therefore comparisons of
`power knee` with `joint`, or, on the other axis, of `knee` with `root joint`, and one equivalence
carries them from axis to axis: `power l ≤ v` exactly if `l ≤ root v` (`Rises.power_le_iff`).
-/

namespace Colorimetry.Transfer

/-! ### Order across a break -/

/-- **Of a function with two rising segments, only a pair that straddles the break can be out of
order.** -/
theorem ite_lt_ite_iff {f g : ℝ → ℝ} {k x y : ℝ} (hxy : x ≤ y) (hf : f x ≤ f y)
    (hg : k ≤ x → g x ≤ g y) :
    (if y < k then f y else g y) < (if x < k then f x else g x) ↔
      x < k ∧ k ≤ y ∧ g y < f x := by
  rcases lt_or_ge y k with hy | hy
  -- both below the break
  · have hx : x < k := hxy.trans_lt hy
    rw [if_pos hy, if_pos hx]
    simp only [hf.not_gt, not_le.mpr hy, false_and, and_false]
  · rcases lt_or_ge x k with hx | hx
    · rw [if_neg hy.not_gt, if_pos hx]
      simp only [hx, hy, true_and]
    -- both above it
    · rw [if_neg hy.not_gt, if_neg hx.not_gt]
      simp only [(hg hx).not_gt, hx.not_gt, false_and]

/-- Two rising segments rise together if the lower one ends below the start of the upper one. -/
theorem ite_le_ite {f g : ℝ → ℝ} {k x y : ℝ} (hxy : x ≤ y) (hf : f x ≤ f y)
    (hg : k ≤ x → g x ≤ g y) (hfg : x < k → k ≤ y → f x ≤ g y) :
    (if x < k then f x else g x) ≤ if y < k then f y else g y := by
  refine le_of_not_gt ?_
  rw [ite_lt_ite_iff hxy hf hg]
  rintro ⟨hx, hy, hlt⟩
  exact (hfg hx hy).not_gt hlt

namespace Record

/-! ### Segments -/

/-- The end of the straight segment on the encoded axis, which is the knee of decoding. -/
noncomputable def joint (c : Record ℝ) : ℝ := c.knee * c.linear

/-- The curved segment of encoding. -/
noncomputable def power (c : Record ℝ) (l : ℝ) : ℝ := (1 + c.a) * l ^ c.p - c.a

/-- The curved segment of decoding. -/
noncomputable def root (c : Record ℝ) (v : ℝ) : ℝ := ((v + c.a) / (1 + c.a)) ^ (1 / c.p)

/-- Coefficients of two rising segments. The last condition keeps the base of the root from being
negative wherever the root applies. -/
structure Rises (c : Record ℝ) : Prop where
  p_pos : 0 < c.p
  a_gt : -1 < c.a
  knee_nonneg : 0 ≤ c.knee
  linear_pos : 0 < c.linear
  joint_add_nonneg : 0 ≤ c.joint + c.a

theorem encode_eq (c : Record ℝ) (l : ℝ) :
    c.encode l = if l < c.knee then l * c.linear else c.power l := rfl

section Rising

variable {c : Record ℝ} {l m u v x y : ℝ}

/-- The derived record breaks where the straight segment ends. -/
theorem Rises.decoding_eq (h : c.Rises) :
    c.decoding = { c with p := 1 / c.p, knee := c.joint } := by
  have hzero : c.isZero = false := by
    simp [isZero, h.linear_pos.ne']
  simp only [decoding, hzero]
  rfl

theorem Rises.decode_eq (h : c.Rises) (v : ℝ) :
    c.decoding.decode v = if v < c.joint then v / c.linear else c.root v := by
  rw [h.decoding_eq]
  rfl

theorem Rises.one_add_pos (h : c.Rises) : 0 < 1 + c.a := by
  linarith [h.a_gt]

/-- Above the joint the root applies to a base that is not negative. -/
theorem Rises.add_nonneg_of_joint_le (h : c.Rises) (hv : c.joint ≤ v) : 0 ≤ v + c.a := by
  linarith [h.joint_add_nonneg]

/-- The power segment takes values whose root exists. -/
theorem Rises.power_add_nonneg (h : c.Rises) (hl : 0 ≤ l) : 0 ≤ c.power l + c.a := by
  rw [power, sub_add_cancel]
  exact mul_nonneg h.one_add_pos.le (Real.rpow_nonneg hl _)

theorem Rises.root_nonneg (h : c.Rises) (hv : 0 ≤ v + c.a) : 0 ≤ c.root v :=
  Real.rpow_nonneg (div_nonneg hv h.one_add_pos.le) _

/-! ### Power and root -/

/-- The root undoes the power. -/
theorem Rises.root_power (h : c.Rises) (hl : 0 ≤ l) : c.root (c.power l) = l := by
  rw [root, power, sub_add_cancel, mul_div_cancel_left₀ _ h.one_add_pos.ne', one_div,
    Real.rpow_rpow_inv hl h.p_pos.ne']

/-- The power undoes the root. -/
theorem Rises.power_root (h : c.Rises) (hv : 0 ≤ v + c.a) : c.power (c.root v) = v := by
  rw [power, root, one_div, Real.rpow_inv_rpow (div_nonneg hv h.one_add_pos.le) h.p_pos.ne',
    mul_div_cancel₀ _ h.one_add_pos.ne', add_sub_cancel_right]

theorem Rises.power_le_power_iff (h : c.Rises) (hl : 0 ≤ l) (hm : 0 ≤ m) :
    c.power l ≤ c.power m ↔ l ≤ m := by
  rw [power, power, sub_le_sub_iff_right, mul_le_mul_iff_right₀ h.one_add_pos,
    Real.rpow_le_rpow_iff hl hm h.p_pos]

/-- **The two axes compare alike.** -/
theorem Rises.power_le_iff (h : c.Rises) (hl : 0 ≤ l) (hv : 0 ≤ v + c.a) :
    c.power l ≤ v ↔ l ≤ c.root v := by
  rw [← h.power_le_power_iff hl (h.root_nonneg hv), h.power_root hv]

theorem Rises.lt_power_iff (h : c.Rises) (hl : 0 ≤ l) (hv : 0 ≤ v + c.a) :
    v < c.power l ↔ c.root v < l := by
  rw [← not_le, ← not_le, h.power_le_iff hl hv]

theorem Rises.root_le_root (h : c.Rises) (hu : 0 ≤ u + c.a) (huv : u ≤ v) :
    c.root u ≤ c.root v := by
  have hv : 0 ≤ v + c.a := by linarith
  rwa [← h.power_le_iff (h.root_nonneg hu) hv, h.power_root hu]

section RationalExponent

variable {i n : ℕ}

/-- For a rational exponent a power of the value is a power of the argument. -/
theorem Rises.pow_scaled_power (h : c.Rises) (hn : n ≠ 0) (hp : c.p = i / n) (hl : 0 ≤ l) :
    ((c.power l + c.a) / (1 + c.a)) ^ n = l ^ i := by
  rw [power, sub_add_cancel, mul_div_cancel_left₀ _ h.one_add_pos.ne', ← Real.rpow_natCast,
    ← Real.rpow_mul hl, hp, div_mul_cancel₀ _ (Nat.cast_ne_zero.mpr hn), Real.rpow_natCast]

/-- For a rational exponent the comparison is one of natural powers. -/
theorem Rises.power_le_iff_pow (h : c.Rises) (hn : n ≠ 0) (hp : c.p = i / n) (hl : 0 ≤ l)
    (hv : 0 ≤ v + c.a) : c.power l ≤ v ↔ l ^ i ≤ ((v + c.a) / (1 + c.a)) ^ n := by
  have hone := h.one_add_pos
  rw [← h.pow_scaled_power hn hp hl, pow_le_pow_iff_left₀
    (div_nonneg (h.power_add_nonneg hl) hone.le) (div_nonneg hv hone.le) hn,
    div_le_div_iff_of_pos_right hone, add_le_add_iff_right]

theorem Rises.power_lt_iff_pow (h : c.Rises) (hn : n ≠ 0) (hp : c.p = i / n) (hl : 0 ≤ l)
    (hv : 0 ≤ v + c.a) : c.power l < v ↔ l ^ i < ((v + c.a) / (1 + c.a)) ^ n := by
  have hone := h.one_add_pos
  rw [← h.pow_scaled_power hn hp hl, pow_lt_pow_iff_left₀
    (div_nonneg (h.power_add_nonneg hl) hone.le) (div_nonneg hv hone.le) hn,
    div_lt_div_iff_of_pos_right hone, add_lt_add_iff_right]

end RationalExponent

/-! ### Order -/

/-- **Encoding reverses a pair** exactly if it straddles the knee and the power segment at the one
is below the straight segment at the other. -/
theorem Rises.encode_lt_encode_iff (h : c.Rises) (hxy : x ≤ y) :
    c.encode y < c.encode x ↔ x < c.knee ∧ c.knee ≤ y ∧ c.power y < x * c.linear := by
  rw [encode_eq, encode_eq]
  refine ite_lt_ite_iff (f := (· * c.linear)) hxy
    (mul_le_mul_of_nonneg_right hxy h.linear_pos.le) ?_
  intro hx
  have hx' := h.knee_nonneg.trans hx
  exact (h.power_le_power_iff hx' (hx'.trans hxy)).mpr hxy

/-- **Decoding reverses a pair** exactly if it straddles the joint and the root at the one is below
the straight segment at the other. -/
theorem Rises.decode_lt_decode_iff (h : c.Rises) (hxy : x ≤ y) :
    c.decoding.decode y < c.decoding.decode x ↔
      x < c.joint ∧ c.joint ≤ y ∧ c.root y < x / c.linear := by
  rw [h.decode_eq, h.decode_eq]
  refine ite_lt_ite_iff (f := (· / c.linear)) hxy
    (div_le_div_of_nonneg_right hxy h.linear_pos.le) ?_
  intro hx
  exact h.root_le_root (h.add_nonneg_of_joint_le hx) hxy

/-- Encoding falls back by no more than the power segment starts below the joint. -/
theorem Rises.encode_le_encode_add (h : c.Rises) (hxy : x ≤ y) {δ : ℝ} (hδ : 0 ≤ δ)
    (hstep : c.joint ≤ c.power c.knee + δ) : c.encode x ≤ c.encode y + δ := by
  by_contra! hfall
  obtain ⟨hx, hy, -⟩ := (h.encode_lt_encode_iff hxy).mp (by linarith)
  have hstraight : x * c.linear ≤ c.joint := mul_le_mul_of_nonneg_right hx.le h.linear_pos.le
  have hpower : c.power c.knee ≤ c.power y :=
    (h.power_le_power_iff h.knee_nonneg (h.knee_nonneg.trans hy)).mpr hy
  rw [encode_eq, encode_eq, if_neg hy.not_gt, if_pos hx] at hfall
  linarith

/-- Decoding falls back by no more than the root starts below the knee. -/
theorem Rises.decode_le_decode_add (h : c.Rises) (hxy : x ≤ y) {δ : ℝ} (hδ : 0 ≤ δ)
    (hstep : c.knee ≤ c.root c.joint + δ) :
    c.decoding.decode x ≤ c.decoding.decode y + δ := by
  by_contra! hfall
  obtain ⟨hx, hy, -⟩ := (h.decode_lt_decode_iff hxy).mp (by linarith)
  have hstraight : x / c.linear ≤ c.knee := (div_le_iff₀ h.linear_pos).mpr hx.le
  have hroot : c.root c.joint ≤ c.root y := h.root_le_root h.joint_add_nonneg hy
  rw [h.decode_eq, h.decode_eq, if_neg hy.not_gt, if_pos hx] at hfall
  linarith

/-- A pair that encoding reverses lies close to the knee. -/
theorem Rises.mem_of_encode_lt_encode (h : c.Rises) (hxy : x ≤ y)
    (hfall : c.encode y < c.encode x) :
    x ∈ Set.Ioo (c.power c.knee / c.linear) c.knee ∧ y ∈ Set.Ico c.knee (c.root c.joint) := by
  obtain ⟨hx, hy, hlt⟩ := (h.encode_lt_encode_iff hxy).mp hfall
  have hy0 := h.knee_nonneg.trans hy
  have hpower := (h.power_le_power_iff h.knee_nonneg hy0).mpr hy
  have hstraight : x * c.linear < c.joint := mul_lt_mul_of_pos_right hx h.linear_pos
  refine ⟨⟨(div_lt_iff₀ h.linear_pos).mpr (hpower.trans_lt hlt), hx⟩, hy, ?_⟩
  -- the power at `y` is below the joint, hence `y` below the root there
  refine lt_of_not_ge fun hge => ?_
  have hle := (h.power_le_power_iff (h.root_nonneg h.joint_add_nonneg) hy0).mpr hge
  rw [h.power_root h.joint_add_nonneg] at hle
  linarith

/-- A pair that decoding reverses lies close to the joint. -/
theorem Rises.mem_of_decode_lt_decode (h : c.Rises) (hxy : x ≤ y)
    (hfall : c.decoding.decode y < c.decoding.decode x) :
    x ∈ Set.Ioo (c.root c.joint * c.linear) c.joint ∧
      y ∈ Set.Ico c.joint (c.power c.knee) := by
  obtain ⟨hx, hy, hlt⟩ := (h.decode_lt_decode_iff hxy).mp hfall
  have hroot := h.root_le_root h.joint_add_nonneg hy
  have hstraight : x / c.linear < c.knee := (div_lt_iff₀ h.linear_pos).mpr hx
  refine ⟨⟨(lt_div_iff₀ h.linear_pos).mp (hroot.trans_lt hlt), hx⟩, hy, ?_⟩
  exact (h.lt_power_iff h.knee_nonneg (h.add_nonneg_of_joint_le hy)).mpr (hlt.trans hstraight)

/-! ### Encoding what was decoded -/

/-- **Away from the break encoding undoes decoding**: the value is below the joint, or above both
ends that meet there. -/
theorem Rises.encode_decode (h : c.Rises) (hv : v < c.joint ∨ (c.joint ≤ v ∧ c.power c.knee ≤ v)) :
    c.encode (c.decoding.decode v) = v := by
  rw [h.decode_eq, encode_eq]
  rcases hv with hv | ⟨hv, hknee⟩
  · rw [if_pos hv, if_pos ((div_lt_iff₀ h.linear_pos).mpr hv), div_mul_cancel₀ _ h.linear_pos.ne']
  · have hbase := h.add_nonneg_of_joint_le hv
    have hroot : c.knee ≤ c.root v := (h.power_le_iff h.knee_nonneg hbase).mp hknee
    rw [if_neg hv.not_gt, if_neg hroot.not_gt, h.power_root hbase]

/-- Where the power segment does not start above the joint, encoding undoes decoding everywhere. -/
theorem Rises.encode_decode_of_power_le (h : c.Rises) (hle : c.power c.knee ≤ c.joint) (v : ℝ) :
    c.encode (c.decoding.decode v) = v := by
  refine h.encode_decode ?_
  rcases lt_or_ge v c.joint with hv | hv
  · exact .inl hv
  · exact .inr ⟨hv, hle.trans hv⟩

/-- Between the two ends what was decoded as power is encoded as straight, and comes out lower. -/
theorem Rises.encode_decode_between (h : c.Rises) (hv : c.joint ≤ v) (hknee : v < c.power c.knee) :
    c.encode (c.decoding.decode v) ∈ Set.Ico (c.root c.joint * c.linear) c.joint := by
  have hroot : c.root v < c.knee :=
    (h.lt_power_iff h.knee_nonneg (h.add_nonneg_of_joint_le hv)).mp hknee
  rw [h.decode_eq, if_neg hv.not_gt, encode_eq, if_pos hroot]
  exact ⟨mul_le_mul_of_nonneg_right (h.root_le_root h.joint_add_nonneg hv) h.linear_pos.le,
    mul_lt_mul_of_pos_right hroot h.linear_pos⟩

end Rising

end Record

end Colorimetry.Transfer
