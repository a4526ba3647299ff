import Mathlib
import Colorimetry.Proofs.Exact.Scalar
import Colorimetry.Transfer.Pq

/-!
# The perceptual quantizer over the real numbers

Both directions of the quantizer are a fraction between two powers. The fraction of encoding
(`Pq.compress`) rises because `c1 * c3 < c2`. That of decoding (`Pq.expand`) has a denominator that
falls and vanishes a little above one, so it rises as far as the unit interval reaches, and there
the denominator is positive (`Pq.denominator_pos`).

The powers undo each other, so what one direction makes of the other is a matter of the fractions.
Without the cut-off at zero they would be inverse to each other. Light is never cut off, since its
fraction starts at `c1` (`Pq.expand_compress`), while a power of a signal below `c1` is taken for
`c1` (`Pq.compress_expand`). So **decoding undoes encoding, and encoding undoes decoding down to
encoded black**, the signal `c1 ^ m2` of no light. `Pq.IsQuantizer` is the whole of these laws, for
a scale on which white may have any luminance; that they hold of one scale carries over to every
other (`IsQuantizer.scale`).
-/

namespace Colorimetry.Transfer.Pq

/-! ### Fractions -/

/-- The fraction between the two powers of encoding. -/
noncomputable def compress (n : ℝ) : ℝ := (c1 + c2 * n) / (1 + c3 * n)

/-- The fraction between the two powers of decoding, cut off at zero. -/
noncomputable def expand (n : ℝ) : ℝ := max (n - c1) 0 / (c2 - c3 * n)

theorem encode_eq (l : ℝ) : encode l = compress (l ^ (m1 : ℝ)) ^ (m2 : ℝ) := rfl

theorem decode_eq (v : ℝ) : decode v = expand (v ^ (1 / m2 : ℝ)) ^ (1 / m1 : ℝ) := by
  simp only [decode, expand, larger_eq_max, pow_real]

/-! ### Constants -/

theorem m1_pos : (0 : ℝ) < m1 := by
  norm_num [m1]

theorem m2_pos : (0 : ℝ) < m2 := by
  norm_num [m2]

theorem c1_pos : (0 : ℝ) < c1 := by
  norm_num [c1]

theorem c2_pos : (0 : ℝ) < c2 := by
  norm_num [c2]

theorem c3_pos : (0 : ℝ) < c3 := by
  norm_num [c3]

/-- The determinant of the fractions is positive. -/
theorem c1_mul_c3_lt : (c1 * c3 : ℝ) < c2 := by
  norm_num [c1, c2, c3]

/-- White is one on both sides. -/
theorem c1_eq : (c1 : ℝ) = c3 - c2 + 1 := by
  norm_num [c1, c2, c3]

/-- For light the denominator of encoding is positive. -/
theorem encode_denominator_pos {n : ℝ} (hn : 0 ≤ n) : 0 < 1 + c3 * n := by
  linarith [mul_nonneg c3_pos.le hn]

/-- Up to one the denominator of decoding is positive. -/
theorem denominator_pos {n : ℝ} (hn : n ≤ 1) : 0 < c2 - c3 * n := by
  have hone : (0 : ℝ) < c2 - c3 := by norm_num [c2, c3]
  have hmul : c3 * n ≤ c3 * 1 := mul_le_mul_of_nonneg_left hn c3_pos.le
  linarith

/-! ### Order -/

section Order

variable {m n x y : ℝ}

theorem compress_nonneg (hn : 0 ≤ n) : 0 ≤ compress n :=
  div_nonneg (add_nonneg c1_pos.le (mul_nonneg c2_pos.le hn))
    (add_nonneg zero_le_one (mul_nonneg c3_pos.le hn))

theorem compress_le_compress (hm : 0 ≤ m) (hmn : m ≤ n) : compress m ≤ compress n := by
  rw [compress, compress,
    div_le_div_iff₀ (encode_denominator_pos hm) (encode_denominator_pos (hm.trans hmn))]
  -- the cross products differ by the determinant times the distance
  have hdet : 0 ≤ (c2 - c1 * c3) * (n - m) :=
    mul_nonneg (sub_nonneg.mpr c1_mul_c3_lt.le) (sub_nonneg.mpr hmn)
  linear_combination hdet

theorem expand_nonneg (hn : n ≤ 1) : 0 ≤ expand n :=
  div_nonneg (le_max_right _ _) (denominator_pos hn).le

theorem expand_le_expand (hmn : m ≤ n) (hn : n ≤ 1) : expand m ≤ expand n := by
  have hnumerator : max (m - c1) 0 ≤ max (n - c1) 0 :=
    max_le_max (sub_le_sub_right hmn _) le_rfl
  have hdenominator : c2 - c3 * n ≤ c2 - c3 * m :=
    sub_le_sub_left (mul_le_mul_of_nonneg_left hmn c3_pos.le) _
  exact div_le_div₀ (le_max_right _ _) hnumerator (denominator_pos hn) hdenominator

/-- **Encoding keeps the order of light.** -/
theorem encode_le_encode (hx : 0 ≤ x) (hxy : x ≤ y) : (encode x : ℝ) ≤ encode y := by
  have hpow : x ^ (m1 : ℝ) ≤ y ^ (m1 : ℝ) := Real.rpow_le_rpow hx hxy m1_pos.le
  have hbase : 0 ≤ x ^ (m1 : ℝ) := Real.rpow_nonneg hx _
  rw [encode_eq, encode_eq]
  exact Real.rpow_le_rpow (compress_nonneg hbase) (compress_le_compress hbase hpow) m2_pos.le

/-- **Decoding keeps the order of signals** up to one. -/
theorem decode_le_decode (hx : 0 ≤ x) (hxy : x ≤ y) (hy : y ≤ 1) : (decode x : ℝ) ≤ decode y := by
  have hexponent : (0 : ℝ) ≤ 1 / m2 := (one_div_pos.mpr m2_pos).le
  have hpow : x ^ (1 / m2 : ℝ) ≤ y ^ (1 / m2 : ℝ) := Real.rpow_le_rpow hx hxy hexponent
  have hone : y ^ (1 / m2 : ℝ) ≤ 1 := Real.rpow_le_one (hx.trans hxy) hy hexponent
  rw [decode_eq, decode_eq]
  exact Real.rpow_le_rpow (expand_nonneg (hpow.trans hone)) (expand_le_expand hpow hone)
    (one_div_pos.mpr m1_pos).le

end Order

/-! ### The fractions undo each other -/

section Fractions

variable {n : ℝ}

theorem compress_zero : compress 0 = c1 := by
  rw [compress, mul_zero, mul_zero, add_zero, add_zero, div_one]

theorem compress_one : compress 1 = 1 := by
  rw [compress, div_eq_one_iff_eq (encode_denominator_pos zero_le_one).ne', c1_eq]
  ring

theorem c1_le_compress (hn : 0 ≤ n) : c1 ≤ compress n := by
  rw [← compress_zero]
  exact compress_le_compress le_rfl hn

/-- Up to `c1` the difference is cut off. -/
theorem expand_of_le_c1 (hn : n ≤ c1) : expand n = 0 := by
  rw [expand, max_eq_right (sub_nonpos.mpr hn), zero_div]

/-- The numerator that decoding finds is a multiple of the determinant, -/
theorem compress_sub_c1 (hn : 0 ≤ n) :
    compress n - c1 = (c2 - c1 * c3) * n / (1 + c3 * n) := by
  have hpos := encode_denominator_pos hn
  rw [compress, eq_div_iff hpos.ne', sub_mul, div_mul_cancel₀ _ hpos.ne']
  ring

/-- and so is the denominator, -/
theorem sub_mul_compress (hn : 0 ≤ n) :
    c2 - c3 * compress n = (c2 - c1 * c3) / (1 + c3 * n) := by
  have hpos := encode_denominator_pos hn
  rw [compress, eq_div_iff hpos.ne', sub_mul, mul_assoc, div_mul_cancel₀ _ hpos.ne']
  ring

/-- which therefore is positive for all light, also for light above white. -/
theorem decode_denominator_pos (hn : 0 ≤ n) : 0 < c2 - c3 * compress n := by
  rw [sub_mul_compress hn]
  exact div_pos (sub_pos.mpr c1_mul_c3_lt) (encode_denominator_pos hn)

/-- **The fraction of decoding undoes that of encoding.** -/
theorem expand_compress (hn : 0 ≤ n) : expand (compress n) = n := by
  rw [expand, max_eq_left (sub_nonneg.mpr (c1_le_compress hn)), compress_sub_c1 hn,
    sub_mul_compress hn, div_div_div_cancel_right₀ (encode_denominator_pos hn).ne',
    mul_div_cancel_left₀ n (sub_pos.mpr c1_mul_c3_lt).ne']

/-- **The fraction of encoding undoes that of decoding**, apart from the cut-off. -/
theorem compress_expand (hn : n ≤ 1) : compress (expand n) = max n c1 := by
  rcases le_total n c1 with h | h
  · rw [expand_of_le_c1 h, compress_zero, max_eq_right h]
  · have hpos := denominator_pos hn
    -- again both parts of the fraction are multiples of the determinant
    have hnumerator : c1 + c2 * ((n - c1) / (c2 - c3 * n)) =
        (c2 - c1 * c3) * n / (c2 - c3 * n) := by
      rw [eq_div_iff hpos.ne', add_mul, mul_assoc, div_mul_cancel₀ _ hpos.ne']
      ring
    have hdenominator : 1 + c3 * ((n - c1) / (c2 - c3 * n)) =
        (c2 - c1 * c3) / (c2 - c3 * n) := by
      rw [eq_div_iff hpos.ne', add_mul, mul_assoc, div_mul_cancel₀ _ hpos.ne']
      ring
    rw [expand, max_eq_left (sub_nonneg.mpr h), max_eq_left h, compress, hnumerator,
      hdenominator, div_div_div_cancel_right₀ hpos.ne',
      mul_div_cancel_left₀ n (sub_pos.mpr c1_mul_c3_lt).ne']

end Fractions

/-! ### There and back -/

section RoundTrip

variable {l v : ℝ}

/-- The signal of no light. -/
theorem encode_zero : (encode 0 : ℝ) = c1 ^ (m2 : ℝ) := by
  rw [encode_eq, Real.zero_rpow m1_pos.ne', compress_zero]

theorem encode_one : (encode 1 : ℝ) = 1 := by
  rw [encode_eq, Real.one_rpow, compress_one, Real.one_rpow]

theorem encode_nonneg (hl : 0 ≤ l) : 0 ≤ encode l :=
  Real.rpow_nonneg (compress_nonneg (Real.rpow_nonneg hl _)) _

/-- The outer power of encoding is undone first when its signal is decoded. -/
theorem encode_rpow (hl : 0 ≤ l) : encode l ^ (1 / m2 : ℝ) = compress (l ^ (m1 : ℝ)) := by
  rw [encode_eq, one_div,
    Real.rpow_rpow_inv (compress_nonneg (Real.rpow_nonneg hl _)) m2_pos.ne']

theorem rpow_le_one (hv : 0 ≤ v) (hv' : v ≤ 1) : v ^ (1 / m2 : ℝ) ≤ 1 :=
  Real.rpow_le_one hv hv' (one_div_pos.mpr m2_pos).le

theorem decode_nonneg (hv : 0 ≤ v) (hv' : v ≤ 1) : 0 ≤ decode v := by
  rw [decode_eq]
  exact Real.rpow_nonneg (expand_nonneg (rpow_le_one hv hv')) _

/-- **Decoding undoes encoding.** -/
theorem decode_encode (hl : 0 ≤ l) : decode (encode l) = l := by
  rw [decode_eq, encode_rpow hl, expand_compress (Real.rpow_nonneg hl _), one_div,
    Real.rpow_rpow_inv hl m1_pos.ne']

/-- **Encoding undoes decoding down to encoded black.** -/
theorem encode_decode (hv : 0 ≤ v) (hv' : v ≤ 1) :
    encode (decode v) = max v (c1 ^ (m2 : ℝ)) := by
  have hone := rpow_le_one hv hv'
  have hmono : MonotoneOn (fun x : ℝ => x ^ (m2 : ℝ)) (Set.Ici 0) :=
    Real.monotoneOn_rpow_Ici_of_exponent_nonneg m2_pos.le
  have hmax := hmono.map_max (Real.rpow_nonneg hv (1 / m2)) c1_pos.le
  rw [encode_eq, decode_eq, one_div m1,
    Real.rpow_inv_rpow (expand_nonneg hone) m1_pos.ne', compress_expand hone]
  refine hmax.trans ?_
  rw [one_div, Real.rpow_inv_rpow hv m2_pos.ne']

theorem decode_one : (decode 1 : ℝ) = 1 := by
  rw [← encode_one, decode_encode zero_le_one, encode_one]

/-- **Exactly the signals up to encoded black decode to no light.** -/
theorem decode_eq_zero_iff (hv : 0 ≤ v) (hv' : v ≤ 1) :
    decode v = 0 ↔ v ≤ c1 ^ (m2 : ℝ) := by
  have hback := encode_decode hv hv'
  constructor
  · intro h
    rw [h, encode_zero] at hback
    exact hback ▸ le_max_left _ _
  · intro h
    rw [max_eq_right h, ← encode_zero] at hback
    rw [← decode_encode (decode_nonneg hv hv'), hback, decode_encode le_rfl]

end RoundTrip

/-! ### Black -/

/-- Encoded black is a little above zero. -/
theorem encode_zero_pos : (0 : ℝ) < encode 0 := by
  rw [encode_zero]
  exact Real.rpow_pos_of_pos c1_pos _

theorem decode_zero : (decode 0 : ℝ) = 0 :=
  (decode_eq_zero_iff le_rfl zero_le_one).mpr (Real.rpow_nonneg c1_pos.le _)

/-- Up to encoded black signals decode to zero. -/
theorem exists_decode_eq_zero : ∃ x : ℝ, 0 < x ∧ x ≤ 1 ∧ decode x = 0 := by
  have hle : (encode 0 : ℝ) ≤ 1 := (encode_le_encode le_rfl zero_le_one).trans_eq encode_one
  exact ⟨encode 0, encode_zero_pos, hle, decode_encode le_rfl⟩

/-! ### Scales -/

/-- **The laws of a quantizer** of light: decoding undoes encoding, encoding undoes decoding down to
encoded black, and the signals from zero to one are taken in order onto the light from none to
white, those up to encoded black and no others to none. -/
structure IsQuantizer (encode decode : ℝ → ℝ) (white black : ℝ) : Prop where
  decode_encode : ∀ l, 0 ≤ l → decode (encode l) = l
  encode_decode : ∀ v ∈ Set.Icc 0 1, encode (decode v) = max v black
  monotoneOn : MonotoneOn decode (Set.Icc 0 1)
  image_eq : decode '' Set.Icc 0 1 = Set.Icc 0 white
  decode_one : decode 1 = white
  decode_eq_zero_iff : ∀ v ∈ Set.Icc 0 1, decode v = 0 ↔ v ≤ black

/-- **The laws do not depend on the unit of light.** -/
theorem IsQuantizer.scale {f g : ℝ → ℝ} {white black k : ℝ} (h : IsQuantizer f g white black)
    (hk : 0 < k) : IsQuantizer (fun l => f (l / k)) (fun v => g v * k) (white * k) black where
  decode_encode l hl := by
    rw [h.decode_encode _ (div_nonneg hl hk.le), div_mul_cancel₀ l hk.ne']
  encode_decode v hv := by
    rw [mul_div_cancel_right₀ _ hk.ne', h.encode_decode v hv]
  monotoneOn _ hx _ hy hxy := mul_le_mul_of_nonneg_right (h.monotoneOn hx hy hxy) hk.le
  image_eq := by
    rw [← Set.image_image (· * k) g, h.image_eq, Set.image_mul_right_Icc' _ _ hk, zero_mul]
  decode_one := by rw [h.decode_one]
  decode_eq_zero_iff v hv := by
    rw [mul_eq_zero, or_iff_left hk.ne', h.decode_eq_zero_iff v hv]

theorem isQuantizer : IsQuantizer encode decode 1 (c1 ^ (m2 : ℝ)) where
  decode_encode _ := decode_encode
  encode_decode _ hv := encode_decode hv.1 hv.2
  monotoneOn _ hx _ hy hxy := decode_le_decode hx.1 hxy hy.2
  image_eq := by
    refine Set.Subset.antisymm ?_ ?_
    · rintro _ ⟨v, hv, rfl⟩
      exact ⟨decode_nonneg hv.1 hv.2, (decode_le_decode hv.1 hv.2 le_rfl).trans_eq decode_one⟩
    · intro l hl
      have hle := encode_le_encode hl.1 hl.2
      rw [encode_one] at hle
      exact ⟨encode l, ⟨encode_nonneg hl.1, hle⟩, decode_encode hl.1⟩
  decode_one := decode_one
  decode_eq_zero_iff _ hv := decode_eq_zero_iff hv.1 hv.2

theorem peak_pos : (0 : ℝ) < peak := by
  norm_num [peak]

/-- **The perceptual quantizer is a quantizer** of light relative to white and of luminances up to
its peak alike, with the same encoded black. No denominator vanishes: neither that of encoding for
any light, nor that of decoding for any signal up to one or of any light. -/
theorem isQuantizer_relative_and_nits :
    IsQuantizer encode decode 1 (c1 ^ (m2 : ℝ)) ∧
    IsQuantizer encodeNits decodeNits 10000 (c1 ^ (m2 : ℝ)) ∧
    (∀ l : ℝ, 0 ≤ l →
      0 < 1 + c3 * l ^ (m1 : ℝ) ∧ 0 < c2 - c3 * encode l ^ (1 / m2 : ℝ)) ∧
    ∀ v ∈ Set.Icc (0 : ℝ) 1, 0 < c2 - c3 * v ^ (1 / m2 : ℝ) := by
  have hpeak : (1 : ℝ) * peak = 10000 := by norm_num [peak]
  refine ⟨isQuantizer, ?_, ?_, ?_⟩
  · rw [← hpeak]
    exact isQuantizer.scale peak_pos
  · intro l hl
    have hn : 0 ≤ l ^ (m1 : ℝ) := Real.rpow_nonneg hl _
    rw [encode_rpow hl]
    exact ⟨encode_denominator_pos hn, decode_denominator_pos hn⟩
  · intro v hv
    exact denominator_pos (rpow_le_one hv.1 hv.2)

end Colorimetry.Transfer.Pq
