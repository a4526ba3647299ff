import Mathlib
import Colorimetry.Proofs.Exact.Inverse
import Colorimetry.YCbCr

/-!
# Decoding of luma and chroma

The matrix that decodes stored samples is never written down: it is the inverse of the one that
encodes them, found by cofactors. `ColorEncoding.decode` is the decoding as the standards print it,
and `ycbcrToRgbMatrix_spec` says that the two are the same map. The way there is short. The encoding
matrix in closed form (`rgbToYcbcrMatrix_eq`) takes a decoded sample back to where it came from
(`transform_decode`), which the inverse alone can undo; and its determinant
(`determinant_rgbToYcbcrMatrix`) vanishes only with the weight of green.
-/

namespace Colorimetry

variable {K : Type} [Field K]

/-! ### The standard -/

/-- The code value of black. -/
def lumaOffset (fullRange : Bool) : K := if fullRange then 0 else 16 / 255

/-- The code values from black to white. -/
def lumaSpan (fullRange : Bool) : K := if fullRange then 1 else 219 / 255

/-- The code values of a chroma difference. -/
def chromaSpan (fullRange : Bool) : K := if fullRange then 1 else 112 / 128

/-- The code values of luma. -/
def lumaRange [LinearOrder K] (fullRange : Bool) : Set K :=
  if fullRange then Set.Icc 0 1 else Set.Icc (16 / 255) (235 / 255)

/-- The code values of chroma, around a half. -/
def chromaRange [LinearOrder K] (fullRange : Bool) : Set K :=
  if fullRange then Set.Icc 0 1
  else Set.Icc (1 / 2 - 1 / 2 * (112 / 128)) (1 / 2 + 1 / 2 * (112 / 128))

theorem lumaSpan_ne_zero [CharZero K] (fullRange : Bool) : (lumaSpan fullRange : K) ≠ 0 := by
  cases fullRange <;> norm_num [lumaSpan]

theorem chromaSpan_ne_zero [CharZero K] (fullRange : Bool) : (chromaSpan fullRange : K) ≠ 0 := by
  cases fullRange <;> norm_num [chromaSpan]

variable [DecidableEq K]

/-- **The decoding of a stored sample**, as the standards print it: code values by the multiplier,
luma and chroma by the range, red and blue from their differences, and green as what remains of
luma. -/
def ColorEncoding.decode (e : ColorEncoding K) (multiplier : K) (fullRange : Bool) (v : Rgb K) :
    Rgb K :=
  let y := (multiplier * v.r - lumaOffset fullRange) / lumaSpan fullRange
  let cb := (multiplier * v.g - 1 / 2) / chromaSpan fullRange
  let cr := (multiplier * v.b - 1 / 2) / chromaSpan fullRange
  ⟨y + 2 * (1 - e.kr) * cr,
    y - 2 * e.kr * (1 - e.kr) / e.kg * cr - 2 * e.kb * (1 - e.kb) / e.kg * cb,
    y + 2 * (1 - e.kb) * cb⟩

/-- The difference of a channel and luma, in units of twice the weight of the other channels. -/
def chromaDifference (weight channel luma : K) : K := (channel - luma) / (2 * (1 - weight))

/-! ### The encoding matrix -/

section ClosedForm

variable [CharZero K]

/-- Luma and chroma, with fractions in place of decimals. -/
theorem unitMatrix_eq (e : ColorEncoding K) : e.unitMatrix =
    .linear e.kr e.kg e.kb
      (-e.kr / (2 * (1 - e.kb))) (-e.kg / (2 * (1 - e.kb))) (1 / 2)
      (1 / 2) (-e.kg / (2 * (1 - e.kr))) (-e.kb / (2 * (1 - e.kr))) := by
  have hhalf : (0.5 : K) = 1 / 2 := by norm_num
  have h (x y : K) : -(1 / 2) * x / y = -x / (2 * y) := by ring
  simp only [ColorEncoding.unitMatrix, hhalf, h]

/-- Both ranges by one chain of steps: full range is squeezed by one. -/
theorem encodeMatrix_eq (e : ColorEncoding K) (factor : K) (full : Bool) :
    encodeMatrix e factor full =
      ((e.unitMatrix.andScale (lumaSpan full) (chromaSpan full) (chromaSpan full)).andOffset
        (lumaOffset full) (1 / 2) (1 / 2)).andScale factor factor factor := by
  have hhalf : (0.5 : K) = 1 / 2 := by norm_num
  cases full
  · have h219 : (219.0 : K) = 219 := by norm_num
    have h255 : (255.0 : K) = 255 := by norm_num
    have h112 : (112.0 : K) = 112 := by norm_num
    have h128 : (128.0 : K) = 128 := by norm_num
    have h16 : (16.0 : K) = 16 := by norm_num
    simp only [encodeMatrix, hhalf, h219, h255, h112, h128, h16, lumaSpan, chromaSpan, lumaOffset,
      Bool.false_eq_true, if_false]
  · have hone : e.unitMatrix.andScale 1 1 1 = e.unitMatrix := one_mul e.unitMatrix
    simp only [encodeMatrix, hhalf, lumaSpan, chromaSpan, lumaOffset, if_true, hone]

/-- The encoding matrix in closed form. -/
theorem rgbToYcbcrMatrix_eq (e : ColorEncoding K) (k : K) (full : Bool) :
    rgbToYcbcrMatrix e k full =
      ⟨⟨lumaSpan full * e.kr / k, lumaSpan full * e.kg / k, lumaSpan full * e.kb / k,
          lumaOffset full / k⟩,
        ⟨chromaSpan full * (-e.kr / (2 * (1 - e.kb))) / k,
          chromaSpan full * (-e.kg / (2 * (1 - e.kb))) / k, chromaSpan full / 2 / k, 1 / 2 / k⟩,
        ⟨chromaSpan full / 2 / k, chromaSpan full * (-e.kg / (2 * (1 - e.kr))) / k,
          chromaSpan full * (-e.kb / (2 * (1 - e.kr))) / k, 1 / 2 / k⟩,
        ⟨0, 0, 0, 1⟩⟩ := by
  have h (x : K) : 1 / k * x = x / k := one_div_mul_eq_div k x
  rw [rgbToYcbcrMatrix, encodeMatrix_eq, unitMatrix_eq]
  simp only [Mat4.andScale_eq, Mat4.andOffset_eq, Mat4.linear, h, mul_zero, add_zero, zero_add,
    mul_one]
  simp only [mul_one_div]

end ClosedForm

/-! ### Decoding undoes encoding -/

section Decoding

variable [CharZero K] {e : ColorEncoding K} {k : K}

/-- The determinant of the encoding matrix, without the divisions by the weights. -/
theorem determinant_rgbToYcbcrMatrix (hr : e.kr ≠ 1) (hb : e.kb ≠ 1) (full : Bool) :
    (rgbToYcbcrMatrix e k full).determinant * (4 * (1 - e.kr) * (1 - e.kb)) =
      lumaSpan full * chromaSpan full ^ 2 / k ^ 3 * e.kg := by
  have hr' : 1 - e.kr ≠ 0 := sub_ne_zero.mpr hr.symm
  have hb' : 1 - e.kb ≠ 0 := sub_ne_zero.mpr hb.symm
  have hkg : e.kg = 1 - e.kr - e.kb := rfl
  simp only [rgbToYcbcrMatrix_eq, Mat4.determinant, Vec4.dotByLanes, Mat4.cofactors,
    Mat4.transpose, hkg]
  field_simp
  ring

/-- The encoding matrix is singular exactly if green has no weight. -/
theorem determinant_rgbToYcbcrMatrix_eq_zero_iff (hr : e.kr ≠ 1) (hb : e.kb ≠ 1) (hk : k ≠ 0)
    (full : Bool) : (rgbToYcbcrMatrix e k full).determinant = 0 ↔ e.kg = 0 := by
  have hdet := determinant_rgbToYcbcrMatrix (k := k) hr hb full
  have hfour : (4 : K) ≠ 0 := by norm_num
  have hleft : 4 * (1 - e.kr) * (1 - e.kb) ≠ 0 :=
    mul_ne_zero (mul_ne_zero hfour (sub_ne_zero.mpr hr.symm)) (sub_ne_zero.mpr hb.symm)
  have hright : lumaSpan full * chromaSpan full ^ 2 / k ^ 3 ≠ 0 :=
    div_ne_zero (mul_ne_zero (lumaSpan_ne_zero full) (pow_ne_zero 2 (chromaSpan_ne_zero full)))
      (pow_ne_zero 3 hk)
  constructor
  · intro h
    rw [h, zero_mul] at hdet
    exact (mul_eq_zero.mp hdet.symm).resolve_left hright
  · intro h
    rw [h, mul_zero] at hdet
    exact (mul_eq_zero.mp hdet).resolve_right hleft

/-- Encoding takes a decoded sample back. -/
theorem transform_decode (hr : e.kr ≠ 1) (hb : e.kb ≠ 1) (hk : k ≠ 0) (hg : e.kg ≠ 0)
    (full : Bool) (v : Rgb K) :
    (rgbToYcbcrMatrix e k full).transform (.ofRgb (e.decode k full v)) = .ofRgb v := by
  have hr' : 1 - e.kr ≠ 0 := sub_ne_zero.mpr hr.symm
  have hb' : 1 - e.kb ≠ 0 := sub_ne_zero.mpr hb.symm
  have hluma := lumaSpan_ne_zero (K := K) full
  have hchroma := chromaSpan_ne_zero (K := K) full
  have hkg : e.kg = 1 - e.kr - e.kb := rfl
  have hkg' : 1 - e.kr - e.kb ≠ 0 := hg
  rw [rgbToYcbcrMatrix_eq]
  ext <;>
    simp only [Mat4.transform, Vec4.dot, Vec4.ofRgb, Vec4.point, ColorEncoding.decode, hkg]
  case x | y | z =>
    field_simp
    ring
  case w => simp

/-- Where green has a weight the decoding matrix exists, undoes encoding, and is the decoding of the
standard. -/
theorem exists_ycbcrToRgbMatrix (hr : e.kr ≠ 1) (hb : e.kb ≠ 1) (hk : k ≠ 0) (hg : e.kg ≠ 0)
    (full : Bool) :
    ∃ d, ycbcrToRgbMatrix e k full = .ok d ∧ d * rgbToYcbcrMatrix e k full = 1 ∧
      ∀ v, d.transform (.ofRgb v) = .ofRgb (e.decode k full v) := by
  have hdet := determinant_rgbToYcbcrMatrix_eq_zero_iff hr hb hk full
  obtain ⟨d, hok, hinv⟩ := Mat4.exists_requireInverse_eq_ok e.name (hdet.not.mpr hg)
  refine ⟨d, hok, hinv, ?_⟩
  intro v
  calc d.transform (.ofRgb v)
      = d.transform ((rgbToYcbcrMatrix e k full).transform (.ofRgb (e.decode k full v))) := by
        rw [transform_decode hr hb hk hg]
    _ = .ofRgb (e.decode k full v) := by
        rw [← Mat4.transform_mul, hinv, Mat4.transform_one]

/-- **Decoding is the decoding of the standard**, and the inverse of encoding on both sides. It is
refused exactly where luma leaves nothing to green. -/
theorem ycbcrToRgbMatrix_spec (hr : e.kr ≠ 1) (hb : e.kb ≠ 1) (hk : k ≠ 0) (full : Bool) :
    (ycbcrToRgbMatrix e k full = .error ⟨e.name, rgbToYcbcrMatrix e k full⟩ ↔ e.kg = 0) ∧
    (e.kg ≠ 0 → ∃ d, ycbcrToRgbMatrix e k full = .ok d ∧
      d * rgbToYcbcrMatrix e k full = .identity ∧ rgbToYcbcrMatrix e k full * d = .identity ∧
      ∀ v, d.transform (.ofRgb v) = .ofRgb (e.decode k full v)) := by
  have hdet := determinant_rgbToYcbcrMatrix_eq_zero_iff hr hb hk full
  refine ⟨Mat4.requireInverse_eq_error_iff.trans hdet, ?_⟩
  intro hg
  obtain ⟨d, hok, hinv, hdecode⟩ := exists_ycbcrToRgbMatrix hr hb hk hg full
  exact ⟨d, hok, hinv, Mat4.mul_eq_one_of_mul_eq_one hinv, hdecode⟩

/-- BT.601 at studio range, samples of eight bits in sixteen. -/
theorem ycbcrToRgbMatrix_spec_bt601 :
    (ycbcrToRgbMatrix (.bt601 : ColorEncoding ℚ) 257 false =
        .error ⟨"BT.601", rgbToYcbcrMatrix .bt601 257 false⟩ ↔
      (.bt601 : ColorEncoding ℚ).kg = 0) ∧
    ((.bt601 : ColorEncoding ℚ).kg ≠ 0 →
      ∃ d, ycbcrToRgbMatrix (.bt601 : ColorEncoding ℚ) 257 false = .ok d ∧
        d * rgbToYcbcrMatrix .bt601 257 false = .identity ∧
        rgbToYcbcrMatrix .bt601 257 false * d = .identity ∧
        ∀ v, d.transform (.ofRgb v) = .ofRgb (ColorEncoding.bt601.decode 257 false v)) :=
  ycbcrToRgbMatrix_spec (by norm_num [ColorEncoding.bt601]) (by norm_num [ColorEncoding.bt601])
    (by norm_num) false

end Decoding

end Colorimetry
