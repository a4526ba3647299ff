import Mathlib
import Colorimetry.Proofs.Exact.Chain
import Colorimetry.Proofs.Exact.Decoding

/-!
# The range of code values

Which code values do colours have? Luma is a mean of the three channels (`ColorEncoding.luma`), so it
goes from zero to one; a chroma difference is that of a channel and a mean that contains it, divided by
twice the weight of the other two (`chromaDifference`), so it goes from minus a half to a half. Both
ends are reached, the one by black and white and the other by a channel alone and the other two
together, and everything between them is reached on the way.

The encoding matrix adds three steps to that, which are the same for all weights: the squeeze into the
range, the offsets, and the multiplier, which the reader of a stored sample takes back
(`codeValue_eq`). So the code values of the unit cube are the image of an interval under an affine map,
with the ends that the standards print (`codeValues_fill_range`), and not an interval that merely holds
them.
-/

namespace Colorimetry

/-! ### Luma and differences of chroma -/

section Formulas

variable {K : Type} [Field K] [DecidableEq K]

/-- **Luma**: the mean of the channels by their weights. -/
def ColorEncoding.luma (e : ColorEncoding K) (v : Rgb K) : K :=
  e.kr * v.r + e.kg * v.g + e.kb * v.b

/-- **The code values of a colour**: what is stored of it, times the multiplier. -/
def codeValue (e : ColorEncoding K) (multiplier : K) (fullRange : Bool) (v : Rgb K) : Rgb K :=
  ((rgbToYcbcrMatrix e multiplier fullRange).convertRgb v).map (multiplier * ·)

/-- The weights add up to one. -/
theorem ColorEncoding.kg_add (e : ColorEncoding K) : e.kr + e.kg + e.kb = 1 := by
  rw [kg]
  ring

/-- Luma of a gray is the gray. -/
theorem luma_gray (e : ColorEncoding K) (t : K) : e.luma (.gray t) = t := by
  calc e.kr * t + e.kg * t + e.kb * t = (e.kr + e.kg + e.kb) * t := by ring
    _ = t := by rw [e.kg_add, one_mul]

/-- Grays have no chroma, with whatever weights. -/
theorem chromaDifference_gray (e : ColorEncoding K) (weight t : K) :
    chromaDifference weight t (e.luma (.gray t)) = 0 := by
  rw [chromaDifference, luma_gray, sub_self, zero_div]

section Characteristic

variable [CharZero K] {e : ColorEncoding K}

/-- The steps behind the unit matrix: range, offsets, factor. -/
theorem encodeMatrix_eq_appendAll (e : ColorEncoding K) (factor : K) (full : Bool) :
    encodeMatrix e factor full = e.unitMatrix.appendAll
      [.scale (lumaSpan full) (chromaSpan full) (chromaSpan full),
        .offset (lumaOffset full) (1 / 2) (1 / 2), .scale factor factor factor] :=
  encodeMatrix_eq e factor full

/-- The unit matrix makes luma and the two differences of a colour. -/
theorem unitMatrix_transform (hr : e.kr ≠ 1) (hb : e.kb ≠ 1) (v : Rgb K) :
    e.unitMatrix.transform (.ofRgb v) = .point (e.luma v)
      (chromaDifference e.kb v.b (e.luma v)) (chromaDifference e.kr v.r (e.luma v)) := by
  have hr' : 1 - e.kr ≠ 0 := sub_ne_zero.mpr hr.symm
  have hb' : 1 - e.kb ≠ 0 := sub_ne_zero.mpr hb.symm
  rw [unitMatrix_eq]
  ext <;> simp only [Mat4.transform, Mat4.linear, Vec4.dot, Vec4.ofRgb, Vec4.point,
    chromaDifference, ColorEncoding.luma]
  case x | w => ring
  case y | z =>
    field_simp
    ring

/-- **Code values by range**: luma and the differences of chroma, squeezed and moved. The multiplier
is gone. -/
theorem codeValue_eq (hr : e.kr ≠ 1) (hb : e.kb ≠ 1) {k : K} (hk : k ≠ 0) (full : Bool)
    (v : Rgb K) : codeValue e k full v =
      ⟨lumaSpan full * e.luma v + lumaOffset full,
        chromaSpan full * chromaDifference e.kb v.b (e.luma v) + 1 / 2,
        chromaSpan full * chromaDifference e.kr v.r (e.luma v) + 1 / 2⟩ := by
  have hstored (x : K) : k * (1 / k * x) = x := by rw [← mul_assoc, mul_one_div_cancel hk, one_mul]
  rw [codeValue, Mat4.convertRgb, rgbToYcbcrMatrix, encodeMatrix_eq_appendAll,
    Mat4.transform_appendAll, unitMatrix_transform hr hb]
  simp only [Mat4.actAll, List.foldl_cons, List.foldl_nil, Mat4.Step.act, Vec4.point,
    Vec4.xyz, Rgb.map, hstored, mul_one]

end Characteristic

end Formulas

/-! ### Ranges -/

section Ranges

variable {K : Type} [Field K] [LinearOrder K] [IsStrictOrderedRing K]

/-- Studio luma is the unit interval squeezed and moved, -/
theorem image_Icc_eq_lumaRange (full : Bool) :
    (fun x : K => lumaSpan full * x + lumaOffset full) '' Set.Icc 0 1 = lumaRange full := by
  have hspan : (0 : K) < lumaSpan full := by cases full <;> norm_num [lumaSpan]
  rw [Set.image_affine_Icc' hspan]
  cases full <;> norm_num [lumaRange, lumaSpan, lumaOffset]

/-- and so is studio chroma, which is even around a half. -/
theorem image_Icc_eq_chromaRange (full : Bool) :
    (fun x : K => chromaSpan full * x + 1 / 2) '' Set.Icc (-(1 / 2)) (1 / 2) =
      chromaRange full := by
  have hspan : (0 : K) < chromaSpan full := by cases full <;> norm_num [chromaSpan]
  rw [Set.image_affine_Icc' hspan]
  cases full <;> norm_num [chromaRange, chromaSpan]

/-! ### Means and differences on the cube -/

variable {a b c x y z : K}

/-- A mean of values between zero and one is between zero and one. -/
theorem mean_mem_Icc (ha : 0 ≤ a) (hb : 0 ≤ b) (hc : 0 ≤ c) (hsum : a + b + c = 1)
    (hx : 0 ≤ x ∧ x ≤ 1) (hy : 0 ≤ y ∧ y ≤ 1) (hz : 0 ≤ z ∧ z ≤ 1) :
    a * x + b * y + c * z ∈ Set.Icc 0 1 := by
  constructor
  · have := mul_nonneg ha hx.1
    have := mul_nonneg hb hy.1
    have := mul_nonneg hc hz.1
    linarith
  · have := mul_le_of_le_one_right ha hx.2
    have := mul_le_of_le_one_right hb hy.2
    have := mul_le_of_le_one_right hc hz.2
    linarith

/-- A value between zero and one differs from a mean of it and others by the weight of the others at
most. -/
theorem chromaDifference_mem_Icc (ha : a < 1) (hb : 0 ≤ b) (hc : 0 ≤ c) (hsum : a + b + c = 1)
    (hx : 0 ≤ x ∧ x ≤ 1) (hy : 0 ≤ y ∧ y ≤ 1) (hz : 0 ≤ z ∧ z ≤ 1) :
    chromaDifference a x (a * x + b * y + c * z) ∈ Set.Icc (-(1 / 2)) (1 / 2) := by
  have hpos : 0 < 2 * (1 - a) := by linarith
  have hown : 0 ≤ (1 - a) * x := mul_nonneg (by linarith) hx.1
  have hown' : (1 - a) * x ≤ 1 - a := mul_le_of_le_one_right (by linarith) hx.2
  have hby := mul_nonneg hb hy.1
  have hcz := mul_nonneg hc hz.1
  have hby' := mul_le_of_le_one_right hb hy.2
  have hcz' := mul_le_of_le_one_right hc hz.2
  rw [chromaDifference, Set.mem_Icc, le_div_iff₀ hpos, div_le_iff₀ hpos]
  constructor <;> linarith

/-- A value against two others that fall as it rises has every difference. -/
theorem chromaDifference_opposed (ha : a ≠ 1) (hsum : a + b + c = 1) (t : K) :
    chromaDifference a (1 / 2 + t) (a * (1 / 2 + t) + b * (1 / 2 - t) + c * (1 / 2 - t)) = t := by
  have hne : 1 - a ≠ 0 := sub_ne_zero.mpr ha.symm
  obtain rfl : c = 1 - a - b := by rw [← hsum]; ring
  rw [chromaDifference]
  field_simp
  ring

variable {e : ColorEncoding K}

/-- **Luma fills the unit interval**: each of its values is that of a gray. -/
theorem image_luma_unitCube (hr : 0 ≤ e.kr) (hg : 0 ≤ e.kg) (hb : 0 ≤ e.kb) :
    e.luma '' unitCube K = Set.Icc 0 1 := by
  refine Set.Subset.antisymm ?_ ?_
  · rintro _ ⟨v, ⟨hvr, hvg, hvb⟩, rfl⟩
    exact mean_mem_Icc hr hg hb e.kg_add hvr hvg hvb
  · intro t ht
    exact ⟨.gray t, gray_mem_unitCube ht.1 ht.2, luma_gray e t⟩

/-- **The difference of red fills the interval around zero**: from cyan, which has none of it, to red,
which has nothing else. -/
theorem image_chromaDifference_red (hr : e.kr < 1) (hg : 0 ≤ e.kg) (hb : 0 ≤ e.kb) :
    (fun v : Rgb K => chromaDifference e.kr v.r (e.luma v)) '' unitCube K =
      Set.Icc (-(1 / 2)) (1 / 2) := by
  refine Set.Subset.antisymm ?_ ?_
  · rintro _ ⟨v, ⟨hvr, hvg, hvb⟩, rfl⟩
    exact chromaDifference_mem_Icc hr hg hb e.kg_add hvr hvg hvb
  · rintro t ⟨hlow, hhigh⟩
    have hred : 0 ≤ 1 / 2 + t ∧ 1 / 2 + t ≤ 1 := ⟨by linarith, by linarith⟩
    have hcyan : 0 ≤ 1 / 2 - t ∧ 1 / 2 - t ≤ 1 := ⟨by linarith, by linarith⟩
    exact ⟨⟨1 / 2 + t, 1 / 2 - t, 1 / 2 - t⟩, ⟨hred, hcyan, hcyan⟩,
      chromaDifference_opposed hr.ne e.kg_add t⟩

/-- **The difference of blue fills it as well**, from yellow to blue. -/
theorem image_chromaDifference_blue (hr : 0 ≤ e.kr) (hg : 0 ≤ e.kg) (hb : e.kb < 1) :
    (fun v : Rgb K => chromaDifference e.kb v.b (e.luma v)) '' unitCube K =
      Set.Icc (-(1 / 2)) (1 / 2) := by
  have hsum : e.kb + e.kr + e.kg = 1 := by rw [← e.kg_add]; ring
  have hluma (v : Rgb K) : e.luma v = e.kb * v.b + e.kr * v.r + e.kg * v.g := by
    rw [ColorEncoding.luma]
    ring
  simp only [hluma]
  refine Set.Subset.antisymm ?_ ?_
  · rintro _ ⟨v, ⟨hvr, hvg, hvb⟩, rfl⟩
    exact chromaDifference_mem_Icc hb hr hg hsum hvb hvr hvg
  · rintro t ⟨hlow, hhigh⟩
    have hblue : 0 ≤ 1 / 2 + t ∧ 1 / 2 + t ≤ 1 := ⟨by linarith, by linarith⟩
    have hyellow : 0 ≤ 1 / 2 - t ∧ 1 / 2 - t ≤ 1 := ⟨by linarith, by linarith⟩
    exact ⟨⟨1 / 2 - t, 1 / 2 - t, 1 / 2 + t⟩, ⟨hyellow, hyellow, hblue⟩,
      chromaDifference_opposed hb.ne hsum t⟩

/-! ### The code values of colours -/

/-- Where green has a weight, only grays have no chroma. -/
theorem chromaDifferences_eq_zero_iff (hr : e.kr < 1) (hb : e.kb < 1) (hg : 0 < e.kg) (v : Rgb K) :
    chromaDifference e.kb v.b (e.luma v) = 0 ∧ chromaDifference e.kr v.r (e.luma v) = 0 ↔
      v.r = v.g ∧ v.g = v.b := by
  constructor
  · have hr' : 2 * (1 - e.kr) ≠ 0 := by linarith
    have hb' : 2 * (1 - e.kb) ≠ 0 := by linarith
    simp only [chromaDifference, div_eq_zero_iff, hr', hb', or_false, sub_eq_zero]
    rintro ⟨hblue, hred⟩
    -- red and blue are luma, so what luma has of green is the share of green in it
    have hgreen : e.kg * v.g = e.kg * e.luma v := by
      calc e.kg * v.g = e.luma v - e.kr * v.r - e.kb * v.b := by rw [ColorEncoding.luma]; ring
        _ = e.luma v - e.kr * e.luma v - e.kb * e.luma v := by rw [hred, hblue]
        _ = e.kg * e.luma v := by rw [ColorEncoding.kg]; ring
    have hluma : v.g = e.luma v := mul_left_cancel₀ hg.ne' hgreen
    exact ⟨hred.trans hluma.symm, hluma.trans hblue.symm⟩
  · rintro ⟨hrg, hgb⟩
    have hgray : v = .gray v.b := Rgb.ext (hrg.trans hgb) hgb rfl
    rw [hgray]
    exact ⟨chromaDifference_gray e _ _, chromaDifference_gray e _ _⟩

/-- A squeezed difference lies in the middle of its range if there is none. -/
theorem chromaSpan_mul_add_half_eq_half_iff (full : Bool) (x : K) :
    chromaSpan full * x + 1 / 2 = 1 / 2 ↔ x = 0 := by
  rw [add_eq_right, mul_eq_zero, or_iff_right (chromaSpan_ne_zero full)]

/-- **The code values of colours fill the range of their standard**, whatever the weights of luma and
whatever the multiplier: every colour has its code values there, and every value there is the code
value of a colour. Grays have both differences of chroma in the middle, and where green counts for
luma only grays do. -/
theorem codeValues_fill_range (hr : 0 ≤ e.kr) (hg : 0 ≤ e.kg) (hb : 0 ≤ e.kb) (hr' : e.kr < 1)
    (hb' : e.kb < 1) {k : K} (hk : 0 < k) (full : Bool) :
    (fun v => (codeValue e k full v).r) '' unitCube K = lumaRange full ∧
    (fun v => (codeValue e k full v).g) '' unitCube K = chromaRange full ∧
    (fun v => (codeValue e k full v).b) '' unitCube K = chromaRange full ∧
    (∀ t, (codeValue e k full (.gray t)).g = 1 / 2 ∧ (codeValue e k full (.gray t)).b = 1 / 2) ∧
    (0 < e.kg → ∀ v, (codeValue e k full v).g = 1 / 2 ∧ (codeValue e k full v).b = 1 / 2 ↔
      v.r = v.g ∧ v.g = v.b) := by
  have hcode := codeValue_eq (e := e) hr'.ne hb'.ne hk.ne' full
  refine ⟨?_, ?_, ?_, ?_, ?_⟩
  · rw [← image_Icc_eq_lumaRange, ← image_luma_unitCube hr hg hb, Set.image_image]
    simp only [hcode]
  · rw [← image_Icc_eq_chromaRange, ← image_chromaDifference_blue hr hg hb', Set.image_image]
    simp only [hcode]
  · rw [← image_Icc_eq_chromaRange, ← image_chromaDifference_red hr' hg hb, Set.image_image]
    simp only [hcode]
  · intro t
    simp only [hcode, Rgb.gray]
    exact ⟨(chromaSpan_mul_add_half_eq_half_iff full _).mpr (chromaDifference_gray e _ t),
      (chromaSpan_mul_add_half_eq_half_iff full _).mpr (chromaDifference_gray e _ t)⟩
  · intro hpos v
    simp only [hcode, chromaSpan_mul_add_half_eq_half_iff]
    exact chromaDifferences_eq_zero_iff hr' hb' hpos v

/-- BT.709 at studio range, samples of ten bits in sixteen. -/
theorem codeValues_fill_range_bt709 :
    let e : ColorEncoding ℚ := .bt709
    (0 ≤ e.kr ∧ 0 < e.kg ∧ 0 ≤ e.kb ∧ e.kr < 1 ∧ e.kb < 1 ∧ (0 : ℚ) < 65535 / 1023) ∧
    (fun v => (codeValue e (65535 / 1023) false v).r) '' unitCube ℚ =
      Set.Icc (16 / 255) (235 / 255) ∧
    (fun v => (codeValue e (65535 / 1023) false v).g) '' unitCube ℚ =
      Set.Icc (1 / 2 - 1 / 2 * (112 / 128)) (1 / 2 + 1 / 2 * (112 / 128)) ∧
    (codeValue e (65535 / 1023) false (.gray 1)).g = 1 / 2 ∧
    ∀ v, (codeValue e (65535 / 1023) false v).g = 1 / 2 ∧
      (codeValue e (65535 / 1023) false v).b = 1 / 2 ↔ v.r = v.g ∧ v.g = v.b := by
  intro e
  have hr : 0 ≤ e.kr ∧ e.kr < 1 := by norm_num [e, ColorEncoding.bt709]
  have hb : 0 ≤ e.kb ∧ e.kb < 1 := by norm_num [e, ColorEncoding.bt709]
  have hg : 0 < e.kg := by norm_num [e, ColorEncoding.bt709, ColorEncoding.kg]
  have hk : (0 : ℚ) < 65535 / 1023 := by norm_num
  obtain ⟨hluma, hblue, -, hgray, honly⟩ :=
    codeValues_fill_range hr.1 hg.le hb.1 hr.2 hb.2 hk false
  exact ⟨⟨hr.1, hg, hb.1, hr.2, hb.2, hk⟩, hluma, hblue, (hgray 1).1, honly hg⟩

end Ranges
end Colorimetry
