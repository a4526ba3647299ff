import Mathlib
import Colorimetry.Colorspace.Conversion
import Colorimetry.Proofs.Binary32.Finiteness
import Colorimetry.Proofs.Binary32.Unrounded
import Colorimetry.YCbCr

/-!
# Steps that do nothing

Over an exact field the identity is neutral because sums with zeros and products with ones and zeros
are what they are. In binary32 this takes a finite matrix: a product of zero with an infinity is not a
number, and one such entry spoils its row or its column. On finite entries all of it holds, and holds
exactly, for each entry of a product with the identity is a sum of five terms of which all but one are
zeros (`related_identity_mul`, `related_mul_identity`). What may change is the sign of a zero, which
no comparison sees.

So the last step of a conversion without a scale leaves the conversion alone, and so does the offset
of luma at full range. Both are taken whether or not they are needed (`identity_steps_change_nothing`).
-/

namespace Colorimetry

/-! ### A conversion before it is scaled -/

/-- From linear RGB of one colorspace to linear RGB of another: the links alone. -/
def unscaledConversion {α : Type} [Arithmetic α] (dst src : Colorspace α) (cone : ConeResponse) :
    Except (Singular α) (Mat4 α) := do
  let toXyz ← src.toXyzMatrix
  let back ← cone.toXyz
  let ofXyz ← dst.ofXyzMatrix
  return (((toXyz.andThen cone.toLms).andThen (catMatrix dst src cone)).andThen back).andThen ofXyz

/-- The scale is the last step of a conversion. -/
theorem cscMatrixWith_eq_map_unscaledConversion {α : Type} [Arithmetic α] (dst src : Colorspace α)
    (s : α) (cone : ConeResponse) :
    cscMatrixWith dst src s cone =
      (unscaledConversion dst src cone).map fun m => m.andScale s s s := by
  rw [cscMatrixWith, unscaledConversion]
  cases src.toXyzMatrix with
  | error e => rfl
  | ok toXyz =>
    cases (cone.toXyz : Except (Singular α) (Mat4 α)) with
    | error e => rfl
    | ok back => cases dst.ofXyzMatrix <;> rfl

namespace Binary32

/-! ### Products with the identity, without rounding -/

namespace Unrounded

section Sums

variable {a b c d : Unrounded} {q : ℚ}

/-- A sum of four has the value of its first term if the others are zeros, -/
theorem hasValue_sum_x (ha : HasValue a q) (hb : HasValue b 0) (hc : HasValue c 0)
    (hd : HasValue d 0) : HasValue (a + b + c + d) q :=
  ((ha.add_of_zero_right hb).add_of_zero_right hc).add_of_zero_right hd

/-- and that of its second one, -/
theorem hasValue_sum_y (ha : HasValue a 0) (hb : HasValue b q) (hc : HasValue c 0)
    (hd : HasValue d 0) : HasValue (a + b + c + d) q :=
  ((ha.add_of_zero_left hb).add_of_zero_right hc).add_of_zero_right hd

/-- of its third one, -/
theorem hasValue_sum_z (ha : HasValue a 0) (hb : HasValue b 0) (hc : HasValue c q)
    (hd : HasValue d 0) : HasValue (a + b + c + d) q :=
  ((ha.add_of_zero_right hb).add_of_zero_left hc).add_of_zero_right hd

/-- or of its last one. -/
theorem hasValue_sum_w (ha : HasValue a 0) (hb : HasValue b 0) (hc : HasValue c 0)
    (hd : HasValue d q) : HasValue (a + b + c + d) q :=
  ((ha.add_of_zero_right hb).add_of_zero_right hc).add_of_zero_left hd

end Sums

section Products

variable {v : Vec4 Unrounded} {q : Vec4 ℚ} {m : Mat4 Unrounded} {n : Mat4 ℚ}

/-- The image of a vector under the identity. -/
theorem related_identity_transform (h : Vec4.Related HasValue v q) :
    Vec4.Related HasValue ((Mat4.identity : Mat4 Unrounded).transform v) q := by
  have x0 := hasValue_zero.mul_of_zero_left h.x
  have y0 := hasValue_zero.mul_of_zero_left h.y
  have z0 := hasValue_zero.mul_of_zero_left h.z
  have w0 := hasValue_zero.mul_of_zero_left h.w
  exact ⟨hasValue_sum_x (hasValue_one.mul_of_one_left h.x) y0 z0 w0,
    hasValue_sum_y x0 (hasValue_one.mul_of_one_left h.y) z0 w0,
    hasValue_sum_z x0 y0 (hasValue_one.mul_of_one_left h.z) w0,
    hasValue_sum_w x0 y0 z0 (hasValue_one.mul_of_one_left h.w)⟩

/-- A column of a product with the identity on the left: the same sums, begun at negative zero. -/
theorem related_rowTimes_column (h : Vec4.Related HasValue v q) :
    Vec4.Related HasValue ⟨Vec4.dotFromZero ⟨1, 0, 0, 0⟩ v, Vec4.dotFromZero ⟨0, 1, 0, 0⟩ v,
      Vec4.dotFromZero ⟨0, 0, 1, 0⟩ v, Vec4.dotFromZero ⟨0, 0, 0, 1⟩ v⟩ q := by
  have x0 := hasValue_neg_zero.add_of_zero_left (hasValue_zero.mul_of_zero_left h.x)
  have x1 := hasValue_neg_zero.add_of_zero_left (hasValue_one.mul_of_one_left h.x)
  have y0 := hasValue_zero.mul_of_zero_left h.y
  have z0 := hasValue_zero.mul_of_zero_left h.z
  have w0 := hasValue_zero.mul_of_zero_left h.w
  exact ⟨hasValue_sum_x x1 y0 z0 w0,
    hasValue_sum_y x0 (hasValue_one.mul_of_one_left h.y) z0 w0,
    hasValue_sum_z x0 y0 (hasValue_one.mul_of_one_left h.z) w0,
    hasValue_sum_w x0 y0 z0 (hasValue_one.mul_of_one_left h.w)⟩

/-- A row of a product with the identity on the right. -/
theorem related_rowTimes_identity (h : Vec4.Related HasValue v q) :
    Vec4.Related HasValue (Mat4.rowTimes v (Mat4.identity : Mat4 Unrounded).transpose) q := by
  have x0 := hasValue_neg_zero.add_of_zero_left (h.x.mul_of_zero_right hasValue_zero)
  have x1 := hasValue_neg_zero.add_of_zero_left (h.x.mul_of_one_right hasValue_one)
  have y0 := h.y.mul_of_zero_right hasValue_zero
  have z0 := h.z.mul_of_zero_right hasValue_zero
  have w0 := h.w.mul_of_zero_right hasValue_zero
  exact ⟨hasValue_sum_x x1 y0 z0 w0,
    hasValue_sum_y x0 (h.y.mul_of_one_right hasValue_one) z0 w0,
    hasValue_sum_z x0 y0 (h.z.mul_of_one_right hasValue_one) w0,
    hasValue_sum_w x0 y0 z0 (h.w.mul_of_one_right hasValue_one)⟩

/-- **The identity is neutral on the left, without rounding**, -/
theorem related_identity_mul (h : Mat4.Related HasValue m n) :
    Mat4.Related HasValue (.identity * m) n := by
  have h0 := related_rowTimes_column h.transpose.row0
  have h1 := related_rowTimes_column h.transpose.row1
  have h2 := related_rowTimes_column h.transpose.row2
  have h3 := related_rowTimes_column h.transpose.row3
  exact ⟨⟨h0.x, h1.x, h2.x, h3.x⟩, ⟨h0.y, h1.y, h2.y, h3.y⟩, ⟨h0.z, h1.z, h2.z, h3.z⟩,
    ⟨h0.w, h1.w, h2.w, h3.w⟩⟩

/-- **and on the right.** -/
theorem related_mul_identity (h : Mat4.Related HasValue m n) :
    Mat4.Related HasValue (m * .identity) n :=
  ⟨related_rowTimes_identity h.row0, related_rowTimes_identity h.row1,
    related_rowTimes_identity h.row2, related_rowTimes_identity h.row3⟩

end Products

end Unrounded

end Binary32

/-! ### What is evaluated without rounding -/

open Binary32 (Unrounded value)
open Binary32.Unrounded (ofFloat Agrees HasValue agrees_ofFloat hasValue_ofFloat respects_agrees)

/-- A vector of floats as they are. -/
def Vec4.unrounded (v : Vec4 Float32) : Vec4 Unrounded :=
  ⟨ofFloat v.x, ofFloat v.y, ofFloat v.z, ofFloat v.w⟩

/-- A matrix of floats as they are. -/
def Mat4.unrounded (m : Mat4 Float32) : Mat4 Unrounded := m.map ofFloat

section Floats

variable {x y : Float32} {a : Unrounded} {q : ℚ}

/-- An evaluation without rounding comes to the float that binary32 computes, and both have the same
value. -/
theorem Binary32.Unrounded.HasValue.eq_ofFloat (ha : HasValue a q) (hx : Agrees x a) :
    a = ofFloat x ∧ value x = some q := by
  obtain ⟨y, rfl, hy⟩ := ha
  obtain rfl : y = x := hx y rfl
  exact ⟨rfl, hy⟩

/-- Floats of one value are equal. -/
theorem Binary32.beq_of_value (hx : value x = some q) (hy : value y = some q) :
    (x == y) = true := by
  obtain ⟨m, hm, rfl⟩ := Binary32.value_eq_some_iff.mp hx
  obtain ⟨n, hn, hmn⟩ := Binary32.value_eq_some_iff.mp hy
  rw [Binary32.beq_iff hm hn]
  have hpos : (2 ^ 149 : ℚ) ≠ 0 := by positivity
  exact_mod_cast ((div_left_inj' hpos).mp hmn).symm

end Floats

section Vectors

variable {u v : Vec4 Float32} {a : Vec4 Unrounded} {q : Vec4 ℚ}

theorem Vec4.related_unrounded (v : Vec4 Float32) : Vec4.Related Agrees v v.unrounded :=
  ⟨agrees_ofFloat _, agrees_ofFloat _, agrees_ofFloat _, agrees_ofFloat _⟩

/-- A vector without infinite or undefined components has values. -/
theorem Vec4.IsFinite.exists_related (h : v.IsFinite) :
    ∃ q, Vec4.Related HasValue v.unrounded q := by
  obtain ⟨x, hx⟩ := (Binary32.isFinite_iff v.x).mp h.x
  obtain ⟨y, hy⟩ := (Binary32.isFinite_iff v.y).mp h.y
  obtain ⟨z, hz⟩ := (Binary32.isFinite_iff v.z).mp h.z
  obtain ⟨w, hw⟩ := (Binary32.isFinite_iff v.w).mp h.w
  exact ⟨⟨x, y, z, w⟩, hasValue_ofFloat hx, hasValue_ofFloat hy, hasValue_ofFloat hz,
    hasValue_ofFloat hw⟩

/-- A vector that is computed without rounding, and one that has the same values. -/
theorem Vec4.eq_of_related (hu : Vec4.Related Agrees u a) (ha : Vec4.Related HasValue a q)
    (hv : Vec4.Related HasValue v.unrounded q) : a = u.unrounded ∧ (u == v) = true := by
  obtain ⟨hx, ux⟩ := ha.x.eq_ofFloat hu.x
  obtain ⟨hy, uy⟩ := ha.y.eq_ofFloat hu.y
  obtain ⟨hz, uz⟩ := ha.z.eq_ofFloat hu.z
  obtain ⟨hw, uw⟩ := ha.w.eq_ofFloat hu.w
  have vx := (hv.x.eq_ofFloat (agrees_ofFloat v.x)).2
  have vy := (hv.y.eq_ofFloat (agrees_ofFloat v.y)).2
  have vz := (hv.z.eq_ofFloat (agrees_ofFloat v.z)).2
  have vw := (hv.w.eq_ofFloat (agrees_ofFloat v.w)).2
  have hbeq : (u == v) = (u.x == v.x && (u.y == v.y && (u.z == v.z && u.w == v.w))) := rfl
  refine ⟨Vec4.ext hx hy hz hw, ?_⟩
  rw [hbeq, Binary32.beq_of_value ux vx, Binary32.beq_of_value uy vy,
    Binary32.beq_of_value uz vz, Binary32.beq_of_value uw vw]
  rfl

end Vectors

section Matrices

variable {m n : Mat4 Float32} {a : Mat4 Unrounded} {q : Mat4 ℚ}

theorem Mat4.related_unrounded (m : Mat4 Float32) : Mat4.Related Agrees m m.unrounded :=
  ⟨m.row0.related_unrounded, m.row1.related_unrounded, m.row2.related_unrounded,
    m.row3.related_unrounded⟩

/-- Matrices are compared row by row. -/
theorem Mat4.beq_eq (m n : Mat4 Float32) : (m == n) = (m.row0 == n.row0 &&
    (m.row1 == n.row1 && (m.row2 == n.row2 && m.row3 == n.row3))) := rfl

/-- A finite matrix has values. -/
theorem Mat4.exists_related_of_isFinite (h : m.isFinite = true) :
    ∃ q, Mat4.Related HasValue m.unrounded q := by
  have hrow {v : Vec4 Float32} (hv : v.toList.all Arithmetic.isFinite = true) : v.IsFinite := by
    simp only [Vec4.toList, List.all_cons, List.all_nil, Bool.and_true, Bool.and_eq_true] at hv
    exact ⟨hv.1, hv.2.1, hv.2.2.1, hv.2.2.2⟩
  obtain ⟨h0, h1, h2, h3⟩ := (Mat4.isFinite_iff m).mp h
  obtain ⟨q0, h0⟩ := (hrow h0).exists_related
  obtain ⟨q1, h1⟩ := (hrow h1).exists_related
  obtain ⟨q2, h2⟩ := (hrow h2).exists_related
  obtain ⟨q3, h3⟩ := (hrow h3).exists_related
  exact ⟨⟨q0, q1, q2, q3⟩, h0, h1, h2, h3⟩

/-- A matrix that is computed without rounding, and one that has the same values. -/
theorem Mat4.eq_of_related (hm : Mat4.Related Agrees m a) (ha : Mat4.Related HasValue a q)
    (hn : Mat4.Related HasValue n.unrounded q) : a = m.unrounded ∧ (m == n) = true := by
  obtain ⟨h0, e0⟩ := Vec4.eq_of_related hm.row0 ha.row0 hn.row0
  obtain ⟨h1, e1⟩ := Vec4.eq_of_related hm.row1 ha.row1 hn.row1
  obtain ⟨h2, e2⟩ := Vec4.eq_of_related hm.row2 ha.row2 hn.row2
  obtain ⟨h3, e3⟩ := Vec4.eq_of_related hm.row3 ha.row3 hn.row3
  refine ⟨Mat4.ext h0 h1 h2 h3, ?_⟩
  rw [Mat4.beq_eq, e0, e1, e2, e3]
  rfl

end Matrices

/-! ### Steps that do nothing -/

/-- **A step that leaves a matrix alone**: what it makes of it is equal to it, and nothing is rounded
on the way. -/
def Mat4.IsKeptBy (m : Mat4 Float32) (step : ∀ {α : Type} [Arithmetic α], Mat4 α → Mat4 α) :
    Prop :=
  (step m == m) = true ∧ step m.unrounded = (step m).unrounded

section Steps

variable {m : Mat4 Float32}

theorem related_identity : Mat4.Related Agrees .identity .identity :=
  .scaling respects_agrees respects_agrees.one respects_agrees.one respects_agrees.one

/-- The identity leaves a finite matrix alone on its left, -/
theorem Mat4.isKeptBy_identity_mul (hm : m.isFinite = true) :
    m.IsKeptBy fun n => .identity * n := by
  obtain ⟨q, hq⟩ := exists_related_of_isFinite hm
  exact (eq_of_related (related_identity.mul respects_agrees m.related_unrounded)
    (Unrounded.related_identity_mul hq) hq).symm

/-- and on its right, -/
theorem Mat4.isKeptBy_mul_identity (hm : m.isFinite = true) :
    m.IsKeptBy fun n => n * .identity := by
  obtain ⟨q, hq⟩ := exists_related_of_isFinite hm
  exact (eq_of_related (m.related_unrounded.mul respects_agrees related_identity)
    (Unrounded.related_mul_identity hq) hq).symm

/-- and a finite vector as well. -/
theorem Vec4.identity_transform_eq {v : Vec4 Float32} (hv : v.IsFinite) :
    (Mat4.identity.transform v == v) = true ∧
      Mat4.identity.transform v.unrounded = (Mat4.identity.transform v).unrounded := by
  obtain ⟨q, hq⟩ := hv.exists_related
  exact (eq_of_related (related_identity.transform respects_agrees v.related_unrounded)
    (Unrounded.related_identity_transform hq) hq).symm

/-- The row of an axis that has no offset is that of the identity, whatever the other offsets are. -/
theorem Mat4.row0_andOffset_zero (m : Mat4 Float32) (b c : Float32) :
    (m.andOffset 0 b c).row0 = (.identity * m).row0 := rfl

/-- Matrices that are equal have equal rows. -/
theorem Mat4.row0_beq {n : Mat4 Float32} (h : (n == m) = true) : (n.row0 == m.row0) = true := by
  rw [Mat4.beq_eq, Bool.and_eq_true] at h
  exact h.1

/-- **Steps that should do nothing do nothing in binary32**, to a finite matrix or a finite vector,
and nothing is rounded on the way: appending the identity, a factor of one or an offset of zero, and
multiplying by the identity on either side. So a conversion is not touched by its last step where the
scale is one, nor the row of luma by its offset where the range is full. -/
theorem identity_steps_change_nothing :
    (∀ m : Mat4 Float32, m.isFinite = true →
      (m.IsKeptBy fun n => n.andThen .identity) ∧ (m.IsKeptBy fun n => n.andScale 1 1 1) ∧
      (m.IsKeptBy fun n => n.andOffset 0 0 0) ∧ (m.IsKeptBy fun n => n * .identity) ∧
      (m.IsKeptBy fun n => .identity * n) ∧
      (∀ dst src cone, unscaledConversion dst src cone = .ok m →
        ∃ n, cscMatrixWith dst src 1 cone = .ok n ∧ (n == m) = true) ∧
      (∀ b c, ((m.andOffset 0 b c).row0 == m.row0) = true) ∧
      ∀ (e : ColorEncoding Float32) factor, e.unitMatrix = m →
        encodeMatrix e factor true = (m.andOffset 0 0.5 0.5).andScale factor factor factor) ∧
    ∀ v : Vec4 Float32, v.IsFinite → (Mat4.identity.transform v == v) = true ∧
      Mat4.identity.transform v.unrounded = (Mat4.identity.transform v).unrounded := by
  refine ⟨fun m hm => ?_, fun v hv => Vec4.identity_transform_eq hv⟩
  -- a factor of one and an offset of zero are the identity as they stand
  have hkept := Mat4.isKeptBy_identity_mul hm
  refine ⟨hkept, hkept, hkept, Mat4.isKeptBy_mul_identity hm, hkept, ?_, ?_, ?_⟩
  · intro dst src cone hunscaled
    refine ⟨m.andScale 1 1 1, ?_, hkept.1⟩
    rw [cscMatrixWith_eq_map_unscaledConversion, hunscaled]
    rfl
  · intro b c
    rw [Mat4.row0_andOffset_zero]
    exact Mat4.row0_beq hkept.1
  · rintro e factor rfl
    rfl

/-- A matrix of extremes: a negative zero, the least and the greatest values, and offsets. -/
theorem identity_steps_change_nothing_extremes :
    let m : Mat4 Float32 :=
      ⟨⟨-0, 1e-45, -3.4028235e38, 0.5⟩, ⟨0.1, -1e-45, 1.1754944e-38, -0⟩, ⟨3, -0, 3.4028235e38, 0⟩,
        ⟨0, 0, -0, 1⟩⟩
    m.isFinite = true ∧ m.row0.IsFinite ∧ (m.andScale 1 1 1 == m) = true ∧
    m.unrounded.andOffset 0 0 0 = (m.andOffset 0 0 0).unrounded ∧
    (m * .identity == m) = true ∧ (Mat4.identity.transform m.row0 == m.row0) = true := by
  intro m
  have hm : m.isFinite = true := by decide +kernel
  have hrow : m.row0.IsFinite :=
    ⟨by decide +kernel, by decide +kernel, by decide +kernel, by decide +kernel⟩
  obtain ⟨-, hscale, hoffset, hright, -⟩ := identity_steps_change_nothing.1 m hm
  exact ⟨hm, hrow, hscale.1, hoffset.2, hright.1, (identity_steps_change_nothing.2 m.row0 hrow).1⟩

/-- An infinity is enough to spoil a matrix. -/
example : let m : Mat4 Float32 := .scaling (1 / 0) 1 1
    (m.andScale 1 1 1 == m) = false := by decide +kernel

end Steps

end Colorimetry
