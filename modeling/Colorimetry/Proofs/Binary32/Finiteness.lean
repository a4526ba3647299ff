import Mathlib
import Colorimetry.Proofs.Binary32.Inversion

/-!
# Inversion of finite matrices only

The determinant is the one test that `Mat4.inverse?` makes of a matrix before it inverts it, and in
binary32 this test finds more than singular matrices. A sum, a difference or a product is finite
only if both operands are (`Arithmetic.Propagates`), whatever the other one is: an infinity is not
lost in a product with zero, and two of them do not cancel. Every entry of a matrix stands somewhere
in the expansion of its determinant, so a finite determinant is the determinant of a finite matrix
(`Mat4.isFinite_of_isFinite_determinant`).

The expansion is by the first column. Each entry of the other three columns stands in the first
cofactor or in the second one, of which the one leaves out the first row and the other one the
second row.
-/

namespace Colorimetry

/-- A vector of finite components. -/
structure Vec4.IsFinite {α : Type} [Arithmetic α] (v : Vec4 α) : Prop where
  x : Arithmetic.isFinite v.x = true
  y : Arithmetic.isFinite v.y = true
  z : Arithmetic.isFinite v.z = true
  w : Arithmetic.isFinite v.w = true

/-! ### The expansion of a determinant -/

section Expansion

variable {α : Type} [Arithmetic α]

open Arithmetic (isFinite Propagates)

theorem Vec4.IsFinite.all_toList {v : Vec4 α} (h : v.IsFinite) :
    v.toList.all isFinite = true := by
  simp [toList, h.x, h.y, h.z, h.w]

variable (hα : Propagates α)

include hα

/-- Both vectors of a finite sum of products are finite. -/
theorem Vec4.isFinite_of_dotByLanes {u v : Vec4 α} (h : isFinite (u.dotByLanes v) = true) :
    u.IsFinite ∧ v.IsFinite := by
  obtain ⟨heven, hodd⟩ := hα.add h
  obtain ⟨hx, hz⟩ := hα.add heven
  obtain ⟨hy, hw⟩ := hα.add hodd
  exact ⟨⟨(hα.mul hx).1, (hα.mul hy).1, (hα.mul hz).1, (hα.mul hw).1⟩,
    ⟨(hα.mul hx).2, (hα.mul hy).2, (hα.mul hz).2, (hα.mul hw).2⟩⟩

/-- The entries of a finite two-by-two minor are finite. -/
theorem isFinite_of_minor {a b c d : α} (h : isFinite (a * b - c * d) = true) :
    (isFinite a = true ∧ isFinite b = true) ∧ isFinite c = true ∧ isFinite d = true := by
  obtain ⟨hfirst, hsecond⟩ := hα.sub h
  exact ⟨hα.mul hfirst, hα.mul hsecond⟩

/-- A finite three-by-three minor is made of finite entries and finite two-by-two minors. -/
theorem isFinite_of_expand {a b c p q r : α} (h : isFinite ((a * p - b * q) + c * r) = true) :
    (isFinite a = true ∧ isFinite b = true ∧ isFinite c = true) ∧
      isFinite p = true ∧ isFinite q = true ∧ isFinite r = true := by
  obtain ⟨hpair, hthird⟩ := hα.add h
  obtain ⟨⟨ha, hp⟩, hb, hq⟩ := isFinite_of_minor hα hpair
  obtain ⟨hc, hr⟩ := hα.mul hthird
  exact ⟨⟨ha, hb, hc⟩, hp, hq, hr⟩

/-- **Where the cofactors of the first column are finite, the other three columns are.** -/
theorem Mat4.isFinite_of_cofactors {m : Mat4 α} (h : m.cofactors.IsFinite) :
    m.transpose.row1.IsFinite ∧ m.transpose.row2.IsFinite ∧ m.transpose.row3.IsFinite := by
  -- the first cofactor has the lower three rows, the second one has the upper row besides
  obtain ⟨⟨hyy, hyz, hyw⟩, hzw, hyw', -⟩ := isFinite_of_expand hα h.x
  obtain ⟨⟨hzz, hww⟩, hzw, hwz⟩ := isFinite_of_minor hα hzw
  obtain ⟨⟨hzy, -⟩, -, hwy⟩ := isFinite_of_minor hα hyw'
  obtain ⟨⟨hyx, -, -⟩, -, hxw, -⟩ := isFinite_of_expand hα (hα.neg h.y)
  obtain ⟨⟨hzx, -⟩, -, hwx⟩ := isFinite_of_minor hα hxw
  exact ⟨⟨hyx, hyy, hyz, hyw⟩, ⟨hzx, hzy, hzz, hzw⟩, ⟨hwx, hwy, hwz, hww⟩⟩

/-- **A finite determinant is that of a finite matrix.** -/
theorem Mat4.isFinite_of_isFinite_determinant {m : Mat4 α}
    (h : Arithmetic.isFinite m.determinant = true) : m.isFinite = true := by
  obtain ⟨hx, hcofactors⟩ := Vec4.isFinite_of_dotByLanes hα h
  obtain ⟨hy, hz, hw⟩ := Mat4.isFinite_of_cofactors hα hcofactors
  rw [isFinite_iff]
  exact ⟨Vec4.IsFinite.all_toList ⟨hx.x, hy.x, hz.x, hw.x⟩,
    Vec4.IsFinite.all_toList ⟨hx.y, hy.y, hz.y, hw.y⟩,
    Vec4.IsFinite.all_toList ⟨hx.z, hy.z, hz.z, hw.z⟩,
    Vec4.IsFinite.all_toList ⟨hx.w, hy.w, hz.w, hw.w⟩⟩

end Expansion

namespace Binary32

/-! ### Inversion -/

section Inversion

variable {m : Mat4 Float32}

/-- A matrix that has an inverse is finite, as its determinant is. -/
theorem isFinite_of_isSome_inverse? (h : m.inverse?.isSome = true) : m.isFinite = true := by
  obtain ⟨⟨-, hdet⟩, -⟩ := (isSome_inverse?_iff m).mp h
  exact Mat4.isFinite_of_isFinite_determinant propagates hdet

/-- **One entry that is infinite or undefined is enough for a refusal.** -/
theorem inverse?_eq_none_of_mem_entries {x : Float32} (hx : x ∈ m.entries)
    (hinfinite : x.isFinite = false) : m.inverse? = none := by
  by_contra hne
  have hfinite := isFinite_of_isSome_inverse? (Option.isSome_iff_ne_none.mpr hne)
  have hentry : x.isFinite = true := List.all_eq_true.mp hfinite x hx
  rw [hinfinite] at hentry
  cases hentry

/-- What had to be inverted is refused, or its inverse is finite. -/
theorem requireInverse_eq_error_or_finite (m : Mat4 Float32) (name : String) :
    m.requireInverse name = .error ⟨name, m⟩ ∨
      ∃ n, m.requireInverse name = .ok n ∧ n.isFinite = true := by
  rw [Mat4.requireInverse]
  cases h : m.inverse? with
  | none => exact .inl rfl
  | some n => exact .inr ⟨n, rfl, isFinite_of_inverse?_eq_some h⟩

/-- **Inversion takes in and gives out finite matrices only.** A matrix that has an inverse is
finite, its determinant is finite and not zero, and the inverse is finite. So a matrix with an entry
that is infinite or undefined, wherever it stands and whatever the other ones are, has no inverse;
and a matrix that has to be invertible is either refused as singular, or inverted to a finite
one. -/
theorem finite_of_inverse?_eq_some (m : Mat4 Float32) :
    (∀ n, m.inverse? = some n →
      (∀ x ∈ m.entries, x.isFinite = true) ∧
      (m.determinant.isFinite = true ∧ (m.determinant == 0) = false) ∧
      ∀ x ∈ n.entries, x.isFinite = true) ∧
    ((∃ x ∈ m.entries, x.isFinite = false) → m.inverse? = none) ∧
    ∀ name, m.requireInverse name = .error ⟨name, m⟩ ∨
      ∃ n, m.requireInverse name = .ok n ∧ ∀ x ∈ n.entries, x.isFinite = true := by
  refine ⟨fun n hn => ?_, ?_, fun name => ?_⟩
  · have hsome : m.inverse?.isSome = true := Option.isSome_of_eq_some hn
    obtain ⟨⟨hzero, hdet⟩, -⟩ := (isSome_inverse?_iff m).mp hsome
    exact ⟨List.all_eq_true.mp (isFinite_of_isSome_inverse? hsome), ⟨hdet, hzero⟩,
      List.all_eq_true.mp (isFinite_of_inverse?_eq_some hn)⟩
  · rintro ⟨x, hx, hinfinite⟩
    exact inverse?_eq_none_of_mem_entries hx hinfinite
  · refine (requireInverse_eq_error_or_finite m name).imp_right ?_
    rintro ⟨n, hn, hfinite⟩
    exact ⟨n, hn, List.all_eq_true.mp hfinite⟩

/-- Among zeros an infinity is refused as well, -/
example : (Mat4.scaling (1 / 0) 0 0 : Mat4 Float32).inverse? = none := by decide +kernel

/-- but a finite matrix is inverted although its determinant is tiny. -/
example : ((Mat4.identity : Mat4 Float32).andScale (1 / 131070) (1 / 131070)
    (1 / 131070)).inverse?.isSome = true := by decide +kernel

end Inversion

end Binary32
end Colorimetry
