import Mathlib
import Colorimetry.Linear.Inverse
import Colorimetry.Proofs.Binary32.Enclosure

/-!
# When a binary32 matrix has an inverse

`Mat4.inverse?` refuses a matrix for its determinant or for an entry of its inverse. In binary32 the
second test finds more than degenerate matrices: an entry of the inverse is an entry of the adjugate
times the reciprocal of the determinant, so it is enough for a refusal that one entry of the adjugate
overflows or that the reciprocal does, however harmless the inverse itself would be
(`isFinite_adjugate_of_isSome`).

In the other direction an inverse may be found by evaluation in units (`isSome_inverse?_of_units`) or
by enclosures, which show everything but that the reciprocal is finite
(`isSome_inverse?_of_enclosure`).
-/

namespace Colorimetry.Binary32

section Inverse

variable {α : Type} [Arithmetic α]

theorem inverse?_eq_ite (m : Mat4 α) :
    m.inverse? =
      if m.determinant == 0 || !Arithmetic.isFinite m.determinant then none
      else if m.scaledAdjugate.isFinite then some m.scaledAdjugate else none :=
  rfl

/-- What it takes to have an inverse. -/
theorem isSome_inverse?_iff (m : Mat4 α) :
    m.inverse?.isSome = true ↔
      ((m.determinant == 0) = false ∧ Arithmetic.isFinite m.determinant = true) ∧
        m.scaledAdjugate.isFinite = true := by
  rw [inverse?_eq_ite]
  split_ifs with hdet hfin
  · simp only [Option.isSome_none, Bool.false_eq_true, false_iff, not_and]
    rintro ⟨hzero, hone⟩
    simp [hzero, hone] at hdet
  · simpa [hfin] using hdet
  · simp [hfin]

/-- An inverse is finite. -/
theorem isFinite_of_inverse?_eq_some {m n : Mat4 α} (h : m.inverse? = some n) :
    n.isFinite = true := by
  rw [inverse?_eq_ite] at h
  split_ifs at h with hdet hfin
  obtain rfl : m.scaledAdjugate = n := Option.some.inj h
  exact hfin

end Inverse

/-- A float is finite if it has a value. -/
theorem isFinite_iff (x : Float32) : Arithmetic.isFinite x = true ↔ ∃ v, value x = some v := by
  have hdef : Arithmetic.isFinite x = Option.isSome (units x) := isFinite_eq_isSome x
  rw [hdef, ← Option.isSome_iff_exists]
  cases h : units x with
  | none => rw [value, h]; rfl
  | some a => rw [value, h]; rfl

section Float

variable {m : Mat4 Float32}

/-- The entries of a finite inverse are finite products. -/
theorem isFinite_adjugate_of_isSome (h : m.inverse?.isSome = true) :
    (Arithmetic.isFinite m.adjugateColumns.row3.z = true ∧
      Arithmetic.isFinite m.adjugateColumns.row3.w = true) ∧
      Arithmetic.isFinite (1 / m.adjugateDeterminant) = true := by
  obtain ⟨-, hfin⟩ := (isSome_inverse?_iff m).mp h
  obtain ⟨-, -, hz, hw⟩ := (Mat4.isFinite_iff m.scaledAdjugate).mp hfin
  simp only [Vec4.toList, List.all_cons, List.all_nil, Bool.and_true, Bool.and_eq_true] at hz hw
  have hz' := propagates.mul hz.2.2.2
  have hw' := propagates.mul hw.2.2.2
  exact ⟨⟨hz'.1, hw'.1⟩, hz'.2⟩

/-- A determinant with a value other than zero passes the first test. -/
theorem determinant_check {x : Float32} {d : ℚ} (hx : value x = some d) (hd : d ≠ 0) :
    (x == 0) = false ∧ Arithmetic.isFinite x = true := by
  obtain ⟨a, ha, rfl⟩ := value_eq_some_iff.mp hx
  refine ⟨?_, (isFinite_iff x).mpr ⟨_, hx⟩⟩
  rw [Bool.eq_false_iff, ne_eq, beq_iff ha (units_zero : units 0 = some 0)]
  rintro rfl
  exact hd (by norm_num)

/-- Units of floats, as a relation. -/
def HasUnits (x : Float32) (u : Units) : Prop := units x = u

instance (x : Float32) (u : Units) : Decidable (HasUnits x u) :=
  inferInstanceAs (Decidable (units x = u))

theorem respects_hasUnits : Arithmetic.Respects HasUnits where
  zero := units_zero
  one := units_one
  neg {x u} hx := by
    rw [HasUnits, units_neg, hx]
  add {x y u v} hx hy := by
    rw [HasUnits, units_add, hx, hy]
  sub {x y u v} hx hy := by
    rw [HasUnits, units_sub, hx, hy]
  mul {x y u v} hx hy := by
    rw [HasUnits, units_mul, hx, hy]

theorem HasUnits.isFinite_eq {x : Float32} {u : Units} (h : HasUnits x u) :
    Arithmetic.isFinite x = Arithmetic.isFinite u := by
  rw [← h]
  exact isFinite_eq_isSome x

theorem Units.isFinite_of_isFinite_reciprocal {u : Units}
    (h : Arithmetic.isFinite (1 / u) = true) : ∃ a : ℤ, u = some a := by
  cases u with
  | none => cases h
  | some a => exact ⟨a, rfl⟩

/-- **An inverse found by evaluation in units.** -/
theorem isSome_inverse?_of_units {n : Mat4 Units} (h : Mat4.Related HasUnits m n)
    (hn : n.inverse?.isSome = true) : m.inverse?.isSome = true := by
  have hdet := h.determinant respects_hasUnits
  have hadj := h.adjugateDeterminant respects_hasUnits
  obtain ⟨⟨hzero, hfin⟩, hscaled⟩ := (isSome_inverse?_iff n).mp hn
  obtain ⟨a, ha⟩ : ∃ a : ℤ, n.adjugateDeterminant = some a := by
    obtain ⟨hrow, -⟩ := (Mat4.isFinite_iff n.scaledAdjugate).mp hscaled
    rw [Vec4.toList, List.all_cons, Bool.and_eq_true] at hrow
    exact Units.isFinite_of_isFinite_reciprocal (Units.propagates.mul hrow.1).2
  have hr : HasUnits (1 / m.adjugateDeterminant) (1 / n.adjugateDeterminant) := by
    have hne : units m.adjugateDeterminant ≠ none := by
      rw [hadj, ha]
      exact Option.some_ne_none a
    rw [HasUnits, units_div 1 hne, units_one, hadj]
  have hrelated : Mat4.Related HasUnits m.scaledAdjugate n.scaledAdjugate :=
    h.adjugateTimes respects_hasUnits hr
  refine (isSome_inverse?_iff m).mpr ⟨?_, ?_⟩
  · obtain ⟨d, hd⟩ : ∃ d : ℤ, n.determinant = some d := Option.isSome_iff_exists.mp hfin
    have hne : d ≠ 0 := by
      rintro rfl
      rw [hd] at hzero
      cases hzero
    refine determinant_check (value_eq_some_iff.mpr ⟨d, hdet.trans hd, rfl⟩) ?_
    exact div_ne_zero (Int.cast_ne_zero.mpr hne) (by positivity)
  · exact hrelated.isFinite (fun x u hx hu => hx.isFinite_eq.trans hu) hscaled

section Enclosure

variable {w : Window} {t : ℚ} {n : Mat4 (Enclosure w)}

theorem isFinite_of_holds (x : Float32) (e : Enclosure w) (hx : Enclosure.Holds t x e)
    (he : Arithmetic.isFinite e = true) : Arithmetic.isFinite x = true := by
  cases e with
  | none => cases he
  | some b => exact (isFinite_iff x).mpr ((hx b rfl).finite he)

/-- **An inverse found by enclosure**, but for the reciprocal of the determinant. -/
theorem isSome_inverse?_of_enclosure (ht : t ∈ w) (h : Mat4.Related (Enclosure.Holds t) m n)
    {b d r : Ball} (hb : n.determinant = some b) (hbfin : b.finite = true)
    (hbc : b.radius < |b.center|) (hd : n.adjugateDeterminant = some d) (hdfin : d.finite = true)
    (hr : d.reciprocal w = some r) (hfin : (n.adjugateTimes (some r)).isFinite = true)
    (hvalue : ∃ v, value (1 / m.adjugateDeterminant) = some v) : m.inverse?.isSome = true := by
  have hR := Enclosure.respects_holds ht
  have hdet := h.determinant hR b hb
  have hadj := h.adjugateDeterminant hR d hd
  obtain ⟨q, hq⟩ := hadj.finite hdfin
  obtain ⟨v, hv⟩ := hvalue
  have hrecip : Enclosure.Holds (w := w) t (1 / m.adjugateDeterminant) (some r) := by
    rintro c hc
    cases hc
    exact hadj.reciprocal ht hq hv hr
  refine (isSome_inverse?_iff m).mpr ⟨?_, ?_⟩
  · obtain ⟨p, hp⟩ := hdet.finite hbfin
    refine determinant_check hp (abs_pos.mp ?_)
    have hpow : 0 < t ^ b.degree := zpow_pos (Window.pos_of_mem ht) _
    exact (mul_pos (sub_pos.mpr hbc) hpow).trans_le (hdet.le_abs ht hp)
  · exact (h.adjugateTimes hR hrecip).isFinite isFinite_of_holds hfin

end Enclosure

end Float

end Colorimetry.Binary32
