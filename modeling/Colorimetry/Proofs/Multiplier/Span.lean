import Mathlib
import Colorimetry.Proofs.Multiplier.Regimes

/-!
# The span of usable factors

Code values multiplied by a factor have an inverse in binary32 exactly if the factor lies between
two bounds. A `Span` names the bounds, and `Span.check` is an evaluation that proves them right: for
factors well inside or well outside the span by enclosures over a handful of windows, and for the
few factors that are too near to one of the bounds for that one by one, in units. Near a bound the
binary32 values are multiples of a known power of two, so that there are indeed few of them
(`Representable.exists_mantissa`).

`Span.Checked.isSome_inverse?_iff` is what a successful check means for every factor.
-/

namespace Colorimetry

open Binary32

/-- A representable integer with twenty-four digits above a grain is a multiple of the grain. -/
theorem Binary32.Representable.exists_mantissa {n a s : ℕ} (hn : Representable n) (ha : 2 ^ 23 ≤ a)
    (hle : a * 2 ^ s ≤ n) : ∃ m, a ≤ m ∧ n = m * 2 ^ s := by
  obtain ⟨m, r, hm, rfl⟩ := hn
  rcases le_or_gt s r with hsr | hrs
  · obtain ⟨k, rfl⟩ := Nat.exists_eq_add_of_le hsr
    have hfactor : m * 2 ^ (s + k) = m * 2 ^ k * 2 ^ s := by ring
    rw [hfactor] at hle ⊢
    exact ⟨m * 2 ^ k, Nat.le_of_mul_le_mul_right hle (Nat.two_pow_pos s), rfl⟩
  · -- twenty-four digits end below the grain
    exfalso
    have hlt : m * 2 ^ r < 2 ^ 23 * 2 ^ s := by
      calc m * 2 ^ r < 2 ^ 24 * 2 ^ r := Nat.mul_lt_mul_of_pos_right hm (Nat.two_pow_pos r)
        _ = 2 ^ 23 * 2 ^ (r + 1) := by ring
        _ ≤ 2 ^ 23 * 2 ^ s := Nat.mul_le_mul_left _ (Nat.pow_le_pow_right two_pos hrs)
    exact absurd (Nat.mul_le_mul_right (2 ^ s) ha) (not_le.mpr (hlt.trans_le' hle))

/-- The least and the greatest usable factor, as mantissas: the least one in multiples of `2 ^ -65`
and the greatest one in multiples of `2 ^ 20`. -/
structure Span where
  /-- The mantissa of the least factor. -/
  bottom : ℕ
  /-- The mantissa of the greatest factor. -/
  top : ℕ
  le_bottom : 2 ^ 23 + 6 ≤ bottom
  le_top : 2 ^ 23 + 2 ≤ top
  top_lt : top < 2 ^ 24

namespace Span

variable (s : Span)

/-! ### Windows -/

/-- Factors above the span, but for the first two. -/
def above : Window where
  low := (s.top + 3 : ℕ) * 2 ^ 20
  high := 2 ^ 128
  pos := by positivity

/-- Factors of the span that are at least one, but for the last two. -/
def upper : Window where
  low := 1
  high := (s.top - 2 : ℕ) * 2 ^ 20
  pos := one_pos

/-- Factors of the span that are at most one. -/
def lower : Window where
  low := s.bottom / 2 ^ 65
  high := 1
  pos := by
    have := s.le_bottom
    positivity

/-- The same without the first three. -/
def lowerInner : Window where
  low := (s.bottom + 3 : ℕ) / 2 ^ 65
  high := 1
  pos := by positivity

/-- A little less than the least factor of the span. -/
def fringe : ℚ := s.bottom * (49 / 50) / 2 ^ 65

theorem fringe_pos : 0 < s.fringe := by
  have := s.le_bottom
  unfold fringe
  positivity

/-- Factors just below the span, but for the last five. -/
def below : Window where
  low := s.fringe
  high := (s.bottom - 6 : ℕ) / 2 ^ 65
  pos := s.fringe_pos

/-- Factors far below the span are fractions of a single one. -/
def farBelow : Window where
  low := s.fringe
  high := s.fringe
  pos := s.fringe_pos

/-- All fractions of the parameter. -/
def fraction : Ball := ⟨1, 1 / 2, 1 / 2, true⟩

/-! ### The check -/

section Check

variable (values : Mat4 Units) (fullRange : Bool)

/-- Code values multiplied by a factor near the greatest one. -/
def nearTop (m : ℕ) : Mat4 Units := values.multiplied (some (m * 2 ^ 169 : ℕ))

/-- Code values multiplied by a factor near the least one. -/
def nearBottom (m : ℕ) : Mat4 Units := values.multiplied (some (m * 2 ^ 84 : ℕ))

/-- **The check**: enclosures for the windows, and the factors between them one by one. -/
def check : Bool :=
  (overflows s.above values fullRange &&
    (List.range 2).all fun i =>
      !Arithmetic.isFinite ((nearTop values (s.top + 1 + i)).criticalEntry fullRange)) &&
  ((List.range 2).all fun i => (nearTop values (s.top - 1 + i)).inverse?.isSome) &&
  (large s.upper values && solvable s.upper values) &&
  (large s.lowerInner values && solvable s.lower values) &&
  ((List.range 3).all fun i =>
    (nearBottom values (s.bottom + i)).adjugateDeterminant.hasReciprocal) &&
  ((List.range 5).all fun i =>
    (nearBottom values (s.bottom - 5 + i)).adjugateDeterminant.lacksReciprocal) &&
  (vanishes s.below values .parameter && vanishes s.farBelow values fraction) &&
  !Arithmetic.isFinite ((values.multiplied none).criticalEntry fullRange)

/-- What a successful check says of code values, part by part. -/
structure Checked : Prop where
  overflows : Colorimetry.overflows s.above values fullRange = true
  critical {m : ℕ} : s.top < m → m < s.top + 3 →
    Arithmetic.isFinite ((nearTop values m).criticalEntry fullRange) = false
  inverse {m : ℕ} : s.top - 2 < m → m ≤ s.top → (nearTop values m).inverse?.isSome = true
  upperLarge : large s.upper values = true
  upperSolvable : solvable s.upper values = true
  lowerLarge : large s.lowerInner values = true
  lowerSolvable : solvable s.lower values = true
  hasReciprocal {m : ℕ} : s.bottom ≤ m → m < s.bottom + 3 →
    (nearBottom values m).adjugateDeterminant.hasReciprocal = true
  lacksReciprocal {m : ℕ} : s.bottom - 6 < m → m < s.bottom →
    (nearBottom values m).adjugateDeterminant.lacksReciprocal = true
  below : vanishes s.below values .parameter = true
  farBelow : vanishes s.farBelow values fraction = true
  infinite : Arithmetic.isFinite ((values.multiplied none).criticalEntry fullRange) = false

variable {s values fullRange}

theorem checked_of_check (h : s.check values fullRange = true) : s.Checked values fullRange := by
  have hbottom := s.le_bottom
  have htop := s.le_top
  simp only [check, Bool.and_eq_true, List.all_eq_true, List.mem_range, Bool.not_eq_true'] at h
  obtain ⟨⟨⟨⟨⟨⟨⟨habove, hcritical⟩, hinverse⟩, hupper⟩, hlower⟩, hhas⟩, hlacks⟩, hbelow⟩ := h.1
  refine ⟨habove, ?_, ?_, hupper.1, hupper.2, hlower.1, hlower.2, ?_, ?_, hbelow.1, hbelow.2, h.2⟩
  · rintro m hlt hle
    obtain ⟨i, rfl⟩ := Nat.exists_eq_add_of_le hlt
    exact hcritical i (by omega)
  · rintro m hlt hle
    obtain ⟨i, rfl⟩ := Nat.exists_eq_add_of_le (show s.top - 1 ≤ m by omega)
    exact hinverse i (by omega)
  · rintro m hle hlt
    obtain ⟨i, rfl⟩ := Nat.exists_eq_add_of_le hle
    exact hhas i (by omega)
  · rintro m hlt hlt'
    obtain ⟨i, rfl⟩ := Nat.exists_eq_add_of_le (show s.bottom - 5 ≤ m by omega)
    exact hlacks i (by omega)

end Check

/-! ### What it means -/

section Meaning

variable {s : Span} {values : Mat4 Units} {fullRange : Bool} {m : Mat4 Float32} {f : Float32} {n : ℕ}

theorem value_of_units (hf : units f = some (n : ℤ)) : value f = some ((n : ℚ) / 2 ^ 149) :=
  value_eq_some_iff.mpr ⟨n, hf, by rw [Int.cast_natCast]⟩

theorem representable_of_units (hf : units f = some (n : ℤ)) : Representable n := by
  have hnearest := nearestInt_of_units hf
  rw [nearestInt_natCast n one_pos] at hnearest
  have heq : nearest n 1 = n := by exact_mod_cast hnearest
  exact heq ▸ representable_nearest one_pos

/-! Factors as mantissas and as values. -/

theorem scale_top (a : ℕ) : (a : ℚ) * 2 ^ 20 * 2 ^ 149 = (a * 2 ^ 169 : ℕ) := by
  push_cast
  ring

theorem scale_bottom (a : ℕ) : (a : ℚ) / 2 ^ 65 * 2 ^ 149 = (a * 2 ^ 84 : ℕ) := by
  push_cast
  ring

theorem top_le_value {a : ℕ} : (a : ℚ) * 2 ^ 20 ≤ n / 2 ^ 149 ↔ a * 2 ^ 169 ≤ n := by
  rw [le_div_iff₀ (by positivity), scale_top, Nat.cast_le]

theorem value_le_top {a : ℕ} : (n : ℚ) / 2 ^ 149 ≤ a * 2 ^ 20 ↔ n ≤ a * 2 ^ 169 := by
  rw [div_le_iff₀ (by positivity), scale_top, Nat.cast_le]

theorem bottom_le_value {a : ℕ} : (a : ℚ) / 2 ^ 65 ≤ n / 2 ^ 149 ↔ a * 2 ^ 84 ≤ n := by
  rw [le_div_iff₀ (by positivity), scale_bottom, Nat.cast_le]

theorem value_le_bottom {a : ℕ} : (n : ℚ) / 2 ^ 149 ≤ a / 2 ^ 65 ↔ n ≤ a * 2 ^ 84 := by
  rw [div_le_iff₀ (by positivity), scale_bottom, Nat.cast_le]

/-- Factors above the span. -/
theorem Checked.inverse?_eq_none_of_top_lt (h : s.Checked values fullRange)
    (hm : Mat4.Related HasUnits m values) (hf : units f = some (n : ℤ)) (hn : s.top * 2 ^ 169 < n) :
    (m.multiplied f).inverse? = none := by
  rcases lt_or_ge n ((s.top + 3) * 2 ^ 169) with hlt | hge
  · have hdigits : 2 ^ 23 ≤ s.top := by
      have := s.le_top
      omega
    obtain ⟨k, -, rfl⟩ := (representable_of_units hf).exists_mantissa hdigits hn.le
    have hk := Nat.lt_of_mul_lt_mul_right hn
    have hk' := Nat.lt_of_mul_lt_mul_right hlt
    exact inverse?_eq_none_of_criticalEntry hm hf (h.critical hk hk')
  · refine inverse?_eq_none_of_overflows hm ⟨?_, ?_⟩ (value_of_units hf) h.overflows
    · exact top_le_value.mpr hge
    · exact ((le_abs_self _).trans_lt (abs_value_lt (value_of_units hf))).le

/-- Factors below the span. -/
theorem Checked.inverse?_eq_none_of_lt_bottom (h : s.Checked values fullRange)
    (hm : Mat4.Related HasUnits m values) (hf : units f = some (n : ℤ))
    (hn : n < s.bottom * 2 ^ 84) : (m.multiplied f).inverse? = none := by
  have hvalue := value_of_units hf
  rcases lt_or_ge ((s.bottom - 6) * 2 ^ 84) n with hlt | hge
  · have hdigits : 2 ^ 23 ≤ s.bottom - 6 := by
      have := s.le_bottom
      omega
    obtain ⟨k, -, rfl⟩ := (representable_of_units hf).exists_mantissa hdigits hlt.le
    have hk := Nat.lt_of_mul_lt_mul_right hlt
    have hk' := Nat.lt_of_mul_lt_mul_right hn
    exact inverse?_eq_none_of_lacksReciprocal hm hf (h.lacksReciprocal hk hk')
  · -- a ball around the factor has to be narrow, and far below it is a wide one around zero
    rcases le_or_gt s.fringe (n / 2 ^ 149) with hfringe | hfringe
    · exact inverse?_eq_none_of_vanishes hm (w := s.below) ⟨hfringe, value_le_bottom.mpr hge⟩
        (holds_parameter hvalue) h.below
    · refine inverse?_eq_none_of_vanishes hm (w := s.farBelow) (t := s.fringe) ⟨le_rfl, le_rfl⟩
        ⟨?_, fun _ => ⟨_, hvalue⟩⟩ h.farBelow
      rintro v hv
      obtain rfl : (n : ℚ) / 2 ^ 149 = v := Option.some.inj (hvalue.symm.trans hv)
      have hnonneg : (0 : ℚ) ≤ n / 2 ^ 149 := by positivity
      change |(n : ℚ) / 2 ^ 149 - 1 / 2 * s.fringe ^ (1 : ℤ)| ≤ 1 / 2 * s.fringe ^ (1 : ℤ)
      rw [zpow_one, abs_le]
      exact ⟨by linarith, by linarith⟩

/-- Factors of the span. -/
theorem Checked.isSome_inverse? (h : s.Checked values fullRange)
    (hm : Mat4.Related HasUnits m values) (hf : units f = some (n : ℤ))
    (hbottom : s.bottom * 2 ^ 84 ≤ n) (htop : n ≤ s.top * 2 ^ 169) :
    (m.multiplied f).inverse?.isSome = true := by
  have hvalue := value_of_units hf
  -- enclosures are in powers of the factor, so a window does not reach over one
  rcases le_total n (2 ^ 149) with hone | hone
  · have hle : (n : ℚ) / 2 ^ 149 ≤ 1 := by
      rw [div_le_one₀ (by positivity)]
      exact_mod_cast hone
    obtain ⟨q, hq, hlt⟩ : ∃ q, value (m.multiplied f).adjugateDeterminant = some q ∧
        1 / 2 ^ 128 < |q| := by
      rcases lt_or_ge n ((s.bottom + 3) * 2 ^ 84) with hlt | hge
      · have hdigits : 2 ^ 23 ≤ s.bottom := by
          have := s.le_bottom
          omega
        obtain ⟨k, hk, rfl⟩ := (representable_of_units hf).exists_mantissa hdigits hbottom
        have hk' := Nat.lt_of_mul_lt_mul_right hlt
        exact value_adjugateDeterminant_of_hasReciprocal hm hf (h.hasReciprocal hk hk')
      · exact value_adjugateDeterminant_of_large hm (w := s.lowerInner)
          ⟨bottom_le_value.mpr hge, hle⟩ hvalue h.lowerLarge
    exact isSome_inverse?_of_solvable hm (w := s.lower) ⟨bottom_le_value.mpr hbottom, hle⟩ hvalue
      h.lowerSolvable hq hlt
  · rcases lt_or_ge ((s.top - 2) * 2 ^ 169) n with hlt | hge
    · have hdigits : 2 ^ 23 ≤ s.top - 2 := by
        have := s.le_top
        omega
      obtain ⟨k, -, rfl⟩ := (representable_of_units hf).exists_mantissa hdigits hlt.le
      have hk := Nat.lt_of_mul_lt_mul_right hlt
      have hk' := Nat.le_of_mul_le_mul_right htop (Nat.two_pow_pos 169)
      exact isSome_inverse?_of_units (related_multiplied hm hf) (h.inverse hk hk')
    · have hle : (1 : ℚ) ≤ n / 2 ^ 149 := by
        rw [one_le_div₀ (by positivity)]
        exact_mod_cast hone
      have hmem : (n : ℚ) / 2 ^ 149 ∈ s.upper := ⟨hle, value_le_top.mpr hge⟩
      obtain ⟨q, hq, hlt⟩ := value_adjugateDeterminant_of_large hm hmem hvalue h.upperLarge
      exact isSome_inverse?_of_solvable hm hmem hvalue h.upperSolvable hq hlt

/-- **What a successful check says of every factor.** -/
theorem Checked.isSome_inverse?_iff (h : s.Checked values fullRange)
    (hm : Mat4.Related HasUnits m values) (hf : units f = some (n : ℤ)) :
    (m.multiplied f).inverse?.isSome = true ↔ s.bottom * 2 ^ 84 ≤ n ∧ n ≤ s.top * 2 ^ 169 := by
  constructor
  · rintro hsome
    by_contra hout
    rcases not_and_or.mp hout with hlt | hgt
    · rw [h.inverse?_eq_none_of_lt_bottom hm hf (not_le.mp hlt)] at hsome
      cases hsome
    · rw [h.inverse?_eq_none_of_top_lt hm hf (not_le.mp hgt)] at hsome
      cases hsome
  · rintro ⟨hbottom, htop⟩
    exact h.isSome_inverse? hm hf hbottom htop

/-- An infinite factor. -/
theorem Checked.inverse?_eq_none_of_units_eq_none (h : s.Checked values fullRange)
    (hm : Mat4.Related HasUnits m values) (hf : units f = none) :
    (m.multiplied f).inverse? = none :=
  inverse?_eq_none_of_criticalEntry hm hf h.infinite

end Meaning

end Span

end Colorimetry
