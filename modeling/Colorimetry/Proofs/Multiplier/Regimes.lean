import Mathlib
import Colorimetry.Proofs.Multiplier.Encoding

/-!
# Regimes of the factor

The encoding matrix is a matrix of code values with three rows multiplied by a factor, so what its
inversion computes are multiples of powers of the factor, up to rounding. This file lists what can
happen, each time as something that can be evaluated: an entry of the adjugate overflows
(`overflows`, for a window of factors, and `Mat4.criticalEntry`, for a single one); the reciprocal of
the determinant overflows (`vanishes`); nothing overflows, except perhaps that reciprocal
(`solvable`), and the reciprocal does not either (`large`). The entry that overflows first is the
last one of the adjugate at full range and the one beside it at limited range.

Code values are given in units, and the theorems are about any binary32 matrix that has these units.
-/

namespace Colorimetry

open Binary32

/-- The entry of the adjugate that overflows first when the factor grows. -/
def Mat4.criticalEntry {α : Type} [Arithmetic α] (fullRange : Bool) (m : Mat4 α) : α :=
  if fullRange then m.adjugateColumns.row3.w else m.adjugateColumns.row3.z

/-- The enclosure of code values multiplied by a factor. -/
def enclose (w : Window) (values : Mat4 Units) (f : Ball) : Mat4 (Enclosure w) :=
  (values.map Enclosure.ofUnits).multiplied (some f)

/-- The factor itself as a ball. -/
def Binary32.Ball.parameter : Ball := ⟨1, 1, 0, true⟩

/-- The reciprocal is finite. -/
def Binary32.Units.hasReciprocal (u : Units) : Bool := Option.any (fun a => 2 ^ 21 < a.natAbs) u

/-- The value is finite and its reciprocal is not. -/
def Binary32.Units.lacksReciprocal (u : Units) : Bool := Option.any (fun a => a.natAbs ≤ 2 ^ 21) u

/-! ### Checks -/

section Checks

variable (w : Window) (values : Mat4 Units)

/-- The critical entry overflows for every factor of the window. -/
def overflows (fullRange : Bool) : Bool :=
  match (enclose w values .parameter).criticalEntry fullRange with
  | some b => 2 ^ 128 ≤ (|b.center| - b.radius) * w.powerLow b.degree
  | none => false

/-- The reciprocal of the determinant overflows for every factor in a ball. -/
def vanishes (f : Ball) : Bool :=
  match (enclose w values f).adjugateDeterminant with
  | some d => d.finite && d.magnitude * w.powerHigh d.degree ≤ 1 / 2 ^ 128
  | none => false

/-- The reciprocal of the determinant is finite for every factor of the window. -/
def large : Bool :=
  match (enclose w values .parameter).adjugateDeterminant with
  | some d => d.finite && 1 / 2 ^ 128 < (|d.center| - d.radius) * w.powerLow d.degree
  | none => false

/-- The determinant is finite and not zero, and the inverse is finite if the reciprocal of the
determinant is. -/
def solvable : Bool :=
  let m := enclose w values .parameter
  match m.determinant, m.adjugateDeterminant with
  | some b, some d =>
    match d.reciprocal w with
    | some r => (b.finite && b.radius < |b.center|) && (d.finite && (m.adjugateTimes (some r)).isFinite)
    | none => false
  | _, _ => false

end Checks

/-! ### What they say -/

section Regimes

variable {values : Mat4 Units} {m : Mat4 Float32} {f : Float32} {u : Units} {w : Window} {t : ℚ}
  {fullRange : Bool}

theorem Mat4.Related.criticalEntry {α β : Type} [Arithmetic α] [Arithmetic β] {R : α → β → Prop}
    {m : Mat4 α} {n : Mat4 β} (hR : Arithmetic.Respects R) (h : Related R m n) (fullRange : Bool) :
    R (m.criticalEntry fullRange) (n.criticalEntry fullRange) := by
  have hrow := (h.adjugateColumns hR).row3
  cases fullRange with
  | true => exact hrow.w
  | false => exact hrow.z

theorem isFinite_criticalEntry (h : m.inverse?.isSome = true) (fullRange : Bool) :
    Arithmetic.isFinite (m.criticalEntry fullRange) = true := by
  obtain ⟨⟨hz, hw⟩, -⟩ := isFinite_adjugate_of_isSome h
  cases fullRange with
  | true => exact hw
  | false => exact hz

theorem related_multiplied (hm : Mat4.Related HasUnits m values) (hf : HasUnits f u) :
    Mat4.Related HasUnits (m.multiplied f) (values.multiplied u) :=
  hm.andScale respects_hasUnits hf hf hf

theorem related_enclose (ht : t ∈ w) (hm : Mat4.Related HasUnits m values) {b : Ball}
    (hf : b.Holds t f) :
    Mat4.Related (Enclosure.Holds t) (m.multiplied f) (enclose w values b) := by
  have hvalues : Mat4.Related (Enclosure.Holds (w := w) t) m (values.map Enclosure.ofUnits) := by
    refine hm.map ?_
    rintro x u rfl
    exact Enclosure.holds_ofUnits x
  have hb : Enclosure.Holds (w := w) t f (some b) := by
    rintro c hc
    cases hc
    exact hf
  exact hvalues.andScale (Enclosure.respects_holds ht) hb hb hb

theorem holds_parameter (hf : value f = some t) : Ball.parameter.Holds t f where
  near {v} hv := by
    obtain rfl : t = v := Option.some.inj (hf.symm.trans hv)
    simp [Ball.parameter]
  finite _ := ⟨t, hf⟩

theorem inverse?_eq_none_of_criticalEntry (hm : Mat4.Related HasUnits m values) (hf : HasUnits f u)
    (h : Arithmetic.isFinite ((values.multiplied u).criticalEntry fullRange) = false) :
    (m.multiplied f).inverse? = none := by
  by_contra hne
  have hfin := isFinite_criticalEntry (Option.isSome_iff_ne_none.mpr hne) fullRange
  have hentry := (related_multiplied hm hf).criticalEntry respects_hasUnits fullRange
  rw [hentry.isFinite_eq, h] at hfin
  cases hfin

theorem inverse?_eq_none_of_overflows (hm : Mat4.Related HasUnits m values) (ht : t ∈ w)
    (hf : value f = some t) (h : overflows w values fullRange = true) :
    (m.multiplied f).inverse? = none := by
  by_contra hne
  obtain ⟨v, hv⟩ := (isFinite_iff _).mp
    (isFinite_criticalEntry (Option.isSome_iff_ne_none.mpr hne) fullRange)
  have hentry := (related_enclose ht hm (holds_parameter hf)).criticalEntry
    (Enclosure.respects_holds ht) fullRange
  unfold overflows at h
  split at h
  case h_2 => cases h
  case h_1 b hb =>
    have hge := (of_decide_eq_true h).trans ((hentry b hb).powerLow_le_abs ht hv)
    exact absurd (abs_value_lt hv) (not_lt.mpr hge)

/-- The determinant that is divided by, and its reciprocal. -/
theorem inverse?_eq_none_of_abs_le {q : ℚ} (hq : value m.adjugateDeterminant = some q)
    (h : |q| ≤ 1 / 2 ^ 128) : m.inverse? = none := by
  by_contra hne
  obtain ⟨-, hfin⟩ := isFinite_adjugate_of_isSome (Option.isSome_iff_ne_none.mpr hne)
  have hlt := (exists_value_reciprocal_iff hq).mp ((isFinite_iff _).mp hfin)
  exact absurd h (not_le.mpr hlt)

theorem inverse?_eq_none_of_lacksReciprocal (hm : Mat4.Related HasUnits m values) (hf : HasUnits f u)
    (h : (values.multiplied u).adjugateDeterminant.lacksReciprocal = true) :
    (m.multiplied f).inverse? = none := by
  obtain ⟨d, hd, hle⟩ := (Option.any_eq_true _ _).mp h
  have hdet := (related_multiplied hm hf).adjugateDeterminant respects_hasUnits
  refine inverse?_eq_none_of_abs_le (value_eq_some_iff.mpr ⟨d, hdet.trans hd, rfl⟩) ?_
  rw [← not_lt, quarter_lt_iff, not_lt]
  exact of_decide_eq_true hle

theorem inverse?_eq_none_of_vanishes (hm : Mat4.Related HasUnits m values) (ht : t ∈ w) {b : Ball}
    (hf : b.Holds t f) (h : vanishes w values b = true) : (m.multiplied f).inverse? = none := by
  have hdet := (related_enclose ht hm hf).adjugateDeterminant (Enclosure.respects_holds ht)
  unfold vanishes at h
  split at h
  case h_2 => cases h
  case h_1 d hd =>
    obtain ⟨hfin, hle⟩ := Bool.and_eq_true_iff.mp h
    obtain ⟨q, hq⟩ := (hdet d hd).finite hfin
    exact inverse?_eq_none_of_abs_le hq
      ((Ball.abs_le_powerHigh ht ((hdet d hd).near hq)).trans (of_decide_eq_true hle))

theorem value_adjugateDeterminant_of_hasReciprocal (hm : Mat4.Related HasUnits m values)
    (hf : HasUnits f u) (h : (values.multiplied u).adjugateDeterminant.hasReciprocal = true) :
    ∃ q, value (m.multiplied f).adjugateDeterminant = some q ∧ 1 / 2 ^ 128 < |q| := by
  obtain ⟨d, hd, hlt⟩ := (Option.any_eq_true _ _).mp h
  have hdet := (related_multiplied hm hf).adjugateDeterminant respects_hasUnits
  refine ⟨_, value_eq_some_iff.mpr ⟨d, hdet.trans hd, rfl⟩, ?_⟩
  rw [quarter_lt_iff]
  exact of_decide_eq_true hlt

theorem value_adjugateDeterminant_of_large (hm : Mat4.Related HasUnits m values) (ht : t ∈ w)
    (hf : value f = some t) (h : large w values = true) :
    ∃ q, value (m.multiplied f).adjugateDeterminant = some q ∧ 1 / 2 ^ 128 < |q| := by
  have hdet := (related_enclose ht hm (holds_parameter hf)).adjugateDeterminant
    (Enclosure.respects_holds ht)
  unfold large at h
  split at h
  case h_2 => cases h
  case h_1 d hd =>
    obtain ⟨hfin, hlt⟩ := Bool.and_eq_true_iff.mp h
    obtain ⟨q, hq⟩ := (hdet d hd).finite hfin
    exact ⟨q, hq, (of_decide_eq_true hlt).trans_le ((hdet d hd).powerLow_le_abs ht hq)⟩

/-- **An inverse, but for the reciprocal of the determinant.** -/
theorem isSome_inverse?_of_solvable (hm : Mat4.Related HasUnits m values) (ht : t ∈ w)
    (hf : value f = some t) (h : solvable w values = true) {q : ℚ}
    (hq : value (m.multiplied f).adjugateDeterminant = some q) (hlt : 1 / 2 ^ 128 < |q|) :
    (m.multiplied f).inverse?.isSome = true := by
  have hrelated := related_enclose ht hm (holds_parameter hf)
  unfold solvable at h
  dsimp only at h
  split at h
  case h_2 => cases h
  case h_1 b d hb hd =>
    split at h
    case h_2 => cases h
    case h_1 r hr =>
      simp only [Bool.and_eq_true, decide_eq_true_eq] at h
      obtain ⟨⟨hbfin, hbc⟩, hdfin, hfin⟩ := h
      exact isSome_inverse?_of_enclosure ht hrelated hb hbfin hbc hd hdfin hr hfin
        ((exists_value_reciprocal_iff hq).mpr hlt)

end Regimes

end Colorimetry
