import Mathlib
import Colorimetry.Proofs.Binary32.NotANumber
import Colorimetry.Proofs.Exact.Scalar

/-!
# Values that can be compared

Some scalars have a value that is not a number, and it is ordered with nothing. All others are in
line, so whatever can be compared with anything at all can be compared with everything else of that
kind. `LawfulComparison` says this of `≤`, `<` and `==` together, and of no other operation.
Binary32 has these laws, with its two zeros and its infinities, and so has every ordered field, in
which all values can be compared.
-/

namespace Colorimetry

/-- **The laws of comparison** in the presence of a value that is not a number. That a value can be
compared is said by `x ≤ x`. -/
class LawfulComparison (α : Type) [Scalar α] : Prop where
  /-- What can be compared is what equals itself. -/
  beq_self_iff {x : α} : (x == x) = true ↔ x ≤ x
  /-- Whatever is compared can be. -/
  le_self_of_le {x y : α} : x ≤ y → x ≤ x ∧ y ≤ y
  /-- Two values that can be compared are in line. -/
  le_or_lt {x y : α} : x ≤ x → y ≤ y → x ≤ y ∨ y < x
  /-- The two comparisons exclude each other. -/
  not_lt_of_le {x y : α} : x ≤ y → ¬y < x

/-- Exact values can all be compared. -/
instance {K : Type} [Field K] [LinearOrder K] : LawfulComparison K where
  beq_self_iff := by simp
  le_self_of_le _ := ⟨le_rfl, le_rfl⟩
  le_or_lt _ _ := le_or_gt _ _
  not_lt_of_le := not_lt_of_ge

/-! ### Binary32 -/

namespace Binary32

open Float.Model (UnpackedFloat)

section Unpacked

variable {u v : UnpackedFloat}

/-- Only what is not a number has no place in the order. -/
theorem compare_eq_none_iff : u.compare v = none ↔ u = .notANumber ∨ v = .notANumber := by
  unfold UnpackedFloat.compare
  split <;> simp_all

theorem compare_self (hu : u ≠ .notANumber) : u.compare u = some .eq := by
  cases u with
  | notANumber => exact absurd rfl hu
  | infinity s => cases s <;> rfl
  | zero s => rfl
  | finite s m e hm => cases s <;> simp [UnpackedFloat.compare]

/-- **Comparison does not depend on the side**: exchanged operands compare the other way round. -/
theorem compare_swap (u v : UnpackedFloat) : v.compare u = (u.compare v).map Ordering.swap := by
  cases u with
  | notANumber => cases v <;> rfl
  | infinity s =>
    cases v with
    | notANumber => rfl
    | infinity s' => cases s <;> cases s' <;> rfl
    | zero | finite => cases s <;> rfl
  | zero s =>
    cases v with
    | notANumber | zero => rfl
    | infinity s' | finite s' => cases s' <;> rfl
  | finite s m e hm =>
    cases v with
    | notANumber => rfl
    | zero => cases s <;> rfl
    | infinity s' => cases s <;> cases s' <;> rfl
    | finite s' m' e' hm' =>
      -- between numbers of one sign the exponents count first, then the mantissas
      have hswap : (compare e' e).then (compare m' m) =
          ((compare e e').then (compare m m')).swap := by
        rw [Ordering.swap_then, ← Std.OrientedCmp.eq_swap, ← Std.OrientedCmp.eq_swap]
      cases s <;> cases s'
      · exact congrArg some (congrArg Ordering.swap hswap)
      · rfl
      · rfl
      · exact congrArg some hswap

end Unpacked

section Comparisons

variable {x y : Float32}

/-- Exactly what is not a number is not equal to itself, -/
theorem beq_self_iff_ne : (x == x) = true ↔ x.toModel.unpack ≠ .notANumber := by
  have hdef : (x == x) = (x.toModel.unpack.compare x.toModel.unpack == some .eq) := rfl
  rw [hdef]
  constructor
  · intro h hx
    rw [hx] at h
    cases h
  · intro hx
    rw [compare_self hx]
    rfl

/-- and exactly that is not below itself. -/
theorem le_self_iff_ne : x ≤ x ↔ x.toModel.unpack ≠ .notANumber := by
  rw [le_iff_compare]
  constructor
  · intro h hx
    rw [hx] at h
    cases h
  · intro hx
    rw [compare_self hx]
    rfl

instance : LawfulComparison Float32 where
  beq_self_iff := beq_self_iff_ne.trans le_self_iff_ne.symm
  le_self_of_le {x y} h := by
    rw [le_iff_compare] at h
    rw [le_self_iff_ne, le_self_iff_ne, ← not_or, ← compare_eq_none_iff]
    intro hnone
    rw [hnone] at h
    cases h
  le_or_lt {x y} hx hy := by
    rw [le_self_iff_ne] at hx hy
    rw [le_iff_compare, lt_iff_compare, compare_swap x.toModel.unpack]
    cases h : x.toModel.unpack.compare y.toModel.unpack with
    | none => exact absurd (compare_eq_none_iff.mp h) (not_or.mpr ⟨hx, hy⟩)
    | some o => cases o <;> simp
  not_lt_of_le {x y} h := by
    rw [le_iff_compare] at h
    rw [lt_iff_compare, compare_swap x.toModel.unpack]
    cases ho : x.toModel.unpack.compare y.toModel.unpack with
    | none => simp
    | some o =>
      rw [ho] at h
      cases o with
      | lt | eq => simp
      | gt => cases h

end Comparisons

end Binary32
end Colorimetry
