import Mathlib

/-!
# Functions that undo each other

The two directions of a transfer curve, read as functions on light and on signals that are not
negative, undo each other in the best case (`Transfer.InversePair`). An order that one of them keeps
is then kept by the other one as well (`InversePair.symm`), and strictly so, since neither takes two
values to one. Nor can either of them jump: between its values before and after a jump there would
be some that it does not take (`InversePair.continuousOn`). So it is enough to follow a value there
and back, and to compare values in one direction, to know both directions as continuous and strictly
increasing functions, however many segments they are put together from.
-/

namespace Colorimetry.Transfer

/-- **Two functions that undo each other** on the values that are not negative, the first of which
keeps the order. -/
structure InversePair (f g : ℝ → ℝ) : Prop where
  left_nonneg {x : ℝ} : 0 ≤ x → 0 ≤ f x
  right_nonneg {x : ℝ} : 0 ≤ x → 0 ≤ g x
  right_left {x : ℝ} : 0 ≤ x → g (f x) = x
  left_right {x : ℝ} : 0 ≤ x → f (g x) = x
  left_le {x y : ℝ} : 0 ≤ x → x ≤ y → f x ≤ f y

namespace InversePair

variable {f g : ℝ → ℝ} (h : InversePair f g)

include h

/-- No two values are taken to one. -/
theorem strictMonoOn : StrictMonoOn f (Set.Ici 0) := by
  have hmono : MonotoneOn f (Set.Ici 0) := fun x hx y _ hxy => h.left_le hx hxy
  refine hmono.strictMonoOn_of_injOn fun x hx y hy hxy => ?_
  rw [← h.right_left hx, hxy, h.right_left hy]

/-- **The inverse of a function that keeps the order keeps it.** -/
theorem symm : InversePair g f where
  left_nonneg := h.right_nonneg
  right_nonneg := h.left_nonneg
  right_left := h.left_right
  left_right := h.right_left
  left_le {x y} hx hxy := by
    have hy : 0 ≤ y := hx.trans hxy
    rw [← h.strictMonoOn.le_iff_le (h.right_nonneg hx) (h.right_nonneg hy), h.left_right hx,
      h.left_right hy]
    exact hxy

/-- **A function with an inverse that keeps the order has no jumps.** -/
theorem continuousOn : ContinuousOn f (Set.Ici 0) := by
  let restricted : Set.Ici (0 : ℝ) → Set.Ici (0 : ℝ) := fun x => ⟨f x, h.left_nonneg x.2⟩
  have hmono : Monotone restricted := fun x y hxy => h.left_le x.2 hxy
  have hsurj : Function.Surjective restricted := fun y =>
    ⟨⟨g y, h.right_nonneg y.2⟩, Subtype.ext (h.left_right y.2)⟩
  rw [continuousOn_iff_continuous_domRestrict]
  exact continuous_subtype_val.comp (hmono.continuous_of_surjective hsurj)

end InversePair

end Colorimetry.Transfer
