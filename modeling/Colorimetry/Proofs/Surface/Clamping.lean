import Mathlib
import Colorimetry.Proofs.Comparison
import Colorimetry.Proofs.Surface.Undefined

/-!
# What a pipeline fails for, and what clamping leaves

A pipeline has no value for a sample if one of its clamps has a channel whose bounds leave none.
Whether it has is a matter of the stages alone. A stage that does not clamp never fails, and a clamp
compares its bounds with each other before it looks at the sample. So the outcome of a pipeline has
two parts that have nothing to do with one another (`Pipeline.apply_eq`): the first range that is
empty, in which the sample has no part (`Pipeline.emptyRange?`), and the value that comes out if
there is none (`Pipeline.value`), in which the checks have no part.

That holds whatever the operations of the scalars are. What a clamp leaves depends on how scalars
compare, and on nothing else (`LawfulComparison`): a value in the range, or one that is not a number
(`clampValue_cases`), and in either case a second clamp finds nothing to do
(`clampValue_clampValue`).
-/

namespace Colorimetry

/-- Samples that agree in every channel are equal. -/
theorem Rgb.ext_channel {α : Type} {v w : Rgb α} (h : ∀ c, v.channel c = w.channel c) : v = w :=
  Rgb.ext (h .red) (h .green) (h .blue)

namespace Surface

variable {α : Type} [Scalar α]

/-! ### One range -/

/-- A range, if it is empty. -/
def emptyRange? (lower upper : α) : Option (EmptyRange α) :=
  if lower ≤ upper then none else some ⟨lower, upper⟩

theorem emptyRange?_eq_none_iff {lower upper : α} :
    emptyRange? lower upper = none ↔ lower ≤ upper := by
  simp [emptyRange?]

/-- The value that a range makes of a given one, the range being left unchecked. -/
def clampValue (lower upper x : α) : α :=
  if x < lower then lower else if upper < x then upper else x

/-- A clamp checks its range and then has a value. -/
theorem clampTo_eq (lower upper x : α) :
    clampTo lower upper x =
      (emptyRange? lower upper).elim (.ok (clampValue lower upper x)) .error := by
  unfold clampTo emptyRange?
  split <;> rfl

section Lawful

variable [LawfulComparison α] {lower upper : α}

/-- **What is clamped lies in the range** or is not a number. -/
theorem clampValue_cases (h : lower ≤ upper) (x : α) :
    (clampValue lower upper x == clampValue lower upper x) = false ∨
      lower ≤ clampValue lower upper x ∧ clampValue lower upper x ≤ upper := by
  obtain ⟨hlower, hupper⟩ := LawfulComparison.le_self_of_le h
  unfold clampValue
  split
  · exact .inr ⟨hlower, h⟩
  · next hlow =>
    split
    · exact .inr ⟨h, hupper⟩
    · next hhigh =>
      by_cases hx : x ≤ x
      · exact .inr ⟨(LawfulComparison.le_or_lt hlower hx).resolve_right hlow,
          (LawfulComparison.le_or_lt hx hupper).resolve_right hhigh⟩
      · exact .inl (Bool.eq_false_iff.mpr (mt LawfulComparison.beq_self_iff.mp hx))

/-- **A second clamp changes nothing**, neither a bound nor a value that stayed as it was. -/
theorem clampValue_clampValue (h : lower ≤ upper) (x : α) :
    clampValue lower upper (clampValue lower upper x) = clampValue lower upper x := by
  obtain ⟨hlower, hupper⟩ := LawfulComparison.le_self_of_le h
  have hbounds : ¬upper < lower := LawfulComparison.not_lt_of_le h
  by_cases hlow : x < lower
  · have hself : ¬lower < lower := LawfulComparison.not_lt_of_le hlower
    have hclamp : clampValue lower upper x = lower := if_pos hlow
    rw [hclamp, clampValue, if_neg hself, if_neg hbounds]
  · by_cases hhigh : upper < x
    · have hself : ¬upper < upper := LawfulComparison.not_lt_of_le hupper
      have hclamp : clampValue lower upper x = upper := by
        rw [clampValue, if_neg hlow, if_pos hhigh]
      rw [hclamp, clampValue, if_neg hbounds, if_neg hself]
    · have hclamp : clampValue lower upper x = x := by
        rw [clampValue, if_neg hlow, if_neg hhigh]
      rw [hclamp, hclamp]

end Lawful

/-! ### One stage -/

namespace Stage

/-- The range that a stage fails for, that of the first channel whose bounds leave no value. -/
def emptyRange? : Stage α → Option (EmptyRange α)
  | .matrix _ | .curve _ => none
  | .clamp lower upper => [Channel.red, .green, .blue].findSome? fun c =>
      Surface.emptyRange? (lower.channel c) (upper.channel c)

/-- The value of a sample after a stage, no range being checked. -/
def value [Elementary α] (v : Rgb α) : Stage α → Rgb α
  | .matrix m => m.convertRgb v
  | .curve c => c.applyRgb v
  | .clamp lower upper => ⟨clampValue lower.r upper.r v.r, clampValue lower.g upper.g v.g,
      clampValue lower.b upper.b v.b⟩

theorem emptyRange?_clamp_eq_none_iff {lower upper : Rgb α} :
    (Stage.clamp lower upper).emptyRange? = none ↔ ∀ c, lower.channel c ≤ upper.channel c := by
  rw [emptyRange?, List.findSome?_eq_none_iff]
  constructor
  · intro h c
    exact emptyRange?_eq_none_iff.mp (h c (by cases c <;> simp))
  · intro h c _
    exact emptyRange?_eq_none_iff.mpr (h c)

variable [Elementary α]

/-- **A stage fails or has a value**, and which of the two is not up to the sample. -/
theorem apply_eq (stage : Stage α) (v : Rgb α) :
    stage.apply v = stage.emptyRange?.elim (.ok (stage.value v)) .error := by
  cases stage with
  | matrix m => rfl
  | curve c => rfl
  | clamp lower upper =>
    simp only [apply, emptyRange?, value, clampTo_eq, List.findSome?, Rgb.channel]
    -- the channels are checked in their order, each only if the ones before it have a value
    cases Surface.emptyRange? lower.r upper.r with
    | some e => rfl
    | none =>
      cases Surface.emptyRange? lower.g upper.g with
      | some e => rfl
      | none => cases Surface.emptyRange? lower.b upper.b <;> rfl

/-- A clamp acts on each channel. -/
theorem channel_value_clamp (lower upper v : Rgb α) (c : Channel) :
    ((Stage.clamp lower upper).value v).channel c =
      clampValue (lower.channel c) (upper.channel c) (v.channel c) := by
  cases c <;> rfl

/-- A clamp behind the same clamp changes nothing, and fails if that one does. -/
theorem apply_clamp_bind_clamp [LawfulComparison α] (lower upper v : Rgb α) :
    ((Stage.clamp lower upper).apply v >>= fun w => (Stage.clamp lower upper).apply w) =
      (Stage.clamp lower upper).apply v := by
  rw [apply_eq]
  cases hempty : (Stage.clamp lower upper).emptyRange? with
  | some e => rfl
  | none =>
    have hrange := emptyRange?_clamp_eq_none_iff.mp hempty
    change (Stage.clamp lower upper).apply ((Stage.clamp lower upper).value v) = _
    rw [apply_eq, hempty]
    refine congrArg Except.ok (Rgb.ext_channel fun c => ?_)
    rw [channel_value_clamp, channel_value_clamp, clampValue_clampValue (hrange c)]

end Stage

/-! ### A pipeline -/

namespace Pipeline

/-- The first empty range of a pipeline. -/
def emptyRange? (p : Pipeline α) : Option (EmptyRange α) := p.stages.findSome? Stage.emptyRange?

/-- A pipeline has an empty range if a channel of one of its clamps has bounds that are not in
order. -/
theorem isSome_emptyRange?_iff (p : Pipeline α) : p.emptyRange?.isSome = true ↔
    ∃ lower upper, .clamp lower upper ∈ p.stages ∧ ∃ c, ¬lower.channel c ≤ upper.channel c := by
  rw [emptyRange?, List.findSome?_isSome_iff]
  constructor
  · rintro ⟨stage, hmem, hsome⟩
    cases stage with
    | matrix | curve => cases hsome
    | clamp lower upper =>
      refine ⟨lower, upper, hmem, ?_⟩
      by_contra! hrange
      rw [Stage.emptyRange?_clamp_eq_none_iff.mpr hrange] at hsome
      cases hsome
  · rintro ⟨lower, upper, hmem, c, hc⟩
    refine ⟨_, hmem, Option.isSome_iff_ne_none.mpr fun hnone => ?_⟩
    exact hc (Stage.emptyRange?_clamp_eq_none_iff.mp hnone c)

variable [Elementary α]

/-- The value of a sample at the end of a pipeline, no range being checked. -/
def value (p : Pipeline α) (v : Rgb α) : Rgb α := p.stages.foldl (fun v stage => stage.value v) v

/-- **A pipeline fails or has a value**, and which of the two is not up to the sample. -/
theorem apply_eq (p : Pipeline α) (v : Rgb α) :
    p.apply v = p.emptyRange?.elim (.ok (p.value v)) .error := by
  obtain ⟨stages⟩ := p
  -- the sample changes from stage to stage, the ranges do not
  induction stages generalizing v with
  | nil => rfl
  | cons stage stages ih =>
    rw [apply_cons, stage.apply_eq, emptyRange?, List.findSome?_cons]
    cases stage.emptyRange? with
    | some e => rfl
    | none => exact ih (stage.value v)

theorem apply_eq_error_iff {p : Pipeline α} {v : Rgb α} {e : EmptyRange α} :
    p.apply v = .error e ↔ p.emptyRange? = some e := by
  rw [apply_eq]
  cases p.emptyRange? <;> simp

theorem exists_apply_eq_error_iff {p : Pipeline α} {v : Rgb α} :
    (∃ e, p.apply v = .error e) ↔ p.emptyRange?.isSome = true := by
  simp only [apply_eq_error_iff, Option.isSome_iff_exists]

/-- **Behind a clamp** every channel is in its range or not a number. -/
theorem exists_apply_clamp [LawfulComparison α] {p : Pipeline α} {lower upper v : Rgb α}
    (h : ∀ e, (p.clamp lower upper).apply v ≠ .error e) :
    ∃ w, (p.clamp lower upper).apply v = .ok w ∧ ∀ c, (w.channel c == w.channel c) = false ∨
      lower.channel c ≤ w.channel c ∧ w.channel c ≤ upper.channel c := by
  have hnone : (p.clamp lower upper).emptyRange? = none := by
    rw [Option.eq_none_iff_forall_ne_some]
    exact fun e he => h e (apply_eq_error_iff.mpr he)
  have hrange : (Stage.clamp lower upper).emptyRange? = none :=
    List.findSome?_eq_none_iff.mp hnone _ (List.mem_append_right _ List.mem_cons_self)
  refine ⟨(Stage.clamp lower upper).value (p.value v), ?_, fun c => ?_⟩
  · rw [apply_eq, hnone, value, clamp, push, List.foldl_append]
    rfl
  · rw [Stage.channel_value_clamp]
    exact clampValue_cases (Stage.emptyRange?_clamp_eq_none_iff.mp hrange c) _

/-- A clamp with a bound that is not a number fails for every sample. -/
theorem exists_apply_eq_error_of_undefined [LawfulComparison α] {p : Pipeline α}
    {lower upper : Rgb α} (hmem : .clamp lower upper ∈ p.stages) {c : Channel}
    (h : (lower.channel c == lower.channel c) = false ∨
      (upper.channel c == upper.channel c) = false) (v : Rgb α) : ∃ e, p.apply v = .error e := by
  rw [exists_apply_eq_error_iff, isSome_emptyRange?_iff]
  refine ⟨lower, upper, hmem, c, fun hle => ?_⟩
  obtain ⟨hlower, hupper⟩ := LawfulComparison.le_self_of_le hle
  rw [← LawfulComparison.beq_self_iff] at hlower hupper
  rcases h with h | h
  · exact Bool.false_ne_true (h.symm.trans hlower)
  · exact Bool.false_ne_true (h.symm.trans hupper)

/-- **Pipelines compose, and their failure does not depend on the sample.** Stages that are pushed
act on what came out, if anything did. A pipeline that fails for one sample fails for all, and with
the same range: it does exactly if some channel of some clamp has bounds that are not in order,
which bounds that are not numbers never are. Behind a clamp every channel is in its range or not a
number, and the same clamp once more makes no difference. -/
theorem apply_compositional [LawfulComparison α] (p q : Pipeline α) :
    (∀ v, (q.stages.foldl push p).apply v = p.apply v >>= q.apply) ∧
    (∀ v e, p.apply v = .error e → ∀ w, p.apply w = .error e) ∧
    (∀ v, (∃ e, p.apply v = .error e) ↔
      ∃ lower upper, .clamp lower upper ∈ p.stages ∧ ∃ c, ¬lower.channel c ≤ upper.channel c) ∧
    (∀ lower upper, .clamp lower upper ∈ p.stages → ∀ c,
      (lower.channel c == lower.channel c) = false ∨
        (upper.channel c == upper.channel c) = false → ∀ v, ∃ e, p.apply v = .error e) ∧
    ∀ lower upper v,
      ((∀ e, (p.clamp lower upper).apply v ≠ .error e) →
        ∃ w, (p.clamp lower upper).apply v = .ok w ∧ ∀ c, (w.channel c == w.channel c) = false ∨
          lower.channel c ≤ w.channel c ∧ w.channel c ≤ upper.channel c) ∧
      ((p.clamp lower upper).clamp lower upper).apply v = (p.clamp lower upper).apply v := by
  refine ⟨fun v => ?_, fun v e h w => ?_, fun v => ?_, fun lower upper hmem c => ?_,
    fun lower upper v => ⟨exists_apply_clamp, ?_⟩⟩
  · rw [foldl_push, apply_append]
  · exact apply_eq_error_iff.mpr (apply_eq_error_iff.mp h)
  · rw [exists_apply_eq_error_iff, isSome_emptyRange?_iff]
  · exact exists_apply_eq_error_of_undefined hmem
  · simp only [clamp, apply_push, bind_assoc, Stage.apply_clamp_bind_clamp]

end Pipeline

/-- In binary32: a sample with an infinite channel, one that is not a number and a negative zero,
clamped to a range and to a range within it; and a clamp that refuses every sample, since its bounds
are not numbers. -/
theorem Pipeline.apply_compositional_nested :
    let p : Pipeline Float32 := ⟨[.clamp (.gray (-1)) (.gray 2)]⟩
    let q : Pipeline Float32 := ⟨[.clamp (.gray 0) (.gray (0 / 0))]⟩
    let v : Rgb Float32 := ⟨1 / 0, 0 / 0, -0.0⟩
    LawfulComparison Float32 ∧
    (q.stages.foldl push p).apply v = p.apply v >>= q.apply ∧
    (∀ w, ∃ e, q.apply w = .error e) ∧
    (∃ w, (p.clamp (.gray 0) (.gray 1)).apply v = .ok w ∧
      ∀ c, (w.channel c == w.channel c) = false ∨ 0 ≤ w.channel c ∧ w.channel c ≤ 1) ∧
    ((p.clamp (.gray 0) (.gray 1)).clamp (.gray 0) (.gray 1)).apply v =
      (p.clamp (.gray 0) (.gray 1)).apply v := by
  intro p q v
  obtain ⟨hpush, -, -, -, hclamp⟩ := apply_compositional p q
  obtain ⟨-, -, -, hundefined, -⟩ := apply_compositional q p
  have hbound : ((0 / 0 : Float32) == 0 / 0) = false := by decide +kernel
  have hnone : (p.clamp (.gray 0) (.gray 1)).emptyRange?.isSome = false := by decide +kernel
  have hok : ∀ e, (p.clamp (.gray 0) (.gray 1)).apply v ≠ .error e := by
    intro e he
    rw [exists_apply_eq_error_iff.mp ⟨e, he⟩] at hnone
    cases hnone
  obtain ⟨w, hw, hrange⟩ := (hclamp (.gray 0) (.gray 1) v).1 hok
  refine ⟨inferInstance, hpush v, hundefined _ _ List.mem_cons_self .red (.inr hbound),
    ⟨w, hw, fun c => ?_⟩, (hclamp _ _ v).2⟩
  have hc := hrange c
  cases c <;> exact hc

end Surface
end Colorimetry
