import Mathlib
import Colorimetry.Proofs.Surface.Pipeline
import Colorimetry.Proofs.Transfer.Undefined

/-!
# An undefined channel stays undefined

A sample with a channel that is not a number leaves every pipeline with that channel not a number.
Curves and clamps act on each channel apart. A matrix adds multiples of all channels up, so that one
undefined channel makes all of them undefined, also where its coefficient is zero
(`isNaN_convertRgb`).

`Stage.Grounded` is what is asked of a stage: any matrix will do, a curve has to be one that can be
looked up, and the bounds of a clamp have to leave a value. The step lemma is
`Stage.exists_apply_of_isNaN`, and a pipeline follows by induction on its stages.
-/

namespace Colorimetry

open Binary32

/-! ### Channels -/

/-- The channels of a sample. -/
inductive Channel where
  /-- The first channel. -/
  | red
  /-- The second channel. -/
  | green
  /-- The third channel. -/
  | blue
  deriving DecidableEq, Repr

/-- The value of a sample in a channel. -/
def Rgb.channel {α : Type} (v : Rgb α) : Channel → α
  | .red => v.r
  | .green => v.g
  | .blue => v.b

/-- A curve acts on each channel. -/
theorem Rgb.channel_map {α : Type} (f : α → α) (v : Rgb α) (c : Channel) :
    (v.map f).channel c = f (v.channel c) := by
  cases c <;> rfl

section Matrices

variable {v : Rgb Float32}

/-- A sum of multiples with an undefined one is undefined, whatever its coefficients are. -/
theorem isNaN_dot (row : Vec4 Float32) {c : Channel} (hv : (v.channel c).isNaN = true) :
    (row.dot (.ofRgb v)).isNaN = true := by
  cases c with
  | red =>
    exact isNaN_add_left (isNaN_add_left (isNaN_add_left (isNaN_mul_right _ hv) _) _) _
  | green =>
    exact isNaN_add_left (isNaN_add_left (isNaN_add_right _ (isNaN_mul_right _ hv)) _) _
  | blue => exact isNaN_add_left (isNaN_add_right _ (isNaN_mul_right _ hv)) _

/-- **A matrix spreads the undefined value** to all channels. -/
theorem isNaN_convertRgb (m : Mat4 Float32) {c : Channel} (hv : (v.channel c).isNaN = true)
    (c' : Channel) : ((m.convertRgb v).channel c').isNaN = true := by
  cases c' <;> exact isNaN_dot _ hv

end Matrices

namespace Surface

/-! ### Clamps -/

/-- A range that leaves a value. -/
theorem exists_clampTo {lower upper : Float32} (h : lower ≤ upper) (x : Float32) :
    ∃ y, clampTo lower upper x = .ok y ∧ (x.isNaN = true → y.isNaN = true) := by
  refine ⟨_, if_pos h, ?_⟩
  intro hx
  rw [if_neg (not_lt_of_isNaN_left hx _), if_neg (not_lt_of_isNaN_right _ hx)]
  exact hx

/-! ### Stages -/

/-- **What a stage has to be like**: any matrix, a curve that can be looked up, or a range for each
channel that leaves a value. -/
def Stage.Grounded : Stage Float32 → Prop
  | .matrix _ => True
  | .curve c => ∃ name direction, Transfer.Curve.ofName name direction = .ok c
  | .clamp lower upper => ∀ c, lower.channel c ≤ upper.channel c

section Pipelines

variable [e : Elementary Float32]

/-- **A stage keeps what is undefined.** -/
theorem Stage.exists_apply_of_isNaN (he : KeepsUndefined e) {stage : Stage Float32}
    (h : stage.Grounded) (v : Rgb Float32) :
    ∃ w, stage.apply v = .ok w ∧
      (∀ c, (v.channel c).isNaN = true → (w.channel c).isNaN = true) ∧
      ∀ m, stage = .matrix m → ∀ c c', (v.channel c).isNaN = true →
        (w.channel c').isNaN = true := by
  cases stage with
  | matrix m =>
    refine ⟨_, rfl, ?_, ?_⟩
    · intro c hc
      exact isNaN_convertRgb m hc c
    · intro _ _ c c' hc
      exact isNaN_convertRgb m hc c'
  | curve curve =>
    obtain ⟨name, direction, hcurve⟩ := h
    obtain ⟨tf, rfl⟩ := Transfer.Curve.exists_of_ofName hcurve
    refine ⟨_, rfl, ?_, nofun⟩
    intro c hc
    rw [Transfer.Curve.applyRgb, Rgb.channel_map]
    exact Transfer.Curve.isNaN_apply he (tf.hasPower_curve direction) hc
  | clamp lower upper =>
    obtain ⟨r, hr, hnanr⟩ := exists_clampTo (h .red) v.r
    obtain ⟨g, hg, hnang⟩ := exists_clampTo (h .green) v.g
    obtain ⟨b, hb, hnanb⟩ := exists_clampTo (h .blue) v.b
    refine ⟨⟨r, g, b⟩, ?_, ?_, nofun⟩
    · simp only [Rgb.channel] at hr hg hb
      simp only [Stage.apply, hr, hg, hb]
      rfl
    · intro c hc
      cases c with
      | red => exact hnanr hc
      | green => exact hnang hc
      | blue => exact hnanb hc

/-- **An undefined channel stays undefined.** Every pipeline of grounded stages has a value for every
sample. A channel that is not a number at the start is not one at the end, and behind a matrix no
channel is. -/
theorem Pipeline.apply_keeps_undefined (he : KeepsUndefined e) (p : Pipeline Float32)
    (hp : ∀ stage ∈ p.stages, stage.Grounded) (v : Rgb Float32) :
    ∃ w, p.apply v = .ok w ∧
      (∀ c, (v.channel c).isNaN = true → (w.channel c).isNaN = true) ∧
      ((∃ m, .matrix m ∈ p.stages) → ∀ c c', (v.channel c).isNaN = true →
        (w.channel c').isNaN = true) := by
  obtain ⟨stages⟩ := p
  -- the sample changes from stage to stage
  induction stages generalizing v with
  | nil => exact ⟨v, rfl, fun _ hc => hc, fun ⟨_, hm⟩ => absurd hm List.not_mem_nil⟩
  | cons stage stages ih =>
    obtain ⟨u, hu, hkept, hspread⟩ := stage.exists_apply_of_isNaN he (hp stage (.head _)) v
    obtain ⟨w, hw, hkept', hspread'⟩ := ih u (fun s hs => hp s (.tail _ hs))
    refine ⟨w, ?_, fun c hc => hkept' c (hkept c hc), ?_⟩
    · rw [apply_cons, hu]
      exact hw
    · rintro ⟨m, hm⟩ c c' hc
      rcases List.mem_cons.mp hm with hfirst | hlater
      · exact hkept' c' (hspread m hfirst.symm c c' hc)
      · exact hspread' ⟨m, hlater⟩ c c' (hkept c hc)

end Pipelines

/-- The functions that this library computes with, held to the standard at the undefined value. -/
@[reducible]
def guardedElementary : Elementary Float32 where
  sqrt := Elementary.sqrt
  pow x p := if x.isNaN && !(p == 0) then x else Elementary.pow x p
  log x := if x.isNaN then x else Elementary.log x
  exp x := if x.isNaN then x else Elementary.exp x

theorem keepsUndefined_guardedElementary : KeepsUndefined guardedElementary where
  pow {x p} hx hp := by
    change (if x.isNaN && !(p == 0) then x else _).isNaN = true
    rw [hx, hp]
    exact hx
  log {x} hx := by
    change (if x.isNaN then x else _).isNaN = true
    rw [if_pos hx]
    exact hx
  exp {x} hx := by
    change (if x.isNaN then x else _).isNaN = true
    rw [if_pos hx]
    exact hx

/-- A sample with an undefined green channel, decoded with the perceptual quantizer, clamped,
converted by a matrix that does not look at green, and encoded with hybrid log-gamma. -/
theorem Pipeline.apply_keeps_undefined_green :
    let p : Pipeline Float32 := ⟨[.curve (TransferFunction.st2084.curve .decode),
      .clamp (.gray 0) (.gray 1), .matrix (.scaling 1 0 1),
      .curve (TransferFunction.hlg.curve .encode)]⟩
    let v : Rgb Float32 := ⟨0.5, 0 / 0, 0.25⟩
    v.g.isNaN = true ∧ ∃ w, @Pipeline.apply Float32 _ guardedElementary p v = .ok w ∧
      ∀ c, (w.channel c).isNaN = true := by
  intro p v
  have hgreen : v.g.isNaN = true := by decide +kernel
  have hp : ∀ stage ∈ p.stages, stage.Grounded := by
    intro stage hstage
    simp only [p, List.mem_cons, List.not_mem_nil, or_false] at hstage
    rcases hstage with rfl | rfl | rfl | rfl
    · exact ⟨"ST2084", .decode, by rfl⟩
    · intro c
      cases c <;> decide +kernel
    · trivial
    · exact ⟨"HLG", .encode, by rfl⟩
  obtain ⟨w, hw, -, hspread⟩ :=
    @Pipeline.apply_keeps_undefined guardedElementary keepsUndefined_guardedElementary p hp v
  have hmatrix : ∃ m, .matrix m ∈ p.stages := ⟨.scaling 1 0 1, by simp [p]⟩
  exact ⟨hgreen, w, hw, fun c => hspread hmatrix .green c hgreen⟩

end Surface
end Colorimetry
