import Mathlib
import Colorimetry.Linear.Inverse

/-!
# Two readings of one formula

The matrices of this library are computed by formulas over an arbitrary scalar type, so what relates
two scalar types relates all that is computed over them. `Arithmetic.Respects R` says that a relation
holds between the zeros and the ones and is kept by negation, sums, differences and products;
`Mat4.Related R` is the relation entry by entry, and it is kept by products of matrices
(`Mat4.Related.mul`), by both expansions of the determinant and by the adjugate
(`Mat4.Related.determinant`, `Mat4.Related.adjugateColumns`, `Mat4.Related.adjugateDeterminant`).
Division is left out, because a divisor is where relations between number systems tend to end; what
is left of the inverse is `Mat4.adjugateTimes`, the adjugate times a factor that may come from
anywhere.

The relation may be the graph of a map that respects the operations, or say that a value lies within
given bounds.
-/

namespace Colorimetry

/-- A relation between two scalar types that is kept by the operations of rings. -/
structure Arithmetic.Respects {α β : Type} [Arithmetic α] [Arithmetic β] (R : α → β → Prop) :
    Prop where
  zero : R 0 0
  one : R 1 1
  neg {a : α} {b : β} : R a b → R (-a) (-b)
  add {a a' : α} {b b' : β} : R a b → R a' b' → R (a + a') (b + b')
  sub {a a' : α} {b b' : β} : R a b → R a' b' → R (a - a') (b - b')
  mul {a a' : α} {b b' : β} : R a b → R a' b' → R (a * a') (b * b')

/-- Two vectors related component by component. -/
structure Vec4.Related {α β : Type} (R : α → β → Prop) (u : Vec4 α) (v : Vec4 β) : Prop where
  x : R u.x v.x
  y : R u.y v.y
  z : R u.z v.z
  w : R u.w v.w

/-- Two matrices related entry by entry. -/
structure Mat4.Related {α β : Type} (R : α → β → Prop) (m : Mat4 α) (n : Mat4 β) : Prop where
  row0 : Vec4.Related R m.row0 n.row0
  row1 : Vec4.Related R m.row1 n.row1
  row2 : Vec4.Related R m.row2 n.row2
  row3 : Vec4.Related R m.row3 n.row3

/-- A function applied to each entry. -/
def Mat4.map {α β : Type} (f : α → β) (m : Mat4 α) : Mat4 β :=
  ⟨⟨f m.row0.x, f m.row0.y, f m.row0.z, f m.row0.w⟩,
    ⟨f m.row1.x, f m.row1.y, f m.row1.z, f m.row1.w⟩,
    ⟨f m.row2.x, f m.row2.y, f m.row2.z, f m.row2.w⟩,
    ⟨f m.row3.x, f m.row3.y, f m.row3.z, f m.row3.w⟩⟩

/-- The adjugate times a factor, which in an inverse is the reciprocal of the determinant. -/
def Mat4.adjugateTimes {α : Type} [Arithmetic α] (m : Mat4 α) (r : α) : Mat4 α :=
  transpose ⟨m.adjugateColumns.row0.scale r, m.adjugateColumns.row1.scale r,
    m.adjugateColumns.row2.scale r, m.adjugateColumns.row3.scale r⟩

section Related

variable {α β : Type} {R : α → β → Prop}

/-- A function on one side. -/
theorem Mat4.Related.map {γ : Type} {S : α → γ → Prop} {f : β → γ} {m : Mat4 α} {n : Mat4 β}
    (hf : ∀ a b, R a b → S a (f b)) (h : Mat4.Related R m n) : Mat4.Related S m (n.map f) := by
  obtain ⟨h0, h1, h2, h3⟩ := h
  exact ⟨⟨hf _ _ h0.x, hf _ _ h0.y, hf _ _ h0.z, hf _ _ h0.w⟩,
    ⟨hf _ _ h1.x, hf _ _ h1.y, hf _ _ h1.z, hf _ _ h1.w⟩,
    ⟨hf _ _ h2.x, hf _ _ h2.y, hf _ _ h2.z, hf _ _ h2.w⟩,
    ⟨hf _ _ h3.x, hf _ _ h3.y, hf _ _ h3.z, hf _ _ h3.w⟩⟩

theorem Mat4.Related.transpose {m : Mat4 α} {n : Mat4 β} (h : Mat4.Related R m n) :
    Mat4.Related R m.transpose n.transpose :=
  ⟨⟨h.row0.x, h.row1.x, h.row2.x, h.row3.x⟩, ⟨h.row0.y, h.row1.y, h.row2.y, h.row3.y⟩,
    ⟨h.row0.z, h.row1.z, h.row2.z, h.row3.z⟩, ⟨h.row0.w, h.row1.w, h.row2.w, h.row3.w⟩⟩

variable [Arithmetic α] [Arithmetic β]

/-- A matrix is finite row by row. -/
theorem Mat4.isFinite_iff (m : Mat4 α) :
    m.isFinite = true ↔
      m.row0.toList.all Arithmetic.isFinite = true ∧ m.row1.toList.all Arithmetic.isFinite = true ∧
        m.row2.toList.all Arithmetic.isFinite = true ∧
          m.row3.toList.all Arithmetic.isFinite = true := by
  rw [isFinite, entries, List.all_flatMap]
  simp only [rows, List.all_cons, List.all_nil, Bool.and_true, Bool.and_eq_true]

namespace Vec4.Related

variable {u u' : Vec4 α} {v v' : Vec4 β}

theorem dotFromZero (hR : Arithmetic.Respects R) (h : Related R u v) (h' : Related R u' v') :
    R (u.dotFromZero u') (v.dotFromZero v') :=
  hR.add (hR.add (hR.add (hR.add (hR.neg hR.zero) (hR.mul h.x h'.x)) (hR.mul h.y h'.y))
    (hR.mul h.z h'.z)) (hR.mul h.w h'.w)

theorem dot (hR : Arithmetic.Respects R) (h : Related R u v) (h' : Related R u' v') :
    R (u.dot u') (v.dot v') :=
  hR.add (hR.add (hR.add (hR.mul h.x h'.x) (hR.mul h.y h'.y)) (hR.mul h.z h'.z)) (hR.mul h.w h'.w)

theorem dotByLanes (hR : Arithmetic.Respects R) (h : Related R u v) (h' : Related R u' v') :
    R (u.dotByLanes u') (v.dotByLanes v') :=
  hR.add (hR.add (hR.mul h.x h'.x) (hR.mul h.z h'.z))
    (hR.add (hR.mul h.y h'.y) (hR.mul h.w h'.w))

theorem times (hR : Arithmetic.Respects R) (h : Related R u v) (h' : Related R u' v') :
    Related R (u.times u') (v.times v') :=
  ⟨hR.mul h.x h'.x, hR.mul h.y h'.y, hR.mul h.z h'.z, hR.mul h.w h'.w⟩

theorem add (hR : Arithmetic.Respects R) (h : Related R u v) (h' : Related R u' v') :
    Related R (u + u') (v + v') :=
  ⟨hR.add h.x h'.x, hR.add h.y h'.y, hR.add h.z h'.z, hR.add h.w h'.w⟩

theorem sub (hR : Arithmetic.Respects R) (h : Related R u v) (h' : Related R u' v') :
    Related R (u - u') (v - v') :=
  ⟨hR.sub h.x h'.x, hR.sub h.y h'.y, hR.sub h.z h'.z, hR.sub h.w h'.w⟩

theorem isFinite (hfin : ∀ a b, R a b → Arithmetic.isFinite b = true → Arithmetic.isFinite a = true)
    (h : Related R u v) (hv : v.toList.all Arithmetic.isFinite = true) :
    u.toList.all Arithmetic.isFinite = true := by
  simp only [toList, List.all_cons, List.all_nil, Bool.and_true, Bool.and_eq_true] at hv ⊢
  obtain ⟨hx, hy, hz, hw⟩ := hv
  exact ⟨hfin _ _ h.x hx, hfin _ _ h.y hy, hfin _ _ h.z hz, hfin _ _ h.w hw⟩

theorem scale (hR : Arithmetic.Respects R) {r : α} {r' : β} (h : Related R u v) (hr : R r r') :
    Related R (u.scale r) (v.scale r') :=
  ⟨hR.mul h.x hr, hR.mul h.y hr, hR.mul h.z hr, hR.mul h.w hr⟩

end Vec4.Related

namespace Mat4.Related

variable {m m' : Mat4 α} {n n' : Mat4 β}

/-- Related matrices take related vectors to related ones. -/
theorem transform (hR : Arithmetic.Respects R) {u : Vec4 α} {v : Vec4 β} (h : Related R m n)
    (hu : Vec4.Related R u v) : Vec4.Related R (m.transform u) (n.transform v) :=
  ⟨h.row0.dot hR hu, h.row1.dot hR hu, h.row2.dot hR hu, h.row3.dot hR hu⟩

theorem rowTimes (hR : Arithmetic.Respects R) {u : Vec4 α} {v : Vec4 β}
    (hu : Vec4.Related R u v) (h : Related R m n) :
    Vec4.Related R (Mat4.rowTimes u m) (Mat4.rowTimes v n) :=
  ⟨hu.dotFromZero hR h.row0, hu.dotFromZero hR h.row1, hu.dotFromZero hR h.row2,
    hu.dotFromZero hR h.row3⟩

/-- Products of related matrices are related. -/
theorem mul (hR : Arithmetic.Respects R) (h : Related R m n) (h' : Related R m' n') :
    Related R (m * m') (n * n') :=
  ⟨rowTimes hR h.row0 h'.transpose, rowTimes hR h.row1 h'.transpose,
    rowTimes hR h.row2 h'.transpose, rowTimes hR h.row3 h'.transpose⟩

theorem scaling (hR : Arithmetic.Respects R) {a b c : α} {a' b' c' : β} (ha : R a a')
    (hb : R b b') (hc : R c c') : Related R (Mat4.scaling a b c) (Mat4.scaling a' b' c') :=
  ⟨⟨ha, hR.zero, hR.zero, hR.zero⟩, ⟨hR.zero, hb, hR.zero, hR.zero⟩,
    ⟨hR.zero, hR.zero, hc, hR.zero⟩, ⟨hR.zero, hR.zero, hR.zero, hR.one⟩⟩

theorem offset (hR : Arithmetic.Respects R) {a b c : α} {a' b' c' : β} (ha : R a a')
    (hb : R b b') (hc : R c c') : Related R (Mat4.offset a b c) (Mat4.offset a' b' c') :=
  ⟨⟨hR.one, hR.zero, hR.zero, ha⟩, ⟨hR.zero, hR.one, hR.zero, hb⟩,
    ⟨hR.zero, hR.zero, hR.one, hc⟩, ⟨hR.zero, hR.zero, hR.zero, hR.one⟩⟩

/-- A two-by-two minor. -/
theorem minor (hR : Arithmetic.Respects R) {a b c d : α} {a' b' c' d' : β} (ha : R a a')
    (hb : R b b') (hc : R c c') (hd : R d d') : R (a * b - c * d) (a' * b' - c' * d') :=
  hR.sub (hR.mul ha hb) (hR.mul hc hd)

/-- A three-by-three minor, from the entries of a column and two-by-two minors. -/
theorem expand (hR : Arithmetic.Respects R) {a b c p q r : α} {a' b' c' p' q' r' : β}
    (ha : R a a') (hb : R b b') (hc : R c c') (hp : R p p') (hq : R q q') (hr : R r r') :
    R ((a * p - b * q) + c * r) ((a' * p' - b' * q') + c' * r') :=
  hR.add (minor hR ha hp hb hq) (hR.mul hc hr)

theorem cofactors (hR : Arithmetic.Respects R) (h : Related R m n) :
    Vec4.Related R m.cofactors n.cofactors := by
  obtain ⟨-, hy, hz, hw⟩ := h.transpose
  have zw := minor hR hz.z hw.w hz.w hw.z
  have yw := minor hR hz.y hw.w hz.w hw.y
  have yz := minor hR hz.y hw.z hz.z hw.y
  have xw := minor hR hz.x hw.w hz.w hw.x
  have xz := minor hR hz.x hw.z hz.z hw.x
  have xy := minor hR hz.x hw.y hz.y hw.x
  exact ⟨expand hR hy.y hy.z hy.w zw yw yz, hR.neg (expand hR hy.x hy.z hy.w zw xw xz),
    expand hR hy.x hy.y hy.w yw xw xy, hR.neg (expand hR hy.x hy.y hy.z yz xz xy)⟩

/-- Related matrices have related determinants. -/
theorem determinant (hR : Arithmetic.Respects R) (h : Related R m n) :
    R m.determinant n.determinant :=
  h.transpose.row0.dotByLanes hR (h.cofactors hR)

theorem lanes (hR : Arithmetic.Respects R) {a b c d e f : α} {a' b' c' d' e' f' : β}
    (ha : R a a') (hb : R b b') (hc : R c c') (hd : R d d') (he : R e e') (hf : R f f') :
    Vec4.Related R (Mat4.lanes a b c d e f) (Mat4.lanes a' b' c' d' e' f') :=
  ⟨minor hR hc hf he hd, minor hR hc hf he hd, minor hR ha hf he hb, minor hR ha hd hc hb⟩

omit [Arithmetic α] [Arithmetic β] in
/-- One component, and three copies of another. -/
theorem spread {a b : α} {a' b' : β} (ha : R a a') (hb : R b b') :
    Vec4.Related R ⟨a, b, b, b⟩ ⟨a', b', b', b'⟩ :=
  ⟨ha, hb, hb, hb⟩

/-- A row of signed three-by-three minors. -/
theorem signedRow (hR : Arithmetic.Respects R) {s a b c p q r : Vec4 α}
    {s' a' b' c' p' q' r' : Vec4 β} (hs : Vec4.Related R s s') (ha : Vec4.Related R a a')
    (hb : Vec4.Related R b b') (hc : Vec4.Related R c c') (hp : Vec4.Related R p p')
    (hq : Vec4.Related R q q') (hr : Vec4.Related R r r') :
    Vec4.Related R (s.times ((a.times p - b.times q) + c.times r))
      (s'.times ((a'.times p' - b'.times q') + c'.times r')) :=
  hs.times hR (((ha.times hR hp).sub hR (hb.times hR hq)).add hR (hc.times hR hr))

/-- Related matrices have related adjugates. -/
theorem adjugateColumns (hR : Arithmetic.Respects R) (h : Related R m n) :
    Related R m.adjugateColumns n.adjugateColumns := by
  obtain ⟨hx, hy, hz, hw⟩ := h.transpose
  have f01 := lanes hR hy.x hy.y hz.x hz.y hw.x hw.y
  have f02 := lanes hR hy.x hy.z hz.x hz.z hw.x hw.z
  have f03 := lanes hR hy.x hy.w hz.x hz.w hw.x hw.w
  have f12 := lanes hR hy.y hy.z hz.y hz.z hw.y hw.z
  have f13 := lanes hR hy.y hy.w hz.y hz.w hw.y hw.w
  have f23 := lanes hR hy.z hy.w hz.z hz.w hw.z hw.w
  have u0 := spread hy.x hx.x
  have u1 := spread hy.y hx.y
  have u2 := spread hy.z hx.z
  have u3 := spread hy.w hx.w
  have positive : Vec4.Related R ⟨1, -1, 1, -1⟩ ⟨1, -1, 1, -1⟩ :=
    ⟨hR.one, hR.neg hR.one, hR.one, hR.neg hR.one⟩
  have negative : Vec4.Related R ⟨-1, 1, -1, 1⟩ ⟨-1, 1, -1, 1⟩ :=
    ⟨hR.neg hR.one, hR.one, hR.neg hR.one, hR.one⟩
  exact ⟨signedRow hR positive u1 u2 u3 f23 f13 f12, signedRow hR negative u0 u2 u3 f23 f03 f02,
    signedRow hR positive u0 u1 u3 f13 f03 f01, signedRow hR negative u0 u1 u2 f12 f02 f01⟩

/-- Related matrices have related determinants, by the second expansion as well. -/
theorem adjugateDeterminant (hR : Arithmetic.Respects R) (h : Related R m n) :
    R m.adjugateDeterminant n.adjugateDeterminant :=
  h.transpose.row0.dotByLanes hR (h.adjugateColumns hR).transpose.row0

theorem adjugateTimes (hR : Arithmetic.Respects R) {r : α} {r' : β} (h : Related R m n)
    (hr : R r r') : Related R (m.adjugateTimes r) (n.adjugateTimes r') := by
  obtain ⟨h0, h1, h2, h3⟩ := h.adjugateColumns hR
  have hscaled : Related R
      ⟨m.adjugateColumns.row0.scale r, m.adjugateColumns.row1.scale r,
        m.adjugateColumns.row2.scale r, m.adjugateColumns.row3.scale r⟩
      ⟨n.adjugateColumns.row0.scale r', n.adjugateColumns.row1.scale r',
        n.adjugateColumns.row2.scale r', n.adjugateColumns.row3.scale r'⟩ :=
    ⟨h0.scale hR hr, h1.scale hR hr, h2.scale hR hr, h3.scale hR hr⟩
  exact hscaled.transpose

theorem andScale (hR : Arithmetic.Respects R) {a b c : α} {a' b' c' : β} (h : Related R m n)
    (ha : R a a') (hb : R b b') (hc : R c c') : Related R (m.andScale a b c) (n.andScale a' b' c') :=
  (scaling hR ha hb hc).mul hR h

theorem andOffset (hR : Arithmetic.Respects R) {a b c : α} {a' b' c' : β} (h : Related R m n)
    (ha : R a a') (hb : R b b') (hc : R c c') :
    Related R (m.andOffset a b c) (n.andOffset a' b' c') :=
  (offset hR ha hb hc).mul hR h

/-- Finiteness is taken over from one side to the other. -/
theorem isFinite (hfin : ∀ a b, R a b → Arithmetic.isFinite b = true → Arithmetic.isFinite a = true)
    (h : Related R m n) (hn : n.isFinite = true) : m.isFinite = true := by
  have hrows := (isFinite_iff n).mp hn
  exact (isFinite_iff m).mpr ⟨h.row0.isFinite hfin hrows.1, h.row1.isFinite hfin hrows.2.1,
    h.row2.isFinite hfin hrows.2.2.1, h.row3.isFinite hfin hrows.2.2.2⟩

end Mat4.Related

end Related

end Colorimetry
