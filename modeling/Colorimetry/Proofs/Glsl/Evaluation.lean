import Mathlib
import Colorimetry.Glsl.Library
import Colorimetry.Linear.Vec4
import Colorimetry.Proofs.Exact.Scalar

/-!
# What shader functions compute

The meaning of the trees of `Colorimetry.Glsl`, over exact numbers. One evaluator reads a function
(`Function.call?`) and a library, in which each function calls those before it (`Reading.link`).
What the evaluator computes with is a parameter, a `Reading`, and there are three of them:

| reading | a literal is | an operator or a function of the language |
|---|---|---|
| `values` | a scalar | works on the components, a scalar stands for three equal ones |
| `types` | a scalar type | has the types that the language gives it |
| `lanes` | a number | is the function of numbers |

The first is the meaning proper. Where the language leaves a result undefined – a division by zero,
a power of a negative number or of zero to an exponent that is not positive, a logarithm of a number
that is not positive, a root of a negative one – there is none, and since all intermediate values
are evaluated, a function that has a value has left no domain anywhere, in the segment that `mix`
does not select either (`Function.definedAt_of_isSome`).

The other two take the first apart: no operation mixes components, so a function of the right types
works on three lanes that know nothing of each other.
-/

namespace Colorimetry.Glsl

/-! ### Readings -/

/-- The functions of the language that the library uses. -/
inductive Builtin where
  /-- The power. -/
  | pow
  /-- The square root. -/
  | sqrt
  /-- The natural logarithm. -/
  | log
  /-- The exponential. -/
  | exp
  /-- The greater of two values. -/
  | max
  /-- Zero below an edge and one from there on. -/
  | step
  /-- What lies between two values at a proportion. -/
  | mix
  /-- The vector of one number. -/
  | vec3
  deriving DecidableEq, Repr

/-- The function of the language with a given name. -/
def Builtin.ofName? : String → Option Builtin
  | "pow" => some .pow
  | "sqrt" => some .sqrt
  | "log" => some .log
  | "exp" => some .exp
  | "max" => some .max
  | "step" => some .step
  | "mix" => some .mix
  | "vec3" => some .vec3
  | _ => none

/-- What names of functions mean. -/
abbrev Meaning (D : Type) := String → List D → Option D

/-- What names of variables stand for, the latest first. -/
abbrev Env (D : Type) := List (String × D)

/-- What the evaluator computes with. -/
structure Reading (D : Type) where
  /-- A literal. -/
  literal : Literal → D
  /-- An operator. -/
  operate? : Op → D → D → Option D
  /-- A function of the language. -/
  builtin? : Builtin → List D → Option D
  /-- Whether a variable of a type can hold it. -/
  fits : D → Ty → Bool

section Evaluator

variable {D : Type} (R : Reading D)

mutual

/-- The value of an expression. All parts of it are evaluated. -/
def Expr.eval? (m : Meaning D) (ρ : Env D) : Expr → Option D
  | .var name => ρ.lookup name
  | .lit value => some (R.literal value)
  | .bin op left right => do
    let x ← left.eval? m ρ
    let y ← right.eval? m ρ
    R.operate? op x y
  | .call function arguments => do
    let xs ← Expr.evalAll? m ρ arguments
    m function xs

/-- The values of arguments. -/
def Expr.evalAll? (m : Meaning D) (ρ : Env D) : List Expr → Option (List D)
  | [] => some []
  | e :: rest => do
    let x ← e.eval? m ρ
    let xs ← Expr.evalAll? m ρ rest
    return x :: xs

end

/-- The parameters of a function with its arguments, of the right types and number. -/
def Reading.bind? : List Parameter → List D → Option (Env D)
  | [], [] => some []
  | p :: ps, x :: xs => do
    let ρ ← Reading.bind? ps xs
    if R.fits x p.type then some ((p.name, x) :: ρ) else none
  | _, _ => none

/-- Intermediate values, each from those before it. -/
def Reading.declare? (m : Meaning D) : List Declaration → Env D → Option (Env D)
  | [], ρ => some ρ
  | d :: ds, ρ => do
    let x ← d.value.eval? R m ρ
    if R.fits x d.type then Reading.declare? m ds ((d.name, x) :: ρ) else none

/-- The value of a function. -/
def Function.call? (m : Meaning D) (f : Function) (arguments : List D) : Option D := do
  let ρ ← R.bind? f.parameters arguments
  let ρ ← R.declare? m f.declarations ρ
  let x ← f.result.eval? R m ρ
  if R.fits x .vec3 then some x else none

/-- The functions of the language under their names. -/
def Reading.builtins : Meaning D := fun name arguments => do
  let f ← Builtin.ofName? name
  R.builtin? f arguments

/-- The meaning of names after one more function. -/
def Reading.define (m : Meaning D) (f : Function) : Meaning D := fun name arguments =>
  if name = f.name then f.call? R m arguments else m name arguments

/-- The meaning of names after a list of functions. -/
def Reading.link (functions : List Function) : Meaning D := functions.foldl R.define R.builtins

end Evaluator

/-! ### Nothing is left undefined -/

/-- The parts of an expression, itself included. -/
inductive Expr.Part : Expr → Expr → Prop where
  | refl (e : Expr) : Part e e
  | left {e left right : Expr} {op : Op} : Part e left → Part e (.bin op left right)
  | right {e left right : Expr} {op : Op} : Part e right → Part e (.bin op left right)
  | argument {e a : Expr} {arguments : List Expr} {function : String} :
    a ∈ arguments → Part e a → Part e (.call function arguments)

/-- No part of a function is undefined at arguments: none of a declaration or of the result, each with
the variables that are known there. -/
structure Function.DefinedAt {D : Type} (R : Reading D) (m : Meaning D) (f : Function)
    (xs : List D) : Prop where
  /-- In each declaration, with the ones before it. -/
  declaration : ∀ ds d ds', f.declarations = ds ++ d :: ds' →
    ∃ ρ, (R.bind? f.parameters xs).bind (R.declare? m ds) = some ρ ∧
      ∀ e : Expr, e.Part d.value → (e.eval? R m ρ).isSome
  /-- In the result, with all of them. -/
  result : ∃ ρ, (R.bind? f.parameters xs).bind (R.declare? m f.declarations) = some ρ ∧
    ∀ e : Expr, e.Part f.result → (e.eval? R m ρ).isSome

section Parts

variable {D : Type} {R : Reading D} {m : Meaning D} {ρ : Env D}

theorem isSome_of_mem {a : Expr} {es : List Expr} (ha : a ∈ es)
    (h : (Expr.evalAll? R m ρ es).isSome) : (a.eval? R m ρ).isSome := by
  induction es with
  | nil => cases ha
  | cons e es ih =>
    obtain ⟨xs, hxs⟩ := Option.isSome_iff_exists.mp h
    simp only [Expr.evalAll?, Option.bind_eq_bind, Option.bind_eq_some_iff] at hxs
    obtain ⟨x, hx, xs', hrest, -⟩ := hxs
    rcases List.mem_cons.mp ha with rfl | ha
    · exact Option.isSome_of_eq_some hx
    · exact ih ha (Option.isSome_of_eq_some hrest)

/-- **An expression has a value only if all its parts have one.** -/
theorem isSome_of_part {e e' : Expr} (hpart : e.Part e') (h : (e'.eval? R m ρ).isSome) :
    (e.eval? R m ρ).isSome := by
  induction hpart with
  | refl => exact h
  | left _ ih =>
    obtain ⟨z, hz⟩ := Option.isSome_iff_exists.mp h
    simp only [Expr.eval?, Option.bind_eq_bind, Option.bind_eq_some_iff] at hz
    obtain ⟨x, hx, -⟩ := hz
    exact ih (Option.isSome_of_eq_some hx)
  | right _ ih =>
    obtain ⟨z, hz⟩ := Option.isSome_iff_exists.mp h
    simp only [Expr.eval?, Option.bind_eq_bind, Option.bind_eq_some_iff] at hz
    obtain ⟨-, -, y, hy, -⟩ := hz
    exact ih (Option.isSome_of_eq_some hy)
  | argument ha _ ih =>
    obtain ⟨z, hz⟩ := Option.isSome_iff_exists.mp h
    simp only [Expr.eval?, Option.bind_eq_bind, Option.bind_eq_some_iff] at hz
    obtain ⟨xs, hxs, -⟩ := hz
    exact ih (isSome_of_mem ha (Option.isSome_of_eq_some hxs))

theorem declare?_append (ds ds' : List Declaration) (ρ : Env D) :
    R.declare? m (ds ++ ds') ρ = (R.declare? m ds ρ).bind (R.declare? m ds') := by
  induction ds generalizing ρ with
  | nil => rfl
  | cons d ds ih =>
    simp only [List.cons_append, Reading.declare?, Option.bind_eq_bind, Option.bind_assoc]
    congr 1
    funext x
    split
    · exact ih _
    · rfl

/-- **A function has a value only where no part of it is undefined.** -/
theorem Function.definedAt_of_isSome {f : Function} {xs : List D} (h : (f.call? R m xs).isSome) :
    f.DefinedAt R m xs := by
  obtain ⟨y, hy⟩ := Option.isSome_iff_exists.mp h
  simp only [Function.call?, Option.bind_eq_bind, Option.bind_eq_some_iff] at hy
  obtain ⟨ρ, hρ, ρ', hρ', z, hz, -⟩ := hy
  refine ⟨fun ds d ds' hds => ?_, ρ', ?_, fun e he => isSome_of_part he (Option.isSome_of_eq_some hz)⟩
  · rw [hds, declare?_append, Option.bind_eq_some_iff] at hρ'
    obtain ⟨ρ'', hbefore, hafter⟩ := hρ'
    simp only [Reading.declare?, Option.bind_eq_bind, Option.bind_eq_some_iff] at hafter
    obtain ⟨x, hx, -⟩ := hafter
    refine ⟨ρ'', ?_, fun e he => isSome_of_part he (Option.isSome_of_eq_some hx)⟩
    rw [hρ, Option.bind_some, hbefore]
  · rw [hρ, Option.bind_some, hρ']

end Parts

/-! ### Types -/

/-- The type of an operator's result: a scalar works on each component. -/
def Op.type : Ty → Ty → Ty
  | .float, .float => .float
  | _, _ => .vec3

/-- The type of a function of the language. -/
def Builtin.type? : Builtin → List Ty → Option Ty
  | .pow, [s, t] => if s = t then some s else none
  | .sqrt, [t] | .log, [t] | .exp, [t] => some t
  | .max, [s, t] => if t = s ∨ t = .float then some s else none
  | .step, [s, t] => if s = t ∨ s = .float then some t else none
  | .mix, [s, s', t] => if s = s' ∧ (t = s ∨ t = .float) then some s else none
  | .vec3, [.float] => some .vec3
  | _, _ => none

/-- Trees read as types. -/
def types : Reading Ty where
  literal _ := .float
  operate? _ s t := some (Op.type s t)
  builtin? := Builtin.type?
  fits s t := s == t

/-! ### Numbers -/

section Numbers

variable {K : Type} [Field K]

/-- The number that a literal spells. -/
def Literal.value : Literal → K
  | .decimal digits places => digits / 10 ^ places
  | .scientific digit exponent => digit / 10 ^ exponent

variable [LinearOrder K]

/-- An operator between numbers. -/
def Op.result? : Op → K → K → Option K
  | .add, x, y => some (x + y)
  | .sub, x, y => some (x - y)
  | .mul, x, y => some (x * y)
  | .div, x, y => if y = 0 then none else some (x / y)

variable [Elementary K]

/-- A function of the language at numbers. -/
def Builtin.result? : Builtin → List K → Option K
  | .pow, [x, y] => if 0 < x ∨ x = 0 ∧ 0 < y then some (Elementary.pow x y) else none
  | .sqrt, [x] => if 0 ≤ x then some (Elementary.sqrt x) else none
  | .log, [x] => if 0 < x then some (Elementary.log x) else none
  | .exp, [x] => some (Elementary.exp x)
  | .max, [x, y] => some (Max.max x y)
  | .step, [edge, x] => some (if x < edge then 0 else 1)
  | .mix, [x, y, t] => some (x * (1 - t) + y * t)
  | .vec3, [x] => some x
  | _, _ => none

/-- Trees read as numbers, as if there were one component. -/
def lanes : Reading K where
  literal := Literal.value
  operate? := Op.result?
  builtin? := Builtin.result?
  fits _ _ := true

end Numbers

/-! ### Values -/

/-- A component. -/
inductive Lane where
  /-- The first. -/
  | r
  /-- The second. -/
  | g
  /-- The third. -/
  | b
  deriving DecidableEq, Repr

/-- A value of the language. -/
inductive Value (K : Type) where
  /-- A scalar. -/
  | scalar (x : K)
  /-- Three components. -/
  | vector (v : Rgb K)

namespace Value

variable {K : Type}

/-- The type of a value. -/
def type : Value K → Ty
  | scalar _ => .float
  | vector _ => .vec3

/-- A component of a value. Those of a scalar are equal. -/
def lane (i : Lane) : Value K → K
  | scalar x => x
  | vector v => match i with
    | .r => v.r
    | .g => v.g
    | .b => v.b

/-- The value of a type with given components, if they are defined. -/
def gather? (t : Ty) (f : Lane → Option K) : Option (Value K) :=
  match t with
  | .float => (f .r).map scalar
  | .vec3 => do
    let r ← f .r
    let g ← f .g
    let b ← f .b
    return vector ⟨r, g, b⟩

end Value

/-- Trees read as values. -/
def values {K : Type} [Field K] [LinearOrder K] [Elementary K] : Reading (Value K) where
  literal l := .scalar l.value
  operate? op x y := Value.gather? (Op.type x.type y.type) fun i => op.result? (x.lane i) (y.lane i)
  builtin? f xs := do
    let t ← f.type? (xs.map Value.type)
    Value.gather? t fun i => f.result? (xs.map (·.lane i))
  fits x t := x.type == t

/-- The value of a function of a library. -/
def run? {K : Type} [Field K] [LinearOrder K] [Elementary K] (functions : List Function)
    (name : String) (arguments : List (Value K)) : Option (Value K) :=
  values.link functions name arguments

end Colorimetry.Glsl
