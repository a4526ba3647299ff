import Colorimetry.Glsl.Function

/-!
# The shader library

The transfer functions as a renderer runs them on the graphics processor: one function for each
kind and direction of `Transfer.Curve`, named by `Transfer.Curve.shaderFunction`, and the
component-wise power that they share. Each evaluates its formula on a vector. A conditional would
split the work of a group of pixels, so both segments are computed and `mix` selects one of them
by a `step` at the joint; the input of the logarithm is kept positive where its segment is not the
one selected.
-/

namespace Colorimetry.Glsl

/-! ### Shorthands -/

/-- A variable. -/
def ref (name : String) : Expr := .var name

/-- A number with decimal places. -/
def num (digits places : Nat) : Expr := .lit (.decimal digits places)

/-- A call. -/
def app (function : String) (arguments : List Expr) : Expr := .call function arguments

instance : Add Expr := ⟨.bin .add⟩

instance : Sub Expr := ⟨.bin .sub⟩

instance : Mul Expr := ⟨.bin .mul⟩

instance : Div Expr := ⟨.bin .div⟩

/-- The numbers zero and one. -/
def zero : Expr := num 0 1

@[inherit_doc zero]
def one : Expr := num 10 1

/-- A vector of the function. -/
def vector (name : String) (value : Expr) : Declaration := ⟨false, .vec3, name, value⟩

/-- A scalar of the function. -/
def scalar (name : String) (value : Expr) : Declaration := ⟨false, .float, name, value⟩

/-- A constant of the function. -/
def constant (name : String) (value : Expr) : Declaration := ⟨true, .float, name, value⟩

/-! ### The functions -/

/-- The power of each component, with one exponent. -/
def pow3 : Function where
  name := "pow3"
  parameters := [⟨.vec3, "v"⟩, ⟨.float, "p"⟩]
  declarations := []
  result := app "pow" [ref "v", app "vec3" [ref "p"]]

/-- The parameters of a piecewise curve: its argument and the coefficients of a record. -/
def piecewiseParameters (argument : String) : List Parameter :=
  [⟨.vec3, argument⟩, ⟨.float, "p"⟩, ⟨.float, "a"⟩, ⟨.float, "knee"⟩, ⟨.float, "linear"⟩]

/-- Decodes with the coefficients of a record. -/
def degamma : Function where
  name := "degamma"
  parameters := piecewiseParameters "v"
  declarations := [
    vector "lin" (ref "v" / ref "linear"),
    vector "pw" (app "pow3" [(ref "v" + ref "a") / (one + ref "a"), ref "p"])]
  result := app "mix" [ref "lin", ref "pw", app "step" [ref "knee", ref "v"]]

/-- Encodes with the coefficients of a record. -/
def gamma : Function where
  name := "gamma"
  parameters := piecewiseParameters "l"
  declarations := [
    vector "lin" (ref "l" * ref "linear"),
    vector "pw" ((one + ref "a") * app "pow3" [ref "l", ref "p"] - ref "a")]
  result := app "mix" [ref "lin", ref "pw", app "step" [ref "knee", ref "l"]]

/-- The constants of the perceptual quantizer. -/
def pqConstants : List Declaration := [
  constant "m1" (num 25 2 * num 26100 1 / num 40960 1),
  constant "m2" (num 1280 1 * num 25230 1 / num 40960 1),
  constant "c2" (num 320 1 * num 24130 1 / num 40960 1),
  constant "c3" (num 320 1 * num 23920 1 / num 40960 1),
  constant "c1" (ref "c3" - ref "c2" + one)]

/-- Decodes with the perceptual quantizer. -/
def pqDecode : Function where
  name := "st2084_eotf"
  parameters := [⟨.vec3, "v"⟩]
  declarations := pqConstants ++ [vector "n" (app "pow3" [ref "v", one / ref "m2"])]
  result := app "pow3"
    [app "max" [ref "n" - ref "c1", zero] / (ref "c2" - ref "c3" * ref "n"), one / ref "m1"]

/-- Encodes with the perceptual quantizer. -/
def pqEncode : Function where
  name := "st2084_inverse_eotf"
  parameters := [⟨.vec3, "l"⟩]
  declarations := pqConstants ++ [vector "n" (app "pow3" [ref "l", ref "m1"])]
  result := app "pow3"
    [(ref "c1" + ref "c2" * ref "n") / (one + ref "c3" * ref "n"), ref "m2"]

/-- The constants of hybrid log-gamma. -/
def hlgConstants : List Declaration := [
  constant "a" (num 17883277 8),
  constant "b" (one - num 40 1 * ref "a"),
  scalar "c" (num 5 1 - ref "a" * app "log" [num 40 1 * ref "a"])]

/-- Encodes with hybrid log-gamma. -/
def hlgEncode : Function where
  name := "hlg_oetf"
  parameters := [⟨.vec3, "l"⟩]
  declarations := hlgConstants ++ [
    vector "lo" (app "sqrt" [num 30 1 * ref "l"]),
    vector "hi" (ref "a" *
      app "log" [app "max" [num 120 1 * ref "l" - ref "b", .lit (.scientific 1 6)]] + ref "c")]
  result := app "mix" [ref "lo", ref "hi", app "step" [one / num 120 1, ref "l"]]

/-- Decodes with hybrid log-gamma. -/
def hlgDecode : Function where
  name := "hlg_eotf"
  parameters := [⟨.vec3, "v"⟩]
  declarations := hlgConstants ++ [
    vector "lo" (ref "v" * ref "v" / num 30 1),
    vector "hi" ((app "exp" [(ref "v" - ref "c") / ref "a"] + ref "b") / num 120 1)]
  result := app "mix" [ref "lo", ref "hi", app "step" [num 5 1, ref "v"]]

/-- Every function, each after those that it calls. -/
def library : List Function :=
  [pow3, degamma, gamma, pqDecode, pqEncode, hlgEncode, hlgDecode]

/-- The text of the whole library, an empty line between two functions. -/
def libraryText : String := String.intercalate "\n" (library.map Function.render)

/-- The function with a given name. -/
def find? (name : String) : Option Function := library.find? fun f => f.name == name

end Colorimetry.Glsl
