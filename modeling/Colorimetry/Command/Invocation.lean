import Colorimetry.Command.Arguments
import Colorimetry.Transfer.Curve

/-!
# Queries

What the command line can be asked for. `Query` is one such thing with all that it needs, `Verb` the
word that a query starts with, and `Invocation.read` takes the words of a command line to the
query they make. `Verb.grammar` says which options and operands a query may have, and
`Verb.query?` fills in the defaults.

Two options, for JSON and for more output, may stand before the verb and behind it. The reading
before the verb (`readVerb`) has a grammar of its own, which knows the version besides; behind the
verb, every grammar contains the two.
-/

namespace Colorimetry.Command

/-- The options of a conversion. -/
structure ConversionQuery where
  /-- The name of the source colorspace. -/
  source : String
  /-- The name of the destination colorspace. -/
  destination : String
  /-- The factor of the result. -/
  scale : Float32
  /-- The name of the cone responses. -/
  cone : String
  /-- A sample to convert. -/
  sample : Option String

/-- The options of a YCbCr matrix. -/
structure YcbcrQuery where
  /-- The name of the encoding. -/
  encoding : String
  /-- Whether samples take every code value. -/
  fullRange : Bool
  /-- The factor from a stored sample to a code value. -/
  multiplier : Float32
  /-- Whether samples are decoded. -/
  inverse : Bool

/-- The options of a surface. -/
structure SurfaceQuery where
  /-- The file of the description. -/
  path : String
  /-- The name of the output colorspace. -/
  destination : String
  /-- The name of the output transfer function. -/
  transfer : String
  /-- What replaces the multiplier of the description. -/
  multiplier : Option Float32
  /-- A sample to convert. -/
  sample : Option String
  /-- Whether the sample is stored YCbCr. -/
  ycbcr : Bool

/-- What the command line is asked for. -/
inductive Query where
  /-- The coefficients of a curve and a number of its values. -/
  | gamma (name : String) (direction : Transfer.Direction) (samples : Nat)
  /-- One value of a curve. -/
  | eval (name : String) (direction : Transfer.Direction) (input : Float32)
  /-- The conversion between two colorspaces. -/
  | csc (query : ConversionQuery)
  /-- The matrix of a YCbCr encoding. -/
  | ycbcr (query : YcbcrQuery)
  /-- One shader function, or all of them. -/
  | shader (name : Option String)
  /-- The surface of a description. -/
  | surface (query : SurfaceQuery)
  /-- The tables. -/
  | list

/-- The file that a query asks for. -/
def Query.path? : Query → Option String
  | .surface query => some query.path
  | _ => none

/-- The words that a query starts with. -/
inductive Verb where
  /-- A curve. -/
  | gamma
  /-- A value. -/
  | eval
  /-- A conversion. -/
  | csc
  /-- A YCbCr matrix. -/
  | ycbcr
  /-- Shader functions. -/
  | shader
  /-- A surface. -/
  | surface
  /-- The tables. -/
  | list
  deriving DecidableEq, Repr

/-! ### Grammars -/

/-- An option without a value. -/
def flag (name : String) (letter : Option Char) : Switch := ⟨name, letter, .flag⟩

/-- An option with a value. -/
def valued (name : String) (letter : Option Char) (kind : ValueKind) : Switch :=
  ⟨name, letter, .value kind⟩

/-- The options that may stand anywhere. -/
def commonSwitches : List Switch :=
  [flag "json" none, flag "verbose" (some 'v'), ⟨"help", some 'h', .help⟩]

/-- The options that may stand before the verb. -/
def leadingGrammar : Grammar := ⟨commonSwitches ++ [⟨"version", some 'V', .version⟩], []⟩

namespace Verb

/-- Every verb. -/
def all : List Verb := [gamma, eval, csc, ycbcr, shader, surface, list]

/-- A verb in full and its abbreviations. -/
def names : Verb → List String
  | gamma => ["gamma", "g"]
  | eval => ["eval", "e"]
  | csc => ["csc"]
  | ycbcr => ["ycbcr", "y"]
  | shader => ["shader"]
  | surface => ["surface", "s"]
  | list => ["list", "ls"]

/-- The verb that a word stands for. -/
def ofName? (name : String) : Option Verb := all.find? fun verb => verb.names.contains name

/-- The options of a verb. -/
def switches : Verb → List Switch
  | gamma => [flag "degamma" (some 'd'), valued "samples" (some 'n') .count]
  | eval => [flag "decode" (some 'd')]
  | csc => [valued "src" (some 's') .text, valued "dst" (some 'd') .text,
      valued "luminance-scale" (some 'l') .number, valued "cone" none .text,
      valued "sample" none .text]
  | ycbcr => [valued "encoding" (some 'e') .text, flag "full-range" (some 'f'),
      valued "bpc-mul" (some 'b') .number, flag "inverse" (some 'i')]
  | shader => []
  | surface => [valued "dst" (some 'd') .text, valued "dst-transfer" (some 't') .text,
      valued "bpc-mul" (some 'b') .number, valued "sample" none .text, flag "ycbcr" none]
  | list => []

/-- The operands of a verb. -/
def operands : Verb → List Operand
  | gamma => [⟨.text, false⟩]
  | eval => [⟨.text, false⟩, ⟨.number, true⟩]
  | csc => []
  | ycbcr => []
  | shader => [⟨.text, false⟩]
  | surface => [⟨.path, false⟩]
  | list => []

/-- What may stand behind a verb. -/
def grammar (verb : Verb) : Grammar := ⟨verb.switches ++ commonSwitches, verb.operands⟩

/-- The direction that a flag chooses. -/
def direction (decode : Bool) : Transfer.Direction := if decode then .decode else .encode

/-- The query that a reading makes; none if an operand or an option is missing. -/
def query? (verb : Verb) (r : Reading) : Option Query :=
  match verb, r.operands with
  | gamma, [.text name] =>
    some (.gamma name (direction (r.has "degamma")) ((r.count? "samples").getD 11))
  | eval, [.text name, .number input] =>
    some (.eval name (direction (r.has "decode")) input)
  | csc, [] => do
    let source ← r.text? "src"
    let destination ← r.text? "dst"
    return .csc {
      source, destination
      scale := (r.number? "luminance-scale").getD 1
      cone := (r.text? "cone").getD "bradford"
      sample := r.text? "sample" }
  | ycbcr, [] =>
    some (.ycbcr {
      encoding := (r.text? "encoding").getD "BT.601"
      fullRange := r.has "full-range"
      multiplier := (r.number? "bpc-mul").getD 1
      inverse := r.has "inverse" })
  | shader, [] => some (.shader none)
  | shader, [.text name] => some (.shader (some name))
  | surface, [.text path] =>
    some (.surface {
      path
      destination := (r.text? "dst").getD "BT.709"
      transfer := (r.text? "dst-transfer").getD "sRGB"
      multiplier := r.number? "bpc-mul"
      sample := r.text? "sample"
      ycbcr := r.has "ycbcr" })
  | list, [] => some .list
  | _, _ => none

end Verb

/-! ### Reading a command line -/

/-- A query, and the form in which it is answered. -/
structure Invocation where
  /-- The query. -/
  query : Query
  /-- Whether the answer is JSON. -/
  json : Bool

/-- The words behind a request for help: nothing, or a verb that help is asked about. -/
def readHelp : List String → Stop
  | [] => .help
  | [word] => if word == "help" || (Verb.ofName? word).isSome then .help else .misuse
  | _ => .misuse

/-- The words up to the verb, the verb, and the words behind it. -/
def readVerb : List String → Reading → Except Stop (Reading × Verb × List String)
  | [], _ => .error .misuse
  | word :: rest, r =>
    match Word.ofString word with
    | .separator => .error .misuse
    | .plain name =>
      if name == "help" then .error (readHelp rest)
      else match Verb.ofName? name with
        | some verb => .ok (r, verb, rest)
        | none => .error .misuse
    | .long name attached =>
      (leadingGrammar.readLong r name attached).bind fun p => readVerb rest p.reading
    | .cluster letters =>
      (leadingGrammar.readCluster r letters).bind fun p => readVerb rest p.reading

/-- **The query that the words of a command line make.** -/
def Invocation.read (words : List String) : Except Stop Invocation := do
  let (leading, verb, rest) ← readVerb words {}
  let r ← verb.grammar.read rest
  match verb.query? r with
  | some query => return { query, json := leading.has "json" || r.has "json" }
  | none => throw .misuse

end Colorimetry.Command
