import Colorimetry.Number.Literal

/-!
# Arguments

The words of a command line, read against a grammar. A word that starts with two hyphens names an
option, one that starts with a single hyphen is a cluster of one-letter options, a lone `--` ends
the options, and every other word is an operand or the value of the option before it.

A `Grammar` lists the options and the operands of one command, and `Grammar.read` takes the words
from left to right. What has been read is a `Reading`; reading stops early (`Stop`) where a word
does not fit, and where the reader asks for help or for the version. A word that does not fit wins
over a request behind it, and a request over whatever follows.

An option is given once at most. Its value may be attached, behind an equals sign if the option is
spelled in full, or be the next word; the next word must not look like an option, so that a
forgotten value does not swallow one. An operand may be a negative number where the grammar says
so (`Operand.mayBeNegative`).
-/

namespace Colorimetry.Command

/-! ### Grammars -/

/-- What a value has to be. -/
inductive ValueKind where
  /-- Any text, even none. -/
  | text
  /-- Some text. -/
  | path
  /-- A number literal. -/
  | number
  /-- A natural number of at most sixty-four bits. -/
  | count
  deriving DecidableEq, Repr

/-- The value of an option or an operand. -/
inductive Value where
  /-- A text or a path. -/
  | text (s : String)
  /-- A number. -/
  | number (x : Float32)
  /-- A natural number. -/
  | count (n : Nat)

/-- What an option does. -/
inductive Effect where
  /-- It is given or not. -/
  | flag
  /-- It has a value. -/
  | value (kind : ValueKind)
  /-- It asks for help. -/
  | help
  /-- It asks for the version. -/
  | version
  deriving DecidableEq, Repr

/-- An option. -/
structure Switch where
  /-- The name behind two hyphens. -/
  name : String
  /-- The letter behind one hyphen. -/
  letter : Option Char
  /-- What it does. -/
  effect : Effect
  deriving DecidableEq, Repr

/-- An operand. -/
structure Operand where
  /-- What it has to be. -/
  kind : ValueKind
  /-- Whether it may be a number with a minus sign. -/
  mayBeNegative : Bool := false
  deriving DecidableEq, Repr

/-- The options and operands of a command. -/
structure Grammar where
  /-- The options. -/
  switches : List Switch
  /-- The operands, in order. -/
  operands : List Operand := []
  deriving DecidableEq, Repr

/-- Why reading stops. -/
inductive Stop where
  /-- A word does not fit, or one is missing. -/
  | misuse
  /-- The reader asks for help. -/
  | help
  /-- The reader asks for the version. -/
  | version
  deriving DecidableEq, Repr

/-- What has been read. -/
structure Reading where
  /-- The options that were given; a flag has no value. -/
  given : List (String × Option Value) := []
  /-- The operands, in order. -/
  operands : List Value := []

/-! ### Values -/

/-- A natural number of at most sixty-four bits, with an optional plus sign. -/
def readCount? (s : String) : Option Nat :=
  let digits := match s.toList with
    | '+' :: rest => rest
    | cs => cs
  if digits.isEmpty || !digits.all Char.isDigit then none
  else
    let n := Number.Literal.natOfDigits digits
    if n < Nat.pow 2 64 then some n else none

/-- The value that a text stands for. -/
def ValueKind.read? : ValueKind → String → Option Value
  | .text, s => some (.text s)
  | .path, s => if s.isEmpty then none else some (.text s)
  | .number, s => match Number.Literal.read s with
    | .ok literal => some (.number literal.toFloat32)
    | .error _ => none
  | .count, s => (readCount? s).map .count

namespace Reading

/-- Whether an option was given. -/
def has (r : Reading) (name : String) : Bool := r.given.any fun (other, _) => other == name

/-- The value of an option, if it was given. -/
def value? (r : Reading) (name : String) : Option Value := (r.given.lookup name).join

/-- The text that is the value of an option. -/
def text? (r : Reading) (name : String) : Option String :=
  match r.value? name with
  | some (.text s) => some s
  | _ => none

/-- The number that is the value of an option. -/
def number? (r : Reading) (name : String) : Option Float32 :=
  match r.value? name with
  | some (.number x) => some x
  | _ => none

/-- The natural number that is the value of an option. -/
def count? (r : Reading) (name : String) : Option Nat :=
  match r.value? name with
  | some (.count n) => some n
  | _ => none

/-- An option was read. A second time it does not fit. -/
def give (r : Reading) (name : String) (value : Option Value) : Except Stop Reading :=
  if r.has name then .error .misuse else .ok { r with given := r.given ++ [(name, value)] }

/-- An option with a value was read. -/
def giveValue (r : Reading) (name : String) (kind : ValueKind) (s : String) :
    Except Stop Reading :=
  match kind.read? s with
  | some v => r.give name (some v)
  | none => .error .misuse

end Reading

/-! ### Words -/

/-- What a word looks like. -/
inductive Word where
  /-- The end of the options. -/
  | separator
  /-- An option spelled in full, with a value if there is an equals sign. -/
  | long (name : String) (attached : Option String)
  /-- Letters behind one hyphen. -/
  | cluster (letters : List Char)
  /-- Anything else. -/
  | plain (s : String)
  deriving DecidableEq, Repr

/-- The look of a word. A lone hyphen is an operand. -/
def Word.ofString (s : String) : Word :=
  match s.toList with
  | ['-', '-'] => .separator
  | '-' :: '-' :: cs =>
    let name := String.ofList (cs.takeWhile (· != '='))
    match cs.dropWhile (· != '=') with
    | _ :: attached => .long name (some (String.ofList attached))
    | [] => .long name none
  | '-' :: c :: cs => .cluster (c :: cs)
  | _ => .plain s

/-- Digits with at most one point, which neither comes first nor behind an `e`, and at most one
`e`, which comes neither first nor last. -/
def looksNumeric (letters : List Char) : Bool :=
  let mantissa := letters.takeWhile fun c => c != 'e' && c != 'E'
  let isRun (cs : List Char) (points : Nat) : Bool :=
    cs.all (fun c => c.isDigit || c == '.') && decide (cs.count '.' ≤ points)
  isRun mantissa 1 && !mantissa.isEmpty && mantissa.head? != some '.' &&
    match letters.dropWhile fun c => c != 'e' && c != 'E' with
    | [] => true
    | _ :: exponent => isRun exponent 0 && !exponent.isEmpty

/-! ### Reading -/

/-- Where reading stands between two words. -/
structure Progress where
  /-- What has been read. -/
  reading : Reading := {}
  /-- The option whose value is the next word. -/
  awaited : Option (String × ValueKind) := none
  /-- Every further word is an operand. -/
  optionsEnded : Bool := false

namespace Grammar

/-- The option of a letter. -/
def ofLetter? (g : Grammar) (c : Char) : Option Switch :=
  g.switches.find? fun switch => switch.letter == some c

/-- The option of a name. -/
def ofName? (g : Grammar) (name : String) : Option Switch :=
  g.switches.find? fun switch => switch.name == name

/-- The operand that comes next. -/
def nextOperand? (g : Grammar) (r : Reading) : Option Operand := g.operands[r.operands.length]?

/-- An operand was read. -/
def readOperand (g : Grammar) (p : Progress) (s : String) : Except Stop Progress :=
  match (g.nextOperand? p.reading).bind fun operand => operand.kind.read? s with
  | some v => .ok { p with reading.operands := p.reading.operands ++ [v] }
  | none => .error .misuse

/-- An option spelled in full was read. -/
def readLong (g : Grammar) (r : Reading) (name : String) (attached : Option String) :
    Except Stop Progress :=
  match (g.ofName? name).map Switch.effect, attached with
  | none, _ => .error .misuse
  | some (.value kind), some s => (r.giveValue name kind s).map ({ reading := · })
  | some (.value kind), none => .ok { reading := r, awaited := some (name, kind) }
  | some _, some _ => .error .misuse
  | some .flag, none => (r.give name none).map ({ reading := · })
  | some .help, none => .error .help
  | some .version, none => .error .version

/-- A cluster of letters was read. A letter with a value takes the rest of the cluster, an equals
sign in front of it left out, or the next word if there is no rest. -/
def readCluster (g : Grammar) (r : Reading) : List Char → Except Stop Progress
  | [] => .ok { reading := r }
  | c :: rest =>
    match g.ofLetter? c with
    | none => .error .misuse
    | some switch =>
      match switch.effect, rest with
      | .flag, rest => (r.give switch.name none).bind fun r => g.readCluster r rest
      | .help, _ => .error .help
      | .version, _ => .error .version
      | .value kind, [] => .ok { reading := r, awaited := some (switch.name, kind) }
      | .value kind, '=' :: rest =>
        (r.giveValue switch.name kind (String.ofList rest)).map ({ reading := · })
      | .value kind, rest =>
        (r.giveValue switch.name kind (String.ofList rest)).map ({ reading := · })

/-- Whether a cluster is a negative number where one may stand. -/
def isNegativeOperand (g : Grammar) (r : Reading) (letters : List Char) : Bool :=
  ((g.nextOperand? r).map Operand.mayBeNegative).getD false && looksNumeric letters

/-- **One word more.** -/
def step (g : Grammar) (p : Progress) (s : String) : Except Stop Progress :=
  if p.optionsEnded then g.readOperand p s
  else
    match p.awaited, Word.ofString s with
    | some (name, kind), .plain s => (p.reading.giveValue name kind s).map ({ reading := · })
    | some _, _ => .error .misuse
    | none, .separator => .ok { p with optionsEnded := true }
    | none, .long name attached => g.readLong p.reading name attached
    | none, .cluster letters =>
      if g.isNegativeOperand p.reading letters then g.readOperand p s
      else g.readCluster p.reading letters
    | none, .plain s => g.readOperand p s

/-- What the words of a command line say. -/
def read (g : Grammar) (words : List String) : Except Stop Reading := do
  let p ← words.foldlM g.step {}
  if p.awaited.isSome then throw .misuse else return p.reading

end Grammar

end Colorimetry.Command
