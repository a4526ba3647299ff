import Colorimetry.Yaml.Tag

/-!
# Scalars

The five ways in which YAML writes a text, and the text that each stands for.

* A plain scalar (`plain`) ends at a comment, at a colon with a blank behind it, and, in a block,
  on a line that is not indented far enough.
* A single-quoted scalar (`singleQuoted`) knows one escape, the doubled quote.
* A double-quoted scalar (`doubleQuoted`) knows the escapes of `simpleEscape?`, codes of two, four
  and eight hexadecimal digits, and the escaped line break.
* A literal block (`block`) keeps its lines, and a folded one joins them.

The first three may run over several lines, and then fold: the blanks around a line break are
dropped, one line break becomes a space, and of several the first is dropped. `Gap` is the white
space between two characters of such a scalar, and `Gap.text` what it stands for.
-/

namespace Colorimetry.Yaml

/-- How a scalar is written. -/
inductive Style where
  /-- Without quotes. -/
  | plain
  /-- Between quotes of either kind, or as a folded block. -/
  | quoted
  /-- As a literal block. -/
  | literal
  deriving DecidableEq, Repr

/-- A text, how it was written and what it was tagged with. -/
structure Scalar where
  /-- The text. -/
  text : String
  /-- How it was written. -/
  style : Style
  /-- The tag. -/
  tag : Option Tag := none
  deriving DecidableEq, Repr

/-! ### White space inside a scalar -/

/-- The white space between two characters of a scalar. -/
inductive Gap where
  /-- Blanks on one line. -/
  | blanks (cs : List Char)
  /-- A line break, unless it was escaped, and the line breaks behind it. -/
  | lines (first : Option Char) (more : List Char)
  deriving DecidableEq, Repr

namespace Gap

/-- No white space. -/
def empty : Gap := blanks []

/-- Whether there is no white space. -/
def isEmpty : Gap → Bool
  | blanks cs => cs.isEmpty
  | lines .. => false

/-- Whether the gap crosses a line. -/
def crossesLine : Gap → Bool
  | blanks _ => false
  | lines .. => true

/-- A gap with a blank more. Behind a line break blanks do not count. -/
def pushBlank (c : Char) : Gap → Gap
  | blanks cs => blanks (cs ++ [c])
  | lines first more => lines first more

/-- A gap with a line break more. Blanks before a line break do not count. -/
def pushBreak (c : Char) : Gap → Gap
  | blanks _ => lines (some c) []
  | lines first more => lines first (more ++ [c])

/-- The text that a gap stands for. -/
def text : Gap → List Char
  | blanks cs => cs
  | lines (some '\n') [] => [' ']
  | lines (some '\n') more => more
  | lines first more => first.toList ++ more

end Gap

/-! ### Plain scalars -/

/-- What was read of a plain scalar. -/
structure PlainText where
  /-- The text. -/
  text : List Char
  /-- Whether the next token stands on a later line. -/
  fresh : Bool
  /-- What follows. -/
  rest : List Cell

/-- Whether a plain scalar ends before a character, given the white space before it. -/
def endsPlain (flow : Bool) (indent : Nat) (gap : Gap) (c : Cell) (rest : List Cell) : Bool :=
  (!flow && gap.crossesLine && decide (c.column < indent)) ||
    (!gap.isEmpty && c.char == '#') ||
    atMarker (c :: rest) ||
    (c.char == ':' && atBlank rest) ||
    (flow && [',', '[', ']', '{', '}'].contains c.char)

/-- The text of a plain scalar. Lines must be indented to the column `indent`, and not by tabs;
within braces a colon must not stand right before another indicator. -/
def plain (flow : Bool) (indent : Nat) (gap : Gap) : List Cell → Option PlainText
  | [] => some ⟨[], gap.crossesLine, []⟩
  | c :: rest =>
    if c.isBlank then
      if c.char = '\t' ∧ gap.crossesLine ∧ c.column < indent then none
      else plain flow indent (gap.pushBlank c.char) rest
    else if c.isBreak then plain flow indent (gap.pushBreak c.char) rest
    else if endsPlain flow indent gap c rest then some ⟨[], gap.crossesLine, c :: rest⟩
    else if flow ∧ c.char = ':' ∧ atAny [',', '?', '[', ']', '{', '}'] rest then none
    else
      (plain flow indent .empty rest).map fun t =>
        { t with text := gap.text ++ c.char :: t.text }

/-- Characters that cannot begin a plain scalar, whatever follows them. -/
def indicators : List Char :=
  [',', '[', ']', '{', '}', '#', '&', '*', '!', '|', '>', '\'', '"', '%', '@', '\x60']

/-- Whether a plain scalar can begin here. A dash, a question mark and a colon begin one only
before a character that is not blank, and the latter two only outside braces. -/
def beginsPlain (flow : Bool) : List Cell → Bool
  | [] => false
  | c :: rest =>
    if c.char = '-' then !atBlank rest
    else if c.char = '?' ∨ c.char = ':' then !flow && !atBlank rest
    else !(indicators.contains c.char || c.isBlank || c.isBreak)

/-! ### Quoted scalars -/

/-- The text of a single-quoted scalar and what follows its closing quote. -/
def singleQuoted (gap : Gap) : List Cell → Option (List Char × List Cell)
  | [] => none
  | c :: rest =>
    if c.isBlank then singleQuoted (gap.pushBlank c.char) rest
    else if c.isBreak then singleQuoted (gap.pushBreak c.char) rest
    else if atMarker (c :: rest) then none
    else if c.char = '\'' then
      match rest with
      | c' :: rest' =>
        if c'.char = '\'' then
          (singleQuoted .empty rest').map fun (text, after) => (gap.text ++ '\'' :: text, after)
        else some (gap.text, rest)
      | [] => some (gap.text, [])
    else (singleQuoted .empty rest).map fun (text, after) => (gap.text ++ c.char :: text, after)

/-- What a character stands for behind a backslash. -/
def simpleEscape? : Char → Option Char
  | '0' => some '\x00'
  | 'a' => some '\x07'
  | 'b' => some '\x08'
  | 't' => some '\t'
  | '\t' => some '\t'
  | 'n' => some '\n'
  | 'v' => some '\x0b'
  | 'f' => some '\x0c'
  | 'r' => some '\r'
  | 'e' => some '\x1b'
  | ' ' => some ' '
  | '"' => some '"'
  | '/' => some '/'
  | '\\' => some '\\'
  | 'N' => some '\u0085'
  | '_' => some '\u00a0'
  | 'L' => some '\u2028'
  | 'P' => some '\u2029'
  | _ => none

/-- The number of hexadecimal digits that a character announces behind a backslash. -/
def codeLength? : Char → Option Nat
  | 'x' => some 2
  | 'u' => some 4
  | 'U' => some 8
  | _ => none

/-- The character of a code, unless it is a surrogate or beyond the last code point. -/
def charOfCode? (n : Nat) : Option Char :=
  if h : n.isValidChar then some (Char.ofNatAux n h) else none

/-- How far an escape has been read. -/
inductive Escape where
  /-- No backslash is open. -/
  | closed
  /-- The last character was a backslash. -/
  | opened
  /-- Digits of a code are due, and those before them are worth a value. -/
  | code (due value : Nat)
  deriving DecidableEq, Repr

/-- The text of a double-quoted scalar and what follows its closing quote. -/
def doubleQuoted (gap : Gap) (escape : Escape) : List Cell → Option (List Char × List Cell)
  | [] => none
  | c :: rest =>
    match escape with
    | .closed =>
      if c.isBlank then doubleQuoted (gap.pushBlank c.char) .closed rest
      else if c.isBreak then doubleQuoted (gap.pushBreak c.char) .closed rest
      else if atMarker (c :: rest) then none
      else if c.char = '"' then some (gap.text, rest)
      else if c.char = '\\' then
        (doubleQuoted .empty .opened rest).map fun (text, after) => (gap.text ++ text, after)
      else
        (doubleQuoted .empty .closed rest).map fun (text, after) =>
          (gap.text ++ c.char :: text, after)
    | .opened =>
      if c.isBreak then doubleQuoted (.lines none []) .closed rest
      else
        match codeLength? c.char, simpleEscape? c.char with
        | some due, _ => doubleQuoted .empty (.code due 0) rest
        | none, some char =>
          (doubleQuoted .empty .closed rest).map fun (text, after) => (char :: text, after)
        | none, none => none
    | .code due value =>
      match hexValue? c.char with
      | none => none
      | some digit =>
        if due ≤ 1 then
          match charOfCode? (16 * value + digit) with
          | none => none
          | some char =>
            (doubleQuoted .empty .closed rest).map fun (text, after) => (char :: text, after)
        else doubleQuoted .empty (.code (due - 1) (16 * value + digit)) rest

/-! ### Block scalars -/

/-- What becomes of the line breaks at the end of a block. -/
inductive Chomping where
  /-- All are dropped. -/
  | strip
  /-- The first is kept. -/
  | clip
  /-- All are kept. -/
  | keep
  deriving DecidableEq, Repr

/-- What stands on the line that begins a block. -/
structure BlockHeader where
  /-- Whether the lines are kept or folded. -/
  literal : Bool
  /-- What becomes of the line breaks at the end. -/
  chomping : Chomping
  /-- By how much the lines are indented, if that is said. -/
  increment : Option Nat

/-- A sign that says how to chomp. -/
def chomping? (c : Cell) : Option Chomping :=
  if c.char = '+' then some .keep else if c.char = '-' then some .strip else none

/-- A digit that says how far to indent; zero is refused. -/
def increment? (c : Cell) : Option Nat :=
  if c.char.isDigit && c.char != '0' then some (c.char.toNat - '0'.toNat) else none

/-- The header of a block behind its first character, and what follows its line. A sign and a
digit may follow in either order. -/
def blockHeader? (literal : Bool) (cells : List Cell) : Option (BlockHeader × List Cell) :=
  let (header, rest) : BlockHeader × List Cell := match cells with
    | [] => (⟨literal, .clip, none⟩, [])
    | a :: rest =>
      match chomping? a, increment? a with
      | some chomping, _ =>
        match rest with
        | b :: rest' => match increment? b with
          | some n => (⟨literal, chomping, some n⟩, rest')
          | none => (⟨literal, chomping, none⟩, rest)
        | [] => (⟨literal, chomping, none⟩, [])
      | none, some n =>
        match rest with
        | b :: rest' => match chomping? b with
          | some chomping => (⟨literal, chomping, some n⟩, rest')
          | none => (⟨literal, .clip, some n⟩, rest)
        | [] => (⟨literal, .clip, some n⟩, [])
      | none, none => (⟨literal, .clip, none⟩, cells)
  (endLine? rest).map fun after => (header, after)

/-- The greatest column that is reached by the spaces of the empty lines at the start of a block
and of the first line that is not empty. A tab in their place is refused. -/
def leadingColumn? (deepest : Nat) : List Cell → Option Nat
  | [] => some deepest
  | c :: rest =>
    if c.char = ' ' then leadingColumn? (max deepest (c.column + 1)) rest
    else if c.char = '\t' then none
    else if c.isBreak then leadingColumn? deepest rest
    else some deepest

/-- What a block holds before the line that is being read. -/
structure BlockLines where
  /-- The line break of the last line, if there was a line. -/
  last : List Char := []
  /-- The breaks of the empty lines behind it. -/
  empty : List Char := []
  /-- Whether the last line began with a blank. -/
  indented : Bool := false

/-- What joins a line to those before it. Where lines are folded, a single line break between two
lines that do not begin with a blank becomes a space, and is dropped before empty lines. -/
def BlockLines.join (lines : BlockLines) (literal startsBlank : Bool) : List Char :=
  if !literal && lines.last == ['\n'] && !lines.indented && !startsBlank then
    if lines.empty.isEmpty then [' '] else lines.empty
  else lines.last ++ lines.empty

/-- What the end of a block leaves of the line breaks before it. -/
def BlockLines.chomp (lines : BlockLines) : Chomping → List Char
  | .strip => []
  | .clip => lines.last
  | .keep => lines.last ++ lines.empty

/-- The lines of a block that are indented to a column, and what follows the block. Within a line
(`inLine`) every character counts; between lines spaces up to the column are passed over, and a
tab in their place is refused. -/
def blockLines (header : BlockHeader) (indent : Nat) (inLine : Bool) (lines : BlockLines) :
    List Cell → Option (List Char × List Cell)
  | [] => some (lines.chomp header.chomping, [])
  | c :: rest =>
    if inLine then
      if c.isBreak then
        blockLines header indent false { lines with last := [c.char], empty := [] } rest
      else
        (blockLines header indent true lines rest).map fun (text, after) => (c.char :: text, after)
    else if c.char = ' ' ∧ c.column < indent then blockLines header indent false lines rest
    else if c.char = '\t' ∧ c.column < indent then none
    else if c.isBreak then
      blockLines header indent false { lines with empty := lines.empty ++ [c.char] } rest
    else if c.column = indent then
      (blockLines header indent true { indented := c.isBlank } rest).map fun (text, after) =>
        (lines.join header.literal c.isBlank ++ c.char :: text, after)
    else some (lines.chomp header.chomping, c :: rest)

/-- The text of a block behind its first character, and what follows the block. Unless the header
says how far the lines are indented, the first line that is not empty does; in either case
further than the keys of the innermost mapping, which stand in the column `parent`. -/
def block (literal : Bool) (parent : Option Nat) (cells : List Cell) :
    Option (List Char × List Cell) := do
  let (header, rest) ← blockHeader? literal cells
  let indent ← match header.increment with
    | some n => some (parent.getD 0 + n)
    | none => (leadingColumn? 0 rest).map fun column => max column (parent.elim 1 (· + 1))
  blockLines header indent false {} rest

end Colorimetry.Yaml
