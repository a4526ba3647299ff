/-!
# Characters in their places

A YAML text is read by line and column: the column in which a line begins says which mapping it
belongs to, and a key stands on one line. `Cell.ofString?` puts every character of a text into its
place, and refuses a text with a control character. The five spellings of a line break are taken
together here: the carriage return, the line feed, both, and the next-line character all become a
line feed, while the line and paragraph separators stay what they are.
-/

namespace Colorimetry.Yaml

/-- A character in its place. -/
structure Cell where
  /-- The character. -/
  char : Char
  /-- The line, counted from zero. -/
  line : Nat
  /-- The column, counted from zero. -/
  column : Nat
  deriving DecidableEq, Repr

namespace Cell

/-- A character that may stand in a text: a tab, a line break or a printable character. -/
def isAllowed (c : Char) : Bool :=
  let n := c.toNat
  n == 0x09 || n == 0x0a || n == 0x0d || decide (0x20 ≤ n ∧ n ≤ 0x7e) || n == 0x85 ||
    decide (0xa0 ≤ n ∧ n ≤ 0xfffd) || decide (0x10000 ≤ n)

/-- A line break, among characters that have been put into their places. -/
def isBreakChar (c : Char) : Bool := c == '\n' || c == '\u2028' || c == '\u2029'

/-- The byte order mark. -/
def byteOrderMark : Char := '\ufeff'

/-- The characters of a text in their places, the first at a given line and column. -/
def place (line column : Nat) : List Char → List Cell
  | [] => []
  | '\r' :: '\n' :: rest => ⟨'\n', line, column⟩ :: place (line + 1) 0 rest
  | c :: rest =>
    let c := if c = '\r' ∨ c = '\u0085' then '\n' else c
    if isBreakChar c then ⟨c, line, column⟩ :: place (line + 1) 0 rest
    else ⟨c, line, column⟩ :: place line (column + 1) rest

/-- **The characters of a text in their places.** -/
def ofString? (s : String) : Option (List Cell) :=
  if s.toList.all isAllowed then some (place 0 0 s.toList) else none

/-- A line break. -/
def isBreak (c : Cell) : Bool := isBreakChar c.char

/-- A space or a tab. -/
def isBlank (c : Cell) : Bool := c.char == ' ' || c.char == '\t'

/-- A character of an anchor, of the name of a directive, or of a tag handle. -/
def isWord (c : Cell) : Bool := c.char.isAlphanum || c.char == '-' || c.char == '_'

end Cell

/-! ### What follows -/

/-- Nothing, a blank or a line break follows. -/
def atBlank : List Cell → Bool
  | [] => true
  | c :: _ => c.isBlank || c.isBreak

/-- One of some characters follows. -/
def atAny (chars : List Char) : List Cell → Bool
  | [] => false
  | c :: _ => chars.contains c.char

/-- An indicator follows: one character with a blank, a line break or nothing behind it. -/
def atIndicator (char : Char) : List Cell → Bool
  | [] => false
  | c :: rest => c.char == char && atBlank rest

/-- At the start of a line a character follows three times, and behind it a blank, a line break or
nothing. -/
def atTriple (char : Char) : List Cell → Bool
  | a :: b :: c :: rest =>
    a.column == 0 && a.char == char && b.char == char && c.char == char && atBlank rest
  | _ => false

/-- The start or the end of a document follows. -/
def atMarker (cells : List Cell) : Bool := atTriple '-' cells || atTriple '.' cells

/-! ### The space between tokens -/

/-- What stands behind blanks, comments and line breaks, and whether a line was begun there on
which only spaces have been passed. A tab does not indent: on such a line it is not passed over,
except within braces (`flow`), where lines do not matter. A byte order mark at the start of a line
is passed over, and takes up a column. -/
def skip (flow fresh comment : Bool) : List Cell → Bool × List Cell
  | [] => (fresh, [])
  | c :: rest =>
    if c.isBreak then skip flow (fresh || !flow) false rest
    else if comment then skip flow fresh true rest
    else if c.char = ' ' then skip flow fresh false rest
    else if c.char = '\t' ∧ (flow ∨ !fresh) then skip flow fresh false rest
    else if c.char = Cell.byteOrderMark ∧ c.column = 0 then skip flow fresh false rest
    else if c.char = '#' then skip flow fresh true rest
    else (fresh, c :: rest)

/-- What stands behind the blanks of a line. -/
def skipBlanks (cells : List Cell) : List Cell := cells.dropWhile Cell.isBlank

/-- The rest of a line may hold blanks and a comment and nothing else; what follows is the next
line. -/
def endLine? (cells : List Cell) : Option (List Cell) :=
  match skipBlanks cells with
  | [] => some []
  | c :: rest =>
    if c.isBreak then some rest
    else if c.char = '#' then some ((rest.dropWhile fun c => !c.isBreak).drop 1)
    else none

end Colorimetry.Yaml
