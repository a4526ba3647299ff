import Colorimetry.Yaml.Schema

/-!
# Writing texts as scalars

A text is written in the plainest of four ways in which it reads back as the same text
(`writeText`): without quotes, between single quotes, as a literal block if it has several lines,
and between double quotes if it has a character that only an escape can write. A text that could be
taken for a number, a truth value or nothing at all is quoted (`looksTyped`).

The value of an entry is indented by two columns, which shows where a scalar runs over several
lines.
-/

namespace Colorimetry.Yaml

/-! ### What a text looks like -/

/-- A character that needs no escape: a line feed, or a printable character other than the byte
order mark. -/
def isPrintable (c : Char) : Bool :=
  let n := c.toNat
  n == 0x0a || decide (0x20 ≤ n ∧ n ≤ 0x7e) ||
    (decide (0xa0 ≤ n ∧ n ≤ 0xfffd) && n != 0xfeff) || decide (0x10000 ≤ n)

/-- A line break inside a text that is written. -/
def breaksLine (c : Char) : Bool :=
  c == '\r' || c == '\n' || c == '\u0085' || c == '\u2028' || c == '\u2029'

/-- A blank, a line break or the end stands in a place. -/
def blankOrEnd : Option Char → Bool
  | none => true
  | some c => c == ' ' || c == '\t' || breaksLine c

/-- Whether the first character of a plain scalar would be taken for an indicator. -/
def startsIndicator : List Char → Bool
  | [] => false
  | c :: rest =>
    ['#', ',', '[', ']', '{', '}', '&', '*', '!', '|', '>', '\'', '"', '%', '@', '\x60'].contains
        c ||
      (['?', ':', '-'].contains c && blankOrEnd rest.head?)

/-- Whether one of the later characters of a plain scalar would be taken for an indicator: a colon
before a blank or a number sign behind one. -/
def holdsIndicator (previous : Char) : List Char → Bool
  | [] => false
  | c :: rest =>
    (c == ':' && blankOrEnd rest.head?) || (c == '#' && blankOrEnd (some previous)) ||
      holdsIndicator c rest

/-- Whether a space stands right before a line break. -/
def spaceBeforeBreak : List Char → Bool
  | a :: b :: rest => (a == ' ' && breaksLine b) || spaceBeforeBreak (b :: rest)
  | _ => false

/-- Whether a space stands right behind a line break. -/
def spaceBehindBreak : List Char → Bool
  | a :: b :: rest => (breaksLine a && b == ' ') || spaceBehindBreak (b :: rest)
  | _ => false

/-- Whether the marker of a document stands at the start. -/
def startsMarker (cs : List Char) : Bool :=
  ['-', '-', '-'].isPrefixOf cs || ['.', '.', '.'].isPrefixOf cs

/-- A text that only escapes can write. -/
def needsEscapes (cs : List Char) : Bool := !cs.all isPrintable || spaceBeforeBreak cs

/-- A text that can be written without quotes. -/
def allowsPlain (cs : List Char) : Bool :=
  !(needsEscapes cs || cs.any breaksLine || startsMarker cs || startsIndicator cs ||
    (match cs with
      | [] => false
      | c :: rest => c == ' ' || holdsIndicator c rest) ||
    cs.getLast? == some ' ')

/-- A text that can be written between single quotes. -/
def allowsSingle (cs : List Char) : Bool := !(needsEscapes cs || spaceBehindBreak cs)

/-- A text that can be written as a literal block. -/
def allowsLiteral (cs : List Char) : Bool := !(needsEscapes cs || cs.getLast? == some ' ')

/-! ### The four ways -/

/-- The indentation of a line of a value. -/
def indentation : List Char := [' ', ' ']

/-- The characters between single quotes. Behind line breaks, of which a line feed is written
twice at first, the next character is indented. -/
def singleBody (behindBreak : Bool) : List Char → List Char
  | [] => if behindBreak then indentation else []
  | c :: rest =>
    if breaksLine c then
      (if !behindBreak && c == '\n' then ['\n', c] else [c]) ++ singleBody true rest
    else
      (if behindBreak then indentation else []) ++ (if c == '\'' then ['\'', '\''] else [c]) ++
        singleBody false rest

/-- A text between single quotes. -/
def single (cs : List Char) : List Char := '\'' :: singleBody false cs ++ ['\'']

/-- A code in a given number of upper-case hexadecimal digits. -/
def hexCode (width n : Nat) : List Char :=
  let digits := (Nat.toDigits 16 n).map Char.toUpper
  List.replicate (width - digits.length) '0' ++ digits

/-- A character as it is escaped. -/
def escaped (c : Char) : List Char :=
  match c with
  | '\x00' => ['\\', '0']
  | '\x07' => ['\\', 'a']
  | '\x08' => ['\\', 'b']
  | '\t' => ['\\', 't']
  | '\n' => ['\\', 'n']
  | '\x0b' => ['\\', 'v']
  | '\x0c' => ['\\', 'f']
  | '\r' => ['\\', 'r']
  | '\x1b' => ['\\', 'e']
  | '"' => ['\\', '"']
  | '\\' => ['\\', '\\']
  | '\u0085' => ['\\', 'N']
  | '\u2028' => ['\\', 'L']
  | '\u2029' => ['\\', 'P']
  | c =>
    let n := c.toNat
    if n ≤ 0xff then '\\' :: 'x' :: hexCode 2 n
    else if n ≤ 0xffff then '\\' :: 'u' :: hexCode 4 n
    else '\\' :: 'U' :: hexCode 8 n

/-- A text between double quotes. -/
def double (cs : List Char) : List Char :=
  let body := cs.flatMap fun c =>
    if isPrintable c && !breaksLine c && c != '"' && c != '\\' then [c] else escaped c
  '"' :: body ++ ['"']

/-- The sign that keeps or drops the line breaks at the end of a literal block: none if there is
one line break, a minus if there is none, and a plus if there are several. -/
def chompingSign (cs : List Char) : List Char :=
  match cs.reverse with
  | [] => ['-']
  | a :: rest =>
    if !breaksLine a then ['-']
    else match rest with
      | [] => ['+']
      | b :: _ => if breaksLine b then ['+'] else []

/-- The lines of a literal block, each that is not empty indented. -/
def literalBody (behindBreak : Bool) : List Char → List Char
  | [] => []
  | c :: rest =>
    if breaksLine c then c :: literalBody true rest
    else (if behindBreak then indentation else []) ++ c :: literalBody false rest

/-- A text as a literal block. The indentation is said where the text itself begins with a blank
or a line break. -/
def literal (cs : List Char) : List Char :=
  let hint := match cs with
    | c :: _ => if c == ' ' || breaksLine c then ['2'] else []
    | [] => []
  '|' :: hint ++ chompingSign cs ++ '\n' :: literalBody true cs

/-- **A text as the value of an entry.** -/
def writeText (s : String) : String :=
  let cs := s.toList
  String.ofList <|
    if cs.contains '\n' then if allowsLiteral cs then literal cs else double cs
    else if !looksTyped s && allowsPlain cs then cs
    else if allowsSingle cs then single cs
    else double cs

/-- An entry of a block mapping, with the line break behind it. A literal block that ends in a
line break brings that break itself. -/
def writeEntry (key value : String) : String :=
  key ++ ": " ++ value ++ (if (value.toList.getLast?.map breaksLine).getD false then "" else "\n")

end Colorimetry.Yaml
