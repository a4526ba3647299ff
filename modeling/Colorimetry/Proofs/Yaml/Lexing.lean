import Mathlib
import Colorimetry.Proofs.Yaml.Lines

/-!
# The tokens of lines

Three tokens make a line. The key is held back, since a colon may follow; the colon shows that it was
one, and on the first line that a mapping begins; the scalar behind it cannot be a key any more.

The lexer is in one of two states between two lines: behind a plain scalar it has passed the line break
already, to see whether the scalar goes on, and behind a quote it has not. `ReachesLine` is what both
have in common, the invariant of the induction over the lines (`tokens?_document`): with the white
space skipped, it stands at the start of the next line.
-/

namespace Colorimetry.Yaml

open Lexer

variable {line column : ℕ} {cs : List Char} {rest after : List Cell}

/-! ### One step -/

/-- Of the white space between tokens a space is passed over, -/
theorem skip_space {fresh : Bool} :
    skip false fresh false (⟨' ', line, column⟩ :: rest) = skip false fresh false rest := by
  simp [skip, Cell.isBreak, Cell.isBreakChar]

/-- and no other printable character is, unless it begins a comment. -/
theorem skip_of_ne {c : Char} {fresh : Bool} (hc : IsAscii c) (hspace : c ≠ ' ') (hsign : c ≠ '#') :
    skip false fresh false (⟨c, line, column⟩ :: rest) = (fresh, ⟨c, line, column⟩ :: rest) := by
  have hmark : c ≠ Cell.byteOrderMark := hc.ne (by decide)
  simp [skip, Cell.isBreak, hc.isBreakChar, hspace, hc.ne_tab, hmark, hsign]

/-- **A step of the lexer**: white space, what the place of a token ends, and the token. -/
theorem tokens?_of_next? {s s' : Lexer} {cells here : List Cell} {c : Cell} {fresh : Bool}
    {ended : List Token} {step : Step}
    (hskip : skip s.braces s.fresh false cells = (fresh, c :: here))
    (harrive : { s with fresh }.arriveAt? c = some (ended, s'))
    (hnext : s'.next? c here = some step) (hlt : step.rest.length < cells.length) :
    tokens? s cells =
      (tokens? step.lexer step.rest).map fun tokens => ended ++ step.tokens ++ tokens := by
  rw [tokens?, hskip]
  simp only [harrive, hnext, Option.bind_eq_bind, Option.bind_some, hlt, dite_true]
  cases tokens? step.lexer step.rest <;> rfl

section Plain

variable {c : Char}

/-- What the first character of a plain scalar is not. -/
theorem IsPlain.ne (h : IsPlain (c :: cs)) : ∀ c' ∈ ['#', ',', '[', ']', '{', '}', '&', '*', '!', '|',
    '>', '\'', '"', '%', '@', '\x60', ' '], c ≠ c' := by
  have hstart := h.start
  have hhead := h.head
  simp only [startsIndicator, Bool.or_eq_false_iff, List.contains_eq_mem, decide_eq_false_iff_not,
    List.mem_cons, not_or] at hstart
  simp_all

/-- A dash, a question mark and a colon begin a plain scalar before a character that is not blank. -/
theorem IsPlain.atBlank (h : IsPlain (c :: cs)) (hc : c = '?' ∨ c = ':' ∨ c = '-') :
    atBlank (row line column cs ++ rest) = false := by
  refine atBlank_row (fun c' hc' => h.ascii c' (by simp [hc'])) ?_
  have hstart := h.start
  rcases hc with rfl | rfl | rfl <;> simpa [startsIndicator] using hstart

/-- **A plain scalar is read as a whole**, wherever it stands. -/
theorem IsPlain.plain (h : IsPlain (c :: cs)) {indent : ℕ} {fresh : Bool}
    (hmarker : column = 0 → c ≠ '-' ∧ c ≠ '.')
    (hend : plain false indent .empty rest = some ⟨[], fresh, after⟩) :
    Yaml.plain false indent .empty (⟨c, line, column⟩ :: (row line (column + 1) cs ++ rest)) =
      some ⟨c :: cs, fresh, after⟩ := by
  have hsign : c ≠ '#' := h.ne '#' (by simp)
  have hcolon : (c == ':' && blankOrEnd cs.head?) = false := by
    have hstart := h.start
    by_cases hc : c = ':'
    · subst hc
      simpa [startsIndicator] using hstart
    · simp [hc]
  -- what stands before the scalar does not matter
  have hholds : holdsIndicator ':' (c :: cs) = false := by
    have hnumber : (c == '#') = false := by simpa using hsign
    simp only [holdsIndicator, hcolon, hnumber, h.tail c cs rfl, Bool.false_and, Bool.or_self]
  have hlast : (':' :: c :: cs).getLast? ≠ some ' ' := by simpa using h.last
  have hrow : Yaml.plain false indent (.blanks []) (row line column (c :: cs) ++ rest) =
      some ⟨if c :: cs = [] then [] else [] ++ c :: cs, fresh, after⟩ :=
    plain_row h.ascii (by simpa using hmarker) hholds (by simp) hlast hend
  rw [if_neg h.ne_nil] at hrow
  exact hrow

/-- A plain scalar begins with no character that begins anything else, so it is read as a node. -/
theorem next?_plain {s : Lexer} {fresh : Bool} (hbraces : s.braces = false)
    (hplain : IsPlain (c :: cs)) (hmarker : column = 0 → c ≠ '-' ∧ c ≠ '.')
    (hend : plain false (s.columns.head?.elim 0 (· + 1)) .empty rest = some ⟨[], fresh, after⟩) :
    s.next? ⟨c, line, column⟩ (row line (column + 1) cs ++ rest) =
      s.nodeToken? ⟨c, line, column⟩ (.scalar (c :: cs) .plain) fresh after := by
  have hne := hplain.ne
  have htriple : ∀ char, (char = '-' ∨ char = '.') →
      atTriple char (⟨c, line, column⟩ :: (row line (column + 1) cs ++ rest)) = false := by
    intro char hchar
    rcases Nat.eq_zero_or_pos column with rfl | hcolumn
    · obtain ⟨hdash, hpoint⟩ := hmarker rfl
      rcases hchar with rfl | rfl
      · exact atTriple_of_ne hdash
      · exact atTriple_of_ne hpoint
    · exact atTriple_of_column hcolumn.ne'
  have hquestion : ¬(c = '?' ∧ (s.braces ∨ atBlank (row line (column + 1) cs ++ rest))) := by
    rintro ⟨hc, hblank⟩
    simp [hbraces, hplain.atBlank (.inl hc)] at hblank
  have hcolon : ¬(c = ':' ∧ (s.braces ∨ atBlank (row line (column + 1) cs ++ rest))) := by
    rintro ⟨hc, hblank⟩
    simp [hbraces, hplain.atBlank (.inr (.inl hc))] at hblank
  have hbegins : beginsPlain false (⟨c, line, column⟩ :: (row line (column + 1) cs ++ rest)) := by
    by_cases hmark : c = '?' ∨ c = ':' ∨ c = '-'
    · rcases hmark with rfl | rfl | rfl <;> simp [beginsPlain, hplain.atBlank]
    · have hc : IsAscii c := hplain.ascii c (by simp)
      simp only [not_or] at hmark
      simp only [List.mem_cons, forall_eq_or_imp, List.not_mem_nil, false_imp_iff, forall_const,
        and_true] at hne
      simp [beginsPlain, hmark, indicators, Cell.isBlank, Cell.isBreak, hne, hc.ne_tab,
        hc.isBreakChar]
  have htext : plain false (s.columns.head?.elim 0 (· + 1)) .empty
      (⟨c, line, column⟩ :: (row line (column + 1) cs ++ rest)) = some ⟨c :: cs, fresh, after⟩ :=
    hplain.plain hmarker hend
  -- none of the branches before the last one applies to the character
  have hcontent : s.content? ⟨c, line, column⟩ (row line (column + 1) cs ++ rest) =
      s.nodeToken? ⟨c, line, column⟩ (.scalar (c :: cs) .plain) fresh after := by
    unfold Lexer.content?
    split <;> simp_all
  rw [next?]
  simp [hne, htriple, hquestion, hcolon, hcontent]

end Plain

/-- A quote begins a scalar of its own. -/
theorem next?_single {s : Lexer} (hcs : ∀ c ∈ cs, IsAscii c) (hcolumn : column ≠ 0)
    (hrest : ∀ c ∈ rest.head?, c.char ≠ '\'') :
    s.next? ⟨'\'', line, column⟩ (row line (column + 1) (singleBody false cs ++ ['\'']) ++ rest) =
      s.nodeToken? ⟨'\'', line, column⟩ (.scalar cs .quoted) false rest := by
  have htext : singleQuoted .empty
      (row line (column + 1) (singleBody false cs ++ ['\'']) ++ rest) = some (cs, rest) :=
    singleQuoted_row hcs [] (column + 1) (by omega) hrest
  rw [next?]
  simp [atTriple_of_column hcolumn, Lexer.content?, htext]

/-! ### The tokens of a line -/

/-- Where the lexer is between two lines, with the line break behind it or before it. -/
structure ReachesLine (fresh : Bool) (cells here : List Cell) : Prop where
  /-- Behind the white space the line begins. -/
  skip_eq : skip false fresh false cells = (true, here)
  /-- There is no more of the text than before. -/
  length_le : here.length ≤ cells.length

namespace Line

variable (l : Line) {fresh : Bool} {cells : List Cell} {columns : List ℕ}

/-- The place of the key. -/
def keyCell (line : ℕ) : Cell := ⟨l.key.head l.isKey.ne_nil, line, 0⟩

/-- The key as it is held back: behind the first line there must be one. -/
def heldKey (line : ℕ) (columns : List ℕ) : Held where
  start := l.keyCell line
  required := columns.head? == some 0
  tokens := [.scalar l.key .plain]

theorem isWordChar_key {c : Char} (h : c ∈ l.key) : IsWordChar c := by
  rcases l.isKey.letters c h with hc | rfl
  · exact .inl (by simp [Char.isAlphanum, hc])
  · exact .inr (.inr (.inr rfl))

theorem key_ne {c : Char} (h : c ∈ l.key) : c ≠ '-' ∧ c ≠ '.' := by
  rcases l.isKey.letters c h with hc | rfl
  · constructor <;> rintro rfl <;> exact absurd hc (by decide)
  · decide

theorem isPlain_key : IsPlain l.key := by
  refine .of_isWordChar l.isKey.ne_nil ?_ fun c => l.isWordChar_key
  intro h
  exact (l.key_ne (h ▸ List.mem_singleton_self '-')).1 rfl

/-- A line begins with its key. -/
theorem row_key : row line 0 l.key = l.keyCell line :: row line 1 l.key.tail := by
  obtain ⟨c, cs, hcons⟩ := List.exists_cons_of_ne_nil l.isKey.ne_nil
  simp only [keyCell, hcons, row, List.head_cons, List.tail_cons]

/-- **The key is held back.** -/
theorem tokens?_key (hcolumns : columns = [] ∨ columns = [0])
    (hreaches : ReachesLine fresh cells
      (row line 0 l.key ++ ⟨':', line, column⟩ :: ⟨' ', line, column + 1⟩ :: rest)) :
    tokens? { columns := columns, fresh := fresh } cells =
      tokens? { columns := columns, fresh := false, held := some (l.heldKey line columns) }
        (⟨':', line, column⟩ :: ⟨' ', line, column + 1⟩ :: rest) := by
  obtain ⟨hskip, hlength⟩ := hreaches
  obtain ⟨c, cs, hcons⟩ := List.exists_cons_of_ne_nil l.isKey.ne_nil
  have hplain := l.isPlain_key
  have hmarker := l.key_ne (c := c) (by simp [hcons])
  rw [hcons] at hskip hlength hplain
  have hend : plain false (columns.head?.elim 0 (· + 1)) .empty
      (⟨':', line, column⟩ :: ⟨' ', line, column + 1⟩ :: rest) =
        some ⟨[], false, ⟨':', line, column⟩ :: ⟨' ', line, column + 1⟩ :: rest⟩ := by
    simp [plain, Cell.isBlank, Cell.isBreak, Cell.isBreakChar, endsPlain, atBlank, Gap.empty,
      Gap.crossesLine]
  have harrive : ({ columns := columns, fresh := true } : Lexer).arriveAt? ⟨c, line, 0⟩ =
      some ([], { columns := columns, fresh := true }) := by
    rcases hcolumns with rfl | rfl <;> rfl
  have hnext : ({ columns := columns, fresh := true } : Lexer).next? ⟨c, line, 0⟩
      (row line 1 cs ++ ⟨':', line, column⟩ :: ⟨' ', line, column + 1⟩ :: rest) =
        some ⟨[], { columns := columns, fresh := false, held := some (l.heldKey line columns) },
          ⟨':', line, column⟩ :: ⟨' ', line, column + 1⟩ :: rest⟩ := by
    rw [next?_plain rfl hplain (fun _ => hmarker) hend]
    simp [nodeToken?, release?, heldKey, keyCell, hcons]
  rw [tokens?_of_next? hskip harrive hnext]
  · simp
  · simp only [row, List.cons_append, List.length_cons, List.length_append] at hlength ⊢
    omega

/-- **The colon shows that there was a key**, and in the first line a mapping. -/
theorem tokens?_colon (hcolumns : columns = [] ∨ columns = [0]) :
    tokens? { columns := columns, fresh := false, held := some (l.heldKey line columns) }
        (⟨':', line, l.key.length⟩ :: ⟨' ', line, column⟩ :: rest) =
      (tokens? { columns := [0], fresh := false } (⟨' ', line, column⟩ :: rest)).map fun tokens =>
        (if columns = [] then [.mark .blockStart] else []) ++
          [.mark .key, .scalar l.key .plain, .mark .value] ++ tokens := by
  have hreach := l.isKey.length_le
  have harrive : ({ columns := columns, fresh := false, held := some (l.heldKey line columns) } :
      Lexer).arriveAt? ⟨':', line, l.key.length⟩ =
        some ([], { columns := columns, fresh := false, held := some (l.heldKey line columns) }) := by
    rcases hcolumns with rfl | rfl <;>
      simp [arriveAt?, Held.reaches, heldKey, keyCell, hreach, closeFrom]
  have hnext : ({ columns := columns, fresh := false, held := some (l.heldKey line columns) } :
      Lexer).next? ⟨':', line, l.key.length⟩ (⟨' ', line, column⟩ :: rest) =
        some ⟨(if columns = [] then [.mark .blockStart] else []) ++
          [.mark .key, .scalar l.key .plain, .mark .value],
          { columns := [0], fresh := false }, ⟨' ', line, column⟩ :: rest⟩ := by
    rcases hcolumns with rfl | rfl <;>
      simp [next?, atTriple_of_ne, atBlank, Cell.isBlank, valueMark?, openAt, heldKey, keyCell]
  rw [tokens?_of_next? (skip_of_ne (by decide) (by decide) (by decide)) harrive hnext]
  · simp
  · simp

/-- What stands behind a line: nothing, or a word at the start of the next line. -/
def StartsLine (cells : List Cell) : Prop := ∀ c ∈ cells.head?, c.column = 0 ∧ IsWordChar c.char

/-- The lexer that has passed a line break stands at the start of a line, -/
theorem StartsLine.reachesLine (h : StartsLine cells) : ReachesLine true cells cells where
  skip_eq := by
    cases cells with
    | nil => rfl
    | cons c rest =>
      have hword := (h c rfl).2
      exact skip_of_ne hword.isAscii (hword.ne (by decide)) (hword.ne (by decide))
  length_le := le_rfl

/-- and before the line break it comes to stand there. -/
theorem StartsLine.reachesLine_break (h : StartsLine cells) :
    ReachesLine false (⟨'\n', line, column⟩ :: cells) cells where
  skip_eq := by simpa [skip, Cell.isBreak, Cell.isBreakChar] using h.reachesLine.skip_eq
  length_le := by simp

/-- A plain scalar ends with its line if the next line begins in the column of the keys. -/
theorem StartsLine.plain (h : StartsLine cells) :
    Yaml.plain false 1 .empty (⟨'\n', line, column⟩ :: cells) = some ⟨[], true, cells⟩ := by
  have hbreak : Cell.isBreak ⟨'\n', line, column⟩ = true := rfl
  cases cells with
  | nil => simp [Yaml.plain, Cell.isBlank, hbreak, Gap.empty, Gap.pushBreak, Gap.crossesLine]
  | cons c rest =>
    obtain ⟨hcolumn, hword⟩ := h c rfl
    have hspace : c.char ≠ ' ' := hword.ne (by decide)
    have hnoBreak : Cell.isBreak c = false := hword.isAscii.isBreakChar
    simp [Yaml.plain, Cell.isBlank, hbreak, hnoBreak, Gap.empty, Gap.pushBreak, Gap.crossesLine,
      endsPlain, hcolumn, hspace, hword.isAscii.ne_tab]

/-- **The scalar behind a colon is the value.** -/
theorem tokens?_value (line column n : ℕ) (hcells : StartsLine cells) :
    ∃ fresh' cells', ReachesLine fresh' cells' cells ∧
      tokens? { columns := [0], fresh := false }
          (⟨' ', line, column⟩ ::
            (row line (column + 1) l.written ++ ⟨'\n', line, n⟩ :: cells)) =
        (tokens? { columns := [0], fresh := fresh' } cells').map fun tokens =>
          .scalar l.text l.style :: tokens := by
  obtain ⟨-, text, style, written, -, hwritten⟩ := l
  have harrive : ∀ c : Char, ({ columns := [0], fresh := false } : Lexer).arriveAt?
      ⟨c, line, column + 1⟩ = some ([], { columns := [0], fresh := false }) := fun c => rfl
  cases hwritten with
  | plain hplain =>
    -- the scan of the scalar runs over the line break to see whether the scalar goes on
    refine ⟨true, cells, hcells.reachesLine, ?_⟩
    obtain ⟨c, cs, rfl⟩ := List.exists_cons_of_ne_nil hplain.ne_nil
    have hnext : ({ columns := [0], fresh := false } : Lexer).next? ⟨c, line, column + 1⟩
        (row line (column + 1 + 1) cs ++ ⟨'\n', line, n⟩ :: cells) =
          some ⟨[.scalar (c :: cs) .plain], { columns := [0], fresh := true }, cells⟩ :=
      next?_plain rfl hplain (by omega) hcells.plain
    have hskip : skip false false false (⟨' ', line, column⟩ ::
        (row line (column + 1) (c :: cs) ++ ⟨'\n', line, n⟩ :: cells)) =
          (false, row line (column + 1) (c :: cs) ++ ⟨'\n', line, n⟩ :: cells) :=
      skip_space.trans
        (skip_of_ne (hplain.ascii c (by simp)) (hplain.ne ' ' (by simp)) (hplain.ne '#' (by simp)))
    rw [tokens?_of_next? hskip (harrive c) hnext]
    · rfl
    · simp only [row, List.length_cons, List.length_append]
      omega
  | single hcs =>
    -- the scan ends at the quote, before the line break
    refine ⟨false, ⟨'\n', line, n⟩ :: cells, hcells.reachesLine_break, ?_⟩
    have hnext : ({ columns := [0], fresh := false } : Lexer).next? ⟨'\'', line, column + 1⟩
        (row line (column + 1 + 1) (singleBody false text ++ ['\'']) ++ ⟨'\n', line, n⟩ :: cells) =
          some ⟨[.scalar text .quoted], { columns := [0], fresh := false },
            ⟨'\n', line, n⟩ :: cells⟩ :=
      next?_single hcs (by omega) (by simp)
    have hskip : skip false false false (⟨' ', line, column⟩ ::
        (row line (column + 1) (single text) ++ ⟨'\n', line, n⟩ :: cells)) =
          (false, row line (column + 1) (single text) ++ ⟨'\n', line, n⟩ :: cells) :=
      skip_space.trans (skip_of_ne (by decide) (by decide) (by decide))
    rw [tokens?_of_next? hskip (harrive '\'') hnext]
    · rfl
    · simp [single]

/-! ### Lines and documents -/

/-- **A line is read as its tokens**, and the first one begins the mapping. -/
theorem tokens?_line {here : List Cell} (hcolumns : columns = [] ∨ columns = [0])
    (hhere : StartsLine here)
    (hreaches : ReachesLine fresh cells
      (row line 0 l.chars ++ ⟨'\n', line, l.chars.length⟩ :: here)) :
    ∃ fresh' cells', ReachesLine fresh' cells' here ∧
      tokens? { columns := columns, fresh := fresh } cells =
        (tokens? { columns := [0], fresh := fresh' } cells').map fun tokens =>
          (if columns = [] then [.mark .blockStart] else []) ++ l.tokens ++ tokens := by
  obtain ⟨fresh', cells', hnext, hvalue⟩ :=
    l.tokens?_value line (l.key.length + 1) l.chars.length hhere
  refine ⟨fresh', cells', hnext, ?_⟩
  have hrow : row line 0 l.chars ++ ⟨'\n', line, l.chars.length⟩ :: here =
      row line 0 l.key ++ ⟨':', line, l.key.length⟩ :: ⟨' ', line, l.key.length + 1⟩ ::
        (row line (l.key.length + 1 + 1) l.written ++ ⟨'\n', line, l.chars.length⟩ :: here) := by
    simp [chars, row_append, row]
  rw [hrow] at hreaches
  rw [l.tokens?_key hcolumns hreaches, l.tokens?_colon hcolumns, hvalue]
  simp [Line.tokens, Function.comp_def]

theorem isAscii_chars {c : Char} (h : c ∈ l.chars) : IsAscii c := by
  simp only [chars, List.mem_append, List.mem_cons] at h
  rcases h with h | rfl | rfl | h
  · exact (l.isWordChar_key h).isAscii
  · decide
  · decide
  · exact l.isWritten.isAscii h

/-- The lines of a document, one after the other. -/
theorem place_document (ls : List Line) :
    Cell.place line 0 (document (l :: ls)) =
      row line 0 l.chars ++ ⟨'\n', line, l.chars.length⟩ ::
        Cell.place (line + 1) 0 (document ls) := by
  have hplace : Cell.place line 0 (l.chars ++ '\n' :: document ls) = _ :=
    place_line (fun c => l.isAscii_chars) (document ls)
  simpa [document] using hplace

theorem startsLine_document (line : ℕ) (ls : List Line) :
    StartsLine (Cell.place line 0 (document ls)) := by
  intro c hc
  cases ls with
  | nil => simp [document, Cell.place] at hc
  | cons l ls =>
    rw [l.place_document, chars, row_append, l.row_key] at hc
    obtain rfl : l.keyCell line = c := by simpa using hc
    exact ⟨rfl, l.isWordChar_key (List.head_mem _)⟩

/-- **The lines of a mapping that has begun**, until it ends with the text. -/
theorem tokens?_lines (ls : List Line)
    (hreaches : ReachesLine fresh cells (Cell.place line 0 (document ls))) :
    tokens? { columns := [0], fresh := fresh } cells =
      some (ls.flatMap tokens ++ [.mark .blockEnd]) := by
  induction ls generalizing line fresh cells with
  | nil =>
    rw [tokens?, hreaches.skip_eq]
    rfl
  | cons l ls ih =>
    rw [place_document] at hreaches
    obtain ⟨fresh', cells', hnext, hline⟩ :=
      l.tokens?_line (.inr rfl) (startsLine_document _ ls) hreaches
    rw [hline, ih hnext]
    simp

/-- **The tokens of a document** of one line or more. -/
theorem tokens?_document (ls : List Line) (hls : ls ≠ []) :
    tokens? {} (Cell.place 0 0 (document ls)) =
      some (.mark .blockStart :: ls.flatMap tokens ++ [.mark .blockEnd]) := by
  obtain ⟨l, ls, rfl⟩ := List.exists_cons_of_ne_nil hls
  have hreaches := (startsLine_document 0 (l :: ls)).reachesLine
  rw [place_document] at hreaches ⊢
  obtain ⟨fresh', cells', hnext, hline⟩ :=
    l.tokens?_line (.inl rfl) (startsLine_document _ ls) hreaches
  rw [hline, tokens?_lines ls hnext]
  simp

end Line

end Colorimetry.Yaml
