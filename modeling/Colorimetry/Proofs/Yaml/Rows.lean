import Mathlib
import Colorimetry.Yaml.Token
import Colorimetry.Yaml.Writer

/-!
# Scalars on one line

What the scanners of scalars make of a row of characters in their places (`row`). Printable ASCII
characters have no line break among them and no tab, so a text of them stays on its line, and it is
read back under the conditions that the writer checks:

* without quotes, if no indicator stands in it (`holdsIndicator`) and it does not end in a blank
  (`plain_row`). The invariant of the scan is the white space that is pending: spaces that count only
  if something follows them, with a space as the character before.
* between single quotes, without any condition, since the quotes within it are doubled
  (`singleQuoted_row`).
-/

namespace Colorimetry.Yaml

/-! ### Printable characters -/

/-- A printable ASCII character. -/
def IsAscii (c : Char) : Prop := 0x20 ≤ c.toNat ∧ c.toNat ≤ 0x7e

instance (c : Char) : Decidable (IsAscii c) := inferInstanceAs (Decidable (_ ∧ _))

section Characters

variable {c : Char}

/-- Every other character differs from them. -/
theorem IsAscii.ne (h : IsAscii c) {d : Char} (hd : ¬IsAscii d) : c ≠ d := by
  rintro rfl
  exact hd h

/-- None of them breaks a line, whether it is read or written, -/
theorem IsAscii.isBreakChar (h : IsAscii c) : Cell.isBreakChar c = false := by
  simp [Cell.isBreakChar, h.ne (d := '\n') (by decide), h.ne (d := '\u2028') (by decide),
    h.ne (d := '\u2029') (by decide)]

theorem IsAscii.breaksLine (h : IsAscii c) : breaksLine c = false := by
  simp [Yaml.breaksLine, h.ne (d := '\n') (by decide), h.ne (d := '\u2028') (by decide),
    h.ne (d := '\u2029') (by decide), h.ne (d := '\r') (by decide),
    h.ne (d := '\u0085') (by decide)]

/-- and the space is the only blank. -/
theorem IsAscii.ne_tab (h : IsAscii c) : c ≠ '\t' := h.ne (by decide)

theorem IsAscii.blankOrEnd (h : IsAscii c) : blankOrEnd (some c) = (c == ' ') := by
  simp [Yaml.blankOrEnd, h.breaksLine, h.ne_tab]

end Characters

/-! ### Rows -/

/-- Characters one beside the other. -/
def row (line column : ℕ) : List Char → List Cell
  | [] => []
  | c :: cs => ⟨c, line, column⟩ :: row line (column + 1) cs

section Rows

variable {line column : ℕ} {cs ws : List Char} {rest : List Cell}

theorem row_append (cs' : List Char) :
    row line column (cs ++ cs') = row line column cs ++ row line (column + cs.length) cs' := by
  induction cs generalizing column with
  | nil => rfl
  | cons c cs ih =>
    simp only [List.cons_append, row, ih, List.length_cons]
    rw [Nat.add_right_comm, Nat.add_assoc]

/-- **A line of a text is a row**, and what follows its line break begins a line. -/
theorem place_line (hcs : ∀ c ∈ cs, IsAscii c) (after : List Char) :
    Cell.place line column (cs ++ '\n' :: after) =
      row line column cs ++ ⟨'\n', line, column + cs.length⟩ :: Cell.place (line + 1) 0 after := by
  induction cs generalizing column with
  | nil => simp [Cell.place, row, Cell.isBreakChar]
  | cons c cs ih =>
    have hc := hcs c (by simp)
    have hreturn : c ≠ '\r' := hc.ne (by decide)
    have hnext : c ≠ '\u0085' := hc.ne (by decide)
    rw [List.cons_append, Cell.place]
    · simp only [hreturn, hnext, or_self, if_false, hc.isBreakChar, Bool.false_eq_true,
        ih fun c' hc' => hcs c' (by simp [hc']), row, List.cons_append, List.length_cons]
      rw [Nat.add_assoc, Nat.add_comm 1]
    · exact fun _ heq _ => hreturn heq

/-- The indentation of a character keeps it from being taken for the marker of a document. -/
theorem atTriple_of_column {char c : Char} (hcolumn : column ≠ 0) :
    atTriple char (⟨c, line, column⟩ :: rest) = false := by
  rcases rest with _ | ⟨a, _ | ⟨b, rest⟩⟩ <;> simp [atTriple, hcolumn]

theorem atTriple_of_ne {char c : Char} (hc : c ≠ char) :
    atTriple char (⟨c, line, column⟩ :: rest) = false := by
  rcases rest with _ | ⟨a, _ | ⟨b, rest⟩⟩ <;> simp [atTriple, hc]

/-! ### Plain scalars -/

/-- What ends a scan of a plain scalar between two characters. -/
theorem endsPlain_blanks {indent : ℕ} {c : Char}
    (hmarker : column = 0 → c ≠ '-' ∧ c ≠ '.') (hsign : ws ≠ [] → c ≠ '#')
    (hcolon : c = ':' → atBlank rest = false) :
    endsPlain false indent (.blanks ws) ⟨c, line, column⟩ rest = false := by
  have hmarker' : atMarker (⟨c, line, column⟩ :: rest) = false := by
    rcases Nat.eq_zero_or_pos column with rfl | hcolumn
    · obtain ⟨hdash, hpoint⟩ := hmarker rfl
      simp [atMarker, atTriple_of_ne hdash, atTriple_of_ne hpoint]
    · simp [atMarker, atTriple_of_column hcolumn.ne']
  have hempty : (Gap.blanks ws).isEmpty = ws.isEmpty := rfl
  have hnumber : (!ws.isEmpty && c == '#') = false := by
    cases ws <;> simp_all
  have hend : (c == ':' && atBlank rest) = false := by
    by_cases h : c = ':' <;> simp_all
  simp only [endsPlain, hempty, hnumber, hmarker', hend]
  rfl

/-- What the writer sees behind a character, the reader sees too. -/
theorem atBlank_row (hcs : ∀ c ∈ cs, IsAscii c) (hhead : blankOrEnd cs.head? = false) :
    atBlank (row line column cs ++ rest) = false := by
  cases cs with
  | nil => simp [blankOrEnd] at hhead
  | cons c cs =>
    have hc := hcs c (by simp)
    have hspace : c ≠ ' ' := by
      simpa [hc.blankOrEnd] using hhead
    simp [row, atBlank, Cell.isBlank, Cell.isBreak, hspace, hc.ne_tab, hc.isBreakChar]

/-- A space is pending until something follows it, -/
theorem plain_space {indent : ℕ} :
    plain false indent (.blanks ws) (⟨' ', line, column⟩ :: rest) =
      plain false indent (.blanks (ws ++ [' '])) rest := by
  simp [plain, Cell.isBlank, Gap.pushBlank]

/-- and a character that does not end the scalar stands behind what is pending. -/
theorem plain_char {indent : ℕ} {c : Char} (hc : IsAscii c) (hspace : c ≠ ' ')
    (hends : endsPlain false indent (.blanks ws) ⟨c, line, column⟩ rest = false) :
    plain false indent (.blanks ws) (⟨c, line, column⟩ :: rest) =
      (plain false indent (.blanks []) rest).map fun t => { t with text := ws ++ c :: t.text } := by
  simp [plain, Cell.isBlank, Cell.isBreak, hspace, hc.ne_tab, hc.isBreakChar, hends, Gap.empty,
    Gap.text]

/-- **A row is read as a plain scalar**, with the blanks that are pending before it. -/
theorem plain_row {indent : ℕ} {previous : Char} {fresh : Bool} {after : List Cell}
    (hcs : ∀ c ∈ cs, IsAscii c)
    (hmarker : column = 0 → ∀ c ∈ cs.head?, c ≠ '-' ∧ c ≠ '.')
    (hholds : holdsIndicator previous cs = false)
    (hpending : ws ≠ [] → previous = ' ') (hlast : (previous :: cs).getLast? ≠ some ' ')
    (hend : plain false indent .empty rest = some ⟨[], fresh, after⟩) :
    plain false indent (.blanks ws) (row line column cs ++ rest) =
      some ⟨if cs = [] then [] else ws ++ cs, fresh, after⟩ := by
  induction cs generalizing column ws previous with
  | nil =>
    -- white space cannot be pending at the end, because the row does not end in a space
    have hws : ws = [] := by
      by_contra hne
      exact hlast (by simp [hpending hne])
    rw [hws]
    exact hend
  | cons c cs ih =>
    have hc := hcs c (by simp)
    have hcs' : ∀ c' ∈ cs, IsAscii c' := fun c' hc' => hcs c' (by simp [hc'])
    have hlast' : (c :: cs).getLast? ≠ some ' ' := by simpa using hlast
    simp only [holdsIndicator, Bool.or_eq_false_iff] at hholds
    obtain ⟨⟨hcolon, hsign⟩, hholds⟩ := hholds
    by_cases hspace : c = ' '
    · -- a space is pending, and something stands behind it
      subst hspace
      have hne : cs ≠ [] := by
        rintro rfl
        simp at hlast'
      rw [row, List.cons_append, plain_space, ih hcs' (by omega) hholds (fun _ => rfl) hlast']
      simp [hne]
    · -- no indicator stands here, so the character does not end the scalar
      have hends : endsPlain false indent (.blanks ws) ⟨c, line, column⟩
          (row line (column + 1) cs ++ rest) = false := by
        refine endsPlain_blanks (fun h => hmarker h c rfl) (fun hws hnumber => ?_)
          (fun h => atBlank_row hcs' (by simpa [h] using hcolon))
        simp [hnumber, hpending hws, blankOrEnd] at hsign
      rw [row, List.cons_append, plain_char hc hspace hends,
        ih hcs' (by omega) hholds (by simp) hlast']
      cases cs <;> simp

/-! ### Single-quoted scalars -/

/-- A space is pending until something follows it, -/
theorem singleQuoted_space {gap : Gap} :
    singleQuoted gap (⟨' ', line, column⟩ :: rest) = singleQuoted (gap.pushBlank ' ') rest := by
  rw [singleQuoted.eq_def]
  simp [Cell.isBlank]

/-- another character but the quote stands for itself, -/
theorem singleQuoted_char {gap : Gap} {c : Char} (hc : IsAscii c) (hcolumn : column ≠ 0)
    (hspace : c ≠ ' ') (hquote : c ≠ '\'') :
    singleQuoted gap (⟨c, line, column⟩ :: rest) =
      (singleQuoted .empty rest).map fun (text, after) => (gap.text ++ c :: text, after) := by
  rw [singleQuoted.eq_def]
  simp [Cell.isBlank, Cell.isBreak, hc.ne_tab, hc.isBreakChar, hspace, hquote, atMarker,
    atTriple_of_column hcolumn]

/-- two quotes stand for one, -/
theorem singleQuoted_quotes {gap : Gap} (hcolumn : column ≠ 0) :
    singleQuoted gap (⟨'\'', line, column⟩ :: ⟨'\'', line, column + 1⟩ :: rest) =
      (singleQuoted .empty rest).map fun (text, after) => (gap.text ++ '\'' :: text, after) := by
  rw [singleQuoted.eq_def]
  simp [Cell.isBlank, Cell.isBreak, Cell.isBreakChar, atMarker, atTriple_of_column hcolumn]

/-- and one quote ends the scalar. -/
theorem singleQuoted_quote {gap : Gap} (hcolumn : column ≠ 0)
    (hrest : ∀ c ∈ rest.head?, c.char ≠ '\'') :
    singleQuoted gap (⟨'\'', line, column⟩ :: rest) = some (gap.text, rest) := by
  rw [singleQuoted.eq_def]
  cases rest with
  | nil => simp [Cell.isBlank, Cell.isBreak, Cell.isBreakChar, atMarker, atTriple_of_column hcolumn]
  | cons c rest =>
    have hc : c.char ≠ '\'' := hrest c rfl
    simp [Cell.isBlank, Cell.isBreak, Cell.isBreakChar, atMarker, atTriple_of_column hcolumn, hc]

/-- **A row between single quotes is read back.** -/
theorem singleQuoted_row (hcs : ∀ c ∈ cs, IsAscii c) (ws : List Char) (column : ℕ)
    (hcolumn : column ≠ 0) (hrest : ∀ c ∈ rest.head?, c.char ≠ '\'') :
    singleQuoted (.blanks ws) (row line column (singleBody false cs ++ ['\'']) ++ rest) =
      some (ws ++ cs, rest) := by
  induction cs generalizing column ws with
  | nil => simpa [singleBody, row, Gap.text] using singleQuoted_quote hcolumn hrest
  | cons c cs ih =>
    have hc := hcs c (by simp)
    have hcs' : ∀ c' ∈ cs, IsAscii c' := fun c' hc' => hcs c' (by simp [hc'])
    by_cases hspace : c = ' '
    · subst hspace
      simpa [singleBody, breaksLine, row, singleQuoted_space, Gap.pushBlank] using
        ih hcs' (ws ++ [' ']) (column + 1) (by omega)
    by_cases hquote : c = '\''
    · subst hquote
      have hnext := ih hcs' [] (column + 1 + 1) (by omega)
      simp [singleBody, breaksLine, row, singleQuoted_quotes hcolumn, Gap.empty, hnext, Gap.text]
    · have hnext := ih hcs' [] (column + 1) (by omega)
      simp [singleBody, hc.breaksLine, row, singleQuoted_char hc hcolumn hspace hquote, hquote,
        Gap.empty, hnext, Gap.text]

end Rows

end Colorimetry.Yaml
