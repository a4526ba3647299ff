import Mathlib
import Colorimetry.Proofs.Yaml.Rows

/-!
# Lines of a mapping

The writer puts every entry on a line of its own: a key, a colon, a space, and a scalar either without
quotes or between single ones (`Line`). A line carries what makes it readable: the key is a word that
is short enough to be held back for its colon (`IsKey`), and the scalar is written as the writer
decides (`IsWritten`).

What the writer asks of a text before it leaves the quotes out is what a scanner needs to read it
without them (`IsPlain`). It holds of every text that the writer lets pass
(`IsPlain.of_allowsPlain`), and of words and numbers, which are not asked (`IsPlain.of_isWordChar`).
-/

namespace Colorimetry.Yaml

/-! ### What can stand without quotes -/

/-- A text that can stand without quotes. -/
structure IsPlain (cs : List Char) : Prop where
  /-- There is a text. -/
  ne_nil : cs ≠ []
  /-- It stays on its line. -/
  ascii : ∀ c ∈ cs, IsAscii c
  /-- It does not begin as something else, -/
  start : startsIndicator cs = false
  /-- it does not begin with a space, -/
  head : cs.head? ≠ some ' '
  /-- it is not broken off, -/
  tail : ∀ c rest, cs = c :: rest → holdsIndicator c rest = false
  /-- and it does not end in a space. -/
  last : cs.getLast? ≠ some ' '

/-- A character of a word or of a number. -/
def IsWordChar (c : Char) : Prop := c.isAlphanum ∨ c = '.' ∨ c = '-' ∨ c = '_'

instance (c : Char) : Decidable (IsWordChar c) := inferInstanceAs (Decidable (_ ∨ _ ∨ _ ∨ _))

theorem IsWordChar.isAscii {c : Char} (h : IsWordChar c) : IsAscii c := by
  rcases h with h | rfl | rfl | rfl
  · simp only [Char.isAlphanum, Char.isAlpha, Char.isUpper, Char.isLower, Char.isDigit,
      Bool.or_eq_true, Bool.and_eq_true, decide_eq_true_eq, UInt32.le_iff_toNat_le, ge_iff_le] at h
    change ((65 ≤ c.toNat ∧ c.toNat ≤ 90) ∨ (97 ≤ c.toNat ∧ c.toNat ≤ 122)) ∨
      (48 ≤ c.toNat ∧ c.toNat ≤ 57) at h
    rw [IsAscii]
    omega
  all_goals decide

theorem IsWordChar.ne {c : Char} (h : IsWordChar c) {c' : Char} (hc : ¬IsWordChar c') : c ≠ c' := by
  rintro rfl
  exact hc h

/-- No indicator stands in a word. -/
theorem holdsIndicator_of_isWordChar {previous : Char} {cs : List Char}
    (hcs : ∀ c ∈ cs, IsWordChar c) : holdsIndicator previous cs = false := by
  induction cs generalizing previous with
  | nil => rfl
  | cons c cs ih =>
    have hc := hcs c (by simp)
    have hcolon : c ≠ ':' := hc.ne (by decide)
    have hsign : c ≠ '#' := hc.ne (by decide)
    simp [holdsIndicator, hcolon, hsign, ih fun c' hc' => hcs c' (by simp [hc'])]

/-- **Words and numbers can stand without quotes**, but for a single dash. -/
theorem IsPlain.of_isWordChar {cs : List Char} (hne : cs ≠ []) (hdash : cs ≠ ['-'])
    (hcs : ∀ c ∈ cs, IsWordChar c) : IsPlain cs where
  ne_nil := hne
  ascii c hc := (hcs c hc).isAscii
  start := by
    obtain ⟨c, rest, rfl⟩ := List.exists_cons_of_ne_nil hne
    have hc := hcs c (by simp)
    -- of the indicators only the dash is a character of a word
    have hnone : ['#', ',', '[', ']', '{', '}', '&', '*', '!', '|', '>', '\'', '"', '%', '@', '\x60',
        '?', ':'].all fun c' => !decide (IsWordChar c') := by decide
    have hindicator := fun c' hc' =>
      hc.ne (of_decide_eq_false (Bool.not_eq_true' _ ▸ List.all_eq_true.mp hnone c' hc'))
    simp only [List.mem_cons, forall_eq_or_imp, List.not_mem_nil, false_imp_iff,
      forall_const, and_true] at hindicator
    have hend : c = '-' → blankOrEnd rest.head? = false := by
      rintro rfl
      cases rest with
      | nil => exact absurd rfl hdash
      | cons c' rest =>
        have hc' := hcs c' (by simp)
        have hspace : c' ≠ ' ' := hc'.ne (by decide)
        simp [hc'.isAscii.blankOrEnd, hspace]
    by_cases h : c = '-'
    · simp [startsIndicator, hend h, h]
    · simp [startsIndicator, hindicator, h]
  head := by
    intro h
    exact absurd (hcs ' ' (List.mem_of_mem_head? h)) (by decide)
  tail c rest heq := holdsIndicator_of_isWordChar fun c' hc' => hcs c' (by simp [heq, hc'])
  last := by
    intro h
    exact absurd (hcs ' ' (List.mem_of_getLast? h)) (by decide)

/-- What the writer leaves without quotes. -/
theorem IsPlain.of_allowsPlain {cs : List Char} (hne : cs ≠ []) (hcs : ∀ c ∈ cs, IsAscii c)
    (h : allowsPlain cs = true) : IsPlain cs := by
  obtain ⟨c, rest, rfl⟩ := List.exists_cons_of_ne_nil hne
  simp only [allowsPlain, Bool.not_eq_true', Bool.or_eq_false_iff, beq_eq_false_iff_ne] at h
  obtain ⟨⟨⟨-, hstart⟩, hhead, htail⟩, hlast⟩ := h
  refine ⟨hne, hcs, hstart, by simpa using hhead, ?_, hlast⟩
  rintro c' rest' heq
  obtain ⟨rfl, rfl⟩ := List.cons.inj heq
  exact htail

/-- A text as a value is written: as it is, or between single quotes. -/
inductive IsWritten : List Char → Style → List Char → Prop
  /-- Without quotes. -/
  | plain {cs : List Char} (h : IsPlain cs) : IsWritten cs .plain cs
  /-- Between single quotes. -/
  | single {cs : List Char} (h : ∀ c ∈ cs, IsAscii c) : IsWritten cs .quoted (single cs)

/-- Quotes are doubled, and nothing else becomes of a text on one line. -/
theorem singleBody_eq {cs : List Char} (hcs : ∀ c ∈ cs, IsAscii c) :
    singleBody false cs = cs.flatMap fun c => if c = '\'' then ['\'', '\''] else [c] := by
  induction cs with
  | nil => rfl
  | cons c cs ih =>
    simp [singleBody, (hcs c (by simp)).breaksLine, ih fun c' hc' => hcs c' (by simp [hc'])]

/-- What is written stays on its line. -/
theorem IsWritten.isAscii {cs written : List Char} {style : Style} (h : IsWritten cs style written)
    {c : Char} (hc : c ∈ written) : IsAscii c := by
  cases h with
  | plain h => exact h.ascii c hc
  | single hcs =>
    simp only [Yaml.single, singleBody_eq hcs, List.cons_append, List.mem_cons, List.mem_append,
      List.mem_flatMap, List.not_mem_nil, or_false] at hc
    rcases hc with rfl | ⟨c', hc', hmem⟩ | rfl
    · decide
    · have hquote : IsAscii '\'' := by decide
      split_ifs at hmem <;> simp_all
    · decide

/-- A key of letters and underscores, which is not too long for its colon. -/
structure IsKey (key : List Char) : Prop where
  /-- There is a key. -/
  ne_nil : key ≠ []
  /-- It has no other characters. -/
  letters : ∀ c ∈ key, c.isAlpha ∨ c = '_'
  /-- The colon is near enough to its start. -/
  length_le : key.length ≤ keyReach

theorem isKey_iff {key : List Char} : IsKey key ↔
    key ≠ [] ∧ (key.all fun c => c.isAlpha || c == '_') = true ∧ key.length ≤ keyReach := by
  constructor
  · rintro ⟨hne, hletters, hlength⟩
    exact ⟨hne, by simpa using hletters, hlength⟩
  · rintro ⟨hne, hletters, hlength⟩
    exact ⟨hne, by simpa using hletters, hlength⟩

instance (key : List Char) : Decidable (IsKey key) := decidable_of_iff' _ isKey_iff

/-- An entry as it is written on its line. -/
structure Line where
  /-- The key. -/
  key : List Char
  /-- The text of the value. -/
  text : List Char
  /-- How it is written, -/
  style : Style
  /-- and what is written for it. -/
  written : List Char
  /-- The key can be read, -/
  isKey : IsKey key
  /-- and so can the value. -/
  isWritten : IsWritten text style written

namespace Line

/-- The characters of a line. -/
def chars (l : Line) : List Char := l.key ++ ':' :: ' ' :: l.written

/-- The tokens of a line. -/
def tokens (l : Line) : List Token :=
  [.mark .key, .scalar l.key .plain, .mark .value, .scalar l.text l.style]

/-- The text of lines. -/
def document (ls : List Line) : List Char := ls.flatMap fun l => l.chars ++ ['\n']

end Line

end Colorimetry.Yaml
