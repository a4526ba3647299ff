import Mathlib
import Colorimetry.Yaml.Schema
import Colorimetry.Proofs.Number.RoundTrip
import Colorimetry.Proofs.Yaml.Lines

/-!
# Values and their spellings

What is written for a text, a number and a truth value, and what it is taken for when it is read.

* A text of printable ASCII characters is written without quotes only if it does not look like
  anything else (`looksTyped`), and between single quotes otherwise. So it is always present, and it
  is that text (`exists_isWritten_writeText`).
* A number is written without quotes, and what is read of it is `Number.afterReading`
  (`exists_numberOfText?_format`).
-/

namespace Colorimetry.Yaml

open Number (Literal)

/-! ### Texts -/

section Texts

variable {s : String}

theorem spaceBeforeBreak_of_isAscii {cs : List Char} (hcs : ∀ c ∈ cs, IsAscii c) :
    spaceBeforeBreak cs = false := by
  induction cs using spaceBeforeBreak.induct with
  | case1 a b rest ih =>
    have hb := (hcs b (by simp)).breaksLine
    simp [spaceBeforeBreak, hb, ih fun c hc => hcs c (List.mem_cons_of_mem a hc)]
  | case2 cs h => exact spaceBeforeBreak.eq_2 cs h

theorem spaceBehindBreak_of_isAscii {cs : List Char} (hcs : ∀ c ∈ cs, IsAscii c) :
    spaceBehindBreak cs = false := by
  induction cs using spaceBehindBreak.induct with
  | case1 a b rest ih =>
    have ha := (hcs a (by simp)).breaksLine
    simp [spaceBehindBreak, ha, ih fun c hc => hcs c (List.mem_cons_of_mem a hc)]
  | case2 cs h => exact spaceBehindBreak.eq_2 cs h

/-- A text on one line needs no escapes, so single quotes can write it. -/
theorem allowsSingle_of_isAscii {cs : List Char} (hcs : ∀ c ∈ cs, IsAscii c) :
    allowsSingle cs = true := by
  have hprintable : cs.all isPrintable = true := by
    rw [List.all_eq_true]
    intro c hc
    obtain ⟨hlow, hhigh⟩ := hcs c hc
    simp [isPrintable, hlow, hhigh]
  simp [allowsSingle, needsEscapes, hprintable, spaceBeforeBreak_of_isAscii hcs,
    spaceBehindBreak_of_isAscii hcs]

/-- A text that is written without quotes is not taken for nothing. -/
theorem isPresent?_of_looksTyped (h : looksTyped s = false) :
    (⟨s, .plain, none⟩ : Scalar).isPresent? = some true := by
  simp only [looksTyped, Bool.or_eq_false_iff] at h
  simp [Scalar.isPresent?, h.1]

/-- **What is written for a text is that text, and is present.** -/
theorem exists_isWritten_writeText (hs : ∀ c ∈ s.toList, IsAscii c) :
    ∃ style, IsWritten s.toList style (writeText s).toList ∧
      (⟨s, style, none⟩ : Scalar).isPresent? = some true := by
  have hline : ¬s.toList.contains '\n' = true := by
    rw [List.contains_eq_mem, decide_eq_true_eq]
    exact fun h => absurd (hs _ h) (by decide)
  by_cases hplain : (!looksTyped s && allowsPlain s.toList) = true
  · have hwritten : (writeText s).toList = s.toList := by
      simp only [writeText, if_neg hline, if_pos hplain, String.toList_ofList]
    simp only [Bool.and_eq_true, Bool.not_eq_true'] at hplain
    obtain ⟨htyped, hallowed⟩ := hplain
    -- the empty text would be quoted, since it looks like nothing
    have hne : s.toList ≠ [] := by
      intro h
      rw [String.toList_eq_nil_iff.mp h] at htyped
      exact absurd htyped (by decide)
    refine ⟨.plain, ?_, isPresent?_of_looksTyped htyped⟩
    rw [hwritten]
    exact .plain (.of_allowsPlain hne hs hallowed)
  · have hwritten : (writeText s).toList = single s.toList := by
      simp only [writeText, if_neg hline, if_neg hplain, allowsSingle_of_isAscii hs, if_true,
        String.toList_ofList]
    refine ⟨.quoted, ?_, rfl⟩
    rw [hwritten]
    exact .single hs

end Texts

/-! ### Words -/

/-- Some words are made of letters and points alone. -/
theorem isPlain_word {s : String} (hs : s ∈ ["true", "false", ".inf", "-.inf"]) :
    IsPlain s.toList := by
  have hall : s.toList ≠ [] ∧ s.toList ≠ ['-'] ∧
      (s.toList.all fun c => decide (IsWordChar c)) = true := by
    revert s
    decide
  exact .of_isWordChar hall.1 hall.2.1 (by simpa using hall.2.2)

/-- A truth value is written without quotes. -/
theorem isPlain_boolWord (b : Bool) : IsPlain (if b then "true" else "false").toList := by
  cases b <;> exact isPlain_word (by simp)

/-! ### Numbers -/

section Numbers

variable {x : Float32}

/-- A number is not taken for nothing: the words for nothing are no numbers. -/
theorem isPresent?_of_numberOfText? {s : String} {literal : Literal}
    (h : numberOfText? s = some literal) :
    (⟨s, .plain, none⟩ : Scalar).isPresent? = some true := by
  have hword : ∀ w ∈ ["", "null", "Null", "NULL", "~"], numberOfText? w = none := by
    decide +kernel
  have hne : ∀ w ∈ ["", "null", "Null", "NULL", "~"], s ≠ w := by
    rintro w hw rfl
    rw [hword s hw] at h
    cases h
  have hempty : s.isEmpty = false := by
    rw [Bool.eq_false_iff, ne_eq, String.isEmpty_iff]
    exact hne "" (by simp)
  have hnull : isNullWord s = false := by
    simp [isNullWord, hne "null" (by simp), hne "Null" (by simp), hne "NULL" (by simp),
      hne "~" (by simp)]
  simp [Scalar.isPresent?, hempty, hnull]

/-- A literal is a number unless it is one of the names, which have a letter in common, in either
case. -/
theorem numberOfText?_of_read {s : String} {literal : Literal}
    (hs : ∀ c ∈ s.toList, c ≠ '+' ∧ c ≠ 'n' ∧ c ≠ 'N') (hread : Literal.read s = .ok literal)
    (hfinite : literal.doubleBits < Number.Format.binary64.infinity) :
    numberOfText? s = some literal := by
  have hplus : withoutPlus? s.toList = some s.toList := by
    unfold withoutPlus?
    split
    · next heq => exact absurd rfl (hs '+' (by simp [heq])).1
    · rfl
  have hword : ∀ w : String, ('n' ∈ w.toList ∨ 'N' ∈ w.toList) → s ≠ w := by
    rintro w (hw | hw) rfl
    · exact (hs 'n' hw).2.1 rfl
    · exact (hs 'N' hw).2.2 rfl
  rw [numberOfText?, hplus, Option.bind_some, String.ofList_toList]
  rw [if_neg, if_neg, if_neg, hread]
  · simp only [hfinite, if_true]
  · rintro (h | h | h) <;> exact hword _ (by decide) h
  · rintro (h | h | h) <;> exact hword _ (by decide) h
  · rintro (h | h | h) <;> exact hword _ (by decide) h

/-- **What is read of a number that is written.** -/
theorem exists_numberOfText?_format (hx : x.isNaN = false) :
    ∃ literal, numberOfText? (Number.Style.yaml.format x) = some literal ∧
      literal.toFloat32ByDouble = Number.afterReading x := by
  rcases (Number.magnitudeBits_le hx).lt_or_eq with hfinite | hinfinite
  · obtain ⟨literal, hread, hdouble, hvalue⟩ := Number.exists_read_format hfinite
    refine ⟨literal, numberOfText?_of_read (fun c hc => ?_) hread hdouble, hvalue⟩
    rcases Number.mem_format hfinite hc with hdigit | rfl | rfl | rfl
    · refine ⟨?_, ?_, ?_⟩ <;> rintro rfl <;> exact absurd hdigit (by decide)
    all_goals decide
  · refine ⟨.infinite (Number.isNegative x), ?_, ?_⟩
    · rw [Number.format_infinite hinfinite]
      cases Number.isNegative x <;> decide +kernel
    · rw [Number.afterReading, hinfinite]
      rfl

/-- A number is written without quotes. -/
theorem isPlain_format (hx : x.isNaN = false) : IsPlain (Number.Style.yaml.format x).toList := by
  rcases (Number.magnitudeBits_le hx).lt_or_eq with hfinite | hinfinite
  · obtain ⟨n, htext, -⟩ := Number.exists_numeral_format hfinite
    obtain ⟨c, rest, hcons, hc⟩ := n.exists_text_eq_cons
    have hdash : c ≠ '-' := by
      rintro rfl
      exact absurd hc (by decide)
    refine .of_isWordChar ?_ ?_ fun c hc => ?_
    · rw [htext, hcons]
      simp
    · rw [htext, hcons]
      split_ifs <;> simp [hdash]
    · rcases Number.mem_format hfinite hc with hdigit | rfl | rfl | rfl
      · exact .inl (by simp [Char.isAlphanum, hdigit])
      all_goals decide
  · rw [Number.format_infinite hinfinite]
    cases Number.isNegative x <;> exact isPlain_word (by simp)

end Numbers

end Colorimetry.Yaml
