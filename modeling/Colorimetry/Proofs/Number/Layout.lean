import Mathlib
import Colorimetry.Number.Style
import Colorimetry.Proofs.Number.Shortest

/-!
# Layouts and their readings

However a decimal is laid out, with its digits around a point or behind one and a power of ten, its
text is a **numeral**: digits, a point with more digits, an exponent (`Numeral`). The reader of
literals takes a numeral apart into the same pieces (`Numeral.readDecimal_text`), and the layouts of
`Style.yaml` write numerals of the value that they are given (`exists_numeral`). What the reader finds
is therefore another way to write the same decimal.
-/

namespace Colorimetry.Number

open Literal

/-! ### Digits -/

section Digits

variable {n k : ℕ} {cs cs' : List Char}

@[simp] theorem natOfDigits_digitsOf : natOfDigits (Style.digitsOf n) = n :=
  Nat.ofDigitChars_toDigits (by norm_num) le_rfl

theorem natOfDigits_append_zeros :
    natOfDigits (cs ++ List.replicate k '0') = natOfDigits cs * 10 ^ k := by
  induction k with
  | zero => simp
  | succ k ih =>
    rw [List.replicate_succ', ← List.append_assoc, natOfDigits, List.foldl_append, ← natOfDigits, ih]
    simp only [List.foldl_cons, List.foldl_nil, Nat.sub_self]
    ring

theorem natOfDigits_zeros_append :
    natOfDigits (List.replicate k '0' ++ cs) = natOfDigits cs := by
  induction k with
  | zero => rfl
  | succ k ih =>
    rw [List.replicate_succ, List.cons_append]
    exact ih

theorem isDigit_of_mem_digitsOf {c : Char} (h : c ∈ Style.digitsOf n) : c.isDigit :=
  Nat.isDigit_of_mem_toDigits (by norm_num) le_rfl h

theorem digitsOf_ne_nil : Style.digitsOf n ≠ [] := Nat.toDigits_ne_nil

theorem isDigit_of_mem_zeros {c : Char} (h : c ∈ List.replicate k '0') : c.isDigit := by
  rw [List.eq_of_mem_replicate h]
  rfl

/-- A digit has no case. -/
theorem toLower_of_isDigit {c : Char} (h : c.isDigit) : c.toLower = c := by
  simp only [Char.isDigit, Bool.and_eq_true, decide_eq_true_eq, UInt32.le_iff_toNat_le,
    ge_iff_le] at h
  have hnine : c.val.toNat ≤ 57 := h.2
  refine Char.toLower_eq_of_not_isUpper ?_
  simp only [Char.isUpper, decide_eq_true_eq, ge_iff_le, UInt32.le_iff_toNat_le]
  exact fun hrange => absurd (le_trans hrange.1 hnine) (by decide)

/-- Where a run of digits ends. -/
theorem takeWhile_isDigit (h : ∀ c ∈ cs, c.isDigit) (h' : ∀ c ∈ cs'.head?, !c.isDigit) :
    (cs ++ cs').takeWhile Char.isDigit = cs ∧ (cs ++ cs').dropWhile Char.isDigit = cs' := by
  have hend : cs'.takeWhile Char.isDigit = [] ∧ cs'.dropWhile Char.isDigit = cs' := by
    cases cs' with
    | nil => simp
    | cons c rest => simp_all
  rw [List.takeWhile_append_of_pos h, List.dropWhile_append_of_pos h, hend.1, hend.2]
  simp

end Digits

/-! ### Exponents -/

/-- The text of an integer is its digits, behind a minus sign if it is negative. -/
theorem toList_toString_int (e : ℤ) :
    (toString e).toList = (if e < 0 then ['-'] else []) ++ Style.digitsOf e.natAbs := by
  cases e with
  | ofNat n => exact Nat.toList_repr
  | negSucc n =>
    rw [if_pos (Int.negSucc_lt_zero n)]
    change ("-" ++ Nat.repr (n + 1)).toList = _
    rw [String.toList_append, Nat.toList_repr]
    rfl

/-- An exponent is read back. -/
theorem readExponent_toString (e : ℤ) : readExponent ('e' :: (toString e).toList) = some e := by
  have hdigits : (Style.digitsOf e.natAbs).all Char.isDigit :=
    List.all_eq_true.mpr fun c => isDigit_of_mem_digitsOf
  rw [toList_toString_int]
  by_cases he : e < 0
  · simp only [if_pos he, List.singleton_append, readExponent, splitSign, digitsOf_ne_nil, hdigits,
      natOfDigits_digitsOf]
    simp [abs_of_neg he]
  · obtain ⟨c, rest, hcons⟩ := List.exists_cons_of_ne_nil (digitsOf_ne_nil (n := e.natAbs))
    have hc : c.isDigit := isDigit_of_mem_digitsOf (n := e.natAbs) (by simp [hcons])
    -- digits do not begin with a sign
    have hsign : splitSign (Style.digitsOf e.natAbs) = (false, Style.digitsOf e.natAbs) := by
      rw [hcons]
      unfold splitSign
      split <;> simp_all [Char.isDigit]
    simp only [if_neg he, List.nil_append, readExponent, hsign, digitsOf_ne_nil, hdigits,
      natOfDigits_digitsOf]
    simp [abs_of_nonneg (not_lt.mp he)]

/-! ### Numerals -/

/-- The pieces of a decimal's text. -/
structure Numeral where
  /-- The digits before the point. -/
  whole : List Char
  /-- The digits behind the point. -/
  fraction : List Char
  /-- The power of ten, if one is written. -/
  power : Option ℤ
  /-- There is a digit before the point. -/
  whole_ne_nil : whole ≠ []
  /-- They are digits, -/
  isDigit_whole : ∀ c ∈ whole, c.isDigit
  /-- and so are those behind it. -/
  isDigit_fraction : ∀ c ∈ fraction, c.isDigit

namespace Numeral

variable (n : Numeral)

/-- The power of ten behind the digits. -/
def powerText : List Char :=
  match n.power with
  | none => []
  | some e => 'e' :: (toString e).toList

/-- The point and what stands behind it. -/
def pointText : List Char := (if n.fraction = [] then [] else '.' :: n.fraction) ++ n.powerText

/-- The text of a numeral. -/
def text : List Char := n.whole ++ n.pointText

/-- All digits as one number. -/
def digits : ℕ := natOfDigits (n.whole ++ n.fraction)

/-- The power of ten that this number is multiplied by. -/
def exponent : ℤ := n.power.getD 0 - n.fraction.length

/-- What a numeral stands for. -/
def value : ℚ := n.digits * 10 ^ n.exponent

theorem readExponent_powerText : readExponent n.powerText = some (n.power.getD 0) := by
  cases hpower : n.power with
  | none => simp [powerText, hpower, readExponent]
  | some e => simp only [powerText, hpower, readExponent_toString, Option.getD_some]

theorem head?_powerText : ∀ c ∈ n.powerText.head?, c = 'e' := by
  cases hpower : n.power <;> simp [powerText, hpower]

theorem head?_pointText : ∀ c ∈ n.pointText.head?, c = '.' ∨ c = 'e' := by
  intro c hc
  by_cases hfraction : n.fraction = []
  · rw [pointText, if_pos hfraction, List.nil_append] at hc
    exact .inr (n.head?_powerText c hc)
  · rw [pointText, if_neg hfraction, List.cons_append] at hc
    exact .inl (Option.mem_some_iff.mp hc).symm

/-- **The reader takes a numeral apart** into its pieces. -/
theorem readDecimal_text (negative : Bool) :
    readDecimal negative n.text = some (.decimal negative n.digits n.exponent) := by
  have hpoint : ∀ c ∈ n.pointText.head?, !c.isDigit := by
    intro c hc
    rcases n.head?_pointText c hc with rfl | rfl <;> rfl
  have hpower : ∀ c ∈ n.powerText.head?, !c.isDigit := by
    intro c hc
    rw [n.head?_powerText c hc]
    rfl
  obtain ⟨hwhole, hrest⟩ := takeWhile_isDigit n.isDigit_whole hpoint
  obtain ⟨hfraction, hbehind⟩ := takeWhile_isDigit n.isDigit_fraction hpower
  have hnumber := n.readExponent_powerText
  by_cases hnil : n.fraction = []
  · -- without a point the exponent follows at once
    have hpointText : n.pointText = n.powerText := by rw [pointText, if_pos hnil, List.nil_append]
    simp only [readDecimal, text, hwhole, hrest, n.whole_ne_nil, digits, exponent, hnil]
    rw [hpointText]
    split
    · next heq =>
      have := n.head?_powerText
      simp [heq] at this
    · simp [hnumber]
  · have hpointText : n.pointText = '.' :: (n.fraction ++ n.powerText) := by
      rw [pointText, if_neg hnil, List.cons_append]
    rw [hpointText] at hrest hwhole
    simp only [readDecimal, text, hpointText, hwhole, hrest, hfraction, hbehind, n.whole_ne_nil,
      false_and, if_false, hnumber, Option.map_some, digits, exponent]

/-- The characters of a numeral. -/
theorem mem_text {c : Char} (h : c ∈ n.text) : c.isDigit ∨ c = '.' ∨ c = 'e' ∨ c = '-' := by
  have hpower : c ∈ n.powerText → c.isDigit ∨ c = 'e' ∨ c = '-' := by
    intro hc
    cases hsome : n.power with
    | none => simp [powerText, hsome] at hc
    | some e =>
      simp only [powerText, hsome, toList_toString_int] at hc
      rcases List.mem_cons.mp hc with rfl | hc
      · exact .inr (.inl rfl)
      rcases List.mem_append.mp hc with hc | hc
      · split_ifs at hc <;> simp_all
      · exact .inl (isDigit_of_mem_digitsOf hc)
  rw [text, pointText, List.mem_append, List.mem_append] at h
  rcases h with h | h | h
  · exact .inl (n.isDigit_whole c h)
  · split_ifs at h
    · simp at h
    · rcases List.mem_cons.mp h with rfl | h
      · exact .inr (.inl rfl)
      · exact .inl (n.isDigit_fraction c h)
  · rcases hpower h with h | h | h <;> simp [h]

/-- A numeral begins with a digit. -/
theorem exists_text_eq_cons : ∃ c rest, n.text = c :: rest ∧ c.isDigit := by
  obtain ⟨c, rest, hcons⟩ := List.exists_cons_of_ne_nil n.whole_ne_nil
  exact ⟨c, rest ++ n.pointText, by rw [text, hcons, List.cons_append],
    n.isDigit_whole c (by simp [hcons])⟩

end Numeral

/-! ### Layouts -/

section Layouts

variable (d : Decimal)

/-- An integer ends in a point and a zero. -/
theorem exists_numeral_integer (hd : 0 ≤ d.exponent) :
    ∃ n : Numeral, (Style.yaml.layoutPositional d).toList = n.text ∧ n.value = d.value := by
  obtain ⟨k, hk⟩ := Int.eq_ofNat_of_zero_le hd
  refine ⟨⟨Style.digitsOf d.digits ++ List.replicate k '0', ['0'], none, by simp [digitsOf_ne_nil],
    fun c hc => ?_, by simp⟩, ?_, ?_⟩
  · exact (List.mem_append.mp hc).elim isDigit_of_mem_digitsOf isDigit_of_mem_zeros
  · simp [Style.layoutPositional, Style.yaml, hk, Numeral.text, Numeral.pointText,
      Numeral.powerText]
  · have hdigits : natOfDigits (Style.digitsOf d.digits ++ List.replicate k '0' ++ ['0']) =
        d.digits * 10 ^ (k + 1) := by
      rw [List.append_assoc, ← List.replicate_succ', natOfDigits_append_zeros, natOfDigits_digitsOf]
    simp only [Numeral.value, Numeral.digits, Numeral.exponent, hdigits, Decimal.value, hk]
    push_cast
    rw [pow_succ, mul_assoc, mul_assoc]
    norm_num

/-- A fraction has as many places as its power of ten says. -/
theorem exists_numeral_fraction (hd : d.exponent < 0) :
    ∃ n : Numeral, (Style.yaml.layoutPositional d).toList = n.text ∧ n.value = d.value := by
  obtain ⟨k, hk, hpos⟩ : ∃ k : ℕ, d.exponent = -k ∧ 0 < k := ⟨(-d.exponent).toNat, by omega, by omega⟩
  -- with zeros in front there is a digit before the point in any case
  set padded := List.replicate (k + 1 - (Style.digitsOf d.digits).length) '0' ++
    Style.digitsOf d.digits with hpadded
  have hlength : k < padded.length := by
    rw [hpadded, List.length_append, List.length_replicate]
    omega
  have hisDigit : ∀ c ∈ padded, c.isDigit := by
    intro c hc
    rw [hpadded] at hc
    exact (List.mem_append.mp hc).elim isDigit_of_mem_zeros isDigit_of_mem_digitsOf
  have hdrop : (padded.drop (padded.length - k)).length = k := by
    rw [List.length_drop]
    omega
  have hdropNe : padded.drop (padded.length - k) ≠ [] := by
    rw [← List.length_pos_iff, hdrop]
    exact hpos
  have htake : padded.take (padded.length - k) ≠ [] := by
    rw [← List.length_pos_iff, List.length_take]
    omega
  have htoNat : (-d.exponent).toNat = k := by omega
  refine ⟨⟨padded.take (padded.length - k), padded.drop (padded.length - k), none, htake,
    fun c hc => hisDigit c (List.mem_of_mem_take hc),
    fun c hc => hisDigit c (List.mem_of_mem_drop hc)⟩, ?_, ?_⟩
  · simp only [Style.layoutPositional, if_neg (not_le.mpr hd), htoNat, ← hpadded, String.toList_ofList,
      Numeral.text, Numeral.pointText, Numeral.powerText, if_neg hdropNe, List.append_nil]
  · simp only [Numeral.value, Numeral.digits, Numeral.exponent, List.take_append_drop, hdrop,
      Option.getD_none, Decimal.value, hk, zero_sub]
    rw [hpadded, natOfDigits_zeros_append, natOfDigits_digitsOf]

/-- With an exponent the point stands behind the first digit, if there is another. -/
theorem exists_numeral_exponent : ∃ n : Numeral,
    (Style.yaml.layoutExponent d (d.exponent + ((Style.digitsOf d.digits).length - 1 : ℕ))).toList =
      n.text ∧ n.value = d.value := by
  obtain ⟨c, rest, hcons⟩ := List.exists_cons_of_ne_nil (digitsOf_ne_nil (n := d.digits))
  have hisDigit : ∀ c' ∈ c :: rest, c'.isDigit := by
    intro c' hc'
    rw [← hcons] at hc'
    exact isDigit_of_mem_digitsOf hc'
  refine ⟨⟨[c], rest, some (d.exponent + rest.length), by simp,
    fun c' hc' => hisDigit c' (by simp_all), fun c' hc' => hisDigit c' (by simp [hc'])⟩, ?_, ?_⟩
  · simp only [Style.layoutExponent, hcons, List.length_cons, Nat.add_sub_cancel, Style.yaml,
      Numeral.text, Numeral.pointText, Numeral.powerText]
    cases rest <;> simp
  · have hdigits : natOfDigits ([c] ++ rest) = d.digits := by
      rw [List.singleton_append, ← hcons, natOfDigits_digitsOf]
    simp only [Numeral.value, Numeral.digits, Numeral.exponent, hdigits, Option.getD_some,
      add_sub_cancel_right, Decimal.value]

/-- **A decimal is laid out as a numeral** of its value. -/
theorem exists_numeral :
    ∃ n : Numeral, (Style.yaml.layout d).toList = n.text ∧ n.value = d.value := by
  rw [Style.layout]
  split_ifs
  · rcases le_or_gt 0 d.exponent with hd | hd
    · exact exists_numeral_integer d hd
    · exact exists_numeral_fraction d hd
  · exact exists_numeral_exponent d

end Layouts

end Colorimetry.Number
