import Mathlib
import Colorimetry.Proofs.Binary32.Packing
import Colorimetry.Proofs.Number.DoubleRounding
import Colorimetry.Proofs.Number.Layout

/-!
# Numbers written and read

The bits of a binary32 number are a sign and a magnitude, and what is not a number has no magnitude
(`rest_le_infinity`). A number is written as its sign and the numeral of the shortest decimal of its
magnitude, and a literal is read as its sign and a magnitude rounded twice. So what comes back is
decided by the magnitude alone: it is **the number itself, or the next one away from zero for
±7.038531 · 10⁻²⁶** (`afterReading`, `afterReading_eq_self_iff`).
-/

namespace Colorimetry.Number

/-! ### Signs and magnitudes -/

section Bits

open Float.Model.UnpackedFloat

variable {x : Float32}

/-- Whether the sign bit is set. -/
def isNegative (x : Float32) : Bool := decide (signBit ≤ x.toBits.toNat)

/-- The bits without the sign. -/
def magnitudeBits (x : Float32) : ℕ := x.toBits.toNat % signBit

theorem toNat_unpackExponent (b : BitVec Float.Model.Format.binary32.numBits) :
    (unpackExponent b : BitVec 8).toNat = b.toNat / 2 ^ 23 % 2 ^ 8 := by
  simp [unpackExponent, BitVec.extractLsb, BitVec.extractLsb', Nat.shiftRight_eq_div_pow]

theorem toNat_unpackMantissa (b : BitVec Float.Model.Format.binary32.numBits) :
    (unpackMantissa b : BitVec 23).toNat = b.toNat % 2 ^ 23 := by
  simp [unpackMantissa, BitVec.extractLsb, BitVec.extractLsb', Nat.shiftRight_eq_div_pow]

/-- Beyond infinity there is no number. -/
theorem unpack_eq_notANumber {b : BitVec Float.Model.Format.binary32.numBits}
    (h : 0x7f800000 < b.toNat % 0x80000000) : unpack .binary32 b = .notANumber := by
  have hbits : b.toNat < 2 ^ 32 := b.isLt
  have hexponent : (unpackExponent b : BitVec 8) = -1#8 := by
    refine BitVec.eq_of_toNat_eq ((toNat_unpackExponent b).trans ?_)
    change b.toNat / 2 ^ 23 % 2 ^ 8 = 255
    omega
  have hmantissa : (unpackMantissa b : BitVec 23) ≠ 0#23 := by
    intro hzero
    have hnat := (toNat_unpackMantissa b).symm.trans (congrArg BitVec.toNat hzero)
    change b.toNat % 2 ^ 23 = 0 at hnat
    omega
  rw [Binary32.unpack_eq, if_pos hexponent, if_neg hmantissa]

/-- The magnitude of a number is not beyond infinity. -/
theorem magnitudeBits_le (hx : x.isNaN = false) : magnitudeBits x ≤ Format.binary32.infinity := by
  by_contra! hlt
  have hnan : x.isNaN = (unpack .binary32 x.toBits.toBitVec).isNaN := rfl
  rw [hnan, unpack_eq_notANumber hlt] at hx
  cases hx

/-- Sign and magnitude make the number. -/
theorem float32OfBits_magnitudeBits (x : Float32) :
    float32OfBits (isNegative x) (magnitudeBits x) = x := by
  have hbits : x.toBits.toNat < 2 ^ 32 := x.toBits.toNat_lt
  have hnat : (if isNegative x then signBit + magnitudeBits x else magnitudeBits x) =
      x.toBits.toNat := by
    by_cases h : signBit ≤ x.toBits.toNat
    · rw [if_pos (by simpa [isNegative] using h)]
      simp only [magnitudeBits, signBit] at h ⊢
      omega
    · rw [if_neg (by simpa [isNegative] using h), magnitudeBits, Nat.mod_eq_of_lt (not_le.mp h)]
  rw [float32OfBits, hnat, UInt32.ofNat_toNat, Float32.ofBits_toBits]

end Bits

/-! ### What is read of a number -/

/-- What comes back of a number that is written and read. -/
def afterReading (x : Float32) : Float32 :=
  float32OfBits (isNegative x) (reread (magnitudeBits x))

/-- A number that is not the unlucky one stays what it is. -/
theorem afterReading_of_ne {x : Float32} (h : magnitudeBits x ≠ unlucky) : afterReading x = x := by
  rw [afterReading, reread, if_neg h, float32OfBits_magnitudeBits]

/-- **Only the unlucky number does not**, of either sign. -/
theorem afterReading_eq_self_iff {x : Float32} : afterReading x = x ↔ magnitudeBits x ≠ unlucky := by
  refine ⟨fun h hunlucky => ?_, afterReading_of_ne⟩
  -- neither is infinite or no number, so their bits tell them apart
  have hne : ∀ negative, float32OfBits negative (unlucky + 1) ≠ float32OfBits negative unlucky := by
    decide +kernel
  have hx := float32OfBits_magnitudeBits x
  rw [hunlucky] at hx
  rw [afterReading, reread, if_pos hunlucky] at h
  exact hne (isNegative x) (h.trans hx.symm)

section Finite

variable {x : Float32}

/-- The text of a finite number. -/
theorem exists_numeral_format (hx : magnitudeBits x < Format.binary32.infinity) :
    ∃ n : Numeral, (Style.yaml.format x).toList = (if isNegative x then ['-'] else []) ++ n.text ∧
      n.value = (shortest .binary32 .toEven (Format.binary32.magnitude (magnitudeBits x))).value := by
  obtain ⟨n, htext, hvalue⟩ :=
    exists_numeral (shortest .binary32 .toEven (Format.binary32.magnitude (magnitudeBits x)))
  refine ⟨n, ?_, hvalue⟩
  have hof : Value.ofFloat32 x =
      .finite (isNegative x) (Format.binary32.magnitude (magnitudeBits x)) := by
    have hnot : ¬Format.binary32.infinity < magnitudeBits x := by omega
    simp only [Value.ofFloat32]
    exact (if_neg hnot).trans (if_neg hx.ne)
  rw [Style.format, hof, String.toList_append]
  exact congrArg₂ (· ++ ·) (by split_ifs <;> rfl) htext

/-- The characters of a finite number. -/
theorem mem_format (hx : magnitudeBits x < Format.binary32.infinity) {c : Char}
    (hc : c ∈ (Style.yaml.format x).toList) : c.isDigit ∨ c = '.' ∨ c = 'e' ∨ c = '-' := by
  obtain ⟨n, htext, -⟩ := exists_numeral_format hx
  rw [htext, List.mem_append] at hc
  rcases hc with hc | hc
  · split_ifs at hc <;> simp_all
  · exact n.mem_text hc

/-- A numeral is no word: all words have the same letter. -/
theorem readUnsigned_numeral (negative : Bool) (n : Numeral) :
    Literal.readUnsigned negative n.text = some (.decimal negative n.digits n.exponent) := by
  have hletter : 'n' ∉ n.text.map Char.toLower := by
    intro h
    obtain ⟨c, hc, hlower⟩ := List.mem_map.mp h
    rcases n.mem_text hc with hdigit | rfl | rfl | rfl
    · rw [toLower_of_isDigit hdigit] at hlower
      subst hlower
      exact absurd hdigit (by decide)
    all_goals exact absurd hlower (by decide)
  have hword : ∀ w, 'n' ∈ w → n.text.map Char.toLower ≠ w := fun w hw h => hletter (h ▸ hw)
  rw [Literal.readUnsigned, if_neg, if_neg, n.readDecimal_text]
  · exact hword _ (by decide)
  · rintro (h | h)
    · exact hword _ (by decide) h
    · exact hword _ (by decide) h

/-- A sign and a numeral are a literal. -/
theorem read_numeral (negative : Bool) (n : Numeral) {s : String}
    (hs : s.toList = (if negative then ['-'] else []) ++ n.text) :
    Literal.read s = .ok (.decimal negative n.digits n.exponent) := by
  obtain ⟨c, rest, hcons, hc⟩ := n.exists_text_eq_cons
  have hsign : Literal.splitSign s.toList = (negative, n.text) := by
    rw [hs]
    cases negative with
    | true => rfl
    | false =>
      rw [hcons]
      unfold Literal.splitSign
      split <;> simp_all [Char.isDigit]
  have hempty : s.isEmpty = false := by
    rw [Bool.eq_false_iff, ne_eq, String.isEmpty_iff]
    rintro rfl
    rw [hcons] at hs
    simp at hs
  simp only [Literal.read, hempty, hsign, readUnsigned_numeral]
  rfl

/-- **The text of a finite number is a literal**, within the reach of binary64, and what it is read
as by way of binary64. -/
theorem exists_read_format (hx : magnitudeBits x < Format.binary32.infinity) :
    ∃ literal, Literal.read (Style.yaml.format x) = .ok literal ∧
      literal.doubleBits < Format.binary64.infinity ∧
      literal.toFloat32ByDouble = afterReading x := by
  obtain ⟨n, htext, hvalue⟩ := exists_numeral_format hx
  obtain ⟨hfinite, hnarrow⟩ := narrow_roundDecimal_of_value_eq hx hvalue
  refine ⟨_, read_numeral (isNegative x) n htext, hfinite, ?_⟩
  rw [Literal.toFloat32ByDouble, hnarrow, afterReading]

end Finite

/-- The text of an infinite number. -/
theorem format_infinite {x : Float32} (hx : magnitudeBits x = Format.binary32.infinity) :
    Style.yaml.format x = if isNegative x then "-.inf" else ".inf" := by
  have hof : Value.ofFloat32 x = .infinite (isNegative x) := by
    have hnot : ¬Format.binary32.infinity < magnitudeBits x := by omega
    simp only [Value.ofFloat32]
    exact (if_neg hnot).trans (if_pos hx)
  rw [Style.format, hof]
  cases isNegative x <;> rfl

end Colorimetry.Number
