import Mathlib
import Colorimetry.Proofs.Binary32.Unpacked

/-!
# Packing

A float is stored in thirty-two bits, and every operation of the model unpacks its arguments and
packs its result. Packing changes a canonical float in one case only, the one of an exponent that
does not fit, which becomes infinite (`unpack_pack`); and what comes out of thirty-two bits is
canonical and fits (`canonical_unpack`). In units both say the same: a result is kept if it is below
the limit in size, and is not finite otherwise (`unitsOf_unpack_pack`).
-/

namespace Colorimetry.Binary32

open Float.Model (Format UnpackedFloat)
open Float.Model.UnpackedFloat

/-! ### Components -/

theorem ofBitVec_toBitVec (s : Sign) : Sign.ofBitVec s.toBitVec = s := by
  cases s <;> rfl

theorem unpackSign_packComponents {spec : Format} (s : Sign) (e : BitVec spec.exponentBits)
    (m : BitVec spec.mantissaBitsWithoutImplicit) :
    unpackSign (packComponents spec s e m) = s.toBitVec := by
  ext i hi
  obtain rfl : i = 0 := by omega
  simp [unpackSign, packComponents, BitVec.getLsbD_append, BitVec.getElem_append]

/-- The mantissa of a normal float, with the digit that is not stored. -/
theorem toNat_implicit_append (m : BitVec 23) : (1#1 ++ m).toNat = 2 ^ 23 + m.toNat := by
  rw [BitVec.toNat_append, ← Nat.shiftLeft_add_eq_or_of_lt m.isLt]
  norm_num [Nat.shiftLeft_eq]

/-- What is unpacked from a sign, an exponent and a mantissa. -/
theorem unpack_eq {b : BitVec Format.binary32.numBits} :
    unpack .binary32 b =
      if (unpackExponent b : BitVec 8) = -1#8 then
        (if (unpackMantissa b : BitVec 23) = 0#23 then .infinity (.ofBitVec (unpackSign b))
          else .notANumber)
      else if (unpackExponent b : BitVec 8) = 0#8 then
        ofMantissa (.ofBitVec (unpackSign b)) (unpackMantissa b : BitVec 23).toNat (-149)
      else ofMantissa (.ofBitVec (unpackSign b)) (2 ^ 23 + (unpackMantissa b : BitVec 23).toNat)
        ((unpackExponent b : BitVec 8).toNat - 150) := by
  have hbias : (Format.binary32.exponentBias : ℤ) + (23 : ℕ) = 150 := by decide
  unfold unpack
  simp only [hbias]
  split_ifs with h1 h2 h3 h4
  · rfl
  · rfl
  · simp [ofMantissa, h4]
  · refine finite_eq_ofMantissa _ _ rfl ?_
    rw [h3]
    rfl
  · exact finite_eq_ofMantissa _ _ (toNat_implicit_append _) rfl

/-- What is unpacked from packed components. -/
theorem unpack_packComponents (s : Sign) {e : BitVec 8} (m : BitVec 23) (he : e ≠ -1#8) :
    unpack .binary32 (packComponents .binary32 s e m) =
      if e = 0#8 then ofMantissa s m.toNat (-149)
      else ofMantissa s (2 ^ 23 + m.toNat) (e.toNat - 150) := by
  rw [unpack_eq, unpackExponent_packComponents, unpackMantissa_packComponents,
    unpackSign_packComponents, ofBitVec_toBitVec, if_neg he]

/-! ### Packing and unpacking -/

/-- A float whose exponent does not fit becomes infinite. -/
def overflow : UnpackedFloat → UnpackedFloat
  | .finite s m e h => if 105 ≤ e then .infinity s else .finite s m e h
  | u => u

/-- How a finite float is packed. -/
theorem pack_finite (s : Sign) (m : ℕ) (e : ℤ) (h : 0 < m) :
    pack .binary32 (.finite s m e h) =
      if 2 ^ 8 ≤ (e + 150).toNat + 1 then packedInfinity .binary32 s
      else if m.log2 + 1 = 24 then
        packComponents .binary32 s (BitVec.ofNat 8 (e + 150).toNat) (BitVec.ofNat 23 m)
      else packComponents .binary32 s 0#8 (BitVec.ofNat 23 m) := by
  have hbias : e + (Format.binary32.exponentBias : ℤ) + (23 : ℕ) = e + 150 := by
    rw [add_assoc]
    rfl
  unfold pack
  simp only [hbias]
  rfl

/-- Different exponents are stored differently. -/
theorem ofNat_ne_ofNat {i j : ℕ} (hi : i < 2 ^ 8) (hj : j < 2 ^ 8) (h : i ≠ j) :
    BitVec.ofNat 8 i ≠ BitVec.ofNat 8 j := by
  intro heq
  have hnat := congrArg BitVec.toNat heq
  rw [BitVec.toNat_ofNat, BitVec.toNat_ofNat, Nat.mod_eq_of_lt hi, Nat.mod_eq_of_lt hj] at hnat
  exact h hnat

/-- A normal float. -/
theorem unpack_normal (s : Sign) {m : ℕ} {e : ℤ} (hm : 0 < m) (hlow : 2 ^ 23 ≤ m)
    (hhigh : m < 2 ^ 24) (hmin : -149 ≤ e) (hmax : e < 105) :
    unpack .binary32 (packComponents .binary32 s (BitVec.ofNat 8 (e + 150).toNat)
      (BitVec.ofNat 23 m)) = .finite s m e hm := by
  have hexp : (e + 150).toNat < 2 ^ 8 := by omega
  have hone : BitVec.ofNat 8 (e + 150).toNat ≠ -1#8 :=
    ofNat_ne_ofNat (j := 255) hexp (by norm_num) (by omega)
  have hzero : BitVec.ofNat 8 (e + 150).toNat ≠ 0#8 :=
    ofNat_ne_ofNat (j := 0) hexp (by norm_num) (by omega)
  rw [unpack_packComponents s _ hone, if_neg hzero, BitVec.toNat_ofNat, BitVec.toNat_ofNat,
    Nat.mod_eq_of_lt hexp]
  refine (finite_eq_ofMantissa s hm ?_ ?_).symm
  · -- the digit that is not stored
    omega
  · omega

/-- A float of the least exponent, which is stored as zero. -/
theorem unpack_subnormal (s : Sign) {m : ℕ} (hm : 0 < m) (hhigh : m < 2 ^ 23) :
    unpack .binary32 (packComponents .binary32 s 0#8 (BitVec.ofNat 23 m)) =
      .finite s m (-149) hm := by
  rw [unpack_packComponents s _ (by decide), if_pos rfl, BitVec.toNat_ofNat,
    Nat.mod_eq_of_lt hhigh]
  exact (finite_eq_ofMantissa s hm rfl rfl).symm

/-- **Packing preserves canonical floats** up to overflow. -/
theorem unpack_pack {u : UnpackedFloat} (h : Canonical u) :
    unpack .binary32 (pack .binary32 u) = overflow u := by
  cases u with
  | infinity s => cases s <;> rfl
  | notANumber => rfl
  | zero s => cases s <;> rfl
  | finite s m e hm =>
    obtain ⟨hlt, hmin, hnormal⟩ := h
    rw [pack_finite, overflow]
    by_cases he : 105 ≤ e
    · rw [if_pos (by omega), if_pos he]
      cases s <;> rfl
    · rw [if_neg (by omega), if_neg he]
      by_cases hlarge : 2 ^ 23 ≤ m
      · have hlog : m.log2 = 23 := (Nat.log2_eq_iff hm.ne').mpr ⟨hlarge, hlt⟩
        rw [if_pos (by omega)]
        exact unpack_normal s hm hlarge hlt hmin (not_le.mp he)
      · have hlog : m.log2 + 1 ≠ 24 := by
          have := (Nat.log2_lt hm.ne').mpr (not_le.mp hlarge)
          omega
        obtain rfl : e = -149 := hnormal.resolve_left hlarge
        rw [if_neg hlog]
        exact unpack_subnormal s hm (not_le.mp hlarge)

/-- What is unpacked is canonical, and its exponent fits. -/
theorem canonical_unpack (b : BitVec Format.binary32.numBits) :
    Canonical (unpack .binary32 b) ∧ overflow (unpack .binary32 b) = unpack .binary32 b := by
  have hfit (s : Sign) (m : ℕ) (e : ℤ) (he : e < 105) :
      overflow (ofMantissa s m e) = ofMantissa s m e := by
    unfold ofMantissa
    split_ifs
    · rfl
    · rw [overflow, if_neg (by omega)]
  rw [unpack_eq]
  generalize (unpackExponent b : BitVec 8) = e
  generalize (unpackMantissa b : BitVec 23) = m
  have hm : m.toNat < 2 ^ 23 := m.isLt
  have he : e.toNat < 2 ^ 8 := e.isLt
  split_ifs with h1 h2 h3
  · exact ⟨trivial, rfl⟩
  · exact ⟨trivial, rfl⟩
  · exact ⟨canonical_ofMantissa _ (by omega) le_rfl (Or.inr rfl), hfit _ _ _ (by norm_num)⟩
  · have hne : e.toNat ≠ 0 := fun h => h3 (BitVec.eq_of_toNat_eq h)
    have hne' : e.toNat ≠ 255 := fun h => h1 (BitVec.eq_of_toNat_eq h)
    exact ⟨canonical_ofMantissa _ (by omega) (by omega) (Or.inl (by omega)),
      hfit _ _ _ (by omega)⟩

/-! ### Overflow in units -/

/-- The first integer beyond the finite values: twenty-four digits, and the greatest exponent. -/
def limit : ℕ := 2 ^ 24 * 2 ^ 253

theorem limit_pos : 0 < limit := Nat.mul_pos (Nat.two_pow_pos 24) (Nat.two_pow_pos 253)

/-- Integers that count a finite binary32 value. -/
def fit (n : ℤ) : Option ℤ := if n.natAbs < limit then some n else none

theorem fit_zero : fit 0 = some 0 := if_pos limit_pos

theorem natAbs_apply (s : Sign) (n : ℕ) : (s.apply n).natAbs = n := by
  cases s <;> simp [Sign.apply]

/-- An exponent fits exactly if the float is below the limit. -/
theorem unitsOf_overflow {u : UnpackedFloat} (h : Canonical u) :
    unitsOf (overflow u) = (unitsOf u).bind fit := by
  cases u with
  | infinity s => rfl
  | notANumber => rfl
  | zero s => simp only [overflow, unitsOf, Option.bind_some, fit_zero]
  | finite s m e hm =>
    obtain ⟨hlt, hmin, hnormal⟩ := h
    rw [overflow, unitsOf, Option.bind_some, fit, natAbs_apply]
    by_cases he : 105 ≤ e
    · have hlarge : 2 ^ 23 ≤ m := hnormal.resolve_right (by omega)
      have hbig : limit ≤ m * 2 ^ (e + 149).toNat := by
        calc limit = 2 ^ 23 * 2 ^ 254 := by rw [limit, ← pow_add, ← pow_add]
          _ ≤ m * 2 ^ (e + 149).toNat :=
            Nat.mul_le_mul hlarge (Nat.pow_le_pow_right two_pos (by omega))
      rw [if_pos he, if_neg (not_lt.mpr hbig)]
      rfl
    · have hsmall : m * 2 ^ (e + 149).toNat < limit := by
        calc m * 2 ^ (e + 149).toNat < 2 ^ 24 * 2 ^ (e + 149).toNat :=
            Nat.mul_lt_mul_of_pos_right hlt (Nat.two_pow_pos _)
          _ ≤ limit :=
            Nat.mul_le_mul_left _ (Nat.pow_le_pow_right two_pos (by omega))
      rw [if_neg he, if_pos hsmall]
      rfl

/-- **A packed result in units.** -/
theorem unitsOf_unpack_pack {u : UnpackedFloat} (h : Canonical u) :
    unitsOf (unpack .binary32 (pack .binary32 u)) = (unitsOf u).bind fit := by
  rw [unpack_pack h, unitsOf_overflow h]

end Colorimetry.Binary32
