import Mathlib
import PipelineProfile.Number.Decimal

/-!
# Doubles of fractions are not negative

A fraction is rounded to a double by way of its bits, and these are at most those of infinity.  So
the sign is never set and the double is never a NaN (`isNaNBits_eq_false`), and what is not the
zero is above it (`zero_lt_unpack`).  The main result is `zero_lt_ofRatio_iff`: to be above zero is
to be different from zero.
-/

open Float.Model Float.Model.UnpackedFloat

namespace PipelineProfile.Binary64

/-! ## The fields of a double -/

section Fields

variable {b : BitVec Format.binary64.numBits}

lemma toNat_unpackExponent : (unpackExponent b).toNat = b.toNat / 2 ^ 52 % 2 ^ 11 := by
  rw [unpackExponent_def, BitVec.extractLsb'_toNat, Nat.shiftRight_eq_div_pow]

lemma toNat_unpackMantissa : (unpackMantissa b).toNat = b.toNat % 2 ^ 52 := by
  rw [unpackMantissa_def, BitVec.extractLsb'_toNat, Nat.shiftRight_zero]

lemma toNat_unpackSign : (unpackSign b).toNat = b.toNat / 2 ^ 63 % 2 := by
  rw [unpackSign_def, BitVec.extractLsb'_toNat, Nat.shiftRight_eq_div_pow]
  rfl

/-- Bits up to those of infinity are not those of a NaN. -/
lemma isNaNBits_eq_false (h : b.toNat ≤ infinityBits) : isNaNBits b = false := by
  rw [isNaNBits, decide_eq_false_iff_not]
  rintro ⟨hexponent, hmantissa⟩
  have hexp : b.toNat / 2 ^ 52 % 2 ^ 11 = 2047 := by
    rw [← toNat_unpackExponent, hexponent]
    rfl
  have hman : b.toNat % 2 ^ 52 ≠ 0 := by
    intro hzero
    rw [← toNat_unpackMantissa] at hzero
    exact hmantissa (BitVec.eq_of_toNat_eq hzero)
  have hinf : infinityBits = 2047 * 2 ^ 52 := rfl
  omega

/-- Bits up to those of infinity, if not all are zero, are those of a number above zero. -/
lemma zero_lt_unpack (h : b.toNat ≤ infinityBits) (hne : b.toNat ≠ 0) :
    (UnpackedFloat.zero .positive).lt (UnpackedFloat.unpack .binary64 b) = true := by
  have hinf : infinityBits = 2047 * 2 ^ 52 := rfl
  have hsign : unpackSign b = 0#1 := by
    apply BitVec.eq_of_toNat_eq
    rw [toNat_unpackSign, BitVec.toNat_ofNat]
    omega
  unfold UnpackedFloat.unpack
  simp only [hsign]
  split
  · -- All bits of the exponent are set: infinity, for a NaN is above it.
    split
    · rfl
    · next hexponent hmantissa =>
      have hnumber := isNaNBits_eq_false h
      rw [isNaNBits, decide_eq_false_iff_not] at hnumber
      exact absurd ⟨hexponent, hmantissa⟩ hnumber
  · split
    · next hexponent =>
      split
      · next hmantissa =>
        have hexp : b.toNat / 2 ^ 52 % 2 ^ 11 = 0 := by
          rw [← toNat_unpackExponent, hexponent]
          rfl
        have hman : b.toNat % 2 ^ 52 = 0 := by
          rw [← toNat_unpackMantissa, hmantissa]
          rfl
        omega
      · rfl
    · rfl

end Fields

/-! ## The double of a fraction -/

lemma bitsOfRatio_le (num den : Nat) : bitsOfRatio num den ≤ infinityBits := Nat.min_le_right ..

lemma zero_lt_ofBits {n : Nat} (h : n ≤ infinityBits) (hne : n ≠ 0) :
    0 < Float.ofBits n.toUInt64 := by
  have htoNat : n.toUInt64.toBitVec.toNat = n :=
    Nat.mod_eq_of_lt (h.trans_lt (by decide : infinityBits < 2 ^ 64))
  have hle : n.toUInt64.toBitVec.toNat ≤ infinityBits := htoNat.symm ▸ h
  have hbits : UnpackedFloat.pack .binary64 (UnpackedFloat.unpack .binary64 n.toUInt64.toBitVec) =
      n.toUInt64.toBitVec := by
    rw [pack_unpack, isNaNBits_eq_false hle, if_neg Bool.false_ne_true]
  have hlt := zero_lt_unpack hle (htoNat.symm ▸ hne)
  rw [← hbits] at hlt
  change decide (_ = true) = true
  exact decide_eq_true hlt

/-- The double of a fraction is above zero unless it is zero. -/
lemma zero_lt_ofRatio_iff (num den : Nat) : 0 < ofRatio num den ↔ ofRatio num den ≠ 0 := by
  constructor
  · intro hlt heq
    rw [heq] at hlt
    exact absurd hlt (by decide)
  · intro hne
    apply zero_lt_ofBits (bitsOfRatio_le num den)
    intro hzero
    apply hne
    rw [ofRatio, hzero]
    decide

end PipelineProfile.Binary64
