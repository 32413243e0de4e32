import RadixCalc.Proofs.Binary64.Canonical

/-!
Packing into bits and back. The highest bit of a full mantissa is not kept: an
exponent field that is not zero stands for it.
-/

namespace RadixCalc.Binary64

open Float.Model Float.Model.UnpackedFloat

variable {mantissa : Nat} {exponent : Int}

theorem hidden_bit (bits : BitVec 52) : (1#1 ++ bits).toNat = 2 ^ 52 + bits.toNat := by
  rw [BitVec.toNat_append, ← Nat.shiftLeft_add_eq_or_of_lt bits.isLt]
  simp [Nat.shiftLeft_eq]

theorem hidden_bit_pos (bits : BitVec 52) : 0 < (1#1 ++ bits).toNat := by
  rw [hidden_bit]
  omega

theorem hidden_bit_full (short : mantissa < 2 ^ 53) (full : 2 ^ 52 ≤ mantissa) :
    (1#1 ++ BitVec.ofNat 52 mantissa).toNat = mantissa := by
  rw [hidden_bit, BitVec.toNat_ofNat]
  omega

theorem bits_ne {width field : Nat} {other : BitVec width} (fits : field < 2 ^ width)
    (apart : field ≠ other.toNat) : BitVec.ofNat width field ≠ other := by
  rintro rfl
  rw [BitVec.toNat_ofNat, Nat.mod_eq_of_lt fits] at apart
  exact apart rfl

theorem unpack_normal (sign : Sign) {field : Nat} (low : 0 < field) (high : field < 2047)
    (bits : BitVec 52) :
    UnpackedFloat.unpack .binary64 (packComponents .binary64 sign (BitVec.ofNat 11 field) bits) =
      .finite sign (1#1 ++ bits).toNat (field - 1075) (hidden_bit_pos bits) := by
  have value : (BitVec.ofNat 11 field).toNat = field := by
    rw [BitVec.toNat_ofNat]
    omega
  have notOnes : BitVec.ofNat 11 field ≠ -1#11 := bits_ne (by omega) (by simp; omega)
  have notZero : BitVec.ofNat 11 field ≠ 0#11 := bits_ne (by omega) (by simp; omega)
  simp only [UnpackedFloat.unpack, unpackExponent_packComponents, unpackMantissa_packComponents,
    unpackSign_packComponents, Sign.ofBitVec_toBitVec, notOnes, notZero, if_false, value,
    exponent_bias]
  congr 1

theorem unpack_subnormal (sign : Sign) (positive : 0 < mantissa) (short : mantissa < 2 ^ 52) :
    UnpackedFloat.unpack .binary64
        (packComponents .binary64 sign 0#11 (BitVec.ofNat 52 mantissa)) =
      .finite sign mantissa (-1074) positive := by
  have value : (BitVec.ofNat 52 mantissa).toNat = mantissa := by
    rw [BitVec.toNat_ofNat]
    omega
  have notZero : BitVec.ofNat 52 mantissa ≠ 0#52 := bits_ne short (by simp; omega)
  have notOnes : 0#11 ≠ -1#11 := by decide
  simp only [UnpackedFloat.unpack, unpackExponent_packComponents, unpackMantissa_packComponents,
    unpackSign_packComponents, Sign.ofBitVec_toBitVec, notOnes, notZero, if_false, if_true,
    dite_false, value, exponent_bias]
  congr 1

theorem unpack_pack_finite (canonical : IsCanonical mantissa exponent) (sign : Sign) :
    UnpackedFloat.unpack .binary64
        (UnpackedFloat.pack .binary64 (.finite sign mantissa exponent canonical.positive)) =
      .finite sign mantissa exponent canonical.positive := by
  have nonzero : mantissa ≠ 0 := canonical.positive.ne'
  have low := canonical.low
  have high := canonical.high
  have fits : ¬ 2 ^ 11 ≤ (exponent + 1023 + 52).toNat + 1 := by omega
  simp only [UnpackedFloat.pack, exponent_bias, mantissa_bits, Nat.cast_ofNat, fits, if_false]
  by_cases full : 2 ^ 52 ≤ mantissa
  · have highest : mantissa.log2 + 1 = 53 := by
      rw [(Nat.log2_eq_iff nonzero).mpr ⟨full, canonical.short⟩]
    have field : ((exponent + 1023 + 52).toNat : Int) - 1075 = exponent := by omega
    rw [if_pos highest, unpack_normal sign (by omega) (by omega)]
    simp only [hidden_bit_full canonical.short full, field]
  · have lowest : exponent = -1074 := canonical.full.resolve_left full
    have below : mantissa.log2 < 52 := (Nat.log2_lt nonzero).mpr (by omega)
    have notFull : mantissa.log2 + 1 ≠ 53 := by omega
    subst lowest
    rw [if_neg notFull]
    exact unpack_subnormal sign canonical.positive (by omega)

end RadixCalc.Binary64
