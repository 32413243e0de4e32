import RadixCalc.Proofs.Binary64.Arithmetic

/-!
Whole numbers as floating-point values. Up to 2^53 every whole number has a
value of its own, past which nothing below is rounded. The whole part and the
fraction of a value have values of their own too.
-/

namespace RadixCalc.Binary64

open Float.Model Float.Model.UnpackedFloat

theorem representable_nat {number : Nat} (bounded : number ≤ 2 ^ 53) :
    Representable (number : ℚ) := by
  rcases Nat.eq_or_lt_of_le bounded with rfl | short
  · have same : product (2 ^ 52) 1 = ((2 ^ 53 : Nat) : ℚ) := by norm_num [product]
    rw [← same]
    exact representable_product (by norm_num) (by norm_num) (by norm_num)
  · have same : product number 0 = number := by simp [product]
    rw [← same]
    exact representable_product short (by norm_num) (by norm_num)

theorem one_bits_exactly : IsExactly (Float.ofBits 0x3FF0000000000000) 1 := by
  have canonical : IsCanonical (2 ^ 52) (-52) := by constructor <;> norm_num
  have bits : Float.ofBits 0x3FF0000000000000 = canonicalValue canonical := by rfl
  have same : product (2 ^ 52) (-52) = 1 := by norm_num [product]
  rw [bits, ← same]
  exact IsExactly.product canonical

theorem one_exactly : IsExactly 1.0 1 := by
  have bits : (1.0 : Float) = Float.ofBits 0x3FF0000000000000 := by decide +kernel
  rw [bits]
  exact one_bits_exactly

theorem of_uint64_exactly {number : Nat} (short : number < 2 ^ 53) :
    IsExactly number.toUInt64.toFloat number := by
  have kept : number.toUInt64.toNat = number := by
    rw [Nat.toUInt64, UInt64.toNat_ofNat']
    omega
  have opened : number.toUInt64.toFloat = .ofModel (.pack
      (UnpackedFloat.normalize .binary64 (number.toUInt64.toNat : Int) 0 .positive)) := rfl
  have whole : product number 0 = number := by simp [product]
  have rounded := normalize_rounded number 0
  rw [whole] at rounded
  rw [opened, kept]
  exact rounded.exactly (representable_nat short.le)

theorem of_nat_short {number : Nat} (short : number < 2 ^ 53) :
    Float.ofNat number = number.toUInt64.toFloat * Float.ofBits 0x3FF0000000000000 := by
  have chosen : number < 2 ^ 53 ∧ 0 ≤ 22 := ⟨short, by omega⟩
  rw [Float.ofNat]
  exact dif_pos chosen

theorem of_nat_long {number : Nat} (long : 2 ^ 53 ≤ number) :
    Float.ofNat number = .ofModel (.pack
      (roundWithAccuracy .binary64 .positive (number * 2 ^ 53) (-53) .exact)) := by
  have other : ¬(number < 2 ^ 53 ∧ 0 ≤ 22) := by omega
  have slow : Float.ofNat number =
      .ofModel (.pack (UnpackedFloat.ofScientific .binary64 number 0)) := by
    rw [Float.ofNat]
    exact dif_neg other
  have nonzero : number ≠ 0 := by omega
  have tooLarge : ¬(0 : Int) > 2 ^ 11 := by norm_num
  have tooSmall : ¬(0 : Int) < -(2 ^ 11 + (number.log2 : Int)) := by omega
  have factor : number <<< Format.binary64.mantissaBits * 10 ^ Int.toNat 0 = number * 2 ^ 53 := by
    rw [mantissa_bits, Nat.shiftLeft_eq, Int.toNat_zero, pow_zero, mul_one]
  have least : -(Format.binary64.mantissaBits : Int) + 0 = -53 := by
    rw [mantissa_bits]
    norm_num
  rw [slow, UnpackedFloat.ofScientific, dif_neg nonzero, if_neg tooLarge, if_neg tooSmall,
    if_pos (le_refl 0), UnpackedFloat.mul, factor, least]
  rfl

theorem of_nat_rounded (number : Nat) : IsRounded number (Float.ofNat number) := by
  rcases Nat.lt_or_ge number (2 ^ 53) with short | long
  · have multiplied := (of_uint64_exactly short).mul_rounded one_bits_exactly
    rwa [mul_one, ← of_nat_short short] at multiplied
  · have shifted : product (number * 2 ^ 53) (-53) = number := by
      have same := product_shift number 0 53
      rw [show (0 : Int) - (53 : Nat) = -53 by norm_num] at same
      rw [same]
      simp [product]
    have highest : 106 ≤ (number * 2 ^ 53).log2 := by
      rw [Nat.le_log2 (by omega)]
      omega
    have rounded := round_with_accuracy (describes_product (number * 2 ^ 53) (-53)) (by
      rw [Format.targetExponent, totalExponent, least_exponent, mantissa_bits]
      omega)
    rwa [shifted, ← of_nat_long long] at rounded

theorem of_nat_exactly {number : Nat} (fits : Representable (number : ℚ)) :
    IsExactly (Float.ofNat number) number :=
  (of_nat_rounded number).exactly fits

theorem of_nat_zero : Float.ofNat 0 = zeroValue := by
  decide +kernel

section Arithmetic

theorem of_nat_bounded {number : Nat} (bounded : number ≤ 2 ^ 53) :
    IsExactly (Float.ofNat number) number :=
  of_nat_exactly (representable_nat bounded)

theorem IsExactly.mul_at_most {left right : Float} {leftNumber rightNumber : ℚ} {bound : Nat}
    (leftExactly : IsExactly left leftNumber) (rightExactly : IsExactly right rightNumber)
    (short : bound < 2 ^ 53) (below : leftNumber * rightNumber ≤ bound) :
    ∃ number ≤ (bound : ℚ), IsExactly (left * right) number :=
  (leftExactly.mul_rounded rightExactly).at_most (representable_nat short.le) below

end Arithmetic

section Whole

variable {number : ℚ}

theorem fraction_lt_one (number : ℚ) : number - ⌊number⌋₊ < 1 :=
  sub_lt_iff_lt_add'.mpr (Nat.lt_floor_add_one number)

theorem whole_and_fraction (fits : Representable number) :
    Representable (⌊number⌋₊ : ℚ) ∧ Representable (number - ⌊number⌋₊) := by
  have parts := fits.split 0
  rw [zpow_zero, div_one, product, zpow_zero, mul_one] at parts
  exact parts

/-- Taking the whole part away is exact. -/
theorem IsExactly.fraction {value : Float} (exactly : IsExactly value number) :
    IsExactly (value - Float.ofNat (wholePart value)) (number - ⌊number⌋₊) := by
  obtain ⟨whole, fraction⟩ := whole_and_fraction exactly.representable
  rw [exactly.whole_part]
  exact exactly.sub (of_nat_exactly whole) (Nat.floor_le exactly.nonneg) fraction

end Whole

end RadixCalc.Binary64
