import RadixCalc.Proofs.Binary64.Nearest

/-!
Rounding into the format. Any mantissa and exponent that leave no bits missing
are brought to the place of their number and rounded there to the nearest; a
carry out of the highest bit is shifted away again without loss, and a result
that has no value of its own because it is too large becomes infinite.
-/

namespace RadixCalc.Binary64

open Float.Model Float.Model.UnpackedFloat

/-- A value that a number is rounded to. There are no values from 2^1024 on, so what is rounded to
one of these numbers is infinite. -/
inductive IsRounded : ℚ → Float → Prop where
  | finite {number result : ℚ} {value : Float} (rounds : Rounds number result)
      (exactly : IsExactly value result) : IsRounded number value
  | overflow {number result : ℚ} (rounds : Rounds number result)
      (beyond : product 1 1024 ≤ result) : IsRounded number infinity

variable {mantissa : Nat} {exponent : Int} {number : ℚ} {value : Float}

section Packing

theorem infinity_packed : infinity = .ofModel (.pack (.infinity .positive)) := by
  decide +kernel

/-- A normal form is packed into its value, or into infinity if its exponent is too large. -/
theorem IsNormal.packs (normal : IsNormal mantissa exponent) :
    IsExactly (.ofModel (.pack (.finite .positive mantissa exponent normal.positive)))
        (product mantissa exponent) ∨
      (Float.ofModel (.pack (.finite .positive mantissa exponent normal.positive)) = infinity ∧
        product 1 1024 ≤ product mantissa exponent) := by
  rcases le_or_gt exponent 971 with high | beyond
  · exact Or.inl (IsExactly.product (normal.canonical high))
  · right
    have filled : 2 ^ 52 ≤ mantissa := normal.full.resolve_right (by omega)
    constructor
    · have bias : 2 ^ 11 ≤ (exponent + 1023 + 52).toNat + 1 := by omega
      have packed : UnpackedFloat.pack .binary64
          (.finite .positive mantissa exponent normal.positive) =
            packedInfinity .binary64 .positive := by
        simp only [UnpackedFloat.pack, exponent_bias, Nat.cast_ofNat, bias, if_true]
      rw [infinity_packed, Float.Model.pack, Float.Model.pack]
      simp only [packed]
      rfl
    · calc product 1 1024 = product (2 ^ 52) 972 := (product_shift 1 1024 52).symm
        _ ≤ product (2 ^ 52) exponent := product_le_of_exponent (by omega)
        _ ≤ product mantissa exponent := product_le_product filled

end Packing

theorem described_mantissa (mantissa : Nat) (accuracy : Accuracy) :
    (ExtendedMantissa.ofMantissaAndAccuracy mantissa accuracy).mantissa = mantissa := by
  cases accuracy with
  | exact => rfl
  | inexact order => cases order <;> rfl

/-- The exponent that is called for is the place of the number. -/
theorem placed_of_target {accuracy : Accuracy} {place : Int}
    (described : Describes (ExtendedMantissa.ofMantissaAndAccuracy mantissa accuracy)
      (number / 2 ^ exponent))
    (called : Format.binary64.targetExponent (totalExponent mantissa exponent) = place)
    (below : exponent ≤ place) : IsPlaced number place := by
  rw [Format.targetExponent, totalExponent, least_exponent, mantissa_bits] at called
  have bounds := described.bounds
  rw [described_mantissa] at bounds
  have upper : mantissa + 1 ≤ 2 ^ (mantissa.log2 + 1) := Nat.lt_log2_self
  refine ⟨by omega, ?_, ?_⟩
  · calc number < product (mantissa + 1) exponent := by
          rw [product, ← div_lt_iff₀ (by positivity)]
          push_cast
          exact bounds.2
      _ ≤ product (2 ^ (mantissa.log2 + 1)) exponent := product_le_product upper
      _ = product 1 (exponent + (mantissa.log2 + 1 : Nat)) := product_power _ _
      _ ≤ product 1 (place + (53 : Nat)) := product_le_of_exponent (by push_cast; omega)
      _ = product (2 ^ 53) place := (product_power 53 place).symm
  · by_cases least : place = -1074
    · exact Or.inr least
    have nonzero : mantissa ≠ 0 := by
      rintro rfl
      simp only [Nat.log2_zero] at called
      omega
    left
    calc product (2 ^ 52) place = product 1 (place + (52 : Nat)) := product_power 52 place
      _ = product 1 (exponent + mantissa.log2) := by congr 1; push_cast; omega
      _ = product (2 ^ mantissa.log2) exponent := (product_power _ _).symm
      _ ≤ product mantissa exponent := product_le_product (Nat.log2_self_le nonzero)
      _ ≤ number := product_le_iff.mpr bounds.1

/-- What is left after rounding at a place: nothing, or a normal form of the same number. -/
theorem round_of_shifted {accuracy : Accuracy} {extended : ExtendedMantissa} {place : Int}
    (shifted : shiftToTargetExponent .binary64 mantissa exponent accuracy = (extended, place))
    (short : extended.roundedMantissa ≤ 2 ^ 53) (low : -1074 ≤ place)
    (full : 2 ^ 52 ≤ extended.roundedMantissa ∨ place = -1074) :
    (extended.roundedMantissa = 0 ∧
        roundWithAccuracy .binary64 .positive mantissa exponent accuracy = .zero .positive) ∨
      ∃ final finalExponent, ∃ normal : IsNormal final finalExponent,
        product final finalExponent = product extended.roundedMantissa place ∧
          roundWithAccuracy .binary64 .positive mantissa exponent accuracy =
            .finite .positive final finalExponent normal.positive := by
  rw [roundWithAccuracy, shifted]
  simp only
  generalize extended.roundedMantissa = rounded at *
  rcases Nat.eq_zero_or_pos rounded with rfl | positive
  · left
    have nothing := shift_right_exact 0 (Format.binary64.targetExponent (totalExponent 0 place) -
      place).toNat
    rw [zero_mul] at nothing
    simp only [shiftToTargetExponent, shiftToExponent, nothing, dite_true, and_self]
  · right
    rcases Nat.eq_or_lt_of_le short with rfl | fits
    · -- The carry has made the mantissa one bit too long.
      have normal : IsNormal (2 ^ 52) (place + 1) :=
        ⟨by norm_num, by norm_num, by omega, Or.inl (le_refl _)⟩
      have again := shift_to_target_exact normal 1
      have same : place + 1 - ((1 : Nat) : Int) = place := by omega
      rw [same] at again
      refine ⟨_, _, normal, (product_double (2 ^ 52) place).symm, ?_⟩
      rw [show 2 ^ 53 = 2 ^ 52 * 2 ^ 1 by norm_num, again]
      exact dif_neg normal.positive.ne'
    · have normal : IsNormal rounded place := ⟨positive, fits, low, full⟩
      have again := shift_to_target_exact normal 0
      rw [pow_zero, mul_one, Nat.cast_zero, sub_zero] at again
      refine ⟨_, _, normal, rfl, ?_⟩
      rw [again]
      exact dif_neg normal.positive.ne'

/-- A mantissa at an exponent that is not above the place of its number is rounded to the nearest.
-/
theorem round_with_accuracy {accuracy : Accuracy}
    (described : Describes (ExtendedMantissa.ofMantissaAndAccuracy mantissa accuracy)
      (number / 2 ^ exponent))
    (below : exponent ≤
      Format.binary64.targetExponent (totalExponent mantissa exponent)) :
    IsRounded number
      (.ofModel (.pack (roundWithAccuracy .binary64 .positive mantissa exponent accuracy))) := by
  obtain ⟨shift, distance⟩ : ∃ shift : Nat,
      Format.binary64.targetExponent (totalExponent mantissa exponent) - exponent = shift :=
    ⟨_, (Int.toNat_of_nonneg (Int.sub_nonneg_of_le below)).symm⟩
  obtain ⟨place, called⟩ :
      ∃ place, Format.binary64.targetExponent (totalExponent mantissa exponent) = place :=
        ⟨_, rfl⟩
  rw [called] at distance
  have shifted : shiftToTargetExponent .binary64 mantissa exponent accuracy =
      (ExtendedMantissa.ofMantissaAndAccuracy mantissa accuracy >>> shift, place) := by
    rw [shiftToTargetExponent, shiftToExponent, called, distance]
    simp only [Int.toNat_natCast]
    congr 1
    omega
  have units : number / 2 ^ exponent / 2 ^ shift = number / 2 ^ place := by
    rw [div_div, ← zpow_natCast, ← zpow_add₀ two_ne_zero]
    congr 2
    omega
  -- Shifted to its place, the mantissa still describes the number, now in units of that place.
  have nearest := (described.shift shift).nearest
  rw [units] at nearest
  have placed : IsPlaced number place := placed_of_target described called (by omega)
  have short : (ExtendedMantissa.ofMantissaAndAccuracy mantissa accuracy >>>
      shift).roundedMantissa ≤ 2 ^ 53 := nearest.at_most (le_product_iff.mp placed.short.le)
  have full : 2 ^ 52 ≤ (ExtendedMantissa.ofMantissaAndAccuracy mantissa accuracy >>>
      shift).roundedMantissa ∨ place = -1074 :=
    placed.full.imp_left fun full => nearest.at_least (product_le_iff.mp full)
  have rounds := Rounds.nearest placed nearest
  rcases round_of_shifted shifted short placed.low full with ⟨nothing, rounded⟩ |
    ⟨final, finalExponent, normal, same, rounded⟩
  · rw [nothing, product, Nat.cast_zero, zero_mul] at rounds
    rw [rounded]
    exact IsRounded.finite rounds IsExactly.zero
  · rw [← same] at rounds
    rw [rounded]
    rcases normal.packs with exactly | ⟨infinite, beyond⟩
    · exact IsRounded.finite rounds exactly
    · rw [infinite]
      exact IsRounded.overflow rounds beyond

end RadixCalc.Binary64
