import RadixCalc.Proofs.Binary64.Exact

/-!
Taking values apart. The bits of a value are those of its sign, its exponent
field and the mantissa bits that are kept, and each choice of these is packed
from an infinity, NaN, a zero or a canonical form. So there is no other value:
only one is infinite and below zero, and all that are neither infinite nor NaN
stand for a number, up to the sign.
-/

namespace RadixCalc.Binary64

open Float.Model Float.Model.UnpackedFloat

theorem sign_of_bit (bit : BitVec 1) : (Sign.ofBitVec bit).toBitVec = bit := by
  revert bit
  decide

theorem exists_components (bits : BitVec Format.binary64.numBits) :
    ∃ sign field kept, packComponents .binary64 sign field kept = bits := by
  refine ⟨Sign.ofBitVec (unpackSign bits), unpackExponent bits, unpackMantissa bits, ?_⟩
  simp only [packComponents, sign_of_bit, unpackSign, unpackExponent, unpackMantissa,
    BitVec.extractLsb]
  ext place inside
  grind

theorem pack_subnormal (sign : Sign) {mantissa : Nat} (positive : 0 < mantissa)
    (short : mantissa < 2 ^ 52) :
    UnpackedFloat.pack .binary64 (.finite sign mantissa (-1074) positive) =
      packComponents .binary64 sign 0#11 (BitVec.ofNat 52 mantissa) := by
  have below : mantissa.log2 < 52 := (Nat.log2_lt positive.ne').mpr short
  have notFull : mantissa.log2 + 1 ≠ 53 := by omega
  simp only [UnpackedFloat.pack, exponent_bias, mantissa_bits, if_neg notFull]
  rfl

theorem pack_normal (sign : Sign) {field : Nat} (low : 0 < field) (high : field < 2047)
    (kept : BitVec 52) :
    UnpackedFloat.pack .binary64
        (.finite sign (1#1 ++ kept).toNat (field - 1075) (hidden_bit_pos kept)) =
      packComponents .binary64 sign (BitVec.ofNat 11 field) kept := by
  have bounds := kept.isLt
  have bit := hidden_bit kept
  have highest : (1#1 ++ kept).toNat.log2 = 52 :=
    (Nat.log2_eq_iff (hidden_bit_pos kept).ne').mpr ⟨by omega, by omega⟩
  have biased : ((field : Int) - 1075 + 1023 + 52).toNat = field := by omega
  have fits : ¬ 2 ^ 11 ≤ field + 1 := by omega
  have cut : BitVec.ofNat 52 (1#1 ++ kept).toNat = kept := by
    apply BitVec.eq_of_toNat_eq
    rw [BitVec.toNat_ofNat]
    omega
  simp only [UnpackedFloat.pack, exponent_bias, mantissa_bits, Nat.cast_ofNat, biased, fits,
    if_false, highest, if_true, cut]

theorem eq_of_pack {value : Float} (unpacked : UnpackedFloat)
    (same : UnpackedFloat.pack .binary64 unpacked = value.toModel.toBits.toBitVec) :
    value = .ofModel (.pack unpacked) := by
  obtain ⟨⟨⟨bits⟩, valid⟩⟩ := value
  cases same
  rfl

/-- The values there are. -/
inductive Packed : Float → Prop where
  | infinity (sign : Sign) : Packed (.ofModel (.pack (.infinity sign)))
  | notANumber : Packed (.ofModel (.pack .notANumber))
  | zero (sign : Sign) : Packed (.ofModel (.pack (.zero sign)))
  | finite (sign : Sign) {mantissa : Nat} {exponent : Int}
      (canonical : IsCanonical mantissa exponent) :
      Packed (.ofModel (.pack (.finite sign mantissa exponent canonical.positive)))

theorem packed (value : Float) : Packed value := by
  obtain ⟨sign, field, kept, same⟩ := exists_components value.toModel.toBits.toBitVec
  have short : kept.toNat < 2 ^ 52 := kept.isLt
  -- The greatest exponent is that of the infinities and NaN, the least that of numbers without a
  -- hidden bit.
  by_cases ones : field = -1#11
  · subst ones
    by_cases nothing : kept = 0#52
    · subst nothing
      rw [eq_of_pack (.infinity sign) same]
      exact .infinity sign
    · have canonical := value.toModel.valid.eq_packedNaN (by rw [← same]; simp)
        (by rw [← same]; simpa)
      rw [eq_of_pack .notANumber canonical.symm]
      exact .notANumber
  by_cases zeros : field = 0#11
  · subst zeros
    by_cases nothing : kept = 0#52
    · subst nothing
      rw [eq_of_pack (.zero sign) same]
      exact .zero sign
    · have positive : 0 < kept.toNat := by simpa [BitVec.toNat_pos, BitVec.pos_iff_ne_zero]
      have canonical : IsCanonical kept.toNat (-1074) :=
        ⟨positive, by omega, le_refl _, by norm_num, Or.inr rfl⟩
      have bits := pack_subnormal sign positive short
      rw [BitVec.ofNat_toNat, BitVec.setWidth_eq] at bits
      rw [eq_of_pack _ (bits.trans same)]
      exact .finite sign canonical
  · have low : field.toNat ≠ 0 := fun same => zeros (BitVec.eq_of_toNat_eq same)
    have high : field.toNat ≠ 2047 := fun same => ones (BitVec.eq_of_toNat_eq same)
    have limit : field.toNat < 2 ^ 11 := field.isLt
    have bit := hidden_bit kept
    have canonical : IsCanonical (1#1 ++ kept).toNat (field.toNat - 1075) :=
      ⟨hidden_bit_pos kept, by omega, by omega, by omega, Or.inl (by omega)⟩
    have bits := pack_normal sign (Nat.pos_of_ne_zero low) (by omega) kept
    rw [BitVec.ofNat_toNat, BitVec.setWidth_eq] at bits
    rw [eq_of_pack _ (bits.trans same)]
    exact .finite sign canonical

theorem is_inf_finite (sign : Sign) {mantissa : Nat} {exponent : Int}
    (canonical : IsCanonical mantissa exponent) :
    (Float.ofModel (.pack (.finite sign mantissa exponent canonical.positive))).isInf = false := by
  change (UnpackedFloat.unpack .binary64 (UnpackedFloat.pack .binary64
    (.finite sign mantissa exponent canonical.positive))).isInf = false
  rw [unpack_pack_finite canonical sign]
  rfl

theorem infinite_below_zero {value : Float} :
    (value < 0.0 ∧ value.isInf = true) ↔ value = -infinity := by
  constructor
  · rintro ⟨below, infinite⟩
    cases packed value with
    | infinity sign =>
        cases sign with
        | negative => decide +kernel
        | positive => exact absurd below (by decide +kernel)
    | notANumber => exact absurd infinite (by decide +kernel)
    | zero sign => cases sign <;> exact absurd infinite (by decide +kernel)
    | finite sign canonical =>
        rw [is_inf_finite sign canonical] at infinite
        cases infinite
  · rintro rfl
    decide +kernel

theorem number_of_below_zero {value : Float} (below : value < 0.0) : value.isNaN = false := by
  cases packed value with
  | notANumber => exact absurd below (by decide +kernel)
  | infinity sign => cases sign <;> decide +kernel
  | zero sign => cases sign <;> decide +kernel
  | finite sign canonical =>
      change (UnpackedFloat.unpack .binary64 (UnpackedFloat.pack .binary64
        (.finite sign _ _ canonical.positive))).isNaN = false
      rw [unpack_pack_finite canonical sign]
      rfl

theorem negative_canonical {mantissa : Nat} {exponent : Int}
    (canonical : IsCanonical mantissa exponent) :
    (Float.ofModel (.pack (.finite .negative mantissa exponent canonical.positive))) < 0.0 ∧
      -(Float.ofModel (.pack (.finite .negative mantissa exponent canonical.positive))) =
        canonicalValue canonical := by
  constructor
  · change decide ((UnpackedFloat.unpack .binary64 (UnpackedFloat.pack .binary64
      (.finite .negative mantissa exponent canonical.positive))).lt
        zeroValue.toModel.unpack = true) = true
    rw [unpack_pack_finite canonical .negative, unpack_zero]
    rfl
  · change Float.ofModel (.pack (UnpackedFloat.unpack .binary64 (UnpackedFloat.pack .binary64
      (.finite .negative mantissa exponent canonical.positive))).neg) = _
    rw [unpack_pack_finite canonical .negative]
    rfl

theorem finite_nan_or_infinite (value : Float) :
    (value.isFinite = true ∧ value.isNaN = false ∧ value.isInf = false) ∨
      (value.isFinite = false ∧ value.isNaN = true ∧ value.isInf = false) ∨
        (value.isFinite = false ∧ value.isNaN = false ∧ value.isInf = true) := by
  have opened : value.isFinite = value.toModel.unpack.isFinite ∧
      value.isNaN = value.toModel.unpack.isNaN ∧ value.isInf = value.toModel.unpack.isInf :=
    ⟨rfl, rfl, rfl⟩
  obtain ⟨isFinite, isNan, isInf⟩ := opened
  rw [isFinite, isNan, isInf]
  cases value.toModel.unpack <;>
    simp [UnpackedFloat.isFinite, UnpackedFloat.isNaN, UnpackedFloat.isInf]

theorem number_of_finite {value : Float} (finite : value.isFinite = true) :
    value.isNaN = false ∧ value.isInf = false := by
  rcases finite_nan_or_infinite value with ⟨-, number⟩ | ⟨other, -⟩ | ⟨other, -⟩
  · exact number
  · rw [finite] at other
    cases other
  · rw [finite] at other
    cases other

theorem exactly_cases {value : Float} (number : value.isNaN = false)
    (bounded : value.isInf = false) :
    (∃ number, IsExactly value number) ∨ value = -zeroValue ∨
      (value < 0.0 ∧ ∃ number, IsExactly (-value) number) := by
  cases packed value with
  | infinity sign => cases sign <;> exact absurd bounded (by decide +kernel)
  | notANumber => exact absurd number (by decide +kernel)
  | zero sign =>
      cases sign with
      | positive => exact Or.inl ⟨0, IsExactly.zero⟩
      | negative => exact Or.inr (Or.inl (by decide +kernel))
  | finite sign canonical =>
      cases sign with
      | positive => exact Or.inl ⟨_, IsExactly.product canonical⟩
      | negative =>
          obtain ⟨below, negated⟩ := negative_canonical canonical
          have exactly := IsExactly.product canonical
          rw [← negated] at exactly
          exact Or.inr (Or.inr ⟨below, _, exactly⟩)

end RadixCalc.Binary64
