import RadixCalc.Proofs.Binary64.Packing

/-!
Floating-point values that stand for a number exactly. A sum, a difference or a
product of such values is exact as soon as its number has a canonical form, and
a number has only one value, so exact arithmetic can be carried out on numbers.
-/

namespace RadixCalc.Binary64

open Float.Model Float.Model.UnpackedFloat

/-- The numbers without a sign that some value stands for exactly. -/
inductive Representable : ℚ → Prop where
  | zero : Representable 0
  | product {mantissa : Nat} {exponent : Int} (canonical : IsCanonical mantissa exponent) :
      Representable (product mantissa exponent)

/-- A mantissa that is not too long is shifted until it is full or its exponent is the least. -/
theorem representable_product {mantissa : Nat} {exponent : Int} (short : mantissa < 2 ^ 53)
    (low : -1074 ≤ exponent) (high : exponent ≤ 971) :
    Representable (Binary64.product mantissa exponent) := by
  rcases Nat.eq_zero_or_pos mantissa with rfl | positive
  · have nothing : Binary64.product 0 exponent = 0 := by simp [Binary64.product]
    rw [nothing]
    exact Representable.zero
  have highest : mantissa.log2 < 53 := (Nat.log2_lt positive.ne').mpr short
  obtain ⟨shift, fills, reaches⟩ : ∃ shift : Nat, mantissa.log2 + shift ≤ 52 ∧
      -1074 ≤ exponent - shift ∧ (mantissa.log2 + shift = 52 ∨ exponent - shift = -1074) := by
    refine ⟨min (52 - mantissa.log2) (exponent + 1074).toNat, ?_⟩
    omega
  have upper : mantissa * 2 ^ shift < 2 ^ 53 := by
    calc mantissa * 2 ^ shift < 2 ^ (mantissa.log2 + 1) * 2 ^ shift :=
          Nat.mul_lt_mul_of_pos_right Nat.lt_log2_self (by positivity)
      _ = 2 ^ (mantissa.log2 + 1 + shift) := (pow_add 2 _ shift).symm
      _ ≤ 2 ^ 53 := Nat.pow_le_pow_right (by omega) (by omega)
  have full : 2 ^ 52 ≤ mantissa * 2 ^ shift ∨ exponent - shift = -1074 := by
    rcases reaches.2 with filled | lowest
    · left
      rw [← filled, pow_add]
      exact Nat.mul_le_mul_right _ (Nat.log2_self_le positive.ne')
    · exact Or.inr lowest
  have canonical : IsCanonical (mantissa * 2 ^ shift) (exponent - shift) :=
    ⟨by positivity, upper, reaches.1, by omega, full⟩
  rw [← product_shift mantissa exponent shift]
  exact Representable.product canonical

def zeroValue : Float :=
  .ofModel (.pack (.zero .positive))

def canonicalValue {mantissa : Nat} {exponent : Int} (canonical : IsCanonical mantissa exponent) :
    Float :=
  .ofModel (.pack (.finite .positive mantissa exponent canonical.positive))

/-- The value stands for exactly this number. -/
inductive IsExactly : Float → ℚ → Prop where
  | zero : IsExactly zeroValue 0
  | product {mantissa : Nat} {exponent : Int} (canonical : IsCanonical mantissa exponent) :
      IsExactly (canonicalValue canonical) (product mantissa exponent)

theorem unpack_zero : zeroValue.toModel.unpack = .zero .positive :=
  unpack_packedZero

theorem unpack_canonical {mantissa : Nat} {exponent : Int}
    (canonical : IsCanonical mantissa exponent) :
    (canonicalValue canonical).toModel.unpack =
      .finite .positive mantissa exponent canonical.positive :=
  unpack_pack_finite canonical .positive

namespace IsExactly

variable {value left right : Float} {number first second : ℚ}

theorem unique (leftExact : IsExactly left number) (rightExact : IsExactly right number) :
    left = right := by
  cases leftExact with
  | zero =>
      generalize zero : (0 : ℚ) = number at rightExact
      cases rightExact with
      | zero => rfl
      | product canonical => exact absurd zero (product_pos canonical.positive).ne
  | product leftCanonical =>
      generalize same : Binary64.product _ _ = number at rightExact
      cases rightExact with
      | zero => exact absurd same (product_pos leftCanonical.positive).ne'
      | product rightCanonical =>
          obtain ⟨rfl, rfl⟩ := canonical_inj leftCanonical rightCanonical same
          rfl

end IsExactly

/-- The number that a value stands for. NaN and the infinities stand for none and give zero. -/
def numberOf (value : Float) : ℚ :=
  match value.toModel.unpack with
  | .finite sign mantissa exponent _ =>
      if isNegativeSign sign then -product mantissa exponent else product mantissa exponent
  | _ => 0

theorem floor_product (mantissa : Nat) (exponent : Int) :
    ⌊product mantissa exponent⌋₊ = wholeOf mantissa exponent := by
  cases exponent with
  | ofNat exponent =>
      have whole : product mantissa (Int.ofNat exponent) =
          ((mantissa * 2 ^ exponent : Nat) : ℚ) := by
        simp [product]
      rw [whole, Nat.floor_natCast]
      rfl
  | negSucc exponent =>
      have divided : product mantissa (Int.negSucc exponent) =
          (mantissa : ℚ) / ((2 ^ (exponent + 1) : Nat) : ℚ) := by
        rw [product, zpow_negSucc, div_eq_mul_inv]
        push_cast
        rfl
      rw [divided, Nat.floor_div_eq_div]
      rfl

namespace IsExactly

variable {value : Float} {number : ℚ}

theorem number_of (exactly : IsExactly value number) : numberOf value = number := by
  rw [numberOf]
  cases exactly with
  | zero => rw [unpack_zero]
  | product canonical =>
      rw [unpack_canonical]
      rfl

theorem not_nan (exactly : IsExactly value number) : value.isNaN = false := by
  have opened : value.isNaN = value.toModel.unpack.isNaN := rfl
  rw [opened]
  cases exactly with
  | zero =>
      rw [unpack_zero]
      rfl
  | product canonical =>
      rw [unpack_canonical]
      rfl

theorem not_infinite (exactly : IsExactly value number) : value.isInf = false := by
  have opened : value.isInf = value.toModel.unpack.isInf := rfl
  rw [opened]
  cases exactly with
  | zero =>
      rw [unpack_zero]
      rfl
  | product canonical =>
      rw [unpack_canonical]
      rfl

theorem finite (exactly : IsExactly value number) : value.isFinite = true := by
  have opened : value.isFinite = value.toModel.unpack.isFinite := rfl
  rw [opened]
  cases exactly with
  | zero =>
      rw [unpack_zero]
      rfl
  | product canonical =>
      rw [unpack_canonical]
      rfl

theorem not_negative (exactly : IsExactly value number) : ¬ value < 0.0 := by
  have literal : (0.0 : Float) = zeroValue := rfl
  have opened : value < zeroValue ↔
      value.toModel.unpack.lt zeroValue.toModel.unpack = true := decide_eq_true_iff
  rw [literal, opened, unpack_zero]
  cases exactly with
  | zero =>
      rw [unpack_zero]
      exact Bool.false_ne_true
  | product canonical =>
      rw [unpack_canonical]
      exact Bool.false_ne_true

theorem zero_of_beq (exactly : IsExactly value number) (equal : (value == 0.0) = true) :
    number = 0 := by
  have literal : (0.0 : Float) = zeroValue := rfl
  have opened : (value == zeroValue) = value.toModel.unpack.beq zeroValue.toModel.unpack := rfl
  rw [literal, opened, unpack_zero] at equal
  cases exactly with
  | zero => rfl
  | product canonical =>
      rw [unpack_canonical] at equal
      exact absurd equal Bool.false_ne_true

/-- The whole part of a value is that of its number. -/
theorem whole_part (exactly : IsExactly value number) : wholePart value = ⌊number⌋₊ := by
  rw [wholePart]
  cases exactly with
  | zero =>
      rw [unpack_zero]
      simp
  | product canonical =>
      rw [unpack_canonical]
      exact (floor_product _ _).symm

end IsExactly

end RadixCalc.Binary64
