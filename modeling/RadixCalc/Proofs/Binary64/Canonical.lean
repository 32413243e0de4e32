import Mathlib
import RadixCalc.Binary64

/-!
The form in which a format of 53 bits keeps numbers. A positive number that has
such a form has only one, and bringing it into that form loses nothing.
-/

namespace RadixCalc.Binary64

open Float.Model Float.Model.UnpackedFloat

theorem mantissa_bits : Format.binary64.mantissaBits = 53 := by decide

theorem least_exponent : Format.binary64.minExponent = -1074 := by decide

theorem exponent_bias : Format.binary64.exponentBias = 1023 := by decide

/-- The form of a positive number: its mantissa is full, unless the exponent is the least one. -/
structure IsCanonical (mantissa : Nat) (exponent : Int) : Prop where
  positive : 0 < mantissa
  short : mantissa < 2 ^ 53
  low : -1074 ≤ exponent
  high : exponent ≤ 971
  full : 2 ^ 52 ≤ mantissa ∨ exponent = -1074

/-- The number that a mantissa and an exponent stand for. -/
def product (mantissa : Nat) (exponent : Int) : ℚ :=
  mantissa * 2 ^ exponent

variable {mantissa other : Nat} {exponent otherExponent : Int}

theorem product_pos (positive : 0 < mantissa) : 0 < product mantissa exponent := by
  unfold product
  positivity

theorem product_shift (mantissa : Nat) (exponent : Int) (shift : Nat) :
    product (mantissa * 2 ^ shift) (exponent - shift) = product mantissa exponent := by
  unfold product
  rw [zpow_sub₀ (by norm_num), zpow_natCast]
  push_cast
  field_simp

theorem product_power (shift : Nat) (exponent : Int) :
    product (2 ^ shift) exponent = product 1 (exponent + shift) := by
  have shifted := product_shift 1 (exponent + shift) shift
  rwa [Nat.one_mul, Int.add_sub_cancel] at shifted

theorem le_product_iff {number : ℚ} :
    number ≤ product mantissa exponent ↔ number / 2 ^ exponent ≤ mantissa := by
  rw [product, div_le_iff₀ (by positivity)]

theorem product_le_iff {number : ℚ} :
    product mantissa exponent ≤ number ↔ (mantissa : ℚ) ≤ number / 2 ^ exponent := by
  rw [product, le_div_iff₀ (by positivity)]

theorem product_le_product (ordered : mantissa ≤ other) :
    product mantissa exponent ≤ product other exponent := by
  unfold product
  gcongr

theorem product_double (mantissa : Nat) (exponent : Int) :
    product (2 * mantissa) exponent = product mantissa (exponent + 1) := by
  unfold product
  rw [zpow_add₀ two_ne_zero]
  push_cast
  ring

theorem product_le_of_exponent (ordered : exponent ≤ otherExponent) :
    product mantissa exponent ≤ product mantissa otherExponent := by
  unfold product
  gcongr
  exact one_le_two

/-- A number of 53 bits below the place of another one is smaller. -/
theorem product_lt_of_short {place : Int} (short : mantissa < 2 ^ 53)
    (lower : exponent < place) : product mantissa exponent < product (2 ^ 52) place := by
  calc product mantissa exponent < product (2 ^ 53) exponent := by
        unfold product
        gcongr
    _ = product (2 ^ 52) (exponent + 1) := by rw [← product_double]; norm_num
    _ ≤ product (2 ^ 52) place := product_le_of_exponent (by omega)

theorem exists_units (mantissa : Nat) {place : Int} (higher : place ≤ exponent) :
    ∃ units : Nat, product units place = product mantissa exponent := by
  obtain ⟨shift, distance⟩ : ∃ shift : Nat, exponent - place = shift :=
    ⟨(exponent - place).toNat, by omega⟩
  obtain rfl : place = exponent - shift := by omega
  exact ⟨mantissa * 2 ^ shift, product_shift mantissa exponent shift⟩

theorem mantissa_le (ordered : product mantissa exponent ≤ product other exponent) :
    mantissa ≤ other := by
  unfold product at ordered
  have positive : (0 : ℚ) < 2 ^ exponent := by positivity
  exact_mod_cast le_of_mul_le_mul_right ordered positive

theorem product_inj (same : product mantissa exponent = product other exponent) :
    mantissa = other := by
  unfold product at same
  have nonzero : (2 : ℚ) ^ exponent ≠ 0 := by positivity
  exact_mod_cast mul_right_cancel₀ nonzero same

/-- Of two ways to write a number, the one with the lower exponent has the shifted mantissa. -/
theorem mantissa_of_le (same : product other otherExponent = product mantissa exponent)
    (lower : otherExponent ≤ exponent) :
    ∃ shift : Nat, other = mantissa * 2 ^ shift ∧ otherExponent = exponent - shift := by
  obtain ⟨shift, distance⟩ : ∃ shift : Nat, exponent - otherExponent = shift :=
    ⟨(exponent - otherExponent).toNat, by omega⟩
  have exponents : otherExponent = exponent - shift := by omega
  refine ⟨shift, ?_, exponents⟩
  subst exponents
  apply product_inj
  rw [same, product_shift]

theorem total_exponent_shift (positive : 0 < mantissa) (shift : Nat) :
    totalExponent (mantissa * 2 ^ shift) (exponent - shift) = totalExponent mantissa exponent := by
  have shifted : (mantissa * 2 ^ shift).log2 = mantissa.log2 + shift := by
    induction shift with
    | zero => simp
    | succ shift induction =>
        have nonzero : mantissa * 2 ^ shift ≠ 0 := by positivity
        have doubled : mantissa * 2 ^ (shift + 1) = 2 * (mantissa * 2 ^ shift) := by ring
        rw [doubled, Nat.log2_two_mul nonzero, induction, Nat.add_assoc]
  rw [totalExponent, totalExponent, shifted]
  push_cast
  omega

/-- The form in which rounding leaves a number, which may be beyond the largest exponent. -/
structure IsNormal (mantissa : Nat) (exponent : Int) : Prop where
  positive : 0 < mantissa
  short : mantissa < 2 ^ 53
  low : -1074 ≤ exponent
  full : 2 ^ 52 ≤ mantissa ∨ exponent = -1074

theorem IsCanonical.normal (canonical : IsCanonical mantissa exponent) :
    IsNormal mantissa exponent :=
  ⟨canonical.positive, canonical.short, canonical.low, canonical.full⟩

theorem IsNormal.canonical (normal : IsNormal mantissa exponent) (high : exponent ≤ 971) :
    IsCanonical mantissa exponent :=
  ⟨normal.positive, normal.short, normal.low, high, normal.full⟩

theorem IsNormal.target_exponent (normal : IsNormal mantissa exponent) :
    Format.binary64.targetExponent (totalExponent mantissa exponent) = exponent := by
  have nonzero : mantissa ≠ 0 := normal.positive.ne'
  have below : mantissa.log2 < 53 := (Nat.log2_lt nonzero).mpr normal.short
  rw [Format.targetExponent, totalExponent, least_exponent, mantissa_bits]
  -- A full mantissa fixes the exponent; of the others, all have the least one.
  rcases normal.full with full | lowest
  · have above : 52 ≤ mantissa.log2 := (Nat.le_log2 nonzero).mpr full
    have low := normal.low
    omega
  · omega

theorem total_exponent_eq (same : product other otherExponent = product mantissa exponent)
    (positive : 0 < mantissa) (otherPositive : 0 < other) :
    totalExponent other otherExponent = totalExponent mantissa exponent := by
  rcases le_total otherExponent exponent with lower | lower
  · obtain ⟨shift, rfl, rfl⟩ := mantissa_of_le same lower
    exact total_exponent_shift positive shift
  · obtain ⟨shift, rfl, rfl⟩ := mantissa_of_le same.symm lower
    exact (total_exponent_shift otherPositive shift).symm

theorem canonical_inj (first : IsCanonical mantissa exponent)
    (second : IsCanonical other otherExponent)
    (same : product mantissa exponent = product other otherExponent) :
    mantissa = other ∧ exponent = otherExponent := by
  have exponents : exponent = otherExponent := by
    rw [← first.normal.target_exponent, ← second.normal.target_exponent,
      total_exponent_eq same second.positive first.positive]
  subst exponents
  exact ⟨product_inj same, rfl⟩

theorem shift_right_exact (mantissa shift : Nat) :
    ExtendedMantissa.ofMantissaAndAccuracy (mantissa * 2 ^ shift) .exact >>> shift =
      ⟨mantissa, false, false⟩ := by
  change Nat.repeat ExtendedMantissa.shiftRightOne shift _ = _
  induction shift generalizing mantissa with
  | zero => simp [Nat.repeat, ExtendedMantissa.ofMantissaAndAccuracy]
  | succ shift induction =>
      have doubled : mantissa * 2 ^ (shift + 1) = mantissa * 2 * 2 ^ shift := by ring
      rw [Nat.repeat, doubled, induction]
      simp [ExtendedMantissa.shiftRightOne]

theorem shift_to_target_exact (normal : IsNormal mantissa exponent) (shift : Nat) :
    shiftToTargetExponent .binary64 (mantissa * 2 ^ shift) (exponent - shift) .exact =
      (⟨mantissa, false, false⟩, exponent) := by
  have amount : (exponent - (exponent - (shift : Int))).toNat = shift := by omega
  rw [shiftToTargetExponent, total_exponent_shift normal.positive, normal.target_exponent,
    shiftToExponent, amount, shift_right_exact, Int.sub_add_cancel]

end RadixCalc.Binary64
