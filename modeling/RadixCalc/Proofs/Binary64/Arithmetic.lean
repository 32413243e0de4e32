import RadixCalc.Proofs.Binary64.Rounding

/-!
Sums, products and quotients of values are rounded once, from the exact result.
So an operation is exact as soon as its result has a value of its own, and what
is below a number that has one is not rounded past it.
-/

namespace RadixCalc.Binary64

open Float.Model Float.Model.UnpackedFloat

variable {number bound : ℚ} {value left right : Float} {first second : ℚ}

section Representable

theorem Representable.nonneg (fits : Representable number) : 0 ≤ number := by
  cases fits with
  | zero => exact le_refl 0
  | product canonical => exact (product_pos canonical.positive).le

theorem Representable.exists_product (fits : Representable number) :
    ∃ mantissa exponent, mantissa < 2 ^ 53 ∧ -1074 ≤ exponent ∧
      number = Binary64.product mantissa exponent := by
  cases fits with
  | zero => exact ⟨0, 0, by norm_num, by norm_num, by simp [Binary64.product]⟩
  | product canonical => exact ⟨_, _, canonical.short, canonical.low, rfl⟩

theorem Representable.bounded (fits : Representable number) :
    number < Binary64.product 1 1024 := by
  cases fits with
  | zero => exact product_pos one_pos
  | @product mantissa exponent canonical =>
      calc Binary64.product mantissa exponent < Binary64.product (2 ^ 52) (971 + 1) :=
            product_lt_of_short canonical.short (Int.lt_add_one_of_le canonical.high)
        _ = Binary64.product 1 1024 := product_power 52 972

/-- A short mantissa at a place of the format stands for a number that has a value, if it is below
all infinite ones. -/
theorem representable_bounded {mantissa : Nat} {exponent : Int} (short : mantissa < 2 ^ 53)
    (low : -1074 ≤ exponent) (bounded : product mantissa exponent < product 1 1024) :
    Representable (product mantissa exponent) := by
  rcases le_or_gt exponent 971 with high | above
  · exact representable_product short low high
  · obtain ⟨units, same⟩ := exists_units mantissa above.le
    rw [← same] at bounded ⊢
    have fits : units < 2 ^ 53 := by
      by_contra long
      have large : product (2 ^ 53) 971 ≤ product units 971 := product_le_product (not_lt.mp long)
      rw [product_power 53 971] at large
      exact absurd large (not_le.mpr bounded)
    exact representable_product fits (by norm_num) (le_refl 971)

theorem representable_power {exponent : Int} (low : -1074 ≤ exponent) (high : exponent < 1024) :
    Representable (product 1 exponent) := by
  have larger : product 1 exponent < product 1 1024 := by
    simpa [product] using zpow_lt_zpow_right₀ (one_lt_two : (1 : ℚ) < 2) high
  exact representable_bounded (by norm_num) low larger

/-- Cutting off the lowest bits of a mantissa is a division of it with a rest. -/
theorem product_cut (mantissa : Nat) (exponent : Int) (shift : Nat) :
    product ⌊product mantissa exponent / 2 ^ (exponent + shift)⌋₊ (exponent + shift) =
        product (mantissa / 2 ^ shift * 2 ^ shift) exponent ∧
      product mantissa exponent - product (mantissa / 2 ^ shift * 2 ^ shift) exponent =
        product (mantissa % 2 ^ shift) exponent := by
  constructor
  · have scaled : product mantissa exponent / 2 ^ (exponent + (shift : Int)) =
        (mantissa : ℚ) / (2 ^ shift : Nat) := by
      rw [product, zpow_add₀ two_ne_zero, zpow_natCast]
      push_cast
      field_simp
    rw [scaled, Nat.floor_div_eq_div, ← product_shift _ (exponent + shift) shift,
      Int.add_sub_cancel]
  · rw [sub_eq_iff_eq_add']
    simp only [product, ← add_mul, ← Nat.cast_add, Nat.div_add_mod']

/-- Cutting a number off at any place leaves two numbers that have values. -/
theorem Representable.split (fits : Representable number) (place : Int) :
    Representable (Binary64.product ⌊number / 2 ^ place⌋₊ place) ∧
      Representable (number - Binary64.product ⌊number / 2 ^ place⌋₊ place) := by
  have limited := fits.bounded
  cases fits with
  | zero =>
      have nothing : Binary64.product ⌊(0 : ℚ) / 2 ^ place⌋₊ place = 0 := by
        simp [Binary64.product]
      rw [nothing, sub_zero]
      exact ⟨Representable.zero, Representable.zero⟩
  | @product mantissa exponent canonical =>
      rcases le_or_gt place exponent with higher | lower
      · -- All of the number is above the place.
        obtain ⟨units, same⟩ := exists_units mantissa higher
        have counted : Binary64.product units place / 2 ^ place = units := by
          rw [Binary64.product, mul_div_cancel_right₀ _ (by positivity)]
        rw [← same, counted, Nat.floor_natCast, sub_self, same]
        exact ⟨Representable.product canonical, Representable.zero⟩
      · obtain ⟨shift, rfl⟩ : ∃ shift : Nat, place = exponent + shift :=
          ⟨(place - exponent).toNat, by omega⟩
        obtain ⟨upper, lowest⟩ := product_cut mantissa exponent shift
        have short := canonical.short
        have whole := Nat.div_mul_le_self mantissa (2 ^ shift)
        rw [upper, lowest]
        constructor
        · exact representable_bounded (whole.trans_lt short) canonical.low
            ((product_le_product whole).trans_lt limited)
        · exact representable_product ((Nat.mod_le _ _).trans_lt short) canonical.low
            canonical.high

/-- The numbers below one that have values stop short of it. -/
theorem Representable.fraction_le (fits : Representable number) (below : number < 1) :
    number ≤ 1 - 1 / 2 ^ 53 := by
  obtain ⟨mantissa, exponent, short, low, rfl⟩ := fits.exists_product
  rcases le_or_gt (-53) exponent with high | small
  · obtain ⟨units, same⟩ := exists_units mantissa high
    rw [← same] at below ⊢
    have one : Binary64.product (2 ^ 53) (-53) = 1 := by norm_num [Binary64.product]
    have fewer : units < 2 ^ 53 := by
      by_contra many
      exact absurd (one ▸ product_le_product (not_lt.mp many)) (not_le.mpr below)
    calc Binary64.product units (-53) ≤ Binary64.product (2 ^ 53 - 1) (-53) :=
      product_le_product (by omega)
      _ = 1 - 1 / 2 ^ 53 := by norm_num [Binary64.product]
  · have half : Binary64.product (2 ^ 52) (-53) ≤ 1 - 1 / 2 ^ 53 := by
      norm_num [Binary64.product]
    exact (product_lt_of_short short small).le.trans half

theorem IsExactly.representable (exactly : IsExactly value number) : Representable number := by
  cases exactly with
  | zero => exact Representable.zero
  | product canonical => exact Representable.product canonical

theorem IsExactly.nonneg (exactly : IsExactly value number) : 0 ≤ number :=
  exactly.representable.nonneg

end Representable

namespace Rounds

variable {result : ℚ}

theorem le_of_representable (rounds : Rounds number result) (fits : Representable bound)
    (below : number ≤ bound) : result ≤ bound := by
  obtain ⟨mantissa, exponent, short, low, rfl⟩ := fits.exists_product
  exact rounds.at_most short low below

theorem ge_of_representable (rounds : Rounds number result) (fits : Representable bound)
    (above : bound ≤ number) : bound ≤ result := by
  obtain ⟨mantissa, exponent, short, low, rfl⟩ := fits.exists_product
  exact rounds.at_least short low above

theorem refl (fits : Representable number) : Rounds number number := by
  cases fits with
  | zero =>
      have placed : IsPlaced 0 (-1074) := ⟨le_refl _, product_pos (by norm_num), Or.inr rfl⟩
      have nearest : IsNearest 0 ((0 : ℚ) / 2 ^ (-1074 : ℤ)) := by
        rw [zero_div]
        exact_mod_cast IsNearest.of_nat 0
      have rounds := Rounds.nearest placed nearest
      rwa [product, Nat.cast_zero, zero_mul] at rounds
  | @product mantissa exponent canonical =>
      have short : product mantissa exponent < product (2 ^ 53) exponent := by
        unfold product
        have := canonical.short
        gcongr
      have placed : IsPlaced (product mantissa exponent) exponent :=
        ⟨canonical.low, short, canonical.full.imp_left product_le_product⟩
      have units : product mantissa exponent / 2 ^ exponent = mantissa := by
        rw [product, mul_div_cancel_right₀ _ (by positivity)]
      exact Rounds.nearest placed (units ▸ IsNearest.of_nat mantissa)

end Rounds

namespace IsRounded

theorem of_exactly (exactly : IsExactly value number) : IsRounded number value :=
  IsRounded.finite (Rounds.refl exactly.representable) exactly

/-- A number up to one that has a value is not rounded past it. -/
theorem at_most (rounded : IsRounded number value) (fits : Representable bound)
    (below : number ≤ bound) : ∃ result ≤ bound, IsExactly value result := by
  cases rounded with
  | finite rounds exactly => exact ⟨_, rounds.le_of_representable fits below, exactly⟩
  | overflow rounds beyond =>
      have limited := beyond.trans (rounds.le_of_representable fits below)
      exact absurd limited (not_le.mpr fits.bounded)

theorem rounds {result : ℚ} (rounded : IsRounded number value)
    (exactly : IsExactly value result) : Rounds number result := by
  cases rounded with
  | finite rounds other =>
      rwa [← exactly.number_of, other.number_of]
  | overflow rounds beyond => exact absurd exactly.not_infinite (by decide +kernel)

/-- What needs no rounding is exact. -/
theorem exactly (rounded : IsRounded number value) (fits : Representable number) :
    IsExactly value number := by
  cases rounded with
  | finite rounds exactly =>
      have same := le_antisymm (rounds.le_of_representable fits (le_refl _))
        (rounds.ge_of_representable fits (le_refl _))
      exact same ▸ exactly
  | overflow rounds beyond =>
      have limited := beyond.trans (rounds.le_of_representable fits (le_refl _))
      exact absurd limited (not_le.mpr fits.bounded)

theorem of_zero (rounded : IsRounded 0 value) : value = zeroValue :=
  (rounded.exactly Representable.zero).unique IsExactly.zero

end IsRounded

section Normalizing

theorem describes_product (mantissa : Nat) (exponent : Int) :
    Describes (ExtendedMantissa.ofMantissaAndAccuracy mantissa .exact)
      (product mantissa exponent / 2 ^ exponent) := by
  rw [product, mul_div_cancel_right₀ _ (by positivity)]
  exact describes_exact mantissa

/-- The exponent is lowered first, so that no bits are missing at the place of the number. -/
theorem normalize_rounded (whole : Nat) (exponent : Int) :
    IsRounded (product whole exponent)
      (.ofModel (.pack (UnpackedFloat.normalize .binary64 whole exponent .positive))) := by
  rcases Nat.eq_zero_or_pos whole with rfl | positive
  · rw [product, Nat.cast_zero, zero_mul]
    exact IsRounded.of_exactly IsExactly.zero
  · have compared : compare (whole : Int) 0 = .gt := by
      rw [compare_gt_iff_gt]
      exact_mod_cast positive
    rw [UnpackedFloat.normalize, compared]
    simp only [UnpackedFloat.round, decreaseExponent, Int.toNat_natCast, Nat.shiftLeft_eq]
    obtain ⟨shift, lowered⟩ : ∃ shift : Nat,
        (exponent - Format.binary64.targetExponent (totalExponent whole exponent)).toNat = shift :=
      ⟨_, rfl⟩
    rw [lowered, ← product_shift whole exponent shift]
    apply round_with_accuracy (describes_product _ _)
    rw [total_exponent_shift positive]
    omega

end Normalizing

section Operations

/-- Two numbers written at the lower of their exponents. -/
theorem decrease_product (mantissa : Nat) {exponent lower : Int} (below : lower ≤ exponent) :
    product (decreaseExponent mantissa exponent lower).1 lower = product mantissa exponent := by
  obtain ⟨shift, distance⟩ : ∃ shift : Nat, exponent - lower = shift :=
    ⟨(exponent - lower).toNat, by omega⟩
  have amount : (exponent - lower).toNat = shift := by omega
  have exponents : lower = exponent - shift := by omega
  rw [decreaseExponent, amount, exponents, Nat.shiftLeft_eq]
  exact product_shift mantissa exponent shift

/-- Two numbers are added and taken away at the lower of their exponents. -/
theorem add_products (first second : Nat) (firstExponent secondExponent : Int) :
    product ((decreaseExponent first firstExponent (min firstExponent secondExponent)).1 +
        (decreaseExponent second secondExponent (min firstExponent secondExponent)).1)
        (min firstExponent secondExponent) =
      product first firstExponent + product second secondExponent := by
  rw [← decrease_product first (min_le_left firstExponent secondExponent),
    ← decrease_product second (min_le_right firstExponent secondExponent)]
  simp only [product, Nat.cast_add, add_mul]

theorem sub_products {first second : Nat} {firstExponent secondExponent : Int}
    (ordered : product second secondExponent ≤ product first firstExponent) :
    ∃ rest : Nat,
      ((decreaseExponent first firstExponent (min firstExponent secondExponent)).1 : Int) -
          (decreaseExponent second secondExponent (min firstExponent secondExponent)).1 = rest ∧
        product rest (min firstExponent secondExponent) =
          product first firstExponent - product second secondExponent := by
  rw [← decrease_product first (min_le_left firstExponent secondExponent),
    ← decrease_product second (min_le_right firstExponent secondExponent)] at ordered ⊢
  have above := mantissa_le ordered
  refine ⟨_, (Int.ofNat_sub above).symm, ?_⟩
  simp only [product, Nat.cast_sub above, sub_mul]

theorem mul_products (first second : Nat) (firstExponent secondExponent : Int) :
    product (first * second) (firstExponent + secondExponent) =
      product first firstExponent * product second secondExponent := by
  simp only [product, Nat.cast_mul, zpow_add₀ (two_ne_zero : (2 : ℚ) ≠ 0)]
  ring

/-- The exponent of a product of canonical forms is never above the one that it is rounded to. -/
theorem product_exponent_le_target {first second : Nat} {firstExponent secondExponent : Int}
    (firstCanonical : IsCanonical first firstExponent)
    (secondCanonical : IsCanonical second secondExponent) :
    firstExponent + secondExponent ≤ Format.binary64.targetExponent
      (totalExponent (first * second) (firstExponent + secondExponent)) := by
  have nonzero : first * second ≠ 0 :=
    (Nat.mul_pos firstCanonical.positive secondCanonical.positive).ne'
  have above : 2 ^ 52 ≤ first * second → 52 ≤ (first * second).log2 :=
    (Nat.le_log2 nonzero).mpr
  rw [Format.targetExponent, totalExponent, least_exponent, mantissa_bits]
  -- One full factor fills the product, and two that are not full go below the least exponent.
  rcases firstCanonical.full with full | lowest
  · have filled := above (full.trans (Nat.le_mul_of_pos_right first secondCanonical.positive))
    omega
  · rcases secondCanonical.full with full | secondLowest
    · have filled := above (full.trans (Nat.le_mul_of_pos_left second firstCanonical.positive))
      omega
    · omega

/-- The whole quotient of two mantissas and what is left over say all about the quotient of two
numbers. -/
theorem describes_quotient (dividend shift : Nat) {divisor : Nat} (positive : 0 < divisor)
    {exponent divisorExponent place : Int} (lowered : place = exponent - divisorExponent - shift) :
    Describes (ExtendedMantissa.ofMantissaAndAccuracy (dividend * 2 ^ shift / divisor)
        (accuracyOfFraction (dividend * 2 ^ shift % divisor) divisor))
      (product dividend exponent / product divisor divisorExponent / 2 ^ place) := by
  have some : (divisor : ℚ) ≠ 0 := by exact_mod_cast positive.ne'
  have quotient : product dividend exponent / product divisor divisorExponent / 2 ^ place =
      ((dividend * 2 ^ shift : Nat) : ℚ) / divisor := by
    rw [← product_shift dividend exponent shift, lowered]
    simp only [product, zpow_sub₀ (two_ne_zero : (2 : ℚ) ≠ 0), zpow_natCast]
    field_simp
  have parts : ((dividend * 2 ^ shift : Nat) : ℚ) / divisor =
      (dividend * 2 ^ shift / divisor : Nat) +
        (dividend * 2 ^ shift % divisor : Nat) / divisor := by
    conv_lhs => rw [← Nat.div_add_mod (dividend * 2 ^ shift) divisor]
    rw [Nat.cast_add, Nat.cast_mul]
    field_simp
  rw [quotient, parts]
  exact describes_fraction _ (Nat.mod_lt _ positive)

/-- A quotient is taken at so low an exponent that it has all the bits of its place. -/
theorem quotient_exponent_le_target {dividend divisor shift : Nat} {place : Int}
    (dividendPositive : 0 < dividend) (divisorPositive : 0 < divisor)
    (filled : -1074 < place → 53 + divisor.log2 ≤ dividend.log2 + shift) :
    place ≤ Format.binary64.targetExponent
      (totalExponent (dividend * 2 ^ shift / divisor) place) := by
  rw [Format.targetExponent, totalExponent, least_exponent, mantissa_bits]
  rcases le_or_gt place (-1074) with least | above
  · omega
  have bits := filled above
  have long : 2 ^ 52 ≤ dividend * 2 ^ shift / divisor := by
    rw [Nat.le_div_iff_mul_le divisorPositive]
    calc 2 ^ 52 * divisor ≤ 2 ^ 52 * 2 ^ (divisor.log2 + 1) :=
          Nat.mul_le_mul_left _ Nat.lt_log2_self.le
      _ = 2 ^ (52 + (divisor.log2 + 1)) := (pow_add 2 _ _).symm
      _ ≤ 2 ^ (dividend.log2 + shift) := Nat.pow_le_pow_right (by omega) (by omega)
      _ = 2 ^ dividend.log2 * 2 ^ shift := pow_add 2 _ _
      _ ≤ dividend * 2 ^ shift := Nat.mul_le_mul_right _ (Nat.log2_self_le dividendPositive.ne')
  have highest : 52 ≤ (dividend * 2 ^ shift / divisor).log2 :=
    (Nat.le_log2 (by positivity)).mpr long
  omega

namespace IsExactly

theorem add_rounded (leftExactly : IsExactly left first) (rightExactly : IsExactly right second) :
    IsRounded (first + second) (left + right) := by
  have opened : left + right = .ofModel (.pack
      (UnpackedFloat.add .binary64 left.toModel.unpack right.toModel.unpack)) := rfl
  rw [opened]
  cases leftExactly with
  | zero =>
      rw [unpack_zero, zero_add]
      cases rightExactly with
      | zero =>
          rw [unpack_zero]
          exact IsRounded.of_exactly IsExactly.zero
      | product canonical =>
          rw [unpack_canonical]
          exact IsRounded.of_exactly (IsExactly.product canonical)
  | @product leftMantissa leftExponent leftCanonical =>
      rw [unpack_canonical]
      cases rightExactly with
      | zero =>
          rw [unpack_zero, add_zero]
          exact IsRounded.of_exactly (IsExactly.product leftCanonical)
      | @product rightMantissa rightExponent rightCanonical =>
          rw [unpack_canonical, ← add_products]
          exact normalize_rounded _ _

theorem mul_rounded (leftExactly : IsExactly left first) (rightExactly : IsExactly right second) :
    IsRounded (first * second) (left * right) := by
  have opened : left * right = .ofModel (.pack
      (UnpackedFloat.mul .binary64 left.toModel.unpack right.toModel.unpack)) := rfl
  rw [opened]
  cases leftExactly with
  | zero =>
      rw [unpack_zero, zero_mul]
      cases rightExactly with
      | zero =>
          rw [unpack_zero]
          exact IsRounded.of_exactly IsExactly.zero
      | product canonical =>
          rw [unpack_canonical]
          exact IsRounded.of_exactly IsExactly.zero
  | @product leftMantissa leftExponent leftCanonical =>
      rw [unpack_canonical]
      cases rightExactly with
      | zero =>
          rw [unpack_zero, mul_zero]
          exact IsRounded.of_exactly IsExactly.zero
      | @product rightMantissa rightExponent rightCanonical =>
          rw [unpack_canonical, ← mul_products]
          exact round_with_accuracy (describes_product _ _)
            (product_exponent_le_target leftCanonical rightCanonical)

theorem sub_rounded (leftExactly : IsExactly left first) (rightExactly : IsExactly right second)
    (ordered : second ≤ first) : IsRounded (first - second) (left - right) := by
  have opened : left - right = .ofModel (.pack
      (UnpackedFloat.sub .binary64 left.toModel.unpack right.toModel.unpack)) := rfl
  rw [opened]
  cases rightExactly with
  | zero =>
      rw [unpack_zero, sub_zero]
      cases leftExactly with
      | zero =>
          rw [unpack_zero]
          exact IsRounded.of_exactly IsExactly.zero
      | product canonical =>
          rw [unpack_canonical]
          exact IsRounded.of_exactly (IsExactly.product canonical)
  | @product rightMantissa rightExponent rightCanonical =>
      rw [unpack_canonical]
      cases leftExactly with
      | zero => exact absurd ordered (not_le.mpr (product_pos rightCanonical.positive))
      | @product leftMantissa leftExponent leftCanonical =>
          rw [unpack_canonical]
          obtain ⟨rest, subtracted, same⟩ := sub_products ordered
          have rounded := normalize_rounded rest (min leftExponent rightExponent)
          rw [← subtracted, same] at rounded
          exact rounded

theorem div_rounded (leftExactly : IsExactly left first) (rightExactly : IsExactly right second)
    (positive : 0 < second) : IsRounded (first / second) (left / right) := by
  have opened : left / right = .ofModel (.pack
      (UnpackedFloat.div .binary64 left.toModel.unpack right.toModel.unpack)) := rfl
  rw [opened]
  cases rightExactly with
  | zero => exact absurd positive (lt_irrefl 0)
  | @product rightMantissa rightExponent rightCanonical =>
      rw [unpack_canonical]
      cases leftExactly with
      | zero =>
          rw [unpack_zero, zero_div]
          exact IsRounded.of_exactly IsExactly.zero
      | @product leftMantissa leftExponent leftCanonical =>
          rw [unpack_canonical]
          simp only [UnpackedFloat.div, divCore, Nat.shiftLeft_eq]
          -- The dividend is shifted up until the quotient has all the bits of its place.
          obtain ⟨place, called⟩ : ∃ place, min (leftExponent - rightExponent)
              (Format.binary64.targetExponent (totalExponent leftMantissa leftExponent -
                totalExponent rightMantissa rightExponent)) = place := ⟨_, rfl⟩
          obtain ⟨shift, lowered⟩ : ∃ shift : Nat,
              (leftExponent - rightExponent - place).toNat = shift := ⟨_, rfl⟩
          rw [called, lowered]
          rw [Format.targetExponent, totalExponent, totalExponent, least_exponent, mantissa_bits]
            at called
          apply round_with_accuracy
          · exact describes_quotient leftMantissa shift rightCanonical.positive (by omega)
          · exact quotient_exponent_le_target leftCanonical.positive rightCanonical.positive
              (by omega)

theorem add (leftExactly : IsExactly left first) (rightExactly : IsExactly right second)
    (fits : Representable (first + second)) : IsExactly (left + right) (first + second) :=
  (leftExactly.add_rounded rightExactly).exactly fits

theorem mul (leftExactly : IsExactly left first) (rightExactly : IsExactly right second)
    (fits : Representable (first * second)) : IsExactly (left * right) (first * second) :=
  (leftExactly.mul_rounded rightExactly).exactly fits

theorem sub (leftExactly : IsExactly left first) (rightExactly : IsExactly right second)
    (ordered : second ≤ first) (fits : Representable (first - second)) :
    IsExactly (left - right) (first - second) :=
  (leftExactly.sub_rounded rightExactly ordered).exactly fits

theorem div (leftExactly : IsExactly left first) (rightExactly : IsExactly right second)
    (positive : 0 < second) (fits : Representable (first / second)) :
    IsExactly (left / right) (first / second) :=
  (leftExactly.div_rounded rightExactly positive).exactly fits

theorem sub_same (exactly : IsExactly value number) : value - value = zeroValue := by
  have rounded := exactly.sub_rounded exactly (le_refl number)
  rw [sub_self] at rounded
  exact rounded.of_zero

theorem mul_zero_value (exactly : IsExactly value number) : value * zeroValue = zeroValue := by
  have rounded := exactly.mul_rounded IsExactly.zero
  rw [mul_zero] at rounded
  exact rounded.of_zero

theorem zero_value_mul (exactly : IsExactly value number) : zeroValue * value = zeroValue := by
  have rounded := IsExactly.zero.mul_rounded exactly
  rw [zero_mul] at rounded
  exact rounded.of_zero

theorem zero_value_div (exactly : IsExactly value number) (positive : 0 < number) :
    zeroValue / value = zeroValue := by
  have rounded := IsExactly.zero.div_rounded exactly positive
  rw [zero_div] at rounded
  exact rounded.of_zero

end IsExactly

end Operations

end RadixCalc.Binary64
