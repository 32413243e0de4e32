import RadixCalc.Proofs.Binary64.Exact

/-!
What rounding to the nearest is. A number is rounded at the place where it has
53 bits, or at the least place, to the nearest whole number of units, and of two
that are equally near to the even one. A mantissa with two bits below it says
enough about a number to find that whole number.
-/

namespace RadixCalc.Binary64

open Float.Model Float.Model.UnpackedFloat

/-- A whole number nearest to a number; of two of them, the even one. -/
structure IsNearest (rounded : ℕ) (number : ℚ) : Prop where
  below : (rounded : ℚ) ≤ number + 1 / 2
  above : number ≤ rounded + 1 / 2
  even : |number - rounded| = 1 / 2 → Even rounded

namespace IsNearest

variable {rounded bound : ℕ} {number : ℚ}

theorem at_most (nearest : IsNearest rounded number) (below : number ≤ bound) :
    rounded ≤ bound := by
  have close := nearest.below
  have short : (rounded : ℚ) < (bound + 1 : ℕ) := by
    push_cast
    linarith
  exact Nat.lt_succ_iff.mp (by exact_mod_cast short)

theorem at_least (nearest : IsNearest rounded number) (above : (bound : ℚ) ≤ number) :
    bound ≤ rounded := by
  have close := nearest.above
  have long : (bound : ℚ) < (rounded + 1 : ℕ) := by
    push_cast
    linarith
  exact Nat.lt_succ_iff.mp (by exact_mod_cast long)

theorem zero_of_half (nearest : IsNearest rounded number) (small : number ≤ 1 / 2) :
    rounded = 0 := by
  have unit : rounded ≤ 1 := nearest.at_most (by push_cast; linarith)
  interval_cases rounded
  · rfl
  · have close := nearest.below
    have half : number = 1 / 2 := by
      push_cast at close
      linarith
    have odd := nearest.even (by rw [half]; norm_num)
    exact absurd odd (by decide)

theorem of_nat (whole : ℕ) : IsNearest whole whole :=
  ⟨by linarith, by linarith, by norm_num⟩

end IsNearest

section Extended

/-- What a mantissa and the two bits below it say about a number. -/
def Describes : ExtendedMantissa → ℚ → Prop
  | ⟨mantissa, false, false⟩, number => number = mantissa
  | ⟨mantissa, false, true⟩, number => mantissa < number ∧ number < mantissa + 1 / 2
  | ⟨mantissa, true, false⟩, number => number = mantissa + 1 / 2
  | ⟨mantissa, true, true⟩, number => mantissa + 1 / 2 < number ∧ number < mantissa + 1

variable {extended : ExtendedMantissa} {number : ℚ}

theorem Describes.bounds (described : Describes extended number) :
    (extended.mantissa : ℚ) ≤ number ∧ number < extended.mantissa + 1 := by
  obtain ⟨mantissa, roundBit, stickyBit⟩ := extended
  cases roundBit <;> cases stickyBit <;> simp only [Describes] at described ⊢ <;>
    constructor <;> linarith

/-- The bit that is shifted out becomes the round bit, and the sticky bit keeps what was below. -/
theorem Describes.shift_one (described : Describes extended number) :
    Describes extended.shiftRightOne (number / 2) := by
  obtain ⟨mantissa, roundBit, stickyBit⟩ := extended
  obtain ⟨half, rfl | rfl⟩ := Nat.even_or_odd' mantissa
  · have halved : 2 * half / 2 = half := by omega
    have lowest : (2 * half % 2 != 0) = false := by simp
    cases roundBit <;> cases stickyBit <;>
      simp only [Describes, ExtendedMantissa.shiftRightOne, halved, lowest, Bool.or_false,
        Bool.or_true, Bool.or_self] at described ⊢ <;>
      push_cast at described <;> first | linarith | (constructor <;> linarith)
  · have halved : (2 * half + 1) / 2 = half := by omega
    have lowest : ((2 * half + 1) % 2 != 0) = true := by simp [Nat.add_mod]
    cases roundBit <;> cases stickyBit <;>
      simp only [Describes, ExtendedMantissa.shiftRightOne, halved, lowest, Bool.or_false,
        Bool.or_true, Bool.or_self] at described ⊢ <;>
      push_cast at described <;> first | linarith | (constructor <;> linarith)

theorem Describes.shift (described : Describes extended number) (shift : ℕ) :
    Describes (extended >>> shift) (number / 2 ^ shift) := by
  change Describes (Nat.repeat ExtendedMantissa.shiftRightOne shift extended) _
  induction shift with
  | zero => simpa [Nat.repeat] using described
  | succ shift induction =>
      have halved : number / 2 ^ (shift + 1) = number / 2 ^ shift / 2 := by
        rw [pow_succ, div_div]
      rw [Nat.repeat, halved]
      exact induction.shift_one

theorem Describes.nearest (described : Describes extended number) :
    IsNearest extended.roundedMantissa number := by
  obtain ⟨mantissa, roundBit, stickyBit⟩ := extended
  cases roundBit <;> cases stickyBit <;>
    simp only [Describes, ExtendedMantissa.roundedMantissa, ExtendedMantissa.accuracy,
      Accuracy.roundToNearestEven] at described ⊢
  case false.false =>
    rw [described]
    exact IsNearest.of_nat mantissa
  case false.true =>
    refine ⟨by linarith, by linarith, ?_⟩
    rw [abs_of_pos (by linarith)]
    intro half
    linarith
  case true.false =>
    -- Exactly between two mantissas the even one is taken.
    rcases Nat.even_or_odd' mantissa with ⟨half, rfl | rfl⟩
    · have same : 2 * half + 2 * half % 2 = 2 * half := by omega
      rw [same]
      exact ⟨by linarith, by linarith, fun _ => even_two_mul half⟩
    · have next : 2 * half + 1 + (2 * half + 1) % 2 = 2 * (half + 1) := by omega
      rw [next]
      push_cast at described
      exact ⟨by push_cast; linarith, by push_cast; linarith, fun _ => even_two_mul _⟩
  case true.true =>
    refine ⟨by push_cast; linarith, by push_cast; linarith, ?_⟩
    push_cast
    rw [abs_of_neg (by linarith)]
    intro half
    linarith

theorem describes_exact (mantissa : ℕ) :
    Describes (ExtendedMantissa.ofMantissaAndAccuracy mantissa .exact) mantissa :=
  rfl

/-- The rest of a division with its divisor. -/
theorem describes_fraction (mantissa : ℕ) {rest divisor : ℕ} (below : rest < divisor) :
    Describes (ExtendedMantissa.ofMantissaAndAccuracy mantissa (accuracyOfFraction rest divisor))
      (mantissa + rest / divisor) := by
  have positive : (0 : ℚ) < divisor := by exact_mod_cast (Nat.zero_le rest).trans_lt below
  rw [accuracyOfFraction]
  split
  · rename_i nothing
    simp [nothing, ExtendedMantissa.ofMantissaAndAccuracy, Describes]
  rename_i something
  have some : (0 : ℚ) < rest / divisor := by
    have : (0 : ℚ) < rest := by exact_mod_cast Nat.pos_of_ne_zero something
    positivity
  have unit : (rest : ℚ) / divisor < 1 := by
    rw [div_lt_one positive]
    exact_mod_cast below
  cases compared : compare (2 * rest) divisor with
  | lt =>
      have short : (2 * rest : ℚ) < divisor := by exact_mod_cast compare_lt_iff_lt.mp compared
      have less : (rest : ℚ) / divisor < 1 / 2 := by
        rw [div_lt_iff₀ positive]
        linarith
      exact ⟨by linarith, by linarith⟩
  | eq =>
      have same : (2 * rest : ℚ) = divisor := by exact_mod_cast compare_eq_iff_eq.mp compared
      have half : (rest : ℚ) / divisor = 1 / 2 := by
        rw [div_eq_iff positive.ne']
        linarith
      change (mantissa : ℚ) + rest / divisor = mantissa + 1 / 2
      rw [half]
  | gt =>
      have long : (divisor : ℚ) < 2 * rest := by exact_mod_cast compare_gt_iff_gt.mp compared
      have more : 1 / 2 < (rest : ℚ) / divisor := by
        rw [lt_div_iff₀ positive]
        linarith
      exact ⟨by linarith, by linarith⟩

end Extended

/-- The place at which a number is rounded. There it has 53 bits, or less than that at the least
place. -/
structure IsPlaced (number : ℚ) (place : ℤ) : Prop where
  low : -1074 ≤ place
  short : number < product (2 ^ 53) place
  full : product (2 ^ 52) place ≤ number ∨ place = -1074

/-- A number and what it is rounded to, were there values beyond the largest one. -/
inductive Rounds : ℚ → ℚ → Prop where
  | nearest {number : ℚ} {place : ℤ} {rounded : ℕ} (placed : IsPlaced number place)
      (nearest : IsNearest rounded (number / 2 ^ place)) : Rounds number (product rounded place)

namespace Rounds

variable {number result : ℚ} {mantissa : ℕ} {exponent : ℤ}

/-- Nothing is rounded up past a number of 53 bits. -/
theorem at_most (rounds : Rounds number result) (short : mantissa < 2 ^ 53)
    (low : -1074 ≤ exponent) (below : number ≤ product mantissa exponent) :
    result ≤ product mantissa exponent := by
  obtain ⟨placed, nearest⟩ := rounds
  rename_i place rounded
  rcases le_or_gt place exponent with higher | lower
  · obtain ⟨units, same⟩ := exists_units mantissa higher
    rw [← same] at below ⊢
    exact product_le_product (nearest.at_most (le_product_iff.mp below))
  · -- So small a bound would leave fewer than 53 bits at the place.
    rcases placed.full with full | least
    · have smaller := product_lt_of_short short lower
      exact absurd (full.trans below) (not_le.mpr smaller)
    · omega

/-- Nothing is rounded down past a number of 53 bits. -/
theorem at_least (rounds : Rounds number result) (short : mantissa < 2 ^ 53)
    (low : -1074 ≤ exponent) (above : product mantissa exponent ≤ number) :
    product mantissa exponent ≤ result := by
  obtain ⟨placed, nearest⟩ := rounds
  rename_i place rounded
  rcases le_or_gt place exponent with higher | lower
  · obtain ⟨units, same⟩ := exists_units mantissa higher
    rw [← same] at above ⊢
    exact product_le_product (nearest.at_least (product_le_iff.mp above))
  · rcases placed.full with full | least
    · have filled : 2 ^ 52 ≤ rounded := nearest.at_least (product_le_iff.mp full)
      exact (product_lt_of_short short lower).le.trans (product_le_product filled)
    · omega

/-- Half of the least value is rounded to zero. -/
theorem vanishes (rounds : Rounds number result) (tiny : number ≤ product 1 (-1075)) :
    result = 0 := by
  obtain ⟨placed, nearest⟩ := rounds
  rename_i place rounded
  have least : place = -1074 := by
    refine placed.full.resolve_left (fun full => ?_)
    have smaller : product 1 (-1075) < product (2 ^ 52) place :=
      product_lt_of_short (by norm_num) (by have := placed.low; omega)
    exact absurd (full.trans tiny) (not_le.mpr smaller)
  subst least
  have half : number / 2 ^ (-1074 : ℤ) ≤ 1 / 2 := by
    have doubled : product 1 (-1074) = 2 * product 1 (-1075) := by
      change product 1 (-1075 + 1) = _
      rw [← product_double]
      simp only [product, Nat.cast_mul, Nat.cast_ofNat, mul_assoc]
    have unit : product 1 (-1074) = 2 ^ (-1074 : ℤ) := by simp [product]
    rw [div_le_iff₀ (by positivity)]
    linarith
  rw [nearest.zero_of_half half]
  simp [product]

/-- From the least normal number on, rounding changes a number by at most one part in 2^53. -/
theorem close (rounds : Rounds number result) (normal : product 1 (-1022) ≤ number) :
    result ≤ number * (1 + 1 / 2 ^ 53) ∧ number * (1 - 1 / 2 ^ 53) ≤ result := by
  obtain ⟨placed, nearest⟩ := rounds
  rename_i place rounded
  have full : product (2 ^ 52) place ≤ number := by
    rcases placed.full with full | rfl
    · exact full
    · exact (product_shift 1 (-1022) 52).le.trans normal
  have unit : (0 : ℚ) < 2 ^ place := by positivity
  have scaled : number = number / 2 ^ place * 2 ^ place := by field_simp
  have below := nearest.below
  have above := nearest.above
  unfold product at full ⊢
  push_cast at full
  generalize number / 2 ^ place = units at *
  subst scaled
  constructor <;> nlinarith

end Rounds

end RadixCalc.Binary64
