import RadixCalc.Proofs.Numeral.LeadingZeros
import RadixCalc.Proofs.Numeral.PowersOfTwo
import RadixCalc.Proofs.Numeral.Spellings

/-!
What is written for a finite value reads back as a finite value, unless the value
is so near to 2^1024 that the roundings of the sum can carry it over. Each digit
costs two roundings of the weight and of the sum, and a whole part has at most
1024 digits. The digits of a fraction add little: their weights halve at each
place at least, until they vanish.
-/

namespace RadixCalc.Numeral

open Binary64

variable {radix : Radix} {value total weight : Float} {number : ℚ}

section Whole

variable {whole places : Nat}

/-- One digit more lets the bound of the sum grow by two roundings. -/
theorem add_digit_bounded (radix : Radix) {digit : Nat} (below : digit < radix.value)
    (small : radix.value ^ places < valueLimit)
    (bounded : IsAtMost ((whole : ℚ) * growth ^ (2 * places)) total) :
    IsAtMost (((whole + digit * radix.value ^ places : Nat) : ℚ) * growth ^ (2 * (places + 1)))
      (total + Float.ofNat digit * placeWeight radix places) := by
  have digitExactly := digit_exactly radix below
  have grows : ∀ {few many : Nat}, few ≤ many → growth ^ few ≤ growth ^ many :=
    fun ordered => pow_le_pow_right₀ one_le_growth ordered
  -- A zero adds nothing; with any other digit the product is not below one, so its bound grows.
  rcases Nat.eq_zero_or_pos digit with rfl | positive
  · rw [add_weighed_zero small (Or.inr ⟨_, bounded⟩), Nat.zero_mul, Nat.add_zero]
    exact bounded.mono (mul_le_mul_of_nonneg_left (grows (by omega)) (by positivity))
  · have some : (1 : ℚ) ≤ digit := by exact_mod_cast positive
    have large : (1 : ℚ) ≤ radix.value ^ places * growth ^ places :=
      one_le_mul_of_one_le_of_one_le (one_le_power radix places) (one_le_pow₀ one_le_growth)
    have weighed := IsAtMost.mul digitExactly some (place_weight_at_most radix places)
      (least_normal_le_one.trans large)
    have raised : 1 ≤ (digit : ℚ) * (radix.value ^ places * growth ^ places) * growth :=
      one_le_mul_of_one_le_of_one_le (one_le_mul_of_one_le_of_one_le some large) one_le_growth
    have rest := bounded.nonneg
    have added := bounded.add weighed (least_normal_le_one.trans (by linarith))
    refine added.mono ?_
    have first : growth ^ (2 * places) * growth ≤ growth ^ (2 * (places + 1)) := by
      rw [← pow_succ]
      exact grows (by omega)
    have second : growth ^ places * growth * growth ≤ growth ^ (2 * (places + 1)) := by
      rw [← pow_succ, ← pow_succ]
      exact grows (by omega)
    calc ((whole : ℚ) * growth ^ (2 * places) +
          digit * (radix.value ^ places * growth ^ places) * growth) * growth
        = whole * (growth ^ (2 * places) * growth) +
          digit * radix.value ^ places * (growth ^ places * growth * growth) := by ring
      _ ≤ whole * growth ^ (2 * (places + 1)) +
          digit * radix.value ^ places * growth ^ (2 * (places + 1)) := by gcongr
      _ = ((whole + digit * radix.value ^ places : Nat) : ℚ) * growth ^ (2 * (places + 1)) := by
          push_cast
          ring

/-- The digits below some place add up to no more than two roundings for each of them allow. -/
structure IsNearlySummed (radix : Radix) (whole places : Nat) (weight total : Float) : Prop where
  few : places ≤ 1024
  weighs : weight = placeWeight radix places
  summed : IsAtMost (((whole % radix.value ^ places : Nat) : ℚ) * growth ^ (2 * places)) total

theorem nearly_summed_start (radix : Radix) (whole : Nat) :
    IsNearlySummed radix whole 0 1.0 0.0 where
  few := by norm_num
  weighs := rfl
  summed := IsAtMost.number IsExactly.zero (by simp [Nat.mod_one])

theorem nearly_summed_step (small : whole < valueLimit) (within : radix.value ^ places ≤ whole)
    (before : IsNearlySummed radix whole places weight total) :
    IsNearlySummed radix whole (places + 1) (weight * radix.toFloat)
      (total + Float.ofNat (whole / radix.value ^ places % radix.value) * weight) where
  few := places_of_power_lt (within.trans_lt small)
  weighs := by rw [before.weighs, placeWeight]
  summed := by
    rw [sum_next, before.weighs]
    exact add_digit_bounded radix (Nat.mod_lt _ radix.pos) (within.trans_lt small) before.summed

/-- The sum of the digits of a whole number is hardly larger than the number. -/
theorem add_whole_text_bounded (radix : Radix) (small : whole < valueLimit) :
    ∃ result, addWhole radix 1.0 0.0 (wholeText radix whole).reverse = .ok result ∧
      IsAtMost (whole * (1 + 1 / 2 ^ 41)) result := by
  obtain ⟨result, last, -, added, ended, ⟨few, -, summed⟩⟩ :=
    add_whole_text (nearly_summed_step small) (nearly_summed_start radix whole)
  rw [Nat.mod_eq_of_lt ended] at summed
  refine ⟨result, added, summed.mono ?_⟩
  exact mul_le_mul_of_nonneg_left (growth_pow_le (by omega)) (by positivity)

end Whole

section Fractions

variable {steps : Nat}

/-- A weight below one that is zero after so many more places, as each place halves it at least. -/
def Fades : Nat → Float → Prop
  | 0, weight => weight = zeroValue
  | steps + 1, weight =>
      steps < 1074 ∧ ∃ number ≤ product 1 (steps - 1074), IsExactly weight number

theorem first_fades (radix : Radix) : Fades 1074 (1.0 / radix.toFloat) := by
  have base : (2 : ℚ) ≤ radix.value := by exact_mod_cast radix.two_le
  have rounded := one_exactly.div_rounded (radix_exactly radix) (by linarith)
  have half : 1 / (radix.value : ℚ) ≤ product 1 (-1) := by
    have halved := one_div_le_one_div_of_le two_pos base
    simpa [product] using halved
  exact ⟨by norm_num, rounded.at_most (representable_power (by norm_num) (by norm_num)) half⟩

theorem Fades.next (radix : Radix) (fades : Fades (steps + 1) weight) :
    Fades steps (weight / radix.toFloat) := by
  obtain ⟨few, number, below, exactly⟩ := fades
  have base : (2 : ℚ) ≤ radix.value := by exact_mod_cast radix.two_le
  have rounded := exactly.div_rounded (radix_exactly radix) (by linarith)
  have halved : number / radix.value ≤ product 1 (steps - 1075) := by
    have doubled := product_double 1 (steps - 1075)
    have next : (steps : Int) - 1075 + 1 = steps - 1074 := by ring
    rw [next] at doubled
    rw [div_le_iff₀ (by linarith)]
    calc number ≤ product 1 (steps - 1075) * 2 := by
          rw [← doubled] at below
          simpa [product, mul_comm] using below
      _ ≤ product 1 (steps - 1075) * radix.value :=
          mul_le_mul_of_nonneg_left base (product_pos one_pos).le
  cases steps with
  | zero =>
      -- Half of the least value is left at most, which is rounded to zero.
      obtain ⟨result, -, exactly⟩ := rounded.at_most
        (representable_power (by norm_num) (by norm_num) : Representable (product 1 (-1074)))
        (halved.trans (product_le_of_exponent (by norm_num)))
      have vanished := (rounded.rounds exactly).vanishes halved
      exact (vanished ▸ exactly).unique IsExactly.zero
  | succ steps =>
      have place : ((steps + 1 : Nat) : Int) - 1075 = steps - 1074 := by push_cast; ring
      rw [place] at halved
      exact ⟨by omega, rounded.at_most (representable_power (by omega) (by omega)) halved⟩

theorem fades_still (radix : Radix) : Fades 0 (zeroValue / radix.toFloat) := by
  have base : (0 : ℚ) < radix.value := by exact_mod_cast radix.pos
  exact (radix_exactly radix).zero_value_div base

/-- The digits of a fraction add less than one base for each place up to the last weight. -/
theorem add_fraction_bounded {digits : List Char}
    (digital : ∀ char ∈ digits, IsDigit radix char)
    {bound : Nat} (room : bound + 61 * steps ≤ 2 ^ 53) (fades : Fades steps weight)
    (exactly : IsExactly total number) (below : number ≤ bound) :
    ∃ result sum, addFraction radix weight total digits = .ok result ∧
      IsExactly result sum := by
  induction digits generalizing steps weight total number bound with
  | nil => exact ⟨total, number, rfl, exactly⟩
  | cons char rest induction =>
      obtain ⟨digit, limited, rfl⟩ := digital char (by simp)
      have later : ∀ char ∈ rest, IsDigit radix char :=
        fun char member => digital char (by simp [member])
      have listed := radix.le_max
      have digitExactly := digit_exactly radix limited
      rw [addFraction, digit_in_written limited]
      cases steps with
      | zero =>
          -- From here on all weights are zero, and no digit counts.
          obtain rfl : weight = zeroValue := fades
          have added : total + Float.ofNat digit * zeroValue = total := by
            rw [digitExactly.mul_zero_value, exactly.unsigned.absorbs_zero]
          simp only [bind, Except.bind, added]
          exact induction later room (fades_still radix) exactly below
      | succ steps =>
          have lighter := Fades.next radix fades
          obtain ⟨few, light, tiny, weighs⟩ := fades
          have single : light ≤ 1 := by
            have one : product 1 0 = 1 := by simp [product]
            exact one ▸ tiny.trans (product_le_of_exponent (by omega))
          have product : (digit : ℚ) * light ≤ (61 : Nat) := by
            have most : (digit : ℚ) ≤ (61 : Nat) := by exact_mod_cast (by omega : digit ≤ 61)
            exact (mul_le_of_le_one_right (by positivity) single).trans most
          obtain ⟨term, small, terms⟩ :=
            digitExactly.mul_at_most weighs (by norm_num : 61 < 2 ^ 53) product
          obtain ⟨sum, limit, sums⟩ := (exactly.add_rounded terms).at_most
            (representable_nat (by omega : bound + 61 ≤ 2 ^ 53)) (by
              rw [Nat.cast_add]
              exact add_le_add below small)
          exact induction later (by omega) lighter sums limit

end Fractions

section Values

/-- From 2^52 on values have no fraction. -/
theorem whole_of_large (fits : Representable number) (large : 2 ^ 52 ≤ number) :
    number = ⌊number⌋₊ := by
  obtain ⟨mantissa, exponent, short, low, rfl⟩ := fits.exists_product
  rcases le_or_gt 0 exponent with whole | below
  · obtain ⟨units, same⟩ := exists_units mantissa whole
    rw [← same, product, zpow_zero, mul_one, Nat.floor_natCast]
  · have smaller := product_lt_of_short short below
    have one : product (2 ^ 52) 0 = 2 ^ 52 := by norm_num [product]
    rw [one] at smaller
    exact absurd large (not_le.mpr smaller)

/-- What the roundings of a sum can carry to 2^1024 is not far below it. -/
theorem near_limit (beyond : product 1 1024 ≤ number * (1 + 1 / 2 ^ 41)) :
    2 ^ 1024 - 2 ^ 983 ≤ number := by
  have step : (2 : ℚ) ^ 1024 = 2 ^ 983 * 2 ^ 41 := by rw [← pow_add]
  have limit : product 1 1024 = 2 ^ 983 * 2 ^ 41 := by
    rw [← step, product, Nat.cast_one, one_mul]
    exact zpow_natCast 2 1024
  rw [limit] at beyond
  rw [step]
  have positive : (0 : ℚ) < 2 ^ 983 := by positivity
  clear step limit
  generalize (2 : ℚ) ^ 983 = unit at *
  norm_num at beyond ⊢
  linarith

/-- The digits of a value without a fraction add up to infinity only next to 2^1024, and never in a
base that is a power of two. -/
theorem add_large_whole (radix : Radix) (exactly : IsExactly value number)
    (whole : number = ⌊number⌋₊) :
    ∃ total, addWhole radix 1.0 0.0 (wholeText radix ⌊number⌋₊).reverse = .ok total ∧
      total.isNaN = false ∧ (total.isInf = true →
        (∀ bits, radix.value ≠ 2 ^ bits) ∧ 2 ^ 1024 - 2 ^ 983 ≤ number) := by
  have fits := exactly.representable
  have limited : ⌊number⌋₊ < valueLimit := by
    have bounded := fits.bounded
    rw [product_limit] at bounded
    exact (Nat.floor_lt exactly.nonneg).mpr bounded
  obtain ⟨total, added, bounded⟩ := add_whole_text_bounded radix limited
  refine ⟨total, added, ?_⟩
  rcases bounded.value_cases with ⟨sum, -, sums⟩ | ⟨rfl, beyond⟩
  · exact ⟨sums.not_nan, fun infinite => absurd infinite (by simp [sums.not_infinite])⟩
  · -- The bound reaches 2^1024, so the number does but for the roundings.
    rw [← whole] at beyond
    refine ⟨by decide +kernel, fun _ => ⟨fun bits power => ?_, near_limit beyond⟩⟩
    rw [whole] at fits
    obtain ⟨sum, same, sums⟩ := (adds_up_bits power fits).add_text
    obtain rfl : infinity = sum := Except.ok.inj (added.symm.trans same)
    exact absurd sums.not_infinite (by decide +kernel)

/-- What is written for a value without a sign reads back as a finite value, or the value is next
to 2^1024 and the base is no power of two. -/
theorem read_magnitude_bounded (radix : Radix) (cap : Nat) (exactly : IsExactly value number)
    (notNan : String.ofList (magnitudeText radix cap value) ≠ "nan")
    (notInf : String.ofList (magnitudeText radix cap value) ≠ "inf") :
    ∃ result, read (String.ofList (magnitudeText radix cap value)) radix.value = .ok result ∧
      result.isNaN = false ∧ (result.isInf = true →
        (∀ bits, radix.value ≠ 2 ^ bits) ∧ 2 ^ 1024 - 2 ^ 983 ≤ number) := by
  rw [read_magnitude_text radix cap exactly notNan notInf, exactly.whole_part]
  have fraction := exactly.fraction
  rw [exactly.whole_part] at fraction
  -- Either there is no fraction, or the whole part leaves room for all that a fraction can add.
  rcases le_or_gt (2 ^ 52) number with large | small
  · have whole := whole_of_large exactly.representable large
    obtain ⟨total, added, bounded⟩ := add_large_whole radix exactly whole
    have nothing := (fraction_digits_nil_iff radix cap fraction).mpr
        (Or.inr (sub_eq_zero.mpr whole))
    rw [added, nothing]
    exact ⟨total, rfl, bounded⟩
  · have few : ⌊number⌋₊ ≤ 2 ^ 52 := by
      have below : (⌊number⌋₊ : ℚ) ≤ (2 ^ 52 : Nat) := by
        rw [Nat.cast_pow, Nat.cast_ofNat]
        exact (Nat.floor_le exactly.nonneg).trans small.le
      exact_mod_cast below
    obtain ⟨total, added, summed⟩ :=
      (adds_up_short radix (by omega : ⌊number⌋₊ ≤ 2 ^ 53)).add_text
    obtain ⟨result, sum, read, sums⟩ := add_fraction_bounded
      (fraction_digits_digits radix cap fraction (fraction_lt_one number))
      (by omega : ⌊number⌋₊ + 61 * 1074 ≤ 2 ^ 53) (first_fades radix) summed le_rfl
    rw [added]
    exact ⟨result, Stop.of_checked_ok.mpr read, sums.not_nan,
      fun infinite => absurd infinite (by simp [sums.not_infinite])⟩

/-- No base has a digit for the sign. -/
theorem read_signed (radix : Radix) {text : List Char}
    (written : ∀ char ∈ text, char = '.' ∨ IsDigit radix char) :
    ∃ fault, read (String.ofList ('-' :: text)) radix.value = .error (.fault fault) := by
  have spelled : ∀ {letters : List Char}, '-' ∉ letters →
      String.ofList ('-' :: text) ≠ String.ofList letters := by
    rintro letters unsigned same
    exact unsigned (String.ofList_inj.mp same ▸ List.mem_cons_self)
  have folded : foldCase radix.value ('-' :: text) = '-' :: text := by
    apply fold_case_written
    intro char member
    rcases List.mem_cons.mp member with rfl | member
    · exact Or.inl (by simp)
    · exact (written char member).imp_left (by rintro rfl; simp)
  have signed : '-' ∈ foldCase radix.value (String.ofList ('-' :: text)).toList := by
    rw [String.toList_ofList, folded]
    exact List.mem_cons_self
  have outside : ¬ ∃ digit, digitIn radix '-' = .ok digit := by
    have foreign : digitOf? '-' = none := by decide
    rw [digit_in_ok_iff, foreign]
    simp
  obtain ⟨⟨fault, refused, -⟩, -⟩ := refused_of_folded signed (by decide) outside
    (spelled (by decide : '-' ∉ ['n', 'a', 'n'])) (spelled (by decide : '-' ∉ ['i', 'n', 'f']))
  exact ⟨fault, refused⟩

end Values

section Spellings

/-- Three digits in a row are written for the values that are cut to them. -/
theorem write_three_digits_iff (high middle low : Nat)
    (listed : high < 62 ∧ middle < 62 ∧ low < 62)
    (leads : high ≠ 0) (radix : Radix) (cap : Int) (finite : value.isFinite = true) :
    write value radix.value cap =
        .ok (String.ofList [digitChar high, digitChar middle, digitChar low]) ↔
      (high < radix.value ∧ middle < radix.value ∧ low < radix.value) ∧
        IsCutTo cap value (high * radix.value ^ 2 + middle * radix.value + low) := by
  have spells : IsSpelling [low, middle, high] :=
    ⟨by simp [listed.1, listed.2.1, listed.2.2], List.cons_ne_nil _ _, leads⟩
  have digits : Nat.ofDigits radix.value [low, middle, high] =
      high * radix.value ^ 2 + middle * radix.value + low := by
    simp only [Nat.ofDigits_cons, Nat.ofDigits_nil]
    ring
  have written := write_spelled_iff spells radix cap finite
  simp only [digits, List.forall_mem_cons, List.not_mem_nil, false_imp_iff, implies_true,
    and_true] at written
  refine written.trans (and_congr_left' ?_)
  omega

/-- From base 24 on `nan` is also a number. -/
theorem write_nan_iff (radix : Radix) (cap : Int) (value : Float) :
    write value radix.value cap = .ok "nan" ↔ value.isNaN = true ∨
      24 ≤ radix.value ∧ IsCutTo cap value (23 * radix.value ^ 2 + 10 * radix.value + 23) := by
  rcases finite_nan_or_infinite value with
      ⟨finite, nan, -⟩ | ⟨-, nan, -⟩ | ⟨other, nan, infinite⟩
  · have digits := write_three_digits_iff 23 10 23 (by decide) (by decide) radix cap finite
    have spelled : String.ofList [digitChar 23, digitChar 10, digitChar 23] = "nan" := by decide
    rw [← spelled, digits, nan]
    simp only [Bool.false_eq_true, false_or]
    exact and_congr_left' (by omega)
  · exact iff_of_true (write_nan nan _ _) (Or.inl nan)
  · rw [write_infinite nan infinite, nan]
    simp [not_cut_to other]

/-- From base 24 on `inf` is also a number. -/
theorem write_inf_iff (radix : Radix) (cap : Int) (value : Float) :
    write value radix.value cap = .ok "inf" ↔ value.isInf = true ∨
      24 ≤ radix.value ∧ IsCutTo cap value (18 * radix.value ^ 2 + 23 * radix.value + 15) := by
  rcases finite_nan_or_infinite value with
    ⟨finite, -, bounded⟩ | ⟨other, nan, bounded⟩ | ⟨-, nan, infinite⟩
  · have digits := write_three_digits_iff 18 23 15 (by decide) (by decide) radix cap finite
    have spelled : String.ofList [digitChar 18, digitChar 23, digitChar 15] = "inf" := by decide
    rw [← spelled, digits, bounded]
    simp only [Bool.false_eq_true, false_or]
    exact and_congr_left' (by omega)
  · rw [write_nan nan, bounded]
    simp [not_cut_to other]
  · exact iff_of_true (write_infinite nan infinite _ _) (Or.inl infinite)

/-- Every finite value is written. Unless its text spells a value without digits, a value below zero
is not read again, and any other reads back as a number, or as infinity next to 2^1024. -/
theorem write_finite_reads (radix : Radix) (cap : Int) (finite : value.isFinite = true) :
    ∃ text, write value radix.value cap = .ok text ∧ (text ≠ "nan" → text ≠ "inf" →
      if value < 0.0 then ∃ fault, read text radix.value = .error (.fault fault)
      else ∃ result, read text radix.value = .ok result ∧ result.isNaN = false ∧
        (result.isInf = true → (∀ bits, radix.value ≠ 2 ^ bits) ∧
          2 ^ 1024 - 2 ^ 983 ≤ numberOf value)) := by
  obtain ⟨notNan, notInf⟩ := number_of_finite finite
  rcases exactly_cases notNan notInf with ⟨number, exactly⟩ | rfl | ⟨below, number, exactly⟩
  · refine ⟨_, write_exactly radix cap exactly, fun spellsNoNan spellsNoInf => ?_⟩
    rw [if_neg exactly.not_negative, exactly.number_of]
    exact read_magnitude_bounded radix cap.toNat exactly spellsNoNan spellsNoInf
  · have nonneg : ¬ -zeroValue < 0.0 := by decide +kernel
    have nothing := write_magnitude radix cap notNan notInf nonneg
    rw [magnitude_text_negative_zero] at nothing
    refine ⟨_, nothing, fun spellsNoNan spellsNoInf => ?_⟩
    rw [if_neg nonneg, read_whole_text radix (Nat.zero_le _) spellsNoNan spellsNoInf, of_nat_zero]
    exact ⟨_, rfl, IsExactly.zero.not_nan,
      fun infinite => absurd infinite (by simp [IsExactly.zero.not_infinite])⟩
  · refine ⟨_, write_negative radix cap notNan notInf below, fun _ _ => ?_⟩
    rw [if_pos below]
    exact read_signed radix (magnitude_text_digits radix cap.toNat exactly)

/-- Which values are written like those without digits, and how all others read back. -/
theorem write_spellings_and_read_back (radix : Radix) (cap : Int) (value : Float) :
    (write value radix.value cap = .ok "nan" ↔ value.isNaN = true ∨
      24 ≤ radix.value ∧ IsCutTo cap value (23 * radix.value ^ 2 + 10 * radix.value + 23)) ∧
    (write value radix.value cap = .ok "inf" ↔ value.isInf = true ∨
      24 ≤ radix.value ∧ IsCutTo cap value (18 * radix.value ^ 2 + 23 * radix.value + 15)) ∧
    (value.isFinite = true → ∃ text, write value radix.value cap = .ok text ∧
      (text ≠ "nan" → text ≠ "inf" →
        if value < 0.0 then ∃ fault, read text radix.value = .error (.fault fault)
        else ∃ result, read text radix.value = .ok result ∧ result.isNaN = false ∧
          (result.isInf = true → (∀ bits, radix.value ≠ 2 ^ bits) ∧
            2 ^ 1024 - 2 ^ 983 ≤ numberOf value))) :=
  ⟨write_nan_iff radix cap value, write_inf_iff radix cap value,
    fun finite => write_finite_reads radix cap finite⟩

/-- A whole number and the largest value of all, read back as NaN and as infinity. -/
theorem finite_reads_without_digits :
    (write 30191.0 36 15 = .ok "nan" ∧ (30191.0 : Float).isNaN = false ∧
      read "nan" 36 = .ok nan) ∧
    ∃ text, write (Float.ofBits 0x7FEFFFFFFFFFFFFF) 60 15 = .ok text ∧
      (Float.ofBits 0x7FEFFFFFFFFFFFFF).isFinite = true ∧ read text 60 = .ok infinity := by
  refine ⟨by decide +kernel,
    "4iCyhJx6vqX5sDpHV5We0KBKKLoX8g8lh3wnann1P6wENWIiPCrn5Mdar6WNhAXABWuc0W1xiFAFlO9xkp1tU2RNz" ++
      "yhafis9n5u7XgMG6WdoWLNnQ9xa3t6cvd1CgWF8BEqSf6dI7mUBdDwzPQJ9irBGmhmdao03pyfw8CdtdDuCq8",
    by decide +kernel⟩

end Spellings

end RadixCalc.Numeral
