import RadixCalc.Proofs.Binary64.Unpacking
import RadixCalc.Proofs.Numeral.WholeNumbers

/-!
Bases that are powers of two. There each digit is a run of bits, so whatever is
left after some digits and whatever is summed up from some digits has a value of
its own, being some bits of a value. Writing therefore loses nothing but what
the cap cuts off, and reading the digits back makes no rounding at all.
-/

namespace RadixCalc.Numeral

open Binary64

variable {radix : Radix} {bits : Nat}

section Places

theorem bits_le (power : radix.value = 2 ^ bits) : 1 ≤ bits ∧ bits ≤ 5 := by
  have lower := radix.two_le
  have upper := radix.le_max
  rw [power] at lower upper
  constructor
  · by_contra none
    obtain rfl : bits = 0 := by omega
    norm_num at lower
  · by_contra many
    have large : 2 ^ 6 ≤ 2 ^ bits := Nat.pow_le_pow_right (by norm_num) (by omega)
    omega

theorem power_product (power : radix.value = 2 ^ bits) (mantissa places : Nat) :
    ((mantissa * radix.value ^ places : Nat) : ℚ) = product mantissa (bits * places : Nat) := by
  rw [power, ← pow_mul, product, zpow_natCast]
  push_cast
  rfl

/-- Every sum of low digits of a whole value is some bits of it. -/
theorem adds_up_bits (power : radix.value = 2 ^ bits) {number : Nat}
    (fits : Representable (number : ℚ)) : AddsUp radix number := by
  -- A weight, a weighed digit and the sum below a place are all of this shape.
  have part : ∀ {mantissa places : Nat}, mantissa < 2 ^ 53 →
      mantissa * radix.value ^ places ≤ number →
      Representable ((mantissa * radix.value ^ places : Nat) : ℚ) := by
    intro mantissa places short within
    have bounded : ((mantissa * radix.value ^ places : Nat) : ℚ) ≤ number := by
      exact_mod_cast within
    rw [power_product power] at bounded ⊢
    exact representable_bounded short (by omega) (bounded.trans_lt fits.bounded)
  have small := radix.le_max
  constructor
  · intro places within
    have single := @part 1 places (by norm_num)
    rw [one_mul] at single
    exact single within
  · intro places
    have digit := Nat.mod_lt (number / radix.value ^ places) radix.pos
    have shown := sum_next radix number places
    have within := Nat.mod_le number (radix.value ^ (places + 1))
    exact part (by omega) (((Nat.le_add_left _ _).trans_eq shown.symm).trans within)
  · intro places
    have rest := (fits.split (bits * places : Nat)).2
    have one := power_product power 1 places
    rw [one_mul, product, Nat.cast_one, one_mul] at one
    rwa [← one, Nat.floor_div_eq_div, ← power_product power,
      ← Nat.cast_sub (Nat.div_mul_le_self _ _), ← Nat.mod_eq_sub_div_mul] at rest

end Places

section Fractions

/-- A number in units of the last of so many bits behind the point, the rest cut off. -/
def cut (number : ℚ) (places : Nat) : Nat :=
  ⌊number * 2 ^ places⌋₊

variable {number : ℚ}

theorem cut_representable (fits : Representable number) (places : Nat) :
    Representable (cut number places / 2 ^ places) := by
  have whole := (fits.split (-places)).1
  rw [zpow_neg, zpow_natCast, div_inv_eq_mul, product, zpow_neg, zpow_natCast,
    ← div_eq_mul_inv] at whole
  exact whole

theorem cut_add (nonneg : 0 ≤ number) (places more : Nat) :
    cut number (places + more) = cut number places * 2 ^ more +
      ⌊(number * 2 ^ places - cut number places) * 2 ^ more⌋₊ := by
  have scaled : number * 2 ^ (places + more) =
      (number * 2 ^ places - cut number places) * 2 ^ more +
        (cut number places * 2 ^ more : Nat) := by
    push_cast
    ring
  have rest : 0 ≤ number * 2 ^ places - cut number places :=
    sub_nonneg.mpr (Nat.floor_le (by positivity))
  rw [cut, scaled, Nat.floor_add_natCast (by positivity), Nat.add_comm]

/-- Once nothing is left, all of the number is written. -/
theorem cut_all {places : Nat} (nothing : number * 2 ^ places - cut number places = 0) :
    (cut number places : ℚ) / 2 ^ places = number := by
  rw [← sub_eq_zero.mp nothing, mul_div_cancel_right₀ _ (by positivity)]

theorem div_product (mantissa places : Nat) :
    (mantissa : ℚ) / 2 ^ places = product mantissa (-places) := by
  rw [product, zpow_neg, zpow_natCast, div_eq_mul_inv]

theorem power_representable {places : Nat} (few : places ≤ 1074) :
    Representable (1 / 2 ^ places : ℚ) := by
  have one := div_product 1 places
  rw [Nat.cast_one] at one
  rw [one]
  exact representable_power (by omega) (by omega)

/-- A fraction shifted by less than the length of a mantissa. -/
theorem shifted_representable (fits : Representable number) (below : number < 1)
    (few : bits ≤ 53) : Representable (number * 2 ^ bits) := by
  obtain ⟨mantissa, exponent, short, low, rfl⟩ := fits.exists_product
  have shifted : product mantissa exponent * 2 ^ bits = product mantissa (exponent + bits) := by
    rw [product, product, zpow_add₀ two_ne_zero, zpow_natCast, mul_assoc]
  have large : product 1 bits ≤ product 1 1024 := product_le_of_exponent (by omega)
  rw [product, Nat.cast_one, one_mul, zpow_natCast] at large
  rw [shifted]
  apply representable_bounded short (by omega)
  rw [← shifted]
  exact (mul_lt_of_lt_one_left (by positivity) below).trans_le large

/-- Between two digits of a fraction: what is left to be written, what is read already, and what the
next digit weighs. -/
structure IsMidway (number : ℚ) (bits places : Nat) (fraction total weight : Float) : Prop where
  left : IsExactly fraction (number * 2 ^ places - cut number places)
  summed : IsExactly total (cut number places / 2 ^ places)
  weighs : IsExactly weight (1 / 2 ^ (places + bits))

variable {places : Nat} {fraction total weight : Float}

theorem radix_bits_exactly (power : radix.value = 2 ^ bits) :
    IsExactly radix.toFloat (2 ^ bits) := by
  have radixExactly := radix_exactly radix
  rwa [power, Nat.cast_pow, Nat.cast_ofNat] at radixExactly

theorem IsMidway.scales (power : radix.value = 2 ^ bits)
    (midway : IsMidway number bits places fraction total weight) :
    IsExactly (fraction * radix.toFloat)
      ((number * 2 ^ places - cut number places) * 2 ^ bits) := by
  have few := bits_le power
  exact midway.left.mul (radix_bits_exactly power)
    (shifted_representable midway.left.representable (fraction_lt_one _) (by omega))

theorem IsMidway.digit_below (power : radix.value = 2 ^ bits)
    (midway : IsMidway number bits places fraction total weight) :
    wholePart (fraction * radix.toFloat) < radix.value := by
  rw [(midway.scales power).whole_part, Nat.floor_lt' radix.pos.ne', power, Nat.cast_pow,
    Nat.cast_ofNat]
  exact mul_lt_of_lt_one_left (by positivity) (fraction_lt_one _)

theorem weight_next (power : radix.value = 2 ^ bits) {count : Nat} (room : count + bits ≤ 1027)
    (weighs : IsExactly weight (1 / 2 ^ count)) :
    IsExactly (weight / radix.toFloat) (1 / 2 ^ (count + bits)) := by
  have lighter : (1 / 2 ^ count : ℚ) / 2 ^ bits = 1 / 2 ^ (count + bits) := by
    rw [div_div, ← pow_add]
  have divided := weighs.div (radix_bits_exactly power) (by positivity)
    (lighter ▸ power_representable (by omega))
  rwa [lighter] at divided

/-- One digit is written and read without rounding. -/
theorem IsMidway.next (power : radix.value = 2 ^ bits) (fits : Representable number)
    (midway : IsMidway number bits places fraction total weight) (room : places + bits ≤ 1022) :
    IsMidway number bits (places + bits)
      (fraction * radix.toFloat - Float.ofNat (wholePart (fraction * radix.toFloat)))
      (total + Float.ofNat (wholePart (fraction * radix.toFloat)) * weight)
      (weight / radix.toFloat) := by
  have few := bits_le power
  have scales := midway.scales power
  have next := cut_add fits.nonneg places bits
  rw [← scales.whole_part] at next
  have rest : (number * 2 ^ places - cut number places) * 2 ^ bits -
      wholePart (fraction * radix.toFloat) =
        number * 2 ^ (places + bits) - cut number (places + bits) := by
    rw [next]
    push_cast
    ring
  refine ⟨?_, ?_, weight_next power (by omega) midway.weighs⟩
  · have left := scales.fraction
    rwa [← scales.whole_part, rest] at left
  · have small := radix.le_max
    have digit := midway.digit_below power
    have term := (digit_exactly radix digit).mul midway.weighs (by
      rw [mul_one_div, div_product]
      exact representable_product (by omega) (by omega) (by omega))
    have sum : (cut number places : ℚ) / 2 ^ places +
        wholePart (fraction * radix.toFloat) * (1 / 2 ^ (places + bits)) =
          cut number (places + bits) / 2 ^ (places + bits) := by
      rw [next]
      push_cast
      field_simp
      ring
    have added := midway.summed.add term (sum ▸ cut_representable fits _)
    rwa [sum] at added

/-- The digits behind some place are read to the end of the number, if it ends within the cap. -/
theorem IsMidway.add_fraction (power : radix.value = 2 ^ bits) (fits : Representable number)
    (cap : Nat) (midway : IsMidway number bits places fraction total weight)
    (room : places + bits * cap ≤ 1022)
    (ends : ∃ whole : Nat, number * 2 ^ (places + bits * cap) = whole) :
    ∃ result, addFraction radix weight total (fractionDigits radix cap fraction) = .ok result ∧
      IsExactly result number := by
  induction cap generalizing places fraction total weight with
  | zero =>
      obtain ⟨whole, same⟩ := ends
      rw [Nat.mul_zero, Nat.add_zero] at same
      have nothing : number * 2 ^ places - cut number places = 0 := by
        rw [cut, same, Nat.floor_natCast, sub_self]
      have summed := midway.summed
      rw [cut_all nothing] at summed
      exact ⟨total, rfl, summed⟩
  | succ cap induction =>
      rw [fractionDigits]
      split
      · rename_i nothing
        have summed := midway.summed
        rw [cut_all (midway.left.zero_of_beq nothing)] at summed
        exact ⟨total, rfl, summed⟩
      have further : places + bits * (cap + 1) = places + bits + bits * cap := by ring
      rw [further] at room ends
      obtain ⟨result, read, exactly⟩ := induction (midway.next power fits (by omega)) room ends
      refine ⟨result, ?_, exactly⟩
      rw [addFraction, digit_in_written (midway.digit_below power)]
      exact read

end Fractions

section Values

variable {value : Float} {number : ℚ}

theorem cut_zero (number : ℚ) : (cut number 0 : ℚ) / 2 ^ 0 = ⌊number⌋₊ := by
  rw [cut, pow_zero, mul_one, div_one]

/-- A value without a sign that ends within the cap reads back as itself. -/
theorem read_magnitude_bits (power : radix.value = 2 ^ bits) {cap : Nat}
    (room : bits * cap ≤ 1022) (exactly : IsExactly value number)
    (ends : ∃ whole : Nat, number * radix.value ^ cap = whole)
    (notNan : String.ofList (magnitudeText radix cap value) ≠ "nan")
    (notInf : String.ofList (magnitudeText radix cap value) ≠ "inf") :
    read (String.ofList (magnitudeText radix cap value)) radix.value = .ok value := by
  have base : (radix.value : ℚ) = 2 ^ bits := by exact_mod_cast power
  have fits := exactly.representable
  rw [read_magnitude_text radix cap exactly notNan notInf]
  rw [exactly.whole_part]
  obtain ⟨total, added, summed⟩ := (adds_up_bits power (whole_and_fraction fits).1).add_text
  have fraction := exactly.fraction
  rw [exactly.whole_part] at fraction
  have few := bits_le power
  -- Behind the point reading and writing start from the same fraction.
  have midway : IsMidway number bits 0
      (value - Float.ofNat ⌊number⌋₊) total (1.0 / radix.toFloat) := by
    refine ⟨?_, ?_, ?_⟩
    · rw [cut, pow_zero, mul_one]
      exact fraction
    · rw [cut_zero]
      exact summed
    · rw [Nat.zero_add]
      exact one_exactly.div (radix_bits_exactly power) (by positivity)
        (power_representable (by omega))
  have finished : ∃ whole : Nat, number * 2 ^ (0 + bits * cap) = whole := by
    rw [Nat.zero_add, pow_mul, ← base]
    exact ends
  obtain ⟨result, read, resultExactly⟩ := midway.add_fraction power fits cap (by omega) finished
  obtain rfl := resultExactly.unique exactly
  rw [added]
  exact Stop.of_checked_ok.mpr read

/-- A cap under which no weight comes below the normal numbers leaves that much room. -/
theorem room_of_cap (power : radix.value = 2 ^ bits) {cap : Int}
    (small : (radix.value : ℚ) ^ cap ≤ 2 ^ 1022) : bits * cap.toNat ≤ 1022 := by
  rcases le_or_gt cap 0 with none | some
  · rw [Int.toNat_of_nonpos none]
    omega
  · obtain ⟨places, rfl⟩ := Int.eq_ofNat_of_zero_le some.le
    have base : (radix.value : ℚ) = 2 ^ bits := by exact_mod_cast power
    rw [base, zpow_natCast, ← pow_mul] at small
    exact (pow_le_pow_iff_right₀ one_lt_two).mp small

theorem ends_of_multiple {cap : Int} {count : Nat}
    (multiple : number = count * (radix.value : ℚ) ^ (-cap)) :
    ∃ whole : Nat, number * radix.value ^ cap.toNat = whole := by
  have base : (radix.value : ℚ) ≠ 0 := by exact_mod_cast radix.pos.ne'
  rcases le_or_gt cap 0 with none | some
  · obtain ⟨places, raised⟩ := Int.eq_ofNat_of_zero_le (neg_nonneg.mpr none)
    refine ⟨count * radix.value ^ places, ?_⟩
    rw [Int.toNat_of_nonpos none, pow_zero, mul_one, multiple, raised, zpow_natCast]
    push_cast
    rfl
  · obtain ⟨places, rfl⟩ := Int.eq_ofNat_of_zero_le some.le
    refine ⟨count, ?_⟩
    rw [multiple, zpow_neg, zpow_natCast, Int.toNat_natCast,
      inv_mul_cancel_right₀ (pow_ne_zero _ base)]

/-- In a base that is a power of two, a finite value that is not negative and ends within the cap
reads back as itself, unless it is written like a value without digits. Zero loses its sign. -/
theorem read_write_power_of_two (power : radix.value = 2 ^ bits) {cap : Int}
    (small : (radix.value : ℚ) ^ cap ≤ 2 ^ 1022) (finite : value.isFinite = true)
    (nonneg : ¬ value < 0.0)
    (multiple : ∃ count : Nat, numberOf value = count * (radix.value : ℚ) ^ (-cap)) :
    ∃ text, write value radix.value cap = .ok text ∧
      (text ≠ "nan" → text ≠ "inf" →
        ∃ result, read text radix.value = .ok result ∧
          (result = value ∨ value = -0.0 ∧ result = 0.0)) := by
  obtain ⟨notNan, notInf⟩ := number_of_finite finite
  refine ⟨_, write_magnitude radix cap notNan notInf nonneg, fun unlikeNan unlikeInf => ?_⟩
  rcases exactly_cases notNan notInf with ⟨number, exactly⟩ | rfl | ⟨below, -⟩
  · obtain ⟨count, same⟩ := multiple
    rw [exactly.number_of] at same
    have back := read_magnitude_bits power (room_of_cap power small) exactly
      (ends_of_multiple same) unlikeNan unlikeInf
    exact ⟨value, back, Or.inl rfl⟩
  · rw [magnitude_text_negative_zero] at unlikeNan unlikeInf ⊢
    have back := read_whole_text radix (Nat.zero_le _) unlikeNan unlikeInf
    exact ⟨_, back, Or.inr ⟨rfl, of_nat_zero⟩⟩
  · exact absurd below nonneg

/-- The value next to a tenth takes 55 places in base 2. -/
theorem read_write_power_of_two_tenth :
    (2 : Nat) = 2 ^ 1 ∧ ((2 : Nat) : ℚ) ^ (60 : Int) ≤ 2 ^ 1022 ∧
      (0.1 : Float).isFinite = true ∧
      ¬ (0.1 : Float) < 0.0 ∧
      (∃ count : Nat, numberOf 0.1 = count * ((2 : Nat) : ℚ) ^ (-60 : Int)) ∧
      write 0.1 2 60 = .ok "0.0001100110011001100110011001100110011001100110011001101" ∧
      read "0.0001100110011001100110011001100110011001100110011001101" 2 = .ok 0.1 := by
  have small : ((2 : Nat) : ℚ) ^ (60 : Int) ≤ 2 ^ 1022 := by decide +kernel
  have multiple : ∃ count : Nat, numberOf 0.1 = count * ((2 : Nat) : ℚ) ^ (-60 : Int) :=
    ⟨16 * 7205759403792794, by decide +kernel⟩
  have finite : (0.1 : Float).isFinite = true := by decide +kernel
  have nonneg : ¬ (0.1 : Float) < 0.0 := by decide +kernel
  have shown : write 0.1 2 60 =
      .ok "0.0001100110011001100110011001100110011001100110011001101" := by decide +kernel
  have power : (⟨2, by decide, by decide⟩ : Radix).value = 2 ^ 1 := rfl
  obtain ⟨text, written, back⟩ := read_write_power_of_two power small finite nonneg multiple
  obtain rfl := Except.ok.inj (shown.symm.trans written)
  obtain ⟨result, read, same⟩ := back (by decide) (by decide)
  have signed : (0.1 : Float) ≠ -0.0 := by decide +kernel
  obtain rfl := same.resolve_right (fun zero => signed zero.1)
  exact ⟨rfl, small, finite, nonneg, multiple, shown, read⟩

end Values

end RadixCalc.Numeral
