import RadixCalc.Proofs.Numeral.Readable
import RadixCalc.Proofs.Binary64.Magnitude

/-!
What is written for a finite value, and how it is read again. Only digits of the
base are written, with a point in front of the fraction if there is one. The
product of a fraction with the base may be rounded up, but not as far as the
base, because a fraction is at least one part in 2^53 below one.
-/

namespace RadixCalc

namespace Numeral

open Binary64

variable {radix : Radix} {value : Float} {number : ℚ}

theorem radix_exactly (radix : Radix) : IsExactly radix.toFloat radix.value := by
  have small := radix.le_max
  exact of_nat_bounded (by omega)

theorem digit_exactly (radix : Radix) {digit : Nat} (below : digit < radix.value) :
    IsExactly (Float.ofNat digit) digit := by
  have small := radix.le_max
  exact of_nat_bounded (by omega)

/-- A fraction times the base is rounded to something below the base. -/
theorem scaled_below (radix : Radix) (exactly : IsExactly value number) (below : number < 1) :
    ∃ scaled < (radix.value : ℚ), IsExactly (value * radix.toFloat) scaled := by
  have small := radix.le_max
  have base : (2 : ℚ) ≤ radix.value := by exact_mod_cast radix.two_le
  have limited := exactly.representable.fraction_le below
  have product : number * radix.value ≤ (radix.value : ℚ) :=
    mul_le_of_le_one_left (by linarith) below.le
  obtain ⟨scaled, -, scales⟩ :=
    exactly.mul_at_most (radix_exactly radix) (by omega) product
  refine ⟨scaled, ?_, scales⟩
  have rounds := (exactly.mul_rounded (radix_exactly radix)).rounds scales
  rcases le_or_gt (Binary64.product 1 (-1022)) (number * radix.value) with normal | tiny
  · calc scaled ≤ number * radix.value * (1 + 1 / 2 ^ 53) := (rounds.close normal).1
      _ ≤ (1 - 1 / 2 ^ 53) * radix.value * (1 + 1 / 2 ^ 53) := by gcongr
      _ < radix.value := by
          norm_num
          linarith
  · have kept := rounds.at_most (by norm_num) (by norm_num) tiny.le
    linarith [least_normal_le_one]

theorem fraction_digits_digits (radix : Radix) (cap : Nat) (exactly : IsExactly value number)
    (below : number < 1) : ∀ char ∈ fractionDigits radix cap value, IsDigit radix char := by
  induction cap generalizing value number with
  | zero => simp [fractionDigits]
  | succ cap induction =>
      obtain ⟨scaled, limited, scales⟩ := scaled_below radix exactly below
      have rest := induction scales.fraction (fraction_lt_one scaled)
      have digit : wholePart (value * radix.toFloat) < radix.value := by
        rw [scales.whole_part]
        exact (Nat.floor_lt scales.nonneg).mpr limited
      rw [fractionDigits]
      split
      · simp
      · intro char member
        rcases List.mem_cons.mp member with rfl | member
        · exact ⟨_, digit, rfl⟩
        · exact rest char member

theorem write_nan (nan : value.isNaN = true) (base cap : Int) :
    write value base cap = .ok "nan" := by
  rw [write, if_pos nan]

theorem write_infinite (number : value.isNaN = false) (infinite : value.isInf = true)
    (base cap : Int) : write value base cap = .ok "inf" := by
  rw [write, if_neg (Bool.eq_false_iff.mp number), if_pos infinite]

theorem write_magnitude (radix : Radix) (cap : Int) (number : value.isNaN = false)
    (bounded : value.isInf = false) (nonneg : ¬ value < 0.0) :
    write value radix.value cap = .ok (String.ofList (magnitudeText radix cap.toNat value)) := by
  rw [write, number, bounded, radix.require_value]
  simp only [Bool.false_eq_true, if_false, finiteText, if_neg nonneg]
  rfl

theorem write_negative (radix : Radix) (cap : Int) (number : value.isNaN = false)
    (bounded : value.isInf = false) (below : value < 0.0) :
    write value radix.value cap =
      .ok (String.ofList ('-' :: magnitudeText radix cap.toNat (-value))) := by
  rw [write, number, bounded, radix.require_value]
  simp only [Bool.false_eq_true, if_false, finiteText, if_pos below]
  rfl

theorem write_exactly (radix : Radix) (cap : Int) (exactly : IsExactly value number) :
    write value radix.value cap = .ok (String.ofList (magnitudeText radix cap.toNat value)) :=
  write_magnitude radix cap exactly.not_nan exactly.not_infinite exactly.not_negative

/-- The zero below zero is written like the other one. -/
theorem magnitude_text_negative_zero (radix : Radix) (cap : Nat) :
    magnitudeText radix cap (-zeroValue) = wholeText radix 0 := by
  have whole : wholePart (-zeroValue) = 0 := by decide +kernel
  have nothing : (-zeroValue - Float.ofNat 0 == 0.0) = true := by decide +kernel
  have fraction : fractionDigits radix cap (-zeroValue - Float.ofNat 0) = [] := by
    cases cap with
    | zero => rfl
    | succ cap => rw [fractionDigits, if_pos nothing]
  rw [magnitudeText]
  simp only [whole, fraction]

/-- The characters of a value without a sign are digits of the base, but for one point. -/
theorem magnitude_text_digits (radix : Radix) (cap : Nat) (exactly : IsExactly value number) :
    ∀ char ∈ magnitudeText radix cap value, char = '.' ∨ IsDigit radix char := by
  have whole := whole_text_digits radix (wholePart value)
  have fraction := fraction_digits_digits radix cap exactly.fraction (fraction_lt_one number)
  intro char member
  rw [magnitudeText] at member
  split at member
  · exact Or.inr (whole char member)
  · rcases List.mem_append.mp member with inside | behind
    · exact Or.inr (whole char inside)
    · rcases List.mem_cons.mp behind with point | inside
      · exact Or.inl point
      · exact Or.inr (fraction char inside)

/-- Digits with a point in front of the last of them are read as a whole part and a fraction. -/
theorem read_digits_point {whole fraction : List Char} (wholePointless : '.' ∉ whole)
    (fractionPointless : '.' ∉ fraction) :
    readDigits radix (whole ++ '.' :: fraction) =
      (addWhole radix 1.0 0.0 whole.reverse).bind fun total =>
        addFraction radix (1.0 / radix.toFloat) total fraction := by
  have single : (whole ++ '.' :: fraction).count '.' = 1 := by
    rw [List.count_append, List.count_cons_self, List.count_eq_zero.mpr wholePointless,
      List.count_eq_zero.mpr fractionPointless]
  have passed : ∀ char ∈ whole, (char != '.') = true := by
    intro char member
    simpa using ne_of_mem_of_not_mem member wholePointless
  rw [readDigits, single, List.takeWhile_append_of_pos passed, List.dropWhile_append_of_pos passed]
  simp only [List.takeWhile_cons_of_neg, List.dropWhile_cons_of_neg, bne_self_eq_false,
    Bool.false_eq_true, not_false_iff, List.append_nil, List.drop_one, List.tail_cons]
  rfl

/-- What is written for a value without a sign is read as the sum of its whole digits, to which the
digits of its fraction are added. -/
theorem read_magnitude_text (radix : Radix) (cap : Nat) (exactly : IsExactly value number)
    (notNan : String.ofList (magnitudeText radix cap value) ≠ "nan")
    (notInf : String.ofList (magnitudeText radix cap value) ≠ "inf") :
    read (String.ofList (magnitudeText radix cap value)) radix.value =
      Stop.ofChecked ((addWhole radix 1.0 0.0 (wholeText radix (wholePart value)).reverse).bind
        fun total => addFraction radix (1.0 / radix.toFloat) total
          (fractionDigits radix cap (value - Float.ofNat (wholePart value)))) := by
  have whole : '.' ∉ wholeText radix (wholePart value) := by
    intro member
    exact (whole_text_digits radix _ '.' member).not_point rfl
  have fraction : '.' ∉ fractionDigits radix cap (value - Float.ofNat (wholePart value)) := by
    intro member
    exact (fraction_digits_digits radix cap exactly.fraction (fraction_lt_one number) '.'
      member).not_point rfl
  rw [read_by_digits radix notNan notInf, String.toList_ofList,
    fold_case_written fun char member =>
      (magnitude_text_digits radix cap exactly char member).imp_left (by rintro rfl; simp),
    magnitudeText]
  cases digits : fractionDigits radix cap (value - Float.ofNat (wholePart value)) with
  | nil =>
      rw [read_digits_pointless radix whole]
      cases addWhole radix 1.0 0.0 (wholeText radix (wholePart value)).reverse <;> rfl
  | cons first rest =>
      rw [digits] at fraction
      exact congrArg Stop.ofChecked (read_digits_point whole fraction)

end Numeral

end RadixCalc
