import RadixCalc.Proofs.Numeral.Written

/-!
Whole numbers up to 2^53 are written without loss. The weight of each digit that
is there is at most the number itself, so every product and every sum that adds
the digits up is exact. Only the weight behind the last digit may be rounded,
and nothing is multiplied by it.
-/

namespace RadixCalc.Numeral

open Binary64

variable {radix : Radix} {number : Nat}

/-- The fraction of a whole number is zero, so no digit of it is written. -/
theorem fraction_digits_zero (radix : Radix) (cap : Nat) :
    fractionDigits radix cap zeroValue = [] := by
  cases cap with
  | zero => rfl
  | succ cap =>
      have nothing : (zeroValue == 0.0) = true := by decide
      rw [fractionDigits, if_pos nothing]

theorem magnitude_text_of_nat (radix : Radix) (cap : Nat) (bounded : number ≤ 2 ^ 53) :
    magnitudeText radix cap (Float.ofNat number) = wholeText radix number := by
  have exactly := of_nat_bounded bounded
  rw [magnitudeText, exactly.whole_part, Nat.floor_natCast]
  simp only [exactly.sub_same, fraction_digits_zero]

theorem write_of_nat (radix : Radix) (cap : Int) (bounded : number ≤ 2 ^ 53) :
    write (Float.ofNat number) radix.value cap = .ok (String.ofList (wholeText radix number)) := by
  rw [write_exactly radix cap (of_nat_bounded bounded), magnitude_text_of_nat radix _ bounded]

/-- One more digit is added to those below it. -/
theorem sum_next (radix : Radix) (number places : Nat) :
    number % radix.value ^ (places + 1) = number % radix.value ^ places +
      number / radix.value ^ places % radix.value * radix.value ^ places := by
  rw [pow_succ, Nat.mod_mul, Nat.mul_comm (radix.value ^ places)]

section Adding

/-! What holds before the digits of a number are added and is kept by each holds at the end. -/

variable {keeps : Nat → Float → Float → Prop}
  (step : ∀ {places : Nat} {weight total : Float}, radix.value ^ places ≤ number →
    keeps places weight total →
      keeps (places + 1) (weight * radix.toFloat)
        (total + Float.ofNat (number / radix.value ^ places % radix.value) * weight))

include step

theorem add_whole_digits (rest : Nat) {places : Nat} {weight total : Float}
    (left : number / radix.value ^ places = rest) (start : keeps places weight total) :
    ∃ result last lastWeight,
      addWhole radix weight total (wholeDigits radix rest []).reverse = .ok result ∧
        number < radix.value ^ last ∧ keeps last lastWeight result := by
  -- By induction on what is left of the number above the place that has been come to.
  induction rest using Nat.strongRecOn generalizing places weight total with
  | ind rest induction =>
      rcases Nat.eq_zero_or_pos rest with rfl | positive
      · have ended := (Nat.div_eq_zero_iff_lt (Nat.pow_pos radix.pos)).mp left
        rw [whole_digits_zero]
        exact ⟨total, places, weight, rfl, ended, start⟩
      have within : radix.value ^ places ≤ number := by
        rw [← left] at positive
        exact (Nat.div_pos_iff.mp positive).2
      have next : number / radix.value ^ (places + 1) = rest / radix.value := by
        rw [pow_succ, ← Nat.div_div_eq_div_mul, left]
      have digit : rest % radix.value < radix.value := Nat.mod_lt _ radix.pos
      have kept := step within start
      rw [left] at kept
      obtain ⟨result, last, lastWeight, read, ended, holds⟩ :=
        induction _ (Nat.div_lt_self positive radix.two_le) next kept
      refine ⟨result, last, lastWeight, ?_, ended, holds⟩
      rw [whole_digits_step radix positive, List.reverse_append]
      simp only [List.reverse_cons, List.reverse_nil, List.nil_append, List.cons_append]
      rw [addWhole, digit_in_written digit]
      exact read

theorem add_whole_text (start : keeps 0 1.0 0.0) :
    ∃ result last lastWeight,
      addWhole radix 1.0 0.0 (wholeText radix number).reverse = .ok result ∧
        number < radix.value ^ last ∧ keeps last lastWeight result := by
  rcases whole_text_cases radix number with ⟨rfl, same⟩ | ⟨-, same⟩
  · have nothing : (0.0 : Float) + Float.ofNat 0 * 1.0 = 0.0 := by decide +kernel
    have digit : digitIn radix '0' = .ok 0 := digit_in_written radix.pos
    refine ⟨0.0, 0, 1.0, ?_, by simp, start⟩
    rw [same, List.reverse_singleton, addWhole, digit]
    exact congrArg Except.ok nothing
  · rw [same]
    exact add_whole_digits step number (by simp) start

end Adding

section Exact

/-- Everything that comes up while the digits of a number are added has a value of its own. -/
structure AddsUp (radix : Radix) (number : Nat) : Prop where
  weight : ∀ places, radix.value ^ places ≤ number →
    Representable ((radix.value ^ places : Nat) : ℚ)
  term : ∀ places,
    Representable ((number / radix.value ^ places % radix.value * radix.value ^ places : Nat) : ℚ)
  sum : ∀ places, Representable ((number % radix.value ^ places : Nat) : ℚ)

/-- The digits below some place are added exactly, and the next digit, if there is one, is weighed
exactly. -/
structure IsSummed (radix : Radix) (number places : Nat) (weight total : Float) : Prop where
  summed : IsExactly total (number % radix.value ^ places : Nat)
  weighs : radix.value ^ places ≤ number → IsExactly weight (radix.value ^ places : Nat)

theorem is_summed_start (radix : Radix) (number : Nat) : IsSummed radix number 0 1.0 0.0 where
  summed := by
    rw [pow_zero, Nat.mod_one, Nat.cast_zero]
    exact IsExactly.zero
  weighs := fun _ => by
    rw [pow_zero, Nat.cast_one]
    exact one_exactly

theorem AddsUp.step (addsUp : AddsUp radix number) {places : Nat} {weight total : Float}
    (within : radix.value ^ places ≤ number)
    (before : IsSummed radix number places weight total) :
    IsSummed radix number (places + 1) (weight * radix.toFloat)
      (total + Float.ofNat (number / radix.value ^ places % radix.value) * weight) where
  summed := by
    have digitExactly := digit_exactly radix
      (Nat.mod_lt (number / radix.value ^ places) radix.pos)
    have term := addsUp.term places
    have sum := addsUp.sum (places + 1)
    rw [Nat.cast_mul] at term
    rw [sum_next, Nat.cast_add, Nat.cast_mul] at sum ⊢
    exact before.summed.add (digitExactly.mul (before.weighs within) term) sum
  weighs := by
    -- Behind the last digit the weight may be too large to be exact, but nothing follows.
    intro more
    have fits := addsUp.weight (places + 1) more
    rw [pow_succ, Nat.cast_mul] at fits ⊢
    exact (before.weighs within).mul (radix_exactly radix) fits

theorem AddsUp.add_text (addsUp : AddsUp radix number) :
    ∃ result, addWhole radix 1.0 0.0 (wholeText radix number).reverse = .ok result ∧
      IsExactly result number := by
  obtain ⟨result, last, -, added, ended, ⟨summed, -⟩⟩ :=
    add_whole_text addsUp.step (is_summed_start radix number)
  rw [Nat.mod_eq_of_lt ended] at summed
  exact ⟨result, added, summed⟩

/-- Below 2^53 every whole number has a value of its own. -/
theorem adds_up_short (radix : Radix) (bounded : number ≤ 2 ^ 53) : AddsUp radix number where
  weight := fun places within => representable_nat (within.trans bounded)
  term := fun places => by
    have part := sum_next radix number places
    have within := Nat.mod_le number (radix.value ^ (places + 1))
    exact representable_nat (((Nat.le_add_left _ _).trans_eq part.symm).trans
      (within.trans bounded))
  sum := fun places => representable_nat ((Nat.mod_le _ _).trans bounded)

end Exact

/-- What is written for a whole number reads back as its value, unless it spells a value without
digits. -/
theorem read_whole_text (radix : Radix) (bounded : number ≤ 2 ^ 53)
    (notNan : String.ofList (wholeText radix number) ≠ "nan")
    (notInf : String.ofList (wholeText radix number) ≠ "inf") :
    read (String.ofList (wholeText radix number)) radix.value = .ok (Float.ofNat number) := by
  have digits := whole_text_digits radix number
  have pointless : '.' ∉ wholeText radix number := by
    intro member
    exact (digits '.' member).not_point rfl
  obtain ⟨result, added, exactly⟩ := (adds_up_short radix bounded).add_text
  obtain rfl := exactly.unique (of_nat_bounded bounded)
  have summed : readDigits radix (wholeText radix number) = .ok (Float.ofNat number) := by
    rw [read_digits_pointless radix pointless, added]
  rw [read_by_digits radix notNan notInf, String.toList_ofList, fold_case_digits digits, summed,
    Stop.ofChecked]

end RadixCalc.Numeral
