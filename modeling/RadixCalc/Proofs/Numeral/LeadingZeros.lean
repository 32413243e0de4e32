import RadixCalc.Proofs.Numeral.Accepted
import RadixCalc.Proofs.Numeral.Weights

/-!
Zeros in front of a number. Each of them adds zero times its weight. That is
nothing while the weight is finite, but zero times an infinite weight is not a
number, and then the whole sum is not one either. So zeros in front leave the
value alone exactly up to the digit whose weight overflows.
-/

namespace RadixCalc.Numeral

open Binary64

variable {radix : Radix}

section Totals

theorem zero_times_infinity : Float.ofNat 0 * infinity = nan := by
  decide +kernel

/-- A digit times a weight has no sign. -/
theorem weighed_digit_unsigned (radix : Radix) {digit : Nat} (below : digit < radix.value)
    (places : Nat) : IsUnsigned (Float.ofNat digit * placeWeight radix places) := by
  have digitExactly := digit_exactly radix below
  rcases place_weight_cases radix places with ⟨number, exactly⟩ | infinite
  · exact (digitExactly.mul_rounded exactly).unsigned
  · rw [infinite]
    rcases Nat.eq_zero_or_pos digit with rfl | positive
    · rw [zero_times_infinity]
      exact Or.inl rfl
    · rw [mul_infinity digitExactly (by exact_mod_cast positive)]
      exact infinity_unsigned

theorem digit_in_below {char : Char} {digit : Nat} (found : digitIn radix char = .ok digit) :
    digit < radix.value := by
  unfold digitIn at found
  split at found
  · split at found
    · cases found
      assumption
    · cases found
  · cases found

theorem add_whole_unsigned (places : Nat) {total result : Float} {text : List Char}
    (unsigned : IsUnsigned total)
    (added : addWhole radix (placeWeight radix places) total text = .ok result) :
    IsUnsigned result := by
  induction text generalizing places total with
  | nil =>
      cases added
      exact unsigned
  | cons char rest induction =>
      rw [addWhole] at added
      cases found : digitIn radix char with
      | error fault =>
          rw [found] at added
          cases added
      | ok digit =>
          rw [found] at added
          have weighed := weighed_digit_unsigned radix (digit_in_below found) places
          exact induction (places + 1) (unsigned.add weighed) added

theorem add_fraction_nan (weight total : Float) (text : List Char) :
    addFraction radix weight nan text =
      (addFraction radix weight total text).map fun _ => nan := by
  induction text generalizing weight total with
  | nil => rfl
  | cons char rest induction =>
      rw [addFraction, addFraction]
      cases digitIn radix char with
      | error fault => rfl
      | ok digit =>
          have kept : nan + Float.ofNat digit * weight = nan := by
            rw [value_add_comm, add_nan]
          simp only [bind, Except.bind, kept]
          exact induction _ _

end Totals

section Zeros

/-- So many zeros can stand in front of so many whole digits before a weight overflows. -/
def ZerosFit (radix : Radix) (places zeros : Nat) : Prop :=
  zeros = 0 ∨ radix.value ^ (places + zeros - 1) < valueLimit

instance (radix : Radix) (places zeros : Nat) : Decidable (ZerosFit radix places zeros) :=
  inferInstanceAs (Decidable (_ ∨ _))

theorem zeros_fit_next (radix : Radix) (places zeros : Nat) :
    ZerosFit radix places (zeros + 1) ↔
      radix.value ^ places < valueLimit ∧ ZerosFit radix (places + 1) zeros := by
  have last : places + (zeros + 1) - 1 = places + zeros := by omega
  have next : places + 1 + zeros - 1 = places + zeros := by omega
  rw [ZerosFit, ZerosFit, last, next]
  constructor
  · rintro (none | small)
    · omega
    · have before := Nat.pow_le_pow_right radix.pos (Nat.le_add_right places zeros)
      exact ⟨before.trans_lt small, Or.inr small⟩
  · rintro ⟨first, rfl | small⟩
    · exact Or.inr first
    · exact Or.inr small

theorem add_zero_digit {places : Nat} {total : Float} (unsigned : IsUnsigned total)
    (rest : List Char) :
    addWhole radix (placeWeight radix places) total ('0' :: rest) =
      addWhole radix (placeWeight radix (places + 1))
        (if radix.value ^ places < valueLimit then total else nan) rest := by
  have digit : digitIn radix '0' = .ok 0 := digit_in_written radix.pos
  have added : total + Float.ofNat 0 * placeWeight radix places =
      if radix.value ^ places < valueLimit then total else nan := by
    split
    · rename_i small
      exact add_weighed_zero small unsigned
    · rename_i large
      rw [place_weight_infinity (not_lt.mp large), zero_times_infinity, add_nan]
  rw [addWhole, digit, ← added]
  rfl

theorem add_zero_digits (radix : Radix) (places zeros : Nat) {total : Float}
    (unsigned : IsUnsigned total) :
    addWhole radix (placeWeight radix places) total (List.replicate zeros '0') =
      .ok (if ZerosFit radix places zeros then total else nan) := by
  induction zeros generalizing places total with
  | zero =>
      have none : ZerosFit radix places 0 := Or.inl rfl
      rw [if_pos none]
      rfl
  | succ zeros induction =>
      rw [List.replicate_succ, add_zero_digit unsigned]
      by_cases small : radix.value ^ places < valueLimit
      · rw [if_pos small, induction _ unsigned]
        simp only [zeros_fit_next, small, true_and]
      · have nothing : IsUnsigned nan := Or.inl rfl
        rw [if_neg small, induction _ nothing]
        simp only [zeros_fit_next, small, false_and, if_false, ite_self]

theorem read_digits_zeros (radix : Radix) (zeros : Nat) (text : List Char) :
    readDigits radix (List.replicate zeros '0' ++ text) =
      (readDigits radix text).map fun value =>
        if ZerosFit radix (text.takeWhile (· != '.')).length zeros then value else nan := by
  have points : (List.replicate zeros '0' ++ text).count '.' = text.count '.' := by
    simp [List.count_append, List.count_replicate]
  have passed : ∀ char ∈ List.replicate zeros '0', (char != '.') = true := by
    intro char member
    rw [(List.mem_replicate.mp member).2]
    rfl
  rw [readDigits, readDigits, points, List.takeWhile_append_of_pos passed,
    List.dropWhile_append_of_pos passed, List.reverse_append, List.reverse_replicate]
  generalize text.takeWhile (· != '.') = whole
  generalize (text.dropWhile (· != '.')).drop 1 = fraction
  split
  · rfl
  -- Zeros in front come last when digits are added, on weights above those of the number.
  have begun : IsUnsigned 0.0 := IsExactly.zero.unsigned
  have parts := add_whole_append radix 0 0.0 whole.reverse (List.replicate zeros '0')
  rw [Nat.zero_add, List.length_reverse] at parts
  change (addWhole radix (placeWeight radix 0) 0.0 (whole.reverse ++ List.replicate zeros '0')).bind
    _ = ((addWhole radix (placeWeight radix 0) 0.0 whole.reverse).bind _).map _
  rw [parts]
  cases summed : addWhole radix (placeWeight radix 0) 0.0 whole.reverse with
  | error fault => rfl
  | ok total =>
      have ended := add_zero_digits radix whole.length zeros (add_whole_unsigned 0 begun summed)
      simp only [bind, Except.bind, ended]
      split
      · cases addFraction radix (1.0 / radix.toFloat) total fraction <;> rfl
      · exact add_fraction_nan _ total fraction

theorem fold_case_zeros (base : Int) (zeros : Nat) (text : List Char) :
    foldCase base (List.replicate zeros '0' ++ text) =
      List.replicate zeros '0' ++ foldCase base text := by
  induction zeros with
  | zero => rfl
  | succ zeros induction =>
      rw [List.replicate_succ, List.cons_append, List.cons_append, ← induction,
        foldCase, foldCase]
      split
      · exact Text.lower_case_zero _
      · rfl

/-- A zero in front keeps text from spelling a value without digits. -/
theorem zeros_spell_nothing (zeros : Nat) (text : String) {other : String} {first : Char}
    {rest : List Char} (begins : other.toList = first :: rest) (different : first ≠ '0') :
    String.ofList (List.replicate (zeros + 1) '0') ++ text ≠ other := by
  intro same
  have chars := congrArg String.toList same
  rw [String.toList_append, String.toList_ofList, begins, List.replicate_succ,
    List.cons_append, List.cons.injEq] at chars
  exact different chars.1.symm

/-- Behind zeros any text is read by its digits. -/
theorem read_zeros (radix : Radix) (zeros : Nat) (text : String) :
    read (String.ofList (List.replicate (zeros + 1) '0') ++ text) radix.value =
      Stop.ofChecked ((readDigits radix (foldCase radix.value text.toList)).map fun value =>
        if ZerosFit radix ((foldCase radix.value text.toList).takeWhile (· != '.')).length
          (zeros + 1) then value else nan) := by
  have notNan := zeros_spell_nothing zeros text (by rfl : "nan".toList = _) (by decide)
  have notInf := zeros_spell_nothing zeros text (by rfl : "inf".toList = _) (by decide)
  rw [read_by_digits radix notNan notInf, String.toList_append, String.toList_ofList,
    fold_case_zeros, read_digits_zeros]

end Zeros

section DigitTexts

variable {text : String}

theorem digit_text_length (digits : isDigitText text radix.value = true) :
    (foldCase radix.value text.toList).length = text.length := by
  have undotted := digit_text_misses digits (by decide +kernel : digitOf? '\u0307' = none)
  rw [← String.length_toList]
  unfold foldCase at undotted ⊢
  split
  · rename_i small
    rw [if_pos small] at undotted
    exact Text.lower_case_from_length false undotted
  · rfl

end DigitTexts

/-- Zeros in front of a number leave its value alone as long as no weight overflows; with more of
them the number reads as NaN. -/
theorem read_leading_zeros (radix : Radix) {text : String}
    (digits : isDigitText text radix.value = true) (notNan : text ≠ "nan")
    (notInf : text ≠ "inf") (zeros : Nat) :
    ∃ value, read text radix.value = .ok value ∧
      read (String.ofList (List.replicate zeros '0') ++ text) radix.value =
        .ok (if zeros = 0 ∨ radix.value ^ (text.length + zeros - 1) < 2 ^ 1024 then value
          else nan) := by
  have pointless := digit_text_pointless digits
  obtain ⟨value, summed⟩ : ∃ value,
      readDigits radix (foldCase radix.value text.toList) = .ok value :=
    read_digits_reads (List.count_eq_zero.mpr pointless ▸ Nat.zero_le 1)
      (fun char member _ => digit_text_folded digits char member)
  have reads : read text radix.value = .ok value := by
    rw [read_by_digits radix notNan notInf, summed, Stop.ofChecked]
  refine ⟨value, reads, ?_⟩
  cases zeros with
  | zero =>
      rw [if_pos (Or.inl rfl)]
      exact (congrArg (read · radix.value) (String.empty_append)).trans reads
  | succ zeros =>
      have whole : (foldCase radix.value text.toList).takeWhile (· != '.') =
          foldCase radix.value text.toList := by
        refine List.takeWhile_eq_self_iff.mpr fun char member => ?_
        simp only [bne_iff_ne]
        rintro rfl
        exact pointless member
      have fits : ZerosFit radix text.length (zeros + 1) ↔
          zeros + 1 = 0 ∨ radix.value ^ (text.length + (zeros + 1) - 1) < 2 ^ 1024 := by
        rw [ZerosFit, value_limit]
      rw [read_zeros radix, summed, whole, digit_text_length digits]
      exact congrArg Except.ok (if_congr fits rfl rfl)

/-- The Kelvin sign is a small letter once case is folded, and zeros in front of it are nothing. -/
theorem read_leading_zeros_folded :
    isDigitText "\u212a0" 21 = true ∧ "\u212a0" ≠ "nan" ∧ "\u212a0" ≠ "inf" ∧
      ∃ value, read "\u212a0" 21 = .ok value ∧
        read (String.ofList (List.replicate 200 '0') ++ "\u212a0") 21 = .ok value := by
  have digits : isDigitText "\u212a0" 21 = true := by decide +kernel
  have light : 200 = 0 ∨ 21 ^ ("\u212a0".length + 200 - 1) < 2 ^ 1024 := by decide +kernel
  obtain ⟨value, plain, padded⟩ := read_leading_zeros ⟨21, by decide, by decide⟩ digits
    (by decide) (by decide) 200
  exact ⟨digits, by decide, by decide, value, plain,
    padded.trans (congrArg Except.ok (if_pos light))⟩

/-- In front of a one, 309 zeros leave a finite sum, but the weight of the first is infinite. -/
theorem read_many_zeros :
    isDigitText "1" 10 = true ∧ read "1" 10 = .ok 1.0 ∧
      read (String.ofList (List.replicate 309 '0') ++ "1") 10 = .ok nan := by
  refine ⟨by decide +kernel, by decide +kernel, ?_⟩
  have one : readDigits ⟨10, by decide, by decide⟩ (foldCase 10 "1".toList) = .ok 1.0 := by
    decide +kernel
  have heavy : ¬ ZerosFit ⟨10, by decide, by decide⟩
      ((foldCase 10 "1".toList).takeWhile (· != '.')).length (308 + 1) := by
    rw [ZerosFit, value_limit]
    decide +kernel
  refine (read_zeros ⟨10, by decide, by decide⟩ 308 "1").trans
    ((congrArg (Stop.ofChecked <| Except.map _ ·) one).trans ?_)
  exact congrArg Except.ok (if_neg heavy)

end RadixCalc.Numeral
