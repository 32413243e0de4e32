import RadixCalc.Proofs.Numeral.Accepted
import RadixCalc.Proofs.Numeral.Spellings

/-!
The form of what is written. A finite value has a sign if it is below zero, whole
digits without a zero in front, and behind a point at most as many digits as the
cap allows. Fewer of them end in a digit that is not zero, because what is left of
a fraction times the base is nothing only when the digit just taken is all of it.
A smaller cap writes the same text and drops the digits that are too many.
-/

namespace RadixCalc.Numeral

open Binary64

variable {radix : Radix} {value : Float} {number : ℚ} {whole fraction : List Char} {cap : Nat}

/-- Digits of a fraction with the point in front; without any there is no point. -/
def pointed : List Char → List Char
  | [] => []
  | first :: rest => '.' :: first :: rest

theorem magnitude_text_pointed (radix : Radix) (cap : Nat) (value : Float) :
    magnitudeText radix cap value = wholeText radix (wholePart value) ++
      pointed (fractionDigits radix cap (value - Float.ofNat (wholePart value))) := by
  rw [magnitudeText]
  cases fractionDigits radix cap (value - Float.ofNat (wholePart value)) with
  | nil => exact (List.append_nil _).symm
  | cons first rest => rfl

def signText (value : Float) : List Char :=
  if value < 0.0 then ['-'] else []

def withoutSign (value : Float) : Float :=
  if value < 0.0 then -value else value

def writtenWhole (radix : Radix) (value : Float) : List Char :=
  wholeText radix (wholePart (withoutSign value))

def writtenFraction (radix : Radix) (cap : Nat) (value : Float) : List Char :=
  fractionDigits radix cap
    (withoutSign value - Float.ofNat (wholePart (withoutSign value)))

theorem finite_text_parts (radix : Radix) (cap : Nat) (value : Float) :
    finiteText radix cap value =
      signText value ++ writtenWhole radix value ++ pointed (writtenFraction radix cap value) := by
  unfold finiteText signText writtenWhole writtenFraction withoutSign
  split <;> simp only [magnitude_text_pointed, List.cons_append, List.nil_append]

theorem write_finite (radix : Radix) (cap : Int) (finite : value.isFinite = true) :
    write value radix.value cap = .ok (String.ofList (signText value ++ writtenWhole radix value ++
      pointed (writtenFraction radix cap.toNat value))) := by
  obtain ⟨notNan, notInf⟩ := number_of_finite finite
  rw [write, notNan, notInf, radix.require_value, ← finite_text_parts]
  rfl

section Form

/-- The digits in front of a point and those behind it as they are written with a cap. -/
structure IsWrittenForm (radix : Radix) (cap : Nat) (whole fraction : List Char) : Prop where
  digits : ∀ char ∈ whole ++ fraction, IsDigit radix char
  filled : whole ≠ []
  leads : whole = ['0'] ∨ whole.head? ≠ some '0'
  bounded : fraction.length ≤ cap
  ends : fraction.length < cap → fraction.getLast? ≠ some '0'

theorem digit_char_zero : ∀ value < 62, digitChar value = '0' → value = 0 := by
  decide

theorem digit_char_lower : ∀ value < 36, (digitChar value).isUpper = false := by
  decide

theorem whole_digits_head (radix : Radix) (number : Nat) :
    (wholeDigits radix number []).head? ≠ some '0' := by
  induction number using Nat.strongRecOn with
  | ind number induction =>
      rcases Nat.eq_zero_or_pos number with rfl | positive
      · simp [whole_digits_zero]
      have limit := radix.le_max
      rw [whole_digits_step radix positive]
      rcases Nat.eq_zero_or_pos (number / radix.value) with last | more
      · have single : number < radix.value := (Nat.div_eq_zero_iff_lt radix.pos).mp last
        rw [last, whole_digits_zero, Nat.mod_eq_of_lt single]
        intro zero
        have nothing := digit_char_zero number (by omega) (Option.some.inj zero)
        omega
      · rw [List.head?_append_of_ne_nil _ (whole_digits_nonempty radix more)]
        exact induction _ (Nat.div_lt_self positive radix.two_le)

theorem whole_text_leads (radix : Radix) (number : Nat) :
    wholeText radix number = ['0'] ∨ (wholeText radix number).head? ≠ some '0' := by
  rcases whole_text_cases radix number with ⟨-, same⟩ | ⟨-, same⟩
  · exact Or.inl same
  · right
    rw [same]
    exact whole_digits_head radix number

theorem whole_text_value (radix : Radix) (number : Nat) :
    Nat.ofDigits radix.value ((wholeText radix number).filterMap digitOf?).reverse = number := by
  rcases whole_text_cases radix number with ⟨rfl, same⟩ | ⟨-, same⟩
  · have zero : ['0'].filterMap digitOf? = [0] := by decide
    rw [same, zero]
    rfl
  · rw [same, whole_digits_eq, digits_of_chars (digits_listed radix number), List.reverse_reverse,
      Nat.ofDigits_digits]

/-- A product with the base is not rounded below what it was. -/
theorem le_scaled (radix : Radix) (exactly : IsExactly value number) {scaled : ℚ}
    (scales : IsExactly (value * radix.toFloat) scaled) : number ≤ scaled := by
  have base : (1 : ℚ) ≤ radix.value := by exact_mod_cast radix.pos
  have rounds := (exactly.mul_rounded (radix_exactly radix)).rounds scales
  exact rounds.ge_of_representable exactly.representable
    (le_mul_of_one_le_right exactly.nonneg base)

/-- A digit that is all of the product is not zero. -/
theorem whole_product_ne_zero (radix : Radix) (exactly : IsExactly value number)
    (something : ¬ (value == 0.0) = true) {scaled : ℚ} (limited : scaled < radix.value)
    (scales : IsExactly (value * radix.toFloat) scaled) (all : scaled = ⌊scaled⌋₊) :
    digitChar (wholePart (value * radix.toFloat)) ≠ '0' := by
  have small : ⌊scaled⌋₊ < radix.value := (Nat.floor_lt scales.nonneg).mpr limited
  have limit := radix.le_max
  rw [scales.whole_part]
  intro zero
  have none : ⌊scaled⌋₊ = 0 := digit_char_zero _ (by omega) zero
  rw [none, Nat.cast_zero] at all
  have vanished : number = 0 :=
    le_antisymm ((le_scaled radix exactly scales).trans_eq all) exactly.nonneg
  rw [vanished] at exactly
  rw [exactly.unique IsExactly.zero] at something
  exact something (by decide +kernel)

/-- Digits of a fraction stop before the cap only behind a digit that is not zero. -/
theorem fraction_digits_last (radix : Radix) (cap : Nat) (exactly : IsExactly value number)
    (below : number < 1) (short : (fractionDigits radix cap value).length < cap) :
    (fractionDigits radix cap value).getLast? ≠ some '0' := by
  induction cap generalizing value number with
  | zero => omega
  | succ cap induction =>
      rw [fractionDigits] at short ⊢
      split at short
      · rename_i nothing
        simp [nothing]
      rename_i something
      obtain ⟨scaled, limited, scales⟩ := scaled_below radix exactly below
      have later := induction scales.fraction (fraction_lt_one scaled)
      have ended := fraction_digits_nil_iff radix cap scales.fraction
      rw [if_neg something]
      simp only at short ⊢
      cases digits : fractionDigits radix cap
          (value * radix.toFloat - Float.ofNat (wholePart (value * radix.toFloat))) with
      | cons second rest =>
          rw [digits] at later short
          rw [List.getLast?_cons_cons]
          exact later (by simpa using short)
      | nil =>
          -- There is room for more digits, so nothing is left of the product.
          rw [digits] at short
          have room : cap ≠ 0 := by
            rintro rfl
            simp at short
          have all := sub_eq_zero.mp ((ended.mp digits).resolve_left room)
          intro zero
          exact whole_product_ne_zero radix exactly something limited scales all
            (Option.some.inj zero)

theorem fraction_digits_form (radix : Radix) (cap : Nat) (exactly : IsExactly value number)
    (below : number < 1) (whole : Nat) :
    IsWrittenForm radix cap (wholeText radix whole) (fractionDigits radix cap value) where
  digits := by
    intro char member
    rcases List.mem_append.mp member with before | behind
    · exact whole_text_digits radix _ char before
    · exact fraction_digits_digits radix cap exactly below char behind
  filled := whole_text_nonempty radix _
  leads := whole_text_leads radix _
  bounded := fraction_digits_length_le radix cap _
  ends := fraction_digits_last radix cap exactly below

theorem written_form (radix : Radix) (cap : Nat) (finite : value.isFinite = true) :
    IsWrittenForm radix cap (writtenWhole radix value) (writtenFraction radix cap value) := by
  obtain ⟨notNan, notInf⟩ := number_of_finite finite
  unfold writtenWhole writtenFraction withoutSign
  rcases exactly_cases notNan notInf with ⟨number, exactly⟩ | rfl | ⟨below, number, exactly⟩
  · rw [if_neg exactly.not_negative]
    exact fraction_digits_form radix cap exactly.fraction (fraction_lt_one number) _
  · -- The fraction of the zero below zero is again a zero.
    have nonneg : ¬ -zeroValue < 0.0 := by decide +kernel
    have nothing : -zeroValue - Float.ofNat (wholePart (-zeroValue)) = -zeroValue := by
      decide +kernel
    have zero : fractionDigits radix cap (-zeroValue) = fractionDigits radix cap zeroValue := by
      cases cap with
      | zero => rfl
      | succ cap => rw [fractionDigits, fractionDigits, if_pos (by decide +kernel),
          if_pos (by decide +kernel)]
    rw [if_neg nonneg, nothing, zero]
    exact fraction_digits_form radix cap IsExactly.zero zero_lt_one _
  · rw [if_pos below]
    exact fraction_digits_form radix cap exactly.fraction (fraction_lt_one number) _

namespace IsWrittenForm

/-- Up to base 36 there are no capitals. -/
theorem lower (form : IsWrittenForm radix cap whole fraction) (folded : radix.value ≤ 36) :
    ∀ char ∈ whole ++ fraction, char.isUpper = false := by
  intro char member
  obtain ⟨value, below, rfl⟩ := form.digits char member
  exact digit_char_lower value (by omega)

theorem pointless (form : IsWrittenForm radix cap whole fraction) : '.' ∉ whole ++ fraction := by
  intro member
  exact (form.digits '.' member).not_point rfl

theorem reads (form : IsWrittenForm radix cap whole fraction) :
    ∃ result, read (String.ofList (whole ++ pointed fraction)) radix.value = .ok result := by
  have digits : ∀ char ∈ whole ++ pointed fraction, char ≠ '.' → IsDigit radix char := by
    intro char member digit
    apply form.digits char
    cases fraction with
    | nil => exact member
    | cons first rest => simpa [pointed, digit] using member
  have points : (whole ++ pointed fraction).count '.' ≤ 1 := by
    have none := List.count_eq_zero.mpr form.pointless
    rw [List.count_append] at none ⊢
    cases fraction with
    | nil => simp only [pointed, List.count_nil]; omega
    | cons first rest => rw [pointed, List.count_cons_self]; omega
  have folded : foldCase radix.value (whole ++ pointed fraction) = whole ++ pointed fraction := by
    apply fold_case_written
    intro char member
    by_cases point : char = '.'
    · exact Or.inl (by simp [point])
    · exact Or.inr (digits char member point)
  refine read_ok_iff.mpr (Or.inr (Or.inr ?_))
  rw [String.toList_ofList, folded]
  refine ⟨points, fun char member digit => ?_⟩
  obtain ⟨value, below, rfl⟩ := digits char member digit
  exact ⟨value, digit_in_written below⟩

end IsWrittenForm

/-- Every finite value is written in this form, with a sign exactly if it is below zero and with the
digits of its whole part, and what is written without a sign is read as a number. -/
theorem write_form (radix : Radix) (cap : Int) (finite : value.isFinite = true) :
    ∃ text whole fraction, write value radix.value cap = .ok text ∧
      text.toList = (if value < 0.0 then ['-'] else []) ++ whole ++ pointed fraction ∧
      IsWrittenForm radix cap.toNat whole fraction ∧
      Nat.ofDigits radix.value (whole.filterMap digitOf?).reverse =
        wholePart (withoutSign value) ∧
      (radix.value ≤ 36 → ∀ char ∈ whole ++ fraction, char.isUpper = false) ∧
      (¬ value < 0.0 → ∃ result, read text radix.value = .ok result) := by
  have form := written_form radix cap.toNat finite
  refine ⟨_, _, _, write_finite radix cap finite, String.toList_ofList, form,
    whole_text_value radix _, form.lower, ?_⟩
  intro nonneg
  rw [signText, if_neg nonneg]
  exact form.reads

/-- The largest value below one, in the largest base: its product with the base stays below it. -/
theorem write_form_below_one :
    (Float.ofBits 0x3FEFFFFFFFFFFFFF).isFinite = true ∧
      write (Float.ofBits 0x3FEFFFFFFFFFFFFF) 61 3 = .ok "0.YYY" ∧
      ∃ whole fraction, "0.YYY".toList = whole ++ pointed fraction ∧
        IsWrittenForm ⟨61, by decide, by decide⟩ 3 whole fraction ∧
        ∃ result, read "0.YYY" 61 = .ok result := by
  have finite : (Float.ofBits 0x3FEFFFFFFFFFFFFF).isFinite = true := by decide +kernel
  have nonneg : ¬ Float.ofBits 0x3FEFFFFFFFFFFFFF < 0.0 := by decide +kernel
  have shown : write (Float.ofBits 0x3FEFFFFFFFFFFFFF) 61 3 = .ok "0.YYY" := by decide +kernel
  obtain ⟨text, whole, fraction, written, parts, form, -, -, reads⟩ :=
    write_form ⟨61, by decide, by decide⟩ 3 finite
  obtain rfl := Except.ok.inj (written.symm.trans shown)
  rw [if_neg nonneg, List.nil_append] at parts
  exact ⟨finite, shown, whole, fraction, parts, form, reads nonneg⟩

end Form

section Caps

theorem fraction_digits_take {few many : Nat} (ordered : few ≤ many) (fraction : Float) :
    fractionDigits radix few fraction = (fractionDigits radix many fraction).take few := by
  induction few generalizing many fraction with
  | zero => rfl
  | succ few induction =>
      obtain ⟨many, rfl⟩ := Nat.exists_eq_succ_of_ne_zero (by omega : many ≠ 0)
      rw [fractionDigits, fractionDigits]
      split
      · rfl
      · exact congrArg (_ :: ·) (induction (by omega) _)

/-- The text with at most so many characters behind its point, and without the point if there are
none. -/
def cutFraction (cap : Nat) (text : List Char) : List Char :=
  text.takeWhile (· != '.') ++ pointed (((text.dropWhile (· != '.')).drop 1).take cap)

theorem cut_fraction_pointed {front : List Char} (pointless : '.' ∉ front) (cap : Nat)
    (fraction : List Char) :
    cutFraction cap (front ++ pointed fraction) = front ++ pointed (fraction.take cap) := by
  have passed : ∀ char ∈ front, (char != '.') = true := by
    intro char member
    simpa using ne_of_mem_of_not_mem member pointless
  rw [cutFraction, List.takeWhile_append_of_pos passed, List.dropWhile_append_of_pos passed]
  cases fraction with
  | nil => simp [pointed]
  | cons first rest => simp [pointed]

theorem front_pointless (radix : Radix) (value : Float) :
    '.' ∉ signText value ++ writtenWhole radix value := by
  rw [List.mem_append]
  rintro (sign | whole)
  · unfold signText at sign
    split at sign <;> simp at sign
  · exact (whole_text_digits radix _ '.' whole).not_point rfl

/-- With a smaller cap the same text is written, cut off behind so many digits of the fraction. -/
theorem write_cut_off (radix : Radix) {few many : Int} (ordered : few ≤ many) (value : Float) :
    ∃ text, write value radix.value many = .ok text ∧
      write value radix.value few = .ok (String.ofList (cutFraction few.toNat text.toList)) := by
  rcases finite_nan_or_infinite value with
      ⟨finite, -⟩ | ⟨-, nan, -⟩ | ⟨-, number, infinite⟩
  · refine ⟨_, write_finite radix many finite, ?_⟩
    rw [write_finite radix few finite, String.toList_ofList,
      cut_fraction_pointed (front_pointless radix value), writtenFraction, writtenFraction,
      fraction_digits_take (Int.toNat_le_toNat ordered)]
  · have whole := cut_fraction_pointed (by decide : '.' ∉ "nan".toList) few.toNat []
    rw [List.take_nil, pointed, List.append_nil] at whole
    refine ⟨"nan", write_nan nan _ _, ?_⟩
    rw [write_nan nan, whole, String.ofList_toList]
  · have whole := cut_fraction_pointed (by decide : '.' ∉ "inf".toList) few.toNat []
    rw [List.take_nil, pointed, List.append_nil] at whole
    refine ⟨"inf", write_infinite number infinite _ _, ?_⟩
    rw [write_infinite number infinite, whole, String.ofList_toList]

/-- Without room for a fraction the point goes too, and the sign stays even in front of a zero. -/
theorem write_cut_off_half :
    (0 : Int) ≤ 3 ∧ write (-0.5) 2 3 = .ok "-0.1" ∧ write (-0.5) 2 0 = .ok "-0" := by
  have ordered : (0 : Int) ≤ 3 := by decide
  have half : write (-0.5) 2 3 = .ok "-0.1" := by decide +kernel
  obtain ⟨text, written, cut⟩ := write_cut_off ⟨2, by decide, by decide⟩ ordered (-0.5)
  obtain rfl := Except.ok.inj (written.symm.trans half)
  exact ⟨ordered, half, cut⟩

end Caps

end RadixCalc.Numeral
