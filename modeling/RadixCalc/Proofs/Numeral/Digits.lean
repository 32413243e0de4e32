import Mathlib.Algebra.Group.Nat.Defs
import RadixCalc.Numeral.Reading
import RadixCalc.Numeral.Writing
import RadixCalc.Proofs.Text.LowerCase

/-!
The digits of whole numbers as characters: which characters they are, that they
stay the same in a reading that folds case, and how many of them there are.
-/

namespace RadixCalc

theorem Radix.require_value (radix : Radix) : Radix.require radix.value = .ok radix := by
  rw [Radix.require, radix.of_int_value]

namespace Numeral

/-- The character is a digit of the base, in the case in which digits are written. -/
def IsDigit (radix : Radix) (char : Char) : Prop :=
  ∃ value < radix.value, char = digitChar value

instance (radix : Radix) (char : Char) : Decidable (IsDigit radix char) :=
  inferInstanceAs (Decidable (∃ value < radix.value, char = digitChar value))

theorem IsDigit.listed {radix : Radix} {char : Char} (digit : IsDigit radix char) :
    ∃ value < 62, char = digitChar value := by
  obtain ⟨value, below, rfl⟩ := digit
  have := radix.le_max
  exact ⟨value, by omega, rfl⟩

theorem digit_char_not_point : ∀ value < 62, digitChar value ≠ '.' := by decide

theorem exists_digit_char {char : Char} (listed : char ∈ alphabet) :
    ∃ value < 62, char = digitChar value := by
  obtain ⟨value, below, rfl⟩ := List.mem_iff_getElem.mp listed
  exact ⟨value, below, (List.getElem_eq_getD '0').trans rfl⟩

theorem digit_char_not_sign : ∀ value < 62, digitChar value ≠ '-' := by decide

theorem digit_char_small : ∀ value < 36, Text.IsSmall (digitChar value) := by decide +kernel

variable {radix : Radix} {text : List Char}

theorem digit_in_written {value : Nat} (below : value < radix.value) :
    digitIn radix (digitChar value) = .ok value := by
  have listed : value < 62 := by
    have := radix.le_max
    omega
  rw [digitIn, digit_of_digit_char value listed]
  exact if_pos below

theorem IsDigit.not_point {char : Char} (digit : IsDigit radix char) : char ≠ '.' := by
  obtain ⟨value, listed, rfl⟩ := digit.listed
  exact digit_char_not_point value listed

/-- Folding case leaves what is written as it is: digits of the base, points and signs. -/
theorem fold_case_written
    (written : ∀ char ∈ text, char ∈ ['.', '-'] ∨ IsDigit radix char) :
    foldCase radix.value text = text := by
  unfold foldCase
  split
  · rename_i folded
    apply Text.lower_case_from_small
    intro char member
    rcases written char member with mark | ⟨value, below, rfl⟩
    · have small : Text.IsSmall '.' ∧ Text.IsSmall '-' := by decide +kernel
      simp only [List.mem_cons, List.not_mem_nil, or_false] at mark
      rcases mark with rfl | rfl
      · exact small.1
      · exact small.2
    · have limit : (radix.value : Int) ≤ 36 := folded
      exact digit_char_small value (by omega)
  · rfl

theorem fold_case_digits (digits : ∀ char ∈ text, IsDigit radix char) :
    foldCase radix.value text = text :=
  fold_case_written fun char member => Or.inr (digits char member)

theorem is_digit_text_folded {text : String}
    (digits : ∀ char ∈ foldCase radix.value text.toList, IsDigit radix char)
    (filled : foldCase radix.value text.toList ≠ []) :
    isDigitText text radix.value = true := by
  have bounded := radix.le_max
  have begun : (!(foldCase radix.value text.toList).isEmpty) = true := by simpa using filled
  simp only [isDigitText, begun, Bool.true_and, List.all_eq_true]
  intro char member
  obtain ⟨value, below, rfl⟩ := digits char member
  rw [digit_of_digit_char value (by omega)]
  simpa using below

theorem is_digit_text_digits (digits : ∀ char ∈ text, IsDigit radix char)
    (filled : text ≠ []) : isDigitText (String.ofList text) radix.value = true := by
  apply is_digit_text_folded
  · rw [String.toList_ofList, fold_case_digits digits]
    exact digits
  · rw [String.toList_ofList, fold_case_digits digits]
    exact filled

section WholeDigits

theorem whole_digits_step (radix : Radix) {number : Nat} (positive : 0 < number) :
    wholeDigits radix number [] =
      wholeDigits radix (number / radix.value) [] ++ [digitChar (number % radix.value)] := by
  rw [wholeDigits.eq_def, if_neg (Nat.ne_of_gt positive), whole_digits_eq_append]

theorem whole_digits_zero (radix : Radix) : wholeDigits radix 0 [] = [] := by
  rw [wholeDigits.eq_def, if_pos rfl]

theorem whole_digits_are_digits (radix : Radix) (number : Nat) :
    ∀ char ∈ wholeDigits radix number [], IsDigit radix char := by
  induction number using Nat.strongRecOn with
  | ind number induction =>
      rcases Nat.eq_zero_or_pos number with rfl | positive
      · simp [whole_digits_zero]
      · rw [whole_digits_step radix positive]
        intro char member
        rcases List.mem_append.mp member with before | last
        · exact induction _ (Nat.div_lt_self positive radix.two_le) char before
        · obtain rfl := List.mem_singleton.mp last
          exact ⟨_, Nat.mod_lt _ radix.pos, rfl⟩

theorem whole_digits_length (radix : Radix) {number bits : Nat} (bounded : number < 2 ^ bits) :
    (wholeDigits radix number []).length ≤ bits := by
  induction bits generalizing number with
  | zero =>
      obtain rfl : number = 0 := by omega
      simp [whole_digits_zero]
  | succ bits induction =>
      rcases Nat.eq_zero_or_pos number with rfl | positive
      · simp [whole_digits_zero]
      · have halved : number / radix.value ≤ number / 2 :=
          Nat.div_le_div_left radix.two_le (by omega)
        have shorter : (wholeDigits radix (number / radix.value) []).length ≤ bits :=
          induction (by omega)
        rw [whole_digits_step radix positive, List.length_append]
        simpa using shorter

theorem whole_digits_nonempty (radix : Radix) {number : Nat} (positive : 0 < number) :
    wholeDigits radix number [] ≠ [] := by
  rw [whole_digits_step radix positive]
  simp

end WholeDigits

section WholeText

theorem whole_text_cases (radix : Radix) (number : Nat) :
    (number = 0 ∧ wholeText radix number = ['0']) ∨
      (0 < number ∧ wholeText radix number = wholeDigits radix number []) := by
  rcases Nat.eq_zero_or_pos number with rfl | positive
  · left
    simp [wholeText, whole_digits_zero]
  · right
    refine ⟨positive, ?_⟩
    unfold wholeText
    split
    · rename_i empty
      exact absurd empty (whole_digits_nonempty radix positive)
    · rfl

theorem whole_text_digits (radix : Radix) (number : Nat) :
    ∀ char ∈ wholeText radix number, IsDigit radix char := by
  rcases whole_text_cases radix number with ⟨-, same⟩ | ⟨-, same⟩
  · rw [same]
    intro char member
    exact ⟨0, radix.pos, List.mem_singleton.mp member⟩
  · rw [same]
    exact whole_digits_are_digits radix number

theorem whole_text_nonempty (radix : Radix) (number : Nat) : wholeText radix number ≠ [] := by
  rcases whole_text_cases radix number with ⟨-, same⟩ | ⟨positive, same⟩
  · simp [same]
  · rw [same]
    exact whole_digits_nonempty radix positive

theorem whole_text_length (radix : Radix) {number bits : Nat} (bounded : number < 2 ^ bits)
    (some : 0 < bits) : (wholeText radix number).length ≤ bits := by
  rcases whole_text_cases radix number with ⟨-, same⟩ | ⟨-, same⟩
  · rw [same]
    exact some
  · rw [same]
    exact whole_digits_length radix bounded

end WholeText

end Numeral

end RadixCalc
