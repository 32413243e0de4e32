import Mathlib
import RadixCalc.Proofs.Numeral.Digits

/-!
Which text reads as a number. Digits of the base with at most one point among
them always do. Digits are recognised once case is folded, which up to base 36
turns capitals into small letters one by one.
-/

namespace RadixCalc.Numeral

variable {radix : Radix} {text : List Char}

section Sums

theorem read_digits_pointless (radix : Radix) {text : List Char} (pointless : '.' ∉ text) :
    readDigits radix text = addWhole radix 1.0 0.0 text.reverse := by
  have none : text.count '.' = 0 := List.count_eq_zero.mpr pointless
  have notPoint : ∀ char ∈ text, (char != '.') = true := by
    intro char member
    simp only [bne_iff_ne]
    rintro rfl
    exact pointless member
  have kept : text.takeWhile (· != '.') = text := List.takeWhile_eq_self_iff.mpr notPoint
  have dropped : text.dropWhile (· != '.') = [] := List.dropWhile_eq_nil_iff.mpr notPoint
  rw [readDigits, none, kept, dropped]
  cases addWhole radix 1.0 0.0 text.reverse <;> rfl

theorem read_by_digits (radix : Radix) {text : String} (notNan : text ≠ "nan")
    (notInf : text ≠ "inf") :
    read text radix.value =
      Stop.ofChecked (readDigits radix (foldCase radix.value text.toList)) := by
  rw [read, if_neg notNan, if_neg notInf, radix.require_value]
  rfl

theorem add_whole_reads {text : List Char}
    (digits : ∀ char ∈ text, ∃ digit, digitIn radix char = .ok digit) (weight total : Float) :
    ∃ result, addWhole radix weight total text = .ok result := by
  induction text generalizing weight total with
  | nil => exact ⟨total, rfl⟩
  | cons char rest induction =>
      obtain ⟨digit, found⟩ := digits char (by simp)
      rw [addWhole, found]
      exact induction (by intro other member; exact digits other (by simp [member])) _ _

theorem add_fraction_reads {text : List Char}
    (digits : ∀ char ∈ text, ∃ digit, digitIn radix char = .ok digit) (weight total : Float) :
    ∃ result, addFraction radix weight total text = .ok result := by
  induction text generalizing weight total with
  | nil => exact ⟨total, rfl⟩
  | cons char rest induction =>
      obtain ⟨digit, found⟩ := digits char (by simp)
      rw [addFraction, found]
      exact induction (by intro other member; exact digits other (by simp [member])) _ _

theorem drop_to_point (pointed : '.' ∈ text) :
    ∃ later, text.dropWhile (· != '.') = '.' :: later := by
  cases rest : text.dropWhile (· != '.') with
  | nil => simpa using List.dropWhile_eq_nil_iff.mp rest '.' pointed
  | cons point later =>
      have stopped := List.head?_dropWhile_not (· != '.') text
      rw [rest] at stopped
      obtain rfl : point = '.' := by simpa using stopped
      exact ⟨later, rfl⟩

theorem fraction_pointless (single : text.count '.' ≤ 1) :
    '.' ∉ (text.dropWhile (· != '.')).drop 1 := by
  intro member
  have pointed : '.' ∈ text :=
    (List.dropWhile_sublist _).subset ((List.drop_sublist 1 _).subset member)
  obtain ⟨later, rest⟩ := drop_to_point pointed
  rw [rest, List.drop_one, List.tail_cons] at member
  have behind : 0 < later.count '.' := List.count_pos_iff.mpr member
  rw [← List.takeWhile_append_dropWhile (p := (· != '.')) (l := text), rest, List.count_append,
    List.count_cons_self] at single
  omega

theorem read_digits_reads (single : text.count '.' ≤ 1)
    (digits : ∀ char ∈ text, char ≠ '.' → ∃ digit, digitIn radix char = .ok digit) :
    ∃ value, readDigits radix text = .ok value := by
  have whole : ∀ char ∈ (text.takeWhile (· != '.')).reverse, ∃ digit,
      digitIn radix char = .ok digit := by
    intro char member
    have inside := List.mem_reverse.mp member
    have unpointed : char ≠ '.' := by simpa using List.mem_takeWhile_imp inside
    exact digits char (List.takeWhile_subset _ inside) unpointed
  have fraction : ∀ char ∈ (text.dropWhile (· != '.')).drop 1, ∃ digit,
      digitIn radix char = .ok digit := by
    intro char member
    refine digits char ?_ ?_
    · exact (List.dropWhile_sublist _).subset ((List.drop_sublist 1 _).subset member)
    · rintro rfl
      exact fraction_pointless single member
  obtain ⟨total, summed⟩ := add_whole_reads whole (1.0 : Float) 0.0
  obtain ⟨value, added⟩ := add_fraction_reads fraction (1.0 / radix.toFloat) total
  refine ⟨value, ?_⟩
  rw [readDigits, if_neg (by omega)]
  simp only [summed]
  exact added

end Sums

section Folding

/-- The character as it is read in a base. -/
def foldChar (base : Int) (char : Char) : Char :=
  if base ≤ foldedBaseLimit then Text.lowerChar char else char

theorem fold_char_point (base : Int) : foldChar base '.' = '.' := by
  have small : Text.lowerChar '.' = '.' := by decide +kernel
  unfold foldChar
  split
  · exact small
  · rfl

theorem listed_plain : ∀ char ∈ '.' :: alphabet, char ≠ 'Σ' ∧ char ≠ 'İ' := by
  have plain : ('.' :: alphabet).all (fun char => char != 'Σ' && char != 'İ') = true := by
    decide +kernel
  simpa only [List.all_eq_true, Bool.and_eq_true, bne_iff_ne] using plain

theorem fold_case_listed (base : Int) (listed : ∀ char ∈ text, char ∈ '.' :: alphabet) :
    foldCase base text = text.map (foldChar base) := by
  unfold foldCase foldChar
  split
  · exact Text.lower_case_from_plain (fun char member => listed_plain char (listed char member)) _
  · exact (List.map_id text).symm

end Folding

/-- A number as it can be typed: digits of a base, capitals for small letters where case is folded,
with at most one point among them but not in front. -/
structure IsNumeral (radix : Radix) (text : List Char) : Prop where
  begins : ∃ first rest, text = first :: rest ∧ first ≠ '.'
  digits : ∀ char ∈ text, char ≠ '.' →
    char ∈ alphabet ∧ IsDigit radix (foldChar radix.value char)
  single : text.count '.' ≤ 1

namespace IsNumeral

/-- The characters are checked one after another. -/
theorem checked_iff (radix : Radix) (text : List Char) :
    (text.headD '.' ≠ '.' ∧
      (text.all fun char => decide (char ≠ '.' →
        char ∈ alphabet ∧ IsDigit radix (foldChar radix.value char))) = true ∧
      text.count '.' ≤ 1) ↔ IsNumeral radix text := by
  simp only [List.all_eq_true, decide_eq_true_eq]
  constructor
  · rintro ⟨begun, digits, single⟩
    refine ⟨?_, digits, single⟩
    cases text with
    | nil => exact absurd rfl begun
    | cons first rest => exact ⟨first, rest, rfl, begun⟩
  · rintro ⟨⟨first, rest, rfl, begun⟩, digits, single⟩
    exact ⟨begun, digits, single⟩

instance (radix : Radix) (text : List Char) : Decidable (IsNumeral radix text) :=
  decidable_of_iff _ (checked_iff radix text)

theorem folded (numeral : IsNumeral radix text) :
    foldCase radix.value text = text.map (foldChar radix.value) := by
  apply fold_case_listed
  intro char member
  rcases eq_or_ne char '.' with rfl | digit
  · exact List.mem_cons_self
  · exact List.mem_cons_of_mem _ (numeral.digits char member digit).1

theorem fold_char_point_iff (numeral : IsNumeral radix text) {char : Char}
    (member : char ∈ text) :
    foldChar radix.value char = '.' ↔ char = '.' := by
  constructor
  · intro folded
    by_contra digit
    exact (numeral.digits char member digit).2.not_point folded
  · rintro rfl
    exact fold_char_point radix.value

theorem reads (numeral : IsNumeral radix text) :
    ∃ value, readDigits radix (foldCase radix.value text) = .ok value := by
  rw [numeral.folded]
  apply read_digits_reads
  · have points : (text.map (foldChar radix.value)).count '.' = text.count '.' := by
      rw [List.count_eq_countP, List.count_eq_countP, List.countP_map]
      refine List.countP_congr fun char member => ?_
      simpa using numeral.fold_char_point_iff member
    exact points.trans_le numeral.single
  · intro char member unpointed
    obtain ⟨typed, inside, rfl⟩ := List.mem_map.mp member
    have digit := mt (numeral.fold_char_point_iff inside).mpr unpointed
    obtain ⟨value, below, same⟩ := (numeral.digits typed inside digit).2
    rw [same]
    exact ⟨value, digit_in_written below⟩

theorem whole_length_le (numeral : IsNumeral radix text) :
    ((foldCase radix.value text).takeWhile (· != '.')).length ≤ text.length := by
  rw [numeral.folded]
  exact (List.takeWhile_sublist _).length_le.trans_eq (List.length_map _)

theorem is_digit_text {text : String} (numeral : IsNumeral radix text.toList)
    (pointless : '.' ∉ text.toList) : isDigitText text radix.value = true := by
  apply is_digit_text_folded
  · rw [numeral.folded]
    intro char member
    obtain ⟨typed, inside, rfl⟩ := List.mem_map.mp member
    exact (numeral.digits typed inside (ne_of_mem_of_not_mem inside pointless)).2
  · obtain ⟨first, rest, same, -⟩ := numeral.begins
    rw [numeral.folded, same]
    exact List.cons_ne_nil _ _

end IsNumeral

end RadixCalc.Numeral
