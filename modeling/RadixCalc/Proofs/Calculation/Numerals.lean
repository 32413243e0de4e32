import RadixCalc.Proofs.Calculation.Conversion
import RadixCalc.Proofs.Lexeme.Trimming
import RadixCalc.Proofs.Numeral.LeadingZeros

/-!
Numbers that start with a letter. Their first digit makes them names, and a name
without a variable is read as the number that its characters spell, just like a
literal with a zero in front. But a name has no point in it, so such a number has
no fraction, and the two spellings of values without digits are names too.
-/

namespace RadixCalc

namespace Scan

theorem point_unknown : IsUnknown '.' := by
  constructor <;> decide

end Scan

namespace Numeral

namespace IsNumeral

variable {radix : Radix} {text : List Char}

theorem literal_chars (numeral : IsNumeral radix text) :
    ∀ char ∈ text, Scan.isLiteralChar char = true := by
  intro char member
  rcases eq_or_ne char '.' with rfl | digit
  · decide
  · obtain ⟨value, listed, rfl⟩ := exists_digit_char (numeral.digits char member digit).1
    exact digit_char_literal value listed

theorem name_chars (numeral : IsNumeral radix text) :
    ∀ char ∈ text, char ≠ '.' → Scan.isNameChar char = true := by
  intro char member digit
  obtain ⟨value, listed, rfl⟩ := exists_digit_char (numeral.digits char member digit).1
  exact digit_char_name value listed

theorem first_char {first : Char} {rest : List Char} (numeral : IsNumeral radix (first :: rest)) :
    Scan.isDecimal first = true ∨ Scan.isNameStart first = true := by
  obtain ⟨begun, later, same, digit⟩ := numeral.begins
  obtain ⟨rfl, -⟩ := List.cons.inj same
  obtain ⟨value, listed, rfl⟩ :=
    exists_digit_char (numeral.digits first List.mem_cons_self digit).1
  exact digit_char_first value listed

/-- Up to its point, a number that does not start with a decimal digit is spelled like a name. -/
theorem spells_name (numeral : IsNumeral radix text) (lettered : Scan.startsDecimal text = false) :
    Scan.IsName (text.takeWhile (· != '.')) := by
  obtain ⟨first, rest, rfl, digit⟩ := numeral.begins
  have start : Scan.isNameStart first = true :=
    numeral.first_char.resolve_left (by simpa [Scan.startsDecimal] using lettered)
  rw [List.takeWhile_cons_of_pos (by simpa using digit)]
  refine ⟨start, fun char member => ?_⟩
  have inside := List.mem_cons_of_mem first (List.takeWhile_subset _ member)
  exact numeral.name_chars char inside (by simpa using List.mem_takeWhile_imp member)

/-- One zero in front of a number of a hundred characters does not reach an infinite weight. -/
theorem zero_fits (numeral : IsNumeral radix text) (short : text.length ≤ 100) :
    ZerosFit radix ((foldCase radix.value text).takeWhile (· != '.')).length 1 := by
  right
  have whole := numeral.whole_length_le
  generalize ((foldCase radix.value text).takeWhile (· != '.')).length = places at whole
  calc radix.value ^ (places + 1 - 1) ≤ radix.value ^ 100 :=
        Nat.pow_le_pow_right radix.pos (by omega)
    _ ≤ 61 ^ 100 := Nat.pow_le_pow_left radix.le_max 100
    _ < valueLimit := by
        rw [value_limit]
        decide +kernel

end IsNumeral

theorem read_spelled (radix : Radix) {text : String} {value : Float}
    (summed : readDigits radix (foldCase radix.value text.toList) = .ok value) :
    read text radix.value = .ok (if text = "nan" then Binary64.nan
      else if text = "inf" then Binary64.infinity else value) := by
  by_cases notNan : text = "nan"
  · rw [read, if_pos notNan, if_pos notNan]
  by_cases notInf : text = "inf"
  · rw [read, if_neg notNan, if_neg notNan, if_pos notInf, if_pos notInf]
  · rw [if_neg notNan, if_neg notInf, read_by_digits radix notNan notInf, summed,
      Stop.ofChecked]

end Numeral

namespace Sequence

variable {readArgument : List Char → Except Fault Sequence} {waiting : List Operator}
  {signAllowed : Bool} {char : Char}

theorem resume_unknown (rest : List Char) (unknown : Scan.IsUnknown char) :
    resume readArgument waiting signAllowed (char :: rest) = .error (.unknownToken char) := by
  simp only [resume]
  rw [Scan.ofText]
  simp only [Scan.step_unknown unknown]
  rfl

theorem resume_name_point {name : List Char} (rest : List Char) (spelled : Scan.IsName name) :
    resume readArgument waiting signAllowed (name ++ '.' :: rest) = .error (.unknownToken '.') := by
  cases name with
  | nil => exact spelled.elim
  | cons first tail =>
      have boundary : ∀ char ∈ ('.' :: rest).head?, Scan.isNameChar char = false := by
        intro char member
        obtain rfl : '.' = char := by simpa using member
        decide
      obtain ⟨-, dropped⟩ := Scan.take_while_name spelled.2 boundary
      have uncalled : ((tail ++ '.' :: rest).dropWhile Scan.isNameChar).head? ≠ some '(' := by
        rw [dropped]
        simp
      have finds : Scan.Finds signAllowed first (tail ++ '.' :: rest) _ _ _ :=
        Scan.Finds.name spelled.1 uncalled
      rw [dropped] at finds
      obtain ⟨within, stepped⟩ := finds.step
      rw [List.cons_append, resume_found stepped]
      simp only [place, resume_unknown rest Scan.point_unknown]
      rfl

end Sequence

namespace Calculation

variable {settings : Settings} {radix : Radix} {bindings : Bindings} {text : String}

open Numeral (IsNumeral)

/-- With a zero in front every number is a literal, and the zero adds nothing. -/
theorem zero_evaluates (nested : 0 ≤ settings.callDepth.value) (functions : FunctionTable)
    (bindings : Bindings) {value : Float} (numeral : IsNumeral radix text.toList)
    (short : text.length ≤ 100)
    (summed : Numeral.readDigits radix (Numeral.foldCase radix.value text.toList) = .ok value) :
    EvaluatesTo settings functions radix bindings ("0" ++ text) value := by
  apply literal_evaluates nested
  · rw [String.toList_append]
    exact ⟨by decide, numeral.literal_chars⟩
  · have fits := numeral.zero_fits (by rwa [String.length_toList])
    have read := Numeral.read_zeros radix 0 text
    rw [summed] at read
    exact read.trans (congrArg Except.ok (if_pos fits))

/-- A number up to a hundred characters long evaluates as it does with a zero in front, unless it
starts with a letter and has a point, where it cannot be read, or spells a value without digits.
Only the name that a number without a point may be has to be unbound. -/
theorem of_text_at_numeral (nested : 0 ≤ settings.callDepth.value) (functions : FunctionTable)
    (numeral : IsNumeral radix text.toList) (short : text.length ≤ 100)
    (unbound : Scan.IsName text.toList → bindings.get? text = none) :
    ∃ value, EvaluatesTo settings functions radix bindings ("0" ++ text) value ∧
      if Scan.startsDecimal text.toList = false ∧ '.' ∈ text.toList then
        Sequence.ofTextAt settings 0 text = .error (.unknownToken '.')
      else
        EvaluatesTo settings functions radix bindings text
          (if text = "nan" then Binary64.nan else if text = "inf" then Binary64.infinity
          else value) := by
  obtain ⟨value, summed⟩ := numeral.reads
  refine ⟨value, zero_evaluates nested functions bindings numeral short summed, ?_⟩
  have read := Numeral.read_spelled radix summed
  rcases Bool.eq_false_or_eq_true (Scan.startsDecimal text.toList) with decimal | lettered
  · rw [if_neg (by simp [decimal])]
    obtain ⟨first, rest, begun, -⟩ := numeral.begins
    apply literal_evaluates nested functions bindings _ read
    have inside := numeral.literal_chars
    rw [begun] at decimal inside ⊢
    exact ⟨decimal, fun char member => inside char (List.mem_cons_of_mem _ member)⟩
  · have spelled := numeral.spells_name lettered
    by_cases pointed : '.' ∈ text.toList
    · rw [if_pos ⟨lettered, pointed⟩]
      obtain ⟨later, rest⟩ := Numeral.drop_to_point pointed
      obtain ⟨levels, reading⟩ := Sequence.of_text_at_resume nested text.toList
      rw [String.ofList_toList] at reading
      rw [reading, ← List.takeWhile_append_dropWhile (p := (· != '.')) (l := text.toList), rest]
      exact Sequence.resume_name_point later spelled
    · rw [if_neg (fun both => pointed both.2)]
      have whole : text.toList.takeWhile (· != '.') = text.toList := by
        refine List.takeWhile_eq_self_iff.mpr fun char member => ?_
        simpa using ne_of_mem_of_not_mem member pointed
      rw [whole] at spelled
      exact name_evaluates nested functions spelled (unbound spelled)
        (numeral.is_digit_text pointed) read

/-- Up to base 36 capitals are small letters, in a name as in a literal. -/
theorem of_text_at_numeral_capital :
    IsNumeral ⟨16, by decide, by decide⟩ "Beef".toList ∧
      Bindings.standard.get? "Beef" = none ∧
      ∃ value, EvaluatesTo {} FunctionTable.standard ⟨16, by decide, by decide⟩
        Bindings.standard
          "0Beef" value ∧
        EvaluatesTo {} FunctionTable.standard ⟨16, by decide, by decide⟩ Bindings.standard
          "Beef" value := by
  have numeral : IsNumeral ⟨16, by decide, by decide⟩ "Beef".toList := by decide +kernel
  have unbound : Bindings.standard.get? "Beef" = none := by decide +kernel
  obtain ⟨value, zeroed, plain⟩ :=
    of_text_at_numeral (by decide : 0 ≤ ({} : Settings).callDepth.value)
      FunctionTable.standard numeral (by decide) (fun _ => unbound)
  rw [if_neg (by decide +kernel), if_neg (by decide), if_neg (by decide)] at plain
  exact ⟨numeral, unbound, value, zeroed, plain⟩

/-- A zero in front makes a difference to a fraction behind a letter, which cannot be read, and to
the digits that spell NaN. -/
theorem zero_matters :
    IsNumeral ⟨16, by decide, by decide⟩ "f.8".toList ∧
      Sequence.ofTextAt {} 0 "f.8" = .error (.unknownToken '.') ∧
      EvaluatesTo {} FunctionTable.standard ⟨16, by decide, by decide⟩ Bindings.standard
        "0f.8" 15.5 ∧
      IsNumeral ⟨36, by decide, by decide⟩ "nan".toList ∧
      EvaluatesTo {} FunctionTable.standard ⟨36, by decide, by decide⟩ Bindings.standard
        "nan" Binary64.nan ∧
      EvaluatesTo {} FunctionTable.standard ⟨36, by decide, by decide⟩ Bindings.standard
        "0nan" 30191.0 := by
  have nested : 0 ≤ ({} : Settings).callDepth.value := by decide
  have name : Scan.IsName ['f'] := ⟨by decide, by simp⟩
  have literal : ∀ text : List Char, text.all Scan.isLiteralChar = true →
      Scan.IsLiteral ('0' :: text) :=
    fun text inside => ⟨by decide, List.all_eq_true.mp inside⟩
  refine ⟨by decide +kernel, ?_, ?_, by decide +kernel, ?_, ?_⟩
  · obtain ⟨levels, reading⟩ := Sequence.of_text_at_resume nested ['f', '.', '8']
    exact reading.trans (Sequence.resume_name_point ['8'] name)
  · exact literal_evaluates nested _ _ (literal ['f', '.', '8'] (by decide)) (by decide +kernel)
  · exact name_evaluates nested _ ⟨by decide, List.all_eq_true.mp (by decide +kernel)⟩
      (by decide +kernel) (by decide +kernel) (by decide +kernel)
  · exact literal_evaluates nested _ _ (literal ['n', 'a', 'n'] (by decide)) (by decide +kernel)

end Calculation

end RadixCalc
