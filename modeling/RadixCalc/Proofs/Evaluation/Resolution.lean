import RadixCalc.Proofs.Numeral.ForeignCharacters

/-!
What a name stands for. Runs of digits are the text without a point that reads as
a number, up to nothing at all and the spellings of values without digits. So a
name that is looked up as a number, because it is a run of digits, is always read.
-/

namespace RadixCalc

open Numeral (read isDigitText)

variable {radix : Radix}

theorem Numeral.digit_text_of_read {text : String} (pointless : '.' ∉ text.toList)
    (reads : ∃ value, read text radix.value = .ok value) (filled : text ≠ "")
    (notNan : text ≠ "nan") (notInf : text ≠ "inf") : isDigitText text radix.value = true := by
  obtain ⟨-, digits⟩ := ((read_ok_iff.mp reads).resolve_left notNan).resolve_left notInf
  refine is_digit_text_iff.mpr ⟨?_, fun char member => ?_⟩
  · apply fold_case_ne_nil
    rwa [ne_eq, String.toList_eq_nil_iff]
  · exact digits char member (ne_of_mem_of_not_mem member (fold_case_pointless pointless))

theorem Token.resolve_symbol (name : String) (bindings : Bindings) :
    if (bindings.get? name).isSome ∨ isDigitText name radix.value = true then
      ∃ value, (Token.operand (.symbol name)).resolve radix.value bindings = .ok value
    else (Token.operand (.symbol name)).resolve radix.value bindings =
      .error (.fault (.undefinedName name)) := by
  rw [Token.resolve, Operand.resolve]
  cases bindings.get? name with
  | some value => exact ⟨value, rfl⟩
  | none =>
      simp only [Option.isSome_none, Bool.false_eq_true, false_or]
      split
      · rename_i digits
        exact Numeral.read_of_digit_text digits
      · rfl

/-- The test for digits and the reading of digits agree on text without a point, so that a name
stands for a value or is reported as undefined. -/
theorem Numeral.digit_text_agrees (radix : Radix) :
    (∀ text : String, '.' ∉ text.toList →
      (isDigitText text radix.value = true → ∃ value, read text radix.value = .ok value) ∧
      ((∃ value, read text radix.value = .ok value) → text ≠ "" → text ≠ "nan" →
        text ≠ "inf" → isDigitText text radix.value = true)) ∧
    ∀ (name : String) (bindings : Bindings),
      if (bindings.get? name).isSome ∨ isDigitText name radix.value = true then
        ∃ value, (Token.operand (.symbol name)).resolve radix.value bindings = .ok value
      else (Token.operand (.symbol name)).resolve radix.value bindings =
        .error (.fault (.undefinedName name)) :=
  ⟨fun _ pointless => ⟨read_of_digit_text, digit_text_of_read pointless⟩,
    Token.resolve_symbol⟩

/-- A capital and a Kelvin sign are digits of base 21 and are read; the letters of `pi` are not, and
in an empty table it stands for nothing. -/
theorem Numeral.digit_text_agrees_folded :
    '.' ∉ "F\u212a".toList ∧ isDigitText "F\u212a" 21 = true ∧
      (∃ value, read "F\u212a" 21 = .ok value) ∧
      (Token.operand (.symbol "pi")).resolve 21 Directory.empty =
        .error (.fault (.undefinedName "pi")) := by
  obtain ⟨texts, names⟩ := digit_text_agrees ⟨21, by decide, by decide⟩
  have pointless : '.' ∉ "F\u212a".toList := by decide
  have digits : isDigitText "F\u212a" 21 = true := by decide +kernel
  have letters : isDigitText "pi" 21 = false := by decide +kernel
  have undefined := names "pi" Directory.empty
  rw [if_neg (by simp [Directory.get_empty, letters])] at undefined
  exact ⟨pointless, digits, (texts "F\u212a" pointless).1 digits, undefined⟩

end RadixCalc
