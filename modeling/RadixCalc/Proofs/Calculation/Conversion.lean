import RadixCalc.Calculation
import RadixCalc.Proofs.Numeral.WholeNumbers
import RadixCalc.Proofs.Sequence.Resume
import RadixCalc.Proofs.Stopping
import RadixCalc.Proofs.Text.Blank

/-!
Converting whole numbers from one base to another. A run of digits is one
operand: a literal if it starts with a decimal digit, and otherwise a name, which
stands for its digits as long as no variable has that name. So what is written
for a whole number calculates to the number again, in any base that its digits
are written in.
-/

namespace RadixCalc

namespace Numeral

variable {radix : Radix} {text : List Char}

theorem digit_char_literal : ∀ value < 62, Scan.isLiteralChar (digitChar value) = true := by
  decide

theorem digit_char_name : ∀ value < 62, Scan.isNameChar (digitChar value) = true := by
  decide

theorem digit_char_first : ∀ value < 62,
    Scan.isDecimal (digitChar value) = true ∨ Scan.isNameStart (digitChar value) = true := by
  decide

theorem digit_char_solid : ∀ value < 62, Text.isBlank (digitChar value) = false := by
  decide +kernel

/-- A run of digits is spelled like a literal or like a name. -/
theorem digits_spelled (digits : ∀ char ∈ text, IsDigit radix char) (filled : text ≠ []) :
    Scan.IsLiteral text ∨ Scan.IsName text := by
  cases text with
  | nil => exact absurd rfl filled
  | cons first rest =>
      have literal : ∀ char ∈ rest, Scan.isLiteralChar char = true := by
        intro char member
        obtain ⟨value, listed, rfl⟩ := (digits char (by simp [member])).listed
        exact digit_char_literal value listed
      have name : ∀ char ∈ rest, Scan.isNameChar char = true := by
        intro char member
        obtain ⟨value, listed, rfl⟩ := (digits char (by simp [member])).listed
        exact digit_char_name value listed
      obtain ⟨value, listed, rfl⟩ := (digits first (by simp)).listed
      rcases digit_char_first value listed with decimal | start
      · exact Or.inl ⟨decimal, literal⟩
      · exact Or.inr ⟨start, name⟩

end Numeral

namespace Sequence

variable {settings : Settings} {text : List Char}

/-- Outside all calls text is read with at least one level. -/
theorem of_text_at_resume (nested : 0 ≤ settings.callDepth.value) (text : List Char) :
    ∃ levels, ofTextAt settings 0 (String.ofList text) =
      resume (ofTextWithin settings levels) [] true text := by
  obtain ⟨levels, counted⟩ : ∃ levels, levelsAt settings 0 = levels + 1 :=
    ⟨settings.callDepth.value.toNat, by rw [levelsAt]; omega⟩
  refine ⟨levels, ?_⟩
  rw [ofTextAt, counted, String.toList_ofList, of_text_within_succ]

/-- Text that is spelled as one operand is read as that operand. -/
theorem of_text_at_operand {operand : Operand} (nested : 0 ≤ settings.callDepth.value)
    (spelled : ∀ readArgument, resume readArgument [] true (text ++ []) =
      emit [.operand operand] (resume readArgument [] false [])) :
    ofTextAt settings 0 (String.ofList text) = .ok [.operand operand] := by
  obtain ⟨levels, read⟩ := of_text_at_resume nested text
  have single := spelled (ofTextWithin settings levels)
  rw [List.append_nil, resume_nil] at single
  rw [read, single]
  rfl

theorem of_text_short (short : (text.length : Int) ≤ settings.inputLength) :
    ofText settings (String.ofList text) = ofTextAt settings 0 (String.ofList text) := by
  have fits : isTooLong settings (String.ofList text) = false := by
    simpa [isTooLong] using short
  exact of_text_fitting fits

/-- A single operand evaluates to the value that it stands for, and changes no variable. -/
theorem evaluate_operand (functions : FunctionTable) (radix : Radix) {bindings : Bindings}
    {operand : Operand} {value : Float}
    (resolved : operand.resolve radix.value bindings = .ok value) :
    (evaluate [.operand operand] functions radix.value bindings).ending = .ok value ∧
      (evaluate [.operand operand] functions radix.value bindings).bindings = bindings := by
  have resolving : (Evaluation.resolve radix.value operand).run { bindings, journal := [] } =
      (.ok value, { bindings, journal := [] }) := by
    rw [run_resolve, resolved]
    rfl
  have concluded : (Evaluation.conclude radix.value 1 [operand]).run { bindings, journal := [] } =
      (.ok value, { bindings, journal := [.evaluated 1 radix.value value] }) := by
    rw [Evaluation.conclude, run_bind, resolving]
    rfl
  have ran : (Evaluation.evaluate functions radix.value [.operand operand]).run
      { bindings, journal := [] } =
        (.ok value, { bindings, journal := [.evaluated 1 radix.value value] }) := by
    rw [Evaluation.evaluate, run_bind, radix.require_value]
    exact concluded
  simp only [evaluate, ran, and_self]

end Sequence

namespace Calculation

variable {settings : Settings} {functions : FunctionTable} {radix : Radix} {bindings : Bindings}
  {value : Float}

/-- Outside all calls the text is read, and what is read evaluates to the value and changes no
variable. -/
def EvaluatesTo (settings : Settings) (functions : FunctionTable) (radix : Radix)
    (bindings : Bindings) (text : String) (value : Float) : Prop :=
  ∃ sequence, Sequence.ofTextAt settings 0 text = .ok sequence ∧
    (sequence.evaluate functions radix.value bindings).ending = .ok value ∧
    (sequence.evaluate functions radix.value bindings).bindings = bindings

theorem literal_evaluates (nested : 0 ≤ settings.callDepth.value) (functions : FunctionTable)
    (bindings : Bindings) {text : String} (spelled : Scan.IsLiteral text.toList)
    (read : Numeral.read text radix.value = .ok value) :
    EvaluatesTo settings functions radix bindings text value := by
  have lexed := Sequence.of_text_at_operand nested
    (fun _ => Sequence.resume_literal spelled (trivial : Scan.Delimits []))
  rw [String.ofList_toList] at lexed
  refine ⟨_, lexed, Sequence.evaluate_operand functions radix ?_⟩
  rw [Operand.resolve, read]
  rfl

theorem name_evaluates (nested : 0 ≤ settings.callDepth.value) (functions : FunctionTable)
    {text : String} (spelled : Scan.IsName text.toList) (unbound : bindings.get? text = none)
    (digits : Numeral.isDigitText text radix.value = true)
    (read : Numeral.read text radix.value = .ok value) :
    EvaluatesTo settings functions radix bindings text value := by
  have lexed := Sequence.of_text_at_operand nested
    (fun _ => Sequence.resume_name spelled (trivial : Scan.Delimits []))
  rw [String.ofList_toList] at lexed
  refine ⟨_, lexed, Sequence.evaluate_operand functions radix ?_⟩
  simp only [Operand.resolve, unbound, digits, if_true]
  exact read

/-- A run of digits that no variable has as its name calculates to what it reads as. -/
theorem of_text_digits {settings : Settings} {radix : Radix} {text : List Char} {value : Float}
    (digits : ∀ char ∈ text, Numeral.IsDigit radix char) (filled : text ≠ [])
    (short : (text.length : Int) ≤ settings.inputLength) (nested : 0 ≤ settings.callDepth.value)
    (read : Numeral.read (String.ofList text) radix.value = .ok value)
    (functions : FunctionTable) (outputBase : Int) {bindings : Bindings}
    (unbound : bindings.get? (String.ofList text) = none) :
    ofText settings functions radix.value outputBase bindings (String.ofList text) =
      { reply := .ofEnding radix.value outputBase (outcomeOf settings outputBase value)
        bindings } := by
  have solid : Text.trimmed (String.ofList text) = String.ofList text := by
    rw [Text.trimmed, String.toList_ofList, Text.trim_solid]
    intro char member
    obtain ⟨digit, listed, rfl⟩ := (digits char member).listed
    exact Numeral.digit_char_solid digit listed
  have begun : (String.ofList text).isEmpty = false := by
    simpa using filled
  have evaluates : EvaluatesTo settings functions radix bindings (String.ofList text) value := by
    rcases Numeral.digits_spelled digits filled with literal | name
    · exact literal_evaluates nested functions bindings (by rwa [String.toList_ofList]) read
    · exact name_evaluates nested functions (by rwa [String.toList_ofList]) unbound
        (Numeral.is_digit_text_digits digits filled) read
  obtain ⟨sequence, lexed, ended, kept⟩ := evaluates
  rw [← Sequence.of_text_short short] at lexed
  simp only [ofText, solid, begun, lexed, ofSequence, ended, kept, Bool.false_eq_true, if_false]
  rfl

/-- Whole numbers up to 2^53 have a value of their own and are converted exactly. What is written
for one in any base reads back as it, unless it spells a value without digits, and where no variable
has it as its name it calculates to the number and to what is written for it in the other base. The
limits only have to leave room for 54 digits outside all calls. -/
theorem of_text_write (settings : Settings) (functions : FunctionTable) (radix other : Radix)
    {number : Nat} (bounded : number ≤ 2 ^ 53) (roomy : 54 ≤ settings.inputLength.value)
    (nested : 0 ≤ settings.callDepth.value) :
    Binary64.IsExactly (Float.ofNat number) number ∧
      ∃ text,
        Numeral.write (Float.ofNat number) radix.value settings.fractionDigits = .ok text ∧
        (text ≠ "nan" → text ≠ "inf" →
          Numeral.read text radix.value = .ok (Float.ofNat number) ∧
            ∀ bindings : Bindings, bindings.get? text = none →
              ∃ result,
                Numeral.write (Float.ofNat number) other.value settings.fractionDigits =
                    .ok result ∧
                  ofText settings functions radix.value other.value bindings text =
                    { reply := .answered ((Outcome.success result (Float.ofNat number)).withBases
                        radix.value other.value)
                      bindings }) := by
  have written := Numeral.write_of_nat radix settings.fractionDigits bounded
  refine ⟨Binary64.of_nat_bounded bounded, _, written, ?_⟩
  intro notNan notInf
  have read := Numeral.read_whole_text radix bounded notNan notInf
  refine ⟨read, ?_⟩
  intro bindings unbound
  have rewritten := Numeral.write_of_nat other settings.fractionDigits bounded
  refine ⟨_, rewritten, ?_⟩
  have length : (Numeral.wholeText radix number).length ≤ 54 :=
    Numeral.whole_text_length radix (by omega) (by omega)
  have calculated := of_text_digits (Numeral.whole_text_digits radix number)
    (Numeral.whole_text_nonempty radix number) (by omega) nested read functions other.value unbound
  rw [calculated, outcomeOf, Calculation.written, rewritten]
  rfl

/-- In base 16 the digit of ten is spelled like a name. -/
theorem of_text_write_ten :
    ofText {} FunctionTable.standard 16 10 Directory.empty "a" =
      { reply := .answered ((Outcome.success "10" (Float.ofNat 10)).withBases 16 10)
        bindings := Directory.empty } := by
  have bounded : 10 ≤ 2 ^ 53 := by norm_num
  have hexadecimal : Numeral.wholeText ⟨16, by decide, by decide⟩ 10 = ['a'] := by
    decide +kernel
  have decimal : Numeral.wholeText ⟨10, by decide, by decide⟩ 10 = ['1', '0'] := by
    decide +kernel
  obtain ⟨-, text, written, converted⟩ :=
    of_text_write {} FunctionTable.standard ⟨16, by decide, by decide⟩
      ⟨10, by decide, by decide⟩
      bounded (by decide) (by decide)
  rw [Numeral.write_of_nat _ _ bounded, hexadecimal] at written
  obtain rfl := Except.ok.inj written
  obtain ⟨result, rewritten, calculated⟩ :=
    (converted (by decide) (by decide)).2 Directory.empty rfl
  rw [Numeral.write_of_nat _ _ bounded, decimal] at rewritten
  obtain rfl := Except.ok.inj rewritten
  exact calculated

end Calculation

end RadixCalc
