import RadixCalc.Proofs.Calculation.Ending
import RadixCalc.Proofs.Fault

/-!
Objections to a text and how its calculation fails. An objection is made to the
text as it stands, but what is calculated is the trimmed text. So the message of
an objection is that of every calculation of the text, unless trimming takes
away what the objection is about; and a text without objection calculates
without any fault of reading.
-/

namespace RadixCalc

namespace Fault

/-- The codes of the faults of reading. -/
def readingCodes : List String :=
  ["TOO_LONG", "TOO_DEEP", "UNMATCHED_BRACKET", "UNKNOWN_TOKEN"]

theorem code_of_evaluation {fault : Fault} (own : fault.OfEvaluation) :
    fault.code ∉ readingCodes := by
  cases fault <;>
    simp_all [OfEvaluation, code, report, FaultReport.code, FaultKind.defaultCode, readingCodes]

/-- Of the faults of reading, only text that is too long is worded as it is. -/
theorem too_long_message {settings : Settings} {fault : Fault}
    (inside : fault = .tooDeep settings.callDepth ∨ fault = .unmatchedBracket ∨
      ∃ char, fault = .unknownToken char) (limit : ShownInt) :
    fault.message ≠ (tooLong limit).message := by
  intro same
  have first := congrArg (fun message : String => message.toList.head?) same
  rcases inside with rfl | rfl | ⟨char, rfl⟩ <;>
    simp [message, report, toString] at first

end Fault

namespace Sequence

variable {settings : Settings} {text : String}

/-- A text is read like the trimmed text, unless a blank at one of its ends begins no lexeme. -/
theorem of_text_within_trim (settings : Settings) (levels : Nat) (text : List Char) :
    ofTextWithin settings levels text = ofTextWithin settings levels (Text.trim text) ∨
      ∃ char ∈ Text.leading text ++ Text.trailing text, Scan.isSpacing char = false ∧
        ofTextWithin settings levels text = .error (.unknownToken char) := by
  cases levels with
  | zero => exact Or.inl rfl
  | succ levels =>
      rcases Scan.of_text_trim_cases text with same | ⟨char, member, solid, stops, lexemes⟩
      · left
        rw [ofTextWithin, ofTextWithin, readLevel, readLevel, same]
      · rcases lexemes with none | same
        · right
          refine ⟨char, member, solid, ?_⟩
          rw [ofTextWithin, readLevel, none, stops]
          rfl
        · -- A fault inside an argument comes before the one behind the text.
          cases calls : readCalls (ofTextWithin settings levels)
              (Scan.ofText true (Text.trim text)).lexemes with
          | error fault =>
              left
              rw [ofTextWithin, ofTextWithin, readLevel, readLevel, same, calls]
              rfl
          | ok items =>
              right
              refine ⟨char, member, solid, ?_⟩
              rw [ofTextWithin, readLevel, same, calls, stops]
              rfl

theorem fits_trimmed (fits : isTooLong settings text = false) :
    isTooLong settings (Text.trimmed text) = false := by
  have shorter := (Text.trim_sublist text.toList).length_le
  rw [isTooLong, decide_eq_false_iff_not] at fits ⊢
  rw [Text.trimmed, String.length_ofList]
  rw [String.length_toList] at shorter
  omega

theorem of_text_trimmed (fits : isTooLong settings text = false) :
    ofText settings text = ofText settings (Text.trimmed text) ∨
      ∃ char ∈ Text.leading text.toList ++ Text.trailing text.toList,
        Scan.isSpacing char = false ∧ ofText settings text = .error (.unknownToken char) := by
  have read := of_text_within_trim settings (levelsAt settings 0) text.toList
  simp only [ofText, fits, fits_trimmed fits, Bool.false_eq_true, if_false, ofTextAt]
  rwa [Text.trimmed, String.toList_ofList]

theorem evaluate_unsupported {base : Int} {stop : Stop}
    (unsupported : Radix.require base = .error stop) (sequence : Sequence)
    (functions : FunctionTable) (bindings : Bindings) :
    (sequence.evaluate functions base bindings).ending = .error stop := by
  have stops : (Evaluation.ofResult (Radix.require base)).run { bindings, journal := [] } =
      (.error stop, { bindings, journal := [] }) := by
    rw [unsupported]
    rfl
  rw [evaluate, Evaluation.evaluate, run_bind, stops]

end Sequence

namespace Calculation

section Objection

variable {settings : Settings} {text message : String}

theorem objection_iff : objection? settings text = some message ↔
    ∃ fault, Sequence.ofText settings text = .error fault ∧ fault.message = message := by
  rw [objection?]
  cases read : Sequence.ofText settings text with
  | ok sequence => simp
  | error fault => simp

theorem objection_none_iff : objection? settings text = none ↔
    ∃ sequence, Sequence.ofText settings text = .ok sequence := by
  rw [objection?]
  cases read : Sequence.ofText settings text with
  | ok sequence => simp
  | error fault => simp

/-- Whatever the functions, the bases and the variables are, the calculation of the text fails with
the message. -/
def AlwaysFails (settings : Settings) (text message : String) : Prop :=
  ∀ (functions : FunctionTable) (inputBase outputBase : Int) (bindings : Bindings),
    ∃ outcome, (ofText settings functions inputBase outputBase bindings text).reply =
      .answered outcome ∧ outcome.ok = false ∧ outcome.error = some message

/-- What the message is about is taken away when the text is trimmed: all of the text, the
characters that made it too long, or a blank that begins no lexeme, and what is left has not the
same fault. -/
inductive TrimmedAway (settings : Settings) (text : String) : String → Prop where
  | everything {message : String} (empty : (Text.trimmed text).isEmpty = true) :
      TrimmedAway settings text message
  | length (long : Sequence.isTooLong settings text = true)
      (fits : Sequence.isTooLong settings (Text.trimmed text) = false) :
      TrimmedAway settings text (Fault.tooLong settings.inputLength).message
  | blank {char : Char} (outside : char ∈ Text.leading text.toList ++ Text.trailing text.toList)
      (solid : Scan.isSpacing char = false)
      (alone : objection? settings (Text.trimmed text) ≠ some (Fault.unknownToken char).message) :
      TrimmedAway settings text (Fault.unknownToken char).message

/-- A calculation always fails alike if and only if there is an objection to the trimmed text. -/
theorem always_fails_iff : AlwaysFails settings text message ↔
    (Text.trimmed text).isEmpty = false ∧
      objection? settings (Text.trimmed text) = some message := by
  constructor
  · intro fails
    have filled : (Text.trimmed text).isEmpty = false := by
      cases blank : (Text.trimmed text).isEmpty with
      | false => rfl
      | true =>
          obtain ⟨outcome, answered, failed, -⟩ :=
            fails FunctionTable.standard 10 10 Bindings.standard
          simp only [ofText, blank, if_true] at answered
          obtain rfl := Reply.answered.inj answered
          cases failed
    refine ⟨filled, ?_⟩
    cases read : Sequence.ofText settings (Text.trimmed text) with
    | error fault =>
        obtain ⟨outcome, answered, -, error⟩ :=
          fails FunctionTable.standard 10 10 Bindings.standard
        simp only [ofText, filled, read, Bool.false_eq_true, if_false] at answered
        obtain rfl := Reply.answered.inj answered
        exact objection_iff.mpr ⟨fault, read, Option.some.inj error⟩
    | ok sequence =>
        -- A text that can be read fails in two ways in two bases that there are no digits for.
        have worded : ∀ shown : ShownInt, Radix.ofInt? shown.value = none →
            (Fault.unsupportedBase shown).message = message := by
          intro shown outside
          obtain ⟨outcome, answered, -, error⟩ :=
            fails FunctionTable.standard shown.value 10 Bindings.standard
          have ended := Sequence.evaluate_unsupported (Numeral.require_shown outside) sequence
            FunctionTable.standard Bindings.standard
          simp only [ofText, filled, read, ofSequence, ended, Bool.false_eq_true, if_false]
            at answered
          obtain rfl := Reply.answered.inj answered
          exact Option.some.inj error
        have same := (worded ⟨98, by decide +kernel⟩ rfl).trans
          (worded ⟨99, by decide +kernel⟩ rfl).symm
        exact absurd same (by decide)
  · rintro ⟨filled, objected⟩ functions inputBase outputBase bindings
    obtain ⟨fault, refused, rfl⟩ := objection_iff.mp objected
    simp only [ofText, filled, refused, Bool.false_eq_true, if_false]
    exact ⟨_, rfl, rfl, rfl⟩

/-- An objection to a text is made to the trimmed text as well, if trimming does not take away what
it is about. -/
theorem objection_trimmed (objected : objection? settings text = some message)
    (stays : ¬ TrimmedAway settings text message) :
    objection? settings (Text.trimmed text) = some message := by
  cases long : Sequence.isTooLong settings text with
  | true =>
      have worded : message = (Fault.tooLong settings.inputLength).message := by
        simpa [objection?, Sequence.ofText, long] using objected.symm
      cases fits : Sequence.isTooLong settings (Text.trimmed text) with
      | true => simp [objection?, Sequence.ofText, fits, worded]
      | false => exact absurd (worded ▸ .length long fits) stays
  | false =>
      rcases Sequence.of_text_trimmed long with same | ⟨char, outside, solid, refused⟩
      · rwa [objection?, ← same]
      · have worded : message = (Fault.unknownToken char).message := by
          simpa [objection?, refused] using objected.symm
        by_contra alone
        exact stays (worded ▸ .blank outside solid (worded ▸ alone))

/-- Where trimming takes away what a message is about, there is no such message. -/
theorem not_objection_trimmed (away : TrimmedAway settings text message) :
    (Text.trimmed text).isEmpty = true ∨
      objection? settings (Text.trimmed text) ≠ some message := by
  cases away with
  | everything empty => exact Or.inl empty
  | length long fits =>
      right
      intro objected
      obtain ⟨fault, refused, worded⟩ := objection_iff.mp objected
      simp only [Sequence.ofText, fits, Bool.false_eq_true, if_false] at refused
      exact Fault.too_long_message (Sequence.of_text_within_fault refused) _ worded
  | blank outside solid alone => exact Or.inr alone

/-- Text that there is no objection to is read when it is trimmed. -/
theorem trimmed_read (well : objection? settings text = none) :
    ∃ sequence, Sequence.ofText settings (Text.trimmed text) = .ok sequence := by
  obtain ⟨sequence, read⟩ := objection_none_iff.mp well
  have fits : Sequence.isTooLong settings text = false := by
    cases long : Sequence.isTooLong settings text with
    | false => rfl
    | true =>
        rw [Sequence.ofText, long] at read
        cases read
  rcases Sequence.of_text_trimmed fits with same | ⟨char, -, -, refused⟩
  · exact ⟨sequence, same ▸ read⟩
  · rw [read] at refused
    cases refused

/-- Once a text has been read, only a function brings in a code of reading. -/
theorem ends_unread {functions : FunctionTable} {inputBase outputBase : Int} {bindings : Bindings}
    {outcome : Outcome} {code : String}
    (well : ∃ sequence, Sequence.ofText settings (Text.trimmed text) = .ok sequence)
    (ends : Ends settings functions inputBase outputBase bindings text (.answered outcome))
    (listed : code ∈ Fault.readingCodes) (coded : outcome.errorCode = some code) :
    ∃ fault, functions.Refuses (.fault fault) ∧ fault.code = code := by
  cases ends with
  | blank empty => cases coded
  | unread refused =>
      obtain ⟨sequence, read⟩ := well
      rw [read] at refused
      cases refused
  | @stopped sequence fault evaluates =>
      obtain rfl := Option.some.inj coded
      cases Evaluation.evaluate_stops _ _ _ evaluates.2 with
      | own own => exact absurd listed (Fault.code_of_evaluation own)
      | refused refuses => exact ⟨fault, refuses, rfl⟩
  | unwritten evaluates refused =>
      obtain rfl := Option.some.inj coded
      obtain ⟨shown, -, rfl⟩ := written_stop refused
      exact absurd listed (Fault.code_of_evaluation trivial)
  | written evaluates written => cases coded

end Objection

/-- The message of an objection to a text is that of every calculation of the text, exactly if
trimming does not take away what it is about. Without an objection, no calculation of the text fails
with a code of reading, except one that a function refuses its arguments with. -/
theorem objection_agrees (settings : Settings) (text : String) :
    (∀ message, objection? settings text = some message →
      (AlwaysFails settings text message ↔ ¬ TrimmedAway settings text message)) ∧
    (objection? settings text = none →
      ∀ (functions : FunctionTable) (inputBase outputBase : Int) (bindings : Bindings)
        (outcome : Outcome),
        (ofText settings functions inputBase outputBase bindings text).reply = .answered outcome →
        ∀ code ∈ Fault.readingCodes, outcome.errorCode = some code →
          ∃ fault, functions.Refuses (.fault fault) ∧ fault.code = code) := by
  constructor
  · intro message objected
    rw [always_fails_iff]
    constructor
    · rintro ⟨filled, same⟩ away
      rcases not_objection_trimmed away with empty | other
      · rw [filled] at empty
        cases empty
      · exact other same
    · intro stays
      refine ⟨?_, objection_trimmed objected stays⟩
      rw [Bool.eq_false_iff]
      intro empty
      exact stays (.everything empty)
  · intro well functions inputBase outputBase bindings outcome answered code listed coded
    have ends := of_text_ends settings functions inputBase outputBase bindings text
    rw [answered] at ends
    exact ends_unread (trimmed_read well) ends listed coded

/-- A space without a break may not stand before a number, but is trimmed away. -/
theorem objection_to_outer_blank :
    let text := "\u00a05"
    objection? {} text = some "Unknown token '\u00a0'" ∧
      ∃ outcome, (ofText {} FunctionTable.standard 10 10 Bindings.standard text).reply =
        .answered outcome ∧ outcome.ok = true ∧ outcome.result = some "5" := by
  intro text
  refine ⟨by decide +kernel, (Outcome.success "5" 5.0).withBases 10 10, ?_, rfl, rfl⟩
  decide +kernel

end Calculation

end RadixCalc
