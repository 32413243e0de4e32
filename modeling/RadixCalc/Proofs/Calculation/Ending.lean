import RadixCalc.Calculation
import RadixCalc.Proofs.Lexeme.Trimming
import RadixCalc.Proofs.Sequence.Conservation

/-!
How a calculation can end: with nothing to calculate, with the fault of the
first stage that fails, with an interruption, or with a value that is written.
Trimming text before it is read changes nothing about text that can be read.
-/

namespace RadixCalc.Calculation

/-- Writing stops for the base alone. -/
theorem written_stop {settings : Settings} {value : Float} {base : Int} {stop : Stop}
    (refused : written settings value base = .error stop) :
    stop.Shows base (Numeral.RefusesBase base) := by
  unfold written Numeral.write at refused
  split at refused
  · cases refused
  split at refused
  · cases refused
  rcases bind_error refused with required | ⟨radix, _, finished⟩
  · exact Numeral.require_stop required
  · cases finished

section Ending

variable (settings : Settings) (functions : FunctionTable) (inputBase outputBase : Int)
  (bindings : Bindings) (text : String)

/-- The text is read as a sequence, and this is how the sequence ends. -/
def Evaluates (sequence : Sequence) (ending : Except Stop Float) : Prop :=
  Sequence.ofText settings (Text.trimmed text) = .ok sequence ∧
    (sequence.evaluate functions inputBase bindings).ending = ending

/-- Each way to end, with what is answered. -/
inductive Ends : Reply → Prop where
  | blank (empty : (Text.trimmed text).isEmpty = true) :
      Ends (.answered (({ ok := true } : Outcome).withBases inputBase outputBase))
  | unread {fault : Fault}
      (refused : Sequence.ofText settings (Text.trimmed text) = .error fault) :
      Ends (.answered ((Outcome.failure fault).withBases inputBase outputBase))
  | stopped {sequence : Sequence} {fault : Fault}
      (evaluates : Evaluates settings functions inputBase bindings text sequence
        (.error (.fault fault))) :
      Ends (.answered ((Outcome.failure fault).withBases inputBase outputBase))
  | interrupted {sequence : Sequence} {cause : Interruption}
      (evaluates : Evaluates settings functions inputBase bindings text sequence
        (.error (.interruption cause))) : Ends (.interrupted cause)
  | unwritten {sequence : Sequence} {value : Float} {fault : Fault}
      (evaluates : Evaluates settings functions inputBase bindings text sequence (.ok value))
      (refused : written settings value outputBase = .error (.fault fault)) :
      Ends (.answered ((Outcome.failure fault).withBases inputBase outputBase))
  | unshown {sequence : Sequence} {value : Float} {cause : Interruption}
      (evaluates : Evaluates settings functions inputBase bindings text sequence (.ok value))
      (refused : written settings value outputBase = .error (.interruption cause)) :
      Ends (.interrupted cause)
  | written {sequence : Sequence} {value : Float} {result : String}
      (evaluates : Evaluates settings functions inputBase bindings text sequence (.ok value))
      (written : written settings value outputBase = .ok result) :
      Ends (.answered ((Outcome.success result value).withBases inputBase outputBase))

theorem of_text_ends :
    Ends settings functions inputBase outputBase bindings text
      (ofText settings functions inputBase outputBase bindings text).reply := by
  cases blank : (Text.trimmed text).isEmpty with
  | true =>
      simp only [ofText, blank, if_true]
      exact .blank blank
  | false =>
      cases read : Sequence.ofText settings (Text.trimmed text) with
      | error fault =>
          simp only [ofText, blank, read, Bool.false_eq_true, if_false]
          exact .unread read
      | ok sequence =>
          simp only [ofText, blank, read, ofSequence, Bool.false_eq_true, if_false]
          cases ended : (sequence.evaluate functions inputBase bindings).ending with
          | error stop =>
              cases stop with
              | fault fault => exact .stopped ⟨read, ended⟩
              | interruption cause => exact .interrupted ⟨read, ended⟩
          | ok value =>
              change Ends _ _ _ _ _ _ (.ofEnding inputBase outputBase
                (outcomeOf settings outputBase value))
              rw [outcomeOf]
              cases rendered : Calculation.written settings value outputBase with
              | ok result => exact .written ⟨read, ended⟩ rendered
              | error stop =>
                  cases stop with
                  | fault fault => exact .unwritten ⟨read, ended⟩ rendered
                  | interruption cause => exact .unshown ⟨read, ended⟩ rendered

end Ending

variable {settings : Settings} {depth : Int} {text : String} {sequence : Sequence}

/-- Blank text is read as nothing. -/
theorem nothing_of_blank (read : Sequence.ofTextAt settings depth text = .ok sequence)
    (blank : (Text.trimmed text).isEmpty = true) : sequence = [] := by
  obtain ⟨-, -, clean, -⟩ := Sequence.of_text_within_ok read
  have trimmed : Text.trim text.toList = [] := by
    simpa [Text.trimmed] using blank
  have scanned := Scan.of_text_trim clean
  rw [trimmed] at scanned
  have nothing : Sequence.ofTextWithin settings 1 [] = .ok [] := by
    rw [Sequence.of_text_within_ok_iff, Scan.of_text_nil]
    exact ⟨rfl, [], .nil, rfl⟩
  exact Sequence.of_text_within_agree scanned read nothing

/-- What is calculated is read as the text before trimming, if that can be read. -/
theorem trimmed_agree {found : Sequence}
    (read : Sequence.ofTextAt settings depth text = .ok sequence)
    (trimmed : Sequence.ofText settings (Text.trimmed text) = .ok found) : sequence = found := by
  obtain ⟨-, -, clean, -⟩ := Sequence.of_text_within_ok read
  unfold Sequence.ofText at trimmed
  split at trimmed
  · cases trimmed
  · rw [Text.trimmed, Sequence.ofTextAt, String.toList_ofList] at trimmed
    exact Sequence.of_text_within_agree (Scan.of_text_trim clean) read trimmed

end RadixCalc.Calculation
