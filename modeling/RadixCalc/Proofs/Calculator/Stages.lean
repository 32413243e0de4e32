import RadixCalc.Proofs.Calculator.Run

/-!
What the stages of a calculator give. Writing a value changes nothing but the
latest outcome, and evaluating tokens ends as a calculation with them ends. So
entering text is calculating it, whatever the calculator has kept from before.
-/

namespace RadixCalc.Calculator

variable (calculator : Calculator) (journal : List Event) (value : Float) (sequence : Sequence)

/-- The answer to writing a value in the present output base. -/
def written : Reply :=
  .ofEnding calculator.inputBase calculator.outputBase
    (Calculation.outcomeOf calculator.settings calculator.outputBase value)

theorem write_value_reply :
    (calculator.writeValue journal value).reply = calculator.written value := by
  unfold writeValue written Calculation.outcomeOf
  cases Calculation.written calculator.settings value calculator.outputBase with
  | ok result => rfl
  | error stop => cases stop <;> rfl

theorem write_value_calculator :
    (calculator.writeValue journal value).calculator =
      { calculator with last := (calculator.written value).latest calculator.last } := by
  unfold writeValue written Calculation.outcomeOf
  cases Calculation.written calculator.settings value calculator.outputBase with
  | ok result => rfl
  | error stop => cases stop <;> rfl

/-- What evaluating tokens in the present input base gives. -/
abbrev evaluated : Evaluated :=
  sequence.evaluate calculator.functions calculator.inputBase calculator.bindings

section Evaluating

variable {calculator value sequence}

theorem evaluate_tokens_valued (ended : (calculator.evaluated sequence).ending = .ok value) :
    calculator.evaluateTokens sequence =
      { calculator with
        bindings := (calculator.evaluated sequence).bindings
        value := some value }.writeValue (calculator.evaluated sequence).journal value := by
  simp only [evaluateTokens, ended]

/-- Every way that evaluating tokens can go, with what the calculator does then. -/
inductive EvaluationCourse (calculator : Calculator) (sequence : Sequence) : Turn → Prop where
  | valued {value : Float} (ended : (calculator.evaluated sequence).ending = .ok value) :
      EvaluationCourse calculator sequence
        ({ calculator with
          bindings := (calculator.evaluated sequence).bindings
          value := some value }.writeValue (calculator.evaluated sequence).journal value)
  | failed {fault : Fault}
      (ended : (calculator.evaluated sequence).ending = .error (.fault fault)) :
      EvaluationCourse calculator sequence
        ({ calculator with
          bindings := (calculator.evaluated sequence).bindings
          value := none }.fail (calculator.evaluated sequence).journal fault)
  | interrupted {cause : Interruption}
      (ended : (calculator.evaluated sequence).ending = .error (.interruption cause)) :
      EvaluationCourse calculator sequence
        { reply := .interrupted cause
          calculator := { calculator with bindings := (calculator.evaluated sequence).bindings }
          journal := (calculator.evaluated sequence).journal }

theorem evaluate_tokens_course (calculator : Calculator) (sequence : Sequence) :
    calculator.EvaluationCourse sequence (calculator.evaluateTokens sequence) := by
  cases ended : (calculator.evaluated sequence).ending with
  | ok value =>
      rw [evaluate_tokens_valued ended]
      exact .valued ended
  | error stop =>
      cases stop with
      | fault fault =>
          simp only [evaluateTokens, ended]
          exact .failed ended
      | interruption cause =>
          simp only [evaluateTokens, ended, interrupt]
          exact .interrupted ended

/-- The calculator works under these settings, functions and bases. -/
structure Under (settings : Settings) (functions : FunctionTable) (inputBase outputBase : Int)
    (calculator : Calculator) : Prop where
  settings : calculator.settings = settings
  functions : calculator.functions = functions
  inputBase : calculator.inputBase = inputBase
  outputBase : calculator.outputBase = outputBase

theorem evaluate_tokens_under (calculator : Calculator) (sequence : Sequence) :
    Under calculator.settings calculator.functions calculator.inputBase calculator.outputBase
      (calculator.evaluateTokens sequence).calculator := by
  have course := calculator.evaluate_tokens_course sequence
  generalize calculator.evaluateTokens sequence = turn at course ⊢
  cases course with
  | valued ended =>
      rw [write_value_calculator]
      exact ⟨rfl, rfl, rfl, rfl⟩
  | failed ended => exact ⟨rfl, rfl, rfl, rfl⟩
  | interrupted ended => exact ⟨rfl, rfl, rfl, rfl⟩

theorem evaluate_tokens_bases (calculator : Calculator) (sequence : Sequence) :
    (calculator.evaluateTokens sequence).calculator.inputBase = calculator.inputBase ∧
      (calculator.evaluateTokens sequence).calculator.outputBase = calculator.outputBase :=
  have under := calculator.evaluate_tokens_under sequence
  ⟨under.inputBase, under.outputBase⟩

theorem act_enter_bases (calculator : Calculator) (text : String) :
    (calculator.act (.enter text)).calculator.inputBase = calculator.inputBase ∧
      (calculator.act (.enter text)).calculator.outputBase = calculator.outputBase := by
  have course := calculator.act_course (.enter text)
  generalize calculator.act (.enter text) = turn at course ⊢
  cases course with
  | entered filled read => exact evaluate_tokens_bases _ _
  | _ => exact ⟨rfl, rfl⟩

/-- A change is made even if the step is interrupted after it. -/
theorem act_change_bases (calculator : Calculator) (change : BaseChange) :
    (calculator.act (.change change)).calculator.inputBase =
        change.inputFrom calculator.inputBase ∧
      (calculator.act (.change change)).calculator.outputBase =
        change.outputFrom calculator.outputBase := by
  have course := calculator.act_course (.change change)
  generalize calculator.act (.change change) = turn at course ⊢
  cases course with
  | idle nothing =>
      cases change with
      | input base => exact ⟨nothing.symm, rfl⟩
      | output base => exact ⟨rfl, nothing.symm⟩
  | readIn kept => exact evaluate_tokens_bases _ _
  | restatedIn tokenless => exact ⟨rfl, rfl⟩
  | writtenOut found =>
      rw [write_value_calculator]
      exact ⟨rfl, rfl⟩
  | readOut valueless kept => exact evaluate_tokens_bases _ _
  | restatedOut valueless tokenless => exact ⟨rfl, rfl⟩

end Evaluating

/-- Evaluating kept tokens ends as a calculation with them does, and leaves the same variables. -/
theorem evaluate_tokens_calculated :
    Calculation.ofSequence calculator.settings calculator.functions calculator.inputBase
        calculator.outputBase calculator.bindings sequence =
      { reply := (calculator.evaluateTokens sequence).reply
        bindings := (calculator.evaluateTokens sequence).calculator.bindings } := by
  have course := calculator.evaluate_tokens_course sequence
  generalize calculator.evaluateTokens sequence = turn at course ⊢
  cases course with
  | valued ended =>
      rw [write_value_reply, write_value_calculator]
      simp only [Calculation.ofSequence, ended]
      rfl
  | failed ended =>
      simp only [Calculation.ofSequence, ended, fail, finish]
      rfl
  | interrupted ended =>
      simp only [Calculation.ofSequence, ended]
      rfl

/-- Whatever a calculator has kept, entering text answers what calculating the text under its bases
answers, interruption included, and leaves the variables that the calculation leaves. -/
theorem enter_calculated (calculator : Calculator) (text : String) :
    { reply := (calculator.enter text).reply
      bindings := (calculator.enter text).calculator.bindings : Calculated } =
      Calculation.ofText calculator.settings calculator.functions calculator.inputBase
        calculator.outputBase calculator.bindings text := by
  cases blank : (Text.trimmed text).isEmpty with
  | true =>
      rw [enter_blank blank]
      simp only [Calculation.ofText, blank, if_true, finish]
  | false =>
      cases read : Sequence.ofText calculator.settings (Text.trimmed text) with
      | error fault =>
          rw [enter_refused blank read]
          simp only [Calculation.ofText, blank, read, Bool.false_eq_true, if_false, fail, finish,
            Reply.ofEnding]
      | ok sequence =>
          rw [enter_read blank read]
          simp only [Calculation.ofText, blank, read, Bool.false_eq_true, if_false]
          exact (evaluate_tokens_calculated _ sequence).symm

end RadixCalc.Calculator
