import RadixCalc.Proofs.Calculator.Stages
import RadixCalc.Proofs.Evaluation.Frame

/-!
What another output base does to variables. A kept value is only written again,
and text that was not read stays unread. But tokens whose evaluation stopped are
evaluated once more, and what they assigned before they stopped they assign
again: an expression that counts a variable up and then fails counts it up with
every output base that is tried.
-/

namespace RadixCalc.Calculator

/-- The tokens are those of the text, and if they have no value, that is because they stopped when
they were evaluated last, which left the variables as they are. -/
structure Traced (calculator : Calculator) : Prop where
  read : ∀ sequence, calculator.tokens = some sequence →
    Sequence.ofText calculator.settings calculator.text = .ok sequence
  stopped : calculator.value = none → ∀ sequence, calculator.tokens = some sequence →
    ∃ (before : Bindings) (stop : Stop),
      (sequence.evaluate calculator.functions calculator.inputBase before).ending = .error stop ∧
        (sequence.evaluate calculator.functions calculator.inputBase before).bindings =
          calculator.bindings

variable {calculator : Calculator} {sequence : Sequence}

theorem traced_without_tokens (absent : calculator.tokens = none) : Traced calculator where
  read := by
    intro sequence kept
    rw [absent] at kept
    cases kept
  stopped := by
    intro _ sequence kept
    rw [absent] at kept
    cases kept

theorem write_value_traced {value : Float} (found : calculator.value = some value)
    (read : ∀ sequence, calculator.tokens = some sequence →
      Sequence.ofText calculator.settings calculator.text = .ok sequence)
    (journal : List Event) : Traced (calculator.writeValue journal value).calculator := by
  rw [write_value_calculator]
  constructor
  · exact read
  · intro valueless
    rw [found] at valueless
    cases valueless

/-- Also an interruption leaves the calculator with what the evaluation did. -/
theorem evaluate_tokens_traced (kept : calculator.tokens = some sequence)
    (read : Sequence.ofText calculator.settings calculator.text = .ok sequence) :
    Traced (calculator.evaluateTokens sequence).calculator := by
  have reads : ∀ other, calculator.tokens = some other →
      Sequence.ofText calculator.settings calculator.text = .ok other := by
    intro other same
    rw [← Option.some.inj (kept.symm.trans same)]
    exact read
  -- What stopped is what was kept, with the variables from before as witnesses.
  have left : ∀ stop,
      (sequence.evaluate calculator.functions calculator.inputBase calculator.bindings).ending =
        .error stop →
      ∀ other, calculator.tokens = some other → ∃ (before : Bindings) (stop : Stop),
        (other.evaluate calculator.functions calculator.inputBase before).ending = .error stop ∧
          (other.evaluate calculator.functions calculator.inputBase before).bindings =
            (sequence.evaluate calculator.functions calculator.inputBase
              calculator.bindings).bindings := by
    intro stop ended other same
    rw [← Option.some.inj (kept.symm.trans same)]
    exact ⟨calculator.bindings, stop, ended, rfl⟩
  have course := calculator.evaluate_tokens_course sequence
  generalize calculator.evaluateTokens sequence = turn at course ⊢
  cases course with
  | valued ended =>
      apply write_value_traced
      · rfl
      · exact reads
  | failed ended => exact ⟨reads, fun _ => left _ ended⟩
  | interrupted ended => exact ⟨reads, fun _ => left _ ended⟩

theorem act_traced (traced : Traced calculator) (action : Action) :
    Traced (calculator.act action).calculator := by
  have course := calculator.act_course action
  generalize calculator.act action = turn at course ⊢
  cases course with
  | idle nothing => exact traced
  | blank empty => exact traced_without_tokens rfl
  | refused filled unread => exact traced_without_tokens rfl
  | entered filled read => exact evaluate_tokens_traced rfl read
  | readIn kept => exact evaluate_tokens_traced kept (traced.read _ kept)
  | restatedIn tokenless => exact traced_without_tokens tokenless
  | writtenOut found =>
      apply write_value_traced
      · exact found
      · exact traced.read
  | readOut valueless kept => exact evaluate_tokens_traced kept (traced.read _ kept)
  | restatedOut valueless tokenless => exact traced_without_tokens tokenless

theorem after_traced (traced : Traced calculator) (actions : List Action) :
    Traced (calculator.after actions) := by
  induction actions generalizing calculator with
  | nil => exact traced
  | cons action rest induction => exact induction (act_traced traced action)

theorem evaluate_tokens_bindings (calculator : Calculator) (sequence : Sequence) :
    (calculator.evaluateTokens sequence).calculator.bindings =
      (sequence.evaluate calculator.functions calculator.inputBase
        calculator.bindings).bindings :=
  (congrArg Calculated.bindings (evaluate_tokens_calculated calculator sequence)).symm

/-- Another output base leaves the variables alone, unless tokens are kept without a value. -/
theorem write_in_bindings (calculator : Calculator) (base : Int) :
    (calculator.writeIn base).calculator.bindings = calculator.bindings ∨
      (base ≠ calculator.outputBase ∧ calculator.value = none ∧
        ∃ sequence, calculator.tokens = some sequence ∧
          (calculator.writeIn base).calculator.bindings =
            (sequence.evaluate calculator.functions calculator.inputBase
              calculator.bindings).bindings) := by
  by_cases same : base = calculator.outputBase
  · rw [same, write_in_same]
    exact Or.inl rfl
  have course := calculator.act_course (.change (.output base))
  rw [act_output] at course
  generalize calculator.writeIn base = turn at course ⊢
  cases course with
  | idle nothing => exact Or.inl rfl
  | writtenOut found =>
      rw [write_value_calculator]
      exact Or.inl rfl
  | @readOut _ sequence valueless kept =>
      exact Or.inr ⟨same, valueless, sequence, kept, evaluate_tokens_bindings _ sequence⟩
  | restatedOut valueless tokenless => exact Or.inl rfl

/-- Whatever was entered and whichever bases were chosen before, interrupted or not, another output
base leaves the variables exactly as they were, unless the text was read but has no value, because
its evaluation stopped after it had changed variables. Then it is evaluated once more in the same
input base, and the variables are what that leaves. -/
theorem bindings_after_write_in (settings : Settings) (functions : FunctionTable)
    (inputBase outputBase : Int) (bindings : Bindings) (actions : List Action) (base : Int) :
    let calculator := (start settings functions inputBase outputBase bindings).after actions
    let final := (calculator.writeIn base).calculator
    final.bindings = calculator.bindings ∨
      (base ≠ calculator.outputBase ∧ calculator.value = none ∧
        ∃ (sequence : Sequence) (before : Bindings) (stop : Stop),
          calculator.tokens = some sequence ∧
          Sequence.ofText calculator.settings calculator.text = .ok sequence ∧
          (sequence.evaluate calculator.functions calculator.inputBase before).ending =
            .error stop ∧
          (sequence.evaluate calculator.functions calculator.inputBase before).bindings =
            calculator.bindings ∧
          calculator.bindings ≠ before ∧
          final.bindings = (sequence.evaluate calculator.functions calculator.inputBase
            calculator.bindings).bindings) := by
  intro calculator final
  have started : Traced (start settings functions inputBase outputBase bindings) :=
    traced_without_tokens rfl
  have traced : Traced calculator := after_traced started actions
  rcases write_in_bindings calculator base with
      same | ⟨changed, valueless, sequence, kept, again⟩
  · exact Or.inl same
  obtain ⟨before, stop, stopped, left⟩ := traced.stopped valueless sequence kept
  by_cases same : calculator.bindings = before
  · -- From the same variables the evaluation does again what it did before.
    left
    change (calculator.writeIn base).calculator.bindings = calculator.bindings
    rw [again, same, left, same]
  · exact Or.inr ⟨changed, valueless, sequence, before, stop, kept, traced.read sequence kept,
      stopped, left, same, again⟩

/-- The last assignment has no value to assign, but the one before it is carried out: once when the
text is entered, and once more for the new output base. -/
theorem write_in_assigns_again :
    let calculator := (start {} FunctionTable.standard 10 10 Bindings.standard).after
      [.enter "x=1", .enter "x=x+1=y"]
    calculator.bindings.get? "x" = some 2.0 ∧
      (calculator.writeIn 16).calculator.bindings.get? "x" = some 3.0 ∧
      (calculator.writeIn 16).calculator.bindings ≠ calculator.bindings := by
  intro calculator
  have before : calculator.bindings.get? "x" = some 2.0 := by decide +kernel
  have after : (calculator.writeIn 16).calculator.bindings.get? "x" = some 3.0 := by
    decide +kernel
  refine ⟨before, after, ?_⟩
  intro same
  rw [same, before] at after
  exact absurd after (by decide +kernel)

end RadixCalc.Calculator
