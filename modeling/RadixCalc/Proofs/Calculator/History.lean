import RadixCalc.Proofs.Calculator.Stages
import RadixCalc.Proofs.Evaluation.Frame
import RadixCalc.Proofs.Text.Blank

/-!
The outcome does not depend on the bases visited. After text without assignments
was entered, what a calculator keeps of each stage stays what a calculation from
scratch gives under the present bases, so the latest outcome is that of such a
calculation however often the bases were changed.
-/

namespace RadixCalc

namespace Calculator

/-- Another outcome, value or base, but the same settings, functions and variables. -/
def SameTables (first second : Calculator) : Prop :=
  second.settings = first.settings ∧ second.functions = first.functions ∧
    second.bindings = first.bindings

/-- What is kept of the tokens is what reading the text gives: the tokens, or nothing because the
text is blank or cannot be read. -/
def ReadsText (calculator : Calculator) (text : String) : Prop :=
  match calculator.tokens with
  | some sequence =>
      (Text.trimmed text).isEmpty = false ∧
        Sequence.ofText calculator.settings (Text.trimmed text) = .ok sequence ∧
        sequence.IsAssignmentFree
  | none =>
      (Text.trimmed text).isEmpty = true ∨
        ∃ fault, (Text.trimmed text).isEmpty = false ∧
          Sequence.ofText calculator.settings (Text.trimmed text) = .error fault

/-- The calculation of text under the present bases, in the present table. -/
def calculation (calculator : Calculator) (text : String) : Calculated :=
  Calculation.ofText calculator.settings calculator.functions calculator.inputBase
    calculator.outputBase calculator.bindings text

/-- Every stage that is kept is that of a calculation from scratch, in the tables from the start,
and so is the outcome. -/
structure Current (start : Calculator) (text : String) (calculator : Calculator) : Prop where
  tables : SameTables start calculator
  tokens : calculator.ReadsText text
  value : ∀ value, calculator.value = some value →
    ∃ sequence, calculator.tokens = some sequence ∧
    (sequence.evaluate calculator.functions calculator.inputBase calculator.bindings).ending =
      .ok value
  last : calculator.calculation text =
    { reply := .answered calculator.last, bindings := calculator.bindings }

variable {start calculator : Calculator} {text : String} {sequence : Sequence} {value : Float}

theorem reads_text_some (kept : calculator.tokens = some sequence)
    (reads : calculator.ReadsText text) :
    (Text.trimmed text).isEmpty = false ∧
      Sequence.ofText calculator.settings (Text.trimmed text) = .ok sequence ∧
      sequence.IsAssignmentFree := by
  rw [ReadsText, kept] at reads
  exact reads

/-- Text that was read is calculated from its tokens. -/
theorem calculation_of_tokens (kept : calculator.tokens = some sequence)
    (reads : calculator.ReadsText text) :
    calculator.calculation text =
      Calculation.ofSequence calculator.settings calculator.functions calculator.inputBase
        calculator.outputBase calculator.bindings sequence := by
  obtain ⟨filled, read, -⟩ := reads_text_some kept reads
  simp [calculation, Calculation.ofText, filled, read]

/-- Without tokens the outcome has nothing to do with the bases. -/
theorem calculation_without_tokens (absent : calculator.tokens = none)
    (reads : calculator.ReadsText text) :
    ∃ outcome : Outcome, outcome.result = none ∧ outcome.value = none ∧
      ∀ inputBase outputBase,
        { calculator with inputBase, outputBase }.calculation text =
          { reply := .answered (outcome.withBases inputBase outputBase)
            bindings := calculator.bindings } := by
  rw [ReadsText, absent] at reads
  rcases reads with blank | ⟨fault, filled, refused⟩
  · refine ⟨{ ok := true }, rfl, rfl, ?_⟩
    intro inputBase outputBase
    simp [calculation, Calculation.ofText, blank]
  · refine ⟨.failure fault, rfl, rfl, ?_⟩
    intro inputBase outputBase
    simp [calculation, Calculation.ofText, filled, refused, Reply.ofEnding]

/-- Writing a kept value gives what evaluating and writing gives. -/
theorem write_value_current (tables : SameTables start calculator)
    (kept : calculator.tokens = some sequence) (reads : calculator.ReadsText text)
    (keptValue : calculator.value = some value)
    (ended : (sequence.evaluate calculator.functions calculator.inputBase
      calculator.bindings).ending = .ok value) (journal : List Event)
    (answered : (calculator.writeValue journal value).reply.IsAnswered) :
    Current start text (calculator.writeValue journal value).calculator := by
  have free := (reads_text_some kept reads).2.2
  have scratch := calculation_of_tokens kept reads
  have unchanged := Sequence.evaluate_bindings free calculator.functions calculator.inputBase
    calculator.bindings
  simp only [Calculation.ofSequence, ended, unchanged] at scratch
  rw [write_value_reply] at answered
  rw [write_value_calculator]
  exact
    { tables
      tokens := reads
      value := by
        intro other same
        rw [← Option.some.inj (keptValue.symm.trans same)]
        exact ⟨sequence, kept, ended⟩
      last := by
        refine scratch.trans ?_
        exact congrArg (Calculated.mk · calculator.bindings) (answered.latest calculator.last) }

/-- Evaluating the tokens once more, without assignments, gives what evaluating them the first time
gives in the same base. -/
theorem evaluate_tokens_current (tables : SameTables start calculator)
    (kept : calculator.tokens = some sequence) (reads : calculator.ReadsText text)
    (answered : (calculator.evaluateTokens sequence).reply.IsAnswered) :
    Current start text (calculator.evaluateTokens sequence).calculator := by
  have free := (reads_text_some kept reads).2.2
  have scratch := calculation_of_tokens kept reads
  -- Without this the tokens would be evaluated again in another table than the first time.
  have unchanged := Sequence.evaluate_bindings free calculator.functions calculator.inputBase
    calculator.bindings
  have course := calculator.evaluate_tokens_course sequence
  generalize calculator.evaluateTokens sequence = turn at course answered ⊢
  cases course with
  | valued ended =>
      rw [unchanged] at answered ⊢
      apply write_value_current
      · exact tables
      · exact kept
      · exact reads
      · rfl
      · exact ended
      · exact answered
  | failed ended =>
      simp only [Calculation.ofSequence, ended, unchanged] at scratch
      rw [unchanged]
      exact
        { tables
          tokens := reads
          value := by
            intro other same
            cases same
          last := scratch }
  | interrupted ended =>
      obtain ⟨outcome, same⟩ := answered
      cases same

/-- Without tokens the outcome is repeated under other bases, which is what calculating gives. -/
theorem restate_current (tables : SameTables start calculator)
    (absent : calculator.tokens = none) (valueless : calculator.value = none)
    (reads : calculator.ReadsText text) {inputBase outputBase : Int}
    (last : { calculator with inputBase, outputBase }.calculation text =
      { reply := .answered calculator.last, bindings := calculator.bindings }) :
    Current start text calculator.restate.calculator := by
  obtain ⟨outcome, resultless, empty, scratch⟩ := calculation_without_tokens absent reads
  have before := scratch inputBase outputBase
  rw [last] at before
  simp only [Calculated.mk.injEq, Reply.answered.injEq, and_true] at before
  have here := scratch calculator.inputBase calculator.outputBase
  exact
    { tables
      tokens := reads
      value := by
        intro other same
        exact absurd (valueless.symm.trans same) (by simp)
      last := by
        have repeated : calculator.restate.calculator.last =
            outcome.withBases calculator.inputBase calculator.outputBase := by
          simp [restate, finish, before, Outcome.withBases, resultless, empty]
        rw [repeated]
        exact here }

theorem change_current {change : BaseChange} (current : Current start text calculator)
    (answered : (calculator.act (.change change)).reply.IsAnswered) :
    Current start text (calculator.act (.change change)).calculator := by
  have course := calculator.act_course (.change change)
  generalize calculator.act (.change change) = turn at course answered ⊢
  cases course with
  | idle nothing => exact current
  | readIn kept => exact evaluate_tokens_current current.tables kept current.tokens answered
  | restatedIn tokenless =>
      exact restate_current current.tables tokenless rfl current.tokens current.last
  | writtenOut found =>
      obtain ⟨sequence, kept, ended⟩ := current.value _ found
      apply write_value_current
      · exact current.tables
      · exact kept
      · exact current.tokens
      · exact found
      · exact ended
      · exact answered
  | readOut valueless kept =>
      exact evaluate_tokens_current current.tables kept current.tokens answered
  | restatedOut valueless tokenless =>
      exact restate_current current.tables tokenless valueless current.tokens current.last

/-- Entering text reads it afresh, whatever was kept before. -/
theorem enter_current (free : '=' ∉ text.toList)
    (answered : (calculator.act (.enter text)).reply.IsAnswered) :
    Current calculator text (calculator.act (.enter text)).calculator := by
  have course := calculator.act_course (.enter text)
  generalize calculator.act (.enter text) = turn at course answered ⊢
  cases course with
  | idle nothing => cases nothing
  | blank empty =>
      exact
        { tables := by simp [SameTables, finish]
          tokens := by simp [ReadsText, finish, empty]
          value := by
            intro other same
            cases same
          last := by simp [calculation, Calculation.ofText, empty, finish] }
  | refused filled unread =>
      exact
        { tables := by simp [SameTables, fail, finish]
          tokens := by simp [ReadsText, fail, finish, filled, unread]
          value := by
            intro other same
            cases same
          last := by
            simp [calculation, Calculation.ofText, filled, unread, fail, finish, Reply.ofEnding] }
  | entered filled read =>
      have trimmedFree : '=' ∉ (Text.trimmed text).toList := by
        intro inside
        exact free (Text.trimmed_subset inside)
      exact evaluate_tokens_current ⟨rfl, rfl, rfl⟩ rfl
        ⟨filled, read, Sequence.of_text_assignment_free trimmedFree read⟩ answered

theorem current_after {changes : List BaseChange} (free : '=' ∉ text.toList)
    (completes : calculator.Completes (.enter text :: changes.map .change)) :
    Current calculator text (calculator.after (.enter text :: changes.map .change)) := by
  obtain ⟨entered, changed⟩ := completes
  have current : Current calculator text (calculator.act (.enter text)).calculator :=
    enter_current free entered
  have preserved : ∀ present action, action ∈ changes.map Action.change →
      Current calculator text present → (present.act action).reply.IsAnswered →
      Current calculator text (present.act action).calculator := by
    intro present action member current answered
    obtain ⟨change, -, rfl⟩ := List.mem_map.mp member
    exact change_current current answered
  rw [after_cons]
  exact after_induction (Current calculator text) preserved current changed

theorem after_changes_bases (calculator : Calculator) (changes : List BaseChange) :
    (calculator.after (changes.map .change)).inputBase =
        changes.foldl BaseChange.inputFrom calculator.inputBase ∧
      (calculator.after (changes.map .change)).outputBase =
        changes.foldl BaseChange.outputFrom calculator.outputBase := by
  induction changes generalizing calculator with
  | nil => exact ⟨rfl, rfl⟩
  | cons change rest induction =>
      obtain ⟨input, output⟩ := act_change_bases calculator change
      rw [List.map_cons, after_cons, List.foldl_cons, List.foldl_cons, ← input, ← output]
      exact induction _

/-- After text without assignments, the latest outcome is the one that calculating the text under
the present bases gives, whatever bases were visited in between, and no variable has changed. The
present bases are those of the last changes. -/
theorem last_after_changes (calculator : Calculator) (text : String) (changes : List BaseChange)
    (free : '=' ∉ text.toList)
    (completes : calculator.Completes (.enter text :: changes.map .change)) :
    let final := calculator.after (.enter text :: changes.map .change)
    Calculation.ofText final.settings final.functions final.inputBase final.outputBase
        final.bindings text = { reply := .answered final.last, bindings := final.bindings } ∧
      SameTables calculator final ∧
      final.inputBase = changes.foldl BaseChange.inputFrom calculator.inputBase ∧
      final.outputBase = changes.foldl BaseChange.outputFrom calculator.outputBase := by
  intro final
  have current := current_after free completes
  have entered := act_enter_bases calculator text
  have bases := after_changes_bases (calculator.act (.enter text)).calculator changes
  rw [entered.1, entered.2] at bases
  exact ⟨current.last, current.tables, bases⟩

/-- In base 10 the name stands for nothing and in base 99 no value can be written, yet once the
bases are 16 and 10 the text has a result. -/
theorem last_after_changes_recovered :
    let calculator := Calculator.start {} FunctionTable.standard 10 10 Directory.empty
    let final := calculator.after (.enter "a" ::
      [BaseChange.output 99, .input 16, .output 10].map .change)
    Calculation.ofText {} FunctionTable.standard 16 10 Directory.empty "a" =
        { reply := .answered final.last, bindings := Directory.empty } ∧
      final.text = "a" ∧ final.inputBase = 16 ∧ final.outputBase = 10 ∧
      final.last.result = some "10" ∧ final.last.error = none := by
  intro calculator final
  obtain ⟨calculated, ⟨settings, functions, bindings⟩, inputBase, outputBase⟩ :=
    last_after_changes calculator "a" [.output 99, .input 16, .output 10] (by decide)
      (by decide +kernel)
  change final.inputBase = 16 at inputBase
  change final.outputBase = 10 at outputBase
  rw [inputBase, outputBase, settings, functions, bindings] at calculated
  refine ⟨calculated, ?_, inputBase, outputBase, ?_⟩
  · decide +kernel
  · decide +kernel

end Calculator

end RadixCalc
