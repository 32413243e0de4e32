import RadixCalc.Proofs.Evaluation.Shape
import RadixCalc.Proofs.Sequence.Everywhere

/-!
What holds of an evaluation because it holds of its steps. If a property of
computations passes from the parts of a chain to the whole, and operators, the
functions that are called and the end of a sequence have it, then taking tokens
in has it too, at every depth of calls. What is known of the tokens and of the
operands that wait for an operator may be relied on at each step.
-/

namespace RadixCalc

namespace Evaluation

/-- Every step of an evaluation keeps to the property, as long as the tokens and the operands on
the stack are allowed ones. -/
structure Discipline (functions : FunctionTable) (base : Int) (tokens : Token → Prop)
    (operands : Operand → Prop) (keeps : {α : Type} → Evaluation α → Prop) : Prop where
  pure : ∀ {α : Type} (value : α), keeps (Pure.pure value)
  bind : ∀ {α β : Type} {first : Evaluation α} {next : α → Evaluation β}, keeps first →
    (∀ value, EndsWith first value → keeps (next value)) → keeps (first >>= next)
  operand : ∀ value, tokens (.operand value) → operands value
  number : ∀ value, operands (.number value)
  operates : ∀ operator stack, tokens (.operator operator) →
    (∀ operand ∈ stack, operands operand) → keeps (operate base operator stack)
  finds : ∀ name count, keeps (ofResult (computationOf functions name count))
  computes : ∀ name values compute, computationOf functions name values.length = .ok compute →
    keeps (ofResult (compute values))
  concludes : ∀ count stack, (∀ operand ∈ stack, operands operand) →
    keeps (conclude base count stack)

theorem evaluate_each_length {functions : FunctionTable} {base : Int} (arguments : List Sequence)
    {values : List Float} (ends : EndsWith (evaluateEach functions base arguments) values) :
    values.length = arguments.length := by
  induction arguments generalizing values with
  | nil => rw [← ends.of_pure, List.length_nil, List.length_nil]
  | cons argument rest induction =>
      obtain ⟨stack, -, concluding⟩ := ends.of_bind
      obtain ⟨value, -, remaining⟩ := concluding.of_bind
      obtain ⟨others, evaluated, finished⟩ := remaining.of_bind
      rw [← finished.of_pure, List.length_cons, List.length_cons, induction evaluated]

namespace Discipline

variable {functions : FunctionTable} {base : Int} {tokens : Token → Prop}
  {operands : Operand → Prop} {keeps : {α : Type} → Evaluation α → Prop}
  (discipline : Discipline functions base tokens operands keeps)

include discipline

/-- An operator leaves a number, or the name below on the stack that it assigned to. -/
theorem operate_operands {operator : Operator} {stack next : List Operand}
    (allowed : ∀ operand ∈ stack, operands operand)
    (ends : EndsWith (operate base operator stack) next) :
    ∀ operand ∈ next, operands operand := by
  obtain ⟨right, left, rest, rfl, ended⟩ := operate_ends ends
  obtain ⟨-, leftAllowed, restAllowed⟩ : operands right ∧ operands left ∧
      ∀ operand ∈ rest, operands operand := by
    simpa using allowed
  rcases ended with ⟨operation, value, -, rfl⟩ | ⟨name, -, rfl, rfl⟩
  · exact List.forall_mem_cons.mpr ⟨discipline.number value, restAllowed⟩
  · exact List.forall_mem_cons.mpr ⟨leftAllowed, restAllowed⟩

theorem take_token_operands {token : Token} (known : token.Everywhere tokens)
    {stack next : List Operand} (allowed : ∀ operand ∈ stack, operands operand)
    (ends : EndsWith (takeToken functions base token stack) next) :
    ∀ operand ∈ next, operands operand := by
  cases token with
  | operand value =>
      rw [← ends.of_pure]
      exact List.forall_mem_cons.mpr ⟨discipline.operand value known, allowed⟩
  | operator operator => exact discipline.operate_operands allowed ends
  | call name arguments =>
      obtain ⟨compute, -, called⟩ := ends.of_bind
      obtain ⟨values, -, computing⟩ := called.of_bind
      obtain ⟨value, -, finished⟩ := computing.of_bind
      rw [← finished.of_pure]
      exact List.forall_mem_cons.mpr ⟨discipline.number value, allowed⟩

theorem take_all_operands {sequence : Sequence} (known : Sequence.Everywhere tokens sequence)
    {stack next : List Operand} (allowed : ∀ operand ∈ stack, operands operand)
    (ends : EndsWith (takeAll functions base sequence stack) next) :
    ∀ operand ∈ next, operands operand := by
  induction sequence generalizing stack with
  | nil =>
      rw [← ends.of_pure]
      exact allowed
  | cons token rest induction =>
      obtain ⟨middle, first, later⟩ := ends.of_bind
      exact induction known.2 (discipline.take_token_operands known.1 allowed first) later

mutual

theorem take_token (token : Token) (known : token.Everywhere tokens) {stack : List Operand}
    (allowed : ∀ operand ∈ stack, operands operand) :
    keeps (takeToken functions base token stack) := by
  match token with
  | .operand value => exact discipline.pure _
  | .operator operator => exact discipline.operates operator stack known allowed
  | .call name arguments =>
      apply discipline.bind (discipline.finds name arguments.length)
      intro compute found
      apply discipline.bind (evaluate_each arguments known.2)
      intro values evaluated
      -- The function is called with as many values as it was looked up for.
      have computable : computationOf functions name values.length = .ok compute := by
        rw [evaluate_each_length arguments evaluated]
        exact found.of_result
      apply discipline.bind (discipline.computes name values compute computable)
      intro value _
      exact discipline.pure _

theorem take_all (sequence : List Token) (known : Sequence.Everywhere tokens sequence)
    {stack : List Operand} (allowed : ∀ operand ∈ stack, operands operand) :
    keeps (takeAll functions base sequence stack) := by
  match sequence with
  | [] => exact discipline.pure stack
  | token :: rest =>
      apply discipline.bind (take_token token known.1 allowed)
      intro next taken
      exact take_all rest known.2 (discipline.take_token_operands known.1 allowed taken)

theorem evaluate_each (arguments : List (List Token))
    (known : Sequence.EverywhereEach tokens arguments) :
    keeps (evaluateEach functions base arguments) := by
  match arguments with
  | [] => exact discipline.pure []
  | argument :: rest =>
      -- Each argument starts with a stack of its own.
      have nothing : ∀ operand ∈ ([] : List Operand), operands operand := by simp
      apply discipline.bind (take_all argument known.1 nothing)
      intro stack taken
      have allowed := discipline.take_all_operands known.1 nothing taken
      apply discipline.bind (discipline.concludes argument.length stack allowed)
      intro value _
      apply discipline.bind (evaluate_each rest known.2)
      intro values _
      exact discipline.pure _

end

/-- With the check of the base, the whole evaluation keeps to the property. -/
theorem evaluate (checked : keeps (ofResult (Radix.require base))) {sequence : Sequence}
    (known : Sequence.Everywhere tokens sequence) :
    keeps (Evaluation.evaluate functions base sequence) := by
  have nothing : ∀ operand ∈ ([] : List Operand), operands operand := by simp
  apply discipline.bind checked
  intro _ _
  apply discipline.bind (discipline.take_all sequence known nothing)
  intro stack taken
  exact discipline.concludes sequence.length stack
    (discipline.take_all_operands known nothing taken)

end Discipline

end Evaluation

end RadixCalc
