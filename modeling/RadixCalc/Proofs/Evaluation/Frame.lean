import RadixCalc.Proofs.Evaluation.Discipline

/-!
What evaluation leaves as it was. Variables change only where an assignment is
carried out, so a sequence without assignments gives back the table it was
given, whether it ends or stops.
-/

namespace RadixCalc

/-- A way for tables to follow one another, in no step or in several. -/
structure Reach where
  leads : Bindings → Bindings → Prop
  stays : ∀ bindings, leads bindings bindings
  joins : ∀ first second third, leads first second → leads second third → leads first third

/-- Nothing changes. -/
def Reach.unchanged : Reach where
  leads := (· = ·)
  stays _ := rfl
  joins _ _ _ := Eq.trans

namespace Evaluation

variable {α β : Type}

/-- From every workspace the computation leads to variables within reach. -/
def Moves (reach : Reach) (computation : Evaluation α) : Prop :=
  ∀ workspace, reach.leads workspace.bindings (computation.run workspace).2.bindings

namespace Moves

variable {reach : Reach}

theorem pure (value : α) : Moves reach (Pure.pure value) := by
  intro workspace
  exact reach.stays workspace.bindings

theorem stopped (stop : Stop) : Moves reach (throw stop : Evaluation α) := by
  intro workspace
  exact reach.stays workspace.bindings

theorem bind {computation : Evaluation α} {next : α → Evaluation β}
    (first : Moves reach computation)
    (rest : ∀ value, EndsWith computation value → Moves reach (next value)) :
    Moves reach (computation >>= next) := by
  intro workspace
  have started := first workspace
  rw [run_bind]
  cases ran : computation.run workspace with
  | mk ending after =>
      rw [ran] at started
      cases ending with
      | error stop => exact started
      | ok value =>
          have ended : EndsWith computation value := ⟨workspace, by rw [ran]⟩
          exact reach.joins _ _ _ started (rest value ended after)

theorem note (event : Event) : Moves reach (Evaluation.note event) := by
  intro workspace
  exact reach.stays workspace.bindings

theorem result (ending : Except Stop α) : Moves reach (ofResult ending) := by
  cases ending with
  | ok value => exact pure value
  | error stop => exact stopped stop

theorem resolve (base : Int) (operand : Operand) :
    Moves reach (Evaluation.resolve base operand) := by
  intro workspace
  rw [run_resolve]
  exact result (operand.resolve base workspace.bindings) workspace

theorem conclude (base : Int) (count : Nat) (stack : List Operand) :
    Moves reach (Evaluation.conclude base count stack) := by
  match stack with
  | [] => exact pure 0.0
  | [operand] =>
      apply bind (resolve base operand)
      intro value _
      apply bind (note _)
      intro _ _
      exact pure value
  | _ :: _ :: _ => exact stopped (.fault .missingOperator)

/-- Without an assignment an operator only looks variables up. -/
theorem operate {operator : Operator} (other : operator ≠ .assign) (base : Int)
    (stack : List Operand) : Moves reach (Evaluation.operate base operator stack) := by
  match stack with
  | [] => exact stopped (.fault (.operatorArity operator 0))
  | [_] => exact stopped (.fault (.operatorArity operator 1))
  | right :: left :: rest =>
      rw [Evaluation.operate, if_neg other]
      apply bind (resolve base right)
      intro second _
      apply bind (resolve base left)
      intro first _
      apply bind (result (operator.apply first second))
      intro value _
      exact pure _

/-- Assignments aside, no step changes a variable. -/
theorem discipline (functions : FunctionTable) (base : Int) :
    Discipline functions base (· ≠ .operator .assign) (fun _ => True) (Moves reach) where
  pure := pure
  bind := bind
  operand _ _ := trivial
  number _ := trivial
  operates operator stack other _ := by
    refine operate ?_ base stack
    rintro rfl
    exact other rfl
  finds _ _ := result _
  computes _ _ _ _ := result _
  concludes count stack _ := conclude base count stack

end Moves

end Evaluation

namespace Sequence

/-- Without assignments the table is left exactly as it was, however the evaluation ends. -/
theorem evaluate_bindings {sequence : Sequence} (free : sequence.IsAssignmentFree)
    (functions : FunctionTable) (base : Int) (bindings : Bindings) :
    (sequence.evaluate functions base bindings).bindings = bindings := by
  have discipline : Evaluation.Discipline functions base (· ≠ .operator .assign) (fun _ => True)
      (Evaluation.Moves .unchanged) := Evaluation.Moves.discipline functions base
  have moves := discipline.evaluate (Evaluation.Moves.result _) free
  exact (moves { bindings, journal := [] }).symm

end Sequence

end RadixCalc
