import RadixCalc.Proofs.Expression
import RadixCalc.Proofs.Stopping

/-!
A direct interpreter of expression trees, and the stack of the evaluator beside
it. The interpreter visits the left subtree before the right one, leaves what it
finds unresolved until the operator above is applied, and resolves the right
operand first. It works on the variables alone and keeps neither a stack nor a
journal.
-/

namespace RadixCalc

/-- A computation on the variables that may stop short. -/
abbrev Interpretation := ExceptT Stop (StateM Bindings)

namespace Interpretation

def fail {α : Type} (fault : Fault) : Interpretation α :=
  throw (.fault fault)

def resolve (base : Int) (operand : Operand) : Interpretation Float := do
  let bindings ← get
  match operand.resolve base bindings with
  | .ok value => pure value
  | .error stop => throw stop

def assign (name : String) (value : Float) : Interpretation Unit :=
  modify fun bindings => bindings.put name value

end Interpretation

namespace Expression

open Interpretation

mutual

/-- What a tree leaves for the operator above it. -/
def visit (functions : FunctionTable) (base : Int) : Expression → Interpretation Operand
  | operand value => pure value
  | call name arguments =>
      match functions.get? name with
      | none => fail (.undefinedName name)
      | some entry =>
          if entry.arity ≠ arguments.length then
            throw (.showing entry.arity fun expected =>
              .argumentCount name expected arguments.length)
          else
            match entry.builtin, entry.compute with
            | true, some compute => do
                let values ← visitEach functions base arguments
                match compute values with
                | .ok value => pure (.number value)
                | .error stop => throw stop
            | _, _ => fail (.unsupportedFunction name)
  | arithmetic operation left right => do
      let first ← left.visit functions base
      let second ← right.visit functions base
      let rightValue ← resolve base second
      let leftValue ← resolve base first
      match operation.apply leftValue rightValue with
      | .ok value => pure (.number value)
      | .error stop => throw stop
  | assign target source => do
      let place ← target.visit functions base
      let operand ← source.visit functions base
      let value ← resolve base operand
      match place with
      | .symbol name => do
          Interpretation.assign name value
          pure (.symbol name)
      | other => fail (.targetNotSymbol other.kind)

/-- The values of arguments; one that holds nothing is zero. -/
def visitEach (functions : FunctionTable) (base : Int) :
    List (Option Expression) → Interpretation (List Float)
  | [] => pure []
  | none :: rest => do
      let values ← visitEach functions base rest
      pure (0.0 :: values)
  | some argument :: rest => do
      let operand ← argument.visit functions base
      let value ← resolve base operand
      let values ← visitEach functions base rest
      pure (value :: values)

end

/-- The value of a tree in a base, which must be one that numbers can be read in. -/
def value (functions : FunctionTable) (base : Int) (tree : Expression) : Interpretation Float :=
  if 2 ≤ base ∧ base ≤ 61 then do
    let operand ← tree.visit functions base
    resolve base operand
  else throw (.showing base .unsupportedBase)

def interpret (functions : FunctionTable) (base : Int) (bindings : Bindings) (tree : Expression) :
    Except Stop Float × Bindings :=
  (tree.value functions base).run bindings

end Expression

/-- From the same variables both computations end alike and leave the same variables. -/
def Follows {α : Type} (machine : Evaluation α) (direct : Interpretation α) : Prop :=
  ∀ workspace : Workspace,
    ((machine.run workspace).1, (machine.run workspace).2.bindings) =
      direct.run workspace.bindings

namespace Follows

variable {α β γ : Type}

theorem pure (value : α) : Follows (Pure.pure value) (Pure.pure value) := by
  intro workspace
  rfl

theorem stopped (stop : Stop) :
    Follows (throw stop : Evaluation α) (throw stop : Interpretation α) := by
  intro workspace
  rfl

/-- What the machine goes on with may be another shape of what the direct computation found. -/
theorem bind_map {machine : Evaluation β} {direct : Interpretation α} {shape : α → β}
    {machineNext : β → Evaluation γ} {directNext : α → Interpretation γ}
    (first : Follows machine (shape <$> direct))
    (next : ∀ value, Follows (machineNext (shape value)) (directNext value)) :
    Follows (machine >>= machineNext) (direct >>= directNext) := by
  intro workspace
  have started := first workspace
  rw [run_map] at started
  rw [run_bind, run_bind]
  generalize machine.run workspace = ran at started ⊢
  generalize direct.run workspace.bindings = found at started ⊢
  obtain ⟨ending, after⟩ := ran
  obtain ⟨value, bindings⟩ := found
  simp only [Prod.mk.injEq] at started
  obtain ⟨rfl, rfl⟩ := started
  cases value with
  | error stop => rfl
  | ok value => exact next value after

theorem bind {machine : Evaluation α} {direct : Interpretation α}
    {machineNext : α → Evaluation β} {directNext : α → Interpretation β}
    (first : Follows machine direct)
    (next : ∀ value, Follows (machineNext value) (directNext value)) :
    Follows (machine >>= machineNext) (direct >>= directNext) := by
  rw [← id_map direct] at first
  exact bind_map first next

/-- The journal is the machine's own. -/
theorem note {machine : Evaluation α} {direct : Interpretation α} (event : Event)
    (rest : Follows machine direct) :
    Follows (Evaluation.note event >>= fun _ => machine) direct := by
  intro workspace
  exact rest { workspace with journal := event :: workspace.journal }

theorem resolve (base : Int) (operand : Operand) :
    Follows (Evaluation.resolve base operand) (Interpretation.resolve base operand) := by
  intro workspace
  have direct : (Interpretation.resolve base operand).run workspace.bindings =
      (match operand.resolve base workspace.bindings with
        | .ok value => Pure.pure value
        | .error stop => throw stop : Interpretation Float).run
          workspace.bindings := rfl
  rw [run_resolve, direct]
  cases operand.resolve base workspace.bindings <;> rfl

theorem assign (name : String) (value : Float) :
    Follows (Evaluation.assign name value) (Interpretation.assign name value) := by
  intro workspace
  rfl

end Follows

namespace Expression

open Evaluation

variable (functions : FunctionTable) (base : Int)

/-- An operator takes its operands off the stack unresolved. -/
theorem follows_arithmetic (operation : Arithmetic) (first second : Operand)
    (stack : List Operand) :
    Follows (operate base (.arithmetic operation) (second :: first :: stack))
      ((· :: stack) <$> (do
        let rightValue ← Interpretation.resolve base second
        let leftValue ← Interpretation.resolve base first
        match operation.apply leftValue rightValue with
        | .ok value => pure (.number value)
        | .error stop => throw stop)) := by
  simp only [operate, map_bind]
  apply Follows.bind (Follows.resolve base second)
  intro rightValue
  apply Follows.bind (Follows.resolve base first)
  intro leftValue
  simp only [Operator.apply]
  cases operation.apply leftValue rightValue with
  | error stop => exact Follows.stopped stop
  | ok value => exact Follows.pure _

theorem follows_assign (place source : Operand) (stack : List Operand) :
    Follows (operate base .assign (source :: place :: stack))
      ((· :: stack) <$> (do
        let value ← Interpretation.resolve base source
        match place with
        | .symbol name => do
            Interpretation.assign name value
            pure (.symbol name)
        | other => Interpretation.fail (.targetNotSymbol other.kind))) := by
  simp only [operate, map_bind]
  apply Follows.bind (Follows.resolve base source)
  intro value
  cases place with
  | symbol name =>
      simp only [map_bind]
      exact Follows.bind (Follows.assign name value) (fun _ => Follows.pure _)
  | number found => exact Follows.stopped _
  | literal digits negative => exact Follows.stopped _

/-- One operand on the stack is the value of the whole. -/
theorem follows_conclude (count : Nat) (operand : Operand) :
    Follows (conclude base count [operand]) (Interpretation.resolve base operand) := by
  have direct : Interpretation.resolve base operand =
      (Interpretation.resolve base operand >>= pure) := (bind_pure _).symm
  rw [direct]
  apply Follows.bind (Follows.resolve base operand)
  intro value
  exact Follows.note _ (Follows.pure value)

mutual

/-- Taking in the postorder of a tree puts what the tree leaves on top of the stack. -/
theorem follows_visit (tree : Expression) (stack : List Operand) :
    Follows (takeAll functions base tree.postorder stack)
      ((· :: stack) <$> tree.visit functions base) := by
  cases tree with
  | operand value =>
      simp only [postorder, visit, takeAll, takeToken, pure_bind]
      exact Follows.pure _
  | call name arguments =>
      simp only [postorder, visit, takeAll, takeToken, bind_pure, postorder_each_length]
      rw [computationOf]
      cases functions.get? name with
      | none => exact Follows.stopped _
      | some entry =>
          by_cases mismatch : entry.arity ≠ arguments.length
          · simp only [if_pos mismatch]
            exact Follows.stopped _
          · simp only [if_neg mismatch]
            cases entry.compute with
            | none => cases entry.builtin <;> exact Follows.stopped _
            | some compute =>
                cases entry.builtin with
                | false => exact Follows.stopped _
                | true =>
                    simp only [map_bind, ofResult]
                    apply Follows.bind (follows_visit_each arguments)
                    intro values
                    cases compute values with
                    | error stop => exact Follows.stopped stop
                    | ok value => exact Follows.pure _
  | arithmetic operation left right =>
      -- The right operand is taken in on top of what the left one has put on the stack.
      rw [postorder, visit, take_all_append, take_all_append, bind_assoc, map_bind]
      apply Follows.bind_map (follows_visit left stack)
      intro first
      rw [map_bind]
      apply Follows.bind_map (follows_visit right (first :: stack))
      intro second
      simp only [takeAll, takeToken, bind_pure]
      exact follows_arithmetic base operation first second stack
  | assign target source =>
      rw [postorder, visit, take_all_append, take_all_append, bind_assoc, map_bind]
      apply Follows.bind_map (follows_visit target stack)
      intro place
      rw [map_bind]
      apply Follows.bind_map (follows_visit source (place :: stack))
      intro operand
      simp only [takeAll, takeToken, bind_pure]
      exact follows_assign base place operand stack

theorem follows_visit_each (arguments : List (Option Expression)) :
    Follows (evaluateEach functions base (postorderEach arguments))
      (visitEach functions base arguments) := by
  cases arguments with
  | nil => exact Follows.pure []
  | cons argument rest =>
      cases argument with
      | none =>
          simp only [postorderEach, evaluateEach, visitEach, takeAll, conclude, pure_bind]
          exact Follows.bind (follows_visit_each rest) (fun _ => Follows.pure _)
      | some argument =>
          simp only [postorderEach, evaluateEach, visitEach]
          apply Follows.bind_map (follows_visit argument [])
          intro operand
          apply Follows.bind (follows_conclude base _ operand)
          intro value
          exact Follows.bind (follows_visit_each rest) (fun _ => Follows.pure _)

end

/-- The faults of a sequence that is no expression: too few operands, or too few operators. -/
def isMalformed : Fault → Bool
  | .operatorArity _ _ => true
  | .missingOperator => true
  | _ => false

/-- Where a fault of malformed sequences can come from: only a computation of the table can hand
one out. -/
def OfComputation (functions : FunctionTable) (fault : Fault) : Prop :=
  isMalformed fault = true →
    ∃ name entry compute values, functions.get? name = some entry ∧
      entry.compute = some compute ∧ compute values = .error (.fault fault)

/-- An interruption says nothing about operands and operators. -/
def StopOfComputation (functions : FunctionTable) : Stop → Prop
  | .fault fault => OfComputation functions fault
  | .interruption _ => True

theorem stop_of_shown {number : Int} {faults : Fault → Prop} {stop : Stop}
    (shows : stop.Shows number faults)
    (harmless : ∀ fault, faults fault → isMalformed fault = false) :
    StopOfComputation functions stop := by
  cases stop with
  | fault fault =>
      intro malformed
      rw [harmless fault shows] at malformed
      cases malformed
  | interruption cause => trivial

theorem resolve_within (operand : Operand) :
    StopsWithin (StopOfComputation functions) (Interpretation.resolve base operand) := by
  intro bindings stop ended
  have opened : (Interpretation.resolve base operand).run bindings =
      (match operand.resolve base bindings with
        | .ok value => pure value
        | .error stop => throw stop : Interpretation Float).run bindings := rfl
  rw [opened] at ended
  cases resolved : operand.resolve base bindings with
  | ok value =>
      rw [resolved] at ended
      cases ended
  | error other =>
      rw [resolved] at ended
      obtain rfl : other = stop := Except.error.inj ended
      apply stop_of_shown functions (Operand.resolve_stop resolved)
      intro fault kinds
      cases fault <;>
        simp_all [isMalformed, Fault.kind, Fault.report, FaultKind.lineage, FaultKind.above]

theorem fail_within (fault : Fault) (harmless : isMalformed fault = false) {α : Type} :
    StopsWithin (StopOfComputation functions) (Interpretation.fail fault : Interpretation α) := by
  apply StopsWithin.stopped
  intro malformed
  rw [harmless] at malformed
  cases malformed

theorem showing_within (number : Int) (shape : ShownInt → Fault)
    (harmless : ∀ shown, isMalformed (shape shown) = false) {α : Type} :
    StopsWithin (StopOfComputation functions)
      (throw (.showing number shape) : Interpretation α) := by
  have shows : (Stop.showing number shape).Shows number fun fault => isMalformed fault = false :=
    Stop.showing_shows fun shown _ => harmless shown
  exact StopsWithin.stopped (stop_of_shown functions shows fun _ harmless => harmless)

mutual

theorem visit_within (tree : Expression) :
    StopsWithin (StopOfComputation functions) (tree.visit functions base) := by
  cases tree with
  | operand value => exact StopsWithin.pure value
  | call name arguments =>
      rw [visit]
      split
      · exact fail_within functions _ rfl
      · rename_i entry found
        split
        · exact showing_within functions _ _ fun _ => rfl
        · split
          · rename_i compute _ computation
            apply StopsWithin.bind (visit_each_within arguments)
            intro values
            split
            · exact StopsWithin.pure _
            · rename_i stop refused
              -- Here, and only here, the table may hand out a fault of malformed sequences.
              apply StopsWithin.stopped
              cases stop with
              | fault fault =>
                  intro _
                  exact ⟨name, entry, compute, values, found, computation, refused⟩
              | interruption cause => trivial
          · exact fail_within functions _ rfl
  | arithmetic operation left right =>
      rw [visit]
      apply StopsWithin.bind (visit_within left)
      intro first
      apply StopsWithin.bind (visit_within right)
      intro second
      apply StopsWithin.bind (resolve_within functions base second)
      intro rightValue
      apply StopsWithin.bind (resolve_within functions base first)
      intro leftValue
      split
      · exact StopsWithin.pure _
      · rename_i stop refused
        rw [Arithmetic.apply_stop refused]
        exact StopsWithin.stopped trivial
  | assign target source =>
      rw [visit]
      apply StopsWithin.bind (visit_within target)
      intro place
      apply StopsWithin.bind (visit_within source)
      intro operand
      apply StopsWithin.bind (resolve_within functions base operand)
      intro value
      split
      · apply StopsWithin.bind
        · intro bindings fault ended
          cases ended
        · intro _
          exact StopsWithin.pure _
      · exact fail_within functions _ rfl

theorem visit_each_within (arguments : List (Option Expression)) :
    StopsWithin (StopOfComputation functions) (visitEach functions base arguments) := by
  cases arguments with
  | nil => exact StopsWithin.pure []
  | cons argument rest =>
      cases argument with
      | none =>
          rw [visitEach]
          exact StopsWithin.bind (visit_each_within rest) (fun _ => StopsWithin.pure _)
      | some argument =>
          rw [visitEach]
          apply StopsWithin.bind (visit_within argument)
          intro operand
          apply StopsWithin.bind (resolve_within functions base operand)
          intro value
          exact StopsWithin.bind (visit_each_within rest) (fun _ => StopsWithin.pure _)

end

theorem value_within (tree : Expression) :
    StopsWithin (StopOfComputation functions) (tree.value functions base) := by
  rw [value]
  split
  · exact StopsWithin.bind (visit_within functions base tree)
      (fun operand => resolve_within functions base operand)
  · exact showing_within functions _ _ fun _ => rfl

theorem follows_value (tree : Expression) :
    Follows (Evaluation.evaluate functions base tree.postorder) (tree.value functions base) := by
  rw [Evaluation.evaluate, value, Radix.require, Radix.ofInt?]
  by_cases supported : 2 ≤ base ∧ base ≤ 61
  · rw [dif_pos supported, if_pos supported]
    simp only [ofResult, pure_bind]
    exact Follows.bind_map (follows_visit functions base tree [])
      (fun operand => follows_conclude base _ operand)
  · rw [dif_neg supported, if_neg supported]
    exact Follows.stopped _

/-- On the postorder of a tree the evaluator ends as the direct interpreter does and leaves the same
variables. Operands and operators always match: a fault that says they do not is one that a
computation of the function table has handed out. -/
theorem evaluate_postorder (bindings : Bindings) (tree : Expression) :
    ((tree.postorder.evaluate functions base bindings).ending,
        (tree.postorder.evaluate functions base bindings).bindings) =
      tree.interpret functions base bindings ∧
    ∀ fault, (tree.postorder.evaluate functions base bindings).ending = .error (.fault fault) →
      OfComputation functions fault := by
  have same := follows_value functions base tree { bindings, journal := [] }
  refine ⟨same, ?_⟩
  intro fault ended
  apply value_within functions base tree bindings (.fault fault)
  rw [← congrArg Prod.fst same]
  exact ended

end Expression

end RadixCalc
