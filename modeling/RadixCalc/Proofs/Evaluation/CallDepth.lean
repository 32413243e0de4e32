import RadixCalc.Evaluation
import RadixCalc.Proofs.Sequence.CallDepth

/-!
How deep evaluation goes. Evaluation is written here with a bound on its depth:
an argument that stands inside more calls than the bound is handed to something
else. If that is never noticed, whatever it is, then evaluation never goes that
deep, and it does not for any text that has been read.
-/

namespace RadixCalc

namespace Evaluation

section Level

variable (functions : FunctionTable) (base : Int) (valueOf : Sequence → Evaluation Float)

def eachBy : List Sequence → Evaluation (List Float)
  | [] => pure []
  | argument :: rest => do
      let value ← valueOf argument
      let values ← eachBy rest
      pure (value :: values)

/-- Takes one token in, with any way to find the value of an argument. -/
def tokenBy : Token → List Operand → Evaluation (List Operand)
  | .operand value, stack => pure (value :: stack)
  | .operator operator, stack => operate base operator stack
  | .call name arguments, stack => do
      let compute ← ofResult (computationOf functions name arguments.length)
      let values ← eachBy valueOf arguments
      let value ← ofResult (compute values)
      pure (.number value :: stack)

def allBy : Sequence → List Operand → Evaluation (List Operand)
  | [], stack => pure stack
  | token :: rest, stack => do
      let next ← tokenBy functions base valueOf token stack
      allBy rest next

def valueBy (sequence : Sequence) : Evaluation Float := do
  let stack ← allBy functions base valueOf sequence []
  conclude base sequence.length stack

end Level

section Bounded

variable (functions : FunctionTable) (base : Int) (beyond : Sequence → Evaluation Float)

/-- The value of a sequence, with at most so many levels of arguments below it; those of the next
level are handed to `beyond`. -/
def valueWithin : Nat → Sequence → Evaluation Float
  | 0 => valueBy functions base beyond
  | levels + 1 => valueBy functions base (valueWithin levels)

/-- Evaluation with at most so many levels below the top. -/
def evaluateWithin (levels : Nat) (sequence : Sequence) : Evaluation Float := do
  let _ ← ofResult (Radix.require base)
  valueWithin functions base beyond levels sequence

end Bounded

variable {functions : FunctionTable} {base : Int} {valueOf : Sequence → Evaluation Float}
  {limit : Nat}

/-- The value of a sequence whose base has been checked. -/
def plainValue (functions : FunctionTable) (base : Int) (sequence : Sequence) :
    Evaluation Float := do
  let stack ← takeAll functions base sequence []
  conclude base sequence.length stack

theorem each_by_plain (arguments : List Sequence)
    (plain : ∀ argument ∈ arguments, valueOf argument = plainValue functions base argument) :
    eachBy valueOf arguments = evaluateEach functions base arguments := by
  induction arguments with
  | nil => rw [eachBy, evaluateEach]
  | cons argument rest induction =>
      have tail := induction fun other member => plain other (by simp [member])
      rw [eachBy, evaluateEach, plain argument (by simp), tail, plainValue, bind_assoc]

theorem token_by_plain {token : Token} (fits : token.callDepth ≤ limit)
    (plain : ∀ argument : Sequence, argument.callDepth < limit →
      valueOf argument = plainValue functions base argument) (stack : List Operand) :
    tokenBy functions base valueOf token stack = takeToken functions base token stack := by
  cases token with
  | operand value => rw [tokenBy, takeToken]
  | operator operator => rw [tokenBy, takeToken]
  | call name arguments =>
      rw [Token.callDepth, Nat.succ_le_iff] at fits
      have each := each_by_plain arguments fun argument member =>
        plain argument (Nat.lt_of_le_of_lt (Sequence.call_depth_le_each member) fits)
      rw [tokenBy, takeToken, each]

theorem all_by_plain {sequence : Sequence} (fits : sequence.callDepth ≤ limit)
    (plain : ∀ argument : Sequence, argument.callDepth < limit →
      valueOf argument = plainValue functions base argument) (stack : List Operand) :
    allBy functions base valueOf sequence stack = takeAll functions base sequence stack := by
  induction sequence generalizing stack with
  | nil => rw [allBy, takeAll]
  | cons token rest induction =>
      obtain ⟨first, later⟩ := Sequence.call_depth_cons_le.mp fits
      rw [allBy, takeAll, token_by_plain first plain]
      congr 1
      funext next
      exact induction later next

theorem value_by_plain {sequence : Sequence} (fits : sequence.callDepth ≤ limit)
    (plain : ∀ argument : Sequence, argument.callDepth < limit →
      valueOf argument = plainValue functions base argument) :
    valueBy functions base valueOf sequence = plainValue functions base sequence := by
  rw [valueBy, plainValue, all_by_plain fits plain]

/-- A sequence whose calls nest no deeper than the bound never comes to what lies beyond it. -/
theorem value_within_plain {sequence : Sequence} (beyond : Sequence → Evaluation Float)
    (fits : sequence.callDepth ≤ limit) :
    valueWithin functions base beyond limit sequence = plainValue functions base sequence := by
  induction limit generalizing sequence with
  | zero => exact value_by_plain fits fun argument less => absurd less (Nat.not_lt_zero _)
  | succ limit induction =>
      exact value_by_plain fits fun argument less => induction (Nat.le_of_lt_succ less)

theorem evaluate_within_plain {sequence : Sequence} (beyond : Sequence → Evaluation Float)
    (fits : sequence.callDepth ≤ limit) :
    evaluateWithin functions base beyond limit sequence = evaluate functions base sequence := by
  rw [evaluateWithin, value_within_plain beyond fits]
  rfl

end Evaluation

namespace Sequence

/-- A text that is read inside so many calls has calls that fit into the levels left. Inside any
other number of calls it is read as the same tokens if they fit there, and is too deep if they do
not. To evaluate it takes no more levels of arguments than were left, so nothing that might be done
with an argument further down makes a difference. -/
theorem of_text_at_call_depth (settings : Settings) (depth : Int) (text : String)
    {sequence : Sequence} (read : ofTextAt settings depth text = .ok sequence) :
    (sequence.callDepth : Int) ≤ settings.callDepth - depth ∧
    (∀ other : Int, ofTextAt settings other text =
      if other + sequence.callDepth ≤ settings.callDepth then .ok sequence
      else .error (.tooDeep settings.callDepth)) ∧
    (Fault.tooDeep settings.callDepth).kind = .validation ∧
    (Fault.tooDeep settings.callDepth).code = "TOO_DEEP" ∧
    ∀ (functions : FunctionTable) (base : Int) (beyond : Sequence → Evaluation Float),
      Evaluation.evaluateWithin functions base beyond (settings.callDepth - depth).toNat sequence =
        Evaluation.evaluate functions base sequence := by
  have within := call_depth_of_text_within read
  rw [levelsAt] at within
  have bounded : (sequence.callDepth : Int) ≤ settings.callDepth - depth := by omega
  refine ⟨bounded, ?_, rfl, rfl, ?_⟩
  · intro other
    have limited := of_text_within_limited read (levelsAt settings other)
    have fits : sequence.callDepth < levelsAt settings other ↔
        other + sequence.callDepth ≤ settings.callDepth := by
      rw [levelsAt]
      omega
    simp only [fits] at limited
    exact limited
  · intro functions base beyond
    apply Evaluation.evaluate_within_plain
    omega

/-- A blank argument takes a level as well: inside 98 calls the two that nest here still fit. -/
theorem of_text_at_call_depth_limit :
    let sequence : Sequence := [.call "fac" [[.call "sqrt" []]], .call "f" [], .operator .assign]
    ofTextAt {} 98 "fac(sqrt( ))=f()" = .ok sequence ∧
      ofTextAt {} 99 "fac(sqrt( ))=f()" = .error (.tooDeep (Settings.callDepth {})) ∧
      ∀ beyond, Evaluation.evaluateWithin FunctionTable.standard 10 beyond 2 sequence =
        Evaluation.evaluate FunctionTable.standard 10 sequence := by
  intro sequence
  have read : ofTextAt {} 98 "fac(sqrt( ))=f()" = .ok sequence := by cbv
  obtain ⟨-, others, -, -, evaluates⟩ := of_text_at_call_depth {} 98 "fac(sqrt( ))=f()" read
  exact ⟨read, others 99, evaluates FunctionTable.standard 10⟩

end Sequence

end RadixCalc
