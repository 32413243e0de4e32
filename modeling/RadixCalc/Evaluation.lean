import RadixCalc.Arithmetic
import RadixCalc.Bindings
import RadixCalc.FunctionTable
import RadixCalc.Journal
import RadixCalc.Numeral.Reading

/-!
Evaluating a sequence on a stack of operands. Operands stay as they were
written until an operator needs their values, so that an assignment still sees
the name it assigns to, and a variable is looked up as late as possible. The
right operand is resolved before the left one. Arguments of calls are evaluated
in the same table, and whatever was assigned before a failure stays assigned.
-/

namespace RadixCalc

/-- What evaluation changes: the variables, and the journal with its latest event first. -/
structure Workspace where
  bindings : Bindings
  journal : List Event

/-- A computation on a workspace that may stop short. -/
abbrev Evaluation := ExceptT Stop (StateM Workspace)

namespace Operand

/-- The number an operand stands for. A name without a variable is a number if all its characters
are digits of the base. -/
def resolve (base : Int) (bindings : Bindings) : Operand → Except Stop Float
  | number value => .ok value
  | literal digits negative => do
      let value ← Numeral.read digits base
      pure (if negative then -value else value)
  | symbol name =>
      match bindings.get? name with
      | some value => .ok value
      | none =>
          if Numeral.isDigitText name base then Numeral.read name base
          else .error (.fault (.undefinedName name))

end Operand

namespace Token

/-- The number a token stands for by itself; operators and calls stand for none. -/
def resolve (base : Int) (bindings : Bindings) : Token → Except Stop Float
  | .operand value => value.resolve base bindings
  | token => .error (.fault (.notOperand token.kind))

end Token

namespace Evaluation

def note (event : Event) : Evaluation Unit :=
  modify fun workspace => { workspace with journal := event :: workspace.journal }

def fail {α : Type} (fault : Fault) : Evaluation α :=
  throw (.fault fault)

/-- Takes over the result of a computation that touches no workspace. -/
def ofResult {α : Type} : Except Stop α → Evaluation α
  | .ok value => pure value
  | .error stop => throw stop

def resolve (base : Int) (operand : Operand) : Evaluation Float := do
  let workspace ← get
  ofResult (operand.resolve base workspace.bindings)

def assign (name : String) (value : Float) : Evaluation Unit := do
  note (.assigned name value)
  modify fun workspace => { workspace with bindings := workspace.bindings.put name value }

/-- Applies an operator to the two topmost operands. -/
def operate (base : Int) (operator : Operator) : List Operand → Evaluation (List Operand)
  | right :: left :: rest =>
      if operator = .assign then do
        let value ← resolve base right
        match left with
        | .symbol name =>
            assign name value
            pure (.symbol name :: rest)
        | target => fail (.targetNotSymbol target.kind)
      else do
        let second ← resolve base right
        let first ← resolve base left
        let value ← ofResult (operator.apply first second)
        pure (.number value :: rest)
  | stack => fail (.operatorArity operator stack.length)

/-- Finds the computation of a call with so many arguments, before any of them is evaluated. -/
def computationOf (functions : FunctionTable) (name : String) (count : Nat) :
    Except Stop (List Float → Except Stop Float) :=
  match functions.get? name with
  | none => .error (.fault (.undefinedName name))
  | some entry =>
      if entry.arity ≠ count then
        .error (.showing entry.arity fun expected => .argumentCount name expected count)
      else
        match entry.compute with
        | some compute =>
            if entry.builtin then .ok compute else .error (.fault (.unsupportedFunction name))
        | none => .error (.fault (.unsupportedFunction name))

/-- What is left at the end of a sequence of `count` tokens: its value, or 0 if it was empty. -/
def conclude (base : Int) (count : Nat) : List Operand → Evaluation Float
  | [] => pure 0.0
  | [operand] => do
      let value ← resolve base operand
      note (.evaluated count base value)
      pure value
  | _ => fail .missingOperator

mutual

/-- Takes one token in. -/
def takeToken (functions : FunctionTable) (base : Int) :
    Token → List Operand → Evaluation (List Operand)
  | .operand value, stack => pure (value :: stack)
  | .operator operator, stack => operate base operator stack
  | .call name arguments, stack => do
      let compute ← ofResult (computationOf functions name arguments.length)
      let values ← evaluateEach functions base arguments
      let value ← ofResult (compute values)
      pure (.number value :: stack)

/-- Takes tokens in from left to right. -/
def takeAll (functions : FunctionTable) (base : Int) :
    List Token → List Operand → Evaluation (List Operand)
  | [], stack => pure stack
  | token :: rest, stack => do
      let next ← takeToken functions base token stack
      takeAll functions base rest next

/-- Evaluates the arguments of a call from left to right. -/
def evaluateEach (functions : FunctionTable) (base : Int) :
    List (List Token) → Evaluation (List Float)
  | [] => pure []
  | argument :: rest => do
      let stack ← takeAll functions base argument []
      let value ← conclude base argument.length stack
      let values ← evaluateEach functions base rest
      pure (value :: values)

end

theorem take_all_append (functions : FunctionTable) (base : Int) (first second : List Token)
    (stack : List Operand) :
    takeAll functions base (first ++ second) stack =
      takeAll functions base first stack >>= takeAll functions base second := by
  induction first generalizing stack with
  | nil => simp [takeAll]
  | cons token rest induction => simp [takeAll, induction]

/-- Evaluates a sequence in a base, which is checked first. -/
def evaluate (functions : FunctionTable) (base : Int) (sequence : Sequence) :
    Evaluation Float := do
  let _ ← ofResult (Radix.require base)
  let stack ← takeAll functions base sequence []
  conclude base sequence.length stack

end Evaluation

/-- The end of an evaluation: its value or why it stopped, the variables, and what happened. -/
structure Evaluated where
  ending : Except Stop Float
  bindings : Bindings
  journal : List Event

namespace Sequence

def evaluate (sequence : Sequence) (functions : FunctionTable) (base : Int)
    (bindings : Bindings) : Evaluated :=
  let (ending, workspace) :=
    (Evaluation.evaluate functions base sequence).run { bindings, journal := [] }
  { ending, bindings := workspace.bindings, journal := workspace.journal.reverse }

end Sequence

end RadixCalc
