import RadixCalc.Calculation

/-!
The calculator. It keeps what each stage of its latest expression gave: the
tokens, the value and the outcome. Another output base only writes the value
again; another input base evaluates the tokens again; text is read only when it
is entered.
-/

namespace RadixCalc

structure Calculator where
  settings : Settings
  functions : FunctionTable
  inputBase : Int
  outputBase : Int
  bindings : Bindings
  text : String
  tokens : Option Sequence
  value : Option Float
  last : Outcome

/-- A step of a calculator: what it answered, the calculator after it, and what happened. -/
structure Turn where
  reply : Reply
  calculator : Calculator
  journal : List Event

namespace Calculator

/-- A calculator that has not been given any text. -/
def start (settings : Settings) (functions : FunctionTable) (inputBase outputBase : Int)
    (bindings : Bindings) : Calculator :=
  { settings, functions, inputBase, outputBase, bindings
    text := ""
    tokens := none
    value := none
    last := ({ ok := true } : Outcome).withBases inputBase outputBase }

/-- Answers with an outcome under the bases of the calculator, and remembers it. -/
def finish (calculator : Calculator) (journal : List Event) (outcome : Outcome) : Turn :=
  let final := outcome.withBases calculator.inputBase calculator.outputBase
  { reply := .answered final, calculator := { calculator with last := final }, journal }

def fail (calculator : Calculator) (journal : List Event) (fault : Fault) : Turn :=
  calculator.finish (journal ++ [.failed calculator.text fault]) (.failure fault)

/-- Leaves the calculator as it is, with the outcome of an earlier step. -/
def interrupt (calculator : Calculator) (journal : List Event) (cause : Interruption) : Turn :=
  { reply := .interrupted cause, calculator, journal }

/-- Writes a value that is already kept. -/
def writeValue (calculator : Calculator) (journal : List Event) (value : Float) : Turn :=
  match Calculation.written calculator.settings value calculator.outputBase with
  | .ok result => calculator.finish journal (.success result value)
  | .error (.fault fault) => calculator.fail journal fault
  | .error (.interruption cause) => calculator.interrupt journal cause

/-- Evaluates tokens that are already kept, and writes the value. An interruption keeps the
variables set so far. -/
def evaluateTokens (calculator : Calculator) (sequence : Sequence) : Turn :=
  let evaluated := sequence.evaluate calculator.functions calculator.inputBase calculator.bindings
  let after := { calculator with bindings := evaluated.bindings, value := none }
  match evaluated.ending with
  | .ok value => { after with value := some value }.writeValue evaluated.journal value
  | .error (.fault fault) => after.fail evaluated.journal fault
  | .error (.interruption cause) =>
      { calculator with bindings := evaluated.bindings }.interrupt evaluated.journal cause

/-- Repeats the latest outcome under the present bases; there is nothing to compute. -/
def restate (calculator : Calculator) : Turn :=
  calculator.finish []
    { ok := calculator.last.ok
      error := calculator.last.error
      errorCode := calculator.last.errorCode }

/-- Takes over trimmed text and what reading it gave. -/
def accept (calculator : Calculator) (expression : String) (lexed : Except Fault Sequence) : Turn :=
  let fresh := { calculator with text := expression, tokens := none, value := none }
  if expression.isEmpty then fresh.finish [] { ok := true }
  else
    match lexed with
    | .error fault => fresh.fail [] fault
    | .ok sequence => { fresh with tokens := some sequence }.evaluateTokens sequence

/-- Runs a new expression through every stage. -/
def enter (calculator : Calculator) (text : String) : Turn :=
  let expression := Text.trimmed text
  calculator.accept expression (Sequence.ofText calculator.settings expression)

/-- Switches the input base and evaluates the kept tokens again. -/
def readIn (calculator : Calculator) (base : Int) : Turn :=
  if base = calculator.inputBase then
    { reply := .answered calculator.last, calculator, journal := [] }
  else
    let switched := { calculator with inputBase := base, value := none }
    match switched.tokens with
    | none => switched.restate
    | some sequence => switched.evaluateTokens sequence

/-- Switches the output base and writes the kept value again. -/
def writeIn (calculator : Calculator) (base : Int) : Turn :=
  if base = calculator.outputBase then
    { reply := .answered calculator.last, calculator, journal := [] }
  else
    let switched := { calculator with outputBase := base }
    match switched.value with
    | some value => switched.writeValue [] value
    | none =>
        match switched.tokens with
        | some sequence => switched.evaluateTokens sequence
        | none => switched.restate

/-- Sets a variable without an expression. -/
def bind (calculator : Calculator) (name : String) (value : Float) : Calculator × List Event :=
  ({ calculator with bindings := calculator.bindings.put name value }, [.assigned name value])

end Calculator

end RadixCalc
