import RadixCalc.Stop
import RadixCalc.Text.JsonText

/-!
The outcome of a calculation as it is handed out: the written result with its
value, or the error with its code, and the bases in use.
-/

namespace RadixCalc

structure Outcome where
  ok : Bool
  result : Option String := none
  value : Option Float := none
  inputBase : Option Int := none
  outputBase : Option Int := none
  error : Option String := none
  errorCode : Option String := none
deriving DecidableEq

namespace Outcome

def failure (fault : Fault) : Outcome :=
  { ok := false, error := some fault.message, errorCode := some fault.code }

def success (result : String) (value : Float) : Outcome :=
  { ok := true, result := some result, value := some value }

def withBases (outcome : Outcome) (inputBase outputBase : Int) : Outcome :=
  { outcome with inputBase := some inputBase, outputBase := some outputBase }

/-- The named parts that are present, the value left out. -/
def members (outcome : Outcome) : List (String × Text.JsonValue) :=
  ("ok", .boolean outcome.ok) :: [
    outcome.result.map fun result => ("result", .text result),
    outcome.inputBase.map fun base => ("input_base", .integer base),
    outcome.outputBase.map fun base => ("output_base", .integer base),
    outcome.error.map fun error => ("error", .text error),
    outcome.errorCode.map fun code => ("error_code", .text code)].filterMap id

def jsonText (outcome : Outcome) : String :=
  Text.jsonObjectText outcome.members

def optionText (text : Option String) : String :=
  match text with
  | some text => Text.quoted text
  | none => "None"

/-- An outcome on one line: the error of a failure, or the parts of a success that are present. -/
def text (outcome : Outcome) : String :=
  if outcome.ok then
    let parts := "ok=True" :: [
      outcome.result.map fun result => s!"result={Text.quoted result}",
      outcome.inputBase.map fun base => s!"input_base={base}",
      outcome.outputBase.map fun base => s!"output_base={base}"].filterMap id
    "EvalResult(" ++ String.intercalate ", " parts ++ ")"
  else
    s!"EvalResult(ok=False, error={optionText outcome.error}, "
      ++ s!"error_code={optionText outcome.errorCode})"

end Outcome

/-- The answer to a step: an outcome, or none at all because the step was interrupted. -/
inductive Reply where
  | answered (outcome : Outcome)
  | interrupted (cause : Interruption)
deriving DecidableEq

namespace Reply

/-- The answer to a step with these bases that ends so. Faults are outcomes too. -/
def ofEnding (inputBase outputBase : Int) : Except Stop Outcome → Reply
  | .ok outcome => .answered (outcome.withBases inputBase outputBase)
  | .error (.fault fault) => .answered ((Outcome.failure fault).withBases inputBase outputBase)
  | .error (.interruption cause) => .interrupted cause

/-- The latest outcome once a step was answered so, if it was `last` before. -/
def latest (last : Outcome) : Reply → Outcome
  | answered outcome => outcome
  | interrupted _ => last

end Reply

end RadixCalc
