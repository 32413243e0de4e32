import RadixCalc.Evaluation
import RadixCalc.Numeral.Writing
import RadixCalc.Outcome
import RadixCalc.Sequence.OfText
import RadixCalc.Text.Blank

/-!
One calculation from text to written result: reading, evaluation and writing,
the first fault of which is the outcome. An interruption leaves none.
-/

namespace RadixCalc

/-- What a calculation leaves behind. -/
structure Calculated where
  reply : Reply
  bindings : Bindings

namespace Calculation

/-- Writes a value under the settings. -/
def written (settings : Settings) (value : Float) (base : Int) : Except Stop String :=
  Numeral.write value base settings.fractionDigits

/-- Writes a value, which is then the outcome with its result. -/
def outcomeOf (settings : Settings) (outputBase : Int) (value : Float) : Except Stop Outcome := do
  let result ← written settings value outputBase
  pure (.success result value)

/-- Evaluates and writes. -/
def ofSequence (settings : Settings) (functions : FunctionTable) (inputBase outputBase : Int)
    (bindings : Bindings) (sequence : Sequence) : Calculated :=
  let evaluated := sequence.evaluate functions inputBase bindings
  { reply := .ofEnding inputBase outputBase (evaluated.ending >>= outcomeOf settings outputBase)
    bindings := evaluated.bindings }

/-- Calculates the expression that text holds. Blank text is well and has no result. -/
def ofText (settings : Settings) (functions : FunctionTable) (inputBase outputBase : Int)
    (bindings : Bindings) (text : String) : Calculated :=
  let expression := Text.trimmed text
  if expression.isEmpty then
    { reply := .answered (({ ok := true } : Outcome).withBases inputBase outputBase), bindings }
  else
    match Sequence.ofText settings expression with
    | .error fault =>
        { reply := .ofEnding inputBase outputBase (.error (.fault fault)), bindings }
    | .ok sequence => ofSequence settings functions inputBase outputBase bindings sequence

/-- The message of the fault that keeps text from being read, if there is one. -/
def objection? (settings : Settings) (text : String) : Option String :=
  match Sequence.ofText settings text with
  | .ok _ => none
  | .error fault => some fault.message

end Calculation

end RadixCalc
