import RadixCalc.Proofs.Calculation.Ending
import RadixCalc.Proofs.Calculator.Stages

/-!
Changes of the output base after text that has a value. They write the value
again and do nothing else, so that in the end the calculator is as if the last
base had been there from the start. A base in which the value cannot be written
is noted in the journal, and the next one finds the value still there.
-/

namespace RadixCalc.Calculator

section Following

variable {text : String} {state : Int → Calculator} {settles : Int → Prop}

end Following

variable (calculator : Calculator) (value : Float)

variable {calculator value}

section Entering

variable {text : String} {sequence : Sequence}

end Entering

end RadixCalc.Calculator
