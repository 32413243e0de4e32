import RadixCalc.Mathematics
import RadixCalc.Token

/-!
Arithmetic on floating-point values. Whatever the libraries refuse is kept away
from them or made a number, with one exception: zero raised to minus infinity
asks for the floor of an infinity.
-/

namespace RadixCalc

namespace Arithmetic

/-- Whether an exponent is an odd whole number. -/
def isOddExponent (exponent : Float) : Except Stop Bool := do
  let whole ← Stop.ofUncaught (Mathematics.isFloor exponent)
  pure (whole && Binary64.wholePart exponent % 2 == 1)

/-- Raising to a power. Zero to a negative power is infinite, with the sign of the zero if the
exponent is odd. A power that is too large is infinite, negative for odd exponents of negative
numbers, and a power that does not exist is NaN. -/
def raise (left right : Float) : Except Stop Float :=
  if left == 0.0 && right < 0.0 then do
    let odd ← isOddExponent right
    pure (if odd && Binary64.isNegative left then -Binary64.infinity else Binary64.infinity)
  else
    match Mathematics.power left right with
    | .ok value => .ok value
    | .error .domain => .ok Binary64.nan
    | .error .range =>
        if left < 0.0 then do
          let odd ← isOddExponent right
          pure (if odd then -Binary64.infinity else Binary64.infinity)
        else .ok Binary64.infinity

/-- Division. By zero it gives an infinity under the rule of signs, or NaN where there is nothing to
divide. -/
def quotientOf (left right : Float) : Except Stop Float :=
  if right == 0.0 then
    if left == 0.0 || left.isNaN then .ok Binary64.nan
    else if Binary64.isNegative left == Binary64.isNegative right then .ok Binary64.infinity
    else .ok (-Binary64.infinity)
  else Stop.ofUncaught (Mathematics.quotient left right)

/-- The remainder of a division. There is none of an infinity or by zero. -/
def remainderOf (left right : Float) : Except Stop Float :=
  if right == 0.0 || left.isInf then .ok Binary64.nan
  else
    match Mathematics.remainder left right with
    | .ok value => .ok value
    | .error refusal => .error (.interruption (.mathematics refusal))

def apply (operation : Arithmetic) (left right : Float) : Except Stop Float :=
  match operation with
  | power => raise left right
  | times => .ok (left * right)
  | divide => quotientOf left right
  | remainder => remainderOf left right
  | plus => .ok (left + right)
  | minus => .ok (left - right)

end Arithmetic

namespace Operator

/-- The result of an operator on two numbers; only arithmetic has one. -/
def apply (operator : Operator) (left right : Float) : Except Stop Float :=
  match operator with
  | arithmetic operation => operation.apply left right
  | unknown => .error (.fault (.unknownOperator unknown))

end Operator

end RadixCalc
