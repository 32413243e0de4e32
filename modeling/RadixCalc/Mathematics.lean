import RadixCalc.Binary64
import RadixCalc.Stop

/-!
Functions on numbers that are not defined everywhere, as the libraries have
them: where there is no number to give they refuse, and leave it to their users
what that means.
-/

namespace RadixCalc.Mathematics

/-- A function of one number. Its value is refused if it is NaN for a number, and if it is infinite
for a finite number, which counts as a matter of range only for functions that can overflow. -/
def unary (overflows : Bool) (function : Float → Float) (argument : Float) :
    Except MathRefusal Float :=
  let value := function argument
  if value.isNaN && !argument.isNaN then .error .domain
  else if value.isInf && argument.isFinite then .error (if overflows then .range else .domain)
  else .ok value

/-- A power. Between infinities and NaN all powers are defined. -/
def power (left right : Float) : Except MathRefusal Float :=
  let value := Float.pow left right
  if !(left.isFinite && right.isFinite) then .ok value
  else if value.isNaN then .error .domain
  else if value.isInf then .error (if left == 0.0 then .domain else .range)
  else .ok value

/-- What is left of an infinity, or when zero is taken away again and again, is no number. -/
def remainder (dividend divisor : Float) : Except MathRefusal Float :=
  if dividend.isNaN || divisor.isNaN then .ok Binary64.nan
  else if dividend.isInf || divisor == 0.0 then .error .domain
  else .ok (Binary64.remainder dividend divisor)

def quotient (dividend divisor : Float) : Except Interruption Float :=
  if divisor == 0.0 then .error .zeroDivision else .ok (dividend / divisor)

/-- Whether a value is its own floor. Infinities and NaN have no floor. -/
def isFloor (value : Float) : Except Interruption Bool :=
  if value.isNaN then .error .undefinedFloor
  else if value.isInf then .error .infiniteFloor
  else .ok (Binary64.isWhole value)

end RadixCalc.Mathematics
