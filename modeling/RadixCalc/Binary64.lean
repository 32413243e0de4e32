/-!
Exact facts about a floating-point value, read off its sign, its whole mantissa
and its power of two. Nothing here rounds: whole parts, parity and remainders
are computed on natural numbers.
-/

namespace RadixCalc.Binary64

open Float.Model (UnpackedFloat)

def nan : Float := 0.0 / 0.0

def infinity : Float := 1.0 / 0.0

def isNegativeSign : UnpackedFloat.Sign → Bool
  | .negative => true
  | .positive => false

/-- The sign bit, which zeros and infinities have too; NaN counts as positive. -/
def isNegative (value : Float) : Bool :=
  match value.toModel.unpack with
  | .infinity sign => isNegativeSign sign
  | .notANumber => false
  | .zero sign => isNegativeSign sign
  | .finite sign _ _ _ => isNegativeSign sign

/-- The whole number left when the fraction of `mantissa * 2 ^ exponent` is cut off. -/
def wholeOf (mantissa : Nat) : Int → Nat
  | .ofNat exponent => mantissa * Nat.pow 2 exponent
  | .negSucc exponent => mantissa / Nat.pow 2 (exponent + 1)

/-- The whole part of a value's magnitude. NaN and the infinities have none and give zero. -/
def wholePart (value : Float) : Nat :=
  match value.toModel.unpack with
  | .finite _ mantissa exponent _ => wholeOf mantissa exponent
  | _ => 0

/-- Whether `mantissa * 2 ^ exponent` is a whole number. -/
def isWholeProduct (mantissa : Nat) : Int → Bool
  | .ofNat _ => true
  | .negSucc exponent => mantissa % Nat.pow 2 (exponent + 1) == 0

/-- Whether a value is finite and has no fraction. -/
def isWhole (value : Float) : Bool :=
  match value.toModel.unpack with
  | .zero _ => true
  | .finite _ mantissa exponent _ => isWholeProduct mantissa exponent
  | _ => false

/-- The value `mantissa * 2 ^ exponent` under a sign, rounded to the nearest if it has to be. -/
def ofProduct (sign : UnpackedFloat.Sign) (mantissa : Nat) (exponent : Int) : Float :=
  .ofModel (.pack (if mantissa = 0 then .zero sign else .round .binary64 sign mantissa exponent))

/-- What is left of `dividend` after whole multiples of `divisor` are taken away towards zero. It
has the sign of the dividend. There is no remainder of an infinity or by zero. -/
def remainder (dividend divisor : Float) : Float :=
  match dividend.toModel.unpack, divisor.toModel.unpack with
  | .finite sign mantissa exponent _, .finite _ otherMantissa otherExponent _ =>
      let lower := min exponent otherExponent
      ofProduct sign
        (wholeOf mantissa (exponent - lower) % wholeOf otherMantissa (otherExponent - lower)) lower
  | .zero _, .finite _ _ _ _ => dividend
  | .zero _, .infinity _ => dividend
  | .finite _ _ _ _, .infinity _ => dividend
  | _, _ => nan

end RadixCalc.Binary64
