import RadixCalc.Binary64
import RadixCalc.Shortest

/-!
Floating-point values as they are listed and logged: the shortest decimal that
reads back. Values from 0.0001 up to, but not including, 10^16 are written with
a point and at least one place; all others with an exponent of at least two
digits.
-/

namespace RadixCalc

namespace NumberText

/-- The significant digits without zeros at the end. -/
def significant (digits : Nat) : List Char :=
  match ((Nat.toDigits 10 digits).reverse.dropWhile (· = '0')).reverse with
  | [] => ['0']
  | kept => kept

def exponentText (exponent : Int) : List Char :=
  let magnitude := Nat.toDigits 10 exponent.natAbs
  let padded := List.replicate (2 - magnitude.length) '0' ++ magnitude
  'e' :: (if exponent < 0 then '-' else '+') :: padded

/-- Digits with the point after `place` of them. -/
def layOut (digits : List Char) (place : Int) : List Char :=
  if -4 < place ∧ place ≤ 16 then
    if place ≤ 0 then '0' :: '.' :: (List.replicate (-place).toNat '0' ++ digits)
    else if digits.length ≤ place.toNat then
      digits ++ List.replicate (place.toNat - digits.length) '0' ++ ['.', '0']
    else digits.take place.toNat ++ '.' :: digits.drop place.toNat
  else
    match digits with
    | [digit] => digit :: exponentText (place - 1)
    | digit :: rest => digit :: '.' :: (rest ++ exponentText (place - 1))
    | [] => []

def ofDecimal (decimal : Decimal) : List Char :=
  layOut (significant decimal.digits) (Shortest.digitCount decimal.digits + decimal.scale)

def signText (sign : Float.Model.UnpackedFloat.Sign) : List Char :=
  if Binary64.isNegativeSign sign then ['-'] else []

def characters (value : Float) : List Char :=
  match value.toModel.unpack with
  | .notANumber => ['n', 'a', 'n']
  | .infinity sign => signText sign ++ ['i', 'n', 'f']
  | .zero sign => signText sign ++ ['0', '.', '0']
  | .finite sign mantissa exponent _ =>
      signText sign ++ ofDecimal (Shortest.decimal mantissa exponent)

end NumberText

def numberText (value : Float) : String :=
  String.ofList (NumberText.characters value)

end RadixCalc
