import RadixCalc.Binary64
import RadixCalc.Numeral.Radix

/-!
Reading digit strings. The whole part is summed from its lowest digit upwards
and the fraction from the point onwards, each digit times a running weight, so
every rounding of the sum is fixed by the text. Two spellings stand for values
that have no digits, in every base.
-/

namespace RadixCalc.Numeral

/-- The value of a digit of the base. -/
def digitIn (radix : Radix) (char : Char) : Except Fault Nat :=
  match digitOf? char with
  | some value =>
      if value < radix.value then .ok value else .error (.invalidDigit radix.value char)
  | none => .error (.invalidDigit radix.value char)

/-- Adds whole digits to `total`, the lowest first, the first of them times `weight`. -/
def addWhole (radix : Radix) (weight total : Float) : List Char → Except Fault Float
  | [] => .ok total
  | char :: rest => do
      let digit ← digitIn radix char
      addWhole radix (weight * radix.toFloat) (total + Float.ofNat digit * weight) rest

/-- Adds the digits of a fraction to `total`, the first of them times `weight`. -/
def addFraction (radix : Radix) (weight total : Float) : List Char → Except Fault Float
  | [] => .ok total
  | char :: rest => do
      let digit ← digitIn radix char
      addFraction radix (weight / radix.toFloat) (total + Float.ofNat digit * weight) rest

/-- Reads digits with at most one point in them. -/
def readDigits (radix : Radix) (text : List Char) : Except Fault Float := do
  if 1 < text.count '.' then
    throw .repeatedPoint
  let whole ← addWhole radix 1.0 0.0 (text.takeWhile (· != '.')).reverse
  addFraction radix (1.0 / radix.toFloat) whole ((text.dropWhile (· != '.')).drop 1)

/-- Reads a digit string in a base; the two spellings without digits come before every check. -/
def read (text : String) (base : Int) : Except Stop Float :=
  if text = "nan" then .ok Binary64.nan
  else if text = "inf" then .ok Binary64.infinity
  else do
    let radix ← Radix.require base
    Stop.ofChecked (readDigits radix (foldCase base text.toList))

/-- Whether text is a run of one or more digits of a base; any base can be asked about. -/
def isDigitText (text : String) (base : Int) : Bool :=
  let folded := foldCase base text.toList
  !folded.isEmpty && folded.all fun char =>
    match digitOf? char with
    | some value => (value : Int) < base
    | none => false

end RadixCalc.Numeral
