/-!
The shortest decimal that reads back as a given binary value. A positive value
is `mantissa * 2 ^ exponent`, and every real closer to it than to its two
neighbours reads back as it; so do the two halfway points when the mantissa is
even. On the grid of multiples of a power of ten only the two grid points next
to the value can be nearest, so the search tries grids from one digit upwards
and takes the first grid with a point that reads back.
-/

namespace RadixCalc

/-- The number `digits * 10 ^ scale`. -/
structure Decimal where
  digits : Nat
  scale : Int

namespace Shortest

/-- A positive fraction as a numerator and a denominator. -/
structure Ratio where
  numerator : Nat
  denominator : Nat

/-- `factor * 2 ^ exponent * 10 ^ scale` as a fraction. -/
def ratio (factor : Nat) (exponent scale : Int) : Ratio :=
  { numerator := factor * Nat.pow 2 exponent.toNat * Nat.pow 10 scale.toNat
    denominator := Nat.pow 2 (-exponent).toNat * Nat.pow 10 (-scale).toNat }

/-- How far below the value, in quarters of a mantissa step, its reals begin. The step below a
power of two is half as wide, except at the bottom of the range. -/
def gapBelow (mantissa : Nat) (exponent : Int) : Nat :=
  if mantissa = Nat.pow 2 52 ∧ exponent > -1074 then 1 else 2

/-- Whether `candidate`, a number of grid steps, reads back as the value; all three arguments of
`Nat` are measured in the same unit. -/
def readsBack (closed : Bool) (lower upper candidate : Nat) : Bool :=
  if closed then lower ≤ candidate && candidate ≤ upper
  else lower < candidate && candidate < upper

/-- The nearer of the two grid points beside the value that reads back, if one does; an exact tie
goes to the even one. -/
def pointOnGrid? (mantissa : Nat) (exponent gridScale : Int) : Option Nat :=
  let value := ratio (4 * mantissa) (exponent - 2) (-gridScale)
  let lower := ratio (4 * mantissa - gapBelow mantissa exponent) (exponent - 2) (-gridScale)
  let upper := ratio (4 * mantissa + 2) (exponent - 2) (-gridScale)
  let below := value.numerator / value.denominator
  let above := below + 1
  let fits (point : Nat) : Bool :=
    readsBack (mantissa % 2 == 0) lower.numerator upper.numerator (point * value.denominator)
  let pastBelow := value.numerator - below * value.denominator
  let toAbove := above * value.denominator - value.numerator
  match fits below, fits above with
  | true, true =>
      if pastBelow < toAbove ∨ (pastBelow = toAbove ∧ below % 2 = 0) then some below
      else some above
  | true, false => some below
  | false, true => some above
  | false, false => none

/-- How many decimal digits a number has; zero has one. -/
def digitCount (number : Nat) : Nat :=
  (Nat.toDigits 10 number).length

/-- How many digits stand before the point, counted below zero for zeros after it: the value is
at least `10 ^ (pointPlace - 1)` and less than `10 ^ pointPlace`. -/
def pointPlace (mantissa : Nat) (exponent : Int) : Int :=
  let scaled := ratio mantissa exponent 400
  (digitCount (scaled.numerator / scaled.denominator) : Int) - 400

/-- Tries grids with ever more digits; `attempts` of them are left. -/
def search (mantissa : Nat) (exponent place : Int) : Nat → Nat → Decimal
  | count, 0 => ⟨(pointOnGrid? mantissa exponent (place - count)).getD 0, place - count⟩
  | count, attempts + 1 =>
      match pointOnGrid? mantissa exponent (place - count) with
      | some point => ⟨point, place - count⟩
      | none => search mantissa exponent place (count + 1) attempts

/-- Seventeen digits are always enough. -/
def decimal (mantissa : Nat) (exponent : Int) : Decimal :=
  search mantissa exponent (pointPlace mantissa exponent) 1 16

end Shortest

end RadixCalc
