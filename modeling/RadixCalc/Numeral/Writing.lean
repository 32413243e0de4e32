import RadixCalc.Binary64
import RadixCalc.Numeral.Radix

/-!
Writing values as digit strings. The whole part is exact. Fraction digits are
taken one at a time by multiplying what is left by the base, until nothing is
left or the cap is reached; the rest is dropped, not rounded.
-/

namespace RadixCalc.Numeral

/-- Puts the digits of a whole number in front of `written`; zero has none. -/
def wholeDigits (radix : Radix) (number : Nat) (written : List Char) : List Char :=
  if number = 0 then written
  else
    wholeDigits radix (number / radix.value) (digitChar (number % radix.value) :: written)
termination_by number
decreasing_by
  have := radix.two_le
  exact Nat.div_lt_self (by omega) (by omega)

/-- What is already written is only carried along. -/
theorem whole_digits_eq_append (radix : Radix) (number : Nat) (written : List Char) :
    wholeDigits radix number written = wholeDigits radix number [] ++ written := by
  induction number using Nat.strongRecOn generalizing written with
  | ind number induction =>
      rw [wholeDigits.eq_def radix number written, wholeDigits.eq_def radix number []]
      split
      · rfl
      · have smaller : number / radix.value < number :=
          Nat.div_lt_self (by omega) radix.two_le
        rw [induction _ smaller, induction _ smaller [digitChar (number % radix.value)]]
        simp

/-- The digits of a whole number, `0` for zero. -/
def wholeText (radix : Radix) (number : Nat) : List Char :=
  match wholeDigits radix number [] with
  | [] => ['0']
  | digits => digits

/-- The digits of a fraction, at most `cap` of them. -/
def fractionDigits (radix : Radix) : Nat → Float → List Char
  | 0, _ => []
  | cap + 1, fraction =>
      if fraction == 0.0 then []
      else
        let scaled := fraction * radix.toFloat
        let digit := Binary64.wholePart scaled
        digitChar digit :: fractionDigits radix cap (scaled - Float.ofNat digit)

theorem fraction_digits_length_le (radix : Radix) (cap : Nat) (fraction : Float) :
    (fractionDigits radix cap fraction).length ≤ cap := by
  induction cap generalizing fraction with
  | zero => simp [fractionDigits]
  | succ cap induction =>
      rw [fractionDigits]
      split
      · simp
      · simpa using induction _

/-- The digits of a value that is not negative. -/
def magnitudeText (radix : Radix) (cap : Nat) (value : Float) : List Char :=
  let whole := Binary64.wholePart value
  let integer := wholeText radix whole
  match fractionDigits radix cap (value - Float.ofNat whole) with
  | [] => integer
  | digits => integer ++ '.' :: digits

/-- A finite value with its sign; zero has none. -/
def finiteText (radix : Radix) (cap : Nat) (value : Float) : List Char :=
  if value < 0.0 then '-' :: magnitudeText radix cap (-value) else magnitudeText radix cap value

/-- Writes a value in a base with at most `cap` digits after the point. Values without digits are
spelled the same in every base, both infinities alike. -/
def write (value : Float) (base cap : Int) : Except Stop String :=
  if value.isNaN then .ok "nan"
  else if value.isInf then .ok "inf"
  else do
    let radix ← Radix.require base
    pure (String.ofList (finiteText radix cap.toNat value))

end RadixCalc.Numeral
