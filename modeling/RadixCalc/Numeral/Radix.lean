import RadixCalc.Stop
import RadixCalc.Text.LowerCase

/-!
Bases and their digits. The position of a character in the alphabet is its
value as a digit. Up to base 36 only small letters are needed, so there text is
lower-cased before it is read.
-/

namespace RadixCalc

namespace Numeral

def alphabet : List Char :=
  ['0', '1', '2', '3', '4', '5', '6', '7', '8', '9', 'a', 'b', 'c', 'd', 'e', 'f', 'g', 'h', 'i',
    'j', 'k', 'l', 'm', 'n', 'o', 'p', 'q', 'r', 's', 't', 'u', 'v', 'w', 'x', 'y', 'z', 'A', 'B',
    'C', 'D', 'E', 'F', 'G', 'H', 'I', 'J', 'K', 'L', 'M', 'N', 'O', 'P', 'Q', 'R', 'S', 'T', 'U',
    'V', 'W', 'X', 'Y', 'Z']

def digitOf? (char : Char) : Option Nat :=
  alphabet.idxOf? char

/-- The value of text that is a single digit. -/
def digitOfText? (text : String) : Option Nat :=
  match text.toList with
  | [char] => digitOf? char
  | _ => none

def digitChar (value : Nat) : Char :=
  alphabet.getD value '0'

/-- Every digit reads back as its value. -/
theorem digit_of_digit_char :
    ∀ value < 62, digitOf? (digitChar value) = some value := by
  decide +kernel

/-- The largest base in which capitals and small letters are the same digits. -/
def foldedBaseLimit : Int := 36

def foldCase (base : Int) (text : List Char) : List Char :=
  if base ≤ foldedBaseLimit then Text.lowerCase text else text

end Numeral

/-- A base that numbers can be read and written in. -/
structure Radix where
  value : Nat
  two_le : 2 ≤ value
  le_max : value ≤ 61

namespace Radix

def ofInt? (base : Int) : Option Radix :=
  if bounds : 2 ≤ base ∧ base ≤ 61 then some ⟨base.toNat, by omega, by omega⟩ else none

/-- Checks a base. One that is not supported is shown, if it can be. -/
def require (base : Int) : Except Stop Radix :=
  match ofInt? base with
  | some radix => .ok radix
  | none => .error (.showing base .unsupportedBase)

def toFloat (radix : Radix) : Float :=
  Float.ofNat radix.value

theorem pos (radix : Radix) : 0 < radix.value := by
  have := radix.two_le
  omega

theorem of_int_value (radix : Radix) : ofInt? radix.value = some radix := by
  have lower := radix.two_le
  have upper := radix.le_max
  have bounds : 2 ≤ (radix.value : Int) ∧ (radix.value : Int) ≤ 61 := by omega
  rw [ofInt?, dif_pos bounds]
  cases radix
  simp

end Radix

end RadixCalc
