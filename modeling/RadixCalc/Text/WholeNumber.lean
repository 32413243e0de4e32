import RadixCalc.Text.Blank
import RadixCalc.Text.DecimalDigit

/-!
Whole numbers in text: an optional sign and decimal digits of any script, with
single underscores between digits and blanks around. The separators U+001C to
U+001F count as blanks elsewhere but not here.
-/

namespace RadixCalc.Text.WholeNumber

/-- More digits than this are refused. -/
def maxDigits : Nat := 4300

/-- The least magnitude with more digits than that. -/
@[irreducible] def bound : Nat := Nat.pow 10 maxDigits

def isSpacing (char : Char) : Bool :=
  isBlank char && !(0x1c ≤ char.toNat && char.toNat ≤ 0x1f)

/-- Reads what follows a digit: `value` and `count` stand for the digits so far. -/
def readDigits (value count : Nat) : List Char → Option (Nat × Nat)
  | [] => some (value, count)
  | '_' :: char :: rest => do
      let digit ← decimalValue? char
      readDigits (value * 10 + digit) (count + 1) rest
  | char :: rest => do
      let digit ← decimalValue? char
      readDigits (value * 10 + digit) (count + 1) rest

def readMagnitude : List Char → Option Nat
  | [] => none
  | char :: rest => do
      let digit ← decimalValue? char
      let (value, count) ← readDigits digit 1 rest
      if count ≤ maxDigits then some value else none

def readSigned : List Char → Option Int
  | '-' :: rest => (readMagnitude rest).map fun magnitude => -(magnitude : Int)
  | '+' :: rest => (readMagnitude rest).map fun magnitude => (magnitude : Int)
  | text => (readMagnitude text).map fun magnitude => (magnitude : Int)

def read (text : List Char) : Option Int :=
  readSigned (((text.dropWhile isSpacing).reverse.dropWhile isSpacing).reverse)

end RadixCalc.Text.WholeNumber
