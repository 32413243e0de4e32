import RadixCalc.Text.PrintableTable

/-!
Quoted text: how names and expressions appear inside messages and listings.
Single quotes are used unless the text holds a single quote and no double one.
The quote in use and the backslash are escaped, and so is every character that
is not printable, by the shortest of three hexadecimal forms that can hold it.
-/

namespace RadixCalc.Text

def isPrintable (char : Char) : Bool :=
  printableRanges.has char

def hexDigit (value : Nat) : Char :=
  if value < 10 then Char.ofNat (48 + value) else Char.ofNat (87 + value)

/-- The last `width` hexadecimal digits of a number. -/
def hexDigits : Nat → Nat → List Char
  | 0, _ => []
  | width + 1, value => hexDigits width (value / 16) ++ [hexDigit (value % 16)]

namespace Quoted

def singleQuote : Char := '\x27'

def doubleQuote : Char := '\x22'

def backslash : Char := '\x5c'

def quoteFor (text : List Char) : Char :=
  if text.contains singleQuote && !text.contains doubleQuote then doubleQuote else singleQuote

def escape (quote char : Char) : List Char :=
  if char = quote ∨ char = backslash then [backslash, char]
  else if char = '\t' then [backslash, 't']
  else if char = '\n' then [backslash, 'n']
  else if char = '\r' then [backslash, 'r']
  else if isPrintable char then [char]
  else if char.toNat ≤ 0xff then backslash :: 'x' :: hexDigits 2 char.toNat
  else if char.toNat ≤ 0xffff then backslash :: 'u' :: hexDigits 4 char.toNat
  else backslash :: 'U' :: hexDigits 8 char.toNat

def encode (text : List Char) : List Char :=
  let quote := quoteFor text
  quote :: (text.flatMap (escape quote) ++ [quote])

end Quoted

def quoted (text : String) : String :=
  String.ofList (Quoted.encode text.toList)

end RadixCalc.Text
