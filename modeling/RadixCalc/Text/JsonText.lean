import RadixCalc.Text.Quoted

/-!
Writing JSON objects over several lines. Only what must be escaped is: the
double quote, the backslash and the control characters below the space.
-/

namespace RadixCalc.Text

/-- A member of a flat JSON object. -/
inductive JsonValue where
  | boolean (value : Bool)
  | integer (value : Int)
  | text (value : String)
deriving DecidableEq, Repr

namespace JsonValue

def escapeChar (char : Char) : List Char :=
  if char = Quoted.doubleQuote ∨ char = Quoted.backslash then [Quoted.backslash, char]
  else if char = '\n' then [Quoted.backslash, 'n']
  else if char = '\r' then [Quoted.backslash, 'r']
  else if char = '\t' then [Quoted.backslash, 't']
  else if char.toNat = 8 then [Quoted.backslash, 'b']
  else if char.toNat = 12 then [Quoted.backslash, 'f']
  else if char.toNat < 32 then Quoted.backslash :: 'u' :: hexDigits 4 char.toNat
  else [char]

def stringText (value : String) : String :=
  String.ofList
    (Quoted.doubleQuote :: (value.toList.flatMap escapeChar ++ [Quoted.doubleQuote]))

def write : JsonValue → String
  | boolean value => if value then "true" else "false"
  | integer value => toString value
  | text value => stringText value

end JsonValue

/-- The lines of an object with at least one member. -/
def jsonObjectText (members : List (String × JsonValue)) : String :=
  let lines := members.map fun member =>
    "  " ++ JsonValue.stringText member.1 ++ ": " ++ member.2.write
  "\x7b\n" ++ String.intercalate ",\n" lines ++ "\n\x7d"

end RadixCalc.Text
