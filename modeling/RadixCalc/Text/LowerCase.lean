import RadixCalc.Text.CaseTable

/-!
Lower-casing of text. Two capitals need more than the table of small forms: the
dotted capital I becomes two characters, and the form of a small sigma depends
on whether it ends a word.
-/

namespace RadixCalc.Text

/-- The small form of a character, where that is one character. -/
def lowerChar (char : Char) : Char :=
  match smallForms.find? fun run => run.covers char.toNat with
  | some run => Char.ofNat (Int.toNat (char.toNat + run.offset))
  | none => char

def isCased (char : Char) : Bool :=
  casedRanges.has char

def isPassedOver (char : Char) : Bool :=
  passedOverRanges.has char

/-- Whether the first character that is not passed over has case. -/
def startsCased (text : List Char) : Bool :=
  match text.dropWhile isPassedOver with
  | [] => false
  | char :: _ => isCased char

/-- Lower-cases text that follows a letter (`afterLetter`) or does not. A capital sigma after a
letter and before none is the final form. -/
def lowerCaseFrom (afterLetter : Bool) : List Char → List Char
  | [] => []
  | char :: rest =>
      let small :=
        if char = 'Σ' then [if afterLetter && !startsCased rest then 'ς' else 'σ']
        else if char = 'İ' then ['i', '\u0307']
        else [lowerChar char]
      small ++ lowerCaseFrom (if isPassedOver char then afterLetter else isCased char) rest

def lowerCase (text : List Char) : List Char :=
  lowerCaseFrom false text

theorem lower_char_kelvin : lowerChar '\u212a' = 'k' := by decide +kernel

end RadixCalc.Text
