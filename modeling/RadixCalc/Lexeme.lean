import RadixCalc.Bracket
import RadixCalc.Fault
import RadixCalc.Numeral.Radix

/-!
The lexemes of an expression, in the order in which they are written. A minus
sign belongs to a literal only if it stands directly before one, where an
operand may begin. A name directly followed by an opening bracket is a call,
whose argument is everything up to the closing bracket and is not looked into
here.
-/

namespace RadixCalc

inductive Lexeme where
  | literal (digits : String) (negative : Bool)
  | name (name : String)
  | call (name : String) (argument : List Char)
  | operator (operator : Operator)
  | close

/-- The lexemes up to the end of the text, or up to the first place where no lexeme begins. -/
structure Scan where
  lexemes : List Lexeme
  fault : Option Fault

namespace Scan

/-- The characters that may stand between lexemes. -/
def isSpacing (char : Char) : Bool :=
  char = ' ' || char = '\t' || char = '\r' || char = '\n'

def isDecimal (char : Char) : Bool :=
  '0' ≤ char && char ≤ '9'

def isLetter (char : Char) : Bool :=
  ('a' ≤ char && char ≤ 'z') || ('A' ≤ char && char ≤ 'Z')

/-- Literals begin with a decimal digit and go on with these. -/
def isLiteralChar (char : Char) : Bool :=
  isDecimal char || isLetter char || char = '.'

def isNameStart (char : Char) : Bool :=
  isLetter char || char = '$' || char = '_'

def isNameChar (char : Char) : Bool :=
  isNameStart char || isDecimal char

def operatorOfChar? (char : Char) : Option Operator :=
  match char with
  | '^' => some (.arithmetic .power)
  | '*' => some (.arithmetic .times)
  | '/' => some (.arithmetic .divide)
  | '%' => some (.arithmetic .remainder)
  | '+' => some (.arithmetic .plus)
  | '-' => some (.arithmetic .minus)
  | '(' => some .group
  | '=' => some .assign
  | _ => none

def startsDecimal : List Char → Bool
  | [] => false
  | char :: _ => isDecimal char

/-- What begins at a place of the text. What is left after a lexeme has at most `limit`
characters. -/
inductive Step (limit : Nat) where
  | spacing
  | found (lexeme : Lexeme) (signAllowed : Bool) (rest : List Char) (within : rest.length ≤ limit)
  | fault (fault : Fault)

theorem drop_while_length_le (keep : Char → Bool) (text : List Char) :
    (text.dropWhile keep).length ≤ text.length :=
  (List.dropWhile_sublist keep).length_le

/-- Goes on with a literal whose first characters are already taken. -/
def stepLiteral (taken : List Char) (negative : Bool) (rest : List Char) : Step rest.length :=
  .found (.literal (String.ofList (taken ++ rest.takeWhile isLiteralChar)) negative) false
    (rest.dropWhile isLiteralChar) (drop_while_length_le isLiteralChar rest)

/-- Goes on with a name, or with a call if a bracket follows. -/
def stepName (first : Char) (rest : List Char) : Step rest.length :=
  let name := String.ofList (first :: rest.takeWhile isNameChar)
  have shorter := drop_while_length_le isNameChar rest
  match after : rest.dropWhile isNameChar with
  | '(' :: inner =>
      match split : Bracket.splitAtClosing inner with
      | some (argument, later) =>
          .found (.call name argument) false later (by
            have cut := Bracket.split_at_closing_length split
            rw [after, List.length_cons] at shorter
            omega)
      | none => .fault .unmatchedBracket
  | later => .found (.name name) false later (by rwa [after] at shorter)

/-- Looks at one place; `signAllowed` tells whether an operand may begin with a sign here. -/
def step (signAllowed : Bool) (char : Char) (rest : List Char) : Step rest.length :=
  if isSpacing char then .spacing
  else if char = '-' && signAllowed && startsDecimal rest then stepLiteral [] true rest
  else if isDecimal char then stepLiteral [char] false rest
  else if char = ')' then .found .close false rest (Nat.le_refl _)
  else if isNameStart char then stepName char rest
  else
    match operatorOfChar? char with
    | some operator => .found (.operator operator) true rest (Nat.le_refl _)
    | none => .fault (.unknownToken char)

def cons (lexeme : Lexeme) (scan : Scan) : Scan :=
  { scan with lexemes := lexeme :: scan.lexemes }

def failed (fault : Fault) : Scan :=
  { lexemes := [], fault := some fault }

def ofText (signAllowed : Bool) : List Char → Scan
  | [] => { lexemes := [], fault := none }
  | char :: rest =>
      match step signAllowed char rest with
      | .spacing => ofText signAllowed rest
      | .found lexeme signNext later _ => cons lexeme (ofText signNext later)
      | .fault fault => failed fault
termination_by text => text.length
decreasing_by
  · simp
  · simp only [List.length_cons]
    omega

end Scan

end RadixCalc
