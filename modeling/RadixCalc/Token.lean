/-!
The parts of an expression once it is in operator order: every operator stands
after its operands. Literals keep their digits as written, because their value
depends on the base they are read in later.
-/

namespace RadixCalc

/-- The operators that compute a number from two numbers. -/
inductive Arithmetic where
  | power
  | times
  | divide
  | remainder
  | plus
  | minus
deriving DecidableEq, Repr

/-- An operator of a sequence. `group` is an opening bracket that was never closed; sequences made
by hand can hold any `other` text. -/
inductive Operator where
  | arithmetic (operation : Arithmetic)
  | assign
  | group
  | other (symbol : String)
deriving DecidableEq, Repr

/-- A value that may still depend on the base and on the variables. -/
inductive Operand where
  | number (value : Float)
  | literal (digits : String) (negative : Bool)
  | symbol (name : String)
deriving Inhabited

/-- One element of a sequence. Each argument of a call is a sequence of its own. -/
inductive Token where
  | operand (operand : Operand)
  | operator (operator : Operator)
  | call (name : String) (arguments : List (List Token))
deriving Inhabited

/-- Tokens in operator order. -/
abbrev Sequence := List Token

/-- The word for each sort of token in messages. -/
inductive TokenKind where
  | number
  | literal
  | operator
  | symbol
  | function
deriving DecidableEq, Repr

namespace Arithmetic

def symbol : Arithmetic → String
  | power => "^"
  | times => "*"
  | divide => "/"
  | remainder => "%"
  | plus => "+"
  | minus => "-"

end Arithmetic

namespace Operator

def symbol : Operator → String
  | arithmetic operation => operation.symbol
  | assign => "="
  | group => "("
  | other symbol => symbol

def ofSymbol (symbol : String) : Operator :=
  match symbol with
  | "^" => arithmetic .power
  | "*" => arithmetic .times
  | "/" => arithmetic .divide
  | "%" => arithmetic .remainder
  | "+" => arithmetic .plus
  | "-" => arithmetic .minus
  | "=" => assign
  | "(" => group
  | symbol => other symbol

/-- A lower rank binds tighter. -/
def rank : Operator → Nat
  | arithmetic .power => 1
  | arithmetic .times => 2
  | arithmetic .divide => 2
  | arithmetic .remainder => 3
  | arithmetic .plus => 3
  | arithmetic .minus => 3
  | group => 4
  | assign => 5
  | other _ => 0

end Operator

namespace Operand

def kind : Operand → TokenKind
  | number _ => .number
  | literal _ _ => .literal
  | symbol _ => .symbol

end Operand

namespace Token

def kind : Token → TokenKind
  | .operand value => value.kind
  | .operator _ => .operator
  | .call _ _ => .function

end Token

namespace TokenKind

def word : TokenKind → String
  | number => "number"
  | literal => "literal"
  | operator => "operator"
  | symbol => "symbol"
  | function => "function"

end TokenKind

end RadixCalc
