import RadixCalc.Directory
import RadixCalc.Mathematics
import RadixCalc.Text.Quoted

/-!
Functions that expressions can call. The built-in ones take one number and
return one; outside its domain a function is NaN, and beyond the range of
numbers it is infinite. Only the factorial has something against arguments.
-/

namespace RadixCalc

/-- What a name that can be called stands for. Only entries that are built in and have a computation
can be evaluated. -/
structure FunctionEntry where
  arity : Int
  compute : Option (List Float → Except Stop Float)
  builtin : Bool := true

abbrev FunctionTable := Directory FunctionEntry

namespace FunctionTable

/-- A computation on one number. The arity of its entry keeps other calls away from it. -/
def unary (compute : Float → Except Stop Float) : List Float → Except Stop Float
  | [argument] => compute argument
  | _ => .ok Binary64.nan

/-- A function of the mathematical library, with a number for everything that it refuses. -/
def total (compute : Float → Except MathRefusal Float) (argument : Float) : Except Stop Float :=
  match compute argument with
  | .ok value => .ok value
  | .error .domain => .ok Binary64.nan
  | .error .range => .ok Binary64.infinity

def factorialOf : Nat → Nat
  | 0 => 1
  | number + 1 => (number + 1) * factorialOf number

def fractionalFactorial : Fault :=
  .argument "Argument Error: factorial is not defined for fractional values" none

/-- The factorial of a whole number, 1 for those that are not positive. -/
def factorial (argument : Float) : Except Stop Float :=
  if argument ≤ 0.0 then .ok 1.0
  else if argument.isInf then .ok Binary64.infinity
  else if argument.isNaN then .error (.fault fractionalFactorial)
  else do
    let whole ← Stop.ofUncaught (Mathematics.isFloor argument)
    if !whole then .error (.fault fractionalFactorial)
    else if 170 < Binary64.wholePart argument then .ok Binary64.infinity
    else .ok (Float.ofNat (factorialOf (Binary64.wholePart argument)))

/-- A function of the mathematical library that cannot overflow. -/
def bounded (function : Float → Float) : Float → Except Stop Float :=
  total (Mathematics.unary false function)

def builtins : List (String × (Float → Except Stop Float)) :=
  [("sin", bounded Float.sin), ("cos", bounded Float.cos), ("tan", bounded Float.tan),
    ("asin", bounded Float.asin), ("acos", bounded Float.acos), ("atan", bounded Float.atan),
    ("exp", total (Mathematics.unary true Float.exp)), ("sqrt", bounded Float.sqrt),
    ("cbrt", bounded Float.cbrt), ("fac", factorial)]

def builtinEntry (compute : Float → Except Stop Float) : FunctionEntry :=
  { arity := 1, compute := some (unary compute) }

/-- The built-in functions. -/
def standard : FunctionTable :=
  Directory.ofList (builtins.map fun builtin => (builtin.1, builtinEntry builtin.2))

/-- The names of a table on one line, sorted. -/
def text (table : FunctionTable) : String :=
  "FunctionRegistry([" ++
    String.intercalate ", " (table.sorted.map fun entry => Text.quoted entry.1) ++ "])"

/-- A line for each function with its arity, in the order of their names. -/
def listing (table : FunctionTable) : List String :=
  table.sorted.map fun entry => entry.1 ++ "/" ++ toString entry.2.arity

end FunctionTable

end RadixCalc
