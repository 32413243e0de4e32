import RadixCalc.Token

/-!
Putting operators after their operands. Operators wait on a stack until one
comes that does not bind tighter; equal ranks group to the left. A bracket that
closes nothing empties the stack, and so does an assignment, open groups
included.
-/

namespace RadixCalc

/-- One element of an expression as written, once its calls have been read. -/
inductive Item where
  | token (token : Token)
  | operator (operator : Operator)
  | close

namespace Item

/-- Whether a waiting operator leaves the stack when `next` arrives. -/
def yields (next waiting : Operator) : Bool :=
  next != .group && waiting.rank ≤ next.rank

/-- Arranges the rest of an expression under a stack of waiting operators, the latest first. -/
def arrangeUnder : List Operator → List Item → Sequence
  | stack, [] => stack.map .operator
  | stack, .token next :: rest => next :: arrangeUnder stack rest
  | stack, .operator next :: rest =>
      (stack.takeWhile (yields next)).map .operator ++
        arrangeUnder (next :: stack.dropWhile (yields next)) rest
  | stack, .close :: rest =>
      (stack.takeWhile (· != .group)).map .operator ++
        arrangeUnder ((stack.dropWhile (· != .group)).drop 1) rest

def arrange (items : List Item) : Sequence :=
  arrangeUnder [] items

end Item

end RadixCalc
