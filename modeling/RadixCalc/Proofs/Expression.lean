import RadixCalc.Token

/-!
Expression trees. An operand is kept as it was written, and an argument of a
call may hold no expression at all. Postorder turns a tree into the sequence
that the stack of the evaluator takes in; grouping brackets have no trace in a
tree.
-/

namespace RadixCalc

inductive Expression where
  | operand (operand : Operand)
  | call (name : String) (arguments : List (Option Expression))
  | arithmetic (operation : Arithmetic) (left right : Expression)
  | assign (target source : Expression)

namespace Expression

mutual

/-- Both operands of an operator come before it, the left one first. -/
def postorder : Expression → Sequence
  | operand value => [.operand value]
  | call name arguments => [.call name (postorderEach arguments)]
  | arithmetic operation left right =>
      left.postorder ++ right.postorder ++ [.operator (.arithmetic operation)]
  | assign target source => target.postorder ++ source.postorder ++ [.operator .assign]

/-- An argument that holds nothing is the empty sequence. -/
def postorderEach : List (Option Expression) → List Sequence
  | [] => []
  | none :: rest => [] :: postorderEach rest
  | some argument :: rest => argument.postorder :: postorderEach rest

end

mutual

/-- How deep calls nest; a call counts even if its arguments hold nothing. -/
def callDepth : Expression → Nat
  | operand _ => 0
  | call _ arguments => callDepthEach arguments + 1
  | arithmetic _ left right => max left.callDepth right.callDepth
  | assign target source => max target.callDepth source.callDepth

def callDepthEach : List (Option Expression) → Nat
  | [] => 0
  | none :: rest => callDepthEach rest
  | some argument :: rest => max argument.callDepth (callDepthEach rest)

end

theorem postorder_nonempty (tree : Expression) : tree.postorder ≠ [] := by
  cases tree <;> simp [postorder]

theorem postorder_each_length (arguments : List (Option Expression)) :
    (postorderEach arguments).length = arguments.length := by
  induction arguments with
  | nil => rfl
  | cons argument rest induction => cases argument <;> simp [postorderEach, induction]

end Expression

end RadixCalc
