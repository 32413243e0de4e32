/-!
Closing brackets. A running depth counts the brackets seen so far; the bracket
that brings it to zero closes the first one that was opened. Closing brackets
before any opening one count too, so the depth may be below zero for a while.
-/

namespace RadixCalc.Bracket

def depthAfter (depth : Int) (char : Char) : Int :=
  if char = '(' then depth + 1 else if char = ')' then depth - 1 else depth

/-- How many characters stand before the bracket that brings `depth` to zero. -/
def closingOffset (depth : Int) : List Char → Option Nat
  | [] => none
  | char :: rest =>
      if char = ')' ∧ depthAfter depth char = 0 then some 0
      else (closingOffset (depthAfter depth char) rest).map (· + 1)

/-- The index of the bracket that closes the first one opened at or after `start`. -/
def closingIndex (text : List Char) (start : Nat) : Option Nat :=
  (closingOffset 0 (text.drop start)).map (· + start)

/-- Splits text that follows an opening bracket at the bracket that closes it. -/
def splitAtClosing (text : List Char) : Option (List Char × List Char) :=
  (closingOffset 1 text).map fun offset => (text.take offset, text.drop (offset + 1))

theorem split_at_closing_length {text argument rest : List Char}
    (split : splitAtClosing text = some (argument, rest)) : rest.length ≤ text.length := by
  obtain ⟨offset, _, same⟩ := Option.map_eq_some_iff.1 split
  simp only [Prod.mk.injEq] at same
  rw [← same.2, List.length_drop]
  omega

end RadixCalc.Bracket
