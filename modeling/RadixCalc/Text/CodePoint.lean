/-!
Sets of code points, written as ascending closed ranges. Every table of a
character property in this library is such a list, and `covers` is the only
way to look one up.
-/

namespace RadixCalc.Text

/-- Closed ranges of code points, in ascending order and apart. -/
abbrev CodePointRanges := List (Nat × Nat)

namespace CodePointRanges

def covers (ranges : CodePointRanges) (point : Nat) : Bool :=
  ranges.any fun range => range.1 ≤ point && point ≤ range.2

def has (ranges : CodePointRanges) (char : Char) : Bool :=
  ranges.covers char.toNat

/-- How many code points the ranges hold. -/
def size : CodePointRanges → Nat
  | [] => 0
  | range :: rest => range.2 + 1 - range.1 + size rest

theorem covers_iff (ranges : CodePointRanges) (point : Nat) :
    ranges.covers point = true ↔
      ∃ range ∈ ranges, range.1 ≤ point ∧ point ≤ range.2 := by
  simp [covers]

end CodePointRanges

end RadixCalc.Text
