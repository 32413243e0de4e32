import RadixCalc.Text.WholeNumber

/-!
Whole numbers as messages show them. A number with more digits than are read in
text cannot be put into text either.
-/

namespace RadixCalc

/-- A whole number that can be shown. -/
structure ShownInt where
  value : Int
  short : value.natAbs < Text.WholeNumber.bound
deriving DecidableEq

namespace ShownInt

def ofInt? (number : Int) : Option ShownInt :=
  if short : number.natAbs < Text.WholeNumber.bound then some ⟨number, short⟩ else none

instance : Coe ShownInt Int := ⟨value⟩

instance : ToString ShownInt := ⟨fun number => toString number.value⟩

instance : Repr ShownInt := ⟨fun number precedence => reprPrec number.value precedence⟩

theorem of_int_value (number : ShownInt) : ofInt? number.value = some number :=
  dif_pos number.short

theorem of_int_some_iff {number : Int} {shown : ShownInt} :
    ofInt? number = some shown ↔ shown.value = number := by
  constructor
  · intro found
    rw [ofInt?] at found
    split at found
    · cases found
      rfl
    · cases found
  · rintro rfl
    exact shown.of_int_value

end ShownInt

end RadixCalc
