import RadixCalc.Bracket

/-!
Text whose brackets close within it. The search for a closing bracket passes
over such text as a whole, from any depth above zero, so it finds the bracket
that follows an argument whatever calls and groups the argument holds.
-/

namespace RadixCalc.Bracket

/-- From any positive depth, the search leaves the text behind at the depth it came with. -/
def Balanced (text : List Char) : Prop :=
  ∀ (depth : Int) (rest : List Char), 0 < depth →
    closingOffset depth (text ++ rest) = (closingOffset depth rest).map (· + text.length)

theorem balanced_nil : Balanced [] := by
  intro depth rest positive
  simp

theorem balanced_append {first second : List Char} (firstBalanced : Balanced first)
    (secondBalanced : Balanced second) : Balanced (first ++ second) := by
  intro depth rest positive
  rw [List.append_assoc, firstBalanced depth (second ++ rest) positive,
    secondBalanced depth rest positive, Option.map_map]
  congr 1
  funext offset
  simp only [Function.comp_apply, List.length_append]
  omega

theorem balanced_plain {char : Char} (notOpening : char ≠ '(') (notClosing : char ≠ ')') :
    Balanced [char] := by
  intro depth rest positive
  simp [closingOffset, depthAfter, notOpening, notClosing]

theorem balanced_of_plain {text : List Char}
    (plain : ∀ char ∈ text, char ≠ '(' ∧ char ≠ ')') : Balanced text := by
  induction text with
  | nil => exact balanced_nil
  | cons char rest induction =>
      have head := plain char (by simp)
      have tail := induction (by intro other member; exact plain other (by simp [member]))
      exact balanced_append (balanced_plain head.1 head.2) tail

/-- At depth one the closing bracket is found right behind balanced text. -/
theorem closing_offset_behind {text : List Char} (balanced : Balanced text) (rest : List Char) :
    closingOffset 1 (text ++ ')' :: rest) = some text.length := by
  rw [balanced 1 (')' :: rest) (by decide)]
  simp [closingOffset, depthAfter]

theorem balanced_enclosed {text : List Char} (balanced : Balanced text) :
    Balanced ('(' :: text ++ [')']) := by
  intro depth rest positive
  have opened : closingOffset depth ('(' :: text ++ [')'] ++ rest) =
      (closingOffset (depth + 1) (text ++ ')' :: rest)).map (· + 1) := by
    simp [closingOffset, depthAfter]
  have closed : closingOffset (depth + 1) (')' :: rest) =
      (closingOffset depth rest).map (· + 1) := by
    have notYet : ¬ depth = 0 := by omega
    simp [closingOffset, depthAfter, notYet]
  rw [opened, balanced (depth + 1) (')' :: rest) (by omega), closed, Option.map_map,
    Option.map_map]
  congr 1
  funext offset
  simp only [Function.comp_apply, List.cons_append, List.length_cons, List.length_append,
    List.length_nil]
  omega

theorem split_at_closing_balanced {argument : List Char} (balanced : Balanced argument)
    (rest : List Char) : splitAtClosing (argument ++ ')' :: rest) = some (argument, rest) := by
  rw [splitAtClosing, closing_offset_behind balanced rest]
  simp

theorem split_at_closing_parts {text argument rest : List Char}
    (split : splitAtClosing text = some (argument, rest)) :
    argument <+: text ∧ rest <:+ text := by
  obtain ⟨offset, -, same⟩ := Option.map_eq_some_iff.mp split
  obtain ⟨rfl, rfl⟩ := Prod.mk.inj same
  exact ⟨List.take_prefix _ _, List.drop_suffix _ _⟩

end RadixCalc.Bracket
