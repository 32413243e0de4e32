import Mathlib.Data.Nat.Find
import RadixCalc.Bracket

/-!
What the search for a closing bracket finds. It counts from the place where it
starts, so it finds the first closing bracket through which the text from there
has as many closing brackets as opening ones. That is the bracket which closes
the first one opened, as long as no closing bracket stands before that one.
-/

namespace RadixCalc.Bracket

/-- As many closing brackets as opening ones. -/
def IsEven (text : List Char) : Prop :=
  text.count '(' = text.count ')'

/-- The part of a text from one index through another. -/
def through (text : List Char) (first last : Nat) : List Char :=
  (text.drop first).take (last + 1 - first)

/-- The first opening bracket at or after `start`. -/
structure IsFirstOpening (text : List Char) (start opening : Nat) : Prop where
  later : start ≤ opening
  opens : text[opening]? = some '('
  first : ∀ index, start ≤ index → index < opening → text[index]? ≠ some '('

/-- The bracket that closes the one at `opening`: the first index through which the text from
there is even. -/
structure IsClosing (text : List Char) (opening closing : Nat) : Prop where
  later : opening ≤ closing
  closes : text[closing]? = some ')'
  even : IsEven (through text opening closing)
  least : ∀ index, opening ≤ index → index < closing →
    ¬ IsEven (through text opening index)

/-- The first closing bracket through which the text from `start` is even. -/
structure IsFirstEven (text : List Char) (start closing : Nat) : Prop where
  later : start ≤ closing
  closes : text[closing]? = some ')'
  even : IsEven (through text start closing)
  least : ∀ index, start ≤ index → index < closing → text[index]? = some ')' →
    ¬ IsEven (through text start index)

instance (text : List Char) : Decidable (IsEven text) :=
  inferInstanceAs (Decidable (text.count '(' = text.count ')'))

/-- The running depth behind a text. -/
def depthBehind (depth : Int) (text : List Char) : Int :=
  depth + text.count '(' - text.count ')'

section Depth

variable {depth : Int} {char : Char} {text : List Char}

theorem depth_behind_cons :
    depthBehind depth (char :: text) = depthBehind (depthAfter depth char) text := by
  by_cases opening : char = '('
  · subst opening
    simp [depthBehind, depthAfter]
    omega
  by_cases closing : char = ')'
  · subst closing
    simp [depthBehind, depthAfter]
    omega
  · simp [depthBehind, depthAfter, opening, closing]

theorem depth_behind_one : depthBehind depth [char] = depthAfter depth char := by
  rw [depth_behind_cons]
  simp [depthBehind]

theorem even_iff_depth_behind : IsEven text ↔ depthBehind 0 text = 0 := by
  unfold IsEven depthBehind
  omega

theorem depth_after_cases (depth : Int) (char : Char) :
    depthAfter depth char = depth + 1 ∨ (char = ')' ∧ depthAfter depth char = depth - 1) ∨
      depthAfter depth char = depth := by
  unfold depthAfter
  split
  · exact Or.inl rfl
  · split
    · rename_i closing
      exact Or.inr (Or.inl ⟨closing, rfl⟩)
    · exact Or.inr (Or.inr rfl)

/-- The search stops at the first closing bracket behind which the depth is zero. -/
theorem closing_offset_iff {offset : Nat} :
    closingOffset depth text = some offset ↔
      text[offset]? = some ')' ∧ depthBehind depth (text.take (offset + 1)) = 0 ∧
        ∀ earlier < offset, text[earlier]? = some ')' →
          depthBehind depth (text.take (earlier + 1)) ≠ 0 := by
  induction text generalizing depth offset with
  | nil => simp [closingOffset]
  | cons char rest induction =>
      have head : depthBehind depth ((char :: rest).take (0 + 1)) = depthAfter depth char :=
        depth_behind_one
      have tail : ∀ index, depthBehind depth ((char :: rest).take (index + 1 + 1)) =
          depthBehind (depthAfter depth char) (rest.take (index + 1)) := by
        intro index
        rw [List.take_succ_cons, depth_behind_cons]
      rw [closingOffset]
      split
      · -- The search ends here, where no index is earlier.
        rename_i stops
        obtain ⟨rfl, zero⟩ := stops
        constructor
        · intro found
          obtain rfl := Option.some.inj found
          exact ⟨rfl, head.trans zero, by simp⟩
        · rintro ⟨-, -, least⟩
          cases offset with
          | zero => rfl
          | succ index => exact absurd (head.trans zero) (least 0 (Nat.succ_pos index) rfl)
      · -- It goes on, and every index but the first is one further along.
        rename_i passed
        cases offset with
        | zero =>
            rw [head]
            simpa using fun closing zero => absurd ⟨closing, zero⟩ passed
        | succ index =>
            have shifted : (closingOffset (depthAfter depth char) rest).map (· + 1) =
                some (index + 1) ↔ closingOffset (depthAfter depth char) rest = some index := by
              simp
            rw [shifted, induction, tail, List.getElem?_cons_succ]
            refine and_congr_right fun _ => and_congr_right fun _ => ?_
            constructor
            · intro least earlier before closing
              cases earlier with
              | zero =>
                  rw [head]
                  exact fun zero => passed ⟨by simpa using closing, zero⟩
              | succ earlier =>
                  rw [tail]
                  exact least earlier (Nat.lt_of_succ_lt_succ before) closing
            · intro least earlier before closing
              rw [← tail]
              exact least (earlier + 1) (Nat.succ_lt_succ before) closing

/-- Where the depth was above zero, it comes to zero behind a closing bracket. -/
theorem closing_of_depth_zero {length : Nat} (positive : 0 < depth)
    (zero : depthBehind depth (text.take length) = 0) :
    ∃ offset < length, text[offset]? = some ')' ∧
      depthBehind depth (text.take (offset + 1)) = 0 := by
  induction text generalizing depth length with
  | nil =>
      simp [depthBehind] at zero
      omega
  | cons char rest induction =>
      cases length with
      | zero =>
          simp [depthBehind] at zero
          omega
      | succ length =>
          rw [List.take_succ_cons, depth_behind_cons] at zero
          by_cases reached : depthAfter depth char = 0
          · -- One character changes the depth by one at most, so only a bracket can end it.
            have closing : char = ')' := by
              rcases depth_after_cases depth char with deeper | ⟨closing, -⟩ | same
              · omega
              · exact closing
              · omega
            exact ⟨0, Nat.succ_pos length, by simp [closing], depth_behind_one.trans reached⟩
          · have deeper : 0 < depthAfter depth char := by
              rcases depth_after_cases depth char with deeper | ⟨-, higher⟩ | same <;> omega
            obtain ⟨offset, before, closing, found⟩ := induction deeper zero
            refine ⟨offset + 1, Nat.succ_lt_succ before, closing, ?_⟩
            rwa [List.take_succ_cons, depth_behind_cons]

end Depth

section Search

variable {text : List Char} {start opening closing index : Nat}

theorem through_from (later : start ≤ index) :
    through text start index = (text.drop start).take (index - start + 1) := by
  rw [through]
  congr 1
  omega

/-- From any start, whatever stands there. -/
theorem closing_index_iff :
    closingIndex text start = some closing ↔ IsFirstEven text start closing := by
  have behind : ∀ offset, depthBehind 0 ((text.drop start).take (offset + 1)) = 0 ↔
      IsEven (through text start (start + offset)) := by
    intro offset
    rw [through_from (Nat.le_add_right start offset), Nat.add_sub_cancel_left,
      even_iff_depth_behind]
  rw [closingIndex, Option.map_eq_some_iff]
  constructor
  · rintro ⟨offset, found, rfl⟩
    obtain ⟨closes, even, least⟩ := closing_offset_iff.mp found
    rw [Nat.add_comm offset start]
    rw [List.getElem?_drop] at closes
    refine ⟨Nat.le_add_right start offset, closes, (behind offset).mp even, ?_⟩
    intro index later before closing
    obtain ⟨earlier, rfl⟩ := Nat.exists_eq_add_of_le later
    rw [← behind]
    apply least earlier (Nat.lt_of_add_lt_add_left before)
    rwa [List.getElem?_drop]
  · rintro ⟨later, closes, even, least⟩
    obtain ⟨offset, rfl⟩ := Nat.exists_eq_add_of_le later
    refine ⟨offset, ?_, Nat.add_comm offset start⟩
    rw [closing_offset_iff, List.getElem?_drop, behind]
    refine ⟨closes, even, ?_⟩
    intro earlier before closing
    rw [List.getElem?_drop] at closing
    rw [Ne, behind]
    exact least _ (Nat.le_add_right start earlier) (Nat.add_lt_add_left before start) closing

/-- What stands before an opening bracket does not count if it holds no bracket. -/
theorem even_from_opening (later : start ≤ opening) (beyond : opening ≤ index)
    (plain : ∀ gap, start ≤ gap → gap < opening →
      text[gap]? ≠ some '(' ∧ text[gap]? ≠ some ')') :
    IsEven (through text start index) ↔ IsEven (through text opening index) := by
  have parts : through text start index =
      (text.drop start).take (opening - start) ++ through text opening index := by
    have reach : index + 1 - start = (opening - start) + (index + 1 - opening) := by omega
    have place : start + (opening - start) = opening := by omega
    rw [through, through, reach, List.take_add, List.drop_drop, place]
  have absent : ∀ bracket : Char,
      (∀ gap, start ≤ gap → gap < opening → text[gap]? ≠ some bracket) →
      ((text.drop start).take (opening - start)).count bracket = 0 := by
    intro bracket missing
    rw [List.count_eq_zero]
    intro member
    obtain ⟨gap, stands⟩ := List.mem_iff_getElem?.mp member
    rw [List.getElem?_take, List.getElem?_drop] at stands
    split at stands
    · rename_i inside
      exact missing _ (Nat.le_add_right start gap) (by omega) stands
    · cases stands
  have opens := absent '(' fun gap after before => (plain gap after before).1
  have closes := absent ')' fun gap after before => (plain gap after before).2
  unfold IsEven
  rw [parts, List.count_append, List.count_append, opens, closes, Nat.zero_add, Nat.zero_add]

/-- Text that is even from an opening bracket on was so at a closing one. -/
theorem closing_of_even (opens : text[opening]? = some '(') (later : opening ≤ index)
    (even : IsEven (through text opening index)) :
    ∃ earlier, opening ≤ earlier ∧ earlier ≤ index ∧ text[earlier]? = some ')' ∧
      IsEven (through text opening earlier) := by
  have behind : text.drop opening = '(' :: text.drop (opening + 1) := by
    obtain ⟨inside, same⟩ := List.getElem?_eq_some_iff.mp opens
    rw [List.drop_eq_getElem_cons inside, same]
  have counted : ∀ offset, IsEven (through text opening (opening + offset)) ↔
      depthBehind 1 ((text.drop (opening + 1)).take offset) = 0 := by
    intro offset
    rw [through_from (Nat.le_add_right opening offset), Nat.add_sub_cancel_left, behind,
      List.take_succ_cons, even_iff_depth_behind, depth_behind_cons]
    rfl
  obtain ⟨length, rfl⟩ := Nat.exists_eq_add_of_le later
  -- Behind the opening bracket the depth is above zero.
  obtain ⟨offset, before, closes, zero⟩ :=
    closing_of_depth_zero (by decide) ((counted length).mp even)
  refine ⟨opening + (offset + 1), by omega, by omega, ?_, (counted (offset + 1)).mpr zero⟩
  rw [List.getElem?_drop] at closes
  rwa [Nat.add_comm offset 1, ← Nat.add_assoc]

theorem exists_first_opening (found : IsFirstEven text start closing) :
    ∃ opening, IsFirstOpening text start opening := by
  have closed : 0 < (through text start closing).count ')' := by
    rw [through_from found.later, List.count_pos_iff, List.mem_iff_getElem?]
    refine ⟨closing - start, ?_⟩
    rw [List.getElem?_take_of_lt (Nat.lt_succ_self _), List.getElem?_drop,
      Nat.add_sub_cancel' found.later]
    exact found.closes
  have opened : 0 < (through text start closing).count '(' := found.even ▸ closed
  have present : ∃ opening, start ≤ opening ∧ text[opening]? = some '(' := by
    obtain ⟨offset, stands⟩ := List.mem_iff_getElem?.mp (List.count_pos_iff.mp opened)
    rw [through, List.getElem?_take, List.getElem?_drop] at stands
    split at stands
    · exact ⟨start + offset, Nat.le_add_right start offset, stands⟩
    · cases stands
  obtain ⟨later, opens⟩ := Nat.find_spec present
  refine ⟨Nat.find present, later, opens, ?_⟩
  intro index after before
  exact fun stands => Nat.find_min present before ⟨after, stands⟩

/-- Where no closing bracket stands before the first opening one, the count from the start is the
count from that bracket. -/
theorem first_even_iff_closing (opened : IsFirstOpening text start opening)
    (clear : ∀ index, start ≤ index → index < opening → text[index]? ≠ some ')') :
    IsFirstEven text start closing ↔ IsClosing text opening closing := by
  have plain : ∀ gap, start ≤ gap → gap < opening →
      text[gap]? ≠ some '(' ∧ text[gap]? ≠ some ')' := by
    intro gap after before
    exact ⟨opened.first gap after before, clear gap after before⟩
  constructor
  · intro found
    have later : opening ≤ closing := by
      by_contra before
      exact clear closing found.later (Nat.lt_of_not_le before) found.closes
    refine ⟨later, found.closes, (even_from_opening opened.later later plain).mp found.even, ?_⟩
    intro index after before even
    obtain ⟨earlier, inside, within, closes, evenThere⟩ :=
      closing_of_even opened.opens after even
    exact found.least earlier (Nat.le_trans opened.later inside) (Nat.lt_of_le_of_lt within before)
      closes ((even_from_opening opened.later inside plain).mpr evenThere)
  · intro found
    refine ⟨Nat.le_trans opened.later found.later, found.closes,
      (even_from_opening opened.later found.later plain).mpr found.even, ?_⟩
    intro index after before closes
    have inside : opening ≤ index := by
      by_contra outside
      exact clear index after (Nat.lt_of_not_le outside) closes
    rw [even_from_opening opened.later inside plain]
    exact found.least index inside before

end Search

/-- The search finds the first closing bracket through which the text from the start is even. If no
closing bracket stands before the first opening one, this is the bracket that closes it, and there
is none just where it is never closed or none is opened. -/
theorem closing_index_found (text : List Char) (start : Nat) :
    (∀ closing, closingIndex text start = some closing ↔ IsFirstEven text start closing) ∧
    ((∀ opening, IsFirstOpening text start opening →
        ∀ index, start ≤ index → index < opening → text[index]? ≠ some ')') →
      (∀ closing, closingIndex text start = some closing ↔
        ∃ opening, IsFirstOpening text start opening ∧ IsClosing text opening closing) ∧
      (closingIndex text start = none ↔
        ¬ ∃ opening closing, IsFirstOpening text start opening ∧
          IsClosing text opening closing)) := by
  refine ⟨fun closing => closing_index_iff, ?_⟩
  intro clear
  have contract : ∀ closing, closingIndex text start = some closing ↔
      ∃ opening, IsFirstOpening text start opening ∧ IsClosing text opening closing := by
    intro closing
    rw [closing_index_iff]
    constructor
    · intro found
      obtain ⟨opening, opened⟩ := exists_first_opening found
      exact ⟨opening, opened, (first_even_iff_closing opened (clear opening opened)).mp found⟩
    · rintro ⟨opening, opened, closed⟩
      exact (first_even_iff_closing opened (clear opening opened)).mpr closed
  refine ⟨contract, ?_⟩
  rw [Option.eq_none_iff_forall_ne_some]
  constructor
  · rintro missing ⟨opening, closing, both⟩
    exact missing closing ((contract closing).mpr ⟨opening, both⟩)
  · rintro missing closing found
    obtain ⟨opening, both⟩ := (contract closing).mp found
    exact missing ⟨opening, closing, both⟩

/-- The bracket of the call is closed by the last but one. -/
theorem closing_index_found_nested :
    (∀ opening, IsFirstOpening "f(a()b))".toList 0 opening →
      ∀ index, 0 ≤ index → index < opening → "f(a()b))".toList[index]? ≠ some ')') ∧
    ∃ opening, IsFirstOpening "f(a()b))".toList 0 opening ∧
      IsClosing "f(a()b))".toList opening 6 := by
  have clear : ∀ opening, IsFirstOpening "f(a()b))".toList 0 opening →
      ∀ index, 0 ≤ index → index < opening → "f(a()b))".toList[index]? ≠ some ')' := by
    intro opening opened index _ before
    have bound : opening ≤ 1 := by
      by_contra beyond
      exact opened.first 1 (by decide) (by omega) rfl
    obtain rfl : index = 0 := by omega
    decide
  exact ⟨clear, (((closing_index_found "f(a()b))".toList 0).2 clear).1 6).mp rfl⟩

/-- Closing brackets before the first opening one put the count below zero. The search then misses
the bracket that closes it, or finds one although nothing closes it. -/
theorem closing_index_behind_stray :
    (IsFirstOpening ")()".toList 0 1 ∧ IsClosing ")()".toList 1 2 ∧
      closingIndex ")()".toList 0 = none) ∧
    (IsFirstOpening ")(()".toList 0 1 ∧ (∀ closing, ¬ IsClosing ")(()".toList 1 closing) ∧
      closingIndex ")(()".toList 0 = some 3) := by
  refine ⟨⟨⟨by decide, rfl, ?_⟩, ⟨by decide, rfl, by decide, ?_⟩, rfl⟩,
    ⟨by decide, rfl, ?_⟩, ?_, rfl⟩
  · intro index _ before
    obtain rfl : index = 0 := by omega
    decide
  · intro index after before
    obtain rfl : index = 1 := by omega
    decide
  · intro index _ before
    obtain rfl : index = 0 := by omega
    decide
  · rintro closing ⟨later, closes, even, -⟩
    have inside : closing < 4 := (List.getElem?_eq_some_iff.mp closes).1
    obtain rfl | rfl | rfl : closing = 1 ∨ closing = 2 ∨ closing = 3 := by omega
    · exact absurd even (by decide)
    · exact absurd even (by decide)
    · exact absurd even (by decide)

end RadixCalc.Bracket
