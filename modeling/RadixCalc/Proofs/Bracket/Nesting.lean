import RadixCalc.Proofs.Bracket

/-!
How brackets nest. Two counts are kept along a row of marks: one gives up at a
bracket that closes nothing, the other passes over it. Brackets are paired where
the first count comes back to zero; the search for a closing bracket passes over
such text, and what it finds is such text.
-/

namespace RadixCalc.Bracket

/-- What stands at a place, as far as brackets and assignments go. -/
inductive Mark where
  | opens
  | closes
  | assigns
  | plain
deriving DecidableEq, Repr

/-- Only the brackets of a text are marked. -/
def markOf (char : Char) : Mark :=
  if char = '(' then .opens else if char = ')' then .closes else .plain

/-- How many brackets are open behind the marks, unless one closes nothing. -/
def nesting (opened : Nat) : List Mark → Option Nat
  | [] => some opened
  | .opens :: rest => nesting (opened + 1) rest
  | .closes :: rest =>
      match opened with
      | 0 => none
      | below + 1 => nesting below rest
  | _ :: rest => nesting opened rest

/-- Every closing bracket closes an earlier opening one, and none stays open. -/
def IsPaired (text : List Char) : Prop :=
  nesting 0 (text.map markOf) = some 0

instance (text : List Char) : Decidable (IsPaired text) :=
  inferInstanceAs (Decidable (nesting 0 (text.map markOf) = some 0))

/-- How many groups are open behind a mark; a bracket that closes nothing is passed over. -/
def Mark.after (opened : Nat) : Mark → Nat
  | opens => opened + 1
  | closes => opened - 1
  | _ => opened

def openGroups (opened : Nat) (marks : List Mark) : Nat :=
  marks.foldl Mark.after opened

/-- An assignment is met where a group is open. -/
def AssignsInGroup (opened : Nat) (marks : List Mark) : Prop :=
  ∃ before after, marks = before ++ .assigns :: after ∧ 0 < openGroups opened before

section Counting

variable {opened ended : Nat}

theorem nesting_append (first second : List Mark) :
    nesting opened (first ++ second) = (nesting opened first).bind (nesting · second) := by
  induction first generalizing opened with
  | nil => rfl
  | cons mark rest induction =>
      cases mark with
      | closes =>
          cases opened with
          | zero => rfl
          | succ below => exact induction
      | opens => exact induction
      | assigns => exact induction
      | plain => exact induction

/-- Brackets that were open before stay open. -/
theorem nesting_add {marks : List Mark} (counted : nesting opened marks = some ended)
    (outer : Nat) : nesting (opened + outer) marks = some (ended + outer) := by
  induction marks generalizing opened with
  | nil =>
      obtain rfl := Option.some.inj counted
      rfl
  | cons mark rest induction =>
      cases mark with
      | opens =>
          have further := induction counted
          rwa [Nat.add_right_comm] at further
      | closes =>
          cases opened with
          | zero => cases counted
          | succ below =>
              rw [Nat.add_right_comm]
              exact @induction below counted
      | assigns => exact induction counted
      | plain => exact induction counted

theorem nesting_cons {mark : Mark} {rest : List Mark} :
    nesting opened (mark :: rest) = some ended ↔
      (mark = .closes → 0 < opened) ∧ nesting (mark.after opened) rest = some ended := by
  cases mark with
  | closes =>
      cases opened with
      | zero => simp [nesting]
      | succ below => simp [nesting, Mark.after]
  | opens => simp [nesting, Mark.after]
  | assigns => simp [nesting, Mark.after]
  | plain => simp [nesting, Mark.after]

theorem open_groups_of_nesting {marks : List Mark} (counted : nesting opened marks = some ended) :
    openGroups opened marks = ended := by
  induction marks generalizing opened with
  | nil => exact Option.some.inj counted
  | cons mark rest induction => exact induction (nesting_cons.mp counted).2

theorem assigns_in_group_cons {mark : Mark} {rest : List Mark} :
    AssignsInGroup opened (mark :: rest) ↔
      (mark = .assigns ∧ 0 < opened) ∨ AssignsInGroup (mark.after opened) rest := by
  constructor
  · rintro ⟨before, after, split, counted⟩
    cases before with
    | nil =>
        obtain ⟨rfl, -⟩ := List.cons.inj split
        exact Or.inl ⟨rfl, counted⟩
    | cons head behind =>
        obtain ⟨rfl, same⟩ := List.cons.inj split
        exact Or.inr ⟨behind, after, same, counted⟩
  · rintro (⟨rfl, counted⟩ | ⟨before, after, rfl, counted⟩)
    · exact ⟨[], rest, rfl, counted⟩
    · exact ⟨mark :: before, after, rfl, counted⟩

end Counting

theorem mark_of_plain {char : Char} (notOpening : char ≠ '(') (notClosing : char ≠ ')') :
    markOf char = .plain := by
  simp [markOf, notOpening, notClosing]

theorem nesting_skip {opened : Nat} {text : List Char}
    (plain : ∀ char ∈ text, char ≠ '(' ∧ char ≠ ')') (rest : List Char) :
    nesting opened ((text ++ rest).map markOf) = nesting opened (rest.map markOf) := by
  induction text with
  | nil => rfl
  | cons char later induction =>
      have head : markOf char = .plain :=
        mark_of_plain (plain char (by simp)).1 (plain char (by simp)).2
      have tail := induction (by intro other member; exact plain other (by simp [member]))
      rw [List.cons_append, List.map_cons, head]
      exact tail

/-- A pair of brackets with paired text in it leaves the count as it is. -/
theorem nesting_enclosed {opened : Nat} {text : List Char} (paired : IsPaired text)
    (rest : List Char) :
    nesting opened (('(' :: (text ++ ')' :: rest)).map markOf) =
      nesting opened (rest.map markOf) := by
  have inner := nesting_add paired (opened + 1)
  rw [Nat.zero_add] at inner
  rw [List.map_cons, List.map_append, List.map_cons]
  change nesting (opened + 1) (text.map markOf ++ .closes :: rest.map markOf) = _
  rw [nesting_append, inner]
  rfl

/-- From any depth above zero the search passes over text whose brackets nest. -/
theorem closing_offset_nested {text : List Char} {opened ended : Nat}
    (counted : nesting opened (text.map markOf) = some ended) (depth : Int) (rest : List Char)
    (positive : 0 < depth) :
    closingOffset (depth + opened) (text ++ rest) =
      (closingOffset (depth + ended) rest).map (· + text.length) := by
  induction text generalizing opened with
  | nil =>
      obtain rfl := Option.some.inj counted
      simp
  | cons char later induction =>
      -- A character is passed where the depth behind it is again the one of the count.
      have next : ∀ through : Nat, nesting through (later.map markOf) = some ended →
          depthAfter (depth + opened) char = depth + through →
          ¬ (char = ')' ∧ depthAfter (depth + opened) char = 0) →
          closingOffset (depth + opened) (char :: later ++ rest) =
            (closingOffset (depth + ended) rest).map (· + (char :: later).length) := by
        intro through counted same passed
        rw [List.cons_append, closingOffset, if_neg passed, same, induction counted,
          Option.map_map]
        rfl
      by_cases opening : char = '('
      · subst opening
        apply next (opened + 1) counted
        · simp [depthAfter]
          omega
        · simp
      by_cases closing : char = ')'
      · subst closing
        cases opened with
        | zero => cases counted
        | succ below =>
            apply next below counted
            · simp [depthAfter]
              omega
            · simp [depthAfter]
              omega
      · apply next opened
        · simpa [markOf, opening, closing, nesting] using counted
        · simp [depthAfter, opening, closing]
        · simp [closing]

theorem IsPaired.balanced {text : List Char} (paired : IsPaired text) : Balanced text := by
  intro depth rest positive
  simpa using closing_offset_nested paired depth rest positive

/-- What stands before the closing bracket that the search finds nests, up to that bracket. -/
theorem nesting_of_closing_offset {text : List Char} {opened offset : Nat}
    (found : closingOffset (opened + 1) text = some offset) :
    nesting opened ((text.take offset).map markOf) = some 0 ∧
      text = text.take offset ++ ')' :: text.drop (offset + 1) := by
  induction text generalizing opened offset with
  | nil => cases found
  | cons char rest induction =>
      rw [closingOffset] at found
      split at found
      · rename_i closes
        obtain ⟨rfl, depth⟩ := closes
        obtain rfl := Option.some.inj found
        obtain rfl : opened = 0 := by
          simp [depthAfter] at depth
          omega
        exact ⟨rfl, rfl⟩
      · rename_i passed
        obtain ⟨behind, further, rfl⟩ := Option.map_eq_some_iff.mp found
        -- The depth stays one above the count, whichever character is passed.
        by_cases opening : char = '('
        · subst opening
          have deeper : depthAfter (opened + 1) '(' = (opened + 1 : Nat) + 1 := by
            simp [depthAfter]
          rw [deeper] at further
          obtain ⟨nested, split⟩ := induction further
          exact ⟨nested, congrArg _ split⟩
        by_cases closing : char = ')'
        · subst closing
          cases opened with
          | zero => simp [depthAfter] at passed
          | succ below =>
              have higher : depthAfter ((below + 1 : Nat) + 1) ')' = below + 1 := by
                simp [depthAfter]
              rw [higher] at further
              obtain ⟨nested, split⟩ := induction further
              exact ⟨nested, congrArg _ split⟩
        · have same : depthAfter (opened + 1) char = opened + 1 := by
            simp [depthAfter, opening, closing]
          rw [same] at further
          obtain ⟨nested, split⟩ := induction further
          refine ⟨?_, congrArg _ split⟩
          simpa [markOf, opening, closing, nesting] using nested

theorem split_at_closing_paired {text argument rest : List Char}
    (split : splitAtClosing text = some (argument, rest)) :
    IsPaired argument ∧ text = argument ++ ')' :: rest := by
  obtain ⟨offset, found, same⟩ := Option.map_eq_some_iff.mp split
  obtain ⟨rfl, rfl⟩ := Prod.mk.inj same
  exact nesting_of_closing_offset found

end RadixCalc.Bracket
