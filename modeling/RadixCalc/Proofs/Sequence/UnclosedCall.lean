import RadixCalc.Proofs.Fault
import RadixCalc.Proofs.Sequence.Grouping

/-!
Calls that are never closed. The argument of a call is cut out at the bracket
that closes it, so its own brackets are paired and every call inside it is
closed. That a bracket is unmatched is therefore a fault of the outermost text
only, and of none whose opening brackets are all closed.
-/

namespace RadixCalc

namespace Bracket

/-- Every opening bracket is closed further on. A closing bracket may close nothing. -/
def EachCloses (text : List Char) : Prop :=
  ∀ before inner, text = before ++ '(' :: inner →
    ∃ argument rest, inner = argument ++ ')' :: rest ∧ IsPaired argument

variable {opened ended : Nat} {text : List Char}

theorem nesting_counts (counted : nesting opened (text.map markOf) = some ended) :
    opened + text.count '(' = ended + text.count ')' := by
  induction text generalizing opened with
  | nil =>
      obtain rfl := Option.some.inj counted
      rfl
  | cons char rest induction =>
      obtain ⟨enclosed, further⟩ := nesting_cons.mp counted
      have remaining := induction further
      by_cases opening : char = '('
      · subst opening
        have deeper : (markOf '(').after opened = opened + 1 := rfl
        rw [deeper] at remaining
        simp
        omega
      by_cases closing : char = ')'
      · subst closing
        have higher : (markOf ')').after opened = opened - 1 := rfl
        have positive := enclosed rfl
        rw [higher] at remaining
        simp
        omega
      · have same : (markOf char).after opened = opened := by
          rw [mark_of_plain opening closing]
          rfl
        rw [same] at remaining
        simpa [opening, closing] using remaining

theorem IsPaired.counts (paired : IsPaired text) :
    text.count '(' = text.count ')' ∧
      ∀ before, before <+: text → before.count ')' ≤ before.count '(' := by
  constructor
  · simpa using nesting_counts paired
  · rintro before ⟨after, rfl⟩
    rw [IsPaired, List.map_append, nesting_append] at paired
    obtain ⟨inside, counted, -⟩ := Option.bind_eq_some_iff.mp paired
    have balance := nesting_counts counted
    omega

/-- If the count comes back to where it was before a bracket was opened, that bracket is closed. -/
theorem closed_of_nesting {outer : Nat} (below : ended ≤ outer)
    (counted : nesting (opened + 1 + outer) (text.map markOf) = some ended) :
    ∃ argument rest, text = argument ++ ')' :: rest ∧
      nesting opened (argument.map markOf) = some 0 := by
  induction text generalizing opened with
  | nil =>
      have same := Option.some.inj counted
      omega
  | cons char rest induction =>
      -- What is found behind the character is the same with the character in front.
      have behind : ∀ through : Nat,
          (markOf char).after (opened + 1 + outer) = through + 1 + outer →
          (∀ marks, nesting through marks = nesting opened (markOf char :: marks)) →
          ∃ argument later, char :: rest = argument ++ ')' :: later ∧
            nesting opened (argument.map markOf) = some 0 := by
        intro through after stands
        have further := (nesting_cons.mp counted).2
        rw [after] at further
        obtain ⟨argument, later, rfl, nested⟩ := induction further
        exact ⟨char :: argument, later, rfl, (stands _).symm.trans nested⟩
      by_cases opening : char = '('
      · subst opening
        exact behind (opened + 1) (Nat.add_right_comm _ _ _) (fun _ => rfl)
      by_cases closing : char = ')'
      · subst closing
        cases opened with
        | zero => exact ⟨[], rest, rfl, rfl⟩
        | succ through =>
            refine behind through ?_ (fun _ => rfl)
            change through + 1 + 1 + outer - 1 = _
            omega
      · rw [mark_of_plain opening closing] at behind
        exact behind opened rfl (fun _ => rfl)

theorem IsPaired.each_closes (paired : IsPaired text) : EachCloses text := by
  rintro before inner rfl
  rw [IsPaired, List.map_append, nesting_append] at paired
  obtain ⟨outer, -, further⟩ := Option.bind_eq_some_iff.mp paired
  have deeper : nesting (0 + 1 + outer) (inner.map markOf) = some 0 := by
    rw [Nat.zero_add, Nat.add_comm 1 outer]
    exact further
  exact closed_of_nesting (Nat.zero_le outer) deeper

theorem EachCloses.suffix {later : List Char} (closed : EachCloses text) (part : later <:+ text) :
    EachCloses later := by
  obtain ⟨front, rfl⟩ := part
  rintro before inner rfl
  exact closed (front ++ before) inner (List.append_assoc _ _ _).symm

end Bracket

namespace Scan

/-- A scan is given up for a bracket only if this is never closed. -/
theorem not_unmatched {signAllowed : Bool} {text : List Char} (closed : Bracket.EachCloses text) :
    (ofText signAllowed text).fault ≠ some .unmatchedBracket := by
  fun_induction ofText signAllowed text with
  | case1 signAllowed => rintro ⟨⟩
  | case2 signAllowed first rest stepped induction =>
      exact induction (closed.suffix (List.suffix_cons first rest))
  | case3 signAllowed first rest found signNext later within stepped induction =>
      have behind := (step_finds stepped).later_suffix
      exact induction (closed.suffix (behind.trans (List.suffix_cons first rest)))
  | case4 signAllowed first rest fault stepped =>
      rcases step_fault stepped with ⟨-, rfl⟩ | ⟨-, -, inner, after, unmatched⟩
      · rintro ⟨⟩
      · have opens := List.dropWhile_suffix (l := rest) isNameChar
        rw [after] at opens
        obtain ⟨front, rfl⟩ := opens
        obtain ⟨argument, later, rfl, paired⟩ := closed (first :: front) inner rfl
        rw [Bracket.split_at_closing_balanced paired.balanced later] at unmatched
        cases unmatched

end Scan

namespace Sequence

variable {settings : Settings} {levels : Nat} {text : List Char}

/-- By induction on the levels: the argument of a call is paired, so its brackets close. -/
theorem of_text_within_closed (closed : Bracket.EachCloses text) :
    ofTextWithin settings levels text ≠ .error .unmatchedBracket := by
  induction levels generalizing text with
  | zero => rintro ⟨⟩
  | succ levels induction =>
      intro refused
      rcases of_text_within_error refused with ⟨name, argument, called, further⟩ | stopped
      · exact induction (Scan.argument_paired called).each_closes further
      · exact Scan.not_unmatched closed stopped

theorem outermost_of_unmatched
    (refused : ofTextWithin settings levels text = .error .unmatchedBracket) :
    (Scan.ofText true text).fault = some .unmatchedBracket := by
  cases levels with
  | zero => cases refused
  | succ levels =>
      rcases of_text_within_error refused with ⟨name, argument, called, further⟩ | stopped
      · exact absurd further (of_text_within_closed (Scan.argument_paired called).each_closes)
      · exact stopped

/-- Arguments of calls, however deep they stand, have paired brackets and are never unmatched; the
fault is always one of the whole text, and it never arises where every opening bracket is closed. -/
theorem of_text_at_unmatched (settings : Settings) (text : String) :
    (∀ name argument level,
      Lexeme.call name argument ∈ (Scan.ofText true text.toList).lexemes →
      Scan.HasLevel argument level →
      level.count '(' = level.count ')' ∧
        (∀ before, before <+: level → before.count ')' ≤ before.count '(') ∧
        ∀ depth, ofTextAt settings depth (String.ofList level) ≠ .error .unmatchedBracket) ∧
    (∀ depth, ofTextAt settings depth text = .error .unmatchedBracket →
      (Scan.ofText true text.toList).fault = some .unmatchedBracket) ∧
    (Bracket.EachCloses text.toList →
      ∀ depth, ofTextAt settings depth text ≠ .error .unmatchedBracket) := by
  refine ⟨?_, fun depth => outermost_of_unmatched,
    fun closed depth => of_text_within_closed closed⟩
  intro name argument level called inside
  have paired := inside.paired (Scan.argument_paired called)
  refine ⟨paired.counts.1, paired.counts.2, ?_⟩
  intro depth
  rw [ofTextAt, String.toList_ofList]
  exact of_text_within_closed paired.each_closes

/-- A call in a call, behind a bracket that closes nothing. -/
theorem of_text_at_unmatched_behind_stray :
    Lexeme.call "f" ['g', '(', '1', ')'] ∈ (Scan.ofText true ")+f(g(1))".toList).lexemes ∧
      Scan.HasLevel ['g', '(', '1', ')'] ['1'] ∧
      ofTextAt {} 0 (String.ofList ['1']) ≠ .error .unmatchedBracket ∧
      Bracket.EachCloses ")+f(g(1))".toList ∧
      ofTextAt {} 0 ")+f(g(1))" ≠ .error .unmatchedBracket := by
  have outer : (Scan.ofText true ")+f(g(1))".toList).lexemes =
      [.close, .operator (.arithmetic .plus), .call "f" ['g', '(', '1', ')']] := by cbv
  have inner : (Scan.ofText true ['g', '(', '1', ')']).lexemes = [.call "g" ['1']] := by cbv
  have called : Lexeme.call "f" ['g', '(', '1', ')'] ∈
      (Scan.ofText true ")+f(g(1))".toList).lexemes := by
    rw [outer]
    simp
  have deeper : Lexeme.call "g" ['1'] ∈ (Scan.ofText true ['g', '(', '1', ')']).lexemes := by
    rw [inner]
    simp
  have inside : Scan.HasLevel ['g', '(', '1', ')'] ['1'] := .argument deeper (.whole _)
  have paired : Bracket.IsPaired "+f(g(1))".toList := by decide
  have closed : Bracket.EachCloses ")+f(g(1))".toList := by
    intro before rest split
    cases before with
    | nil => cases split
    | cons first later => exact paired.each_closes later rest (List.cons.inj split).2
  obtain ⟨arguments, -, whole⟩ := of_text_at_unmatched {} ")+f(g(1))"
  exact ⟨called, inside, (arguments _ _ _ called inside).2.2 0, closed, whole closed 0⟩

end Sequence

end RadixCalc
