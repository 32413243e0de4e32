import RadixCalc.Proofs.Lexeme.Passage
import RadixCalc.Proofs.Sequence.Grouping

/-!
Assignments split a text. What stands before an equals sign is read as if the
text ended there, since the sign sends out all that waits. What stands behind it
is read as if the text began there, with the assignment waiting under everything
else until the end or the next equals sign.
-/

namespace RadixCalc

namespace Item

variable {waiting : List Operator} {items : List Item}

theorem arrange_under_assignment (waiting : List Operator) (before after : List Item) :
    arrangeUnder waiting (before ++ .operator .assign :: after) =
      arrangeUnder waiting before ++ arrangeUnder [.assign] after := by
  induction before generalizing waiting with
  | nil =>
      obtain ⟨sent, left⟩ := assign_empties waiting
      rw [List.nil_append, arrange_under_cons, sent, left]
      rfl
  | cons item rest induction =>
      rw [List.cons_append, arrange_under_cons, arrange_under_cons, induction, List.append_assoc]

/-- An assignment that waits under all others goes out last, unless another one or a bracket that
closes nothing sends it out before. -/
theorem arrange_above_assignment {opened : Nat} (unassigned : .assigns ∉ items.map mark)
    (nested : Bracket.nesting (waiting.count .group) (items.map mark) = some opened) :
    arrangeUnder (waiting ++ [.assign]) items =
      arrangeUnder waiting items ++ [.operator .assign] := by
  induction items generalizing waiting with
  | nil => simp [arrangeUnder]
  | cons item rest induction =>
      obtain ⟨enclosed, further⟩ := Bracket.nesting_cons.mp nested
      rw [List.map_cons, List.mem_cons, not_or] at unassigned
      obtain ⟨apart, later⟩ := unassigned
      have loose : ∀ operator ∈ [Operator.assign], 4 ≤ operator.rank := by decide
      obtain ⟨sent, left⟩ := under_loose loose (Ne.symm apart) enclosed
      rw [← count_waiting_after (Ne.symm apart)] at further
      rw [arrange_under_cons, arrange_under_cons, sent, left, induction later further,
        List.append_assoc]

theorem arrange_assignment {before after : List Item} {opened : Nat}
    (unassigned : .assigns ∉ after.map mark)
    (nested : Bracket.nesting 0 (after.map mark) = some opened) :
    arrange (before ++ .operator .assign :: after) =
      arrange before ++ arrange after ++ [.operator .assign] := by
  have source := @arrange_above_assignment [] after opened unassigned nested
  rw [List.nil_append] at source
  rw [arrange, arrange_under_assignment, source, List.append_assoc]
  rfl

end Item

namespace Scan

theorem of_text_assignment {before : List Char} (clean : (ofText true before).fault = none)
    (after : List Char) :
    (ofText true (before ++ '=' :: after)).lexemes =
        (ofText true before).lexemes ++ .operator .assign :: (ofText true after).lexemes ∧
      (ofText true (before ++ '=' :: after)).fault = (ofText true after).fault := by
  have delimited : Delimits ('=' :: after) := ⟨by decide, by decide, by decide⟩
  obtain ⟨signNext, lexemes, fault⟩ := of_text_append clean delimited
  have spelled : operatorOfChar? '=' = some .assign := rfl
  have assigned : ofText signNext ('=' :: after) =
      cons (.operator .assign) (ofText true after) :=
    of_text_operator spelled (fun minus => absurd minus (by decide))
  rw [assigned] at lexemes fault
  exact ⟨lexemes, fault⟩

/-- Outside the calls of the text there is no assignment, and each closing bracket closes an earlier
group. -/
structure IsSource (text : List Char) : Prop where
  unassigned : Lexeme.operator .assign ∉ (ofText true text).lexemes
  closed : ∃ opened, Bracket.nesting 0 ((ofText true text).lexemes.map Lexeme.mark) = some opened

end Scan

namespace Sequence

theorem of_text_within_assignment {settings : Settings} {levels : Nat}
    {before after : List Char} {first second : Sequence}
    (readBefore : ofTextWithin settings levels before = .ok first)
    (readAfter : ofTextWithin settings levels after = .ok second)
    (source : Scan.IsSource after) :
    ofTextWithin settings levels (before ++ '=' :: after) =
      .ok (first ++ second ++ [.operator .assign]) := by
  obtain ⟨further, rfl, clean, items, become, rfl⟩ := of_text_within_ok readBefore
  obtain ⟨cleanAfter, others, becomeAfter, rfl⟩ := of_text_within_ok_iff.mp readAfter
  obtain ⟨lexemes, fault⟩ := Scan.of_text_assignment clean after
  obtain ⟨opened, nested⟩ := source.closed
  have unassigned := mt assigns_mem_marks.mp source.unassigned
  rw [← become_marks becomeAfter] at nested unassigned
  rw [of_text_within_ok_iff, lexemes, fault, ← Item.arrange_assignment unassigned nested]
  exact ⟨cleanAfter, _, List.rel_append become (.cons (.operator .assign) becomeAfter), rfl⟩

/-- A text, an equals sign and another text are read as the tokens of the one, those of the other,
and the assignment. So a row of assignments groups to the left. -/
theorem of_text_at_assignments (settings : Settings) (depth : Int) {target : String}
    {first : Sequence} (read : ofTextAt settings depth target = .ok first) :
    (∀ (source : String) (second : Sequence),
      ofTextAt settings depth source = .ok second → Scan.IsSource source.toList →
        ofTextAt settings depth (target ++ "=" ++ source) =
          .ok (first ++ second ++ [.operator .assign])) ∧
    ∀ (sources : List String) (sequences : List Sequence),
      List.Forall₂ (fun source sequence =>
        ofTextAt settings depth source = .ok sequence ∧ Scan.IsSource source.toList)
        sources sequences →
      ofTextAt settings depth (String.intercalate "=" (target :: sources)) =
        .ok (first ++ sequences.flatMap fun sequence => sequence ++ [.operator .assign]) := by
  have single : ∀ {target : String} {first : Sequence} (source : String) (second : Sequence),
      ofTextAt settings depth target = .ok first →
      ofTextAt settings depth source = .ok second → Scan.IsSource source.toList →
        ofTextAt settings depth (target ++ "=" ++ source) =
          .ok (first ++ second ++ [.operator .assign]) := by
    intro target first source second read readSource isSource
    have spelled : (target ++ "=" ++ source).toList = target.toList ++ '=' :: source.toList := by
      simp
    rw [ofTextAt, spelled]
    exact of_text_within_assignment read readSource isSource
  refine ⟨fun source second => single source second read, ?_⟩
  intro sources sequences each
  induction each generalizing target first with
  | nil => simpa using read
  | @cons source sequence sources sequences both _ induction =>
      -- What is joined so far is the target of the sources that are left.
      have joined := induction (single source sequence read both.1 both.2)
      simpa using joined

/-- The bracket of the target closes nothing and that of the first source is never closed. -/
theorem of_text_at_assignments_malformed :
    let sources : List String := ["(3 -4", "-5 f(y=1)*"]
    let sequences : List Sequence :=
      [[.operand (.literal "3" false), .operand (.literal "4" false),
          .operator (.arithmetic .minus), .operator .group],
        [.operand (.literal "5" true), .call "f" [[.operand (.symbol "y"),
          .operand (.literal "1" false), .operator .assign]], .operator (.arithmetic .times)]]
    ofTextAt {} 0 "x )" = .ok [.operand (.symbol "x")] ∧
      List.Forall₂ (fun source sequence =>
        ofTextAt {} 0 source = .ok sequence ∧ Scan.IsSource source.toList) sources sequences ∧
      ofTextAt {} 0 "x )=(3 -4=-5 f(y=1)*" = .ok (.operand (.symbol "x") ::
        sequences.flatMap fun sequence => sequence ++ [.operator .assign]) := by
  intro sources sequences
  have target : ofTextAt {} 0 "x )" = .ok [.operand (.symbol "x")] := by cbv
  have first : (Scan.ofText true "(3 -4".toList).lexemes =
      [.operator .group, .literal "3" false, .operator (.arithmetic .minus),
        .literal "4" false] := by cbv
  have second : (Scan.ofText true "-5 f(y=1)*".toList).lexemes =
      [.literal "5" true, .call "f" ['y', '=', '1'], .operator (.arithmetic .times)] := by cbv
  have each : List.Forall₂ (fun source sequence =>
      ofTextAt {} 0 source = .ok sequence ∧ Scan.IsSource source.toList) sources sequences := by
    refine .cons ⟨by cbv, ?_, 1, ?_⟩ (.cons ⟨by cbv, ?_, 0, ?_⟩ .nil)
    · rw [first]
      simp
    · rw [first]
      rfl
    · rw [second]
      simp
    · rw [second]
      rfl
  exact ⟨target, each, (of_text_at_assignments {} 0 target).2 sources sequences each⟩

end Sequence

end RadixCalc
