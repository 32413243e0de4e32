import RadixCalc.Proofs.Calculation.Ending
import RadixCalc.Proofs.Evaluation.Shape
import RadixCalc.Proofs.Sequence.Grouping

/-!
Groups that are never closed. A group gets into the output of a text where an
assignment is met inside it, or where it is still open at the end. It belongs to
no expression, so a sequence with a group in it has no value, and a text that is
read as one is never calculated well.
-/

namespace RadixCalc

theorem Expression.group_not_mem_postorder (tree : Expression) :
    Token.operator .group ∉ tree.postorder := by
  cases tree with
  | operand value => simp [postorder]
  | call name arguments => simp [postorder]
  | arithmetic operation left right =>
      simp [postorder, left.group_not_mem_postorder, right.group_not_mem_postorder]
  | assign target source =>
      simp [postorder, target.group_not_mem_postorder, source.group_not_mem_postorder]

namespace Sequence

theorem group_not_mem_expression {sequence : Sequence} (shaped : sequence.IsExpression) :
    Token.operator .group ∉ sequence := by
  rcases shaped with rfl | ⟨tree, -, rfl, -⟩
  · exact List.not_mem_nil
  · exact tree.group_not_mem_postorder

theorem group_stops {sequence part : Sequence} (inside : sequence.HasPart part)
    (member : Token.operator .group ∈ part) (functions : FunctionTable) (base : Int)
    (bindings : Bindings) :
    ∃ stop, (sequence.evaluate functions base bindings).ending = .error stop := by
  cases ended : (sequence.evaluate functions base bindings).ending with
  | error stop => exact ⟨stop, rfl⟩
  | ok value =>
      have shaped := (is_expression_of_value ended).of_part inside
      exact absurd member (group_not_mem_expression shaped)

end Sequence

namespace Calculation

/-- A group that stands in the output of a text, at whatever depth, keeps the calculation of the
text from going well. -/
theorem not_ok_of_group {settings : Settings} {depth : Int} {text : String}
    {sequence part : Sequence} (read : Sequence.ofTextAt settings depth text = .ok sequence)
    (inside : sequence.HasPart part) (member : Token.operator .group ∈ part)
    {functions : FunctionTable} {inputBase outputBase : Int} {bindings : Bindings}
    {outcome : Outcome}
    (answered : (ofText settings functions inputBase outputBase bindings text).reply =
      .answered outcome) : outcome.ok = false := by
  have ends := of_text_ends settings functions inputBase outputBase bindings text
  rw [answered] at ends
  have valueless : ∀ found value,
      ¬ Evaluates settings functions inputBase bindings text found (.ok value) := by
    rintro found value ⟨trimmed, ended⟩
    obtain rfl := trimmed_agree read trimmed
    obtain ⟨stop, stopped⟩ := Sequence.group_stops inside member functions inputBase bindings
    rw [stopped] at ended
    cases ended
  cases ends with
  | blank empty =>
      obtain rfl := nothing_of_blank read empty
      obtain rfl := Sequence.part_of_blank inside
      cases member
  | unread => rfl
  | stopped => rfl
  | unwritten evaluates => exact absurd evaluates (valueless _ _)
  | written evaluates => exact absurd evaluates (valueless _ _)

end Calculation

/-- A sequence with a group in it, at whatever depth, never has a value. A text that is read has one
in its output, outside its calls, exactly if outside its calls an assignment is met while a group is
open or a group is open at the end; and no such text is calculated well. -/
theorem group_never_valued :
    (∀ sequence part : Sequence, sequence.HasPart part → Token.operator .group ∈ part →
      ∀ (functions : FunctionTable) (base : Int) (bindings : Bindings), ∃ stop,
        (sequence.evaluate functions base bindings).ending = .error stop) ∧
    ∀ (settings : Settings) (depth : Int) (text : String) (sequence : Sequence),
      Sequence.ofTextAt settings depth text = .ok sequence →
      let marks := (Scan.ofText true text.toList).lexemes.map Lexeme.mark
      (Token.operator .group ∈ sequence ↔
        Bracket.AssignsInGroup 0 marks ∨ 0 < Bracket.openGroups 0 marks) ∧
      ∀ part, sequence.HasPart part → Token.operator .group ∈ part →
        ∀ (functions : FunctionTable) (inputBase outputBase : Int) (bindings : Bindings)
          (outcome : Outcome),
          (Calculation.ofText settings functions inputBase outputBase bindings text).reply =
            .answered outcome → outcome.ok = false := by
  constructor
  · intro sequence part inside member functions base bindings
    exact Sequence.group_stops inside member functions base bindings
  · intro settings depth text sequence read
    refine ⟨Sequence.group_mem_of_text_within read, ?_⟩
    intro part inside member functions inputBase outputBase bindings outcome answered
    exact Calculation.not_ok_of_group read inside member answered

/-- The bracket of the group comes too late: the assignment has sent the group out. -/
theorem group_never_valued_late_bracket :
    let sequence : Sequence := [.operand (.literal "2" false), .operand (.symbol "x"),
      .operator .group, .operator (.arithmetic .times), .operand (.literal "3" false),
      .operator .assign]
    Sequence.ofTextAt {} 0 " 2*(x = 3)\t" = .ok sequence ∧
      Bracket.AssignsInGroup 0
        ((Scan.ofText true " 2*(x = 3)\t".toList).lexemes.map Lexeme.mark) ∧
      (∃ stop, (sequence.evaluate FunctionTable.standard 10 Bindings.standard).ending =
        .error stop) ∧
      ∀ outcome,
        (Calculation.ofText {} FunctionTable.standard 10 10 Bindings.standard
          " 2*(x = 3)\t").reply = .answered outcome → outcome.ok = false := by
  intro sequence
  have read : Sequence.ofTextAt {} 0 " 2*(x = 3)\t" = .ok sequence := by cbv
  have scanned : (Scan.ofText true " 2*(x = 3)\t".toList).lexemes =
      [.literal "2" false, .operator (.arithmetic .times), .operator .group, .name "x",
        .operator .assign, .literal "3" false, .close] := by cbv
  have member : Token.operator .group ∈ sequence := by simp [sequence]
  obtain ⟨stops, texts⟩ := group_never_valued
  obtain ⟨grouped, calculates⟩ := texts {} 0 " 2*(x = 3)\t" sequence read
  have closed : ¬ 0 < Bracket.openGroups 0
      ((Scan.ofText true " 2*(x = 3)\t".toList).lexemes.map Lexeme.mark) := by
    rw [scanned]
    decide
  refine ⟨read, (grouped.mp member).resolve_right closed, ?_, ?_⟩
  · exact stops sequence sequence (.whole sequence) member FunctionTable.standard 10
      Bindings.standard
  · exact calculates sequence (.whole sequence) member FunctionTable.standard 10 10
      Bindings.standard

end RadixCalc
