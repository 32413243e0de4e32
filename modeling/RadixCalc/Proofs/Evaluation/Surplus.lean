import RadixCalc.Proofs.Evaluation.Shape

/-!
Operands side by side. Reading does not look at whether operands and operators
take turns, so an operator that is missing between two operands can be made up
for by one that is too many elsewhere on the level: `1 2 +` is three. Where the
counts do not come out even there is no value.
-/

namespace RadixCalc

namespace Expression

theorem postorder_counts (tree : Expression) :
    tree.postorder.countP Token.isOperand = tree.postorder.countP Token.joins + 1 := by
  cases tree with
  | operand value => rfl
  | call name arguments => rfl
  | arithmetic operation left right =>
      have leftCounts := left.postorder_counts
      have rightCounts := right.postorder_counts
      simp [postorder, Token.isOperand, Token.joins]
      omega
  | assign target source =>
      have targetCounts := target.postorder_counts
      have sourceCounts := source.postorder_counts
      simp [postorder, Token.isOperand, Token.joins]
      omega

end Expression

/-- Two elements of a kind stand side by side. -/
def HasNeighbours {α : Type} (kind : α → Bool) (elements : List α) : Prop :=
  ∃ first second, [first, second] <:+: elements ∧ kind first = true ∧ kind second = true

namespace HasNeighbours

variable {α : Type} {kind : α → Bool}

theorem of_infix {inner outer : List α} (inside : inner <:+: outer)
    (neighbours : HasNeighbours kind inner) : HasNeighbours kind outer := by
  obtain ⟨first, second, beside, both⟩ := neighbours
  exact ⟨first, second, beside.trans inside, both⟩

theorem of_reverse {elements : List α} (neighbours : HasNeighbours kind elements.reverse) :
    HasNeighbours kind elements := by
  obtain ⟨first, second, beside, isFirst, isSecond⟩ := neighbours
  have turned : [second, first].reverse <:+: elements.reverse := beside
  exact ⟨second, first, List.reverse_infix.mp turned, isSecond, isFirst⟩

/-- Without neighbours, each of the kind that is not the last has one of another kind behind it;
if the first is of another kind too, that is one more. -/
theorem count_apart (elements : List α) (apart : ¬ HasNeighbours kind elements)
    (ended : ∀ last ∈ elements.getLast?, kind last = false) :
    2 * elements.countP kind ≤ elements.length ∧
      ∀ first ∈ elements.head?, kind first = false →
        2 * elements.countP kind + 1 ≤ elements.length := by
  match elements with
  | [] => simp
  | [single] => simp [ended single rfl]
  | first :: second :: rest =>
      have behind : ¬ HasNeighbours kind (second :: rest) := by
        intro neighbours
        exact apart (neighbours.of_infix (List.suffix_cons first _).isInfix)
      obtain ⟨bounded, fronted⟩ := count_apart (second :: rest) behind ended
      rw [List.length_cons]
      cases found : kind first with
      | false =>
          rw [List.countP_cons_of_neg (by simp [found])]
          exact ⟨by omega, fun _ _ _ => by omega⟩
      | true =>
          have other : kind second = false := by
            cases again : kind second with
            | false => rfl
            | true =>
                have beside : [first, second] <:+: first :: second :: rest := ⟨[], rest, rfl⟩
                exact absurd ⟨first, second, beside, found, again⟩ apart
          have enough := fronted second rfl other
          rw [List.countP_cons_of_pos found]
          refine ⟨by omega, ?_⟩
          intro head member single
          obtain rfl : first = head := Option.some.inj member
          rw [found] at single
          cases single

/-- Where two elements of other kinds stand side by side, the kind falls short by two. -/
theorem count_around {before after : List α} {first second : α}
    (apart : ¬ HasNeighbours kind (before ++ [first] ++ second :: after))
    (begun : ∀ head ∈ (before ++ [first] ++ second :: after).head?, kind head = false)
    (ended : ∀ last ∈ (before ++ [first] ++ second :: after).getLast?, kind last = false)
    (firstOther : kind first = false) (secondOther : kind second = false) :
    2 * (before ++ [first] ++ second :: after).countP kind + 2 ≤
      (before ++ [first] ++ second :: after).length := by
  -- The list is cut between the two, and its front part counted from the cut backwards.
  have frontApart : ¬ HasNeighbours kind (before ++ [first]).reverse := by
    intro neighbours
    exact apart (neighbours.of_reverse.of_infix (List.prefix_append _ _).isInfix)
  have frontEnded : ∀ last ∈ (before ++ [first]).reverse.getLast?, kind last = false := by
    intro last member
    apply begun last
    rw [List.getLast?_reverse] at member
    rw [List.head?_append, Option.mem_def.mp member]
    rfl
  have backApart : ¬ HasNeighbours kind (second :: after) := by
    intro neighbours
    exact apart (neighbours.of_infix (List.suffix_append _ _).isInfix)
  have backEnded : ∀ last ∈ (second :: after).getLast?, kind last = false := by
    intro last member
    apply ended last
    rw [List.getLast?_append, Option.mem_def.mp member]
    rfl
  have front := (count_apart _ frontApart frontEnded).2 first (by simp) firstOther
  have back := (count_apart _ backApart backEnded).2 second rfl secondOther
  rw [List.countP_reverse, List.length_reverse] at front
  rw [List.countP_append, List.length_append]
  omega

end HasNeighbours

namespace Lexeme

/-- The operands and operators of a level without its brackets. -/
def terms (lexemes : List Lexeme) : List Lexeme :=
  lexemes.filter fun lexeme => lexeme.isOperand || lexeme.joins

/-- An operator comes before every operand or after the last one, or next to another operator,
brackets aside. -/
def HasSurplusOperator (lexemes : List Lexeme) : Prop :=
  (∃ first ∈ (terms lexemes).head?, first.joins = true) ∨
    (∃ last ∈ (terms lexemes).getLast?, last.joins = true) ∨
    HasNeighbours joins (terms lexemes)

theorem not_joins_of_operand {lexeme : Lexeme} (operand : lexeme.isOperand = true) :
    lexeme.joins = false := by
  cases lexeme <;> simp [isOperand] at operand <;> rfl

theorem count_joins_terms (lexemes : List Lexeme) :
    (terms lexemes).countP joins = lexemes.countP joins := by
  rw [terms, List.countP_filter]
  congr 1
  funext lexeme
  cases lexeme.joins <;> simp

theorem length_terms (lexemes : List Lexeme) :
    (terms lexemes).length = lexemes.countP isOperand + lexemes.countP joins := by
  rw [terms, ← List.countP_eq_length_filter]
  induction lexemes with
  | nil => rfl
  | cons lexeme rest induction =>
      rw [List.countP_cons, List.countP_cons, List.countP_cons, induction]
      cases operand : lexeme.isOperand with
      | true =>
          simp [not_joins_of_operand operand]
          omega
      | false =>
          simp
          omega

/-- Two operands side by side leave one operator too few, unless one is too many elsewhere. -/
theorem surplus_of_neighbours {lexemes : List Lexeme} (adjacent : HasNeighbours isOperand lexemes)
    (even : lexemes.countP isOperand = lexemes.countP joins + 1) : HasSurplusOperator lexemes := by
  by_contra none
  simp only [HasSurplusOperator, not_or, not_exists, not_and, Bool.not_eq_true] at none
  obtain ⟨begun, ended, apart⟩ := none
  obtain ⟨first, second, beside, isFirst, isSecond⟩ := adjacent
  have besideTerms : [first, second] <:+: terms lexemes := by
    have filtered := beside.filter fun lexeme => lexeme.isOperand || lexeme.joins
    simpa [terms, isFirst, isSecond] using filtered
  obtain ⟨before, after, split⟩ := besideTerms
  have whole : terms lexemes = before ++ [first] ++ second :: after := by simp [← split]
  have length := length_terms lexemes
  have count := count_joins_terms lexemes
  rw [whole] at begun ended apart length count
  have short := HasNeighbours.count_around apart begun ended (not_joins_of_operand isFirst)
    (not_joins_of_operand isSecond)
  omega

end Lexeme

namespace Sequence

/-- On every level of a text that has a value there are no operands at all, or one more than there
are operators. -/
theorem counts_of_value {settings : Settings} {levels : Nat} {text level : List Char}
    {sequence : Sequence} {functions : FunctionTable} {base : Int} {bindings : Bindings}
    {value : Float} (read : ofTextWithin settings levels text = .ok sequence)
    (ended : (sequence.evaluate functions base bindings).ending = .ok value)
    (inside : Scan.HasLevel text level) :
    (Scan.ofText true level).lexemes.countP Lexeme.isOperand = 0 ∨
      (Scan.ofText true level).lexemes.countP Lexeme.isOperand =
        (Scan.ofText true level).lexemes.countP Lexeme.joins + 1 := by
  obtain ⟨further, part, readPart, found⟩ := part_of_level inside read
  obtain ⟨operands, operators⟩ := counts_of_text_within readPart
  have shaped : part.IsExpression := by
    rcases found with blank | found
    · exact Or.inl blank
    · exact (is_expression_of_value ended).of_part found
  rw [← operands, ← operators]
  rcases shaped with rfl | ⟨tree, -, rfl, -⟩
  · exact Or.inl rfl
  · exact Or.inr tree.postorder_counts

/-- Where two operands stand side by side on some level there is no value, unless the level has just
one operator fewer than operands after all and one of its operators is too many elsewhere. -/
theorem neighbours_stop (settings : Settings) (depth : Int) {text : String} {sequence : Sequence}
    (read : ofTextAt settings depth text = .ok sequence) {level : List Char}
    (inside : Scan.HasLevel text.toList level)
    (adjacent : HasNeighbours Lexeme.isOperand (Scan.ofText true level).lexemes)
    (functions : FunctionTable) (base : Int) (bindings : Bindings) :
    (∃ stop, (sequence.evaluate functions base bindings).ending = .error stop) ∨
      ((Scan.ofText true level).lexemes.countP Lexeme.isOperand =
          (Scan.ofText true level).lexemes.countP Lexeme.joins + 1 ∧
        Lexeme.HasSurplusOperator (Scan.ofText true level).lexemes) := by
  cases ended : (sequence.evaluate functions base bindings).ending with
  | error stop => exact Or.inl ⟨stop, rfl⟩
  | ok value =>
      right
      rcases counts_of_value read ended inside with none | even
      · -- A blank level has no operands at all.
        obtain ⟨first, second, beside, isFirst, -⟩ := adjacent
        have member : first ∈ (Scan.ofText true level).lexemes := beside.subset (by simp)
        have counted := List.countP_pos_iff.mpr ⟨first, member, isFirst⟩
        omega
      · exact ⟨even, Lexeme.surplus_of_neighbours adjacent even⟩

/-- In the argument the two numbers are side by side, and no operator there makes up for it. -/
theorem neighbours_stop_in_argument :
    let sequence : Sequence := [.operand (.literal "2" false),
      .call "fac" [[.operand (.literal "1" false), .operand (.literal "2" false)]],
      .operator (.arithmetic .times)]
    ofTextAt {} 0 "2 * fac(1 2)" = .ok sequence ∧
      ∃ stop, (sequence.evaluate FunctionTable.standard 10 Bindings.standard).ending =
        .error stop := by
  intro sequence
  have read : ofTextAt {} 0 "2 * fac(1 2)" = .ok sequence := by cbv
  have outer : (Scan.ofText true "2 * fac(1 2)".toList).lexemes =
      [.literal "2" false, .operator (.arithmetic .times), .call "fac" ['1', ' ', '2']] := by cbv
  have inner : (Scan.ofText true ['1', ' ', '2']).lexemes =
      [.literal "1" false, .literal "2" false] := by cbv
  have inside : Scan.HasLevel "2 * fac(1 2)".toList ['1', ' ', '2'] := by
    apply Scan.HasLevel.argument _ (.whole _)
    · exact "fac"
    · rw [outer]
      simp
  have adjacent : HasNeighbours Lexeme.isOperand
      (Scan.ofText true ['1', ' ', '2']).lexemes := by
    rw [inner]
    exact ⟨_, _, List.infix_rfl, rfl, rfl⟩
  refine ⟨read, ?_⟩
  rcases neighbours_stop {} 0 read inside adjacent FunctionTable.standard 10
    Bindings.standard with stopped | ⟨even, -⟩
  · exact stopped
  · rw [inner] at even
    cases even

/-- The operator that is missing between the numbers stands behind them. -/
theorem neighbours_valued :
    let sequence : Sequence := [.operand (.literal "1" false), .operand (.literal "2" false),
      .operator (.arithmetic .plus)]
    ofTextAt {} 0 "1 2 +" = .ok sequence ∧
      HasNeighbours Lexeme.isOperand (Scan.ofText true "1 2 +".toList).lexemes ∧
      (sequence.evaluate FunctionTable.standard 10 Bindings.standard).ending = .ok 3.0 := by
  intro sequence
  have scanned : (Scan.ofText true "1 2 +".toList).lexemes =
      [.literal "1" false, .literal "2" false, .operator (.arithmetic .plus)] := by cbv
  refine ⟨by cbv, ?_, by decide +kernel⟩
  rw [scanned]
  exact ⟨_, _, ⟨[], [.operator (.arithmetic .plus)], rfl⟩, rfl, rfl⟩

end Sequence

end RadixCalc
