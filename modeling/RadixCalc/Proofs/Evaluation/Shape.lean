import RadixCalc.Proofs.Expression.Unique
import RadixCalc.Proofs.Sequence.Level

/-!
The shape of what can be evaluated. While a sequence is taken in, each operand
on the stack stands for a tree, and the postorders of these trees, the deepest
one first, are all that was taken in so far. A value at the end means that one
tree is left, or nothing at all. An operand that is still a name shows that its
tree is a name or an assignment, which is all that an assignment asks for.
-/

namespace RadixCalc

namespace Evaluation

variable {α β : Type}

/-- From some workspace the computation ends with the value. -/
def EndsWith (computation : Evaluation α) (value : α) : Prop :=
  ∃ workspace, (computation.run workspace).1 = .ok value

namespace EndsWith

theorem of_pure {value result : α} (ends : EndsWith (pure value) result) : value = result := by
  obtain ⟨workspace, ended⟩ := ends
  exact Except.ok.inj ended

theorem not_stopped {stop : Stop} {result : α} (ends : EndsWith (throw stop) result) : False := by
  obtain ⟨workspace, ended⟩ := ends
  cases ended

theorem of_bind {first : Evaluation α} {next : α → Evaluation β} {result : β}
    (ends : EndsWith (first >>= next) result) :
    ∃ value, EndsWith first value ∧ EndsWith (next value) result := by
  obtain ⟨workspace, ended⟩ := ends
  rw [run_bind] at ended
  cases ran : first.run workspace with
  | mk ending after =>
      rw [ran] at ended
      cases ending with
      | error stop => cases ended
      | ok value => exact ⟨value, ⟨workspace, by rw [ran]⟩, ⟨after, ended⟩⟩

theorem of_result {ending : Except Stop α} {result : α}
    (ends : EndsWith (ofResult ending) result) :
    ending = .ok result := by
  cases ending with
  | ok value => rw [of_pure ends]
  | error stop => exact (not_stopped ends).elim

end EndsWith

/-- An operator takes two operands and leaves a number, or the name that it assigned to. -/
theorem operate_ends {base : Int} {operator : Operator} {stack next : List Operand}
    (ends : EndsWith (operate base operator stack) next) :
    ∃ right left rest, stack = right :: left :: rest ∧
      ((∃ operation value, operator = .arithmetic operation ∧ next = .number value :: rest) ∨
        ∃ name, operator = .assign ∧ left = .symbol name ∧ next = .symbol name :: rest) := by
  match stack with
  | [] => exact (EndsWith.not_stopped ends).elim
  | [_] => exact (EndsWith.not_stopped ends).elim
  | right :: left :: rest =>
      refine ⟨right, left, rest, rfl, ?_⟩
      by_cases assigning : operator = .assign
      · rw [operate, if_pos assigning] at ends
        obtain ⟨value, -, assigned⟩ := ends.of_bind
        cases left with
        | symbol name =>
            obtain ⟨_, -, finished⟩ := assigned.of_bind
            exact Or.inr ⟨name, assigning, rfl, finished.of_pure.symm⟩
        | number found => exact (EndsWith.not_stopped assigned).elim
        | literal digits negative => exact (EndsWith.not_stopped assigned).elim
      · rw [operate, if_neg assigning] at ends
        obtain ⟨second, -, resolving⟩ := ends.of_bind
        obtain ⟨first, -, applying⟩ := resolving.of_bind
        obtain ⟨value, applied, finished⟩ := applying.of_bind
        cases operator with
        | arithmetic operation => exact Or.inl ⟨operation, value, rfl, finished.of_pure.symm⟩
        | assign => exact absurd rfl assigning
        | group => cases applied.of_result
        | other symbol => cases applied.of_result

/-- A tree that an operand can stand for. -/
structure StandsFor (operand : Operand) (tree : Expression) : Prop where
  assigns : tree.AssignsTargets
  target : ∀ name, operand = .symbol name → tree.IsTarget

/-- The operands of a stack stand for the trees of what was taken in. -/
inductive Covers : List Operand → Sequence → Prop where
  | empty : Covers [] []
  | push {operand : Operand} {tree : Expression} {stack : List Operand} {taken : Sequence}
      (covers : Covers stack taken) (stands : StandsFor operand tree) :
      Covers (operand :: stack) (taken ++ tree.postorder)

theorem operand_stands (operand : Operand) : StandsFor operand (.operand operand) where
  assigns := trivial
  target := by
    rintro name rfl
    trivial

/-- A number says nothing about the root of its tree. -/
theorem number_stands {value : Float} {tree : Expression} (assigns : tree.AssignsTargets) :
    StandsFor (.number value) tree where
  assigns := assigns
  target := by
    intro name same
    cases same

theorem operate_covers {base : Int} {operator : Operator} {stack next : List Operand}
    {taken : Sequence} (covers : Covers stack taken)
    (ends : EndsWith (operate base operator stack) next) :
    Covers next (taken ++ [.operator operator]) := by
  obtain ⟨right, left, rest, rfl, ended⟩ := operate_ends ends
  cases covers with
  | @push _ rightTree _ _ covers rightStands =>
      cases covers with
      | @push _ leftTree _ before covers leftStands =>
          rcases ended with ⟨operation, value, rfl, rfl⟩ | ⟨name, rfl, rfl, rfl⟩
          · have joined : StandsFor (.number value) (.arithmetic operation leftTree rightTree) :=
              number_stands ⟨leftStands.assigns, rightStands.assigns⟩
            simpa [Expression.postorder] using Covers.push covers joined
          · have joined : StandsFor (.symbol name) (.assign leftTree rightTree) := by
              constructor
              · exact ⟨leftStands.target name rfl, leftStands.assigns, rightStands.assigns⟩
              · intro _ _
                trivial
            simpa [Expression.postorder] using Covers.push covers joined

/-- What is left at the end is one tree or nothing. -/
theorem conclude_covers {base : Int} {count : Nat} {stack : List Operand} {taken : Sequence}
    {value : Float} (covers : Covers stack taken)
    (ends : EndsWith (conclude base count stack) value) :
    taken = [] ∨ ∃ tree : Expression, tree.AssignsTargets ∧ taken = tree.postorder := by
  match stack with
  | [] =>
      cases covers
      exact Or.inl rfl
  | [operand] =>
      cases covers with
      | push covers stands =>
          cases covers
          exact Or.inr ⟨_, stands.assigns, List.nil_append _⟩
  | _ :: _ :: _ => exact (EndsWith.not_stopped ends).elim

section Taking

variable (functions : FunctionTable) (base : Int)

mutual

theorem take_token_covers (token : Token) {stack next : List Operand} {taken : Sequence}
    (covers : Covers stack taken) (ends : EndsWith (takeToken functions base token stack) next) :
    Covers next (taken ++ [token]) := by
  match token with
  | .operand value =>
      rw [← ends.of_pure]
      exact covers.push (operand_stands value)
  | .operator operator => exact operate_covers covers ends
  | .call name arguments =>
      obtain ⟨compute, -, called⟩ := ends.of_bind
      obtain ⟨values, evaluated, computing⟩ := called.of_bind
      obtain ⟨value, -, finished⟩ := computing.of_bind
      obtain ⟨trees, rfl, assigns⟩ := evaluate_each_covers arguments evaluated
      rw [← finished.of_pure]
      have stands : StandsFor (.number value) (.call name trees) := number_stands assigns
      exact covers.push stands

theorem take_all_covers (sequence : List Token) {stack next : List Operand} {taken : Sequence}
    (covers : Covers stack taken) (ends : EndsWith (takeAll functions base sequence stack) next) :
    Covers next (taken ++ sequence) := by
  match sequence with
  | [] =>
      rw [← ends.of_pure, List.append_nil]
      exact covers
  | token :: rest =>
      obtain ⟨middle, first, later⟩ := ends.of_bind
      have further := take_all_covers rest (take_token_covers token covers first) later
      rwa [List.append_assoc] at further

theorem evaluate_each_covers (arguments : List (List Token)) {values : List Float}
    (ends : EndsWith (evaluateEach functions base arguments) values) :
    ∃ trees, arguments = Expression.postorderEach trees ∧
      Expression.AssignsTargetsEach trees := by
  match arguments with
  | [] => exact ⟨[], rfl, trivial⟩
  | argument :: rest =>
      obtain ⟨stack, taken, concluding⟩ := ends.of_bind
      obtain ⟨value, concluded, remaining⟩ := concluding.of_bind
      obtain ⟨others, evaluated, -⟩ := remaining.of_bind
      obtain ⟨trees, rfl, assigns⟩ := evaluate_each_covers rest evaluated
      have covers := take_all_covers argument Covers.empty taken
      rw [List.nil_append] at covers
      rcases conclude_covers covers concluded with rfl | ⟨tree, treeAssigns, rfl⟩
      · exact ⟨none :: trees, rfl, assigns⟩
      · exact ⟨some tree :: trees, rfl, treeAssigns, assigns⟩

end

end Taking

end Evaluation

namespace Sequence

/-- Nothing at all, or one expression and no other, whose assignments have targets on their left. -/
def IsExpression (sequence : Sequence) : Prop :=
  sequence = [] ∨ ∃ tree : Expression, tree.AssignsTargets ∧ sequence = tree.postorder ∧
    ∀ other : Expression, sequence = other.postorder → other = tree

theorem is_expression_of_tree {tree : Expression} (assigns : tree.AssignsTargets) :
    IsExpression tree.postorder :=
  Or.inr ⟨tree, assigns, rfl, fun _ same => (Expression.postorder_injective same).symm⟩

theorem part_of_blank {part : Sequence} (inside : HasPart [] part) : part = [] := by
  cases inside with
  | whole => rfl
  | argument called => cases called

theorem part_of_expression {sequence part : Sequence} (inside : sequence.HasPart part)
    {tree : Expression} (assigns : tree.AssignsTargets) (same : sequence = tree.postorder) :
    part.IsExpression := by
  induction inside generalizing tree with
  | whole sequence =>
      rw [same]
      exact is_expression_of_tree assigns
  | argument called passed further induction =>
      rw [same] at called
      obtain ⟨trees, rfl, each⟩ := tree.call_in_postorder assigns called
      rcases Expression.mem_postorder_each each passed with rfl | ⟨inner, innerAssigns, rfl⟩
      · exact Or.inl (part_of_blank further)
      · exact induction innerAssigns rfl

theorem IsExpression.of_part {sequence part : Sequence} (shaped : sequence.IsExpression)
    (inside : sequence.HasPart part) : part.IsExpression := by
  rcases shaped with rfl | ⟨tree, assigns, same, -⟩
  · exact Or.inl (part_of_blank inside)
  · exact part_of_expression inside assigns same

theorem is_expression_of_value {functions : FunctionTable} {base : Int} {bindings : Bindings}
    {sequence : Sequence} {value : Float}
    (ended : (sequence.evaluate functions base bindings).ending = .ok value) :
    sequence.IsExpression := by
  have ends : Evaluation.EndsWith (Evaluation.evaluate functions base sequence) value :=
    ⟨{ bindings, journal := [] }, ended⟩
  obtain ⟨radix, -, supported⟩ := ends.of_bind
  obtain ⟨stack, taken, concluded⟩ := supported.of_bind
  have covers := Evaluation.take_all_covers functions base sequence .empty taken
  rcases Evaluation.conclude_covers covers concluded with rfl | ⟨tree, assigns, same⟩
  · exact Or.inl rfl
  · rw [List.nil_append] at same
    rw [same]
    exact is_expression_of_tree assigns

/-- Only expressions have values: a sequence that is evaluated to a number holds nothing or is the
postorder of one tree, and so does every argument in it at every depth. -/
theorem expression_of_value {functions : FunctionTable} {base : Int} {bindings : Bindings}
    {sequence : Sequence} {value : Float}
    (ended : (sequence.evaluate functions base bindings).ending = .ok value) :
    ∀ part, sequence.HasPart part → part.IsExpression := by
  intro part inside
  exact (is_expression_of_value ended).of_part inside

/-- The first assignment is the target of the second one. -/
theorem expression_of_value_reassigned :
    let sequence : Sequence := [.operand (.symbol "x"), .operand (.number 2.0), .operator .assign,
      .operand (.symbol "x"), .call "fac" [[.operand (.literal "3" false)]],
      .operator (.arithmetic .plus), .operator .assign]
    (sequence.evaluate FunctionTable.standard 10 Bindings.standard).ending = .ok 8.0 ∧
      ∀ part, sequence.HasPart part → part.IsExpression := by
  intro sequence
  have ended : (sequence.evaluate FunctionTable.standard 10 Bindings.standard).ending =
      .ok 8.0 := by decide +kernel
  exact ⟨ended, expression_of_value ended⟩

end Sequence

end RadixCalc
