import RadixCalc.Proofs.Evaluation.Surplus
import RadixCalc.Proofs.Grammar.Draft
import RadixCalc.Proofs.Grammar.Reading
import RadixCalc.Proofs.Lexeme.Passage

/-!
Operands with a minus before them. Only a minus directly before a literal is a
sign. Before any other operand it is read as an operator that has no left
operand of its own, and may take one that belongs elsewhere. It is still one
operator too many: its level has no more operands than operators, so it is no
expression, and nothing around the level can make up for that.
-/

namespace RadixCalc

/-- There are operands, but no more of them than operators. -/
def Lexeme.Overloaded (lexemes : List Lexeme) : Prop :=
  0 < lexemes.countP isOperand ∧ lexemes.countP isOperand ≤ lexemes.countP joins

theorem Sequence.become_of_arguments {readArgument : List Char → Except Fault Sequence}
    {lexemes : List Lexeme} (read : ∀ name argument, Lexeme.call name argument ∈ lexemes →
      ∃ sequence, readArgument argument = .ok sequence) :
    ∃ items, List.Forall₂ (Lexeme.Becomes readArgument) lexemes items := by
  induction lexemes with
  | nil => exact ⟨[], .nil⟩
  | cons lexeme rest induction =>
      obtain ⟨items, become⟩ := induction (fun name argument member =>
        read name argument (List.mem_cons_of_mem _ member))
      cases lexeme with
      | literal digits negative => exact ⟨_, .cons (.literal digits negative) become⟩
      | name spelled => exact ⟨_, .cons (.name spelled) become⟩
      | call name argument =>
          obtain ⟨sequence, inner⟩ := read name argument (by simp)
          exact ⟨_, .cons (.call name inner) become⟩
      | operator operator => exact ⟨_, .cons (.operator operator) become⟩
      | close => exact ⟨_, .cons .close become⟩

namespace Drafted

/-- The lexemes of a draft. They have one operand more than operators at most, and with a negation
not even that, here or in the argument of a call. -/
structure Scanned (settings : Settings) (negations calls : Nat) (text : List Char)
    (lexemes : List Lexeme) : Prop where
  passes : Scan.Passes text lexemes
  balanced : Bracket.Balanced text
  operands : 0 < lexemes.countP Lexeme.isOperand
  counts : lexemes.countP Lexeme.isOperand ≤ lexemes.countP Lexeme.joins + 1
  arguments : ∀ name argument, Lexeme.call name argument ∈ lexemes → ∀ levels,
    calls ≤ levels →
    ∃ sequence, Sequence.ofTextWithin settings levels argument = .ok sequence
  negated : 0 < negations → Lexeme.Overloaded lexemes ∨
    ∃ name argument level, Lexeme.call name argument ∈ lexemes ∧
      Scan.HasLevel argument level ∧ Lexeme.Overloaded (Scan.ofText true level).lexemes

variable {settings : Settings} {negations calls : Nat} {before text after : List Char}
  {lexemes : List Lexeme}

/-- A draft with spacing around it is read if its calls nest no deeper than is allowed. -/
theorem Scanned.read (scanned : Scanned settings negations calls text lexemes)
    (spacingBefore : Scan.IsBlank before) (spacingAfter : Scan.IsBlank after) {levels : Nat}
    (deep : calls ≤ levels) :
    ∃ sequence,
      Sequence.ofTextWithin settings (levels + 1) (before ++ text ++ after) = .ok sequence := by
  have whole := scanned.passes.whole spacingBefore spacingAfter
  obtain ⟨items, become⟩ := Sequence.become_of_arguments
    (fun name argument member => scanned.arguments name argument member levels deep)
  refine ⟨Item.arrange items, Sequence.of_text_within_ok_iff.mpr ?_⟩
  rw [whole]
  exact ⟨rfl, items, become, rfl⟩

/-- A negation leaves some level of the text overloaded. -/
theorem Scanned.overloaded (scanned : Scanned settings negations calls text lexemes)
    (spacingBefore : Scan.IsBlank before) (spacingAfter : Scan.IsBlank after)
    (used : 0 < negations) :
    ∃ level, Scan.HasLevel (before ++ text ++ after) level ∧
      Lexeme.Overloaded (Scan.ofText true level).lexemes := by
  have whole := scanned.passes.whole spacingBefore spacingAfter
  rcases scanned.negated used with here | ⟨name, argument, level, called, inside, deeper⟩
  · exact ⟨_, .whole _, by rwa [whole]⟩
  · exact ⟨level, .argument (by rwa [whole]) inside, deeper⟩

theorem scanned_operand {lexeme : Lexeme} (passes : Scan.Passes text [lexeme])
    (balanced : Bracket.Balanced text) (operand : lexeme.isOperand = true)
    (uncalled : ∀ name argument, lexeme ≠ .call name argument) :
    Scanned settings 0 0 text [lexeme] where
  passes := passes
  balanced := balanced
  operands := by simp [operand]
  counts := by simp [operand]
  arguments := by
    intro name argument member
    exact absurd (List.mem_singleton.mp member).symm (uncalled name argument)
  negated := by
    intro used
    cases used

theorem scanned_call {name argument : List Char} (spelled : Scan.IsName name)
    (balanced : Bracket.Balanced argument)
    (read : ∀ levels, calls < levels →
      ∃ sequence, Sequence.ofTextWithin settings levels argument = .ok sequence)
    (negated : 0 < negations → ∃ level, Scan.HasLevel argument level ∧
      Lexeme.Overloaded (Scan.ofText true level).lexemes) :
    Scanned settings negations (calls + 1) (name ++ '(' :: (argument ++ [')']))
      [.call (String.ofList name) argument] where
  passes := Scan.passes_call spelled balanced
  balanced := Bracket.balanced_append spelled.balanced (Bracket.balanced_enclosed balanced)
  operands := Nat.one_pos
  counts := Nat.le_refl 1
  arguments := by
    intro called inner member levels deep
    cases List.mem_singleton.mp member
    exact read levels deep
  negated := by
    intro used
    obtain ⟨level, inside, overloaded⟩ := negated used
    exact Or.inr ⟨_, argument, level, List.mem_singleton_self _, inside, overloaded⟩

theorem Scanned.group (scanned : Scanned settings negations calls text lexemes)
    (spacingBefore : Scan.IsBlank before) (spacingAfter : Scan.IsBlank after) :
    Scanned settings negations calls ('(' :: (before ++ text ++ after ++ [')']))
      (.operator .group :: (lexemes ++ [.close])) := by
  have operands : (Lexeme.operator .group :: (lexemes ++ [.close])).countP Lexeme.isOperand =
      lexemes.countP Lexeme.isOperand := by
    simp [Lexeme.isOperand]
  have operators : (Lexeme.operator .group :: (lexemes ++ [.close])).countP Lexeme.joins =
      lexemes.countP Lexeme.joins := by
    simp [Lexeme.joins]
  have inner := Bracket.balanced_append
    (Bracket.balanced_append spacingBefore.balanced scanned.balanced) spacingAfter.balanced
  constructor
  · exact scanned.passes.group spacingBefore spacingAfter
  · exact Bracket.balanced_enclosed inner
  · rw [operands]
    exact scanned.operands
  · rw [operands, operators]
    exact scanned.counts
  · intro name argument member
    exact scanned.arguments name argument (by simpa using member)
  · intro used
    rw [Lexeme.Overloaded, operands, operators]
    rcases scanned.negated used with here | ⟨name, argument, level, called, deeper⟩
    · exact Or.inl here
    · exact Or.inr ⟨name, argument, level, by simp [called], deeper⟩

/-- The minus of a negation is an operator too many, whatever is negated. -/
theorem Scanned.negation (scanned : Scanned settings negations calls text lexemes)
    (spacing : Scan.IsBlank before) (apart : before = [] → Scan.startsDecimal text = false) :
    Scanned settings (negations + 1) calls ('-' :: (before ++ text))
      (.operator (.arithmetic .minus) :: lexemes) := by
  have operands : (Lexeme.operator (.arithmetic .minus) :: lexemes).countP Lexeme.isOperand =
      lexemes.countP Lexeme.isOperand := by
    simp [Lexeme.isOperand]
  have operators : (Lexeme.operator (.arithmetic .minus) :: lexemes).countP Lexeme.joins =
      lexemes.countP Lexeme.joins + 1 := List.countP_cons_of_pos rfl
  have counts := scanned.counts
  have minus : Bracket.Balanced ['-'] := Bracket.balanced_plain (by decide) (by decide)
  constructor
  · exact scanned.passes.negated spacing apart
  · exact Bracket.balanced_append minus
      (Bracket.balanced_append spacing.balanced scanned.balanced)
  · rw [operands]
    exact scanned.operands
  · omega
  · intro name argument member
    exact scanned.arguments name argument (by simpa using member)
  · intro _
    left
    rw [Lexeme.Overloaded, operands, operators]
    exact ⟨scanned.operands, counts⟩

/-- Where two drafts are joined, a level that one of them overloads stays overloaded. -/
theorem Scanned.joined {leftNegations leftCalls rightNegations rightCalls : Nat}
    {leftText rightText : List Char} {left right : List Lexeme} {char : Char} {operator : Operator}
    (leftScanned : Scanned settings leftNegations leftCalls leftText left)
    (spacingBefore : Scan.IsBlank before) (spelled : Scan.operatorOfChar? char = some operator)
    (delimiting : ∀ rest, Scan.Delimits (char :: rest)) (joins : operator ≠ .group)
    (plain : char ≠ '(' ∧ char ≠ ')') (spacingAfter : Scan.IsBlank after)
    (rightScanned : Scanned settings rightNegations rightCalls rightText right) :
    Scanned settings (leftNegations + rightNegations) (max leftCalls rightCalls)
      (leftText ++ before ++ char :: (after ++ rightText))
        (left ++ .operator operator :: right) := by
  have operands : (left ++ .operator operator :: right).countP Lexeme.isOperand =
      left.countP Lexeme.isOperand + right.countP Lexeme.isOperand := by
    simp [Lexeme.isOperand]
  have operators : (left ++ .operator operator :: right).countP Lexeme.joins =
      left.countP Lexeme.joins + right.countP Lexeme.joins + 1 := by
    have joined : Lexeme.joins (.operator operator) = true := bne_iff_ne.mpr joins
    rw [List.countP_append, List.countP_cons_of_pos joined, Nat.add_assoc]
  have leftOperands := leftScanned.operands
  have leftCounts := leftScanned.counts
  have rightCounts := rightScanned.counts
  constructor
  · exact leftScanned.passes.joined spacingBefore spelled delimiting spacingAfter
      rightScanned.passes
  · have first := Bracket.balanced_append leftScanned.balanced spacingBefore.balanced
    have sign : Bracket.Balanced [char] := Bracket.balanced_plain plain.1 plain.2
    have second := Bracket.balanced_append spacingAfter.balanced rightScanned.balanced
    exact Bracket.balanced_append first (Bracket.balanced_append sign second)
  · omega
  · omega
  · intro name argument member levels deep
    rcases List.mem_append.mp member with inLeft | inRight
    · exact leftScanned.arguments name argument inLeft levels (by omega)
    · exact rightScanned.arguments name argument (by simpa using inRight) levels (by omega)
  · intro used
    rw [Lexeme.Overloaded, operands, operators]
    rcases Nat.eq_zero_or_pos leftNegations with none | some
    · rcases rightScanned.negated (by omega) with
          here | ⟨name, argument, level, called, deeper⟩
      · exact Or.inl ⟨by omega, by have := here.2; omega⟩
      · exact Or.inr ⟨name, argument, level, by simp [called], deeper⟩
    · rcases leftScanned.negated some with here | ⟨name, argument, level, called, deeper⟩
      · exact Or.inl ⟨by omega, by have := here.2; omega⟩
      · exact Or.inr ⟨name, argument, level, by simp [called], deeper⟩

theorem scanned (settings : Settings) {tier : Tier} (drafted : Drafted tier negations calls text) :
    ∃ lexemes, Scanned settings negations calls text lexemes := by
  induction drafted with
  | literal spelled =>
      exact ⟨_, scanned_operand (Scan.passes_literal spelled) spelled.balanced rfl (by simp)⟩
  | signedLiteral spelled =>
      have sign : Bracket.Balanced ['-'] := Bracket.balanced_plain (by decide) (by decide)
      exact ⟨_, scanned_operand (Scan.passes_signed_literal spelled)
        (Bracket.balanced_append sign spelled.balanced) rfl (by simp)⟩
  | name spelled =>
      exact ⟨_, scanned_operand (Scan.passes_name spelled) spelled.balanced rfl (by simp)⟩
  | emptyCall spelled spacing =>
      refine ⟨_, scanned_call spelled spacing.balanced ?_ (by simp)⟩
      intro levels deep
      obtain ⟨further, rfl⟩ := Nat.exists_eq_succ_of_ne_zero (Nat.ne_zero_of_lt deep)
      exact ⟨[], Written.of_text_within_blank spacing⟩
  | call spelled spacingBefore _ spacingAfter induction =>
      obtain ⟨lexemes, inner⟩ := induction
      have balanced := Bracket.balanced_append
        (Bracket.balanced_append spacingBefore.balanced inner.balanced) spacingAfter.balanced
      refine ⟨_, scanned_call spelled balanced ?_ (inner.overloaded spacingBefore spacingAfter)⟩
      intro levels deep
      obtain ⟨further, rfl⟩ := Nat.exists_eq_succ_of_ne_zero (Nat.ne_zero_of_lt deep)
      exact inner.read spacingBefore spacingAfter (Nat.le_of_lt_succ deep)
  | group spacingBefore _ spacingAfter induction =>
      obtain ⟨lexemes, inner⟩ := induction
      exact ⟨_, inner.group spacingBefore spacingAfter⟩
  | negated spacing apart _ induction =>
      obtain ⟨lexemes, inner⟩ := induction
      exact ⟨_, inner.negation spacing apart⟩
  | single _ induction => exact induction
  | @chain operation _ _ _ _ _ before after _ _ spacingBefore spacingAfter _ leftInduction
      rightInduction =>
      obtain ⟨left, leftScanned⟩ := leftInduction
      obtain ⟨right, rightScanned⟩ := rightInduction
      obtain ⟨char, symbol, spelled, delimiting⟩ := operation.symbol_spelled
      have plain : char ≠ '(' ∧ char ≠ ')' := by
        constructor
        · rintro rfl
          exact (delimiting []).2.2 rfl
        · rintro rfl
          cases spelled
      have joined := leftScanned.joined spacingBefore spelled delimiting (by simp) plain
        spacingAfter rightScanned
      rw [symbol]
      exact ⟨_, by simpa using joined⟩
  | assign _ spacingBefore spacingAfter _ targetInduction sourceInduction =>
      obtain ⟨target, targetScanned⟩ := targetInduction
      obtain ⟨source, sourceScanned⟩ := sourceInduction
      exact ⟨_, targetScanned.joined spacingBefore rfl
        (fun _ => ⟨by decide, by decide, by decide⟩) (by simp) (by decide) spacingAfter
        sourceScanned⟩

end Drafted

/-- Text in which an operand is negated, at whatever depth, is read, but it never has a value. -/
theorem of_text_at_negated (settings : Settings) (depth : Int) {negations calls : Nat}
    {before text after : List Char} (spacingBefore : Scan.IsBlank before)
    (drafted : Drafted .assignment negations calls text) (spacingAfter : Scan.IsBlank after)
    (nested : depth + calls ≤ settings.callDepth) (used : 0 < negations) :
    ∃ sequence, Sequence.ofTextAt settings depth (String.ofList (before ++ text ++ after)) =
        .ok sequence ∧
      ∀ (functions : FunctionTable) (base : Int) (bindings : Bindings), ∃ stop,
        (sequence.evaluate functions base bindings).ending = .error stop := by
  obtain ⟨levels, counted⟩ : ∃ levels, Sequence.levelsAt settings depth = levels + 1 :=
    ⟨(settings.callDepth - depth).toNat, by rw [Sequence.levelsAt]; omega⟩
  have deep : calls ≤ levels := by
    rw [Sequence.levelsAt] at counted
    omega
  obtain ⟨lexemes, scanned⟩ := drafted.scanned settings
  obtain ⟨sequence, read⟩ := scanned.read spacingBefore spacingAfter deep
  obtain ⟨level, inside, operands, counts⟩ := scanned.overloaded spacingBefore spacingAfter used
  refine ⟨sequence, by rw [Sequence.ofTextAt, counted, String.toList_ofList, read], ?_⟩
  intro functions base bindings
  cases ended : (sequence.evaluate functions base bindings).ending with
  | error stop => exact ⟨stop, rfl⟩
  | ok value => rcases Sequence.counts_of_value read ended inside with none | even <;> omega

/-- In the argument the minus before the name sends out the one before it, which then has only one
operand. -/
theorem of_text_at_negated_in_argument :
    let sequence : Sequence := [.operand (.literal "2" true),
      .call "fac" [[.operand (.literal "3" false), .operator (.arithmetic .minus),
        .operand (.symbol "x"), .operator (.arithmetic .minus)]],
      .operator (.arithmetic .times)]
    Drafted .assignment 1 1 "-2*fac(3 - -x )".toList ∧
      Sequence.ofTextAt {} 0 " -2*fac(3 - -x )" = .ok sequence ∧
      ∀ (functions : FunctionTable) (base : Int) (bindings : Bindings), ∃ stop,
        (sequence.evaluate functions base bindings).ending = .error stop := by
  intro sequence
  have blank : Scan.IsBlank [' '] := by simp [Scan.IsBlank, Scan.isSpacing]
  have none : Scan.IsBlank [] := by simp [Scan.IsBlank]
  have factor : Drafted .product 0 0 ['-', '2'] :=
    .single (.single (.signedLiteral ⟨by decide, by simp⟩))
  have three : Drafted .sum 0 0 ['3'] :=
    .single (.single (.single (.literal ⟨by decide, by simp⟩)))
  have name : Drafted .atom 0 0 ['x'] := .name ⟨by decide, by simp⟩
  have negation : Drafted .atom 1 0 ['-', 'x'] := .negated none (by decide) name
  have difference : Drafted .sum 1 0 ['3', ' ', '-', ' ', '-', 'x'] :=
    @Drafted.chain .minus _ _ _ _ _ _ _ _ three blank blank (.single (.single negation))
  have called : Scan.IsName ['f', 'a', 'c'] :=
    ⟨by decide, List.forall_iff_forall_mem.mp (by decide)⟩
  have call := Drafted.call called none (.single difference) blank
  have product := @Drafted.chain .times _ _ _ _ _ _ _ _ factor none none (.single call)
  have drafted : Drafted .assignment 1 1 "-2*fac(3 - -x )".toList := .single (.single product)
  have computed : Sequence.ofTextAt {} 0 " -2*fac(3 - -x )" = .ok sequence := by cbv
  obtain ⟨other, read, stops⟩ :=
    of_text_at_negated {} 0 blank drafted none (by decide) (by decide)
  obtain rfl : sequence = other := Except.ok.inj (computed.symm.trans read)
  exact ⟨drafted, computed, stops⟩

end RadixCalc
