import RadixCalc.Proofs.Grammar
import RadixCalc.Proofs.Sequence.Resume

/-!
Reading what the grammar writes. While a chain of some tier is read, the tokens
already sent out together with the operators that still wait are the postorder
of the chain so far, and every operator that waits binds at least as tightly as
the tier. The operators that waited before the chain bind less tightly, so the
chain neither sends them out nor depends on them.
-/

namespace RadixCalc

namespace Tier

/-- The rank of the operators of a tier; atoms have none. -/
def rank : Tier → Nat
  | atom => 0
  | power => 1
  | product => 2
  | sum => 3
  | assignment => 5

theorem rank_tighter_le (tier : Tier) : tier.tighter.rank ≤ tier.rank := by
  cases tier <;> decide

end Tier

theorem Arithmetic.rank_eq (operation : Arithmetic) :
    (Operator.arithmetic operation).rank = operation.tier.rank := by
  cases operation <;> rfl

theorem Arithmetic.rank_tighter_lt (operation : Arithmetic) :
    operation.tier.tighter.rank < operation.tier.rank := by
  cases operation <;> decide

/-- An operator character is spelled with one character, which ends the lexeme before it. -/
theorem Arithmetic.symbol_spelled (operation : Arithmetic) :
    ∃ char, operation.symbol.toList = [char] ∧
      Scan.operatorOfChar? char = some (.arithmetic operation) ∧
      ∀ rest, Scan.Delimits (char :: rest) := by
  cases operation with
  | power => exact ⟨'^', rfl, rfl, fun _ => ⟨by decide, by decide, by decide⟩⟩
  | times => exact ⟨'*', rfl, rfl, fun _ => ⟨by decide, by decide, by decide⟩⟩
  | divide => exact ⟨'/', rfl, rfl, fun _ => ⟨by decide, by decide, by decide⟩⟩
  | remainder => exact ⟨'%', rfl, rfl, fun _ => ⟨by decide, by decide, by decide⟩⟩
  | plus => exact ⟨'+', rfl, rfl, fun _ => ⟨by decide, by decide, by decide⟩⟩
  | minus => exact ⟨'-', rfl, rfl, fun _ => ⟨by decide, by decide, by decide⟩⟩

/-- The operators that wait on top give way to one that binds no tighter, those below do not. -/
theorem yields_exactly {next : Operator} {pending : List Operator} (waiting : List Operator)
    (notGroup : next ≠ .group) (tight : ∀ operator ∈ pending, operator.rank ≤ next.rank)
    (loose : ∀ top ∈ waiting.head?, next.rank < top.rank) :
    (pending ++ waiting).takeWhile (Item.yields next) = pending ∧
      (pending ++ waiting).dropWhile (Item.yields next) = waiting := by
  have yielding : ∀ operator ∈ pending, Item.yields next operator = true := by
    intro operator member
    simp [Item.yields, notGroup, tight operator member]
  rw [List.takeWhile_append_of_pos yielding, List.dropWhile_append_of_pos yielding]
  cases waiting with
  | nil => simp
  | cons top rest =>
      have stays : Item.yields next top = false := by
        have := loose top (by simp)
        simp only [Item.yields, Bool.and_eq_false_iff, decide_eq_false_iff_not]
        exact Or.inr (by omega)
      simp [stays]

/-- A closing bracket sends out what waits above the nearest open group. -/
theorem closes_exactly {pending : List Operator} (waiting : List Operator)
    (noGroup : ∀ operator ∈ pending, operator ≠ .group) :
    (pending ++ .group :: waiting).takeWhile (· != .group) = pending ∧
      ((pending ++ .group :: waiting).dropWhile (· != .group)).drop 1 = waiting := by
  have passed : ∀ operator ∈ pending, (operator != .group) = true := by
    intro operator member
    simpa using noGroup operator member
  rw [List.takeWhile_append_of_pos passed, List.dropWhile_append_of_pos passed]
  simp

namespace Written

/-- Reading `text` from under operators that bind less tightly than the tier gives the postorder of
the tree, up to operators of the tier that still wait at its end. -/
def ReadsAs (settings : Settings) (levels : Nat) (tier : Tier) (tree : Expression)
    (text : List Char) : Prop :=
  ∃ (output : Sequence) (pending : List Operator),
    tree.postorder = output ++ pending.map .operator ∧
    (∀ operator ∈ pending, operator ≠ .group ∧ operator.rank ≤ tier.rank) ∧
    ∀ (waiting : List Operator) (rest : List Char),
      (∀ top ∈ waiting.head?, tier.rank < top.rank) → Scan.Delimits rest →
      Sequence.resume (Sequence.ofTextWithin settings levels) waiting true (text ++ rest) =
        Sequence.emit output
          (Sequence.resume (Sequence.ofTextWithin settings levels) (pending ++ waiting) false rest)

theorem of_text_within_blank {settings : Settings} {levels : Nat} {blank : List Char}
    (spacing : Scan.IsBlank blank) :
    Sequence.ofTextWithin settings (levels + 1) blank = .ok [] := by
  rw [Sequence.of_text_within_succ, ← List.append_nil blank, Sequence.resume_blank _ spacing,
    Sequence.resume_nil]
  rfl

/-- A whole level that holds a written assignment, with spacing around it. -/
theorem of_text_within_of_reads {settings : Settings} {levels : Nat} {tree : Expression}
    {before text after : List Char} (reads : ReadsAs settings levels .assignment tree text)
    (spacingBefore : Scan.IsBlank before) (spacingAfter : Scan.IsBlank after) :
    Sequence.ofTextWithin settings (levels + 1) (before ++ text ++ after) = .ok tree.postorder := by
  obtain ⟨output, pending, postorder, _, reading⟩ := reads
  have delimited : Scan.Delimits (after ++ []) := Scan.delimits_blank spacingAfter trivial
  rw [Sequence.of_text_within_succ, List.append_assoc, Sequence.resume_blank _ spacingBefore,
    ← List.append_nil after, reading [] (after ++ []) (by simp) delimited,
    Sequence.resume_blank _ spacingAfter, Sequence.resume_nil, Sequence.emit_ok, postorder,
    List.append_nil]

section Cases

variable {settings : Settings} {levels : Nat}

theorem reads_operand {tier : Tier} {operand : Operand} {text : List Char}
    (reading : ∀ (waiting : List Operator) (rest : List Char), Scan.Delimits rest →
      Sequence.resume (Sequence.ofTextWithin settings levels) waiting true (text ++ rest) =
        Sequence.emit [.operand operand]
          (Sequence.resume (Sequence.ofTextWithin settings levels) waiting false rest)) :
    ReadsAs settings levels tier (.operand operand) text := by
  refine ⟨[.operand operand], [], rfl, by simp, ?_⟩
  intro waiting rest _ delimited
  exact reading waiting rest delimited

/-- A call is read once its argument can be read one level further in. -/
theorem reads_call {tier : Tier} {name argument : List Char} {arguments : List (Option Expression)}
    {sequence : Sequence} (spelled : Scan.IsName name) (balanced : Bracket.Balanced argument)
    (read : Sequence.ofTextWithin settings levels argument = .ok sequence)
    (same : Sequence.argumentsOf sequence = Expression.postorderEach arguments) :
    ReadsAs settings levels tier (.call (String.ofList name) arguments)
      (name ++ '(' :: (argument ++ [')'])) := by
  refine ⟨[.call (String.ofList name) (Expression.postorderEach arguments)], [], ?_,
    by simp, ?_⟩
  · simp [Expression.postorder]
  intro waiting rest _ delimited
  have reading := Sequence.resume_call waiting true rest spelled balanced read
  rw [same] at reading
  simpa using reading

theorem reads_group {inner : Expression} {before text after : List Char}
    (reads : ReadsAs settings levels .sum inner text) (spacingBefore : Scan.IsBlank before)
    (spacingAfter : Scan.IsBlank after) :
    ReadsAs settings levels .atom inner ('(' :: (before ++ text ++ after ++ [')'])) := by
  obtain ⟨output, pending, postorder, tight, reading⟩ := reads
  refine ⟨inner.postorder, [], by simp, by simp, ?_⟩
  intro waiting rest _ _
  have opened : ('(' :: (before ++ text ++ after ++ [')'])) ++ rest =
      '(' :: (before ++ (text ++ (after ++ ')' :: rest))) := by simp
  have sheltered : ∀ top ∈ (Operator.group :: waiting).head?, Tier.sum.rank < top.rank := by
    intro top member
    obtain rfl : Operator.group = top := by simpa using member
    decide
  have closing : Scan.Delimits (')' :: rest) := ⟨by decide, by decide, by decide⟩
  obtain ⟨sent, kept⟩ := closes_exactly waiting
    (fun operator member => (tight operator member).1)
  rw [opened, Sequence.resume_group, Sequence.resume_blank _ spacingBefore,
    reading _ _ sheltered (Scan.delimits_blank spacingAfter closing),
    Sequence.resume_blank _ spacingAfter, Sequence.resume_close, sent, kept, Sequence.emit_emit,
    ← postorder, List.nil_append]

theorem reads_single {tier : Tier} {tree : Expression} {text : List Char}
    (reads : ReadsAs settings levels tier.tighter tree text) :
    ReadsAs settings levels tier tree text := by
  obtain ⟨output, pending, postorder, tight, reading⟩ := reads
  have looser := Tier.rank_tighter_le tier
  refine ⟨output, pending, postorder, ?_, ?_⟩
  · intro operator member
    exact ⟨(tight operator member).1, Nat.le_trans (tight operator member).2 looser⟩
  · intro waiting rest loose delimited
    exact reading waiting rest
      (fun top member => Nat.lt_of_le_of_lt looser (loose top member)) delimited

/-- An operator sends out what waits of its left operand and waits itself while the right one is
read. -/
theorem reads_joined {tier : Tier} {left right : Expression} {char : Char}
    {leftText before after rightText : List Char} (tree : Expression) (operator : Operator)
    (postorder : tree.postorder = left.postorder ++ right.postorder ++ [.operator operator])
    (rank : operator.rank = tier.rank) (tighter : tier.tighter.rank < tier.rank)
    (notGroup : operator ≠ .group) (spelled : Scan.operatorOfChar? char = some operator)
    (delimiting : ∀ rest, Scan.Delimits (char :: rest))
    (leftReads : ReadsAs settings levels tier left leftText) (spacingBefore : Scan.IsBlank before)
    (spacingAfter : Scan.IsBlank after)
    (rightReads : ReadsAs settings levels tier.tighter right rightText) :
    ReadsAs settings levels tier tree (leftText ++ before ++ char :: (after ++ rightText)) := by
  obtain ⟨leftOutput, leftPending, leftPostorder, leftTight, leftReading⟩ := leftReads
  obtain ⟨rightOutput, rightPending, rightPostorder, rightTight, rightReading⟩ := rightReads
  refine ⟨left.postorder ++ rightOutput, rightPending ++ [operator], ?_, ?_, ?_⟩
  · rw [postorder, rightPostorder]
    simp
  · intro other member
    rcases List.mem_append.mp member with inside | last
    · exact ⟨(rightTight other inside).1,
        Nat.le_trans (rightTight other inside).2 (Nat.le_of_lt tighter)⟩
    · obtain rfl : other = operator := by simpa using last
      exact ⟨notGroup, Nat.le_of_eq rank⟩
  intro waiting rest loose delimited
  have arranged : leftText ++ before ++ char :: (after ++ rightText) ++ rest =
      leftText ++ (before ++ char :: (after ++ (rightText ++ rest))) := by simp
  have sheltered : ∀ top ∈ (operator :: waiting).head?, tier.tighter.rank < top.rank := by
    intro top member
    obtain rfl : operator = top := by simpa using member
    omega
  -- What waits of the left operand gives way to the operator, and nothing below it does.
  obtain ⟨sent, kept⟩ := yields_exactly waiting notGroup
    (fun other member => rank ▸ (leftTight other member).2)
    (fun top member => rank ▸ loose top member)
  rw [arranged, leftReading _ _ loose (Scan.delimits_blank spacingBefore (delimiting _)),
    Sequence.resume_blank _ spacingBefore, Sequence.resume_operator spelled (fun _ => Or.inl rfl),
    sent, kept, Sequence.resume_blank _ spacingAfter, rightReading _ _ sheltered delimited]
  simp [leftPostorder]

end Cases

theorem reads_as (settings : Settings) {tier : Tier} {tree : Expression} {text : List Char}
    (written : Written tier tree text) :
    ∀ levels, tree.callDepth ≤ levels → ReadsAs settings levels tier tree text := by
  induction written with
  | literal spelled =>
      intro levels _
      exact reads_operand (fun _ _ delimited => Sequence.resume_literal spelled delimited)
  | signedLiteral spelled =>
      intro levels _
      exact reads_operand (fun _ _ delimited => Sequence.resume_signed_literal spelled delimited)
  | name spelled =>
      intro levels _
      exact reads_operand (fun _ _ delimited => Sequence.resume_name spelled delimited)
  | emptyCall spelled spacing =>
      intro levels deep
      cases levels with
      | zero => simp [Expression.callDepth] at deep
      | succ levels =>
          exact reads_call spelled spacing.balanced (of_text_within_blank spacing) rfl
  | @call name before text after argument spelled spacingBefore written spacingAfter induction =>
      intro levels deep
      cases levels with
      | zero => simp [Expression.callDepth] at deep
      | succ levels =>
          -- The argument is read one level further in.
          have inner : argument.callDepth ≤ levels := by
            simpa [Expression.callDepth, Expression.callDepthEach] using deep
          have read := of_text_within_of_reads (induction levels inner) spacingBefore spacingAfter
          have balanced := Bracket.balanced_append
            (Bracket.balanced_append spacingBefore.balanced written.balanced) spacingAfter.balanced
          have counted : Sequence.argumentsOf argument.postorder =
              Expression.postorderEach [some argument] := by
            simp [Sequence.argumentsOf, Expression.postorderEach, argument.postorder_nonempty]
          exact reads_call spelled balanced read counted
  | group spacingBefore written spacingAfter induction =>
      intro levels deep
      exact reads_group (induction levels deep) spacingBefore spacingAfter
  | single written induction =>
      intro levels deep
      exact reads_single (induction levels deep)
  | @chain operation left right leftText before after rightText leftWritten spacingBefore
      spacingAfter rightWritten leftInduction rightInduction =>
      intro levels deep
      have leftDeep : left.callDepth ≤ levels := Nat.le_trans (Nat.le_max_left _ _) deep
      have rightDeep : right.callDepth ≤ levels := Nat.le_trans (Nat.le_max_right _ _) deep
      obtain ⟨char, symbol, spelled, delimiting⟩ := operation.symbol_spelled
      have joined := reads_joined (.arithmetic operation left right) (.arithmetic operation) rfl
        operation.rank_eq operation.rank_tighter_lt (by simp) spelled delimiting
        (leftInduction levels leftDeep) spacingBefore spacingAfter (rightInduction levels rightDeep)
      simpa [symbol] using joined
  | @assign target source targetText before after sourceText targetWritten spacingBefore
      spacingAfter sourceWritten targetInduction sourceInduction =>
      intro levels deep
      have targetDeep : target.callDepth ≤ levels := Nat.le_trans (Nat.le_max_left _ _) deep
      have sourceDeep : source.callDepth ≤ levels := Nat.le_trans (Nat.le_max_right _ _) deep
      exact reads_joined (.assign target source) .assign rfl rfl (by decide) (by simp) rfl
        (fun _ => ⟨by decide, by decide, by decide⟩) (targetInduction levels targetDeep)
        spacingBefore spacingAfter (sourceInduction levels sourceDeep)

theorem of_atom (tier : Tier) {tree : Expression} {text : List Char}
    (written : Written .atom tree text) : Written tier tree text := by
  have power : Written .power tree text := .single written
  have product : Written .product tree text := .single power
  have sum : Written .sum tree text := .single product
  cases tier with
  | atom => exact written
  | power => exact power
  | product => exact product
  | sum => exact sum
  | assignment => exact .single sum

end Written

/-- Text of the grammar is read, and as the postorder of the tree that it writes, if its calls nest
no deeper than is allowed where it stands. -/
theorem of_text_at_written (settings : Settings) (depth : Int) {tree : Expression}
    {before text after : List Char} (spacingBefore : Scan.IsBlank before)
    (written : Written .assignment tree text) (spacingAfter : Scan.IsBlank after)
    (nested : depth + tree.callDepth ≤ settings.callDepth) :
    Sequence.ofTextAt settings depth (String.ofList (before ++ text ++ after)) =
      .ok tree.postorder := by
  obtain ⟨levels, counted⟩ : ∃ levels, Sequence.levelsAt settings depth = levels + 1 :=
    ⟨(settings.callDepth - depth).toNat, by rw [Sequence.levelsAt]; omega⟩
  have deep : tree.callDepth ≤ levels := by
    rw [Sequence.levelsAt] at counted
    omega
  rw [Sequence.ofTextAt, counted, String.toList_ofList]
  exact Written.of_text_within_of_reads (written.reads_as settings levels deep) spacingBefore
    spacingAfter

theorem of_text_at_written_scaled_difference :
    Written .assignment
      (.assign (.operand (.symbol "x"))
        (.arithmetic .times (.operand (.literal "2" true))
          (.arithmetic .minus (.operand (.symbol "y")) (.call "f" []))))
      "x =-2*(y - f( ))".toList ∧
    Sequence.ofTextAt {} 0 " x =-2*(y - f( ))" =
      .ok [.operand (.symbol "x"), .operand (.literal "2" true), .operand (.symbol "y"),
        .call "f" [], .operator (.arithmetic .minus), .operator (.arithmetic .times),
        .operator .assign] := by
  have blank : Scan.IsBlank [' '] := by simp [Scan.IsBlank, Scan.isSpacing]
  have none : Scan.IsBlank [] := by simp [Scan.IsBlank]
  have spelled : Scan.IsName ['f'] := ⟨by decide, by simp⟩
  have call : Written .atom (.call "f" []) ['f', '(', ' ', ')'] := .emptyCall spelled blank
  have name : Written .atom (.operand (.symbol "y")) ['y'] := .name ⟨by decide, by simp⟩
  have target : Written .atom (.operand (.symbol "x")) ['x'] := .name ⟨by decide, by simp⟩
  have factor : Written .atom (.operand (.literal "2" true)) ['-', '2'] :=
    .signedLiteral ⟨by decide, by simp⟩
  have difference := Written.chain (name.of_atom (Arithmetic.tier .minus)) blank blank
    (call.of_atom (Arithmetic.tier .minus).tighter)
  have group := Written.group none difference none
  have product := Written.chain (factor.of_atom (Arithmetic.tier .times)) none none
    (group.of_atom (Arithmetic.tier .times).tighter)
  have written := Written.assign (target.of_atom .assignment) blank none (.single product)
  have read := of_text_at_written {} 0 blank written none (by decide)
  exact ⟨written, read⟩

end RadixCalc
