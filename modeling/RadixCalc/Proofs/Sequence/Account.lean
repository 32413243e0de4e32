import RadixCalc.Proofs.Sequence.Grouping

/-!
An account of every level of a text. Apart from spacing each character of the
text is in one of its lexemes; each operand among the lexemes is in the output
once and in its place, each operator once, and each group once unless a bracket
closes it. The same holds for the arguments of calls, however deep they stand.
-/

namespace RadixCalc

namespace Bracket

/-- How many groups are taken away by closing brackets, if so many wait at first. Behind an
assignment no group waits. -/
def discarded (waiting : Nat) : List Mark → Nat
  | [] => 0
  | mark :: rest =>
      (if mark = .closes ∧ 0 < waiting then 1 else 0) +
        discarded (if mark = .assigns then 0 else mark.after waiting) rest

/-- What a mark opens waits behind it, unless the mark discards it. -/
theorem after_balance {mark : Mark} (apart : mark ≠ .assigns) (waiting : Nat) :
    (if mark = .closes ∧ 0 < waiting then 1 else 0) + mark.after waiting =
      waiting + (if mark == .opens then 1 else 0) := by
  cases mark with
  | opens => simp [Mark.after]
  | closes =>
      cases waiting with
      | zero => rfl
      | succ below => simp [Mark.after, Nat.add_comm]
  | assigns => exact absurd rfl apart
  | plain => simp [Mark.after]

end Bracket

namespace Token

def isOperator (operator : Operator) : Token → Bool
  | .operator other => other == operator
  | _ => false

theorem is_operator_iff {operator : Operator} {token : Token} :
    token.isOperator operator ↔ token = .operator operator := by
  cases token <;> simp [isOperator]

end Token

namespace Lexeme

def isOperator (operator : Operator) : Lexeme → Bool
  | .operator other => other == operator
  | _ => false

/-- The characters of a lexeme; a sign is one of its literal. -/
def spelling : Lexeme → List Char
  | .literal digits negative => if negative then '-' :: digits.toList else digits.toList
  | .name word => word.toList
  | .call word argument => word.toList ++ '(' :: (argument ++ [')'])
  | .operator next => next.symbol.toList
  | .close => [')']

end Lexeme

mutual

/-- A lexeme and the operand that stands for it. -/
inductive Lexeme.StandsAs : Lexeme → Token → Prop where
  | literal (digits : String) (negative : Bool) :
      Lexeme.StandsAs (.literal digits negative) (.operand (.literal digits negative))
  | name (name : String) : Lexeme.StandsAs (.name name) (.operand (.symbol name))
  | call (name : String) {argument : List Char} {sequence : Sequence}
      (inside : Sequence.Conserves argument sequence) :
      Lexeme.StandsAs (.call name argument) (.call name (Sequence.argumentsOf sequence))

/-- Nothing of a text is lost or doubled in a sequence. A group is the only operator that may be
missing there, and just as often as a bracket discards one. -/
inductive Sequence.Conserves : List Char → Sequence → Prop where
  | level {text : List Char} {sequence : Sequence} {lexemes : List Lexeme}
      (scanned : Scan.ofText true text = { lexemes, fault := none })
      (spelled : (lexemes.flatMap Lexeme.spelling).filter (!Scan.isSpacing ·) =
        text.filter (!Scan.isSpacing ·))
      (operands : List.Forall₂ Lexeme.StandsAs (lexemes.filter Lexeme.isOperand)
        (sequence.filter Token.isOperand))
      (operators : ∀ operator ≠ .group, sequence.countP (Token.isOperator operator) =
        lexemes.countP (Lexeme.isOperator operator))
      (groups : sequence.countP (Token.isOperator .group) +
          Bracket.discarded 0 (lexemes.map Lexeme.mark) =
        lexemes.countP (Lexeme.isOperator .group)) :
      Sequence.Conserves text sequence

end

namespace Scan

variable {signAllowed signNext : Bool} {char : Char} {rest later text : List Char} {lexeme : Lexeme}

theorem operator_spelled {operator : Operator} (spelled : operatorOfChar? char = some operator) :
    operator.symbol.toList = [char] := by
  unfold operatorOfChar? at spelled
  split at spelled <;> cases spelled <;> rfl

theorem Finds.spelled (finds : Finds signAllowed char rest lexeme signNext later) :
    lexeme.spelling ++ later = char :: rest := by
  cases finds with
  | signed minus => simp [Lexeme.spelling, minus]
  | literal => simp [Lexeme.spelling]
  | name => simp [Lexeme.spelling]
  | call start after split =>
      have parts := @List.takeWhile_append_dropWhile _ isNameChar rest
      rw [after, (Bracket.split_at_closing_paired split).2] at parts
      simp [Lexeme.spelling, parts]
  | operator symbol => simp [Lexeme.spelling, operator_spelled symbol]
  | close closing => simp [Lexeme.spelling, closing]

/-- The lexemes of a text are spelled as the text, apart from spacing. -/
theorem of_text_spelled (clean : (ofText signAllowed text).fault = none) :
    ((ofText signAllowed text).lexemes.flatMap Lexeme.spelling).filter (!isSpacing ·) =
      text.filter (!isSpacing ·) := by
  fun_induction ofText signAllowed text with
  | case1 signAllowed => rfl
  | case2 signAllowed first rest stepped induction =>
      have spacing := step_spacing_iff.mp stepped
      rw [induction clean, List.filter_cons_of_neg (by simp [spacing])]
  | case3 signAllowed first rest found signNext later within stepped induction =>
      rw [← (step_finds stepped).spelled, List.filter_append, ← induction clean, cons,
        List.flatMap_cons, List.filter_append]
  | case4 signAllowed first rest fault stepped => cases clean

end Scan

namespace Item

variable {waiting : List Operator} {items : List Item}

theorem count_operators (operator : Operator) (waiting : List Operator) :
    (waiting.map Token.operator).countP (Token.isOperator operator) = waiting.count operator := by
  rw [List.countP_map]
  rfl

/-- A group that waits or is still to come gets into the output or is discarded. -/
theorem groups_arrange_under
    (operands : ∀ next, .token next ∈ items → next ≠ .operator .group) :
    (arrangeUnder waiting items).countP (Token.isOperator .group) +
        Bracket.discarded (waiting.count .group) (items.map mark) =
      waiting.count .group + (items.map mark).count .opens := by
  induction items generalizing waiting with
  | nil => exact count_operators .group waiting
  | cons item rest induction =>
      have further := @induction (waitingAfter waiting item)
        (fun next member => operands next (List.mem_cons_of_mem _ member))
      rw [arrange_under_cons, List.countP_append, List.map_cons, Bracket.discarded]
      -- Only an assignment sends groups out; all others keep them waiting, or discard one.
      by_cases assigned : item.mark = .assigns
      · obtain rfl := mark_assigns_iff.mp assigned
        obtain ⟨sent, left⟩ := assign_empties waiting
        have none : [Operator.assign].count .group = 0 := rfl
        rw [left, none] at further
        rw [sent, left, count_operators, assigned, if_neg (by simp), if_pos rfl,
          List.count_cons_of_ne (by decide)]
        omega
      · have kept : (emits waiting item).countP (Token.isOperator .group) = 0 := by
          have absent := @group_not_emitted waiting item assigned
            (fun next same => operands next (same ▸ List.mem_cons_self))
          rw [List.countP_eq_zero]
          intro token member same
          exact absent (Token.is_operator_iff.mp same ▸ member)
        have balance := Bracket.after_balance assigned (waiting.count .group)
        rw [count_waiting_after assigned] at further
        rw [kept, if_neg assigned, List.count_cons]
        omega

end Item

namespace Sequence

variable {readArgument : List Char → Except Fault Sequence} {settings : Settings} {levels : Nat}
  {text : List Char} {sequence : Sequence} {lexemes : List Lexeme} {items : List Item}

theorem become_stand (become : List.Forall₂ (Lexeme.Becomes readArgument) lexemes items)
    (conserved : ∀ argument sequence, readArgument argument = .ok sequence →
      Conserves argument sequence) :
    List.Forall₂ Lexeme.StandsAs (lexemes.filter Lexeme.isOperand)
      ((Item.scanned items).filter Token.isOperand) := by
  induction become with
  | nil => exact .nil
  | cons becomes _ induction =>
      cases becomes with
      | literal digits negative => exact .cons (.literal digits negative) induction
      | name name => exact .cons (.name name) induction
      | call name read => exact .cons (.call name (conserved _ _ read)) induction
      | operator operator => exact induction
      | close => exact induction

theorem become_operators (become : List.Forall₂ (Lexeme.Becomes readArgument) lexemes items)
    (operator : Operator) :
    (Item.scanned items).countP (Token.isOperator operator) =
      lexemes.countP (Lexeme.isOperator operator) :=
  become_count (fun becomes => by cases becomes <;> rfl) become

/-- Only groups can be missing among the operators of the output. -/
theorem arrange_operators (become : List.Forall₂ (Lexeme.Becomes readArgument) lexemes items)
    {operator : Operator} (apart : operator ≠ .group) :
    (Item.arrange items).countP (Token.isOperator operator) =
      lexemes.countP (Lexeme.isOperator operator) := by
  have ungrouped : Token.isOperator operator (.operator .group) = false :=
    beq_false_of_ne (Ne.symm apart)
  rw [Item.arrange, Item.count_arrange_under ungrouped, become_operators become]
  exact Nat.zero_add _

theorem count_opens (lexemes : List Lexeme) :
    (lexemes.map Lexeme.mark).count .opens = lexemes.countP (Lexeme.isOperator .group) := by
  rw [List.count, List.countP_map]
  congr 1
  funext lexeme
  cases lexeme with
  | operator next => cases next <;> rfl
  | _ => rfl

theorem of_text_within_conserves (read : ofTextWithin settings levels text = .ok sequence) :
    Conserves text sequence := by
  induction levels generalizing text sequence with
  | zero => cases read
  | succ levels induction =>
      obtain ⟨clean, items, become, rfl⟩ := of_text_within_ok_iff.mp read
      have groups := @Item.groups_arrange_under [] items (become_operands become)
      rw [become_marks become, count_opens] at groups
      refine .level (by rw [← clean]) (Scan.of_text_spelled clean) ?_ ?_ ?_
      · rw [Item.arrange, Item.operands_arrange_under]
        exact become_stand become (fun _ _ => induction)
      · intro operator apart
        exact arrange_operators become apart
      · exact groups.trans (Nat.zero_add _)

/-- Whatever text is read, well formed or not, nothing of it is lost or doubled at any level. -/
theorem of_text_at_conserves {depth : Int} {text : String}
    (read : ofTextAt settings depth text = .ok sequence) : Conserves text.toList sequence :=
  of_text_within_conserves read

/-- The first bracket closes nothing, the last closes a group, and the one in the call comes when
the assignment has already sent its group out. -/
theorem of_text_at_conserves_malformed :
    let sequence : Sequence := [.operand (.literal "2" false), .operand (.literal "3" true),
      .call "f" [[.operand (.symbol "x"), .operator .group, .operand (.literal "1" false),
        .operator .assign]],
      .operator (.arithmetic .minus), .operator (.arithmetic .times)]
    ofTextAt {} 0 "2)*(-3-f((x=1)))" = .ok sequence ∧
      Conserves "2)*(-3-f((x=1)))".toList sequence := by
  intro sequence
  have read : ofTextAt {} 0 "2)*(-3-f((x=1)))" = .ok sequence := by cbv
  exact ⟨read, of_text_at_conserves read⟩

end Sequence

end RadixCalc
