import RadixCalc.Proofs.Lexeme.Passage
import RadixCalc.Proofs.Sequence.Grouping

/-!
Closing brackets that close nothing. Such a bracket sends out all that waits,
which is what it would do if its group had been opened at the very start: a group
that waits under all others is reached by nothing else. So opening as many groups
in front of a text as it has stray brackets makes no difference to how the text is
read, nor to why it is not read.
-/

namespace RadixCalc

/-- How many closing brackets are met where no group is open. -/
def Bracket.strays (opened : Nat) : List Mark → Nat
  | [] => 0
  | mark :: rest =>
      (if mark = .closes ∧ opened = 0 then 1 else 0) + strays (mark.after opened) rest

namespace Item

variable {waiting : List Operator} {item : Item} {items : List Item}

theorem mark_closes (closes : item.mark = .closes) : item = .close := by
  cases item with
  | token next => cases closes
  | operator next => cases next <;> cases closes
  | close => rfl

theorem group_waits (waiting : List Operator) :
    emits waiting (.operator .group) = [] ∧
      waitingAfter waiting (.operator .group) = .group :: waiting := by
  cases waiting <;> exact ⟨rfl, rfl⟩

theorem arrange_groups (count : Nat) (waiting : List Operator) (items : List Item) :
    arrangeUnder waiting (List.replicate count (.operator .group) ++ items) =
      arrangeUnder (List.replicate count .group ++ waiting) items := by
  induction count generalizing waiting with
  | zero => rfl
  | succ count induction =>
      obtain ⟨sent, left⟩ := group_waits waiting
      rw [List.replicate_succ, List.cons_append, arrange_under_cons, sent, left, List.nil_append,
        induction, List.replicate_succ', List.append_assoc]
      rfl

/-- A stray bracket takes away the group that waits under all others, and nothing of it is sent
out. -/
theorem close_stray (none : waiting.count .group = 0) (count : Nat) :
    emits (waiting ++ List.replicate (count + 1) .group) .close = emits waiting .close ∧
      waitingAfter (waiting ++ List.replicate (count + 1) .group) .close =
        waitingAfter waiting .close ++ List.replicate count .group := by
  have stops : ∀ operator ∈ (List.replicate (count + 1) Operator.group).head?,
      (operator != .group) = false := by
    intro operator head
    rw [List.eq_of_mem_replicate (List.mem_of_mem_head? head)]
    rfl
  obtain ⟨taken, dropped⟩ := Scan.take_while_append stops waiting
  obtain ⟨-, empty⟩ := split_ungrouped (List.count_eq_zero.mp none)
  simp [emits, waitingAfter, taken, dropped, empty]

theorem arrange_above_groups (unassigned : .assigns ∉ items.map mark) :
    arrangeUnder (waiting ++ List.replicate
        (Bracket.strays (waiting.count .group) (items.map mark)) .group) items =
      arrangeUnder waiting items := by
  induction items generalizing waiting with
  | nil => simp [Bracket.strays]
  | cons item rest induction =>
      rw [List.map_cons, List.mem_cons, not_or] at unassigned
      obtain ⟨assigned, later⟩ := unassigned
      have apart : item.mark ≠ .assigns := Ne.symm assigned
      have further := @induction (waitingAfter waiting item) later
      rw [count_waiting_after apart] at further
      rw [List.map_cons, Bracket.strays, arrange_under_cons, arrange_under_cons]
      -- A stray bracket uses up one of the groups below; nothing else reaches them.
      by_cases stray : item.mark = .closes ∧ waiting.count .group = 0
      · obtain rfl := mark_closes stray.1
        obtain ⟨sent, left⟩ := close_stray stray.2
          (Bracket.strays (Bracket.Mark.closes.after (waiting.count .group)) (rest.map mark))
        rw [if_pos stray, Nat.add_comm, ← further]
        exact congrArg₂ _ sent (congrArg (arrangeUnder · rest) left)
      · have enclosed : item.mark = .closes → 0 < waiting.count .group := by
          intro closes
          exact Nat.pos_of_ne_zero fun none => stray ⟨closes, none⟩
        have loose : ∀ operator ∈ List.replicate
            (Bracket.strays (item.mark.after (waiting.count .group)) (rest.map mark))
            Operator.group, 4 ≤ operator.rank := by
          intro operator member
          rw [List.eq_of_mem_replicate member]
          decide
        obtain ⟨sent, left⟩ := under_loose loose apart enclosed
        rw [if_neg stray, Nat.zero_add, sent, left, further]

theorem arrange_strays (unassigned : .assigns ∉ items.map mark) :
    arrange (List.replicate (Bracket.strays 0 (items.map mark)) (.operator .group) ++ items) =
      arrange items := by
  have above := @arrange_above_groups [] items unassigned
  rw [List.nil_append] at above
  rw [arrange, arrange_groups, List.append_nil]
  exact above

end Item

theorem Scan.of_text_groups (count : Nat) (text : List Char) :
    ofText true (List.replicate count '(' ++ text) =
      { lexemes := List.replicate count (.operator .group) ++ (ofText true text).lexemes
        fault := (ofText true text).fault } := by
  induction count with
  | zero => rfl
  | succ count induction =>
      have spelled : operatorOfChar? '(' = some .group := rfl
      rw [List.replicate_succ, List.cons_append,
        of_text_operator spelled (fun minus => absurd minus (by decide)), induction]
      rfl

namespace Sequence

variable {readArgument : List Char → Except Fault Sequence}

theorem read_calls_groups (count : Nat) (lexemes : List Lexeme) :
    readCalls readArgument (List.replicate count (.operator .group) ++ lexemes) =
      (readCalls readArgument lexemes).map (List.replicate count (.operator .group) ++ ·) := by
  induction count with
  | zero =>
      rw [List.replicate_zero, List.nil_append]
      cases readCalls readArgument lexemes <;> rfl
  | succ count induction =>
      rw [List.replicate_succ, List.cons_append, readCalls, induction]
      cases readCalls readArgument lexemes <;> rfl

theorem read_level_strays {text : List Char}
    (unassigned : Lexeme.operator .assign ∉ (Scan.ofText true text).lexemes) :
    readLevel readArgument (List.replicate
        (Bracket.strays 0 ((Scan.ofText true text).lexemes.map Lexeme.mark)) '(' ++ text) =
      readLevel readArgument text := by
  rw [readLevel, readLevel, Scan.of_text_groups]
  simp only [read_calls_groups]
  cases read : readCalls readArgument (Scan.ofText true text).lexemes with
  | error fault => rfl
  | ok items =>
      have marks := become_marks (read_calls_ok_iff.mp read)
      have same := Item.arrange_strays (marks ▸ mt assigns_mem_marks.mp unassigned)
      rw [marks] at same
      cases stopped : (Scan.ofText true text).fault with
      | some fault => rfl
      | none => exact congrArg Except.ok same

/-- Where no assignment stands outside the calls of a text, a closing bracket that closes nothing
acts as if its group had been opened at the very start: with as many groups opened there the text is
read as the same tokens, or is refused for the same reason. -/
theorem of_text_at_strays (settings : Settings) (depth : Int) {text : String}
    (unassigned : Lexeme.operator .assign ∉ (Scan.ofText true text.toList).lexemes) :
    let marks := (Scan.ofText true text.toList).lexemes.map Lexeme.mark
    ofTextAt settings depth (String.ofList (List.replicate (Bracket.strays 0 marks) '(') ++ text) =
      ofTextAt settings depth text := by
  intro marks
  rw [ofTextAt, ofTextAt, String.toList_append, String.toList_ofList]
  cases levelsAt settings depth with
  | zero => rfl
  | succ levels => exact read_level_strays unassigned

/-- Three brackets of the one text are stray, the last of them behind a call; in the other no lexeme
begins behind the first. -/
theorem of_text_at_strays_three :
    let sequence : Sequence := [.operand (.literal "2" true), .operand (.literal "3" false),
      .operator (.arithmetic .times), .operand (.symbol "x"), .operator (.arithmetic .minus),
      .call "f" [[.operand (.symbol "y"), .operand (.literal "1" false), .operator .assign]],
      .operator (.arithmetic .plus)]
    Lexeme.operator .assign ∉ (Scan.ofText true "-2)*3)-(x)+f(y=1))".toList).lexemes ∧
      Lexeme.operator .assign ∉ (Scan.ofText true "2)?)".toList).lexemes ∧
      ofTextAt {} 0 ("(((" ++ "-2)*3)-(x)+f(y=1))") = .ok sequence ∧
      ofTextAt {} 0 ("(" ++ "2)?)") = .error (.unknownToken '?') := by
  intro sequence
  have scanned : (Scan.ofText true "-2)*3)-(x)+f(y=1))".toList).lexemes =
      [.literal "2" true, .close, .operator (.arithmetic .times), .literal "3" false, .close,
        .operator (.arithmetic .minus), .operator .group, .name "x", .close,
        .operator (.arithmetic .plus), .call "f" ['y', '=', '1'], .close] := by cbv
  have scannedBefore : (Scan.ofText true "2)?)".toList).lexemes =
      [.literal "2" false, .close] := by cbv
  have unassigned :
      Lexeme.operator .assign ∉ (Scan.ofText true "-2)*3)-(x)+f(y=1))".toList).lexemes := by
    rw [scanned]
    simp
  have unassignedBefore : Lexeme.operator .assign ∉ (Scan.ofText true "2)?)".toList).lexemes := by
    rw [scannedBefore]
    simp
  have three := of_text_at_strays {} 0 unassigned
  have one := of_text_at_strays {} 0 unassignedBefore
  rw [scanned] at three
  rw [scannedBefore] at one
  have read : ofTextAt {} 0 "-2)*3)-(x)+f(y=1))" = .ok sequence := by cbv
  have refused : ofTextAt {} 0 "2)?)" = .error (.unknownToken '?') := by cbv
  exact ⟨unassigned, unassignedBefore, three.trans read, one.trans refused⟩

end Sequence

end RadixCalc
