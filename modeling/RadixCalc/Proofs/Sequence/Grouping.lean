import Mathlib.Data.List.TakeWhile
import RadixCalc.Proofs.Lexeme.Continuation
import RadixCalc.Proofs.Sequence.Level

/-!
Grouping brackets and the operators that wait. As long as no assignment comes,
the groups that wait are the brackets that are open, and a group waiting under
all other operators makes no difference until its bracket closes. An assignment
sends everything that waits to the output, open groups included.
-/

namespace RadixCalc

namespace Item

def mark : Item → Bracket.Mark
  | .token _ => .plain
  | .operator next => next.mark
  | .close => .closes

variable {waiting : List Operator} {item : Item} {items : List Item}

theorem mark_assigns_iff : item.mark = .assigns ↔ item = .operator .assign := by
  cases item with
  | token next => simp [mark]
  | operator next => cases next <;> simp [mark, Operator.mark]
  | close => simp [mark]

/-- Nothing waits any longer behind an assignment but itself. -/
theorem assign_empties (waiting : List Operator) :
    emits waiting (.operator .assign) = waiting.map .operator ∧
      waitingAfter waiting (.operator .assign) = [.assign] := by
  have all : ∀ other ∈ waiting, yields .assign other = true := by
    intro other _
    cases other with
    | arithmetic operation => cases operation <;> rfl
    | assign => rfl
    | group => rfl
    | other symbol => rfl
  rw [emits, waitingAfter, List.takeWhile_eq_self_iff.mpr all, List.dropWhile_eq_nil_iff.mpr all]
  exact ⟨rfl, rfl⟩

/-- Arithmetic sends out neither groups nor assignments. -/
theorem yields_loose {next last : Operator} (apart : next.mark ≠ .assigns)
    (loose : 4 ≤ last.rank) : yields next last = false := by
  have tight : next = .group ∨ next.rank < 4 := by
    cases next with
    | arithmetic operation => cases operation <;> exact Or.inr (by decide)
    | assign => exact absurd rfl apart
    | group => exact Or.inl rfl
    | other symbol => exact Or.inr (by decide : 0 < 4)
  rcases tight with rfl | tighter
  · rfl
  · have kept : ¬ last.rank ≤ next.rank := by omega
    simp [yields, kept]

theorem yields_group {next : Operator} (apart : next.mark ≠ .assigns) :
    yields next .group = false :=
  yields_loose apart (Nat.le_refl 4)

section Stops

variable (stops : Operator → Bool)

theorem group_not_taken (closed : stops .group = false) : .group ∉ waiting.takeWhile stops := by
  intro taken
  have kept := List.all_eq_true.mp List.all_takeWhile _ taken
  rw [closed] at kept
  cases kept

theorem count_dropped (closed : stops .group = false) (waiting : List Operator) :
    (waiting.dropWhile stops).count .group = waiting.count .group := by
  have none := List.count_eq_zero.mpr (@group_not_taken waiting stops closed)
  have parts := congrArg (List.count .group) (@List.takeWhile_append_dropWhile _ stops waiting)
  rw [List.count_append, none, Nat.zero_add] at parts
  exact parts

theorem split_under_group (closed : stops .group = false) (waiting : List Operator) :
    (waiting ++ [Operator.group]).takeWhile stops = waiting.takeWhile stops ∧
      (waiting ++ [Operator.group]).dropWhile stops = waiting.dropWhile stops ++ [.group] := by
  apply Scan.take_while_append
  intro next head
  obtain rfl := Option.some.inj head
  exact closed

theorem split_within (stopped : ∃ other ∈ waiting, stops other = false) (tail : List Operator) :
    (waiting ++ tail).takeWhile stops = waiting.takeWhile stops ∧
      (waiting ++ tail).dropWhile stops = waiting.dropWhile stops ++ tail := by
  induction waiting with
  | nil =>
      obtain ⟨other, member, -⟩ := stopped
      cases member
  | cons top below induction =>
      cases passes : stops top with
      | false => simp [passes]
      | true =>
          obtain ⟨other, member, closed⟩ := stopped
          have further : other ∈ below := by
            rcases List.mem_cons.mp member with rfl | further
            · rw [passes] at closed
              cases closed
            · exact further
          obtain ⟨taken, dropped⟩ := induction ⟨other, further, closed⟩
          simp [passes, taken, dropped]

end Stops

/-- Without a group a closing bracket sends all that waits to the output. -/
theorem split_ungrouped (none : .group ∉ waiting) :
    waiting.takeWhile (· != .group) = waiting ∧ waiting.dropWhile (· != .group) = [] := by
  have all : ∀ other ∈ waiting, (other != .group) = true := by
    intro other member
    exact bne_iff_ne.mpr (fun same => none (same ▸ member))
  exact ⟨List.takeWhile_eq_self_iff.mpr all, List.dropWhile_eq_nil_iff.mpr all⟩

/-- A closing bracket takes the latest group away, if there is one. -/
theorem count_closed (waiting : List Operator) :
    ((waiting.dropWhile (· != .group)).drop 1).count .group = waiting.count .group - 1 := by
  induction waiting with
  | nil => rfl
  | cons top below induction =>
      by_cases opened : top = .group
      · simp [opened]
      · simpa [opened] using induction

/-- Up to an assignment the groups that wait are the brackets that are open. -/
theorem count_waiting_after (apart : item.mark ≠ .assigns) (waiting : List Operator) :
    (waitingAfter waiting item).count .group = item.mark.after (waiting.count .group) := by
  cases item with
  | token next => rfl
  | operator next =>
      have below := count_dropped _ (yields_group apart) waiting
      cases next with
      | group => simp [waitingAfter, mark, Operator.mark, Bracket.Mark.after, below]
      | arithmetic operation => simp [waitingAfter, mark, Operator.mark, Bracket.Mark.after, below]
      | assign => exact absurd rfl apart
      | other symbol => simp [waitingAfter, mark, Operator.mark, Bracket.Mark.after, below]
  | close => exact count_closed waiting

theorem group_not_emitted (apart : item.mark ≠ .assigns)
    (operands : ∀ next, item = .token next → next ≠ .operator .group) :
    .operator .group ∉ emits waiting item := by
  cases item with
  | token next => simpa [emits, eq_comm] using operands next rfl
  | operator next => simpa [emits] using group_not_taken _ (yields_group apart)
  | close => simpa [emits] using group_not_taken (· != .group) rfl

/-- Groups and assignments that wait under all others are only reached by an assignment or by a
bracket that closes none of the others. -/
theorem under_loose {last : List Operator} (loose : ∀ operator ∈ last, 4 ≤ operator.rank)
    (apart : item.mark ≠ .assigns) (enclosed : item.mark = .closes → 0 < waiting.count .group) :
    emits (waiting ++ last) item = emits waiting item ∧
      waitingAfter (waiting ++ last) item = waitingAfter waiting item ++ last := by
  cases item with
  | token next => exact ⟨rfl, rfl⟩
  | operator next =>
      have stops : ∀ operator ∈ last.head?, yields next operator = false := by
        intro operator head
        exact yields_loose apart (loose operator (List.mem_of_mem_head? head))
      obtain ⟨taken, dropped⟩ := Scan.take_while_append stops waiting
      simp [emits, waitingAfter, taken, dropped]
  | close =>
      have counted := enclosed rfl
      have stopped : ∃ other ∈ waiting, (other != .group) = false :=
        ⟨.group, List.count_pos_iff.mp counted, rfl⟩
      obtain ⟨taken, dropped⟩ := split_within (· != .group) stopped last
      rw [← count_dropped (· != .group) rfl] at counted
      have reached := Nat.lt_of_lt_of_le counted List.count_le_length
      simp only [emits, waitingAfter, taken, dropped, List.drop_append_of_le_length reached,
        and_self]

/-- A last bracket that closes none of the waiting groups changes nothing. -/
theorem arrange_under_closed {opened : Nat} (fewer : waiting.count .group ≤ opened)
    (nested : Bracket.nesting opened (items.map mark) = some 0) :
    arrangeUnder waiting (items ++ [.close]) = arrangeUnder waiting items := by
  induction items generalizing waiting opened with
  | nil =>
      obtain rfl := Option.some.inj nested
      have none : .group ∉ waiting := List.count_eq_zero.mp (Nat.le_zero.mp fewer)
      obtain ⟨taken, dropped⟩ := split_ungrouped none
      simp [arrangeUnder, taken, dropped]
  | cons item rest induction =>
      obtain ⟨enclosed, further⟩ := Bracket.nesting_cons.mp nested
      rw [List.cons_append, arrange_under_cons, arrange_under_cons]
      refine congrArg _ (@induction _ (item.mark.after opened) ?_ further)
      by_cases assigned : item.mark = .assigns
      · rw [mark_assigns_iff.mp assigned, (assign_empties waiting).2]
        simp
      · rw [count_waiting_after assigned]
        cases item.mark with
        | opens => exact Nat.succ_le_succ fewer
        | closes => exact Nat.sub_le_sub_right fewer 1
        | assigns => exact fewer
        | plain => exact fewer

/-- A group waiting under all others and the bracket that closes it come to nothing, unless an
assignment sends the group out. -/
theorem arrange_under_group
    (nested : Bracket.nesting (waiting.count .group) (items.map mark) = some 0) :
    ∃ before after, arrangeUnder waiting items = before ++ after ∧
      arrangeUnder (waiting ++ [.group]) (items ++ [.close]) =
        before ++ (if .assigns ∈ items.map mark then [.operator .group] else []) ++ after := by
  induction items generalizing waiting with
  | nil =>
      have none : .group ∉ waiting := List.count_eq_zero.mp (Option.some.inj nested)
      obtain ⟨same, empty⟩ := split_ungrouped none
      obtain ⟨taken, dropped⟩ := split_under_group (· != .group) rfl waiting
      refine ⟨waiting.map .operator, [], by simp [arrangeUnder], ?_⟩
      simp [arrangeUnder, taken, dropped, same, empty]
  | cons item rest induction =>
      obtain ⟨enclosed, further⟩ := Bracket.nesting_cons.mp nested
      rw [List.cons_append, arrange_under_cons, arrange_under_cons]
      by_cases assigned : item.mark = .assigns
      · obtain rfl := mark_assigns_iff.mp assigned
        obtain ⟨sent, left⟩ := assign_empties waiting
        obtain ⟨sentAll, leftAll⟩ := assign_empties (waiting ++ [.group])
        refine ⟨waiting.map .operator, arrangeUnder [.assign] rest, by rw [sent, left], ?_⟩
        have closed := @arrange_under_closed [.assign] rest _ (Nat.zero_le _) further
        rw [sentAll, leftAll, closed]
        simp [assigned]
      · have loose : ∀ operator ∈ [Operator.group], 4 ≤ operator.rank := by decide
        obtain ⟨sent, left⟩ := under_loose loose assigned enclosed
        rw [← count_waiting_after assigned] at further
        obtain ⟨before, after, plain, grouped⟩ := induction further
        refine ⟨emits waiting item ++ before, after, ?_, ?_⟩
        · rw [plain, List.append_assoc]
        · rw [sent, left, grouped]
          simp [Ne.symm assigned]

/-- A group gets into the output if it is open at an assignment or at the end. -/
theorem group_mem_arrange_under
    (operands : ∀ next, .token next ∈ items → next ≠ .operator .group) :
    .operator .group ∈ arrangeUnder waiting items ↔
      Bracket.AssignsInGroup (waiting.count .group) (items.map mark) ∨
        0 < Bracket.openGroups (waiting.count .group) (items.map mark) := by
  induction items generalizing waiting with
  | nil => simp [arrangeUnder, Bracket.openGroups, Bracket.AssignsInGroup, List.count_pos_iff]
  | cons item rest induction =>
      have further : ∀ next, .token next ∈ rest → next ≠ .operator .group := by
        intro next member
        exact operands next (List.mem_cons_of_mem _ member)
      rw [arrange_under_cons, List.mem_append, induction further, List.map_cons,
        Bracket.assigns_in_group_cons]
      change _ ↔ _ ∨ 0 < Bracket.openGroups (item.mark.after (waiting.count .group)) _
      by_cases assigned : item.mark = .assigns
      · obtain rfl := mark_assigns_iff.mp assigned
        obtain ⟨sent, left⟩ := assign_empties waiting
        rw [sent, left, assigned]
        change _ ∨ Bracket.AssignsInGroup 0 _ ∨ 0 < Bracket.openGroups 0 _ ↔
          (_ ∨ Bracket.AssignsInGroup (waiting.count .group) _) ∨
            0 < Bracket.openGroups (waiting.count .group) _
        rcases Nat.eq_zero_or_pos (waiting.count .group) with none | some
        · have absent := List.count_eq_zero.mp none
          simp [none, absent]
        · have present := List.count_pos_iff.mp some
          simp [some, present]
      · have head : ∀ next, item = .token next → next ≠ .operator .group := by
          rintro next rfl
          exact operands next List.mem_cons_self
        have absent := @group_not_emitted waiting item assigned head
        rw [count_waiting_after assigned]
        simp [absent, assigned]

end Item

namespace Scan

/-- An argument is cut out between the brackets of its call, so its own are paired. -/
theorem argument_paired {signAllowed : Bool} {text argument : List Char} {name : String}
    (called : Lexeme.call name argument ∈ (ofText signAllowed text).lexemes) :
    Bracket.IsPaired argument := by
  obtain ⟨_, _, _, _, _, _, _, finds⟩ := lexeme_found called
  cases finds with
  | call _ _ split => exact (Bracket.split_at_closing_paired split).1

theorem HasLevel.paired {text level : List Char} (inside : HasLevel text level)
    (paired : Bracket.IsPaired text) : Bracket.IsPaired level := by
  induction inside with
  | whole text => exact paired
  | argument called _ induction => exact induction (argument_paired called)

theorem of_text_enclosed {text : List Char} (clean : (ofText true text).fault = none) :
    (ofText true ('(' :: (text ++ [')']))).lexemes =
        .operator .group :: ((ofText true text).lexemes ++ [.close]) ∧
      (ofText true ('(' :: (text ++ [')']))).fault = none := by
  have delimited : Delimits [')'] := ⟨by decide, by decide, by decide⟩
  obtain ⟨signNext, lexemes, fault⟩ := of_text_append clean delimited
  have opening : operatorOfChar? '(' = some .group := rfl
  obtain ⟨_, opened⟩ := @step_operator '(' .group true (text ++ [')']) opening
    (fun minus => absurd minus (by decide))
  obtain ⟨_, closed⟩ := step_close signNext []
  have last : ofText signNext [')'] = cons .close (ofText false []) := of_text_found closed
  rw [last, of_text_nil] at lexemes fault
  rw [of_text_found opened]
  exact ⟨congrArg _ lexemes, fault⟩

end Scan

namespace Sequence

variable {readArgument : List Char → Except Fault Sequence} {settings : Settings} {levels : Nat}
  {text : List Char} {sequence : Sequence} {lexemes : List Lexeme} {items : List Item}

theorem become_marks (become : List.Forall₂ (Lexeme.Becomes readArgument) lexemes items) :
    items.map Item.mark = lexemes.map Lexeme.mark := by
  induction become with
  | nil => rfl
  | cons becomes _ induction =>
      rw [List.map_cons, List.map_cons, induction]
      cases becomes <;> rfl

theorem become_operands (become : List.Forall₂ (Lexeme.Becomes readArgument) lexemes items)
    (next : Token) (member : .token next ∈ items) : next ≠ .operator .group := by
  induction become with
  | nil => cases member
  | cons becomes _ induction =>
      rcases List.mem_cons.mp member with same | further
      · rintro rfl
        subst same
        cases becomes
      · exact induction further

/-- A group is in the output of a level where an assignment is met in a group of that level or a
group is open at its end. -/
theorem group_mem_of_text_within (read : ofTextWithin settings levels text = .ok sequence) :
    .operator .group ∈ sequence ↔
      Bracket.AssignsInGroup 0 ((Scan.ofText true text).lexemes.map Lexeme.mark) ∨
        0 < Bracket.openGroups 0 ((Scan.ofText true text).lexemes.map Lexeme.mark) := by
  obtain ⟨further, -, -, items, become, rfl⟩ := of_text_within_ok read
  rw [Item.arrange, Item.group_mem_arrange_under (become_operands become), become_marks become]
  rfl

theorem group_mem_of_paired (read : ofTextWithin settings levels text = .ok sequence)
    (paired : Bracket.IsPaired text) :
    .operator .group ∈ sequence ↔
      Bracket.AssignsInGroup 0 ((Scan.ofText true text).lexemes.map Lexeme.mark) := by
  obtain ⟨-, -, clean, -⟩ := of_text_within_ok read
  have nested := (Scan.of_text_nesting clean 0).trans paired
  rw [group_mem_of_text_within read, Bracket.open_groups_of_nesting nested]
  simp

/-- A bracket around paired text is in the output only if an assignment sends it there. -/
theorem of_text_within_enclosed (read : ofTextWithin settings levels text = .ok sequence)
    (paired : Bracket.IsPaired text) :
    ∃ before after, sequence = before ++ after ∧
      ofTextWithin settings levels ('(' :: (text ++ [')'])) =
        .ok (before ++ (if .assigns ∈ (Scan.ofText true text).lexemes.map Lexeme.mark
          then [.operator .group] else []) ++ after) := by
  obtain ⟨further, rfl, clean, items, become, rfl⟩ := of_text_within_ok read
  have marks := become_marks become
  have nested : Bracket.nesting 0 (items.map Item.mark) = some 0 := by
    rw [marks, Scan.of_text_nesting clean 0]
    exact paired
  obtain ⟨before, after, plain, grouped⟩ := @Item.arrange_under_group [] items nested
  refine ⟨before, after, plain, ?_⟩
  obtain ⟨lexemes, fault⟩ := Scan.of_text_enclosed clean
  have becomeEnclosed : List.Forall₂ (Lexeme.Becomes (ofTextWithin settings further))
      (.operator .group :: ((Scan.ofText true text).lexemes ++ [.close]))
      (.operator .group :: (items ++ [.close])) :=
    .cons (.operator .group) (List.rel_append become (.cons .close .nil))
  rw [of_text_within_ok_iff, lexemes, ← marks, ← grouped]
  exact ⟨fault, _, becomeEnclosed, rfl⟩

theorem assigns_mem_marks :
    .assigns ∈ lexemes.map Lexeme.mark ↔ Lexeme.operator .assign ∈ lexemes := by
  constructor
  · intro marked
    obtain ⟨lexeme, member, same⟩ := List.mem_map.mp marked
    cases lexeme with
    | operator next =>
        cases next with
        | assign => exact member
        | _ => cases same
    | _ => cases same
  · exact List.mem_map_of_mem

/-- Brackets around a text with paired brackets change nothing about it, unless an assignment stands
outside its calls: then the new bracket is sent to the output with all that waits. Likewise a group
is in the output of such a text only where an assignment stands in brackets. -/
theorem of_text_at_enclosed {depth : Int} {text : String}
    (read : ofTextAt settings depth text = .ok sequence)
    (paired : Bracket.IsPaired text.toList) :
    (Lexeme.operator .assign ∉ (Scan.ofText true text.toList).lexemes →
      ofTextAt settings depth ("(" ++ text ++ ")") = .ok sequence) ∧
    (Lexeme.operator .assign ∈ (Scan.ofText true text.toList).lexemes →
      ∃ before after, sequence = before ++ after ∧
        ofTextAt settings depth ("(" ++ text ++ ")") =
          .ok (before ++ .operator .group :: after)) ∧
    ((∃ part, sequence.HasPart part ∧ .operator .group ∈ part) ↔
      ∃ level, Scan.HasLevel text.toList level ∧
        Bracket.AssignsInGroup 0 ((Scan.ofText true level).lexemes.map Lexeme.mark)) := by
  have spelled : ("(" ++ text ++ ")").toList = '(' :: (text.toList ++ [')']) := by
    simp
  obtain ⟨before, after, same, enclosed⟩ := of_text_within_enclosed read paired
  rw [ofTextAt, spelled, enclosed]
  refine ⟨?_, ?_, ?_, ?_⟩
  · intro absent
    rw [if_neg (mt assigns_mem_marks.mp absent), List.append_nil, same]
  · intro present
    refine ⟨before, after, same, ?_⟩
    rw [if_pos (assigns_mem_marks.mpr present), List.append_assoc]
    rfl
  · rintro ⟨part, inside, member⟩
    obtain ⟨further, level, found, readLevel⟩ := level_of_part inside read
    exact ⟨level, found, (group_mem_of_paired readLevel (found.paired paired)).mp member⟩
  · rintro ⟨level, found, assigned⟩
    obtain ⟨further, part, readPart, stands⟩ := part_of_level found read
    have member := (group_mem_of_paired readPart (found.paired paired)).mpr assigned
    rcases stands with rfl | stands
    · cases member
    · exact ⟨part, stands, member⟩

theorem of_text_at_enclosed_in_argument :
    let sequence : Sequence := [.operand (.literal "2" false),
      .call "f" [[.operand (.symbol "x"), .operator .group, .operand (.literal "1" false),
        .operator .assign]],
      .operator (.arithmetic .times)]
    ofTextAt {} 0 "2*f((x=1))" = .ok sequence ∧ Bracket.IsPaired "2*f((x=1))".toList ∧
      ofTextAt {} 0 ("(" ++ "2*f((x=1))" ++ ")") = .ok sequence ∧
      ∃ part, sequence.HasPart part ∧ .operator .group ∈ part := by
  intro sequence
  have read : ofTextAt {} 0 "2*f((x=1))" = .ok sequence := by cbv
  have paired : Bracket.IsPaired "2*f((x=1))".toList := by decide
  have outer : (Scan.ofText true "2*f((x=1))".toList).lexemes =
      [.literal "2" false, .operator (.arithmetic .times),
        .call "f" ['(', 'x', '=', '1', ')']] := by cbv
  have inner : (Scan.ofText true ['(', 'x', '=', '1', ')']).lexemes =
      [.operator .group, .name "x", .operator .assign, .literal "1" false, .close] := by cbv
  have inside : Scan.HasLevel "2*f((x=1))".toList ['(', 'x', '=', '1', ')'] := by
    apply Scan.HasLevel.argument _ (.whole _)
    · exact "f"
    · rw [outer]
      simp
  have assigned : Bracket.AssignsInGroup 0
      ((Scan.ofText true ['(', 'x', '=', '1', ')']).lexemes.map Lexeme.mark) := by
    rw [inner]
    exact ⟨[.opens, .plain], [.plain, .closes], rfl, by decide⟩
  have unassigned : Lexeme.operator .assign ∉ (Scan.ofText true "2*f((x=1))".toList).lexemes := by
    rw [outer]
    simp
  obtain ⟨same, -, grouped⟩ := of_text_at_enclosed read paired
  exact ⟨read, paired, same unassigned, grouped.mpr ⟨_, inside, assigned⟩⟩

/-- An assignment in brackets is read otherwise than the assignment alone. -/
theorem of_text_at_enclosed_assignment :
    Bracket.IsPaired "x=5".toList ∧
      ofTextAt {} 0 "x=5" = .ok [.operand (.symbol "x"), .operand (.literal "5" false),
        .operator .assign] ∧
      ofTextAt {} 0 ("(" ++ "x=5" ++ ")") = .ok [.operand (.symbol "x"), .operator .group,
        .operand (.literal "5" false), .operator .assign] := by
  exact ⟨by decide, by cbv, by cbv⟩

end Sequence

end RadixCalc
