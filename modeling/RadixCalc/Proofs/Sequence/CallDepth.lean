import RadixCalc.Proofs.Sequence.Conservation

/-!
How deep calls nest. A text that can be read at all is read as the same tokens
wherever its calls fit into the levels that are allowed, and where they do not
it is too deep: the levels have no other influence on a reading.
-/

namespace RadixCalc

mutual

/-- How deep calls nest in a token; a call without an argument is one level of its own. -/
def Token.callDepth : Token → Nat
  | .operand _ => 0
  | .operator _ => 0
  | .call _ arguments => Sequence.callDepthEach arguments + 1

def Sequence.callDepth : Sequence → Nat
  | [] => 0
  | token :: rest => max token.callDepth (Sequence.callDepth rest)

def Sequence.callDepthEach : List Sequence → Nat
  | [] => 0
  | argument :: rest => max (Sequence.callDepth argument) (Sequence.callDepthEach rest)

end

namespace Sequence

variable {settings : Settings} {levels limit : Nat} {text : List Char} {sequence : Sequence}

theorem call_depth_cons_le {token : Token} :
    callDepth (token :: sequence) ≤ limit ↔
      token.callDepth ≤ limit ∧ sequence.callDepth ≤ limit := by
  rw [callDepth, Nat.max_le]

theorem call_depth_le_each {argument : Sequence} {arguments : List Sequence}
    (member : argument ∈ arguments) : argument.callDepth ≤ callDepthEach arguments := by
  induction arguments with
  | nil => cases member
  | cons first rest induction =>
      rw [callDepthEach]
      rcases List.mem_cons.mp member with rfl | later
      · exact Nat.le_max_left _ _
      · exact Nat.le_trans (induction later) (Nat.le_max_right _ _)

theorem call_depth_arguments_of (sequence : Sequence) :
    callDepthEach (argumentsOf sequence) = sequence.callDepth := by
  cases sequence with
  | nil => rfl
  | cons token rest => simp [argumentsOf, callDepthEach]

theorem call_depth_operands (sequence : Sequence) :
    callDepth (sequence.filter Token.isOperand) = sequence.callDepth := by
  induction sequence with
  | nil => rfl
  | cons token rest induction =>
      cases token with
      | operand value => rw [List.filter_cons_of_pos rfl, callDepth, callDepth, induction]
      | operator operator =>
          rw [List.filter_cons_of_neg (by simp [Token.isOperand]), induction, callDepth,
            Token.callDepth, Nat.zero_max]
      | call name arguments => rw [List.filter_cons_of_pos rfl, callDepth, callDepth, induction]

/-- Calls are operands, so arranging operators does not change how deep they nest. -/
theorem call_depth_arrange (items : List Item) :
    callDepth (Item.arrange items) = callDepth (Item.scanned items) := by
  rw [← call_depth_operands, Item.arrange, Item.operands_arrange_under, call_depth_operands]

/-- If arguments are read in another way that only gives up on those that nest too deep, then so are
the calls. -/
theorem read_calls_limited {readArgument other : List Char → Except Fault Sequence}
    {fault : Fault} (limited : ∀ argument inner, readArgument argument = .ok inner →
      other argument = if inner.callDepth < limit then .ok inner else .error fault)
    {lexemes : List Lexeme} {items : List Item}
    (become : List.Forall₂ (Lexeme.Becomes readArgument) lexemes items) :
    readCalls other lexemes =
      if callDepth (Item.scanned items) ≤ limit then .ok items else .error fault := by
  induction become with
  | nil => rfl
  | @cons lexeme item lexemes items becomes _ induction =>
      -- A lexeme that is no call adds an item that no call nests in.
      have uncalled : (do
          let later ← readCalls other lexemes
          pure (item :: later) : Except Fault (List Item)) =
          if callDepth (Item.scanned items) ≤ limit then .ok (item :: items)
          else .error fault := by
        rw [induction]
        split <;> rfl
      cases becomes with
      | literal digits negative =>
          rw [readCalls, uncalled, Item.scanned, callDepth, Token.callDepth, Nat.zero_max]
      | name name =>
          rw [readCalls, uncalled, Item.scanned, callDepth, Token.callDepth, Nat.zero_max]
      | operator operator =>
          rw [readCalls, uncalled, Item.scanned, callDepth, Token.callDepth, Nat.zero_max]
      | close => rw [readCalls, uncalled, Item.scanned]
      | @call name argument inner read =>
          have depth :
              callDepth (Item.scanned (.token (.call name (argumentsOf inner)) :: items)) ≤
              limit ↔ inner.callDepth < limit ∧ callDepth (Item.scanned items) ≤ limit := by
            rw [Item.scanned, call_depth_cons_le, Token.callDepth, call_depth_arguments_of,
              Nat.succ_le_iff]
          rw [readCalls, limited argument inner read]
          by_cases inside : inner.callDepth < limit
          · simp only [depth, inside, true_and]
            rw [if_pos trivial]
            exact uncalled
          · rw [if_neg inside, if_neg (fun both => inside (depth.mp both).1)]
            rfl

/-- How many levels are allowed decides whether the calls of a text fit, and nothing else. -/
theorem of_text_within_limited (read : ofTextWithin settings levels text = .ok sequence)
    (further : Nat) :
    ofTextWithin settings further text =
      if sequence.callDepth < further then .ok sequence
      else .error (.tooDeep settings.callDepth) := by
  induction levels generalizing text sequence further with
  | zero => cases read
  | succ levels induction =>
      cases further with
      | zero => rfl
      | succ further =>
          obtain ⟨clean, items, become, rfl⟩ := of_text_within_ok_iff.mp read
          have calls := read_calls_limited
            (fun argument inner readInner => induction readInner further) become
          rw [ofTextWithin, readLevel, calls, clean, call_depth_arrange]
          by_cases fits : (Item.scanned items).callDepth ≤ further
          · rw [if_pos fits, if_pos (Nat.lt_succ_of_le fits)]
            rfl
          · rw [if_neg fits, if_neg (fun less => fits (Nat.le_of_lt_succ less))]
            rfl

/-- The calls of a text that is read fit into the levels it is read with. -/
theorem call_depth_of_text_within (read : ofTextWithin settings levels text = .ok sequence) :
    sequence.callDepth < levels := by
  have limited := of_text_within_limited read levels
  rw [read] at limited
  by_contra outside
  rw [if_neg outside] at limited
  cases limited

end Sequence

end RadixCalc
