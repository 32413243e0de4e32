import Mathlib.Data.List.Forall2
import RadixCalc.Proofs.Stopping
import RadixCalc.Sequence.OfText

/-!
Reading a level loses and duplicates nothing. The operands of the output are the
operands of the text in the same order, and every operator that joins two of
them is in the output as often as it is in the text. Only brackets disappear,
each group with the bracket that closes it.
-/

namespace RadixCalc

namespace Token

def isOperand : Token → Bool
  | .operand _ => true
  | .call _ _ => true
  | .operator _ => false

/-- Operators join two operands; a group that is still open joins nothing. -/
def joins : Token → Bool
  | .operator waiting => waiting != .group
  | _ => false

end Token

namespace Lexeme

def isOperand : Lexeme → Bool
  | .literal _ _ => true
  | .name _ => true
  | .call _ _ => true
  | _ => false

def joins : Lexeme → Bool
  | .operator next => next != .group
  | _ => false

/-- What a lexeme becomes when the argument of a call is read in some way. -/
inductive Becomes (readArgument : List Char → Except Fault Sequence) :
    Lexeme → Item → Prop where
  | literal (digits : String) (negative : Bool) :
      Becomes readArgument (.literal digits negative) (.token (.operand (.literal digits negative)))
  | name (name : String) : Becomes readArgument (.name name) (.token (.operand (.symbol name)))
  | call (name : String) {argument : List Char} {sequence : Sequence}
      (read : readArgument argument = .ok sequence) :
      Becomes readArgument (.call name argument)
        (.token (.call name (Sequence.argumentsOf sequence)))
  | operator (operator : Operator) : Becomes readArgument (.operator operator) (.operator operator)
  | close : Becomes readArgument .close .close

end Lexeme

namespace Item

/-- What an item sends to the output. -/
def emits (waiting : List Operator) : Item → Sequence
  | .token next => [next]
  | .operator next => (waiting.takeWhile (yields next)).map .operator
  | .close => (waiting.takeWhile (· != .group)).map .operator

/-- The operators that wait behind an item. -/
def waitingAfter (waiting : List Operator) : Item → List Operator
  | .token _ => waiting
  | .operator next => next :: waiting.dropWhile (yields next)
  | .close => (waiting.dropWhile (· != .group)).drop 1

/-- The tokens of a level in the order of the text. -/
def scanned : List Item → Sequence
  | [] => []
  | .token next :: rest => next :: scanned rest
  | .operator next :: rest => .operator next :: scanned rest
  | .close :: rest => scanned rest

variable {waiting : List Operator} {item : Item} {items : List Item}

theorem arrange_under_cons :
    arrangeUnder waiting (item :: items) =
      emits waiting item ++ arrangeUnder (waitingAfter waiting item) items := by
  cases item <;> rfl

theorem scanned_cons : scanned (item :: items) = scanned [item] ++ scanned items := by
  cases item <;> rfl

theorem filter_operators (waiting : List Operator) :
    (waiting.map Token.operator).filter Token.isOperand = [] := by
  induction waiting with
  | nil => rfl
  | cons top below induction => exact induction

theorem operands_emitted (waiting : List Operator) (item : Item) :
    (emits waiting item).filter Token.isOperand = (scanned [item]).filter Token.isOperand := by
  cases item with
  | token next => rfl
  | operator next => exact filter_operators _
  | close => exact filter_operators _

/-- Operands go out at once, so they keep their order whatever waits. -/
theorem operands_arrange_under (waiting : List Operator) (items : List Item) :
    (arrangeUnder waiting items).filter Token.isOperand =
      (scanned items).filter Token.isOperand := by
  induction items generalizing waiting with
  | nil => exact filter_operators waiting
  | cons item rest induction =>
      rw [arrange_under_cons, scanned_cons, List.filter_append, List.filter_append, induction,
        operands_emitted]

theorem count_split (keep : Token → Bool) (stops : Operator → Bool) (waiting : List Operator) :
    ((waiting.takeWhile stops).map Token.operator).countP keep +
        ((waiting.dropWhile stops).map Token.operator).countP keep =
      (waiting.map Token.operator).countP keep := by
  rw [← List.countP_append, ← List.map_append, List.takeWhile_append_dropWhile]

variable {keep : Token → Bool}

/-- The operator that a closing bracket stops at is a group, if there is one. -/
theorem count_below_group (ungrouped : keep (.operator .group) = false)
    (waiting : List Operator) :
    (((waiting.dropWhile (· != .group)).drop 1).map Token.operator).countP keep =
      ((waiting.dropWhile (· != .group)).map Token.operator).countP keep := by
  induction waiting with
  | nil => rfl
  | cons top below induction =>
      by_cases opened : top = .group
      · simp [opened, ungrouped]
      · simpa [opened] using induction

/-- What waits before an item, or is the item, goes out or waits behind it. -/
theorem count_emitted (ungrouped : keep (.operator .group) = false) (waiting : List Operator)
    (item : Item) :
    (emits waiting item).countP keep +
        ((waitingAfter waiting item).map Token.operator).countP keep =
      (waiting.map Token.operator).countP keep + (scanned [item]).countP keep := by
  cases item with
  | token next => exact Nat.add_comm _ _
  | operator next =>
      have split := count_split keep (yields next) waiting
      rw [emits, waitingAfter, List.map_cons, List.countP_cons, ← split, Nat.add_assoc]
      simp [scanned]
  | close =>
      rw [emits, waitingAfter, count_below_group ungrouped]
      exact count_split keep (· != .group) waiting

/-- Whatever is counted, groups apart, is in the output as often as it waits or is still to come. -/
theorem count_arrange_under (ungrouped : keep (.operator .group) = false)
    (waiting : List Operator) (items : List Item) :
    (arrangeUnder waiting items).countP keep =
      (waiting.map Token.operator).countP keep + (scanned items).countP keep := by
  induction items generalizing waiting with
  | nil => rfl
  | cons item rest induction =>
      have step := count_emitted ungrouped waiting item
      rw [arrange_under_cons, scanned_cons, List.countP_append, List.countP_append, induction,
        ← Nat.add_assoc, step, Nat.add_assoc]

end Item

namespace Sequence

variable {readArgument : List Char → Except Fault Sequence} {settings : Settings} {levels : Nat}
  {text : List Char} {sequence : Sequence}

theorem read_calls_ok_iff {lexemes : List Lexeme} {items : List Item} :
    readCalls readArgument lexemes = .ok items ↔
      List.Forall₂ (Lexeme.Becomes readArgument) lexemes items := by
  induction lexemes generalizing items with
  | nil =>
      rw [List.forall₂_nil_left_iff]
      exact ⟨fun read => (Except.ok.inj read).symm, fun same => same ▸ rfl⟩
  | cons lexeme rest induction =>
      -- The rest is read alike for every lexeme, and its items are put behind the first one.
      have joined : ∀ first : Item, (do
          let items ← readCalls readArgument rest
          pure (first :: items) : Except Fault (List Item)) = .ok items ↔
          ∃ later, List.Forall₂ (Lexeme.Becomes readArgument) rest later ∧
            items = first :: later := by
        intro first
        constructor
        · intro read
          obtain ⟨later, readRest, same⟩ := bind_ok read
          exact ⟨later, induction.mp readRest, (Except.ok.inj same).symm⟩
        · rintro ⟨later, become, rfl⟩
          rw [induction.mpr become]
          rfl
      rw [List.forall₂_cons_left_iff]
      constructor
      · intro read
        cases lexeme with
        | literal digits negative =>
            obtain ⟨later, become, same⟩ := (joined _).mp read
            exact ⟨_, later, .literal digits negative, become, same⟩
        | name name =>
            obtain ⟨later, become, same⟩ := (joined _).mp read
            exact ⟨_, later, .name name, become, same⟩
        | call name argument =>
            obtain ⟨inner, readInner, readRest⟩ := bind_ok read
            obtain ⟨later, become, same⟩ := (joined _).mp readRest
            exact ⟨_, later, .call name readInner, become, same⟩
        | operator operator =>
            obtain ⟨later, become, same⟩ := (joined _).mp read
            exact ⟨_, later, .operator operator, become, same⟩
        | close =>
            obtain ⟨later, become, same⟩ := (joined _).mp read
            exact ⟨_, later, .close, become, same⟩
      · rintro ⟨first, later, becomes, become, same⟩
        have readRest := (joined first).mpr ⟨later, become, same⟩
        cases becomes with
        | call name readInner =>
            rw [readCalls, readInner]
            exact readRest
        | literal digits negative => exact readRest
        | name name => exact readRest
        | operator operator => exact readRest
        | close => exact readRest

/-- A level is read if it holds lexemes only and the arguments of its calls are read. -/
theorem of_text_within_ok_iff :
    ofTextWithin settings (levels + 1) text = .ok sequence ↔
      (Scan.ofText true text).fault = none ∧ ∃ items,
        List.Forall₂ (Lexeme.Becomes (ofTextWithin settings levels))
          (Scan.ofText true text).lexemes items ∧
        sequence = Item.arrange items := by
  constructor
  · intro read
    obtain ⟨items, readItems, arranged⟩ := bind_ok read
    split at arranged
    · cases arranged
    · rename_i clean
      exact ⟨clean, items, read_calls_ok_iff.mp readItems, (Except.ok.inj arranged).symm⟩
  · rintro ⟨clean, items, become, rfl⟩
    have readItems := read_calls_ok_iff.mpr become
    rw [ofTextWithin, readLevel, readItems, clean]
    rfl

/-- At any number of levels, since without one nothing is read. -/
theorem of_text_within_ok (read : ofTextWithin settings levels text = .ok sequence) :
    ∃ further, levels = further + 1 ∧ (Scan.ofText true text).fault = none ∧ ∃ items,
      List.Forall₂ (Lexeme.Becomes (ofTextWithin settings further))
        (Scan.ofText true text).lexemes items ∧
      sequence = Item.arrange items := by
  cases levels with
  | zero => cases read
  | succ further => exact ⟨further, rfl, of_text_within_ok_iff.mp read⟩

theorem become_agree {other : List Char → Except Fault Sequence}
    (agree : ∀ argument first second, readArgument argument = .ok first →
      other argument = .ok second → first = second)
    {lexemes : List Lexeme} {items found : List Item}
    (become : List.Forall₂ (Lexeme.Becomes readArgument) lexemes items)
    (again : List.Forall₂ (Lexeme.Becomes other) lexemes found) : items = found := by
  induction become generalizing found with
  | nil =>
      cases again
      rfl
  | cons becomes _ induction =>
      cases again with
      | cons becomesOther further =>
          rw [induction further]
          congr 1
          cases becomes with
          | call name read =>
              cases becomesOther with
              | call _ readOther => rw [agree _ _ _ read readOther]
          | literal digits negative =>
              cases becomesOther
              rfl
          | name name =>
              cases becomesOther
              rfl
          | operator operator =>
              cases becomesOther
              rfl
          | close =>
              cases becomesOther
              rfl

/-- How many levels are allowed decides whether text is read, but not what it is read as. The texts
need only have the same lexemes. -/
theorem of_text_within_agree {further : Nat} {same : List Char} {found : Sequence}
    (scanned : Scan.ofText true same = Scan.ofText true text)
    (read : ofTextWithin settings levels text = .ok sequence)
    (again : ofTextWithin settings further same = .ok found) : sequence = found := by
  induction levels generalizing further text same sequence found with
  | zero => cases read
  | succ levels induction =>
      obtain ⟨-, items, become, rfl⟩ := of_text_within_ok_iff.mp read
      obtain ⟨deeper, rfl, -, others, becomeOther, rfl⟩ := of_text_within_ok again
      rw [scanned] at becomeOther
      have agree := fun argument first second =>
          @induction argument first deeper argument second rfl
      rw [become_agree agree become becomeOther]

/-- What is counted is as often among the tokens as among the lexemes if each of them says so. -/
theorem become_count {keep : Token → Bool} {held : Lexeme → Bool}
    (each : ∀ {lexeme item}, Lexeme.Becomes readArgument lexeme item →
      (Item.scanned [item]).countP keep = [lexeme].countP held)
    {lexemes : List Lexeme} {items : List Item}
    (become : List.Forall₂ (Lexeme.Becomes readArgument) lexemes items) :
    (Item.scanned items).countP keep = lexemes.countP held := by
  induction become with
  | nil => rfl
  | @cons lexeme item lexemes items becomes _ induction =>
      rw [Item.scanned_cons, List.countP_append, each becomes, induction, ← List.countP_append,
        List.singleton_append]

theorem become_counts {lexemes : List Lexeme} {items : List Item}
    (become : List.Forall₂ (Lexeme.Becomes readArgument) lexemes items) :
    (Item.scanned items).countP Token.isOperand = lexemes.countP Lexeme.isOperand ∧
      (Item.scanned items).countP Token.joins = lexemes.countP Lexeme.joins := by
  constructor
  · exact become_count (fun becomes => by cases becomes <;> rfl) become
  · exact become_count (fun becomes => by cases becomes <;> rfl) become

/-- The output of a level has as many operands as its text, and as many operators. -/
theorem counts_of_text_within (read : ofTextWithin settings levels text = .ok sequence) :
    sequence.countP Token.isOperand =
        (Scan.ofText true text).lexemes.countP Lexeme.isOperand ∧
      sequence.countP Token.joins = (Scan.ofText true text).lexemes.countP Lexeme.joins := by
  obtain ⟨further, -, -, items, become, rfl⟩ := of_text_within_ok read
  obtain ⟨operands, operators⟩ := become_counts become
  rw [Item.arrange, Item.count_arrange_under rfl, Item.count_arrange_under rfl, operands, operators]
  exact ⟨Nat.zero_add _, Nat.zero_add _⟩

end Sequence

end RadixCalc
