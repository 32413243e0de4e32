import RadixCalc.Proofs.Lexeme.Found
import RadixCalc.Proofs.Sequence.Conservation

/-!
Properties of every token of a sequence, at every depth of calls. Tokens come
from lexemes and from operators that wait, so a property holds of all that a
reading gives once it holds of what each lexeme of the text stands for.
-/

namespace RadixCalc

mutual

/-- A token has the property, and so has every token in its arguments. -/
def Token.Everywhere (property : Token → Prop) : Token → Prop
  | .operand value => property (.operand value)
  | .operator operator => property (.operator operator)
  | .call name arguments =>
      property (.call name arguments) ∧ Sequence.EverywhereEach property arguments

def Sequence.Everywhere (property : Token → Prop) : List Token → Prop
  | [] => True
  | token :: rest => token.Everywhere property ∧ Sequence.Everywhere property rest

def Sequence.EverywhereEach (property : Token → Prop) : List (List Token) → Prop
  | [] => True
  | argument :: rest =>
      Sequence.Everywhere property argument ∧ Sequence.EverywhereEach property rest

end

namespace Sequence

variable {property : Token → Prop}

theorem everywhere_append (first second : List Token) :
    Everywhere property (first ++ second) ↔
      Everywhere property first ∧ Everywhere property second := by
  induction first with
  | nil => simp [Everywhere]
  | cons token rest induction => simp [Everywhere, induction, and_assoc]

theorem everywhere_operators {waiting : List Operator}
    (holds : ∀ operator ∈ waiting, property (.operator operator)) :
    Everywhere property (waiting.map .operator) := by
  induction waiting with
  | nil => trivial
  | cons operator rest induction =>
      have tail := induction (by intro other member; exact holds other (by simp [member]))
      exact ⟨holds operator (by simp), tail⟩

end Sequence

/-- What an item contributes to the output has the property at every depth. -/
def Item.Holds (property : Token → Prop) : Item → Prop
  | .token next => next.Everywhere property
  | .operator next => property (.operator next)
  | .close => True

/-- What a lexeme stands for has the property, whatever its argument is read as, and the argument
is one of the texts considered. -/
def Lexeme.Holds (property : Token → Prop) (considered : List Char → Prop) : Lexeme → Prop
  | .literal digits negative => property (.operand (.literal digits negative))
  | .name spelled => property (.operand (.symbol spelled))
  | .call spelled argument => considered argument ∧
      ∀ sequence, property (.call spelled (Sequence.argumentsOf sequence))
  | .operator next => property (.operator next)
  | .close => True

namespace Sequence

variable {property : Token → Prop} {considered : List Char → Prop}
  {readArgument : List Char → Except Fault Sequence}

theorem emits_everywhere {waiting : List Operator} {item : Item}
    (waitingHolds : ∀ operator ∈ waiting, property (.operator operator))
    (holds : item.Holds property) :
    Everywhere property (item.emits waiting) ∧
      ∀ operator ∈ item.waitingAfter waiting, property (.operator operator) := by
  -- An operator that goes out was waiting, and one that waits was so before or is the item itself.
  cases item with
  | token next => exact ⟨⟨holds, trivial⟩, waitingHolds⟩
  | operator next =>
      constructor
      · apply everywhere_operators
        intro operator member
        exact waitingHolds operator ((List.takeWhile_subset _) member)
      · intro operator member
        rcases List.mem_cons.mp member with rfl | below
        · exact holds
        · exact waitingHolds operator ((List.dropWhile_suffix _).subset below)
  | close =>
      constructor
      · apply everywhere_operators
        intro operator member
        exact waitingHolds operator ((List.takeWhile_subset _) member)
      · intro operator member
        exact waitingHolds operator
          ((List.dropWhile_suffix _).subset (List.mem_of_mem_drop member))

theorem arrange_under_everywhere {waiting : List Operator} {items : List Item}
    (waitingHolds : ∀ operator ∈ waiting, property (.operator operator))
    (itemsHold : ∀ item ∈ items, item.Holds property) :
    Everywhere property (Item.arrangeUnder waiting items) := by
  induction items generalizing waiting with
  | nil => exact everywhere_operators waitingHolds
  | cons item rest induction =>
      obtain ⟨head, tail⟩ := List.forall_mem_cons.mp itemsHold
      obtain ⟨sent, left⟩ := emits_everywhere waitingHolds head
      rw [Item.arrange_under_cons, everywhere_append]
      exact ⟨sent, induction left tail⟩

theorem arguments_everywhere {sequence : Sequence} (holds : Everywhere property sequence) :
    EverywhereEach property (argumentsOf sequence) := by
  unfold argumentsOf
  split
  · trivial
  · exact ⟨holds, trivial⟩

theorem become_hold {lexemes : List Lexeme} {items : List Item}
    (argumentsHold : ∀ argument sequence, considered argument →
      readArgument argument = .ok sequence → Everywhere property sequence)
    (lexemesHold : ∀ lexeme ∈ lexemes, lexeme.Holds property considered)
    (become : List.Forall₂ (Lexeme.Becomes readArgument) lexemes items) :
    ∀ item ∈ items, item.Holds property := by
  induction become with
  | nil => simp
  | cons becomes _ induction =>
      obtain ⟨head, tail⟩ := List.forall_mem_cons.mp lexemesHold
      refine List.forall_mem_cons.mpr ⟨?_, induction tail⟩
      cases becomes with
      | literal digits negative => exact head
      | name spelled => exact head
      | call spelled read =>
          exact ⟨head.2 _, arguments_everywhere (argumentsHold _ _ head.1 read)⟩
      | operator next => exact head
      | close => trivial

/-- A property of what each lexeme of each text considered stands for is one of every token that
such a text is read as. -/
theorem of_text_within_everywhere {settings : Settings} {levels : Nat} {text : List Char}
    {sequence : Sequence} (property : Token → Prop) (considered : List Char → Prop)
    (lexemesHold : ∀ text, considered text → ∀ lexeme ∈ (Scan.ofText true text).lexemes,
      lexeme.Holds property considered)
    (consider : considered text) (read : ofTextWithin settings levels text = .ok sequence) :
    Everywhere property sequence := by
  -- An argument is read with one level less than the text it stands in.
  induction levels generalizing text sequence with
  | zero => cases read
  | succ levels induction =>
      obtain ⟨-, items, become, rfl⟩ := of_text_within_ok_iff.mp read
      have itemsHold := become_hold
        (fun argument inner considerArgument readInner => induction considerArgument readInner)
        (lexemesHold text consider) become
      exact arrange_under_everywhere (by simp) itemsHold

/-- No token at any depth is an assignment. -/
def IsAssignmentFree (sequence : Sequence) : Prop :=
  Everywhere (· ≠ .operator .assign) sequence

theorem of_text_within_assignment_free {settings : Settings} {levels : Nat} {text : List Char}
    {sequence : Sequence} (free : '=' ∉ text)
    (read : ofTextWithin settings levels text = .ok sequence) : sequence.IsAssignmentFree := by
  refine of_text_within_everywhere _ (fun text => '=' ∉ text) ?_ free read
  intro text free lexeme member
  obtain ⟨before, char, rest, sign, next, later, rfl, finds⟩ := Scan.lexeme_found member
  have charFree : char ≠ '=' := by
    rintro rfl
    exact free (by simp)
  have restFree : '=' ∉ rest := by
    intro inside
    exact free (by simp [inside])
  cases lexeme with
  | literal digits negative => simp [Lexeme.Holds]
  | name spelled => simp [Lexeme.Holds]
  | call spelled argument =>
      refine ⟨fun inside => restFree (finds.argument_subset inside), ?_⟩
      simp
  | operator operator =>
      cases finds with
      | operator spelled notSign =>
          rintro ⟨⟩
          unfold Scan.operatorOfChar? at spelled
          split at spelled <;> simp_all
  | close => trivial

theorem of_text_assignment_free {settings : Settings} {text : String} {sequence : Sequence}
    (free : '=' ∉ text.toList) (read : ofText settings text = .ok sequence) :
    sequence.IsAssignmentFree := by
  unfold ofText at read
  split at read
  · cases read
  · exact of_text_within_assignment_free free read

end Sequence

end RadixCalc
