import RadixCalc.Proofs.Lexeme.Cursor
import RadixCalc.Proofs.Sequence.Everywhere
import RadixCalc.Proofs.Sequence.Level

/-!
Sequences that are read are well formed. Every token at every depth is of a form
that text can spell, every operand stands somewhere in the text of its level,
and a literal is negative just when a minus stands right before its first digit
and is no operator.
-/

namespace RadixCalc

/-- What reading can give. Numbers only come up in a calculation, and a call has no argument or one
that is not empty. -/
def Token.IsWellFormed : Token → Prop
  | .operand (.number _) => False
  | .operand (.literal digits _) => Scan.IsLiteral digits.toList
  | .operand (.symbol name) => Scan.IsName name.toList
  | .operator next => next ∈ Operator.written
  | .call name arguments => Scan.IsName name.toList ∧
      (arguments = [] ∨ ∃ argument ≠ [], arguments = [argument])

/-- An operand is what a lexeme becomes, and the text has the characters of the lexeme at its
place; before a literal it has a sign or none. -/
structure Token.StandsAt (readArgument : List Char → Except Fault Sequence) (text : List Char)
    (found : List (Nat × Lexeme)) (entry : Nat × Lexeme) (token : Token) : Prop where
  becomes : Lexeme.Becomes readArgument entry.2 (.token token)
  stands : entry.2.spelling.drop entry.2.signLength <+: text.drop entry.1
  signed : ∀ digits negative, entry.2 = .literal digits negative →
    (negative = true ↔ Scan.SignBefore text found entry.1)

/-- A sequence is made of the lexemes found in a text: their operands one by one, each where it
stands, and their operators as many times, apart from groups that were closed. -/
structure Sequence.MadeOf (readArgument : List Char → Except Fault Sequence) (text : List Char)
    (found : List (Nat × Lexeme)) (sequence : Sequence) : Prop where
  operands : List.Forall₂ (Token.StandsAt readArgument text found)
    (found.filter (·.2.isOperand)) (sequence.filter Token.isOperand)
  operators : ∀ operator ≠ .group, sequence.countP (Token.isOperator operator) =
    (found.map Prod.snd).countP (Lexeme.isOperator operator)

namespace Sequence

variable {readArgument : List Char → Except Fault Sequence} {settings : Settings} {levels : Nat}
  {text : List Char} {sequence : Sequence}

theorem arguments_of_cases (sequence : Sequence) :
    argumentsOf sequence = [] ∨ ∃ argument ≠ [], argumentsOf sequence = [argument] := by
  unfold argumentsOf
  split
  · exact Or.inl rfl
  · rename_i filled
    refine Or.inr ⟨sequence, ?_, rfl⟩
    rintro rfl
    exact filled rfl

theorem holds_of_spelled {lexeme : Lexeme} (spelled : lexeme.IsSpelled) :
    lexeme.Holds Token.IsWellFormed (fun _ => True) := by
  cases lexeme with
  | literal digits negative => exact spelled
  | name word => exact spelled
  | call word argument =>
      exact ⟨trivial, fun sequence => ⟨spelled, arguments_of_cases sequence⟩⟩
  | operator next => exact spelled
  | close => trivial

theorem of_text_within_well_formed (read : ofTextWithin settings levels text = .ok sequence) :
    Everywhere Token.IsWellFormed sequence := by
  refine of_text_within_everywhere _ (fun _ => True) ?_ trivial read
  intro text _ lexeme member
  obtain ⟨before, char, rest, sign, next, later, -, finds⟩ := Scan.lexeme_found member
  exact holds_of_spelled finds.is_spelled

/-- By induction on the items: operands come up one by one, all else is left out on both sides. -/
theorem become_stand_at {found all : List (Nat × Lexeme)} {items : List Item}
    (become : List.Forall₂ (fun entry => Lexeme.Becomes readArgument entry.2) found items)
    (stands : ∀ entry ∈ found, entry.2.spelling.drop entry.2.signLength <+: text.drop entry.1)
    (signed : ∀ place digits negative, (place, Lexeme.literal digits negative) ∈ found →
      (negative = true ↔ Scan.SignBefore text all place)) :
    List.Forall₂ (Token.StandsAt readArgument text all) (found.filter (·.2.isOperand))
      ((Item.scanned items).filter Token.isOperand) := by
  induction become with
  | nil => exact .nil
  | @cons entry item found items becomes _ induction =>
      have tail := induction (fun other member => stands other (List.mem_cons_of_mem _ member))
        (fun place digits negative member =>
          signed place digits negative (List.mem_cons_of_mem _ member))
      have head : ∀ token, item = .token token →
          Token.StandsAt readArgument text all entry token := by
        rintro token rfl
        refine ⟨becomes, stands entry List.mem_cons_self, ?_⟩
        intro digits negative same
        exact signed entry.1 digits negative (same ▸ List.mem_cons_self)
      obtain ⟨place, lexeme⟩ := entry
      cases becomes with
      | literal digits negative => exact .cons (head _ rfl) tail
      | name word => exact .cons (head _ rfl) tail
      | call word read => exact .cons (head _ rfl) tail
      | operator next => exact tail
      | close => exact tail

/-- A level that is read is made of what the loop finds in it. -/
theorem of_text_within_made_of (read : ofTextWithin settings (levels + 1) text = .ok sequence) :
    ∃ walked, Scan.walk (Scan.padded text) Scan.Cursor.start = some walked ∧
      MadeOf (ofTextWithin settings levels) (Scan.padded text) walked.found sequence := by
  obtain ⟨-, items, become, rfl⟩ := of_text_within_ok_iff.mp read
  obtain ⟨walked, walks, same, laid⟩ := Scan.walk_padded text
  have lexemes : (Scan.ofText true text).lexemes = walked.found.map Prod.snd := by
    rw [← same]
    rfl
  rw [lexemes] at become
  refine ⟨walked, walks, ?_, fun operator apart => arrange_operators become apart⟩
  rw [Item.arrange, Item.operands_arrange_under]
  exact become_stand_at (List.forall₂_map_left_iff.mp become)
    (fun entry member => laid.stands member)
    (fun place digits negative member => laid.signed (Scan.behind_start _) member)

/-- The loop over any level of a text uses no index outside the level and the space behind it, and
finds what the scan finds there. If the text is read, all tokens are well formed, and each part of
the sequence is made of what the loop finds in its level. -/
theorem of_text_at_well_formed (settings : Settings) (depth : Int) (text : String) :
    (∀ level, Scan.HasLevel text.toList level →
      ∃ walked, Scan.walk (Scan.padded level) Scan.Cursor.start = some walked ∧
        walked.scan = Scan.ofText true level) ∧
      ∀ sequence, ofTextAt settings depth text = .ok sequence →
        Everywhere Token.IsWellFormed sequence ∧
        ∀ part, sequence.HasPart part → ∃ level levels walked,
          Scan.HasLevel text.toList level ∧
          ofTextWithin settings (levels + 1) level = .ok part ∧
          Scan.walk (Scan.padded level) Scan.Cursor.start = some walked ∧
          MadeOf (ofTextWithin settings levels) (Scan.padded level) walked.found part := by
  constructor
  · intro level _
    obtain ⟨walked, walks, same, -⟩ := Scan.walk_padded level
    exact ⟨walked, walks, same⟩
  · intro sequence read
    refine ⟨of_text_within_well_formed read, ?_⟩
    intro part inside
    obtain ⟨further, level, within, readPart⟩ := level_of_part inside read
    obtain ⟨levels, rfl, -⟩ := of_text_within_ok readPart
    obtain ⟨walked, walks, made⟩ := of_text_within_made_of readPart
    exact ⟨level, levels, walked, within, readPart, walks, made⟩

/-- The first minus and the one in the call are signs, the one between them is an operator. -/
theorem of_text_at_well_formed_signs :
    let inner : Sequence := [.operand (.literal "1" true)]
    let sequence : Sequence := [.operand (.literal "2" false), .operand (.literal "3" true),
      .operator (.arithmetic .times), .call "f" [inner], .operator (.arithmetic .minus)]
    ofTextAt {} 0 "2*-3-f(-1)" = .ok sequence ∧ HasPart sequence inner ∧
      Everywhere Token.IsWellFormed sequence ∧
      ∃ level levels walked, Scan.HasLevel "2*-3-f(-1)".toList level ∧
        ofTextWithin {} (levels + 1) level = .ok inner ∧
        Scan.walk (Scan.padded level) Scan.Cursor.start = some walked ∧
        MadeOf (ofTextWithin {} levels) (Scan.padded level) walked.found inner := by
  intro inner sequence
  have read : ofTextAt {} 0 "2*-3-f(-1)" = .ok sequence := by cbv
  have called : Token.call "f" [inner] ∈ sequence := by simp [sequence]
  have inside : HasPart sequence inner := .argument called (by simp) (.whole inner)
  obtain ⟨formed, parts⟩ := (of_text_at_well_formed {} 0 "2*-3-f(-1)").2 sequence read
  exact ⟨read, inside, formed, parts inner inside⟩

end Sequence

end RadixCalc
