import RadixCalc.Proofs.Sequence.Conservation

/-!
Levels of a text and parts of a sequence. A text has itself for a level, and so
it has the levels of the arguments of its calls; a sequence has parts in the
same way. Each level of a text that is read is read as a part of the output, and
each part of the output comes from a level.
-/

namespace RadixCalc

/-- The texts that are read in the course of reading a text. -/
inductive Scan.HasLevel : List Char → List Char → Prop where
  | whole (text : List Char) : HasLevel text text
  | argument {text argument level : List Char} {name : String}
      (called : Lexeme.call name argument ∈ (Scan.ofText true text).lexemes)
      (inside : HasLevel argument level) : HasLevel text level

/-- The sequences that stand in a sequence, itself and the arguments of calls at every depth. -/
inductive Sequence.HasPart : Sequence → Sequence → Prop where
  | whole (sequence : Sequence) : HasPart sequence sequence
  | argument {sequence argument part : Sequence} {name : String} {arguments : List Sequence}
      (called : Token.call name arguments ∈ sequence) (passed : argument ∈ arguments)
      (inside : HasPart argument part) : HasPart sequence part

namespace Sequence

variable {readArgument : List Char → Except Fault Sequence} {settings : Settings} {levels : Nat}
  {text : List Char} {sequence : Sequence}

theorem mem_arguments_of {argument sequence : Sequence} :
    argument ∈ argumentsOf sequence ↔ argument = sequence ∧ sequence ≠ [] := by
  unfold argumentsOf
  split
  · rename_i blank
    simp [List.isEmpty_iff.mp blank]
  · rename_i filled
    simp only [List.mem_singleton, iff_self_and]
    rintro _ rfl
    exact filled rfl

theorem call_becomes_token {lexemes : List Lexeme} {items : List Item} {name : String}
    {argument : List Char} (become : List.Forall₂ (Lexeme.Becomes readArgument) lexemes items)
    (called : Lexeme.call name argument ∈ lexemes) :
    ∃ inner, readArgument argument = .ok inner ∧
      Token.call name (argumentsOf inner) ∈ Item.scanned items := by
  induction become with
  | nil => cases called
  | @cons lexeme item lexemes items becomes _ induction =>
      rcases List.mem_cons.mp called with rfl | further
      · cases becomes with
        | call name read => exact ⟨_, read, by simp [Item.scanned]⟩
      · obtain ⟨inner, read, member⟩ := induction further
        refine ⟨inner, read, ?_⟩
        cases becomes <;> simp [Item.scanned, member]

theorem token_from_call {lexemes : List Lexeme} {items : List Item} {name : String}
    {arguments : List Sequence}
    (become : List.Forall₂ (Lexeme.Becomes readArgument) lexemes items)
    (called : Token.call name arguments ∈ Item.scanned items) :
    ∃ argument inner, Lexeme.call name argument ∈ lexemes ∧
      readArgument argument = .ok inner ∧ arguments = argumentsOf inner := by
  induction become with
  | nil => cases called
  | @cons lexeme item lexemes items becomes _ induction =>
      have later : Token.call name arguments ∈ Item.scanned items →
          ∃ argument inner, Lexeme.call name argument ∈ lexeme :: lexemes ∧
            readArgument argument = .ok inner ∧ arguments = argumentsOf inner := by
        intro further
        obtain ⟨argument, inner, member, read, same⟩ := induction further
        exact ⟨argument, inner, List.mem_cons_of_mem _ member, read, same⟩
      cases becomes with
      | call spelled read =>
          rcases List.mem_cons.mp called with same | further
          · cases same
            exact ⟨_, _, by simp, read, rfl⟩
          · exact later further
      | literal digits negative => exact later (by simpa [Item.scanned] using called)
      | name spelled => exact later (by simpa [Item.scanned] using called)
      | operator operator => exact later (by simpa [Item.scanned] using called)
      | close => exact later called

/-- Calls are operands, and these are neither lost nor added when operators are arranged. -/
theorem call_mem_arrange {items : List Item} {name : String} {arguments : List Sequence} :
    Token.call name arguments ∈ Item.arrange items ↔
      Token.call name arguments ∈ Item.scanned items := by
  have filtered : Token.call name arguments ∈ (Item.arrange items).filter Token.isOperand ↔
      Token.call name arguments ∈ (Item.scanned items).filter Token.isOperand := by
    rw [Item.arrange, Item.operands_arrange_under]
  simpa [List.mem_filter, Token.isOperand] using filtered

/-- A level is read as a part, unless it is blank and so leaves its call without an argument. -/
theorem part_of_level {level : List Char} (inside : Scan.HasLevel text level)
    (read : ofTextWithin settings levels text = .ok sequence) :
    ∃ further part, ofTextWithin settings further level = .ok part ∧
      (part = [] ∨ sequence.HasPart part) := by
  induction inside generalizing levels sequence with
  | whole text => exact ⟨levels, sequence, read, Or.inr (.whole sequence)⟩
  | argument called _ induction =>
      obtain ⟨further, rfl, -, items, become, rfl⟩ := of_text_within_ok read
      obtain ⟨inner, readInner, member⟩ := call_becomes_token become called
      obtain ⟨deeper, part, readPart, found⟩ := induction readInner
      refine ⟨deeper, part, readPart, ?_⟩
      by_cases blank : inner = []
      · -- A blank argument has no part but itself.
        subst blank
        rcases found with same | found
        · exact Or.inl same
        · cases found with
          | whole => exact Or.inl rfl
          | argument called => cases called
      · rcases found with same | found
        · exact Or.inl same
        · exact Or.inr (.argument (call_mem_arrange.mpr member)
            (mem_arguments_of.mpr ⟨rfl, blank⟩) found)

/-- A part was read from a level. -/
theorem level_of_part {part : Sequence} (inside : sequence.HasPart part)
    (read : ofTextWithin settings levels text = .ok sequence) :
    ∃ further level, Scan.HasLevel text level ∧
      ofTextWithin settings further level = .ok part := by
  induction inside generalizing levels text with
  | whole sequence => exact ⟨levels, text, .whole text, read⟩
  | argument called passed _ induction =>
      obtain ⟨further, rfl, -, items, become, rfl⟩ := of_text_within_ok read
      obtain ⟨argument, inner, member, readInner, rfl⟩ :=
        token_from_call become (call_mem_arrange.mp called)
      obtain ⟨rfl, -⟩ := mem_arguments_of.mp passed
      obtain ⟨deeper, level, found, readLevel⟩ := induction readInner
      exact ⟨deeper, level, .argument member found, readLevel⟩

end Sequence

end RadixCalc
