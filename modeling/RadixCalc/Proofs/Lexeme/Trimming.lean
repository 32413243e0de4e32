import RadixCalc.Proofs.Lexeme.Continuation
import RadixCalc.Proofs.Text.Blank

/-!
Where no lexeme begins, and what trimming leaves of a text. More characters are
blank at the ends of a line than may stand between lexemes. Such a character
begins no lexeme: the scan stops there, and of a text that can be scanned no
lexeme is lost when it is trimmed.
-/

namespace RadixCalc

theorem Bracket.closing_offset_append_none {depth : Int} {text tail : List Char}
    (unclosed : ')' ∉ tail) (missing : closingOffset depth text = none) :
    closingOffset depth (text ++ tail) = none := by
  induction text generalizing depth with
  | nil =>
      clear missing
      induction tail generalizing depth with
      | nil => rfl
      | cons char rest induction =>
          have apart : char ≠ ')' := by
            rintro rfl
            exact unclosed List.mem_cons_self
          have further := @induction (fun inside => unclosed (List.mem_cons_of_mem _ inside))
          rw [List.nil_append] at further ⊢
          rw [closingOffset, if_neg (fun closes => apart closes.1), further, Option.map_none]
  | cons char rest induction =>
      rw [closingOffset] at missing
      split at missing
      · cases missing
      · rename_i passed
        rw [List.cons_append, closingOffset, if_neg passed,
          induction (Option.map_eq_none_iff.mp missing), Option.map_none]

namespace Scan

variable {signAllowed : Bool} {char : Char} {rest tail : List Char} {fault : Fault}

/-- No lexeme begins with the character, and it is no spacing. -/
structure IsUnknown (char : Char) : Prop where
  solid : isSpacing char = false
  undigit : isDecimal char = false
  unnamed : isNameStart char = false
  closes : char ≠ ')'
  unjoined : operatorOfChar? char = none

theorem step_unknown (unknown : IsUnknown char) :
    step signAllowed char rest = .fault (.unknownToken char) := by
  have notMinus : char ≠ '-' := by
    rintro rfl
    exact absurd unknown.unjoined (by decide)
  simp [step, unknown.solid, unknown.undigit, unknown.unnamed, unknown.closes, unknown.unjoined,
    notMinus]

theorem step_unmatched {inner : List Char} (start : isNameStart char = true)
    (after : rest.dropWhile isNameChar = '(' :: inner)
    (unmatched : Bracket.splitAtClosing inner = none) :
    step signAllowed char rest = .fault .unmatchedBracket := by
  rw [step_name_start rest signAllowed start, stepName]
  split
  · rename_i other opened
    obtain ⟨-, rfl⟩ := List.cons.inj (after.symm.trans opened)
    split
    · rename_i found
      rw [unmatched] at found
      cases found
    · rfl
  · rename_i notBracket
    exact absurd after (notBracket _)

/-- There is no lexeme where none begins with the character, or where a call is never closed. -/
theorem step_fault (stepped : step signAllowed char rest = .fault fault) :
    (IsUnknown char ∧ fault = .unknownToken char) ∨
      (isNameStart char = true ∧ fault = .unmatchedBracket ∧
        ∃ inner, rest.dropWhile isNameChar = '(' :: inner ∧
          Bracket.splitAtClosing inner = none) := by
  -- The tests of a step in their order; each that fails says something of the character.
  unfold step at stepped
  split at stepped
  · cases stepped
  rename_i solid
  split at stepped
  · cases stepped
  split at stepped
  · cases stepped
  rename_i undigit
  split at stepped
  · cases stepped
  rename_i closes
  split at stepped
  · rename_i start
    right
    unfold stepName at stepped
    split at stepped
    · rename_i inner after
      split at stepped
      · cases stepped
      · rename_i missing
        cases stepped
        exact ⟨start, rfl, inner, after, missing⟩
    · cases stepped
  · rename_i unnamed
    split at stepped
    · cases stepped
    · rename_i unjoined
      cases stepped
      simp only [Bool.not_eq_true] at solid undigit unnamed
      exact Or.inl ⟨⟨solid, undigit, unnamed, closes, unjoined⟩, rfl⟩

theorem step_fault_append (delimited : Delimits tail) (unclosed : ')' ∉ tail)
    (stepped : step signAllowed char rest = .fault fault) :
    step signAllowed char (rest ++ tail) = .fault fault := by
  rcases step_fault stepped with ⟨unknown, rfl⟩ | ⟨start, rfl, inner, after, unmatched⟩
  · exact step_unknown unknown
  · obtain ⟨-, behind⟩ := take_while_append delimited.head_class.2.1 rest
    have missing := Bracket.closing_offset_append_none unclosed
        (Option.map_eq_none_iff.mp unmatched)
    apply step_unmatched start
    · rw [behind, after, List.cons_append]
    · rw [Bracket.splitAtClosing, missing, Option.map_none]

section Blank

/-- A blank is outside the classes of characters that lexemes are made of. -/
theorem blank_apart (blank : Text.isBlank char = true) :
    isLiteralChar char = false ∧ isNameChar char = false := by
  have points : char.toNat ≤ 0x20 ∨ 0x85 ≤ char.toNat := by
    obtain ⟨range, member, lower, upper⟩ :=
      (Text.CodePointRanges.covers_iff Text.blankRanges char.toNat).mp blank
    simp only [Text.blankRanges, List.mem_cons, List.not_mem_nil, or_false] at member
    rcases member with rfl | rfl | rfl | rfl | rfl | rfl | rfl | rfl | rfl | rfl <;>
      dsimp only at lower upper <;> omega
  have outside : ∀ first last : Char, 0x20 < first.toNat → last.toNat < 0x85 →
      (decide (first ≤ char) && decide (char ≤ last)) = false := by
    intro first last above below
    rw [Bool.eq_false_iff]
    intro inside
    rw [Bool.and_eq_true, decide_eq_true_eq, decide_eq_true_eq] at inside
    have lower : first.toNat ≤ char.toNat := inside.1
    have upper : char.toNat ≤ last.toNat := inside.2
    omega
  have digits := outside '0' '9' (by decide) (by decide)
  have small := outside 'a' 'z' (by decide) (by decide)
  have capitals := outside 'A' 'Z' (by decide) (by decide)
  have point : char ≠ '.' := ne_of_class blank (by decide)
  have dollar : char ≠ '$' := ne_of_class blank (by decide)
  have line : char ≠ '_' := ne_of_class blank (by decide)
  simp only [isLiteralChar, isNameChar, isNameStart, isDecimal, isLetter, digits, small, capitals,
    point, dollar, line, decide_false, Bool.or_self, and_self]

theorem delimits_of_blank (blank : ∀ char ∈ tail, Text.isBlank char = true) :
    Delimits tail := by
  cases tail with
  | nil => trivial
  | cons char later =>
      have first := blank char (by simp)
      obtain ⟨noLiteral, noName⟩ := blank_apart first
      exact ⟨noLiteral, noName, ne_of_class first (by decide)⟩

theorem blank_unclosed (blank : ∀ char ∈ tail, Text.isBlank char = true) : ')' ∉ tail := by
  intro member
  exact absurd (blank ')' member) (by decide)

/-- A blank is spacing or begins no lexeme. -/
theorem spacing_or_unknown (blank : Text.isBlank char = true) :
    isSpacing char = true ∨ IsUnknown char := by
  cases spacing : isSpacing char with
  | true => exact Or.inl rfl
  | false =>
      obtain ⟨noLiteral, noName⟩ := blank_apart blank
      simp only [isLiteralChar, isNameChar, Bool.or_eq_false_iff] at noLiteral noName
      right
      refine ⟨spacing, noLiteral.1.1, noName.1, ne_of_class blank (by decide), ?_⟩
      unfold operatorOfChar?
      split
      case h_9 => rfl
      all_goals exact absurd blank (by decide)

/-- Blanks in front of a text are passed over, up to the first one that begins no lexeme. -/
theorem of_text_blanks_append {lead : List Char}
    (blank : ∀ char ∈ lead, Text.isBlank char = true) (text : List Char) :
    ofText signAllowed (lead ++ text) = ofText signAllowed text ∨
      ∃ char ∈ lead, isSpacing char = false ∧
        ofText signAllowed (lead ++ text) = failed (.unknownToken char) := by
  induction lead with
  | nil => exact Or.inl rfl
  | cons first later induction =>
      rw [List.cons_append]
      rcases spacing_or_unknown (blank first (by simp)) with spacing | unknown
      · rw [of_text_spacing (step_spacing_iff.mpr spacing)]
        rcases induction (fun char member => blank char (by simp [member])) with
          same | ⟨char, member, solid, stops⟩
        · exact Or.inl same
        · exact Or.inr ⟨char, by simp [member], solid, stops⟩
      · exact Or.inr ⟨first, by simp, unknown.solid, by rw [ofText, step_unknown unknown]⟩

/-- Blanks behind a text add no lexeme. If one of them begins no lexeme, the scan stops there,
unless it has stopped before. -/
theorem of_text_append_blanks (text : List Char)
    (blank : ∀ char ∈ tail, Text.isBlank char = true) :
    ofText signAllowed (text ++ tail) = ofText signAllowed text ∨
      ∃ char ∈ tail, isSpacing char = false ∧
        ofText signAllowed (text ++ tail) =
          { ofText signAllowed text with fault := some (.unknownToken char) } := by
  have delimited := delimits_of_blank blank
  fun_induction ofText signAllowed text with
  | case1 signAllowed =>
      rcases @of_text_blanks_append signAllowed tail blank [] with
        same | ⟨char, member, solid, stops⟩
      · left
        rwa [List.append_nil, of_text_nil] at same
      · right
        rw [List.append_nil] at stops
        exact ⟨char, member, solid, stops⟩
  | case2 signAllowed first rest stepped induction =>
      have spacing := step_spacing_iff.mp stepped
      rw [List.cons_append, of_text_spacing (step_spacing_iff.mpr spacing)]
      exact induction
  | case3 signAllowed first rest lexeme signNext later within stepped induction =>
      -- A blank continues no lexeme, so what was found is found with the blanks behind it.
      obtain ⟨bound, further⟩ := ((step_finds stepped).append delimited).step
      rw [List.cons_append, of_text_found further]
      rcases induction with same | ⟨char, member, solid, stops⟩
      · rw [same]
        exact Or.inl rfl
      · rw [stops]
        exact Or.inr ⟨char, member, solid, rfl⟩
  | case4 signAllowed first rest fault stepped =>
      have stays := step_fault_append delimited (blank_unclosed blank) stepped
      rw [List.cons_append, ofText, stays]
      exact Or.inl rfl

theorem blank_of_spacing (spacing : IsBlank tail) :
    ∀ char ∈ tail, Text.isBlank char = true := by
  intro char member
  have space := spacing char member
  simp only [isSpacing, Bool.or_eq_true, decide_eq_true_eq] at space
  rcases space with ((rfl | rfl) | rfl) | rfl <;> decide

theorem of_text_append_spacing (text : List Char) (spacing : IsBlank tail) :
    ofText signAllowed (text ++ tail) = ofText signAllowed text := by
  rcases @of_text_append_blanks signAllowed tail text (blank_of_spacing spacing) with
    same | ⟨char, member, solid, -⟩
  · exact same
  · rw [spacing char member] at solid
    cases solid

/-- A text is scanned like the trimmed text, unless the scan meets a blank that was trimmed away
and begins no lexeme: before the first lexeme, or behind the last one of a text that is well. -/
theorem of_text_trim_cases (text : List Char) :
    ofText true text = ofText true (Text.trim text) ∨
      ∃ char ∈ Text.leading text ++ Text.trailing text, isSpacing char = false ∧
        (ofText true text).fault = some (.unknownToken char) ∧
        ((ofText true text).lexemes = [] ∨
          (ofText true text).lexemes = (ofText true (Text.trim text)).lexemes) := by
  have parts := Text.leading_append_trim text
  have front := @of_text_blanks_append true _ (Text.leading_blank text)
    (Text.trim text ++ Text.trailing text)
  rw [parts] at front
  rcases front with passed | ⟨char, member, solid, stops⟩
  · rw [passed]
    rcases @of_text_append_blanks true _ (Text.trim text) (Text.trailing_blank text) with
      same | ⟨char, member, solid, stops⟩
    · exact Or.inl same
    · right
      refine ⟨char, List.mem_append_right _ member, solid, ?_, Or.inr ?_⟩
      · rw [stops]
      · rw [stops]
  · right
    refine ⟨char, List.mem_append_left _ member, solid, ?_, Or.inl ?_⟩
    · rw [stops, failed]
    · rw [stops, failed]

/-- Text that can be scanned has the same lexemes when it is trimmed. -/
theorem of_text_trim {text : List Char} (clean : (ofText true text).fault = none) :
    ofText true (Text.trim text) = ofText true text := by
  rcases of_text_trim_cases text with same | ⟨char, -, -, stops, -⟩
  · exact same.symm
  · rw [clean] at stops
    cases stops

end Blank

end Scan

end RadixCalc
