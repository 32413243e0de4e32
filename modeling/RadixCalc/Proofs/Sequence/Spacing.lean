import RadixCalc.Proofs.Lexeme.Passage
import RadixCalc.Proofs.Lexeme.Trimming
import RadixCalc.Proofs.Sequence.Conservation

/-!
The amount of spacing. A lexeme is never spelled with spacing, and a call is cut
out at brackets, so a text in which every run of spacing is one space has the
lexemes that it had before, apart from the spacing inside the arguments of its
calls. These are texts of the same sort, so the whole is read alike.
-/

namespace RadixCalc

namespace Scan

def startsSpacing : List Char → Bool
  | [] => false
  | char :: _ => isSpacing char

/-- The text with one space for every run of spacing. -/
def collapsed : List Char → List Char
  | [] => []
  | char :: rest =>
      if isSpacing char then
        if startsSpacing rest then collapsed rest else ' ' :: collapsed rest
      else char :: collapsed rest

/-- The text without the spacing at either end. -/
def stripped (text : List Char) : List Char :=
  ((text.dropWhile isSpacing).reverse.dropWhile isSpacing).reverse

/-- The text with one space for every run of spacing inside it, and none at its ends. -/
def squeezed (text : List Char) : List Char :=
  stripped (collapsed text)

end Scan

/-- Only the argument of a call has spacing that can be collapsed. -/
def Lexeme.collapsed : Lexeme → Lexeme
  | .call word argument => .call word (Scan.collapsed argument)
  | other => other

namespace Scan

variable {signAllowed signNext : Bool} {char : Char} {rest later text : List Char} {lexeme : Lexeme}
  {fault : Fault}

theorem collapsed_solid (solid : isSpacing char = false) :
    collapsed (char :: rest) = char :: collapsed rest := by
  simp [collapsed, solid]

/-- Collapsing a text up to a solid character does not depend on what stands behind it. -/
theorem collapsed_append (solid : isSpacing char = false) (before after : List Char) :
    collapsed (before ++ char :: after) = collapsed before ++ char :: collapsed after := by
  induction before with
  | nil => exact collapsed_solid solid
  | cons first behind induction =>
      have starts : startsSpacing (behind ++ char :: after) = startsSpacing behind := by
        cases behind with
        | nil => exact solid
        | cons next further => rfl
      simp only [List.cons_append, collapsed, starts, induction]
      split
      · split
        · rfl
        · rfl
      · rfl

theorem collapsed_spacing (spacing : isSpacing char = true) :
    collapsed (char :: rest) = ' ' :: collapsed (rest.dropWhile isSpacing) := by
  induction rest generalizing char with
  | nil => simp [collapsed, startsSpacing, spacing]
  | cons next behind induction =>
      rw [collapsed, if_pos spacing]
      cases further : isSpacing next with
      | false => simp [startsSpacing, further]
      | true =>
          have same := induction further
          simpa [startsSpacing, further] using same

/-- A run of characters that are no spacing ends where it did. -/
theorem take_while_collapsed {keep : Char → Bool}
    (outside : ∀ char, isSpacing char = true → keep char = false) (text : List Char) :
    (collapsed text).takeWhile keep = text.takeWhile keep ∧
      (collapsed text).dropWhile keep = collapsed (text.dropWhile keep) := by
  induction text with
  | nil => exact ⟨rfl, rfl⟩
  | cons char rest induction =>
      cases spacing : isSpacing char with
      | true =>
          have unkept := outside char spacing
          have blank := outside ' ' rfl
          simp [collapsed_spacing spacing, unkept, blank]
      | false =>
          rw [collapsed_solid spacing]
          cases kept : keep char with
          | true => simpa [kept] using induction
          | false => simp [kept, collapsed_solid spacing]

theorem outside_of_class (keep : Char → Bool)
    (outside : [' ', '\t', '\r', '\n'].all (fun blank => !keep blank) = true) :
    ∀ char, isSpacing char = true → keep char = false := by
  intro char spacing
  cases kept : keep char with
  | false => rfl
  | true =>
      rw [not_spacing_of_class kept outside] at spacing
      cases spacing

theorem head_collapsed (solid : isSpacing char = false) :
    (collapsed text).head? = some char ↔ text.head? = some char := by
  cases text with
  | nil => rfl
  | cons first behind =>
      cases spacing : isSpacing first with
      | true =>
          have apart : first ≠ char := by
            rintro rfl
            rw [solid] at spacing
            cases spacing
          have blank : ' ' ≠ char := by
            rintro rfl
            cases solid
          simp [collapsed_spacing spacing, apart, blank]
      | false => simp [collapsed_solid spacing]

theorem starts_decimal_collapsed (text : List Char) :
    startsDecimal (collapsed text) = startsDecimal text := by
  cases text with
  | nil => rfl
  | cons first behind =>
      cases spacing : isSpacing first with
      | true =>
          have undigit := outside_of_class isDecimal (by decide) first spacing
          rw [collapsed_spacing spacing, startsDecimal, startsDecimal, undigit]
          rfl
      | false => rw [collapsed_solid spacing, startsDecimal, startsDecimal]

theorem nesting_collapsed (opened : Nat) (text : List Char) :
    Bracket.nesting opened ((collapsed text).map Bracket.markOf) =
      Bracket.nesting opened (text.map Bracket.markOf) := by
  induction text generalizing opened with
  | nil => rfl
  | cons char rest induction =>
      cases spacing : isSpacing char with
      | true =>
          -- A space does not count, whether it is kept or falls to the one behind it.
          have plain := plain_of_class (List.forall_mem_singleton.mpr spacing)
              (by decide) (by decide)
          have skipped := @Bracket.nesting_skip opened [char] plain rest
          rw [List.singleton_append] at skipped
          rw [skipped, ← induction, collapsed, if_pos spacing]
          split
          · rfl
          · have space : ∀ char ∈ [' '], char ≠ '(' ∧ char ≠ ')' :=
              List.forall_mem_singleton.mpr (by decide)
            exact Bracket.nesting_skip space (collapsed rest)
      | false =>
          rw [collapsed_solid spacing, List.map_cons, List.map_cons]
          cases Bracket.markOf char with
          | closes =>
              cases opened with
              | zero => rfl
              | succ below => exact induction below
          | opens => exact induction (opened + 1)
          | assigns => exact induction opened
          | plain => exact induction opened

theorem closing_offset_collapsed (depth : Int) (text : List Char) :
    Bracket.closingOffset depth (collapsed text) = none ↔
      Bracket.closingOffset depth text = none := by
  -- Spacing neither changes the depth nor ends the search.
  have skip : ∀ {depth : Int} {char : Char} (rest : List Char), isSpacing char = true →
      (Bracket.closingOffset depth (char :: rest) = none ↔
        Bracket.closingOffset depth rest = none) := by
    intro depth char rest spacing
    have notOpening : char ≠ '(' := ne_of_class spacing (by decide)
    have notClosing : char ≠ ')' := ne_of_class spacing (by decide)
    simp [Bracket.closingOffset, Bracket.depthAfter, notOpening, notClosing]
  induction text generalizing depth with
  | nil => rfl
  | cons char rest induction =>
      cases spacing : isSpacing char with
      | true =>
          rw [skip rest spacing, collapsed, if_pos spacing]
          split
          · exact induction depth
          · exact (skip _ rfl).trans (induction depth)
      | false =>
          rw [collapsed_solid spacing, Bracket.closingOffset, Bracket.closingOffset]
          split
          · simp
          · rw [Option.map_eq_none_iff, Option.map_eq_none_iff]
            exact induction _

/-- Brackets are no spacing, so an argument is cut out of the collapsed text as it was. -/
theorem split_at_closing_collapsed (text : List Char) :
    Bracket.splitAtClosing (collapsed text) =
      (Bracket.splitAtClosing text).map fun parts => (collapsed parts.1, collapsed parts.2) := by
  cases split : Bracket.splitAtClosing text with
  | none =>
      have missing := (closing_offset_collapsed 1 text).mpr (Option.map_eq_none_iff.mp split)
      rw [Bracket.splitAtClosing, missing]
      rfl
  | some parts =>
      obtain ⟨paired, whole⟩ := Bracket.split_at_closing_paired split
      have still : Bracket.IsPaired (collapsed parts.1) :=
        (nesting_collapsed 0 parts.1).trans paired
      rw [whole, collapsed_append (by decide), Bracket.split_at_closing_balanced still.balanced]
      rfl

theorem Finds.collapsed (finds : Finds signAllowed char rest lexeme signNext later) :
    Finds signAllowed char (collapsed rest) lexeme.collapsed signNext (Scan.collapsed later) := by
  obtain ⟨digits, digitsBehind⟩ :=
    take_while_collapsed (outside_of_class isLiteralChar (by decide)) rest
  obtain ⟨letters, lettersBehind⟩ :=
    take_while_collapsed (outside_of_class isNameChar (by decide)) rest
  cases finds with
  | signed minus allowed starts =>
      rw [← digits, ← digitsBehind]
      exact .signed minus allowed ((starts_decimal_collapsed rest).trans starts)
  | literal decimal =>
      rw [← digits, ← digitsBehind]
      exact .literal decimal
  | name start plain =>
      rw [← letters, ← lettersBehind]
      refine .name start ?_
      rwa [lettersBehind, Ne, head_collapsed (by decide)]
  | @call inner argument later start after split =>
      rw [← letters]
      have opened : (Scan.collapsed rest).dropWhile isNameChar = '(' :: Scan.collapsed inner := by
        rw [lettersBehind, after, collapsed_solid (by decide)]
      refine .call start opened ?_
      rw [split_at_closing_collapsed, split]
      rfl
  | operator spelled notSign =>
      refine .operator spelled ?_
      rwa [starts_decimal_collapsed]
  | close closing => exact .close closing

theorem solid_of_step (stepped : step signAllowed char rest ≠ .spacing) :
    isSpacing char = false := by
  rwa [Ne, step_spacing_iff, Bool.not_eq_true] at stepped

theorem step_fault_collapsed (stepped : step signAllowed char rest = .fault fault) :
    step signAllowed char (collapsed rest) = .fault fault := by
  rcases step_fault stepped with ⟨unknown, rfl⟩ | ⟨start, rfl, inner, after, unmatched⟩
  · exact step_unknown unknown
  · obtain ⟨-, behind⟩ :=
      take_while_collapsed (outside_of_class isNameChar (by decide)) rest
    apply step_unmatched start
    · rw [behind, after, collapsed_solid (by decide)]
    · rw [split_at_closing_collapsed, unmatched, Option.map_none]

/-- The scan of a collapsed text is that of the text, with the arguments of calls collapsed. -/
theorem of_text_collapsed (signAllowed : Bool) (text : List Char) :
    ofText signAllowed (collapsed text) =
      { lexemes := (ofText signAllowed text).lexemes.map Lexeme.collapsed
        fault := (ofText signAllowed text).fault } := by
  fun_induction ofText signAllowed text with
  | case1 signAllowed => exact of_text_nil
  | case2 signAllowed first rest stepped induction =>
      rw [collapsed, if_pos (step_spacing_iff.mp stepped)]
      split
      · exact induction
      · rwa [of_text_spacing (step_spacing_iff.mpr rfl)]
  | case3 signAllowed first rest lexeme signNext later within stepped induction =>
      have solid : isSpacing first = false :=
        @solid_of_step signAllowed first rest (by simp [stepped])
      obtain ⟨bound, further⟩ := (step_finds stepped).collapsed.step
      rw [collapsed_solid solid, of_text_found further, induction]
      rfl
  | case4 signAllowed first rest fault stepped =>
      have solid : isSpacing first = false :=
        @solid_of_step signAllowed first rest (by simp [stepped])
      rw [collapsed_solid solid, ofText, step_fault_collapsed stepped]
      rfl

theorem stripped_parts (text : List Char) :
    ∃ lead trail, IsBlank lead ∧ IsBlank trail ∧ text = lead ++ (stripped text ++ trail) := by
  refine ⟨text.takeWhile isSpacing,
    ((text.dropWhile isSpacing).reverse.takeWhile isSpacing).reverse,
    List.all_eq_true.mp List.all_takeWhile, ?_, ?_⟩
  · intro char member
    exact List.all_eq_true.mp List.all_takeWhile char (List.mem_reverse.mp member)
  · rw [stripped, ← List.reverse_append, List.takeWhile_append_dropWhile, List.reverse_reverse,
      List.takeWhile_append_dropWhile]

/-- Spacing at the ends of a text is passed over. -/
theorem of_text_stripped (signAllowed : Bool) (text : List Char) :
    ofText signAllowed (stripped text) = ofText signAllowed text := by
  obtain ⟨lead, trail, leadBlank, trailBlank, whole⟩ := stripped_parts text
  calc
    ofText signAllowed (stripped text) = ofText signAllowed (stripped text ++ trail) :=
      (of_text_append_spacing _ trailBlank).symm
    _ = ofText signAllowed (lead ++ (stripped text ++ trail)) := (of_text_blank leadBlank _).symm
    _ = ofText signAllowed text := congrArg (ofText signAllowed) whole.symm

end Scan

namespace Sequence

variable {settings : Settings}

theorem read_calls_collapsed {readArgument : List Char → Except Fault Sequence}
    (alike : ∀ argument, readArgument (Scan.collapsed argument) = readArgument argument)
    (lexemes : List Lexeme) :
    readCalls readArgument (lexemes.map Lexeme.collapsed) = readCalls readArgument lexemes := by
  induction lexemes with
  | nil => rfl
  | cons lexeme rest induction =>
      cases lexeme with
      | call name argument =>
          rw [List.map_cons, Lexeme.collapsed, readCalls, readCalls, alike, induction]
      | _ => simp only [List.map_cons, Lexeme.collapsed, readCalls, induction]

/-- Text is read as its collapsed form is; so are arguments, with one level less. -/
theorem of_text_within_collapsed (levels : Nat) (text : List Char) :
    ofTextWithin settings levels (Scan.collapsed text) = ofTextWithin settings levels text := by
  induction levels generalizing text with
  | zero => rfl
  | succ levels induction =>
      rw [ofTextWithin, ofTextWithin, readLevel, readLevel, Scan.of_text_collapsed,
        read_calls_collapsed induction]

theorem of_text_within_squeezed (levels : Nat) (text : List Char) :
    ofTextWithin settings levels (Scan.squeezed text) = ofTextWithin settings levels text := by
  rw [← of_text_within_collapsed levels text]
  cases levels with
  | zero => rfl
  | succ levels =>
      rw [ofTextWithin, ofTextWithin, readLevel, readLevel, Scan.squeezed, Scan.of_text_stripped]

/-- Texts that are the same but for the kind and amount of spacing are read as the same tokens, or
refused for the same fault. -/
theorem of_text_at_respaced {depth : Int} {first second : String}
    (same : Scan.squeezed first.toList = Scan.squeezed second.toList) :
    ofTextAt settings depth first = ofTextAt settings depth second := by
  rw [ofTextAt, ofTextAt, ← of_text_within_squeezed, same, of_text_within_squeezed]

/-- Between a sign and its digits, and between a name and its bracket, spacing may not be left out
or put in; anywhere else the two texts differ in it. -/
theorem of_text_at_respaced_call :
    Scan.squeezed "\t2 *\nf( - 1 \r\n) ".toList = Scan.squeezed "2   * f(\t-\t1\n)".toList ∧
      ofTextAt {} 0 "\t2 *\nf( - 1 \r\n) " = ofTextAt {} 0 "2   * f(\t-\t1\n)" := by
  have same : Scan.squeezed "\t2 *\nf( - 1 \r\n) ".toList =
      Scan.squeezed "2   * f(\t-\t1\n)".toList := by decide
  exact ⟨same, of_text_at_respaced same⟩

end Sequence

end RadixCalc
