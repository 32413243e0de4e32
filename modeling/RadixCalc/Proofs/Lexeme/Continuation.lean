import RadixCalc.Proofs.Bracket.Nesting
import RadixCalc.Proofs.Lexeme
import RadixCalc.Proofs.Lexeme.Found

/-!
Scanning text that goes on. What is found at a place of a text is found there
also when more text follows, if that does not continue the last lexeme; so the
lexemes of the text come first and those of the rest behind them. The brackets
of a text and those of its lexemes nest alike, because the brackets inside a
call are paired.
-/

namespace RadixCalc

def Operator.mark : Operator → Bracket.Mark
  | .group => .opens
  | .assign => .assigns
  | _ => .plain

/-- Calls are closed in themselves and have no mark. -/
def Lexeme.mark : Lexeme → Bracket.Mark
  | .operator next => next.mark
  | .close => .closes
  | _ => .plain

namespace Scan

variable {signAllowed signNext : Bool} {char : Char} {rest later tail : List Char} {lexeme : Lexeme}

/-- Whatever may be found at a place is found there. -/
theorem Finds.step (finds : Finds signAllowed char rest lexeme signNext later) :
    ∃ within, Scan.step signAllowed char rest = .found lexeme signNext later within := by
  cases finds with
  | signed minus allowed starts =>
      subst minus allowed
      have notSpacing : isSpacing '-' = false := by decide
      simp [Scan.step, stepLiteral, notSpacing, starts, drop_while_length_le]
  | literal decimal =>
      have notSpacing := not_spacing_of_class decimal (by decide)
      have notMinus : char ≠ '-' := ne_of_class decimal (by decide)
      simp [Scan.step, stepLiteral, notSpacing, notMinus, decimal, drop_while_length_le]
  | name start plain =>
      rw [step_name_start rest signAllowed start, stepName]
      split
      · rename_i inner after
        rw [after] at plain
        exact absurd rfl plain
      · exact ⟨drop_while_length_le _ _, rfl⟩
  | call start after split =>
      rw [step_name_start rest signAllowed start, stepName]
      split
      · rename_i inner opened
        obtain ⟨-, rfl⟩ := List.cons.inj (after.symm.trans opened)
        split
        · rename_i argument behind found
          rw [split] at found
          cases found
          -- The step keeps the bound that less text is left.
          have inside := Bracket.split_at_closing_length split
          have shorter := drop_while_length_le isNameChar rest
          rw [after, List.length_cons] at shorter
          exact ⟨by omega, rfl⟩
        · rename_i missing
          rw [split] at missing
          cases missing
      · rename_i notBracket
        exact absurd after (notBracket _)
  | operator spelled notSign => exact step_operator spelled notSign
  | close closing =>
      subst closing
      exact step_close signAllowed rest

theorem of_text_nil : ofText signAllowed [] = { lexemes := [], fault := none } := by
  rw [ofText]

theorem of_text_found {within : later.length ≤ rest.length}
    (stepped : Scan.step signAllowed char rest = .found lexeme signNext later within) :
    ofText signAllowed (char :: rest) = cons lexeme (ofText signNext later) := by
  rw [ofText]
  simp only [stepped]

theorem of_text_spacing (stepped : Scan.step signAllowed char rest = .spacing) :
    ofText signAllowed (char :: rest) = ofText signAllowed rest := by
  rw [ofText]
  simp only [stepped]

/-- A run ends where it ended, whatever follows that does not continue it. -/
theorem take_while_append {α : Type} {keep : α → Bool} {tail : List α}
    (ends : ∀ next ∈ tail.head?, keep next = false) (row : List α) :
    (row ++ tail).takeWhile keep = row.takeWhile keep ∧
      (row ++ tail).dropWhile keep = row.dropWhile keep ++ tail := by
  induction row with
  | nil =>
      cases tail with
      | nil => exact ⟨rfl, rfl⟩
      | cons next behind => simp [ends next rfl]
  | cons next behind induction =>
      cases kept : keep next with
      | false => simp [kept]
      | true => simpa [kept] using induction

theorem Delimits.head_class (delimited : Delimits tail) :
    (∀ char ∈ tail.head?, isLiteralChar char = false) ∧
      (∀ char ∈ tail.head?, isNameChar char = false) ∧ tail.head? ≠ some '(' ∧
      startsDecimal tail = false := by
  cases tail with
  | nil => simp [startsDecimal]
  | cons char behind =>
      obtain ⟨noLiteral, noName, noBracket⟩ := delimited
      have noDecimal : isDecimal char = false := by
        simp only [isLiteralChar, Bool.or_eq_false_iff] at noLiteral
        exact noLiteral.1.1
      simpa [startsDecimal] using ⟨noLiteral, noName, noBracket, noDecimal⟩

theorem starts_decimal_append (delimited : Delimits tail) (text : List Char) :
    startsDecimal (text ++ tail) = startsDecimal text := by
  cases text with
  | nil => exact delimited.head_class.2.2.2
  | cons char behind => rfl

theorem Finds.append (finds : Finds signAllowed char rest lexeme signNext later)
    (delimited : Delimits tail) :
    Finds signAllowed char (rest ++ tail) lexeme signNext (later ++ tail) := by
  obtain ⟨noLiteral, noName, noBracket, -⟩ := delimited.head_class
  obtain ⟨digits, digitsBehind⟩ := take_while_append noLiteral rest
  obtain ⟨letters, lettersBehind⟩ := take_while_append noName rest
  cases finds with
  | signed minus allowed starts =>
      rw [← digits, ← digitsBehind]
      exact .signed minus allowed (starts_decimal_append delimited rest ▸ starts)
  | literal decimal =>
      rw [← digits, ← digitsBehind]
      exact .literal decimal
  | name start plain =>
      rw [← letters, ← lettersBehind]
      refine .name start ?_
      rw [lettersBehind]
      -- If the text ends with the name, it is the tail that must not make it a call.
      cases behind : rest.dropWhile isNameChar with
      | nil => exact noBracket
      | cons next more =>
          rw [behind] at plain
          exact plain
  | @call inner argument later start after split =>
      obtain ⟨paired, rfl⟩ := Bracket.split_at_closing_paired split
      rw [← letters]
      have behind : (rest ++ tail).dropWhile isNameChar =
          '(' :: (argument ++ ')' :: (later ++ tail)) := by
        rw [lettersBehind, after]
        simp
      exact .call start behind (Bracket.split_at_closing_balanced paired.balanced _)
  | operator spelled notSign =>
      refine .operator spelled ?_
      rw [starts_decimal_append delimited rest]
      exact notSign
  | close closing => exact .close closing

theorem step_spacing_iff :
    Scan.step signAllowed char rest = .spacing ↔ isSpacing char = true := by
  constructor
  · intro stepped
    cases solid : isSpacing char with
    | true => rfl
    | false =>
        unfold Scan.step at stepped
        rw [if_neg (by simp [solid])] at stepped
        split at stepped
        · cases stepped
        split at stepped
        · cases stepped
        split at stepped
        · cases stepped
        split at stepped
        · unfold stepName at stepped
          split at stepped
          · split at stepped <;> cases stepped
          · cases stepped
        · split at stepped <;> cases stepped
  · intro spacing
    simp [Scan.step, spacing]

/-- The lexemes of text that can be scanned come first when more text follows. -/
theorem of_text_append {text : List Char} (clean : (ofText signAllowed text).fault = none)
    (delimited : Delimits tail) :
    ∃ signNext, (ofText signAllowed (text ++ tail)).lexemes =
        (ofText signAllowed text).lexemes ++ (ofText signNext tail).lexemes ∧
      (ofText signAllowed (text ++ tail)).fault = (ofText signNext tail).fault := by
  fun_induction ofText signAllowed text with
  | case1 signAllowed => exact ⟨signAllowed, rfl, rfl⟩
  | case2 signAllowed first rest stepped induction =>
      have spacing := step_spacing_iff.mp stepped
      rw [List.cons_append, of_text_spacing (step_spacing_iff.mpr spacing)]
      exact induction clean
  | case3 signAllowed first rest lexeme signNext later within stepped induction =>
      obtain ⟨bound, further⟩ := ((step_finds stepped).append delimited).step
      obtain ⟨signBehind, lexemes, fault⟩ := induction clean
      rw [List.cons_append, of_text_found further]
      exact ⟨signBehind, congrArg _ lexemes, fault⟩
  | case4 signAllowed first rest fault stepped => cases clean

/-- The characters of a lexeme nest as its mark does. -/
theorem Finds.nesting (finds : Finds signAllowed char rest lexeme signNext later) (opened : Nat) :
    Bracket.nesting opened ((char :: rest).map Bracket.markOf) =
      Bracket.nesting opened (lexeme.mark :: later.map Bracket.markOf) := by
  -- A run of characters of one class is passed over; behind it stands what is left of the text.
  have run : ∀ (keep : Char → Bool), keep '(' = false → keep ')' = false →
      char ≠ '(' ∧ char ≠ ')' →
      Bracket.nesting opened ((char :: rest).map Bracket.markOf) =
        Bracket.nesting opened ((rest.dropWhile keep).map Bracket.markOf) := by
    intro keep opening closing plain
    have parts : char :: rest = (char :: rest.takeWhile keep) ++ rest.dropWhile keep := by
      rw [List.cons_append, List.takeWhile_append_dropWhile]
    have kept : ∀ other ∈ rest.takeWhile keep, keep other = true :=
      List.all_eq_true.mp List.all_takeWhile
    have taken := plain_of_class kept opening closing
    rw [parts, Bracket.nesting_skip]
    intro other member
    rcases List.mem_cons.mp member with rfl | further
    · exact plain
    · exact taken other further
  cases finds with
  | signed minus =>
      subst minus
      exact run isLiteralChar (by decide) (by decide) (by decide)
  | literal decimal =>
      exact run isLiteralChar (by decide) (by decide)
        ⟨ne_of_class decimal (by decide), ne_of_class decimal (by decide)⟩
  | name start =>
      exact run isNameChar (by decide) (by decide)
        ⟨ne_of_class start (by decide), ne_of_class start (by decide)⟩
  | call start after split =>
      obtain ⟨paired, rfl⟩ := Bracket.split_at_closing_paired split
      rw [run isNameChar (by decide) (by decide)
        ⟨ne_of_class start (by decide), ne_of_class start (by decide)⟩, after]
      exact Bracket.nesting_enclosed paired later
  | operator spelled =>
      unfold operatorOfChar? at spelled
      split at spelled
      case h_9 => cases spelled
      all_goals
        cases spelled
        rfl
  | close closing =>
      subst closing
      rfl

theorem of_text_nesting {text : List Char} (clean : (ofText signAllowed text).fault = none)
    (opened : Nat) :
    Bracket.nesting opened ((ofText signAllowed text).lexemes.map Lexeme.mark) =
      Bracket.nesting opened (text.map Bracket.markOf) := by
  fun_induction ofText signAllowed text generalizing opened with
  | case1 signAllowed => rfl
  | case2 signAllowed first rest stepped induction =>
      have spacing := step_spacing_iff.mp stepped
      have plain := plain_of_class (List.forall_mem_singleton.mpr spacing) (by decide) (by decide)
      have skipped := @Bracket.nesting_skip opened [first] plain rest
      exact (induction clean opened).trans skipped.symm
  | case3 signAllowed first rest lexeme signNext later within stepped induction =>
      rw [(step_finds stepped).nesting]
      rw [cons, List.map_cons]
      cases lexeme.mark with
      | opens => exact induction clean _
      | closes =>
          cases opened with
          | zero => rfl
          | succ below => exact induction clean _
      | assigns => exact induction clean _
      | plain => exact induction clean _
  | case4 signAllowed first rest fault stepped => cases clean

end Scan

end RadixCalc
