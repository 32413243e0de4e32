import RadixCalc.Lexeme
import RadixCalc.Proofs.Bracket

/-!
Where lexemes come from. Every lexeme of a text was found at some place of it,
and what can be found there is read off the characters that follow.
-/

namespace RadixCalc.Scan

/-- What may be found where `char` stands before `rest`: a lexeme, whether a sign may come next,
and the text behind the lexeme. -/
inductive Finds (signAllowed : Bool) (char : Char) (rest : List Char) :
    Lexeme → Bool → List Char → Prop where
  | signed : char = '-' → signAllowed = true → startsDecimal rest = true →
      Finds signAllowed char rest (.literal (String.ofList (rest.takeWhile isLiteralChar)) true)
        false (rest.dropWhile isLiteralChar)
  | literal : isDecimal char = true →
      Finds signAllowed char rest
        (.literal (String.ofList (char :: rest.takeWhile isLiteralChar)) false)
        false (rest.dropWhile isLiteralChar)
  | name : isNameStart char = true → (rest.dropWhile isNameChar).head? ≠ some '(' →
      Finds signAllowed char rest (.name (String.ofList (char :: rest.takeWhile isNameChar)))
        false (rest.dropWhile isNameChar)
  | call {inner argument later : List Char} : isNameStart char = true →
      rest.dropWhile isNameChar = '(' :: inner →
      Bracket.splitAtClosing inner = some (argument, later) →
      Finds signAllowed char rest
        (.call (String.ofList (char :: rest.takeWhile isNameChar)) argument) false later
  | operator {operator : Operator} : operatorOfChar? char = some operator →
      (char = '-' → signAllowed = false ∨ startsDecimal rest = false) →
      Finds signAllowed char rest (.operator operator) true rest
  | close : char = ')' → Finds signAllowed char rest .close false rest

variable {signAllowed signNext : Bool} {char : Char} {rest later : List Char} {lexeme : Lexeme}

theorem step_name_finds {within : later.length ≤ rest.length} (start : isNameStart char = true)
    (found : stepName char rest = .found lexeme signNext later within) :
    Finds signAllowed char rest lexeme signNext later := by
  simp only [stepName] at found
  split at found
  · rename_i inner after
    split at found
    · rename_i split
      cases found
      exact Finds.call start after split
    · cases found
  · rename_i notBracket
    cases found
    refine Finds.name start ?_
    intro bracket
    obtain ⟨inner, after⟩ := List.head?_eq_some_iff.mp bracket
    exact notBracket inner after

theorem step_finds {within : later.length ≤ rest.length}
    (found : step signAllowed char rest = .found lexeme signNext later within) :
    Finds signAllowed char rest lexeme signNext later := by
  unfold step at found
  split at found
  · cases found
  · split at found
    · rename_i signed
      simp only [Bool.and_eq_true, decide_eq_true_eq] at signed
      cases found
      exact Finds.signed signed.1.1 signed.1.2 signed.2
    · rename_i notSigned
      split at found
      · rename_i decimal
        cases found
        exact Finds.literal decimal
      · split at found
        · rename_i closing
          cases found
          exact Finds.close closing
        · split at found
          · rename_i start
            exact step_name_finds start found
          · split at found
            · rename_i spelled
              cases found
              refine Finds.operator spelled ?_
              rintro rfl
              simpa [Classical.or_iff_not_imp_left] using notSigned
            · cases found

theorem Finds.later_suffix (finds : Finds signAllowed char rest lexeme signNext later) :
    later <:+ rest := by
  cases finds with
  | signed => exact List.dropWhile_suffix isLiteralChar
  | literal => exact List.dropWhile_suffix isLiteralChar
  | name => exact List.dropWhile_suffix isNameChar
  | call start after split =>
      obtain ⟨-, behind⟩ := Bracket.split_at_closing_parts split
      have inside := List.dropWhile_suffix (l := rest) isNameChar
      rw [after] at inside
      exact (behind.trans (List.suffix_cons _ _)).trans inside
  | operator => exact List.suffix_rfl
  | close => exact List.suffix_rfl

/-- The argument of a call is part of the text behind the first character of its name. -/
theorem Finds.argument_subset {name : String} {argument : List Char}
    (finds : Finds signAllowed char rest (.call name argument) signNext later) :
    argument ⊆ rest := by
  cases finds with
  | call start after split =>
      obtain ⟨before, -⟩ := Bracket.split_at_closing_parts split
      have inside := (List.dropWhile_suffix (l := rest) isNameChar).subset
      rw [after] at inside
      intro other member
      exact inside (List.mem_cons_of_mem _ (before.subset member))

/-- A lexeme of a text was found where some part of the text begins. -/
theorem lexeme_found {text : List Char} (member : lexeme ∈ (ofText signAllowed text).lexemes) :
    ∃ (before : List Char) (char : Char) (rest : List Char) (sign next : Bool)
      (later : List Char),
      text = before ++ char :: rest ∧ Finds sign char rest lexeme next later := by
  fun_induction ofText signAllowed text with
  | case1 signAllowed => cases member
  | case2 signAllowed first rest stepped induction =>
      obtain ⟨before, char, behind, sign, next, later, same, finds⟩ := induction member
      exact ⟨first :: before, char, behind, sign, next, later, by simp [same], finds⟩
  | case3 signAllowed first rest found signNext later within stepped induction =>
      rcases List.mem_cons.mp member with rfl | further
      · exact ⟨[], first, rest, signAllowed, signNext, later, rfl, step_finds stepped⟩
      · obtain ⟨before, char, behind, sign, next, after, same, finds⟩ := induction further
        obtain ⟨skipped, split⟩ := (step_finds stepped).later_suffix
        refine ⟨first :: (skipped ++ before), char, behind, sign, next, after, ?_, finds⟩
        simp [← split, same]
  | case4 signAllowed first rest fault stepped => cases member

end RadixCalc.Scan
