import RadixCalc.Proofs.Lexeme.Continuation

/-!
Passing over a part of a text. Where an operand may begin, the scanner takes the
lexemes of the part and goes on behind it as if the part were not there; no
operand may begin with a sign there. Parts are put together from smaller ones in
the way expressions are.
-/

namespace RadixCalc.Scan

/-- Where a sign is allowed the text has these lexemes, whatever follows that does not continue the
last of them. -/
def Passes (text : List Char) (lexemes : List Lexeme) : Prop :=
  ∀ rest, Delimits rest → ofText true (text ++ rest) = lexemes.foldr cons (ofText false rest)

variable {signAllowed : Bool} {text before after rest : List Char} {lexemes : List Lexeme}

theorem of_text_blank (spacing : IsBlank before) (rest : List Char) :
    ofText signAllowed (before ++ rest) = ofText signAllowed rest := by
  induction before with
  | nil => rfl
  | cons char later induction =>
      have tail : IsBlank later := by
        intro other member
        exact spacing other (by simp [member])
      rw [List.cons_append, of_text_spacing (step_spacing_iff.mpr (spacing char (by simp))),
        induction tail]

theorem of_text_operator {char : Char} {operator : Operator}
    (spelled : operatorOfChar? char = some operator)
    (notSign : char = '-' → signAllowed = false ∨ startsDecimal rest = false) :
    ofText signAllowed (char :: rest) = cons (.operator operator) (ofText true rest) := by
  obtain ⟨within, stepped⟩ := step_operator spelled notSign
  exact of_text_found stepped

theorem foldr_cons (lexemes : List Lexeme) (scan : Scan) :
    lexemes.foldr cons scan = { scan with lexemes := lexemes ++ scan.lexemes } := by
  induction lexemes with
  | nil => rfl
  | cons lexeme rest induction =>
      rw [List.foldr_cons, induction]
      rfl

/-- A text with nothing but spacing around what is passed over. -/
theorem Passes.whole (passes : Passes text lexemes) (spacingBefore : IsBlank before)
    (spacingAfter : IsBlank after) :
    ofText true (before ++ text ++ after) = { lexemes, fault := none } := by
  have delimited : Delimits (after ++ []) := delimits_blank spacingAfter trivial
  have ended : ofText false after = { lexemes := [], fault := none } := by
    rw [← List.append_nil after, of_text_blank spacingAfter, of_text_nil]
  rw [List.append_nil] at delimited
  rw [List.append_assoc, of_text_blank spacingBefore, passes after delimited, ended, foldr_cons,
    List.append_nil]

theorem passes_literal {digits : List Char} (spelled : IsLiteral digits) :
    Passes digits [.literal (String.ofList digits) false] := by
  intro rest delimited
  cases digits with
  | nil => exact spelled.elim
  | cons first tail =>
      obtain ⟨within, stepped⟩ := step_literal true spelled delimited
      exact of_text_found stepped

theorem passes_signed_literal {digits : List Char} (spelled : IsLiteral digits) :
    Passes ('-' :: digits) [.literal (String.ofList digits) true] := by
  intro rest delimited
  obtain ⟨within, stepped⟩ := step_signed_literal spelled delimited
  exact of_text_found stepped

theorem passes_name {name : List Char} (spelled : IsName name) :
    Passes name [.name (String.ofList name)] := by
  intro rest delimited
  cases name with
  | nil => exact spelled.elim
  | cons first tail =>
      obtain ⟨within, stepped⟩ := step_name true spelled delimited
      exact of_text_found stepped

theorem passes_call {name argument : List Char} (spelled : IsName name)
    (balanced : Bracket.Balanced argument) :
    Passes (name ++ '(' :: (argument ++ [')'])) [.call (String.ofList name) argument] := by
  intro rest _
  cases name with
  | nil => exact spelled.elim
  | cons first tail =>
      obtain ⟨within, stepped⟩ := step_call true rest spelled balanced
      simpa using of_text_found stepped

/-- An operator between two parts; the first of them leaves no room for a sign. -/
theorem Passes.joined {leftText rightText : List Char} {left right : List Lexeme} {char : Char}
    {operator : Operator} (leftPasses : Passes leftText left) (spacingBefore : IsBlank before)
    (spelled : operatorOfChar? char = some operator)
    (delimiting : ∀ rest, Delimits (char :: rest)) (spacingAfter : IsBlank after)
    (rightPasses : Passes rightText right) :
    Passes (leftText ++ before ++ char :: (after ++ rightText))
      (left ++ .operator operator :: right) := by
  intro rest delimited
  have parts : leftText ++ before ++ char :: (after ++ rightText) ++ rest =
      leftText ++ (before ++ char :: (after ++ (rightText ++ rest))) := by simp
  rw [parts, leftPasses _ (delimits_blank spacingBefore (delimiting _)),
    of_text_blank spacingBefore, of_text_operator spelled (fun _ => Or.inl rfl),
    of_text_blank spacingAfter, rightPasses rest delimited, List.foldr_append, List.foldr_cons]

theorem Passes.group (passes : Passes text lexemes) (spacingBefore : IsBlank before)
    (spacingAfter : IsBlank after) :
    Passes ('(' :: (before ++ text ++ after ++ [')']))
      (.operator .group :: (lexemes ++ [.close])) := by
  intro rest _
  have parts : ('(' :: (before ++ text ++ after ++ [')'])) ++ rest =
      '(' :: (before ++ (text ++ (after ++ ')' :: rest))) := by simp
  have opening : operatorOfChar? '(' = some .group := rfl
  have closing : Delimits (')' :: rest) := ⟨by decide, by decide, by decide⟩
  obtain ⟨within, closed⟩ := step_close false rest
  rw [parts, of_text_operator opening (fun minus => absurd minus (by decide)),
    of_text_blank spacingBefore, passes _ (delimits_blank spacingAfter closing),
    of_text_blank spacingAfter, of_text_found closed, List.foldr_cons, List.foldr_append]
  rfl

/-- A minus that is no sign is an operator, although an operand may begin where it stands. -/
theorem Passes.negated (passes : Passes text lexemes) (spacing : IsBlank before)
    (apart : before = [] → startsDecimal text = false) :
    Passes ('-' :: (before ++ text)) (.operator (.arithmetic .minus) :: lexemes) := by
  intro rest delimited
  have notSign : startsDecimal (before ++ (text ++ rest)) = false := by
    cases before with
    | nil => exact (starts_decimal_append delimited text).trans (apart rfl)
    | cons char later =>
        exact (delimits_of_spacing (spacing char (by simp))).head_class.2.2.2
  have spelled : operatorOfChar? '-' = some (.arithmetic .minus) := rfl
  rw [List.cons_append, List.append_assoc, of_text_operator spelled (fun _ => Or.inr notSign),
    of_text_blank spacing, passes rest delimited, List.foldr_cons]

end RadixCalc.Scan
