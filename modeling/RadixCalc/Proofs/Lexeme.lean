import RadixCalc.Lexeme
import RadixCalc.Proofs.Bracket

/-!
How lexemes are spelled, and what the scanner finds where a spelling stands in
the text. A literal or a name goes on as long as it can, so each of these facts
needs to know that the text behind the spelling does not continue it.
-/

namespace RadixCalc.Scan

/-- A decimal digit, then digits, letters and points. -/
def IsLiteral : List Char → Prop
  | [] => False
  | first :: rest => isDecimal first = true ∧ ∀ char ∈ rest, isLiteralChar char = true

/-- A letter, `$` or `_`, then such characters and decimal digits. -/
def IsName : List Char → Prop
  | [] => False
  | first :: rest => isNameStart first = true ∧ ∀ char ∈ rest, isNameChar char = true

def IsBlank (text : List Char) : Prop :=
  ∀ char ∈ text, isSpacing char = true

/-- Text that continues neither a literal nor a name, and makes no call of a name. -/
def Delimits : List Char → Prop
  | [] => True
  | char :: _ => isLiteralChar char = false ∧ isNameChar char = false ∧ char ≠ '('

theorem ne_of_class {property : Char → Bool} {char other : Char} (inside : property char = true)
    (outside : property other = false) : char ≠ other := by
  rintro rfl
  rw [inside] at outside
  cases outside

theorem not_spacing_of_class {property : Char → Bool} {char : Char}
    (inside : property char = true)
    (outside : [' ', '\t', '\r', '\n'].all (fun blank => !property blank) = true) :
    isSpacing char = false := by
  have apart : ∀ blank ∈ [' ', '\t', '\r', '\n'], char ≠ blank := by
    intro blank member
    have excluded : property blank = false := by
      simpa using List.all_eq_true.mp outside blank member
    exact ne_of_class inside excluded
  simpa [isSpacing, and_assoc] using apart

theorem plain_of_class {property : Char → Bool} {text : List Char}
    (inside : ∀ char ∈ text, property char = true) (opening : property '(' = false)
    (closing : property ')' = false) : ∀ char ∈ text, char ≠ '(' ∧ char ≠ ')' := by
  intro char member
  exact ⟨ne_of_class (inside char member) opening, ne_of_class (inside char member) closing⟩

theorem balanced_of_class {property : Char → Bool} {text : List Char}
    (inside : ∀ char ∈ text, property char = true) (opening : property '(' = false)
    (closing : property ')' = false) : Bracket.Balanced text :=
  Bracket.balanced_of_plain (plain_of_class inside opening closing)

theorem IsBlank.balanced {text : List Char} (spacing : IsBlank text) : Bracket.Balanced text :=
  balanced_of_class spacing (by decide) (by decide)

theorem literal_char_of_decimal {char : Char} (decimal : isDecimal char = true) :
    isLiteralChar char = true := by
  simp [isLiteralChar, decimal]

theorem name_char_of_start {char : Char} (start : isNameStart char = true) :
    isNameChar char = true := by
  simp [isNameChar, start]

theorem IsLiteral.filled {digits : List Char} (spelled : IsLiteral digits) : 0 < digits.length := by
  cases digits with
  | nil => exact spelled.elim
  | cons first tail => exact Nat.succ_pos _

theorem IsName.filled {name : List Char} (spelled : IsName name) : 0 < name.length := by
  cases name with
  | nil => exact spelled.elim
  | cons first tail => exact Nat.succ_pos _

theorem IsLiteral.inside {digits : List Char} (spelled : IsLiteral digits) :
    ∀ char ∈ digits, isLiteralChar char = true := by
  cases digits with
  | nil => exact spelled.elim
  | cons first tail =>
      intro char member
      rcases List.mem_cons.mp member with rfl | member
      · exact literal_char_of_decimal spelled.1
      · exact spelled.2 char member

theorem IsName.inside {name : List Char} (spelled : IsName name) :
    ∀ char ∈ name, isNameChar char = true := by
  cases name with
  | nil => exact spelled.elim
  | cons first tail =>
      intro char member
      rcases List.mem_cons.mp member with rfl | member
      · exact name_char_of_start spelled.1
      · exact spelled.2 char member

theorem IsLiteral.balanced {digits : List Char} (spelled : IsLiteral digits) :
    Bracket.Balanced digits :=
  balanced_of_class spelled.inside (by decide) (by decide)

theorem IsName.balanced {name : List Char} (spelled : IsName name) : Bracket.Balanced name :=
  balanced_of_class spelled.inside (by decide) (by decide)

theorem not_decimal_of_name_start {char : Char} (start : isNameStart char = true) :
    isDecimal char = false := by
  simp only [isNameStart, isLetter, Bool.or_eq_true, Bool.and_eq_true, decide_eq_true_eq] at start
  rcases start with ((small | capital) | rfl) | rfl
  · simp only [isDecimal, Bool.and_eq_false_iff, decide_eq_false_iff_not]
    exact Or.inr (fun bounded => absurd (Char.le_trans small.1 bounded) (by decide))
  · simp only [isDecimal, Bool.and_eq_false_iff, decide_eq_false_iff_not]
    exact Or.inr (fun bounded => absurd (Char.le_trans capital.1 bounded) (by decide))
  · decide
  · decide

theorem delimits_of_spacing {char : Char} {rest : List Char} (spacing : isSpacing char = true) :
    Delimits (char :: rest) := by
  simp only [isSpacing, Bool.or_eq_true, decide_eq_true_eq] at spacing
  rcases spacing with ((rfl | rfl) | rfl) | rfl <;> exact ⟨by decide, by decide, by decide⟩

theorem delimits_blank {blank rest : List Char} (spacing : IsBlank blank)
    (delimited : Delimits rest) : Delimits (blank ++ rest) := by
  cases blank with
  | nil => exact delimited
  | cons char later => exact delimits_of_spacing (spacing char (by simp))

theorem take_while_literal {digits rest : List Char}
    (inside : ∀ char ∈ digits, isLiteralChar char = true) (delimited : Delimits rest) :
    (digits ++ rest).takeWhile isLiteralChar = digits ∧
      (digits ++ rest).dropWhile isLiteralChar = rest := by
  rw [List.takeWhile_append_of_pos inside, List.dropWhile_append_of_pos inside]
  cases rest with
  | nil => simp
  | cons char later => simp [delimited.1]

theorem take_while_name {name rest : List Char}
    (inside : ∀ char ∈ name, isNameChar char = true)
    (boundary : ∀ char ∈ rest.head?, isNameChar char = false) :
    (name ++ rest).takeWhile isNameChar = name ∧ (name ++ rest).dropWhile isNameChar = rest := by
  rw [List.takeWhile_append_of_pos inside, List.dropWhile_append_of_pos inside]
  cases rest with
  | nil => simp
  | cons char later => simp [boundary char (by simp)]

theorem step_literal {first : Char} {tail rest : List Char} (signAllowed : Bool)
    (spelled : IsLiteral (first :: tail)) (delimited : Delimits rest) :
    ∃ within, step signAllowed first (tail ++ rest) =
      .found (.literal (String.ofList (first :: tail)) false) false rest within := by
  have decimal := spelled.1
  have notSpacing := not_spacing_of_class decimal (by decide)
  have notMinus : first ≠ '-' := ne_of_class decimal (by decide)
  obtain ⟨taken, dropped⟩ := take_while_literal spelled.2 delimited
  simp [step, stepLiteral, notSpacing, notMinus, decimal, taken, dropped]

theorem step_signed_literal {digits rest : List Char} (spelled : IsLiteral digits)
    (delimited : Delimits rest) :
    ∃ within, step true '-' (digits ++ rest) =
      .found (.literal (String.ofList digits) true) false rest within := by
  cases digits with
  | nil => exact spelled.elim
  | cons first tail =>
      obtain ⟨taken, dropped⟩ := take_while_literal spelled.inside delimited
      have starts : startsDecimal (first :: tail ++ rest) = true := spelled.1
      have notSpacing : isSpacing '-' = false := by decide
      simp only [step, stepLiteral, notSpacing, starts, taken, dropped]
      simp
      omega

theorem step_name_start {first : Char} (rest : List Char) (signAllowed : Bool)
    (start : isNameStart first = true) :
    step signAllowed first rest = stepName first rest := by
  have notSpacing := not_spacing_of_class start (by decide)
  have notMinus : first ≠ '-' := ne_of_class start (by decide)
  have notClosing : first ≠ ')' := ne_of_class start (by decide)
  simp [step, notSpacing, notMinus, notClosing, not_decimal_of_name_start start, start]

theorem step_name {first : Char} {tail rest : List Char} (signAllowed : Bool)
    (spelled : IsName (first :: tail)) (delimited : Delimits rest) :
    ∃ within, step signAllowed first (tail ++ rest) =
      .found (.name (String.ofList (first :: tail))) false rest within := by
  have boundary : ∀ char ∈ rest.head?, isNameChar char = false := by
    intro char member
    cases rest with
    | nil => simp at member
    | cons head later =>
        obtain rfl : head = char := by simpa using member
        exact delimited.2.1
  obtain ⟨taken, dropped⟩ := take_while_name spelled.2 boundary
  rw [step_name_start _ _ spelled.1, stepName]
  simp only [taken]
  split
  · rename_i inner after
    rw [dropped] at after
    subst after
    exact absurd rfl delimited.2.2
  · simp [dropped]

/-- A name with its bracket right behind it is a call; balanced text up to a closing bracket is its
argument. -/
theorem step_call {first : Char} {tail argument : List Char} (signAllowed : Bool)
    (rest : List Char) (spelled : IsName (first :: tail)) (balanced : Bracket.Balanced argument) :
    ∃ within, step signAllowed first (tail ++ '(' :: (argument ++ ')' :: rest)) =
      .found (.call (String.ofList (first :: tail)) argument) false rest within := by
  have boundary : ∀ char ∈ ('(' :: (argument ++ ')' :: rest)).head?,
      isNameChar char = false := by
    intro char member
    obtain rfl : '(' = char := by simpa using member
    decide
  obtain ⟨taken, dropped⟩ := take_while_name spelled.2 boundary
  rw [step_name_start _ _ spelled.1, stepName]
  simp only [taken]
  split
  · rename_i inner after
    rw [dropped] at after
    obtain ⟨-, rfl⟩ := List.cons.inj after
    split
    · rename_i found later split
      rw [Bracket.split_at_closing_balanced balanced rest] at split
      obtain ⟨rfl, rfl⟩ := Prod.mk.inj (Option.some.inj split)
      simp
      omega
    · rename_i split
      rw [Bracket.split_at_closing_balanced balanced rest] at split
      cases split
  · rename_i notBracket
    exact absurd dropped (notBracket _)

theorem plain_of_operator {char : Char} {operator : Operator}
    (spelled : operatorOfChar? char = some operator) :
    isSpacing char = false ∧ isDecimal char = false ∧ char ≠ ')' ∧
      isNameStart char = false := by
  unfold operatorOfChar? at spelled
  split at spelled
  case h_9 => cases spelled
  all_goals exact ⟨by decide, by decide, by decide, by decide⟩

theorem sign_refused {char : Char} {signAllowed : Bool} {rest : List Char}
    (notSign : char = '-' → signAllowed = false ∨ startsDecimal rest = false) :
    (char = '-' && signAllowed && startsDecimal rest) = false := by
  by_cases minus : char = '-'
  · rcases notSign minus with refused | refused <;> simp [refused]
  · simp [minus]

/-- An operator character is an operator, unless it is a sign that may stand before a literal. -/
theorem step_operator {char : Char} {operator : Operator} {signAllowed : Bool} {rest : List Char}
    (spelled : operatorOfChar? char = some operator)
    (notSign : char = '-' → signAllowed = false ∨ startsDecimal rest = false) :
    ∃ within, step signAllowed char rest = .found (.operator operator) true rest within := by
  simp [step, plain_of_operator spelled, sign_refused notSign, spelled]

theorem step_close (signAllowed : Bool) (rest : List Char) :
    ∃ within, step signAllowed ')' rest = .found .close false rest within := by
  have notSpacing : isSpacing ')' = false := by decide
  have notDecimal : isDecimal ')' = false := by decide
  simp [step, notSpacing, notDecimal]

end RadixCalc.Scan
