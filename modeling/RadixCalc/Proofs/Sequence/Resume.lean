import RadixCalc.Proofs.Lexeme
import RadixCalc.Sequence.OfText

/-!
Reading one level in a single pass. Turning lexemes into items and arranging
the items are two passes over a level; here they are joined, so that a reading
can be taken up in the middle of the text, from the operators that wait there
and from whether a sign may come next.
-/

namespace RadixCalc.Sequence

/-- Reads the rest of a level under waiting operators. -/
def resume (readArgument : List Char → Except Fault Sequence) (waiting : List Operator)
    (signAllowed : Bool) (text : List Char) : Except Fault Sequence := do
  let scan := Scan.ofText signAllowed text
  let items ← readCalls readArgument scan.lexemes
  match scan.fault with
  | some fault => throw fault
  | none => pure (Item.arrangeUnder waiting items)

/-- Puts tokens in front of what the rest of a reading gives. -/
def emit (output : Sequence) (result : Except Fault Sequence) : Except Fault Sequence :=
  result.map (output ++ ·)

/-- What one lexeme sends to the output, and the operators that wait after it. -/
def place (readArgument : List Char → Except Fault Sequence) (waiting : List Operator) :
    Lexeme → Except Fault (Sequence × List Operator)
  | .literal digits negative => .ok ([.operand (.literal digits negative)], waiting)
  | .name name => .ok ([.operand (.symbol name)], waiting)
  | .call name argument => do
      let sequence ← readArgument argument
      pure ([.call name (argumentsOf sequence)], waiting)
  | .operator operator =>
      .ok ((waiting.takeWhile (Item.yields operator)).map .operator,
        operator :: waiting.dropWhile (Item.yields operator))
  | .close =>
      .ok ((waiting.takeWhile (· != .group)).map .operator,
        (waiting.dropWhile (· != .group)).drop 1)

variable {readArgument : List Char → Except Fault Sequence} {waiting : List Operator}
  {signAllowed : Bool}

@[simp]
theorem emit_ok (output sequence : Sequence) :
    emit output (.ok sequence) = .ok (output ++ sequence) :=
  rfl

@[simp]
theorem emit_error (output : Sequence) (fault : Fault) :
    emit output (.error fault) = .error fault :=
  rfl

@[simp]
theorem emit_nil (result : Except Fault Sequence) : emit [] result = result := by
  cases result <;> rfl

@[simp]
theorem emit_emit (first second : Sequence) (result : Except Fault Sequence) :
    emit first (emit second result) = emit (first ++ second) result := by
  cases result <;> simp

theorem of_text_within_succ (settings : Settings) (levels : Nat) (text : List Char) :
    ofTextWithin settings (levels + 1) text =
      resume (ofTextWithin settings levels) [] true text := rfl

@[simp]
theorem resume_nil : resume readArgument waiting signAllowed [] = .ok (waiting.map .operator) := by
  simp [resume, Scan.ofText, readCalls, Item.arrangeUnder]
  rfl

theorem resume_spacing {char : Char} (rest : List Char) (spacing : Scan.isSpacing char = true) :
    resume readArgument waiting signAllowed (char :: rest) =
      resume readArgument waiting signAllowed rest := by
  simp only [resume]
  rw [Scan.ofText]
  simp [Scan.step, spacing]

theorem resume_blank {blank : List Char} (rest : List Char) (spacing : Scan.IsBlank blank) :
    resume readArgument waiting signAllowed (blank ++ rest) =
      resume readArgument waiting signAllowed rest := by
  induction blank with
  | nil => rfl
  | cons char later induction =>
      have tail : Scan.IsBlank later := by
        intro other member
        exact spacing other (by simp [member])
      rw [List.cons_append, resume_spacing _ (spacing char (by simp)), induction tail]

theorem resume_found {char : Char} {rest later : List Char} {lexeme : Lexeme} {signNext : Bool}
    {within : later.length ≤ rest.length}
    (stepped : Scan.step signAllowed char rest = .found lexeme signNext later within) :
    resume readArgument waiting signAllowed (char :: rest) = (do
      let (output, next) ← place readArgument waiting lexeme
      emit output (resume readArgument next signNext later)) := by
  simp only [resume]
  rw [Scan.ofText]
  simp only [stepped, Scan.cons]
  obtain ⟨lexemes, fault⟩ := Scan.ofText signNext later
  cases lexeme with
  | call name argument =>
      simp only [readCalls, place]
      cases readArgument argument with
      | error problem => rfl
      | ok sequence => cases readCalls readArgument lexemes <;> cases fault <;> rfl
  | literal digits negative =>
      simp only [readCalls]
      cases readCalls readArgument lexemes <;> cases fault <;> rfl
  | name name =>
      simp only [readCalls]
      cases readCalls readArgument lexemes <;> cases fault <;> rfl
  | operator operator =>
      simp only [readCalls]
      cases readCalls readArgument lexemes <;> cases fault <;> rfl
  | close =>
      simp only [readCalls]
      cases readCalls readArgument lexemes <;> cases fault <;> rfl

theorem resume_literal {digits rest : List Char} (spelled : Scan.IsLiteral digits)
    (delimited : Scan.Delimits rest) :
    resume readArgument waiting signAllowed (digits ++ rest) =
      emit [.operand (.literal (String.ofList digits) false)]
        (resume readArgument waiting false rest) := by
  cases digits with
  | nil => exact spelled.elim
  | cons first tail =>
      obtain ⟨within, stepped⟩ := Scan.step_literal signAllowed spelled delimited
      rw [List.cons_append, resume_found stepped]
      rfl

theorem resume_signed_literal {digits rest : List Char} (spelled : Scan.IsLiteral digits)
    (delimited : Scan.Delimits rest) :
    resume readArgument waiting true ('-' :: (digits ++ rest)) =
      emit [.operand (.literal (String.ofList digits) true)]
        (resume readArgument waiting false rest) := by
  obtain ⟨within, stepped⟩ := Scan.step_signed_literal spelled delimited
  rw [resume_found stepped]
  rfl

theorem resume_name {name rest : List Char} (spelled : Scan.IsName name)
    (delimited : Scan.Delimits rest) :
    resume readArgument waiting signAllowed (name ++ rest) =
      emit [.operand (.symbol (String.ofList name))] (resume readArgument waiting false rest) := by
  cases name with
  | nil => exact spelled.elim
  | cons first tail =>
      obtain ⟨within, stepped⟩ := Scan.step_name signAllowed spelled delimited
      rw [List.cons_append, resume_found stepped]
      rfl

theorem resume_call {name argument : List Char} {sequence : Sequence} (waiting : List Operator)
    (signAllowed : Bool) (rest : List Char) (spelled : Scan.IsName name)
    (balanced : Bracket.Balanced argument)
    (read : readArgument argument = .ok sequence) :
    resume readArgument waiting signAllowed (name ++ '(' :: (argument ++ ')' :: rest)) =
      emit [.call (String.ofList name) (argumentsOf sequence)]
        (resume readArgument waiting false rest) := by
  cases name with
  | nil => exact spelled.elim
  | cons first tail =>
      obtain ⟨within, stepped⟩ := Scan.step_call signAllowed rest spelled balanced
      rw [List.cons_append, resume_found stepped]
      simp only [place, read]
      rfl

theorem resume_operator {char : Char} {operator : Operator} {rest : List Char}
    (spelled : Scan.operatorOfChar? char = some operator)
    (notSign : char = '-' → signAllowed = false ∨ Scan.startsDecimal rest = false) :
    resume readArgument waiting signAllowed (char :: rest) =
      emit ((waiting.takeWhile (Item.yields operator)).map .operator)
        (resume readArgument (operator :: waiting.dropWhile (Item.yields operator)) true rest) := by
  obtain ⟨within, stepped⟩ := Scan.step_operator spelled notSign
  rw [resume_found stepped]
  rfl

theorem resume_group (rest : List Char) :
    resume readArgument waiting signAllowed ('(' :: rest) =
      resume readArgument (.group :: waiting) true rest := by
  have notSign : '(' = '-' → signAllowed = false ∨ Scan.startsDecimal rest = false := by
    intro sign
    exact absurd sign (by decide)
  have spelled : Scan.operatorOfChar? '(' = some .group := rfl
  rw [resume_operator spelled notSign]
  cases waiting with
  | nil => exact emit_nil _
  | cons top below => exact emit_nil _

theorem resume_close (rest : List Char) :
    resume readArgument waiting signAllowed (')' :: rest) =
      emit ((waiting.takeWhile (· != .group)).map .operator)
        (resume readArgument ((waiting.dropWhile (· != .group)).drop 1) false rest) := by
  obtain ⟨within, stepped⟩ := Scan.step_close signAllowed rest
  rw [resume_found stepped]
  rfl

end RadixCalc.Sequence
