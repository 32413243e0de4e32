import RadixCalc.Proofs.Sequence.Account

/-!
Lexemes at their places. The lexemes of a text stand one behind the other with
nothing but spacing between them, so what stands right before a literal is known:
a minus there is the sign of the literal or an operator of its own.
-/

namespace RadixCalc

/-- The operators that can be written. -/
def Operator.written : List Operator :=
  [.arithmetic .power, .arithmetic .times, .arithmetic .divide, .arithmetic .remainder,
    .arithmetic .plus, .arithmetic .minus, .group, .assign]

namespace Lexeme

/-- A sign stands before the digits of its literal and is none of them. -/
def signLength : Lexeme → Nat
  | .literal _ negative => negative.toNat
  | _ => 0

/-- Literals, names and operators are spelled as such. -/
def IsSpelled : Lexeme → Prop
  | .literal digits _ => Scan.IsLiteral digits.toList
  | .name word => Scan.IsName word.toList
  | .call word _ => Scan.IsName word.toList
  | .operator next => next ∈ Operator.written
  | .close => True

end Lexeme

namespace Scan

variable {signAllowed signNext : Bool} {char : Char} {text rest later : List Char} {lexeme : Lexeme}

theorem operator_written {operator : Operator} (spelled : operatorOfChar? char = some operator) :
    operator ∈ Operator.written := by
  unfold operatorOfChar? at spelled
  split at spelled <;> cases spelled <;> decide

example : Operator.written.map Operator.symbol = ["^", "*", "/", "%", "+", "-", "(", "="] := by
  decide

theorem Finds.is_spelled (finds : Finds signAllowed char rest lexeme signNext later) :
    lexeme.IsSpelled := by
  have literal : ∀ first : Char, isDecimal first = true → ∀ behind : List Char,
      IsLiteral (first :: behind.takeWhile isLiteralChar) := by
    intro first decimal behind
    exact ⟨decimal, List.all_eq_true.mp List.all_takeWhile⟩
  have name : isNameStart char = true → IsName (char :: rest.takeWhile isNameChar) := by
    intro start
    exact ⟨start, List.all_eq_true.mp List.all_takeWhile⟩
  cases finds with
  | signed minus allowed starts =>
      cases rest with
      | nil => cases starts
      | cons digit behind =>
          have decimal : isDecimal digit = true := starts
          rw [Lexeme.IsSpelled, String.toList_ofList,
            List.takeWhile_cons_of_pos (literal_char_of_decimal decimal)]
          exact literal digit decimal behind
  | literal decimal =>
      rw [Lexeme.IsSpelled, String.toList_ofList]
      exact literal char decimal rest
  | name start =>
      rw [Lexeme.IsSpelled, String.toList_ofList]
      exact name start
  | call start =>
      rw [Lexeme.IsSpelled, String.toList_ofList]
      exact name start
  | operator spelled => exact operator_written spelled
  | close => trivial

end Scan

namespace Lexeme

variable {lexeme : Lexeme}

/-- Only the operator is spelled with a minus at its end. -/
theorem minus_of_last (spelled : lexeme.IsSpelled) (last : lexeme.spelling.getLast? = some '-') :
    lexeme = .operator (.arithmetic .minus) := by
  have apart : ∀ {property : Char → Bool} {word : List Char},
      (∀ char ∈ word, property char = true) → property '-' = false →
      word.getLast? ≠ some '-' := by
    intro property word inside outside stands
    rw [inside '-' (List.mem_of_getLast? stands)] at outside
    cases outside
  cases lexeme with
  | literal digits negative =>
      have digit := apart (Scan.IsLiteral.inside spelled) (by decide)
      cases negative with
      | false => exact absurd last digit
      | true =>
          have filled := List.length_pos_iff.mp (Scan.IsLiteral.filled spelled)
          rw [spelling, if_pos rfl, List.getLast?_cons_of_ne_nil filled] at last
          exact absurd last digit
  | name word => exact absurd last (apart (Scan.IsName.inside spelled) (by decide))
  | call word argument =>
      rw [spelling, ← List.cons_append, ← List.append_assoc, List.getLast?_concat] at last
      cases last
  | operator next =>
      simp only [IsSpelled, Operator.written, List.mem_cons, List.not_mem_nil, or_false] at spelled
      rcases spelled with rfl | rfl | rfl | rfl | rfl | rfl | rfl | rfl
      case inr.inr.inr.inr.inr.inl => rfl
      all_goals exact absurd last (by decide)
  | close => exact absurd last (by decide)

theorem sign_length_lt (spelled : lexeme.IsSpelled) :
    lexeme.signLength < lexeme.spelling.length := by
  cases lexeme with
  | literal digits negative =>
      have filled := Scan.IsLiteral.filled spelled
      cases negative <;> simpa [signLength, spelling] using filled
  | name word => exact Scan.IsName.filled spelled
  | call word argument =>
      simp only [signLength, spelling, List.length_append, List.length_cons]
      omega
  | operator next =>
      simp only [IsSpelled, Operator.written, List.mem_cons, List.not_mem_nil, or_false] at spelled
      rcases spelled with rfl | rfl | rfl | rfl | rfl | rfl | rfl | rfl <;> decide
  | close => decide

end Lexeme

namespace Scan

variable {text rest : List Char} {char : Char} {lexeme : Lexeme}

/-- From an index on, lexemes stand at their places one behind the other, with nothing but spacing
between them. The place of a literal is that of its first digit. -/
inductive Laid (text : List Char) : Nat → List (Nat × Lexeme) → Prop where
  | done (index : Nat) : Laid text index []
  | spacing {index : Nat} {found : List (Nat × Lexeme)} {char : Char}
      (looked : text[index]? = some char) (blank : isSpacing char = true)
      (further : Laid text (index + 1) found) : Laid text index found
  | lexeme {index : Nat} {found : List (Nat × Lexeme)} {lexeme : Lexeme}
      (spelled : lexeme.IsSpelled) (stands : lexeme.spelling <+: text.drop index)
      (further : Laid text (index + lexeme.spelling.length) found) :
      Laid text index ((index + lexeme.signLength, lexeme) :: found)

/-- A minus stands right before a place and is no operator. -/
def SignBefore (text : List Char) (found : List (Nat × Lexeme)) (place : Nat) : Prop :=
  ∃ sign, place = sign + 1 ∧ text[sign]? = some '-' ∧
    (sign, Lexeme.operator (.arithmetic .minus)) ∉ found

/-- What has been found before an index at which the last lexeme or spacing ended. -/
structure Behind (text : List Char) (earlier : List (Nat × Lexeme)) (index : Nat) : Prop where
  before : ∀ entry ∈ earlier, entry.1 < index
  minus : ∀ sign, index = sign + 1 → text[sign]? = some '-' →
    (sign, Lexeme.operator (.arithmetic .minus)) ∈ earlier

section Places

variable {index place : Nat} {found earlier : List (Nat × Lexeme)}

theorem look_of_view (view : text.drop index = char :: rest) :
    text[index]? = some char ∧ index < text.length ∧ text.drop (index + 1) = rest := by
  have looked : text[index]? = some char := by
    rw [← Nat.add_zero index, ← List.getElem?_drop, view]
    rfl
  refine ⟨looked, (List.getElem?_eq_some_iff.mp looked).1, ?_⟩
  rw [← List.drop_drop, view]
  rfl

theorem view_of_look (looked : text[index]? = some char) :
    text.drop index = char :: text.drop (index + 1) := by
  obtain ⟨inside, same⟩ := List.getElem?_eq_some_iff.mp looked
  rw [List.drop_eq_getElem_cons inside, same]

theorem Laid.place_le (laid : Laid text index found) {entry : Nat × Lexeme}
    (member : entry ∈ found) : index ≤ entry.1 := by
  induction laid with
  | done index => cases member
  | spacing looked blank further induction => exact Nat.le_of_succ_le (induction member)
  | lexeme spelled stands further induction =>
      rcases List.mem_cons.mp member with rfl | behind
      · exact Nat.le_add_right _ _
      · exact Nat.le_trans (Nat.le_add_right _ _) (induction behind)

/-- The text has the characters of a lexeme at its place. -/
theorem Laid.stands (laid : Laid text index found) {entry : Nat × Lexeme}
    (member : entry ∈ found) :
    entry.2.spelling.drop entry.2.signLength <+: text.drop entry.1 := by
  induction laid with
  | done index => cases member
  | spacing looked blank further induction => exact induction member
  | @lexeme index found lexeme spelled stands further induction =>
      rcases List.mem_cons.mp member with rfl | behind
      · obtain ⟨later, view⟩ := stands
        rw [← List.drop_drop, ← view,
          List.drop_append_of_le_length (Nat.le_of_lt (Lexeme.sign_length_lt spelled))]
        exact List.prefix_append _ _
      · exact induction behind

theorem behind_start (text : List Char) : Behind text [] 0 := by
  refine ⟨by simp, ?_⟩
  intro sign past
  cases past

theorem Behind.spacing (behind : Behind text earlier index) (looked : text[index]? = some char)
    (blank : isSpacing char = true) : Behind text earlier (index + 1) := by
  refine ⟨fun entry member => Nat.lt_succ_of_lt (behind.before entry member), ?_⟩
  intro sign same minus
  obtain rfl := Nat.succ.inj same
  rw [looked] at minus
  cases minus
  cases blank

theorem Behind.lexeme_found (behind : Behind text earlier index) (spelled : lexeme.IsSpelled)
    (stands : lexeme.spelling <+: text.drop index) :
    Behind text (earlier ++ [(index + lexeme.signLength, lexeme)])
      (index + lexeme.spelling.length) := by
  have signed := Lexeme.sign_length_lt spelled
  constructor
  · intro entry member
    rcases List.mem_append.mp member with further | last
    · exact Nat.lt_of_lt_of_le (behind.before entry further) (Nat.le_add_right _ _)
    · obtain rfl := List.mem_singleton.mp last
      exact Nat.add_lt_add_left signed index
  · intro sign past minus
    obtain ⟨later, view⟩ := stands
    have place : sign = index + (lexeme.spelling.length - 1) := by omega
    have last : lexeme.spelling.getLast? = some '-' := by
      rw [place, ← List.getElem?_drop, ← view, List.getElem?_append_left (by omega)] at minus
      rwa [List.getLast?_eq_getElem?]
    obtain rfl := Lexeme.minus_of_last spelled last
    obtain rfl : sign = index := place
    simp [Lexeme.signLength]

/-- By induction on the layout: of the place where a literal stands only its own sign is left
open by what has been found before. -/
theorem Laid.signed {digits : String} {negative : Bool} (laid : Laid text index found)
    (behind : Behind text earlier index)
    (member : (place, Lexeme.literal digits negative) ∈ found) :
    negative = true ↔ SignBefore text (earlier ++ found) place := by
  induction laid generalizing earlier with
  | done index => cases member
  | spacing looked blank further induction => exact induction (behind.spacing looked blank) member
  | @lexeme index found lexeme spelled stands further induction =>
      rcases List.mem_cons.mp member with same | later
      · obtain ⟨rfl, rfl⟩ := Prod.mk.inj same
        cases negative with
        | false =>
            constructor
            · rintro ⟨⟩
            · rintro ⟨sign, past, minus, absent⟩
              exact absurd (List.mem_append_left _ (behind.minus sign past minus)) absent
        | true =>
            refine ⟨fun _ => ⟨index, rfl, ?_, ?_⟩, fun _ => rfl⟩
            · obtain ⟨later, view⟩ := stands
              exact (look_of_view view.symm).1
            · -- No lexeme stands at the sign: those before end earlier, those after begin later.
              intro inside
              rcases List.mem_append.mp inside with before | after
              · exact absurd (behind.before _ before) (Nat.lt_irrefl index)
              · rcases List.mem_cons.mp after with here | later
                · exact absurd (Prod.mk.inj here).2 (by simp)
                · have beyond := further.place_le later
                  have long := Lexeme.sign_length_lt spelled
                  omega
      · have further := induction (behind.lexeme_found spelled stands) later
        rwa [List.append_assoc, List.singleton_append] at further

end Places

end Scan

end RadixCalc
