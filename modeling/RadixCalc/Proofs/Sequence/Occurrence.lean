import RadixCalc.Proofs.Sequence.Everywhere
import RadixCalc.Proofs.Sequence.Level

/-!
The tokens that stand in a sequence, be it in an argument of a call at some
depth. A property holds everywhere in the sequence exactly if each of these
tokens has it.
-/

namespace RadixCalc

namespace Sequence

/-- The token stands in the sequence or in an argument in it, at some depth. -/
def HasToken (sequence : Sequence) (token : Token) : Prop :=
  ∃ part, sequence.HasPart part ∧ token ∈ part

variable {property : Token → Prop} {token : Token} {rest : Sequence}

theorem HasToken.behind (inside : HasToken rest token) (first : Token) :
    HasToken (first :: rest) token := by
  obtain ⟨part, found, member⟩ := inside
  cases found with
  | whole => exact ⟨_, .whole _, List.mem_cons_of_mem first member⟩
  | argument called passed deeper =>
      exact ⟨part, .argument (List.mem_cons_of_mem first called) passed deeper, member⟩

theorem HasToken.passed {name : String} {arguments : List Sequence} {argument : Sequence}
    (inside : HasToken argument token) (passed : argument ∈ arguments) (rest : Sequence) :
    HasToken (.call name arguments :: rest) token := by
  obtain ⟨part, found, member⟩ := inside
  exact ⟨part, .argument List.mem_cons_self passed found, member⟩

theorem has_token_head (first : Token) (rest : Sequence) : HasToken (first :: rest) first :=
  ⟨_, .whole _, List.mem_cons_self⟩

mutual

theorem everywhere_of_tokens (sequence : List Token)
    (holds : ∀ token, HasToken sequence token → property token) :
    Everywhere property sequence := by
  match sequence with
  | [] => trivial
  | first :: rest =>
      have tail := everywhere_of_tokens rest fun token inside => holds token (inside.behind first)
      have head := holds first (has_token_head first rest)
      refine ⟨?_, tail⟩
      match first with
      | .operand value => exact head
      | .operator operator => exact head
      | .call name arguments =>
          refine ⟨head, everywhere_each_of_tokens arguments ?_⟩
          intro argument passed token inside
          exact holds token (inside.passed passed rest)

theorem everywhere_each_of_tokens (arguments : List (List Token))
    (holds : ∀ argument ∈ arguments, ∀ token, HasToken argument token → property token) :
    EverywhereEach property arguments := by
  match arguments with
  | [] => trivial
  | argument :: rest =>
      exact ⟨everywhere_of_tokens argument (holds argument List.mem_cons_self),
        everywhere_each_of_tokens rest fun other member =>
          holds other (List.mem_cons_of_mem argument member)⟩

end

theorem everywhere_mem {sequence : Sequence} (holds : Everywhere property sequence)
    (member : token ∈ sequence) : token.Everywhere property := by
  induction sequence with
  | nil => cases member
  | cons first rest induction =>
      rcases List.mem_cons.mp member with rfl | further
      · exact holds.1
      · exact induction holds.2 further

theorem everywhere_each_mem {arguments : List Sequence} {argument : Sequence}
    (holds : EverywhereEach property arguments) (passed : argument ∈ arguments) :
    Everywhere property argument := by
  induction arguments with
  | nil => cases passed
  | cons first rest induction =>
      rcases List.mem_cons.mp passed with rfl | further
      · exact holds.1
      · exact induction holds.2 further

theorem everywhere_part {sequence part : Sequence} (inside : sequence.HasPart part)
    (holds : Everywhere property sequence) : Everywhere property part := by
  induction inside with
  | whole => exact holds
  | argument called passed _ induction =>
      exact induction (everywhere_each_mem (everywhere_mem holds called).2 passed)

theorem everywhere_iff {sequence : Sequence} :
    Everywhere property sequence ↔ ∀ token, sequence.HasToken token → property token := by
  constructor
  · rintro holds token ⟨part, inside, member⟩
    have found := everywhere_mem (everywhere_part inside holds) member
    cases token with
    | operand value => exact found
    | operator operator => exact found
    | call name arguments => exact found.1
  · exact everywhere_of_tokens sequence

end Sequence

end RadixCalc
