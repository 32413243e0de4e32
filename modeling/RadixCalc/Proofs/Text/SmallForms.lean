import Mathlib
import RadixCalc.Proofs.Text.LowerCase

/-!
Where small forms lie. Among the characters outside ASCII only one has its small
form there, the Kelvin sign, which becomes the letter k. So lower-casing makes no
other text look like letters, digits or points.
-/

namespace RadixCalc.Text

def kelvinSign : Char := '\u212a'

/-- Capitals are A to Z or the Kelvin sign, or else their small forms are not in ASCII. -/
theorem small_forms_apart : ∀ run ∈ smallForms, (0x41 ≤ run.first ∧ run.last ≤ 0x5a) ∨
    (run.first = kelvinSign.toNat ∧ run.last = kelvinSign.toNat) ∨
      128 ≤ run.first + run.offset := by
  decide +kernel

theorem lower_char_cases (char : Char) :
    (∃ run ∈ smallForms, run.covers char.toNat = true ∧
      lowerChar char = Char.ofNat (char.toNat + run.offset).toNat) ∨ lowerChar char = char := by
  unfold lowerChar
  split
  · rename_i run found
    exact Or.inl ⟨run, List.mem_of_find?_eq_some found,
      by simpa using List.find?_some found, rfl⟩
  · exact Or.inr rfl

theorem of_ascii_small_form {char : Char} (positive : 0 < (lowerChar char).toNat)
    (ascii : (lowerChar char).toNat < 128) :
    lowerChar char = char ∨ (0x41 ≤ char.toNat ∧ char.toNat ≤ 0x5a) ∨
      char = kelvinSign := by
  rcases lower_char_cases char with ⟨run, listed, covered, small⟩ | same
  · right
    simp only [CaseRun.covers, Bool.and_eq_true, decide_eq_true_eq] at covered
    obtain ⟨⟨low, high⟩, -⟩ := covered
    rcases small_forms_apart run listed with ⟨first, last⟩ | ⟨first, last⟩ | outside
    · left
      omega
    · right
      apply Char.toNat_inj.mp
      omega
    · -- A code point that is no character would give the character zero.
      rw [small, Char.toNat_ofNat] at positive ascii
      split_ifs at positive ascii <;> omega
  · exact Or.inl same

end RadixCalc.Text
