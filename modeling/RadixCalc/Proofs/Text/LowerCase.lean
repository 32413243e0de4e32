import RadixCalc.Text.LowerCase

/-!
What lower-casing does to the characters of a text: which of them it leaves alone,
and where those of its result come from.
-/

namespace RadixCalc.Text

/-- A character that lower-casing leaves alone wherever it stands. -/
def IsSmall (char : Char) : Prop :=
  char ≠ 'Σ' ∧ char ≠ 'İ' ∧ lowerChar char = char

instance (char : Char) : Decidable (IsSmall char) :=
  inferInstanceAs (Decidable (_ ∧ _))

/-- Text without the two special capitals is lower-cased character by character. -/
theorem lower_case_from_plain {text : List Char}
    (plain : ∀ char ∈ text, char ≠ 'Σ' ∧ char ≠ 'İ') (afterLetter : Bool) :
    lowerCaseFrom afterLetter text = text.map lowerChar := by
  induction text generalizing afterLetter with
  | nil => rfl
  | cons char rest induction =>
      obtain ⟨notSigma, notDotted⟩ := plain char (by simp)
      have tail := induction (by intro other member; exact plain other (by simp [member]))
      simp [lowerCaseFrom, notSigma, notDotted, tail]

theorem lower_case_from_small {text : List Char} (small : ∀ char ∈ text, IsSmall char)
    (afterLetter : Bool) : lowerCaseFrom afterLetter text = text := by
  rw [lower_case_from_plain
    (fun char member => ⟨(small char member).1, (small char member).2.1⟩)]
  have same : ∀ char ∈ text, lowerChar char = id char := by
    intro char member
    exact (small char member).2.2
  rw [List.map_congr_left same, List.map_id]

theorem lower_case_from_length {text : List Char} (afterLetter : Bool)
    (plain : '\u0307' ∉ lowerCaseFrom afterLetter text) :
    (lowerCaseFrom afterLetter text).length = text.length := by
  induction text generalizing afterLetter with
  | nil => rfl
  | cons char rest induction =>
      rw [lowerCaseFrom, List.mem_append, not_or] at plain
      obtain ⟨first, others⟩ := plain
      have undotted : char ≠ 'İ' := by
        rintro rfl
        exact first (by simp)
      have tail := induction _ others
      rw [lowerCaseFrom, List.length_append, tail, if_neg undotted]
      split <;> simp [Nat.add_comm]

/-- Every character leaves its small form behind, or the mark that only a special capital turns
into. -/
theorem mem_lower_case_from_of_mem {char : Char} {text : List Char} (member : char ∈ text)
    (afterLetter : Bool) :
    ∃ small ∈ lowerCaseFrom afterLetter text,
      small = lowerChar char ∨ (char, small) ∈ [('Σ', 'ς'), ('İ', '\u0307')] := by
  induction text generalizing afterLetter with
  | nil => cases member
  | cons first rest induction =>
      rw [lowerCaseFrom]
      rcases List.mem_cons.mp member with rfl | later
      · by_cases isSigma : char = 'Σ'
        · have sigma : lowerChar 'Σ' = 'σ' := by decide +kernel
          subst isSigma
          refine ⟨_, List.mem_append_left _
            (by rw [if_pos rfl]; exact List.mem_singleton_self _), ?_⟩
          rw [sigma]
          split <;> simp
        by_cases isDotted : char = 'İ'
        · exact ⟨'\u0307', by simp [isDotted], by simp [isDotted]⟩
        · exact ⟨lowerChar char, by simp [isSigma, isDotted], Or.inl rfl⟩
      · obtain ⟨small, inside, same⟩ := induction later
          (if isPassedOver first then afterLetter else isCased first)
        exact ⟨small, List.mem_append_right _ inside, same⟩

theorem mem_lower_case_from {char : Char} {text : List Char} (small : IsSmall char)
    (member : char ∈ text) (afterLetter : Bool) : char ∈ lowerCaseFrom afterLetter text := by
  obtain ⟨notSigma, notDotted, same⟩ := small
  obtain ⟨form, inside, rfl | special⟩ := mem_lower_case_from_of_mem member afterLetter
  · rwa [same] at inside
  · simp [notSigma, notDotted] at special

/-- Nothing else comes of lower-casing than small forms of what was there and what the two special
capitals turn into. -/
theorem of_mem_lower_case_from {small : Char} {text : List Char} {afterLetter : Bool}
    (member : small ∈ lowerCaseFrom afterLetter text) :
    (∃ char ∈ text, small = lowerChar char) ∨ small ∈ ['ς', 'σ', 'i', '\u0307'] := by
  induction text generalizing afterLetter with
  | nil => cases member
  | cons first rest induction =>
      rw [lowerCaseFrom, List.mem_append] at member
      rcases member with here | later
      · split at here
        · right
          split at here <;> simp_all
        split at here
        · right
          simp_all
        · exact Or.inl ⟨first, List.mem_cons_self, List.mem_singleton.mp here⟩
      · rcases induction later with ⟨char, inside, same⟩ | special
        · exact Or.inl ⟨char, List.mem_cons_of_mem _ inside, same⟩
        · exact Or.inr special

theorem lower_case_from_ne_nil {text : List Char} (filled : text ≠ []) (afterLetter : Bool) :
    lowerCaseFrom afterLetter text ≠ [] := by
  obtain ⟨first, member⟩ := List.exists_mem_of_ne_nil text filled
  obtain ⟨small, inside, -⟩ := mem_lower_case_from_of_mem member afterLetter
  exact List.ne_nil_of_mem inside

/-- A zero at the start leaves the reading of what follows alone. -/
theorem lower_case_zero (text : List Char) : lowerCase ('0' :: text) = '0' :: lowerCase text := by
  have small : lowerChar '0' = '0' := by decide +kernel
  have other : isPassedOver '0' = false ∧ isCased '0' = false := by decide +kernel
  simp [lowerCase, lowerCaseFrom, small, other]

end RadixCalc.Text
