import RadixCalc.Proofs.Numeral.Readable
import RadixCalc.Proofs.Stopping

/-!
Exactly which text reads as a number. Once case is folded, every character has to
be a digit of the base, but for one point. A run of digits is recognised by the
same characters, so the two only differ where there is a point or nothing at all,
and at the spellings of values without digits.
-/

namespace RadixCalc.Numeral

variable {radix : Radix} {text : List Char}

section Sums

theorem digits_of_add_whole {weight total result : Float}
    (added : addWhole radix weight total text = .ok result) :
    ∀ char ∈ text, ∃ digit, digitIn radix char = .ok digit := by
  induction text generalizing weight total with
  | nil => simp
  | cons first rest induction =>
      obtain ⟨digit, found, later⟩ := bind_ok added
      exact List.forall_mem_cons.mpr ⟨⟨digit, found⟩, induction later⟩

theorem digits_of_add_fraction {weight total result : Float}
    (added : addFraction radix weight total text = .ok result) :
    ∀ char ∈ text, ∃ digit, digitIn radix char = .ok digit := by
  induction text generalizing weight total with
  | nil => simp
  | cons first rest induction =>
      obtain ⟨digit, found, later⟩ := bind_ok added
      exact List.forall_mem_cons.mpr ⟨⟨digit, found⟩, induction later⟩

/-- A character other than a point is in front of the first point or behind it. -/
theorem mem_whole_or_fraction {char : Char} (member : char ∈ text) (digit : char ≠ '.') :
    char ∈ text.takeWhile (· != '.') ∨ char ∈ (text.dropWhile (· != '.')).drop 1 := by
  rw [← List.takeWhile_append_dropWhile (p := (· != '.')) (l := text)] at member
  rcases List.mem_append.mp member with whole | rest
  · exact Or.inl whole
  · have pointed : '.' ∈ text := by
      by_contra pointless
      have none : text.dropWhile (· != '.') = [] := by
        refine List.dropWhile_eq_nil_iff.mpr fun other inside => ?_
        simpa using ne_of_mem_of_not_mem inside pointless
      rw [none] at rest
      cases rest
    obtain ⟨later, same⟩ := drop_to_point pointed
    rw [same] at rest ⊢
    exact Or.inr ((List.mem_cons.mp rest).resolve_left digit)

/-- Text is read by its digits exactly if it has no other characters than these and one point. -/
theorem read_digits_ok_iff :
    (∃ value, readDigits radix text = .ok value) ↔
      text.count '.' ≤ 1 ∧
        ∀ char ∈ text, char ≠ '.' → ∃ digit, digitIn radix char = .ok digit := by
  constructor
  · rintro ⟨value, read⟩
    rw [readDigits] at read
    split at read
    · cases read
    rename_i single
    refine ⟨by omega, fun char member digit => ?_⟩
    obtain ⟨total, whole, fraction⟩ := bind_ok read
    rcases mem_whole_or_fraction member digit with before | behind
    · exact digits_of_add_whole whole char (List.mem_reverse.mpr before)
    · exact digits_of_add_fraction fraction char behind
  · rintro ⟨single, digits⟩
    exact read_digits_reads single digits

end Sums

section Texts

variable {text : String}

/-- Text is read as a number exactly if it spells a value without digits, or if folding case leaves
nothing but digits of the base and at most one point. -/
theorem read_ok_iff :
    (∃ value, read text radix.value = .ok value) ↔
      text = "nan" ∨ text = "inf" ∨ (foldCase radix.value text.toList).count '.' ≤ 1 ∧
        ∀ char ∈ foldCase radix.value text.toList, char ≠ '.' →
          ∃ digit, digitIn radix char = .ok digit := by
  by_cases notNan : text = "nan"
  · exact iff_of_true ⟨_, if_pos notNan⟩ (Or.inl notNan)
  by_cases notInf : text = "inf"
  · exact iff_of_true ⟨_, (if_neg notNan).trans (if_pos notInf)⟩ (Or.inr (Or.inl notInf))
  simp only [read_by_digits radix notNan notInf, Stop.of_checked_ok, read_digits_ok_iff, notNan,
    notInf, false_or]

theorem digit_in_ok_iff {char : Char} :
    (∃ digit, digitIn radix char = .ok digit) ↔
      ∃ value < radix.value, digitOf? char = some value := by
  unfold digitIn
  cases digitOf? char with
  | none => simp
  | some value =>
      by_cases below : value < radix.value <;> simp [below]

/-- Text is a run of digits exactly if it is not empty and folding case leaves nothing but digits
of the base. -/
theorem is_digit_text_iff :
    isDigitText text radix.value = true ↔
      foldCase radix.value text.toList ≠ [] ∧
        ∀ char ∈ foldCase radix.value text.toList,
          ∃ digit, digitIn radix char = .ok digit := by
  simp only [isDigitText, Bool.and_eq_true, Bool.not_eq_true', List.isEmpty_eq_false_iff,
    List.all_eq_true, digit_in_ok_iff]
  refine and_congr_right fun _ => forall₂_congr fun char _ => ?_
  cases digitOf? char <;> simp

/-- Folding case turns a digit text into digits of the base. -/
theorem digit_text_folded (digits : isDigitText text radix.value = true) :
    ∀ char ∈ foldCase radix.value text.toList, ∃ digit, digitIn radix char = .ok digit :=
  (is_digit_text_iff.mp digits).2

theorem digit_text_misses (digits : isDigitText text radix.value = true) {char : Char}
    (unlisted : digitOf? char = none) : char ∉ foldCase radix.value text.toList := by
  intro member
  obtain ⟨digit, found⟩ := digit_text_folded digits char member
  rw [digitIn, unlisted] at found
  cases found

theorem digit_text_pointless (digits : isDigitText text radix.value = true) :
    '.' ∉ foldCase radix.value text.toList :=
  digit_text_misses digits (by decide +kernel)

theorem read_of_digit_text (digits : isDigitText text radix.value = true) :
    ∃ value, read text radix.value = .ok value := by
  refine read_ok_iff.mpr (Or.inr (Or.inr ⟨?_, fun char member _ => ?_⟩))
  · rw [List.count_eq_zero.mpr (digit_text_pointless digits)]
    exact Nat.zero_le 1
  · exact digit_text_folded digits char member

/-- What is not read as a number is refused with a fault of conversion. -/
theorem read_refused (unread : ¬ ∃ value, read text radix.value = .ok value) :
    ∃ fault, read text radix.value = .error (.fault fault) ∧
      FaultKind.conversion ∈ fault.kind.lineage := by
  have notNan : text ≠ "nan" := fun same => unread (read_ok_iff.mpr (Or.inl same))
  have notInf : text ≠ "inf" := fun same => unread (read_ok_iff.mpr (Or.inr (Or.inl same)))
  rw [read_by_digits radix notNan notInf] at unread ⊢
  cases ended : readDigits radix (foldCase radix.value text.toList) with
  | ok value => exact absurd ⟨value, Stop.of_checked_ok.mpr ended⟩ unread
  | error fault => exact ⟨fault, rfl, read_digits_fault ended⟩

/-- What is neither a digit nor a point once case is folded keeps text from being read. -/
theorem refused_of_folded {char : Char}
    (member : char ∈ foldCase radix.value text.toList) (unpointed : char ≠ '.')
    (outside : ¬ ∃ digit, digitIn radix char = .ok digit) (notNan : text ≠ "nan")
    (notInf : text ≠ "inf") :
    (∃ fault, read text radix.value = .error (.fault fault) ∧
      FaultKind.conversion ∈ fault.kind.lineage) ∧ isDigitText text radix.value = false := by
  constructor
  · apply read_refused
    rw [read_ok_iff]
    rintro (nan | inf | ⟨-, digits⟩)
    · exact notNan nan
    · exact notInf inf
    · exact outside (digits char member unpointed)
  · rw [Bool.eq_false_iff]
    exact fun digits => outside (digit_text_folded digits char member)

end Texts

end RadixCalc.Numeral
