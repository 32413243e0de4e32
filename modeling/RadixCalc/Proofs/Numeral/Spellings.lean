import RadixCalc.Proofs.Binary64.Unpacking
import RadixCalc.Proofs.Numeral.WholeNumbers

/-!
Numbers that are written like values without digits. In a base that has the
letters of such a spelling as digits, it is what is written for one whole number,
and for the values that are cut down to it when there is no room for a fraction.
-/

namespace RadixCalc.Numeral

open Binary64

variable {radix : Radix}

section Whole

theorem whole_digits_eq (radix : Radix) (number : Nat) :
    wholeDigits radix number [] = (Nat.digits radix.value number).reverse.map digitChar := by
  induction number using Nat.strongRecOn with
  | ind number induction =>
      rcases Nat.eq_zero_or_pos number with rfl | positive
      · rw [whole_digits_zero, Nat.digits_zero]
        rfl
      · rw [whole_digits_step radix positive, Nat.digits_def' radix.two_le positive,
          induction _ (Nat.div_lt_self positive radix.two_le), List.reverse_cons, List.map_append]
        rfl

theorem digits_of_chars {digits : List Nat} (listed : ∀ digit ∈ digits, digit < 62) :
    (digits.map digitChar).filterMap digitOf? = digits := by
  have back : ∀ digit ∈ digits, (digitOf? ∘ digitChar) digit = some digit :=
    fun digit member => digit_of_digit_char digit (listed digit member)
  rw [List.filterMap_map, List.filterMap_congr back, List.filterMap_some]

theorem map_digit_char_inj {first second : List Nat} (firstListed : ∀ digit ∈ first, digit < 62)
    (secondListed : ∀ digit ∈ second, digit < 62)
    (same : first.map digitChar = second.map digitChar) : first = second := by
  rw [← digits_of_chars firstListed, same, digits_of_chars secondListed]

theorem digits_listed (radix : Radix) (number : Nat) :
    ∀ digit ∈ (Nat.digits radix.value number).reverse, digit < 62 := by
  intro digit member
  have below := Nat.digits_lt_base radix.two_le (List.mem_reverse.mp member)
  have limit := radix.le_max
  omega

/-- Digits, the lowest first, that are the text of a number: none of them is missing in the base,
and the highest is not zero. -/
structure IsSpelling (spelling : List Nat) : Prop where
  listed : ∀ digit ∈ spelling, digit < 62
  filled : spelling ≠ []
  leads : spelling.getLast filled ≠ 0

theorem whole_text_spelled_iff {spelling : List Nat} (spells : IsSpelling spelling)
    (radix : Radix) (number : Nat) :
    wholeText radix number = spelling.reverse.map digitChar ↔
      (∀ digit ∈ spelling, digit < radix.value) ∧
        number = Nat.ofDigits radix.value spelling := by
  have lastDigit : ∀ below : ∀ digit ∈ spelling, digit < radix.value,
      Nat.digits radix.value (Nat.ofDigits radix.value spelling) = spelling := fun below =>
    Nat.digits_ofDigits radix.value radix.two_le spelling below (fun _ => spells.leads)
  rcases whole_text_cases radix number with ⟨rfl, same⟩ | ⟨positive, same⟩
  · -- A single zero is no such spelling, since its highest digit is zero.
    rw [same]
    constructor
    · intro zero
      have single : [0] = spelling.reverse := by
        refine map_digit_char_inj (by simp) ?_ zero
        intro digit member
        exact spells.listed digit (List.mem_reverse.mp member)
      obtain rfl : spelling = [0] := by rw [← List.reverse_reverse spelling, ← single]; rfl
      exact absurd rfl spells.leads
    · rintro ⟨below, nothing⟩
      have none := lastDigit below
      rw [← nothing, Nat.digits_zero] at none
      exact absurd none.symm spells.filled
  · rw [same, whole_digits_eq]
    constructor
    · intro written
      have digits : (Nat.digits radix.value number).reverse = spelling.reverse := by
        refine map_digit_char_inj (digits_listed radix number) ?_ written
        intro digit member
        exact spells.listed digit (List.mem_reverse.mp member)
      obtain rfl := List.reverse_inj.mp digits
      exact ⟨fun digit member => Nat.digits_lt_base radix.two_le member,
        (Nat.ofDigits_digits radix.value number).symm⟩
    · rintro ⟨below, rfl⟩
      rw [lastDigit below]

end Whole

section Values

variable {value : Float} {number : ℚ}

theorem fraction_digits_nil_iff (radix : Radix) (cap : Nat) (exactly : IsExactly value number) :
    fractionDigits radix cap value = [] ↔ cap = 0 ∨ number = 0 := by
  constructor
  · intro empty
    cases cap with
    | zero => exact Or.inl rfl
    | succ cap =>
        rw [fractionDigits] at empty
        split at empty
        · rename_i nothing
          exact Or.inr (exactly.zero_of_beq nothing)
        · cases empty
  · rintro (rfl | rfl)
    · rfl
    · rw [exactly.unique IsExactly.zero]
      exact fraction_digits_zero radix cap

/-- The text of a value is that of a whole number if nothing of its fraction is written. -/
theorem magnitude_text_spelled_iff {spelling : List Nat} (spells : IsSpelling spelling)
    (radix : Radix) (cap : Nat) (exactly : IsExactly value number) :
    magnitudeText radix cap value = spelling.reverse.map digitChar ↔
      (∀ digit ∈ spelling, digit < radix.value) ∧
        ⌊number⌋₊ = Nat.ofDigits radix.value spelling ∧
          (cap = 0 ∨ number = Nat.ofDigits radix.value spelling) := by
  have fraction := fraction_digits_nil_iff radix cap exactly.fraction
  rw [sub_eq_zero] at fraction
  have kept : ∀ {whole : Nat}, ⌊number⌋₊ = whole ∧ (cap = 0 ∨ number = whole) ↔
      ⌊number⌋₊ = whole ∧ (cap = 0 ∨ number = ⌊number⌋₊) :=
    and_congr_right fun same => by rw [same]
  rw [kept, ← fraction, ← and_assoc, ← whole_text_spelled_iff spells, magnitudeText,
    exactly.whole_part]
  cases digits : fractionDigits radix cap (value - Float.ofNat ⌊number⌋₊) with
  | nil => simp
  | cons first rest =>
      simp only [reduceCtorEq, and_false, iff_false]
      intro written
      have pointed : '.' ∈ spelling.reverse.map digitChar := by
        rw [← written]
        simp
      obtain ⟨digit, member, point⟩ := List.mem_map.mp pointed
      exact digit_char_not_point digit (spells.listed digit (List.mem_reverse.mp member)) point

/-- The value is written as this whole number: it has no fraction, or there is no room for one. -/
def IsCutTo (cap : Int) (value : Float) (whole : Nat) : Prop :=
  value.isFinite = true ∧ ¬ value < 0.0 ∧ ⌊numberOf value⌋₊ = whole ∧
    (cap ≤ 0 ∨ numberOf value = whole)

theorem not_cut_to {value : Float} (other : value.isFinite = false) {cap : Int} {whole : Nat} :
    ¬ IsCutTo cap value whole := by
  rintro ⟨finite, -⟩
  rw [other] at finite
  cases finite

/-- Which finite values are written like a value without digits. -/
theorem write_spelled_iff {spelling : List Nat} (spells : IsSpelling spelling) (radix : Radix)
    (cap : Int) (finite : value.isFinite = true) :
    write value radix.value cap = .ok (String.ofList (spelling.reverse.map digitChar)) ↔
      (∀ digit ∈ spelling, digit < radix.value) ∧
        IsCutTo cap value (Nat.ofDigits radix.value spelling) := by
  have capped : cap.toNat = 0 ↔ cap ≤ 0 := Int.toNat_eq_zero
  simp only [IsCutTo, finite, true_and]
  obtain ⟨notNan, notInf⟩ := number_of_finite finite
  rcases exactly_cases notNan notInf with ⟨number, exactly⟩ | rfl | ⟨below, -⟩
  · rw [write_exactly radix cap exactly, Except.ok.injEq, String.ofList_inj,
      magnitude_text_spelled_iff spells radix _ exactly, exactly.number_of, capped]
    simp only [exactly.not_negative, not_false_iff, true_and]
  · have nonneg : ¬ -zeroValue < 0.0 := by decide +kernel
    have nothing : numberOf (-zeroValue) = 0 := by decide +kernel
    rw [write_magnitude radix cap notNan notInf nonneg, magnitude_text_negative_zero,
      Except.ok.injEq, String.ofList_inj, whole_text_spelled_iff spells, nothing, Nat.floor_zero]
    simp only [nonneg, not_false_iff, true_and]
    exact and_congr_right fun _ => (and_iff_left_of_imp fun zero => Or.inr (by
      rw [← zero, Nat.cast_zero])).symm
  · rw [write_negative radix cap notNan notInf below, Except.ok.injEq, String.ofList_inj]
    simp only [below, not_true, false_and, and_false, iff_false]
    intro written
    have signed : '-' ∈ spelling.reverse.map digitChar := by
      rw [← written]
      exact List.mem_cons_self
    obtain ⟨digit, member, sign⟩ := List.mem_map.mp signed
    exact digit_char_not_sign digit (spells.listed digit (List.mem_reverse.mp member)) sign

end Values

end RadixCalc.Numeral
