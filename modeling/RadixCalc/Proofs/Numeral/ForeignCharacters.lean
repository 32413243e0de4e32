import RadixCalc.Proofs.Numeral.Accepted
import RadixCalc.Proofs.Text.SmallForms

/-!
Characters that are neither digits nor points. Text with one of them is no number,
and this holds of every character in every base, but for the Kelvin sign: where
case is folded it is taken for the letter k, as its small form is that letter.
-/

namespace RadixCalc.Numeral

open Text (kelvinSign)

section Folding

variable {base : Int} {char : Char} {text : List Char}

theorem listed_ascii : ∀ char ∈ '.' :: alphabet, 0 < char.toNat ∧ char.toNat < 128 := by
  have ascii : ('.' :: alphabet).all (fun char => 0 < char.toNat && char.toNat < 128) = true := by
    decide +kernel
  simpa only [List.all_eq_true, Bool.and_eq_true, decide_eq_true_eq] using ascii

theorem capital_listed {char : Char} (low : 0x41 ≤ char.toNat) (high : char.toNat ≤ 0x5a) :
    char ∈ alphabet ∧ Text.lowerChar char ≠ '.' := by
  have letters : ∀ place < 26, Char.ofNat (0x41 + place) ∈ alphabet ∧
      Text.lowerChar (Char.ofNat (0x41 + place)) ≠ '.' := by
    decide +kernel
  have letter := letters (char.toNat - 0x41) (by omega)
  rwa [Nat.add_sub_cancel' low, Char.ofNat_toNat] at letter

/-- Only the Kelvin sign becomes a digit without being one. -/
theorem listed_of_lower_char (listed : Text.lowerChar char ∈ '.' :: alphabet) :
    char ∈ '.' :: alphabet ∨ char = kelvinSign := by
  obtain ⟨positive, ascii⟩ := listed_ascii _ listed
  rcases Text.of_ascii_small_form positive ascii with same | ⟨low, high⟩ | kelvin
  · exact Or.inl (same ▸ listed)
  · exact Or.inl (List.mem_cons_of_mem _ (capital_listed low high).1)
  · exact Or.inr kelvin

theorem point_of_lower_char (point : Text.lowerChar char = '.') : char = '.' := by
  have listed : Text.lowerChar char ∈ '.' :: alphabet := point ▸ List.mem_cons_self
  obtain ⟨positive, ascii⟩ := listed_ascii _ listed
  rcases Text.of_ascii_small_form positive ascii with same | ⟨low, high⟩ | rfl
  · exact same.symm.trans point
  · exact absurd point (capital_listed low high).2
  · rw [kelvinSign, Text.lower_char_kelvin] at point
    exact absurd point (by decide)

/-- Where folding case leaves nothing but digits and points, there was nothing else before, up to
Kelvin signs. -/
theorem listed_of_fold_case (listed : ∀ small ∈ foldCase base text, small ∈ '.' :: alphabet) :
    ∀ char ∈ text, char ∈ '.' :: alphabet ∨
      (base ≤ foldedBaseLimit ∧ char = kelvinSign) := by
  intro char member
  unfold foldCase at listed
  split at listed
  · rename_i folded
    obtain ⟨small, inside, rfl | mark⟩ := Text.mem_lower_case_from_of_mem member false
    · exact (listed_of_lower_char (listed _ inside)).imp_right fun kelvin => ⟨folded, kelvin⟩
    · have ascii := (listed_ascii small (listed small inside)).2
      simp only [List.mem_cons, List.not_mem_nil, or_false, Prod.mk.injEq] at mark
      rcases mark with ⟨-, rfl⟩ | ⟨-, rfl⟩ <;> exact absurd ascii (by decide)
  · exact Or.inl (listed char member)

theorem fold_case_pointless (pointless : '.' ∉ text) : '.' ∉ foldCase base text := by
  unfold foldCase
  split
  · intro member
    rcases Text.of_mem_lower_case_from member with ⟨char, inside, same⟩ | special
    · exact pointless (point_of_lower_char same.symm ▸ inside)
    · exact absurd special (by decide)
  · exact pointless

theorem fold_case_ne_nil (filled : text ≠ []) : foldCase base text ≠ [] := by
  unfold foldCase
  split
  · exact Text.lower_case_from_ne_nil filled false
  · exact filled

/-- The letter k in place of the Kelvin sign. -/
def plainChar (char : Char) : Char :=
  if char = kelvinSign then 'k' else char

theorem lower_char_plain (char : Char) :
    Text.lowerChar (plainChar char) = Text.lowerChar char := by
  have letter : Text.lowerChar 'k' = 'k' := by decide +kernel
  unfold plainChar
  split
  · rename_i kelvin
    rw [kelvin, kelvinSign, Text.lower_char_kelvin, letter]
  · rfl

theorem plain_of_listed (listed : char ∈ '.' :: alphabet ∨ char = kelvinSign) :
    (char ≠ 'Σ' ∧ char ≠ 'İ') ∧ plainChar char ∈ '.' :: alphabet := by
  rcases listed with listed | rfl
  · have apart : kelvinSign ∉ '.' :: alphabet := by decide
    refine ⟨listed_plain char listed, ?_⟩
    rwa [plainChar, if_neg (ne_of_mem_of_not_mem listed apart)]
  · decide

/-- Where case is folded, digits, points and Kelvin signs are read as their small forms. -/
theorem fold_case_kelvin (folded : base ≤ foldedBaseLimit)
    (listed : ∀ char ∈ text, char ∈ '.' :: alphabet ∨ char = kelvinSign) :
    foldCase base text = text.map Text.lowerChar := by
  rw [foldCase, if_pos folded]
  exact Text.lower_case_from_plain
    (fun char member => (plain_of_listed (listed char member)).1) false

theorem fold_case_plain (folded : base ≤ foldedBaseLimit)
    (listed : ∀ char ∈ text, char ∈ '.' :: alphabet ∨ char = kelvinSign) :
    foldCase base (text.map plainChar) = foldCase base text := by
  have plain : ∀ char ∈ text.map plainChar, char ∈ '.' :: alphabet ∨ char = kelvinSign := by
    intro char member
    obtain ⟨typed, inside, rfl⟩ := List.mem_map.mp member
    exact Or.inl (plain_of_listed (listed typed inside)).2
  rw [fold_case_kelvin folded plain, fold_case_kelvin folded listed, List.map_map]
  exact List.map_congr_left fun char _ => lower_char_plain char

end Folding

/-- Kelvin signs are the only foreign characters of the text, and the base has the letter k as a
digit in either case. -/
structure IsKelvinSpelled (radix : Radix) (text : List Char) : Prop where
  digit : 21 ≤ radix.value
  folded : radix.value ≤ 36
  listed : ∀ char ∈ text, char ∈ '.' :: alphabet ∨ char = kelvinSign

section Texts

variable {radix : Radix} {text : String} {char foreign : Char}

theorem listed_of_digit_in (read : ∃ digit, digitIn radix char = .ok digit) :
    char ∈ alphabet := by
  obtain ⟨value, -, found⟩ := digit_in_ok_iff.mp read
  by_contra missing
  rw [digitOf?, List.idxOf?_eq_none_iff.mpr missing] at found
  cases found

/-- Folding case leaves something that is neither a digit nor a point: a foreign character, or the
letter k of a Kelvin sign in a base without this digit. -/
theorem exists_outside (member : foreign ∈ text.toList) (unlisted : foreign ∉ '.' :: alphabet)
    (other : ¬ IsKelvinSpelled radix text.toList) :
    ∃ char ∈ foldCase radix.value text.toList, char ≠ '.' ∧
      ¬ ∃ digit, digitIn radix char = .ok digit := by
  by_cases listed : ∀ small ∈ foldCase radix.value text.toList, small ∈ '.' :: alphabet
  · have before := listed_of_fold_case listed
    obtain ⟨folded, rfl⟩ := (before foreign member).resolve_left unlisted
    have kelvin : ∀ char ∈ text.toList, char ∈ '.' :: alphabet ∨ char = kelvinSign :=
      fun char inside => (before char inside).imp_right And.right
    have letter : 'k' ∈ foldCase radix.value text.toList := by
      rw [fold_case_kelvin folded kelvin]
      exact List.mem_map.mpr ⟨kelvinSign, member, Text.lower_char_kelvin⟩
    refine ⟨'k', letter, by decide, fun read => other ⟨?_, ?_, kelvin⟩⟩
    · obtain ⟨value, below, found⟩ := digit_in_ok_iff.mp read
      have twenty : digitOf? 'k' = some 20 := by decide
      obtain rfl := Option.some.inj (twenty.symm.trans found)
      exact below
    · have limit : (radix.value : Int) ≤ 36 := folded
      omega
  · push Not at listed
    obtain ⟨small, inside, foreign⟩ := listed
    refine ⟨small, inside, fun point => foreign (point ▸ List.mem_cons_self), fun read => ?_⟩
    exact foreign (List.mem_cons_of_mem _ (listed_of_digit_in read))

theorem ne_of_foreign {other : String} (member : foreign ∈ text.toList)
    (without : foreign ∉ other.toList) : text ≠ other := by
  rintro rfl
  exact without member

/-- Kelvin signs are read as the letter k. -/
theorem IsKelvinSpelled.read_plain (spelled : IsKelvinSpelled radix text.toList)
    (member : kelvinSign ∈ text.toList) :
    read text radix.value = read (String.ofList (text.toList.map plainChar)) radix.value ∧
      isDigitText text radix.value =
        isDigitText (String.ofList (text.toList.map plainChar)) radix.value := by
  have limit : (radix.value : Int) ≤ foldedBaseLimit := by
    rw [foldedBaseLimit]
    exact_mod_cast spelled.folded
  have same := fold_case_plain limit spelled.listed
  have letter : 'k' ∈ (String.ofList (text.toList.map plainChar)).toList := by
    rw [String.toList_ofList]
    exact List.mem_map.mpr ⟨kelvinSign, member, by decide⟩
  constructor
  · rw [read_by_digits radix (ne_of_foreign member (by decide)) (ne_of_foreign member (by decide)),
      read_by_digits radix (ne_of_foreign letter (by decide)) (ne_of_foreign letter (by decide)),
      String.toList_ofList, same]
  · rw [isDigitText, isDigitText, String.toList_ofList, same]

/-- Text with a character that is neither a digit nor a point is not read as a number, with a fault
of conversion, and is no run of digits. Exempt are Kelvin signs in the bases from 21 to 36, where
they are the letter k. -/
theorem read_foreign (radix : Radix) (member : foreign ∈ text.toList)
    (unlisted : foreign ∉ '.' :: alphabet) :
    (IsKelvinSpelled radix text.toList →
      read text radix.value = read (String.ofList (text.toList.map plainChar)) radix.value ∧
        isDigitText text radix.value =
          isDigitText (String.ofList (text.toList.map plainChar)) radix.value) ∧
    (¬ IsKelvinSpelled radix text.toList →
      (∃ fault, read text radix.value = .error (.fault fault) ∧
        FaultKind.conversion ∈ fault.kind.lineage) ∧ isDigitText text radix.value = false) := by
  constructor
  · intro spelled
    obtain rfl := (spelled.listed foreign member).resolve_left unlisted
    exact spelled.read_plain member
  · intro other
    have letters : ∀ letter ∈ ['n', 'a', 'i', 'f'], foreign ≠ letter := by
      rintro letter named rfl
      have inside : ['n', 'a', 'i', 'f'] ⊆ '.' :: alphabet := by decide
      exact unlisted (inside named)
    simp only [List.forall_mem_cons] at letters
    obtain ⟨char, inside, unpointed, outside⟩ := exists_outside member unlisted other
    apply refused_of_folded inside unpointed outside
    · exact ne_of_foreign member (by simp [letters])
    · exact ne_of_foreign member (by simp [letters])

/-- The small form of the dotted capital I begins with a letter that is a digit, but goes on with a
mark that is none. -/
theorem read_foreign_dotted :
    'İ' ∈ "1İ".toList ∧ 'İ' ∉ '.' :: alphabet ∧
      (∃ fault, read "1İ" 36 = .error (.fault fault) ∧
        FaultKind.conversion ∈ fault.kind.lineage) ∧ isDigitText "1İ" 36 = false := by
  have member : 'İ' ∈ "1İ".toList := by decide
  have unlisted : 'İ' ∉ '.' :: alphabet := by decide
  have other : ¬ IsKelvinSpelled ⟨36, by decide, by decide⟩ "1İ".toList := by
    intro spelled
    exact absurd (spelled.listed 'İ' member) (by decide)
  exact ⟨member, unlisted,
    (read_foreign ⟨36, by decide, by decide⟩ member unlisted).2 other⟩

/-- A Kelvin sign by itself is read as twenty. -/
theorem kelvin_read :
    kelvinSign ∈ "\u212a".toList ∧ kelvinSign ∉ '.' :: alphabet ∧
      read "\u212a" 36 = .ok 20.0 ∧ isDigitText "\u212a" 36 = true := by
  decide +kernel

end Texts

end RadixCalc.Numeral
