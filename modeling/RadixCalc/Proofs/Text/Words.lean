import RadixCalc.Proofs.Text.Blank
import RadixCalc.Proofs.Text.LowerCase

/-!
Words of a text. Blanks at its ends are in none of them, and trimmed text with a
single word is that word. Lower-casing keeps every blank where it is, so text
that becomes a single word in lower case was a single word before.
-/

namespace RadixCalc.Text

def isSolid (char : Char) : Bool :=
  !isBlank char

variable {text word : List Char} {char : Char}

theorem words_blank (rest : List Char) (blank : isBlank char = true) :
    words (char :: rest) = words rest := by
  simp [words, wordsFrom, blank]

theorem words_from_filled {current : List Char} (filled : current ≠ []) (text : List Char) :
    wordsFrom current text =
      (current.reverse ++ text.takeWhile isSolid) :: words (text.dropWhile isSolid) := by
  induction text generalizing current with
  | nil => simp [wordsFrom, words, filled]
  | cons char rest induction =>
      cases blank : isBlank char with
      | true =>
          rw [List.takeWhile_cons_of_neg (by simp [isSolid, blank]),
            List.dropWhile_cons_of_neg (by simp [isSolid, blank]), words_blank rest blank]
          simp [wordsFrom, words, blank, filled]
      | false =>
          rw [List.takeWhile_cons_of_pos (by simp [isSolid, blank]),
            List.dropWhile_cons_of_pos (by simp [isSolid, blank])]
          simp [wordsFrom, blank, induction (List.cons_ne_nil char current)]

theorem words_solid (rest : List Char) (solid : isBlank char = false) :
    words (char :: rest) =
      (char :: rest).takeWhile isSolid :: words ((char :: rest).dropWhile isSolid) := by
  rw [List.takeWhile_cons_of_pos (by simp [isSolid, solid]),
    List.dropWhile_cons_of_pos (by simp [isSolid, solid])]
  simp [words, wordsFrom, solid, words_from_filled (List.cons_ne_nil char [])]

theorem blank_of_words_nil (wordless : words text = []) :
    ∀ char ∈ text, isBlank char = true := by
  induction text with
  | nil => simp
  | cons first rest induction =>
      cases blank : isBlank first with
      | false =>
          rw [words_solid rest blank] at wordless
          cases wordless
      | true =>
          rw [words_blank rest blank] at wordless
          intro char member
          rcases List.mem_cons.mp member with rfl | later
          · exact blank
          · exact induction wordless char later

theorem trim_blank (blank : ∀ char ∈ text, isBlank char = true) : trim text = [] := by
  rw [trim, trimStart, List.dropWhile_eq_nil_iff.mpr blank]
  rfl

theorem words_single (solid : ∀ char ∈ text, isBlank char = false) (filled : text ≠ []) :
    words text = [text] := by
  have all : ∀ char ∈ text, isSolid char = true := by
    intro char member
    simp [isSolid, solid char member]
  cases text with
  | nil => exact absurd rfl filled
  | cons first rest =>
      rw [words_solid rest (solid first (by simp)), List.takeWhile_eq_self_iff.mpr all,
        List.dropWhile_eq_nil_iff.mpr all]
      rfl

theorem words_from_append_blank {behind : List Char}
    (blank : ∀ char ∈ behind, isBlank char = true)
    (current text : List Char) : wordsFrom current (text ++ behind) = wordsFrom current text := by
  induction text generalizing current with
  | cons first rest induction =>
      simp only [List.cons_append, wordsFrom, induction]
  | nil =>
      induction behind generalizing current with
      | nil => rfl
      | cons first rest induction =>
          have wordless := induction (fun char later => blank char (by simp [later])) []
          rw [List.nil_append] at wordless ⊢
          cases current with
          | nil => simpa [wordsFrom, blank first (by simp)] using wordless
          | cons letter later => simp [wordsFrom, blank first (by simp), wordless]

theorem words_blank_append {before : List Char} (blank : ∀ char ∈ before, isBlank char = true)
    (text : List Char) : words (before ++ text) = words text := by
  induction before with
  | nil => rfl
  | cons first rest induction =>
      rw [List.cons_append, words_blank _ (blank first (by simp))]
      exact induction fun char later => blank char (by simp [later])

theorem words_trim (text : List Char) : words (trim text) = words text := by
  conv_rhs => rw [← leading_append_trim text]
  rw [words_blank_append (leading_blank text)]
  exact (words_from_append_blank (trailing_blank text) [] (trim text)).symm

theorem ends_of_trimmed (trimmed : trim text = text) :
    leading text = [] ∧ text.reverse.takeWhile isBlank = [] := by
  have parts := congrArg List.length (leading_append_trim text)
  rw [trimmed, List.length_append, List.length_append] at parts
  have begins : leading text = [] := List.eq_nil_of_length_eq_zero (by omega)
  have ends : trailing text = [] := List.eq_nil_of_length_eq_zero (by omega)
  have started : trimStart text = text := by
    have split := List.takeWhile_append_dropWhile (p := isBlank) (l := text)
    rwa [← leading, begins, List.nil_append] at split
  rw [trailing, started, List.reverse_eq_nil_iff] at ends
  exact ⟨begins, ends⟩

theorem eq_of_words_single (trimmed : trim text = text) (single : words text = [word]) :
    text = word := by
  obtain ⟨begins, ends⟩ := ends_of_trimmed trimmed
  cases text with
  | nil => cases single
  | cons first rest =>
      have solid : isBlank first = false := by
        by_contra blank
        rw [leading, List.takeWhile_cons_of_pos (by simpa using blank)] at begins
        cases begins
      rw [words_solid rest solid] at single
      obtain ⟨same, wordless⟩ := List.cons.inj single
      have split := List.takeWhile_append_dropWhile (p := isSolid) (l := first :: rest)
      rw [same] at split
      -- A blank behind the word would be the last character of the text.
      rcases List.eq_nil_or_concat ((first :: rest).dropWhile isSolid) with
          none | ⟨front, last, more⟩
      · rw [none, List.append_nil] at split
        exact split.symm
      · have blank := blank_of_words_nil wordless last (by simp [more])
        rw [← split, more, List.concat_eq_append, ← List.append_assoc,
          List.reverse_append, List.reverse_singleton, List.singleton_append,
          List.takeWhile_cons_of_pos blank] at ends
        cases ends

theorem blank_points : ∀ range ∈ blankRanges,
    ∀ point ∈ List.range' range.1 (range.2 + 1 - range.1),
    IsSmall (Char.ofNat point) := by
  decide +kernel

theorem small_of_blank (blank : isBlank char = true) : IsSmall char := by
  obtain ⟨range, member, low, high⟩ :=
    (CodePointRanges.covers_iff blankRanges char.toNat).mp blank
  have small := blank_points range member char.toNat (by
    rw [List.mem_range']
    exact ⟨char.toNat - range.1, by omega, by omega⟩)
  rwa [Char.ofNat_toNat] at small

theorem solid_of_lower_case (solid : ∀ char ∈ lowerCase text, isBlank char = false) :
    ∀ char ∈ text, isBlank char = false := by
  intro char member
  by_contra blank
  have small := small_of_blank (by simpa using blank)
  exact blank (solid char (mem_lower_case_from small member false))

end RadixCalc.Text
