import Mathlib.Data.List.DropRight
import RadixCalc.Text.Blank

/-!
Trimming only takes characters away, and trimming again takes no more. What it
takes away is blank and stands at the ends of the text.
-/

namespace RadixCalc.Text

/-- The blanks that trimming takes away in front of a text. -/
def leading (text : List Char) : List Char :=
  text.takeWhile isBlank

/-- The blanks that trimming takes away behind a text. -/
def trailing (text : List Char) : List Char :=
  ((trimStart text).reverse.takeWhile isBlank).reverse

theorem trim_sublist (text : List Char) : (trim text).Sublist text := by
  have shorterStart : (trimStart text).Sublist text := List.dropWhile_sublist isBlank
  have shorterEnd : (trimEnd (trimStart text)).Sublist (trimStart text) := by
    have reversed := (List.dropWhile_sublist (l := (trimStart text).reverse) isBlank).reverse
    rwa [List.reverse_reverse] at reversed
  exact shorterEnd.trans shorterStart

theorem leading_append_trim (text : List Char) :
    leading text ++ (trim text ++ trailing text) = text := by
  rw [trim, trimEnd, trailing, ← List.reverse_append, List.takeWhile_append_dropWhile,
    List.reverse_reverse]
  exact List.takeWhile_append_dropWhile

theorem leading_blank (text : List Char) : ∀ char ∈ leading text, isBlank char = true :=
  List.all_eq_true.mp List.all_takeWhile

theorem trailing_blank (text : List Char) : ∀ char ∈ trailing text, isBlank char = true := by
  intro char member
  exact List.all_eq_true.mp List.all_takeWhile char (List.mem_reverse.mp member)

theorem trimmed_subset {text : String} : (trimmed text).toList ⊆ text.toList := by
  rw [trimmed, String.toList_ofList]
  exact (trim_sublist text.toList).subset

theorem trim_solid {text : List Char} (solid : ∀ char ∈ text, isBlank char = false) :
    trim text = text := by
  have kept : ∀ text : List Char, (∀ char ∈ text, isBlank char = false) →
      text.dropWhile isBlank = text := by
    intro text solid
    cases text with
    | nil => rfl
    | cons first rest => simp [solid first (by simp)]
  have reversed : ∀ char ∈ text.reverse, isBlank char = false := by
    intro char member
    exact solid char (List.mem_reverse.mp member)
  rw [trim, trimStart, kept text solid, trimEnd, kept text.reverse reversed, List.reverse_reverse]

theorem trim_trim (text : List Char) : trim (trim text) = trim text := by
  have front : trim text <+: trimStart text := List.rdropWhile_prefix isBlank (trimStart text)
  have started : trimStart (trim text) = trim text := by
    cases trimmed : trim text with
    | nil => rfl
    | cons first rest =>
        obtain ⟨behind, same⟩ := trimmed ▸ front
        have solid := List.head?_dropWhile_not isBlank text
        rw [← trimStart, ← same] at solid
        rw [trimStart, List.dropWhile_cons_of_neg (by simpa using solid)]
  rw [trim, started]
  exact List.rdropWhile_idempotent isBlank (trimStart text)

theorem trimmed_trimmed (text : String) : trimmed (trimmed text) = trimmed text := by
  rw [trimmed, trimmed, String.toList_ofList, trim_trim]

end RadixCalc.Text
