import RadixCalc.Sequence.Shelf

/-!
What stands on a shelf. An entry is right if it holds what its text is read as
without a shelf. A shelf on which only right entries are put stays right, and an
entry stays on it until as many others have been put there as it can hold.
-/

namespace RadixCalc

variable {settings : Settings}

/-- The entry holds what plain reading gives for its text. -/
def ShelfEntry.IsRight (settings : Settings) (entry : ShelfEntry) : Prop :=
  Sequence.ofTextWithin settings entry.levels entry.text = .ok entry.sequence

namespace Shelf

def IsRight (settings : Settings) (shelf : Shelf) : Prop :=
  ∀ entry ∈ shelf.entries, entry.IsRight settings

/-- Puts entries one after another. -/
def putAll (room : Nat) (shelf : Shelf) (entries : List ShelfEntry) : Shelf :=
  entries.foldl (put room) shelf

variable {room : Nat} {shelf : Shelf} {levels : Nat} {text : List Char} {entry : ShelfEntry}

theorem put_all_append (first second : List ShelfEntry) :
    shelf.putAll room (first ++ second) = (shelf.putAll room first).putAll room second :=
  List.foldl_append

theorem holds_iff :
    holds levels text entry = true ↔ entry.levels = levels ∧ entry.text = text := by
  simp [holds]

theorem empty_right : empty.IsRight settings := by
  intro entry member
  cases member

theorem put_right (right : shelf.IsRight settings) (rightEntry : entry.IsRight settings) :
    (shelf.put room entry).IsRight settings := by
  intro other member
  rcases List.mem_cons.mp (List.mem_of_mem_take member) with rfl | below
  · exact rightEntry
  · exact right other (List.mem_filter.mp below).1

theorem put_all_right (right : shelf.IsRight settings) {entries : List ShelfEntry}
    (rightEntries : ∀ entry ∈ entries, entry.IsRight settings) :
    (shelf.putAll room entries).IsRight settings := by
  induction entries generalizing shelf with
  | nil => exact right
  | cons first rest induction =>
      apply induction (put_right right (rightEntries first (by simp)))
      intro entry member
      exact rightEntries entry (by simp [member])

theorem find_key (found : shelf.find? levels text = some entry) :
    entry ∈ shelf.entries ∧ entry.levels = levels ∧ entry.text = text :=
  ⟨List.mem_of_find?_eq_some found, holds_iff.mp (List.find?_some found)⟩

/-- What is found on a right shelf is what plain reading gives. -/
theorem find_right (right : shelf.IsRight settings)
    (found : shelf.find? levels text = some entry) :
    Sequence.ofTextWithin settings levels text = .ok entry.sequence := by
  obtain ⟨member, rfl, rfl⟩ := find_key found
  exact right entry member

theorem find_unread (right : shelf.IsRight settings) {fault : Fault}
    (unread : Sequence.ofTextWithin settings levels text = .error fault) :
    shelf.find? levels text = none := by
  cases found : shelf.find? levels text with
  | none => rfl
  | some entry =>
      rw [find_right right found] at unread
      cases unread

/-- One of the first `count` entries is kept under this key. -/
def HasAmong (shelf : Shelf) (count levels : Nat) (text : List Char) : Prop :=
  ∃ entry ∈ shelf.entries.take count, holds levels text entry = true

/-- An entry that is put on the shelf moves the others back by one place at most. -/
theorem has_among_put {count : Nat} (among : shelf.HasAmong count levels text)
    (inside : count < room) (entry : ShelfEntry) :
    (shelf.put room entry).HasAmong (count + 1) levels text := by
  let others := fun other => !holds entry.levels entry.text other
  obtain ⟨kept, member, under⟩ := among
  have front : (shelf.put room entry).entries.take (count + 1) =
      entry :: (shelf.entries.filter others).take count := by
    rw [put, List.take_take, Nat.min_eq_left inside, List.take_succ_cons]
  by_cases same : holds entry.levels entry.text kept = true
  · refine ⟨entry, by simp [front], ?_⟩
    rw [holds_iff] at same under ⊢
    exact ⟨same.1.symm.trans under.1, same.2.symm.trans under.2⟩
  · refine ⟨kept, ?_, under⟩
    have passes : kept ∈ (shelf.entries.take count).filter others := by
      simp [List.mem_filter, member, others, same]
    have short : ((shelf.entries.take count).filter others).length ≤ count :=
      Nat.le_trans (List.length_filter_le _ _) (List.length_take_le _ _)
    have split := List.filter_append (p := others) (shelf.entries.take count)
      (shelf.entries.drop count)
    rw [List.take_append_drop] at split
    rw [front, split, List.take_append, List.take_of_length_le short]
    exact List.mem_cons_of_mem _ (List.mem_append_left _ passes)

theorem has_among_put_all {count : Nat} (among : shelf.HasAmong count levels text)
    {entries : List ShelfEntry} (inside : count + entries.length ≤ room) :
    (shelf.putAll room entries).HasAmong (count + entries.length) levels text := by
  induction entries generalizing shelf count with
  | nil => exact among
  | cons first rest induction =>
      rw [List.length_cons] at inside
      have below : count < room := by omega
      have moved := has_among_put among below first
      have later := induction moved (by omega)
      rwa [Nat.add_right_comm, Nat.add_assoc] at later

/-- An entry is found under its key as long as fewer others come after it than the shelf holds. -/
theorem find_put_all (right : shelf.IsRight settings) (rightEntry : entry.IsRight settings)
    {later : List ShelfEntry} (rightLater : ∀ other ∈ later, other.IsRight settings)
    (inside : later.length < room) :
    ((shelf.put room entry).putAll room later).find? entry.levels entry.text = some entry := by
  have first : (shelf.put room entry).HasAmong 1 entry.levels entry.text := by
    refine ⟨entry, ?_, holds_iff.mpr ⟨rfl, rfl⟩⟩
    rw [put, List.take_take, Nat.min_eq_left (by omega)]
    exact List.mem_cons_self
  have bounded : 1 + later.length ≤ room := by omega
  obtain ⟨kept, member, under⟩ := has_among_put_all first bounded
  have present :
      (((shelf.put room entry).putAll room later).find? entry.levels entry.text).isSome := by
    rw [find?, List.find?_isSome]
    exact ⟨kept, List.mem_of_mem_take member, under⟩
  obtain ⟨found, same⟩ := Option.isSome_iff_exists.mp present
  -- It may have been put there again, but two right entries under one key are the same.
  have read := find_right (put_all_right (put_right right rightEntry) rightLater) same
  obtain ⟨-, sameLevels, sameText⟩ := find_key same
  rw [rightEntry] at read
  obtain ⟨levels, text, sequence⟩ := found
  obtain rfl : entry.sequence = sequence := Except.ok.inj read
  simp only at sameLevels sameText
  rw [same, sameLevels, sameText]

/-- Each entry that is put on a right shelf stays there until the shelf is full of later ones. -/
theorem find_among_put (right : shelf.IsRight settings) {earlier later : List ShelfEntry}
    (rightEntries : ∀ other ∈ earlier ++ entry :: later, other.IsRight settings)
    (inside : later.length < room) :
    (shelf.putAll room (earlier ++ entry :: later)).find? entry.levels entry.text = some entry := by
  have rightEarlier : (shelf.putAll room earlier).IsRight settings :=
    put_all_right right fun other member => rightEntries other (List.mem_append_left _ member)
  obtain ⟨rightEntry, rightLater⟩ :=
    List.forall_mem_cons.mp (List.forall_mem_append.mp rightEntries).2
  rw [put_all_append]
  exact find_put_all rightEarlier rightEntry rightLater inside

end Shelf

end RadixCalc
