import RadixCalc.Proofs.Shelf
import RadixCalc.Proofs.Stopping

/-!
Reading with a shelf gives what plain reading gives, whatever stands on the
shelf, as long as it is right. A reading does nothing to the shelf but put right
entries on it: those that it finds there, and those that it reads anew. Text
that cannot be read is not among them, but what could be read inside it is.
-/

namespace RadixCalc

/-- What the journal notes when an entry has been read anew. -/
def ShelfEntry.lexed (entry : ShelfEntry) : Event :=
  .lexed (String.ofList (Text.trimEnd entry.text)) entry.sequence.length

namespace Sequence

variable {settings : Settings} {levels : Nat} {text : List Char}

/-- The arguments that are come to when calls are read in order: all calls before them can be
read. -/
inductive Reached (readArgument : List Char → Except Fault Sequence) :
    List Lexeme → List Char → Prop where
  | here {name : String} {argument : List Char} {rest : List Lexeme} :
      Reached readArgument (.call name argument :: rest) argument
  | past {lexeme : Lexeme} {rest : List Lexeme} {argument : List Char}
      (read : ∀ name inner, lexeme = .call name inner →
        ∃ sequence, readArgument inner = .ok sequence)
      (further : Reached readArgument rest argument) :
      Reached readArgument (lexeme :: rest) argument

/-- What reading a text in vain leaves: entries for the arguments that could be read, in the text
or in the argument of it that could not. -/
inductive Leaves (settings : Settings) : Nat → List Char → ShelfEntry → Prop where
  | read {levels : Nat} {text argument : List Char} {sequence : Sequence}
      (reached : Reached (ofTextWithin settings levels) (Scan.ofText true text).lexemes argument)
      (read : ofTextWithin settings levels argument = .ok sequence) :
      Leaves settings (levels + 1) text { levels, text := argument, sequence }
  | within {levels : Nat} {text argument : List Char} {fault : Fault} {entry : ShelfEntry}
      (reached : Reached (ofTextWithin settings levels) (Scan.ofText true text).lexemes argument)
      (unread : ofTextWithin settings levels argument = .error fault)
      (inside : Leaves settings levels argument entry) : Leaves settings (levels + 1) text entry

/-- A reading ends as the plain one does. All that it does to the shelf is to put these entries on
it, which are right, and what it notes in the journal are some of them. -/
structure Follows {α : Type} (settings : Settings) (reading : ShelvedReading α)
    (desk : ReadingDesk) (plain : Except Fault α) (puts : List ShelfEntry) : Prop where
  ended : (reading.run desk).1 = plain
  shelved : (reading.run desk).2.shelf = desk.shelf.putAll (room settings) puts
  right : ∀ entry ∈ puts, entry.IsRight settings
  noted : ∃ fresh : List ShelfEntry, fresh.Sublist puts ∧
    (reading.run desk).2.journal = (fresh.map ShelfEntry.lexed).reverse ++ desk.journal

namespace Follows

variable {α β : Type} {reading : ShelvedReading α} {next : α → ShelvedReading β}
  {desk : ReadingDesk} {puts more : List ShelfEntry} {entry : ShelfEntry}

theorem pure (value : α) : Follows settings (Pure.pure value) desk (.ok value) [] :=
  ⟨rfl, rfl, by simp, [], List.nil_sublist _, rfl⟩

theorem stopped (fault : Fault) :
    Follows settings (throw fault : ShelvedReading α) desk (.error fault) [] :=
  ⟨rfl, rfl, by simp, [], List.nil_sublist _, rfl⟩

theorem looked (desk : ReadingDesk) :
    Follows settings (get : ShelvedReading ReadingDesk) desk (.ok desk) [] :=
  ⟨rfl, rfl, by simp, [], List.nil_sublist _, rfl⟩

/-- An entry that was found is put on the shelf again. -/
theorem found (right : entry.IsRight settings) :
    Follows settings (do keep settings entry; Pure.pure entry.sequence) desk
      (.ok entry.sequence) [entry] :=
  ⟨rfl, rfl, by simpa using right, [], List.nil_sublist _, rfl⟩

theorem anew (right : entry.IsRight settings) :
    Follows settings (do noteLexed entry; keep settings entry; Pure.pure entry.sequence) desk
      (.ok entry.sequence) [entry] :=
  ⟨rfl, rfl, by simpa using right, [entry], List.Sublist.refl _, rfl⟩

theorem bind_stopped {fault : Fault} (first : Follows settings reading desk (.error fault) puts) :
    Follows settings (reading >>= next) desk (.error fault) puts := by
  obtain ⟨ended, shelved, right, noted⟩ := first
  have ran : (reading >>= next).run desk = (.error fault, (reading.run desk).2) := by
    have split := run_bind reading next desk
    cases both : reading.run desk with
    | mk ending after =>
        rw [both] at ended split
        simp only at ended
        rwa [ended] at split
  exact ⟨by rw [ran], by rw [ran, shelved], right, by rwa [ran]⟩

theorem bind {value : α} {plain : Except Fault β}
    (first : Follows settings reading desk (.ok value) puts)
    (rest : Follows settings (next value) (reading.run desk).2 plain more) :
    Follows settings (reading >>= next) desk plain (puts ++ more) := by
  obtain ⟨ended, shelved, right, fresh, among, noted⟩ := first
  obtain ⟨endedLater, shelvedLater, rightLater, freshLater, amongLater, notedLater⟩ := rest
  have ran : (reading >>= next).run desk = (next value).run (reading.run desk).2 := by
    have split := run_bind reading next desk
    cases both : reading.run desk with
    | mk ending after =>
        rw [both] at ended split
        simp only at ended
        rwa [ended] at split
  refine ⟨by rw [ran, endedLater], ?_, ?_, fresh ++ freshLater, among.append amongLater, ?_⟩
  · rw [ran, shelvedLater, shelved, Shelf.put_all_append]
  · intro entry member
    rcases List.mem_append.mp member with early | late
    · exact right entry early
    · exact rightLater entry late
  · rw [ran, notedLater, noted, List.map_append, List.reverse_append, List.append_assoc]

theorem map {plain : Except Fault α} (follows : Follows settings reading desk plain puts)
    (shape : α → β) :
    Follows settings (do let value ← reading; Pure.pure (shape value)) desk
      (do let value ← plain; Pure.pure (shape value)) puts := by
  cases plain with
  | error fault => exact follows.bind_stopped
  | ok value =>
      rw [← List.append_nil puts]
      exact follows.bind (pure (shape value))

end Follows

/-- The entries hold the text if it can be read, and else what reading it leaves. -/
structure Gathers (settings : Settings) (levels : Nat) (text : List Char)
    (puts : List ShelfEntry) : Prop where
  whole : ∀ sequence, ofTextWithin settings levels text = .ok sequence →
    { levels, text, sequence } ∈ puts
  parts : ∀ fault, ofTextWithin settings levels text = .error fault →
    ∀ entry, Leaves settings levels text entry → entry ∈ puts

theorem Gathers.mono {puts more : List ShelfEntry} (gathers : Gathers settings levels text puts)
    (subset : puts ⊆ more) : Gathers settings levels text more where
  whole sequence read := subset (gathers.whole sequence read)
  parts fault unread entry leaves := subset (gathers.parts fault unread entry leaves)

theorem Gathers.of_read {sequence : Sequence} {puts : List ShelfEntry}
    (read : ofTextWithin settings levels text = .ok sequence)
    (kept : { levels, text, sequence } ∈ puts) : Gathers settings levels text puts where
  whole other again := by
    rw [read] at again
    cases again
    exact kept
  parts fault unread := by
    rw [read] at unread
    cases unread

theorem Gathers.of_unread {fault : Fault} {puts : List ShelfEntry}
    (unread : ofTextWithin settings levels text = .error fault)
    (kept : ∀ entry, Leaves settings levels text entry → entry ∈ puts) :
    Gathers settings levels text puts where
  whole sequence read := by
    rw [unread] at read
    cases read
  parts _ _ := kept

/-- From any right shelf a text is read as without a shelf, and what there is to keep is kept. -/
def Recalls (settings : Settings) (levels : Nat) (text : List Char) : Prop :=
  ∀ desk : ReadingDesk, desk.shelf.IsRight settings → ∃ puts,
    Follows settings (recallWithin settings levels text) desk (ofTextWithin settings levels text)
      puts ∧ Gathers settings levels text puts

/-- From this desk the calls among lexemes are read as without a shelf, and what there is to keep of
their arguments is kept. -/
def RecallsCalls (settings : Settings) (levels : Nat) (lexemes : List Lexeme)
    (desk : ReadingDesk) : Prop :=
  ∃ puts, Follows settings (readCalls (recallWithin settings levels) lexemes) desk
    (readCalls (ofTextWithin settings levels) lexemes) puts ∧
    ∀ argument, Reached (ofTextWithin settings levels) lexemes argument →
      Gathers settings levels argument puts

section Calls

variable {name : String} {argument : List Char} {rest : List Lexeme} {desk : ReadingDesk}
  {puts : List ShelfEntry}

/-- Behind an argument that cannot be read nothing is reached. -/
theorem recalls_call_stopped {fault : Fault}
    (unread : ofTextWithin settings levels argument = .error fault)
    (follows : Follows settings (recallWithin settings levels argument) desk (.error fault) puts)
    (gathers : Gathers settings levels argument puts) :
    RecallsCalls settings levels (.call name argument :: rest) desk := by
  refine ⟨puts, ?_, ?_⟩
  · rw [readCalls, readCalls, unread]
    exact follows.bind_stopped
  · intro other reached
    cases reached with
    | here => exact gathers
    | past readBefore _ =>
        obtain ⟨sequence, read⟩ := readBefore name argument rfl
        rw [unread] at read
        cases read

theorem recalls_call_read {sequence : Sequence}
    (read : ofTextWithin settings levels argument = .ok sequence)
    (follows : Follows settings (recallWithin settings levels argument) desk (.ok sequence) puts)
    (gathers : Gathers settings levels argument puts)
    (later : RecallsCalls settings levels rest
      ((recallWithin settings levels argument).run desk).2) :
    RecallsCalls settings levels (.call name argument :: rest) desk := by
  obtain ⟨more, followsRest, gathersRest⟩ := later
  refine ⟨puts ++ more, ?_, ?_⟩
  · rw [readCalls, readCalls, read]
    exact follows.bind (followsRest.map _)
  · intro other reached
    cases reached with
    | here => exact gathers.mono (List.subset_append_left _ _)
    | past _ further => exact (gathersRest other further).mono (List.subset_append_right _ _)

theorem Follows.right_after {plain : Except Fault Sequence}
    (follows : Follows settings (recallWithin settings levels argument) desk plain puts)
    (right : desk.shelf.IsRight settings) :
    ((recallWithin settings levels argument).run desk).2.shelf.IsRight settings := by
  rw [follows.shelved]
  exact Shelf.put_all_right right follows.right

end Calls

theorem recall_calls (recalls : ∀ argument, Recalls settings levels argument)
    (lexemes : List Lexeme) (desk : ReadingDesk) (right : desk.shelf.IsRight settings) :
    RecallsCalls settings levels lexemes desk := by
  induction lexemes generalizing desk with
  | nil =>
      refine ⟨[], Follows.pure [], ?_⟩
      intro argument reached
      cases reached
  | cons lexeme rest induction =>
      -- A lexeme that is no call has nothing to read and only adds one item.
      have uncalled : ∀ item : Item, (∀ name inner, lexeme ≠ .call name inner) → ∃ puts,
          Follows settings (do
            let items ← readCalls (recallWithin settings levels) rest
            pure (item :: items)) desk (do
            let items ← readCalls (ofTextWithin settings levels) rest
            pure (item :: items)) puts ∧
          ∀ argument, Reached (ofTextWithin settings levels) (lexeme :: rest) argument →
            Gathers settings levels argument puts := by
        intro item other
        obtain ⟨puts, follows, gathers⟩ := induction desk right
        refine ⟨puts, follows.map _, ?_⟩
        intro argument reached
        cases reached with
        | here => exact absurd rfl (other _ _)
        | past _ further => exact gathers argument further
      cases lexeme with
      | literal digits negative => exact uncalled _ (by simp)
      | name name => exact uncalled _ (by simp)
      | operator operator => exact uncalled _ (by simp)
      | close => exact uncalled _ (by simp)
      | call name argument =>
          obtain ⟨puts, follows, gathers⟩ := recalls argument desk right
          cases read : ofTextWithin settings levels argument with
          | error fault =>
              rw [read] at follows
              exact recalls_call_stopped read follows gathers
          | ok sequence =>
              rw [read] at follows
              exact recalls_call_read read follows gathers
                (induction _ (follows.right_after right))

theorem recall_level (recalls : ∀ argument, Recalls settings levels argument) (text : List Char)
    (desk : ReadingDesk) (right : desk.shelf.IsRight settings) :
    ∃ puts, Follows settings (readLevel (recallWithin settings levels) text) desk
      (ofTextWithin settings (levels + 1) text) puts ∧
      ∀ argument, Reached (ofTextWithin settings levels)
        (Scan.ofText true text).lexemes argument →
        Gathers settings levels argument puts := by
  obtain ⟨puts, follows, gathers⟩ :=
    recall_calls recalls (Scan.ofText true text).lexemes desk right
  refine ⟨puts, ?_, gathers⟩
  rw [ofTextWithin, readLevel, readLevel]
  cases read : readCalls (ofTextWithin settings levels) (Scan.ofText true text).lexemes with
  | error fault =>
      rw [read] at follows
      exact follows.bind_stopped
  | ok items =>
      rw [read] at follows
      rw [← List.append_nil puts]
      apply follows.bind
      cases (Scan.ofText true text).fault with
      | some fault => exact Follows.stopped fault
      | none => exact Follows.pure _

section Looking

variable {desk : ReadingDesk}

theorem recall_found {entry : ShelfEntry} (right : entry.IsRight settings)
    (found : desk.shelf.find? (levels + 1) text = some entry) :
    Follows settings (recallWithin settings (levels + 1) text) desk (.ok entry.sequence)
      [entry] := by
  rw [recallWithin]
  apply (Follows.looked desk).bind
  simp only [found]
  exact Follows.found right

theorem recall_missed (absent : desk.shelf.find? (levels + 1) text = none)
    {plain : Except Fault Sequence} {puts : List ShelfEntry}
    (follows : Follows settings (do
      let sequence ← readLevel (recallWithin settings levels) text
      noteLexed { levels := levels + 1, text, sequence }
      keep settings { levels := levels + 1, text, sequence }
      pure sequence) desk plain puts) :
    Follows settings (recallWithin settings (levels + 1) text) desk plain puts := by
  rw [recallWithin]
  apply (Follows.looked desk).bind
  simp only [absent]
  exact follows

end Looking

theorem recalls (settings : Settings) (levels : Nat) (text : List Char) :
    Recalls settings levels text := by
  induction levels generalizing text with
  | zero =>
      intro desk _
      refine ⟨[], Follows.stopped _, Gathers.of_unread rfl ?_⟩
      intro entry leaves
      cases leaves
  | succ levels induction =>
      intro desk right
      cases found : desk.shelf.find? (levels + 1) text with
      | some entry =>
          have read := Shelf.find_right right found
          obtain ⟨member, sameLevels, sameText⟩ := Shelf.find_key found
          refine ⟨[entry], ?_, Gathers.of_read read ?_⟩
          · rw [read]
            exact recall_found (right entry member) found
          · simp [← sameLevels, ← sameText]
      | none =>
          obtain ⟨puts, follows, gathers⟩ := recall_level induction text desk right
          cases read : ofTextWithin settings (levels + 1) text with
          | error fault =>
              rw [read] at follows
              refine ⟨puts, recall_missed found follows.bind_stopped, Gathers.of_unread read ?_⟩
              intro entry leaves
              cases leaves with
              | read reached readArgument => exact (gathers _ reached).whole _ readArgument
              | within reached unread inside => exact (gathers _ reached).parts _ unread _ inside
          | ok sequence =>
              rw [read] at follows
              let entry : ShelfEntry := { levels := levels + 1, text, sequence }
              have rightEntry : entry.IsRight settings := read
              refine ⟨puts ++ [entry], recall_missed found ?_, Gathers.of_read read ?_⟩
              · exact follows.bind (Follows.anew rightEntry)
              · simp [entry]

end Sequence

end RadixCalc
