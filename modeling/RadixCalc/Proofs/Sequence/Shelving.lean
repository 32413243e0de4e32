import Mathlib.Data.List.Basic
import RadixCalc.Proofs.Sequence.Recalling

/-!
Any use of one shelf: texts are read at any depth or as whole expressions, the
shelf is cleared, entries are lost. None of this can be told from the answers,
which are those of plain reading.
-/

namespace RadixCalc

/-- A text to be read: one that stands inside so many calls, or a whole expression under a limit of
its length. -/
inductive ReadingRequest where
  | inside (depth : Int) (text : String)
  | whole (inputLength : ShownInt) (text : String)

namespace ReadingRequest

def plain (settings : Settings) : ReadingRequest → Except Fault Sequence
  | inside depth text => Sequence.ofTextAt settings depth text
  | whole inputLength text => Sequence.ofText { settings with inputLength } text

def recalled (settings : Settings) (shelf : Shelf) : ReadingRequest → Recalled
  | inside depth text => Sequence.recallAt settings shelf depth text
  | whole inputLength text => Sequence.recallText { settings with inputLength } shelf text

/-- The key under which the text is looked for; an expression that is too long is not. -/
def key? (settings : Settings) : ReadingRequest → Option (Nat × List Char)
  | inside depth text => some (Sequence.levelsAt settings depth, text.toList)
  | whole inputLength text =>
      if Sequence.isTooLong { settings with inputLength } text then none
      else some (Sequence.levelsAt settings 0, text.toList)

end ReadingRequest

/-- What can happen to a shelf. Entries may be lost at any time, and any of them. -/
inductive ShelfUse where
  | read (request : ReadingRequest)
  | clear
  | lose (keep : ShelfEntry → Bool)

namespace ShelfUse

def requests (uses : List ShelfUse) : List ReadingRequest :=
  uses.filterMap fun
    | read request => some request
    | _ => none

end ShelfUse

namespace Shelf

def use (settings : Settings) (shelf : Shelf) : ShelfUse → Shelf
  | .read request => (request.recalled settings shelf).shelf
  | .clear => .empty
  | .lose keep => ⟨shelf.entries.filter keep⟩

def after (settings : Settings) (shelf : Shelf) (uses : List ShelfUse) : Shelf :=
  uses.foldl (use settings) shelf

/-- What the readings among the uses end with. -/
def answers (settings : Settings) (shelf : Shelf) : List ShelfUse → List (Except Fault Sequence)
  | [] => []
  | .read request :: rest =>
      (request.recalled settings shelf).ending ::
        answers settings (shelf.use settings (.read request)) rest
  | other :: rest => answers settings (shelf.use settings other) rest

end Shelf

namespace Sequence

variable {settings : Settings} {shelf : Shelf}

/-- A limit of the length of whole expressions has nothing to do with reading a level. -/
theorem of_text_within_input_length (settings : Settings) (inputLength : ShownInt) (levels : Nat) :
    ofTextWithin { settings with inputLength } levels = ofTextWithin settings levels := by
  induction levels with
  | zero => rfl
  | succ levels induction =>
      funext text
      rw [ofTextWithin, ofTextWithin, induction]

theorem recall_within_input_length (settings : Settings) (inputLength : ShownInt) (levels : Nat) :
    recallWithin { settings with inputLength } levels = recallWithin settings levels := by
  induction levels with
  | zero => rfl
  | succ levels induction =>
      funext text
      rw [recallWithin, recallWithin, induction]
      rfl

/-- What a request does to a right shelf. -/
structure Deposits (settings : Settings) (shelf : Shelf) (request : ReadingRequest)
    (puts : List ShelfEntry) : Prop where
  left : (request.recalled settings shelf).shelf = shelf.putAll (room settings) puts
  right : ∀ entry ∈ puts, entry.IsRight settings
  /-- All that the journal notes as read has been put on the shelf. -/
  noted : ∃ fresh : List ShelfEntry, fresh.Sublist puts ∧
    (request.recalled settings shelf).journal = fresh.map ShelfEntry.lexed
  stays : ∀ earlier entry later, puts = earlier ++ entry :: later →
    later.length < room settings →
      (request.recalled settings shelf).shelf.find? entry.levels entry.text = some entry
  unopened : request.key? settings = none → puts = []
  failed : ∀ fault, request.plain settings = .error fault →
    ∀ levels text, request.key? settings = some (levels, text) →
      (request.recalled settings shelf).shelf.find? levels text = none ∧
        ∀ entry, Leaves settings levels text entry → entry ∈ puts

theorem recall_opened {request : ReadingRequest} {levels : Nat} {text : List Char}
    (opened : request.key? settings = some (levels, text)) (shelf : Shelf) :
    let ran := (recallWithin settings levels text).run { shelf, journal := [] }
    request.plain settings = ofTextWithin settings levels text ∧
      request.recalled settings shelf =
        { ending := ran.1, shelf := ran.2.shelf, journal := ran.2.journal.reverse } := by
  cases request with
  | inside depth spelled =>
      cases opened
      exact ⟨rfl, rfl⟩
  | whole inputLength spelled =>
      rw [ReadingRequest.key?] at opened
      split at opened
      · cases opened
      · rename_i short
        cases opened
        rw [ReadingRequest.plain, ofText, if_neg short, ofTextAt,
          of_text_within_input_length settings inputLength, ReadingRequest.recalled, recallText,
          if_neg short, recallAt, recall_within_input_length settings inputLength]
        exact ⟨rfl, rfl⟩

theorem recall_unopened {request : ReadingRequest} (closed : request.key? settings = none)
    (shelf : Shelf) :
    ∃ fault, request.plain settings = .error fault ∧
      request.recalled settings shelf = { ending := .error fault, shelf, journal := [] } := by
  cases request with
  | inside depth spelled => cases closed
  | whole inputLength spelled =>
      rw [ReadingRequest.key?] at closed
      split at closed
      · rename_i long
        refine ⟨.tooLong inputLength, ?_, ?_⟩
        · rw [ReadingRequest.plain, ofText, if_pos long]
        · rw [ReadingRequest.recalled, recallText, if_pos long]
      · cases closed

/-- An expression that is too long is not even looked for. -/
theorem deposits_unopened {request : ReadingRequest} (closed : request.key? settings = none) :
    Deposits settings shelf request [] := by
  obtain ⟨fault, -, recalled⟩ := recall_unopened closed shelf
  constructor
  · rw [recalled]
    rfl
  · simp
  · rw [recalled]
    exact ⟨[], List.Sublist.refl _, rfl⟩
  · simp
  · exact fun _ => rfl
  · intro _ _ levels text opened
    rw [closed] at opened
    cases opened

theorem deposits_opened (right : shelf.IsRight settings) {request : ReadingRequest} {levels : Nat}
    {text : List Char} (opened : request.key? settings = some (levels, text))
    {puts : List ShelfEntry}
    (follows : Follows settings (recallWithin settings levels text) { shelf, journal := [] }
      (ofTextWithin settings levels text) puts)
    (gathers : Gathers settings levels text puts) : Deposits settings shelf request puts := by
  obtain ⟨plain, recalled⟩ := recall_opened opened shelf
  have left : (request.recalled settings shelf).shelf = shelf.putAll (room settings) puts := by
    rw [recalled]
    exact follows.shelved
  refine ⟨left, follows.right, ?_, ?_, ?_, ?_⟩
  · obtain ⟨fresh, among, noted⟩ := follows.noted
    refine ⟨fresh, among, ?_⟩
    rw [recalled]
    simp [noted]
  · rintro earlier entry later rfl inside
    rw [left]
    exact Shelf.find_among_put right follows.right inside
  · intro closed
    rw [opened] at closed
    cases closed
  · intro fault unread otherLevels otherText again
    rw [opened] at again
    cases again
    rw [plain] at unread
    -- Nothing stands under the key of unread text, since all that stands there is right.
    have rightLeft : (request.recalled settings shelf).shelf.IsRight settings := by
      rw [left]
      exact Shelf.put_all_right right follows.right
    exact ⟨Shelf.find_unread rightLeft unread, gathers.parts fault unread⟩

theorem request_deposits (right : shelf.IsRight settings) (request : ReadingRequest) :
    (request.recalled settings shelf).ending = request.plain settings ∧
      ∃ puts, Deposits settings shelf request puts := by
  cases opened : request.key? settings with
  | none =>
      obtain ⟨fault, plain, recalled⟩ := recall_unopened opened shelf
      exact ⟨by rw [recalled, plain], [], deposits_unopened opened⟩
  | some key =>
      obtain ⟨levels, text⟩ := key
      obtain ⟨plain, recalled⟩ := recall_opened opened shelf
      obtain ⟨puts, follows, gathers⟩ :=
        recalls settings levels text { shelf, journal := [] } right
      exact ⟨by rw [recalled, plain, ← follows.ended], puts,
        deposits_opened right opened follows gathers⟩

theorem use_right (right : shelf.IsRight settings) (use : ShelfUse) :
    (shelf.use settings use).IsRight settings := by
  cases use with
  | read request =>
      obtain ⟨-, puts, deposits⟩ := request_deposits right request
      rw [Shelf.use, deposits.left]
      exact Shelf.put_all_right right deposits.right
  | clear => exact Shelf.empty_right
  | lose keep =>
      intro entry member
      exact right entry (List.mem_filter.mp member).1

theorem after_right (right : shelf.IsRight settings) (uses : List ShelfUse) :
    (shelf.after settings uses).IsRight settings := by
  induction uses generalizing shelf with
  | nil => exact right
  | cons use rest induction => exact induction (use_right right use)

theorem answers_plain (right : shelf.IsRight settings) (uses : List ShelfUse) :
    shelf.answers settings uses =
      (ShelfUse.requests uses).map (ReadingRequest.plain settings) := by
  induction uses generalizing shelf with
  | nil => rfl
  | cons use rest induction =>
      have later := induction (use_right right use)
      cases use with
      | read request =>
          obtain ⟨ended, -⟩ := request_deposits right request
          rw [Shelf.answers, ended, later]
          rfl
      | clear => exact later
      | lose keep => exact later

/-- However a shelf has been used, every entry on it holds what its text is read as without a shelf,
and every reading has answered what plain reading answers. All that a further reading does to the
shelf is to put right entries on it, where an entry stays as long as fewer others than the shelf
holds come after it. Reading in vain puts none under the key of the text, but it puts those of the
arguments that could be read. -/
theorem shelf_transparent (settings : Settings) (uses : List ShelfUse) :
    let shelf := Shelf.empty.after settings uses
    (∀ entry ∈ shelf.entries,
      ofTextAt settings (settings.callDepth + 1 - entry.levels) (String.ofList entry.text) =
        .ok entry.sequence) ∧
    Shelf.empty.answers settings uses =
      (ShelfUse.requests uses).map (ReadingRequest.plain settings) ∧
    ∀ request : ReadingRequest,
      (request.recalled settings shelf).ending = request.plain settings ∧
        ∃ puts, Deposits settings shelf request puts := by
  intro shelf
  have right : shelf.IsRight settings := after_right Shelf.empty_right uses
  refine ⟨?_, answers_plain Shelf.empty_right uses, request_deposits right⟩
  intro entry member
  have levels : levelsAt settings (settings.callDepth + 1 - entry.levels) = entry.levels := by
    rw [levelsAt]
    omega
  rw [ofTextAt, levels, String.toList_ofList]
  exact right entry member

/-- The whole text cannot be read, and neither can the argument of its call, but the argument of the
call inside that is left on the shelf. -/
theorem shelf_transparent_inner_argument :
    let shelf := Shelf.empty.after {} [.read (.whole ⟨5, by decide +kernel⟩ "7*7"), .clear]
    let request : ReadingRequest := .inside 0 "fac(sqrt(9)?)+1"
    request.plain {} = .error (.unknownToken '?') ∧
      ∃ puts, Deposits {} shelf request puts ∧
        { levels := 99, text := ['9'], sequence := [.operand (.literal "9" false)] } ∈ puts := by
  intro shelf request
  have plain : request.plain {} = .error (.unknownToken '?') := by cbv
  obtain ⟨-, -, reads⟩ :=
    shelf_transparent {} [.read (.whole ⟨5, by decide +kernel⟩ "7*7"), .clear]
  obtain ⟨-, puts, deposits⟩ := reads request
  refine ⟨plain, puts, deposits, ?_⟩
  have outer : (Scan.ofText true "fac(sqrt(9)?)+1".toList).lexemes =
      [.call "fac" "sqrt(9)?".toList, .operator (.arithmetic .plus), .literal "1" false] := by cbv
  have inner : (Scan.ofText true "sqrt(9)?".toList).lexemes = [.call "sqrt" ['9']] := by cbv
  have unread : ofTextWithin {} 100 "sqrt(9)?".toList = .error (.unknownToken '?') := by cbv
  have read : ofTextWithin {} 99 ['9'] = .ok [.operand (.literal "9" false)] := by cbv
  apply (deposits.failed _ plain 101 _ rfl).2
  apply Leaves.within _ unread
  · apply Leaves.read _ read
    rw [inner]
    exact .here
  · rw [outer]
    exact .here

end Sequence

end RadixCalc
