import RadixCalc.Journal
import RadixCalc.Sequence.OfText
import RadixCalc.Text.Blank

/-!
The shelf: sequences that have been read before, kept under their text and the
number of levels that were allowed for it. A sequence that is taken from the
shelf becomes the most recent one; when the shelf is full the least recent one
goes. Reading with a shelf gives what plain reading gives. Text that cannot be
read is not kept, but its arguments that can be are.
-/

namespace RadixCalc

structure ShelfEntry where
  levels : Nat
  text : List Char
  sequence : Sequence

/-- Entries with the most recent first. -/
structure Shelf where
  entries : List ShelfEntry

namespace Shelf

def empty : Shelf := ⟨[]⟩

def holds (levels : Nat) (text : List Char) (entry : ShelfEntry) : Bool :=
  entry.levels == levels && entry.text == text

def find? (shelf : Shelf) (levels : Nat) (text : List Char) : Option ShelfEntry :=
  shelf.entries.find? (holds levels text)

/-- Makes the entry under the same key the most recent one, or puts it in as such. The least recent
entries go that there is no room for. -/
def put (room : Nat) (shelf : Shelf) (entry : ShelfEntry) : Shelf :=
  let others := shelf.entries.filter fun other => !holds entry.levels entry.text other
  ⟨(entry :: others).take room⟩

end Shelf

/-- The shelf during a reading, and what happened so far with the latest event first. -/
structure ReadingDesk where
  shelf : Shelf
  journal : List Event

abbrev ShelvedReading := ExceptT Fault (StateM ReadingDesk)

namespace Sequence

/-- How many entries the shelf holds. -/
def room (settings : Settings) : Nat :=
  settings.shelfSize.toNat

def keep (settings : Settings) (entry : ShelfEntry) : ShelvedReading Unit :=
  modify fun desk => { desk with shelf := desk.shelf.put (room settings) entry }

def noteLexed (entry : ShelfEntry) : ShelvedReading Unit :=
  modify fun desk =>
    { desk with
      journal := .lexed (String.ofList (Text.trimEnd entry.text)) entry.sequence.length
        :: desk.journal }

/-- Reads text like `ofTextWithin`, but looks on the shelf first at every level. -/
def recallWithin (settings : Settings) : Nat → List Char → ShelvedReading Sequence
  | 0, _ => throw (.tooDeep settings.callDepth)
  | levels + 1, text => do
      let desk ← get
      match desk.shelf.find? (levels + 1) text with
      | some entry =>
          keep settings entry
          pure entry.sequence
      | none =>
          let sequence ← readLevel (recallWithin settings levels) text
          let entry : ShelfEntry := { levels := levels + 1, text, sequence }
          noteLexed entry
          keep settings entry
          pure sequence

end Sequence

/-- The end of a reading with a shelf. -/
structure Recalled where
  ending : Except Fault Sequence
  shelf : Shelf
  journal : List Event

namespace Sequence

/-- Reads text that stands inside `depth` calls. -/
def recallAt (settings : Settings) (shelf : Shelf) (depth : Int) (text : String) : Recalled :=
  let (ending, desk) :=
    (recallWithin settings (levelsAt settings depth) text.toList).run { shelf, journal := [] }
  { ending, shelf := desk.shelf, journal := desk.journal.reverse }

/-- Reads a whole expression; one that is too long does not come near the shelf. -/
def recallText (settings : Settings) (shelf : Shelf) (text : String) : Recalled :=
  if isTooLong settings text then
    { ending := .error (.tooLong settings.inputLength), shelf, journal := [] }
  else recallAt settings shelf 0 text

end Sequence

end RadixCalc
