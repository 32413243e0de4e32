import RadixCalc.Fault
import RadixCalc.NumberText
import RadixCalc.Text.Quoted

/-!
The journal of a run: what was done, as events, and how an event reads as a
line. A level decides which lines are kept.
-/

namespace RadixCalc

/-- What is worth noting about a run. -/
inductive Event where
  /-- Text was read into so many tokens, other than from the shelf. -/
  | lexed (text : String) (count : Nat)
  | assigned (name : String) (value : Float)
  /-- So many tokens were evaluated in a base. -/
  | evaluated (count : Nat) (base : Int) (value : Float)
  | failed (text : String) (fault : Fault)
  | opened (inputBase outputBase : Int)

namespace Journal

def debugLevel : Int := 10

def infoLevel : Int := 20

def warningLevel : Int := 30

/-- The names of levels; the first name of a level is the one it is shown under. -/
def levelNames : List (String × Int) :=
  [("CRITICAL", 50), ("ERROR", 40), ("WARNING", 30), ("INFO", 20), ("DEBUG", 10), ("NOTSET", 0),
    ("FATAL", 50), ("WARN", 30)]

/-- The capital of a letter, as far as it can occur in the name of a level: besides the plain small
letters only the dotless i and the long s have a plain capital. -/
def capital (char : Char) : Char :=
  if char = 'ı' then 'I' else if char = 'ſ' then 'S' else char.toUpper

/-- The level of a name in any case; unknown names mean warnings. -/
def levelOfName (name : String) : Int :=
  (levelNames.lookup (String.ofList (name.toList.map capital))).getD warningLevel

def levelText (level : Int) : String :=
  match levelNames.find? fun entry => entry.2 == level with
  | some entry => entry.1
  | none => s!"Level {level}"

/-- The least level of the lines that are kept when `level` was asked for; none at all means
warnings. -/
def threshold (level : Int) : Int :=
  if level = 0 then warningLevel else level

/-- A line of the journal before it is laid out. -/
structure Record where
  level : Int
  source : String
  message : String
  code : Option String := none

namespace Record

/-- The line of a record without its time. An empty code is left out. -/
def text (record : Record) : String :=
  let line := s!"[{levelText record.level}] {record.source}: {record.message}"
  match record.code with
  | some code => if code.isEmpty then line else s!"{line} (code={code})"
  | none => line

end Record

def recordOf : Event → Record
  | .lexed text count =>
      { level := debugLevel
        source := "basekalk.lexer"
        message := s!"Lexed {Text.quoted text} into {count} postfix tokens" }
  | .assigned name value =>
      { level := debugLevel
        source := "basekalk.symbols"
        message := s!"Assigning {name} = {numberText value}" }
  | .evaluated count base value =>
      { level := debugLevel
        source := "basekalk.evaluator"
        message := s!"Evaluated {count} tokens in base {base} to {numberText value}" }
  | .failed text fault =>
      { level := infoLevel
        source := "basekalk.session"
        message := s!"Session calculation of {Text.quoted text} failed: {fault.message}"
        code := some fault.code }
  | .opened inputBase outputBase =>
      { level := debugLevel
        source := "basekalk.cli"
        message := s!"Session started with input base {inputBase}, output base {outputBase}" }

/-- The records of a run that a level keeps. -/
def kept (level : Int) (events : List Event) : List Record :=
  (events.map recordOf).filter fun record => threshold level ≤ record.level

end Journal

end RadixCalc
