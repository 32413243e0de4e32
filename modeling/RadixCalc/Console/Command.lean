import RadixCalc.Calculator
import RadixCalc.Console.Answer
import RadixCalc.Text.LowerCase
import RadixCalc.Text.WholeNumber

/-!
Commands of the console. A line is a command if its first word, in any case, is
one of seven; words that take no argument must also stand alone, because
otherwise the line may be an expression over a variable of that name.
-/

namespace RadixCalc.Console

/-- Which of the two bases a command is about. -/
inductive Side where
  | input
  | output
deriving DecidableEq, Repr

namespace Side

def word : Side → String
  | input => "ibase"
  | output => "obase"

end Side

inductive Command where
  | help
  | bindings
  | functions
  /-- A line that begins with one of the words for leaving. -/
  | leave
  /-- A base command without exactly one argument. -/
  | usage (side : Side)
  | notNumber (side : Side) (argument : String)
  | setBase (side : Side) (base : Int)
deriving DecidableEq, Repr

namespace Command

/-- A base command with its arguments. -/
def ofBaseArguments (side : Side) : List (List Char) → Command
  | [argument] =>
      match Text.WholeNumber.read argument with
      | some base => setBase side base
      | none => notNumber side (String.ofList argument)
  | _ => usage side

/-- The command a line holds, if it is one. -/
def ofLine? (line : String) : Option Command :=
  match Text.words line.toList with
  | [] => none
  | first :: arguments =>
      match String.ofList (Text.lowerCase first) with
      | "help" => if arguments.isEmpty then some help else none
      | "vars" => if arguments.isEmpty then some bindings else none
      | "funcs" => if arguments.isEmpty then some functions else none
      | "quit" => some leave
      | "exit" => some leave
      | "ibase" => some (ofBaseArguments .input arguments)
      | "obase" => some (ofBaseArguments .output arguments)
      | _ => none

end Command

def version : String := "1.0.0"

def helpLines : List String :=
  [s!"Basekalk {version} - arithmetic in any base from 2 to 61",
    "",
    "Expressions:",
    "  2+3*4          operators ^ * / % + - with parentheses",
    "  x = ff         assign a variable (later assignments overwrite)",
    "  sqrt(x)        built-ins: sin cos tan asin acos atan exp sqrt cbrt fac",
    "  -3*2           a leading '-' is only allowed directly before a number",
    "",
    "Digits are 0-9, a-z, A-Z. Up to base 36 letters are case-insensitive.",
    "A number may start with a letter (e.g. ff) as long as no variable of that",
    "name exists.",
    "",
    "Commands:",
    "  ibase N        set the input base",
    "  obase N        set the output base (re-formats the last result)",
    "  vars           list variables",
    "  funcs          list functions",
    "  help           show this text",
    "  quit, exit     leave"]

/-- What carrying out a command shows, and the calculator after it. -/
structure Performed where
  lines : List String
  calculator : Calculator
  journal : List Event
  interruption : Option Interruption := none

namespace Command

/-- Switches one of the bases. -/
def switch (calculator : Calculator) (base : Int) : Side → Turn
  | .input => calculator.readIn base
  | .output => calculator.writeIn base

/-- Switches a base and shows it, with the latest expression under it if there is one. -/
def performSetBase (calculator : Calculator) (format : AnswerFormat) (side : Side) (base : Int) :
    Performed :=
  let turn := switch calculator base side
  match turn.reply with
  | .interrupted cause =>
      { lines := []
        calculator := turn.calculator
        journal := turn.journal
        interruption := some cause }
  | .answered outcome =>
      let shown := if turn.calculator.text.isEmpty then [] else outcome.lines format
      { lines := s!"[{side.word} = {base}]" :: shown
        calculator := turn.calculator
        journal := turn.journal }

def perform (calculator : Calculator) (format : AnswerFormat) : Command → Performed
  | help => { lines := helpLines, calculator, journal := [] }
  | bindings => { lines := Bindings.listing calculator.bindings, calculator, journal := [] }
  | functions => { lines := FunctionTable.listing calculator.functions, calculator, journal := [] }
  | leave => { lines := [], calculator, journal := [] }
  | usage side => { lines := [s!"Usage: {side.word} N"], calculator, journal := [] }
  | notNumber _ argument =>
      { lines := [s!"Error: base must be an integer, got {Text.quoted argument}"]
        calculator
        journal := [] }
  | setBase side base => performSetBase calculator format side base

end Command

end RadixCalc.Console
