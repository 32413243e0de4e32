import RadixCalc.CommandLine.Options
import RadixCalc.CommandLine.SelfCheck
import RadixCalc.Console.Prompt

/-!
The program behind the command line: what it puts out, its exit code and its
journal, as a function of the arguments and of the lines it is given. Without
expressions among the arguments it converses over the lines.
-/

namespace RadixCalc.CommandLine

inductive Ending where
  | exit (code : Nat)
  | interrupted (cause : Interruption)
deriving DecidableEq, Repr

/-- A run of the program. -/
structure Report where
  ending : Ending
  output : String
  journal : List Event

/-- Settings after the options that change them; a negative precision changes nothing. -/
def settingsUnder (settings : Settings) (options : Options) : Settings :=
  match options.precision with
  | some digits => if 0 ≤ digits then { settings with fractionDigits := digits } else settings
  | none => settings

/-- An expression of the command line without the mark that lines are copied with. -/
def withoutMark (text : String) : String :=
  let expression := Text.trim text.toList
  match expression with
  | '>' :: '>' :: '>' :: rest => String.ofList (Text.trim rest)
  | _ => String.ofList expression

def blankLine : String :=
  "Error: Empty input. Please enter a valid expression."

/-- Expressions calculated one after another: all that was shown, and what happened. -/
structure Batch where
  ending : Ending
  output : String
  workbench : Workbench
  journal : List Event

/-- Expressions one after another in one calculator; `code` is the exit code so far. -/
def evaluateEach (format : AnswerFormat) (workbench : Workbench) (code : Nat) :
    List (Option String) → Batch
  | [] => { ending := .exit code, output := "", workbench, journal := [] }
  | none :: _ => { ending := .interrupted .missingText, output := "", workbench, journal := [] }
  | some text :: rest =>
      let expression := withoutMark text
      if expression.isEmpty then
        let later := evaluateEach format workbench 1 rest
        { later with output := Console.outputText [blankLine] ++ later.output }
      else
        let step := workbench.enter expression
        match step.reply with
        | .interrupted cause =>
            { ending := .interrupted cause
              output := ""
              workbench := step.workbench
              journal := step.journal }
        | .answered outcome =>
            let later :=
              evaluateEach format step.workbench (if outcome.ok then code else 1) rest
            { later with
              output := Console.outputText (outcome.lines format) ++ later.output
              journal := step.journal ++ later.journal }

/-- Takes the place of a base that was asked for without a value; no number can be read or written
in it. -/
def noBase : Int := 0

/-- The base that was chosen, where `standard` is the one to use if nothing was said. -/
def BaseChoice.base (standard : Int) : BaseChoice → Int
  | .standard => standard
  | .number base => base
  | .missing => noBase

/-- The workbench that options ask for. -/
def workbenchUnder (settings : Settings) (options : Options) : Workbench :=
  { calculator :=
      Calculator.start settings .standard (options.inputBase.base settings.inputBase)
        (options.outputBase.base settings.outputBase) .standard
    shelf := .empty }

/-- The opening of a workbench is noted if both of its bases are known. -/
def opening (options : Options) (workbench : Workbench) : List Event :=
  if options.inputBase = .missing ∨ options.outputBase = .missing then []
  else [.opened workbench.calculator.inputBase workbench.calculator.outputBase]

def selfCheckReport (settings : Settings) : Report :=
  let verdicts := SelfCheck.performAll settings .empty SelfCheck.checks
  { ending := .exit (if verdicts.all SelfCheck.Verdict.passed then 0 else 1)
    output := Console.outputText (SelfCheck.lines verdicts)
    journal := verdicts.flatMap SelfCheck.Verdict.journal }

/-- A batch of expressions as a run. -/
def evaluateReport (format : AnswerFormat) (workbench : Workbench)
    (expressions : List (Option String)) : Report :=
  let batch := evaluateEach format workbench 0 expressions
  { ending := batch.ending, output := batch.output, journal := batch.journal }

/-- A conversation as a run. -/
def converseReport (format : AnswerFormat) (workbench : Workbench) (lines : List String) :
    Report :=
  let transcript := Console.converse workbench format lines
  { ending := (transcript.interruption.map .interrupted).getD (.exit 0)
    output := Console.outputText [Console.greeting] ++ transcript.output
    journal := transcript.journal }

/-- What options ask the program to do. -/
inductive Task where
  | showVersion
  | checkSelf
  | evaluate (expressions : List (Option String))
  | converse
deriving DecidableEq, Repr

namespace Options

def task (options : Options) : Task :=
  if options.version then .showVersion
  else if options.healthCheck then .checkSelf
  else if options.expressions.isEmpty then .converse
  else .evaluate options.expressions

end Options

def withOpening (options : Options) (workbench : Workbench) (report : Report) : Report :=
  { report with journal := opening options workbench ++ report.journal }

/-- Runs under options that have been read. -/
def runOptions (settings : Settings) (options : Options) (lines : List String) : Report :=
  let chosen := settingsUnder settings options
  let workbench := workbenchUnder chosen options
  match options.task with
  | .showVersion =>
      { ending := .exit 0, output := Console.outputText [Console.version], journal := [] }
  | .checkSelf => selfCheckReport chosen
  | .evaluate expressions =>
      withOpening options workbench (evaluateReport options.format workbench expressions)
  | .converse =>
      withOpening options workbench (converseReport options.format workbench lines)

def refusalCode : Refusal → Nat
  | .usage => 2
  | .helpWanted => 0

/-- Arguments that are refused put nothing out here; the answer to them is not about calculation. -/
def run (settings : Settings) (dash : AttachedDash) (arguments lines : List String) : Report :=
  match Options.ofArguments dash arguments with
  | .ok options => runOptions settings options lines
  | .error refusal => { ending := .exit (refusalCode refusal), output := "", journal := [] }

/-- The lines of an input: a line end is not part of a line, and the last line needs none. -/
def linesOf (input : String) : List String :=
  let pieces := (input.toList.splitOn '\n').map String.ofList
  if pieces.getLast? = some "" then pieces.dropLast else pieces

/-- The level of the journal that options ask for. -/
def levelUnder (options : Options) : Int :=
  match options.logLevel with
  | some name => Journal.levelOfName name
  | none => Journal.warningLevel

end RadixCalc.CommandLine
