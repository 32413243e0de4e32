import RadixCalc.Console.Command
import RadixCalc.Console.Workbench

/-!
The console reads a line at a time. A blank line is passed over, a word for
leaving alone on a line ends the conversation, a command is carried out, and
every other line is entered as an expression.
-/

namespace RadixCalc.Console

def greeting : String :=
  "Basekalk - type 'help' for commands, 'quit' to exit."

/-- What is shown before a line is read. -/
def prompt (calculator : Calculator) : String :=
  s!"[{calculator.inputBase}->{calculator.outputBase}] >>> "

/-- Shown when a line asks to leave. -/
def farewell : String := "Goodbye."

/-- Shown when there are no more lines. -/
def farewellAtEnd : String := "\nGoodbye."

/-- Whether a conversation goes on after a line. -/
inductive Ending where
  | goesOn
  | left
  | interrupted (cause : Interruption)
deriving DecidableEq, Repr

/-- What a line led to. -/
structure Exchange where
  lines : List String
  workbench : Workbench
  journal : List Event
  ending : Ending

def asksToLeave (line : String) : Bool :=
  let lower := String.ofList (Text.lowerCase line.toList)
  lower = "quit" || lower = "exit"

def performAt (workbench : Workbench) (format : AnswerFormat) (command : Command) : Exchange :=
  let performed := command.perform workbench.calculator format
  { lines := performed.lines
    workbench := { workbench with calculator := performed.calculator }
    journal := performed.journal
    ending := (performed.interruption.map .interrupted).getD .goesOn }

/-- Enters a line as an expression and shows the outcome. -/
def enterAt (workbench : Workbench) (format : AnswerFormat) (line : String) : Exchange :=
  let step := workbench.enter line
  match step.reply with
  | .answered outcome =>
      { lines := outcome.lines format
        workbench := step.workbench
        journal := step.journal
        ending := .goesOn }
  | .interrupted cause =>
      { lines := []
        workbench := step.workbench
        journal := step.journal
        ending := .interrupted cause }

/-- Deals with one line. -/
def respond (workbench : Workbench) (format : AnswerFormat) (rawLine : String) : Exchange :=
  let line := Text.trimmed rawLine
  if line.isEmpty then { lines := [], workbench, journal := [], ending := .goesOn }
  else if asksToLeave line then
    { lines := [farewell], workbench, journal := [], ending := .left }
  else
    match Command.ofLine? line with
    | some command => performAt workbench format command
    | none => enterAt workbench format line

/-- A conversation: all that was shown, and what happened. -/
structure Transcript where
  output : String
  workbench : Workbench
  journal : List Event
  interruption : Option Interruption

/-- Goes through lines, with a prompt before each, until one ends the conversation or there are no
more. -/
def converse (workbench : Workbench) (format : AnswerFormat) : List String → Transcript
  | [] =>
      { output := prompt workbench.calculator ++ outputText [farewellAtEnd]
        workbench
        journal := []
        interruption := none }
  | line :: rest =>
      let exchange := respond workbench format line
      let shown := prompt workbench.calculator ++ outputText exchange.lines
      match exchange.ending with
      | .goesOn =>
          let later := converse exchange.workbench format rest
          { later with
            output := shown ++ later.output
            journal := exchange.journal ++ later.journal }
      | .left =>
          { output := shown
            workbench := exchange.workbench
            journal := exchange.journal
            interruption := none }
      | .interrupted cause =>
          { output := shown
            workbench := exchange.workbench
            journal := exchange.journal
            interruption := some cause }

end RadixCalc.Console
