import RadixCalc.CommandLine.Program
import RadixCalc.Journal.Timestamp
import Std.Time.DateTime.Timestamp

/-!
The program itself: arguments in, lines in and out, journal lines to the error
output and to a file if one is asked for. It decides nothing that the library
does not decide.
-/

namespace RadixCalc.Program

open CommandLine

def usageLine : String :=
  "usage: basekalk [-h] [-e EXPRESSION] [-i BASE] [-o BASE] [--format FORMAT] [-p DIGITS] [-v]"
    ++ " [--log-level LEVEL] [--log-file FILE] [--health-check]"

/-- Where journal lines go. -/
structure JournalSink where
  level : Int
  file : Option IO.FS.Handle

def secondsNow : IO Float := do
  let now ← Std.Time.Timestamp.now
  return Float.ofInt now.toMillisecondsSinceUnixEpoch.val / 1000.0

def JournalSink.write (sink : JournalSink) (events : List Event) : IO Unit := do
  for record in Journal.kept sink.level events do
    let line := record.line (← secondsNow)
    IO.eprintln line
    match sink.file with
    | some file =>
        file.putStrLn line
        file.flush
    | none => pure ()

def JournalSink.start (options : Options) : IO JournalSink := do
  let file ← match options.logFile with
    | some name => if name.isEmpty then pure none else some <$> IO.FS.Handle.mk name .append
    | none => pure none
  return { level := levelUnder options, file }

def interruptedCode : UInt32 := 1

/-- Puts out a run that needs no lines. -/
def putReport (sink : JournalSink) (report : Report) : IO UInt32 := do
  sink.write report.journal
  IO.print report.output
  match report.ending with
  | .exit code => return code.toUInt32
  | .interrupted cause =>
      IO.eprintln cause.message
      return interruptedCode

/-- Converses over standard input until a line ends it or there are no more. -/
partial def converseLoop (sink : JournalSink) (format : AnswerFormat) (input : IO.FS.Stream)
    (workbench : Workbench) : IO UInt32 := do
  IO.print (Console.prompt workbench.calculator)
  (← IO.getStdout).flush
  let line ← input.getLine
  if line.isEmpty then
    IO.print (Console.outputText [Console.farewellAtEnd])
    return 0
  let exchange := Console.respond workbench format line
  sink.write exchange.journal
  IO.print (Console.outputText exchange.lines)
  match exchange.ending with
  | .goesOn => converseLoop sink format input exchange.workbench
  | .left => return 0
  | .interrupted cause =>
      IO.eprintln cause.message
      return interruptedCode

def runUnder (options : Options) : IO UInt32 := do
  let sink ← JournalSink.start options
  match options.task with
  | .converse =>
      let workbench := workbenchUnder (settingsUnder {} options) options
      sink.write (opening options workbench)
      IO.print (Console.outputText [Console.greeting])
      converseLoop sink options.format (← IO.getStdin) workbench
  | _ => putReport sink (runOptions {} options [])

end RadixCalc.Program

open RadixCalc in
def main (arguments : List String) : IO UInt32 := do
  match CommandLine.Options.ofArguments .text arguments with
  | .ok options => Program.runUnder options
  | .error .helpWanted =>
      IO.println Program.usageLine
      return 0
  | .error .usage =>
      IO.eprintln Program.usageLine
      return 2
