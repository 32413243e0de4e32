import RadixCalc.Console.Answer
import RadixCalc.Console.Workbench

/-!
The self check: five calculations with known results, each in a calculator of its
own over one shelf.
-/

namespace RadixCalc.SelfCheck

/-- A calculation with its expected result. -/
structure Check where
  label : String
  expression : String
  inputBase : Int
  outputBase : Int
  expected : String

def checks : List Check :=
  [{ label := "Operator precedence", expression := "2+3*4"
     inputBase := 10, outputBase := 10, expected := "14" },
    { label := "Hexadecimal input", expression := "ff"
      inputBase := 16, outputBase := 10, expected := "255" },
    { label := "Binary to hexadecimal", expression := "1010"
      inputBase := 2, outputBase := 16, expected := "a" },
    { label := "Built-in functions", expression := "sqrt(16)+fac(3)"
      inputBase := 10, outputBase := 10, expected := "10" },
    { label := "Fractional output", expression := "1/4"
      inputBase := 10, outputBase := 2, expected := "0.01" }]

/-- The result of one check. -/
structure Verdict where
  passed : Bool
  line : String
  shelf : Shelf
  journal : List Event

def Check.verdictText (check : Check) : Reply → Bool × String
  | .answered outcome =>
      if outcome.ok && outcome.result = some check.expected then
        (true, s!"[OK] {check.label} works")
      else (false, s!"[FAIL] {check.label}: expected {check.expected}, got {outcome.text}")
  | .interrupted cause => (false, s!"[FAIL] {check.label} check failed: {cause.message}")

def Check.perform (check : Check) (settings : Settings) (shelf : Shelf) : Verdict :=
  let calculator :=
    Calculator.start settings .standard check.inputBase check.outputBase .standard
  let step := ({ calculator, shelf } : Workbench).enter check.expression
  let (passed, line) := check.verdictText step.reply
  { passed, line, shelf := step.workbench.shelf, journal := step.journal }

/-- The results of checks in order. -/
def performAll (settings : Settings) (shelf : Shelf) : List Check → List Verdict
  | [] => []
  | check :: rest =>
      let verdict := check.perform settings shelf
      verdict :: performAll settings verdict.shelf rest

def rule : String :=
  String.ofList (List.replicate 50 '-')

def closing (failed : Nat) : String :=
  if failed = 0 then "\n[OK] All health checks passed!"
  else "\n[WARN] Some health checks failed. Core functionality may be impaired."

def lines (verdicts : List Verdict) : List String :=
  let passed := (verdicts.filter Verdict.passed).length
  let failed := verdicts.length - passed
  ["Running Basekalk health check...", rule] ++ verdicts.map Verdict.line ++
    [rule, s!"Results: {passed} passed, {failed} failed", closing failed]

end RadixCalc.SelfCheck
