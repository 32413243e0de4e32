import RadixCalc.Outcome

/-!
How outcomes are shown: as plain lines for people, or as an object for programs.
-/

namespace RadixCalc

inductive AnswerFormat where
  | human
  | json
deriving DecidableEq, Repr

namespace AnswerFormat

def ofName? (name : String) : Option AnswerFormat :=
  match name with
  | "human" => some human
  | "json" => some json
  | _ => none

end AnswerFormat

namespace Outcome

/-- The lines that show an outcome. A success without a result shows nothing to people. -/
def lines (outcome : Outcome) : AnswerFormat → List String
  | .json => [outcome.jsonText]
  | .human =>
      if outcome.ok then outcome.result.toList
      else ["Error: " ++ outcome.error.getD "None"]

end Outcome

namespace Console

/-- Lines as they are put out, each with its end. -/
def outputText (lines : List String) : String :=
  String.join (lines.map (· ++ "\n"))

end Console

end RadixCalc
