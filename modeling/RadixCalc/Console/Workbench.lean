import RadixCalc.Calculator
import RadixCalc.Sequence.Shelf

/-!
The workbench: a calculator together with the shelf that its expressions are read
through. The shelf outlives the calculator.
-/

namespace RadixCalc

structure Workbench where
  calculator : Calculator
  shelf : Shelf

namespace Workbench

/-- A step at the workbench. -/
structure Step where
  reply : Reply
  workbench : Workbench
  journal : List Event

/-- Enters text like a calculator does, but reads it through the shelf. -/
def enter (workbench : Workbench) (text : String) : Step :=
  let expression := Text.trimmed text
  if expression.isEmpty then
    let turn := workbench.calculator.accept expression (.ok [])
    { reply := turn.reply
      workbench := { workbench with calculator := turn.calculator }
      journal := turn.journal }
  else
    let recalled := Sequence.recallText workbench.calculator.settings workbench.shelf expression
    let turn := workbench.calculator.accept expression recalled.ending
    { reply := turn.reply
      workbench := { calculator := turn.calculator, shelf := recalled.shelf }
      journal := recalled.journal ++ turn.journal }

/-- A step that leaves the shelf alone. -/
def ofTurn (workbench : Workbench) (turn : Turn) : Step :=
  { reply := turn.reply
    workbench := { workbench with calculator := turn.calculator }
    journal := turn.journal }

def clearShelf (workbench : Workbench) : Workbench :=
  { workbench with shelf := .empty }

end Workbench

end RadixCalc
