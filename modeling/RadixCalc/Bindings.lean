import RadixCalc.Directory
import RadixCalc.NumberText
import RadixCalc.Text.Quoted

/-!
The values bound to variables. A fresh table knows one constant; a variable is
never removed.
-/

namespace RadixCalc

abbrev Bindings := Directory Float

namespace Bindings

def pi : Float := 3.141592653589793

def standard : Bindings :=
  Directory.empty.put "pi" pi

def entryText (entry : String × Float) : String :=
  Text.quoted entry.1 ++ ": " ++ numberText entry.2

/-- A table on one line, in the order in which its variables were first set. -/
def text (table : Bindings) : String :=
  "SymbolTable(\x7b" ++ String.intercalate ", " (table.entries.map entryText) ++ "\x7d)"

/-- A line for each variable, in the order of their names. -/
def listing (table : Bindings) : List String :=
  table.sorted.map fun entry => entry.1 ++ " = " ++ numberText entry.2

end Bindings

end RadixCalc
