import RadixCalc.Lexeme
import RadixCalc.Sequence.Arrange
import RadixCalc.Settings

/-!
From the text of an expression to its tokens in operator order. The arguments
of calls are read by the same rules one level further in, and the number of
levels is limited. What one level does is written once, for any way of reading
the level below it.
-/

namespace RadixCalc.Sequence

/-- The arguments of a call: one that holds no token at all does not count. -/
def argumentsOf (argument : Sequence) : List Sequence :=
  if argument.isEmpty then [] else [argument]

section Level

variable {m : Type → Type} [Monad m]

/-- Reads the calls among the lexemes, in order. -/
def readCalls (readArgument : List Char → m Sequence) : List Lexeme → m (List Item)
  | [] => pure []
  | .literal digits negative :: rest => do
      let items ← readCalls readArgument rest
      pure (.token (.operand (.literal digits negative)) :: items)
  | .name name :: rest => do
      let items ← readCalls readArgument rest
      pure (.token (.operand (.symbol name)) :: items)
  | .call name argument :: rest => do
      let sequence ← readArgument argument
      let items ← readCalls readArgument rest
      pure (.token (.call name (argumentsOf sequence)) :: items)
  | .operator operator :: rest => do
      let items ← readCalls readArgument rest
      pure (.operator operator :: items)
  | .close :: rest => do
      let items ← readCalls readArgument rest
      pure (.close :: items)

/-- Reads one level. A fault inside an argument comes before a fault further along the text. -/
def readLevel [MonadExceptOf Fault m] (readArgument : List Char → m Sequence)
    (text : List Char) : m Sequence := do
  let scan := Scan.ofText true text
  let items ← readCalls readArgument scan.lexemes
  match scan.fault with
  | some fault => throw fault
  | none => pure (Item.arrange items)

end Level

/-- Reads text when so many more levels are allowed, this one included. -/
def ofTextWithin (settings : Settings) : Nat → List Char → Except Fault Sequence
  | 0, _ => .error (.tooDeep settings.callDepth)
  | levels + 1, text => readLevel (ofTextWithin settings levels) text

/-- How many levels are allowed for text that stands inside `depth` calls. -/
def levelsAt (settings : Settings) (depth : Int) : Nat :=
  (settings.callDepth.value + 1 - depth).toNat

/-- Reads text that stands inside `depth` calls. -/
def ofTextAt (settings : Settings) (depth : Int) (text : String) : Except Fault Sequence :=
  ofTextWithin settings (levelsAt settings depth) text.toList

/-- Whether an expression has more characters than are allowed. -/
def isTooLong (settings : Settings) (text : String) : Bool :=
  settings.inputLength.value < text.length

/-- Reads a whole expression. -/
def ofText (settings : Settings) (text : String) : Except Fault Sequence :=
  if isTooLong settings text then .error (.tooLong settings.inputLength)
  else ofTextAt settings 0 text

theorem of_text_fitting {settings : Settings} {text : String}
    (fits : isTooLong settings text = false) :
    ofText settings text = ofTextAt settings 0 text := by
  rw [ofText, fits]
  rfl

end RadixCalc.Sequence
