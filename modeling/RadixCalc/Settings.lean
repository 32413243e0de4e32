import RadixCalc.Text.ShownInt

/-!
What can be set before a calculation starts. Limits may be any whole number: a
negative one allows nothing. Two of them are shown when they are exceeded.
-/

namespace RadixCalc

structure Settings where
  /-- Most digits after the point in a result. -/
  fractionDigits : Int := 15
  /-- Base of literals where none is asked for. -/
  inputBase : Int := 10
  /-- Base of results where none is asked for. -/
  outputBase : Int := 10
  /-- Most characters of an expression. -/
  inputLength : ShownInt := ⟨10000, by decide +kernel⟩
  /-- Deepest nesting of calls. -/
  callDepth : ShownInt := ⟨100, by decide +kernel⟩
  /-- Most sequences that are kept from earlier readings. -/
  shelfSize : Int := 1024

end RadixCalc
