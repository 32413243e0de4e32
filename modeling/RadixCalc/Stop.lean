import RadixCalc.Fault

/-!
Why a computation stops short. A fault is reported to the user. Everything else
that a step can run into is taken up by nothing and interrupts the step.
-/

namespace RadixCalc

/-- Why the mathematical library has no number for its arguments. -/
inductive MathRefusal where
  /-- There is none. -/
  | domain
  /-- It is beyond the largest one. -/
  | range
deriving DecidableEq, Repr

namespace MathRefusal

def message : MathRefusal → String
  | domain => "math domain error"
  | range => "math range error"

end MathRefusal

/-- What interrupts a step. -/
inductive Interruption where
  /-- The floor of an infinity was asked for. -/
  | infiniteFloor
  /-- The floor of NaN was asked for. -/
  | undefinedFloor
  | zeroDivision
  /-- A refusal of the mathematical library that was not expected. -/
  | mathematics (refusal : MathRefusal)
  /-- A message was to show a number with too many digits. -/
  | longNumber
  /-- An expression was asked for without its text. -/
  | missingText
deriving DecidableEq, Repr

namespace Interruption

def message : Interruption → String
  | infiniteFloor => "cannot convert float infinity to integer"
  | undefinedFloor => "cannot convert float NaN to integer"
  | zeroDivision => "float division by zero"
  | mathematics refusal => refusal.message
  | longNumber =>
      s!"Exceeds the limit ({Text.WholeNumber.maxDigits} digits) for integer string conversion; "
        ++ "use sys.set_int_max_str_digits() to increase the limit"
  | missingText => "'list' object has no attribute 'strip'"

end Interruption

/-- Why a computation stops short. -/
inductive Stop where
  | fault (fault : Fault)
  | interruption (cause : Interruption)
deriving DecidableEq, Repr

namespace Stop

/-- A fault that shows a number: a number that cannot be shown interrupts instead. -/
def showing (number : Int) (fault : ShownInt → Fault) : Stop :=
  match ShownInt.ofInt? number with
  | some shown => .fault (fault shown)
  | none => .interruption .longNumber

theorem showing_value (shown : ShownInt) (fault : ShownInt → Fault) :
    showing shown.value fault = .fault (fault shown) := by
  rw [showing, ShownInt.of_int_value]

/-- The result of something that stops short only for a fault. -/
def ofChecked {α : Type} : Except Fault α → Except Stop α
  | .ok value => .ok value
  | .error cause => .error (.fault cause)

theorem of_checked_ok {α : Type} {result : Except Fault α} {value : α} :
    ofChecked result = .ok value ↔ result = .ok value := by
  cases result <;> simp [ofChecked]

theorem of_checked_error {α : Type} {result : Except Fault α} {stop : Stop}
    (stopped : ofChecked result = .error stop) :
    ∃ problem, result = .error problem ∧ stop = .fault problem := by
  cases result with
  | ok value => cases stopped
  | error problem => exact ⟨problem, rfl, (Except.error.inj stopped).symm⟩

/-- The result of something that stops short only because it is interrupted. -/
def ofUncaught {α : Type} : Except Interruption α → Except Stop α
  | .ok value => .ok value
  | .error cause => .error (.interruption cause)

end Stop

end RadixCalc
