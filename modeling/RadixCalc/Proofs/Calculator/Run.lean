import RadixCalc.Calculator

/-!
Runs of a calculator: text is entered and bases are changed, in any order. Every
step leaves a calculator behind, also one that is interrupted. The ways that one
step can go are told apart here once.
-/

namespace RadixCalc

/-- A change of one of the bases, to any integer. -/
inductive BaseChange where
  | input (base : Int)
  | output (base : Int)

inductive Action where
  | enter (text : String)
  | change (change : BaseChange)

namespace Reply

def IsAnswered (reply : Reply) : Prop :=
  ∃ outcome, reply = answered outcome

instance (reply : Reply) : Decidable reply.IsAnswered :=
  match reply with
  | answered outcome => isTrue ⟨outcome, rfl⟩
  | interrupted _ => isFalse (by
      rintro ⟨outcome, same⟩
      cases same)

theorem IsAnswered.latest {reply : Reply} (answered : reply.IsAnswered) (last : Outcome) :
    reply = .answered (reply.latest last) := by
  obtain ⟨outcome, rfl⟩ := answered
  rfl

end Reply

namespace BaseChange

/-- The input base after a change, if it is `base` before. -/
def inputFrom (base : Int) : BaseChange → Int
  | input new => new
  | output _ => base

/-- The output base after a change, if it is `base` before. -/
def outputFrom (base : Int) : BaseChange → Int
  | input _ => base
  | output new => new

end BaseChange

namespace Calculator

def change (calculator : Calculator) : BaseChange → Turn
  | .input base => calculator.readIn base
  | .output base => calculator.writeIn base

def act (calculator : Calculator) : Action → Turn
  | .enter text => calculator.enter text
  | .change change => calculator.change change

theorem act_enter (calculator : Calculator) (text : String) :
    calculator.act (.enter text) = calculator.enter text :=
  rfl

theorem act_input (calculator : Calculator) (base : Int) :
    calculator.act (.change (.input base)) = calculator.readIn base :=
  rfl

theorem act_output (calculator : Calculator) (base : Int) :
    calculator.act (.change (.output base)) = calculator.writeIn base :=
  rfl

/-- The calculator after some actions. -/
def after (calculator : Calculator) : List Action → Calculator
  | [] => calculator
  | action :: rest => (calculator.act action).calculator.after rest

theorem after_cons (calculator : Calculator) (action : Action) (rest : List Action) :
    calculator.after (action :: rest) = (calculator.act action).calculator.after rest :=
  rfl

theorem after_append (calculator : Calculator) (first second : List Action) :
    calculator.after (first ++ second) = (calculator.after first).after second := by
  induction first generalizing calculator with
  | nil => rfl
  | cons action rest induction => exact induction _

/-- None of the actions is interrupted. -/
def Completes (calculator : Calculator) : List Action → Prop
  | [] => True
  | action :: rest =>
      (calculator.act action).reply.IsAnswered ∧ (calculator.act action).calculator.Completes rest

instance decidableCompletes (calculator : Calculator) :
    (actions : List Action) → Decidable (calculator.Completes actions)
  | [] => isTrue trivial
  | action :: rest =>
      have := decidableCompletes (calculator.act action).calculator rest
      inferInstanceAs (Decidable (_ ∧ _))

section Steps

variable {calculator : Calculator} {base : Int} {sequence : Sequence}

/-- There is nothing to do for a base that is in use. -/
theorem read_in_same : calculator.readIn calculator.inputBase =
    { reply := .answered calculator.last, calculator, journal := [] } := by
  simp only [readIn, if_true]

theorem read_in_tokens (changed : base ≠ calculator.inputBase)
    (kept : calculator.tokens = some sequence) :
    calculator.readIn base =
      { calculator with inputBase := base, value := none }.evaluateTokens sequence := by
  simp only [readIn, if_neg changed, kept]

theorem read_in_without_tokens (changed : base ≠ calculator.inputBase)
    (absent : calculator.tokens = none) :
    calculator.readIn base = { calculator with inputBase := base, value := none }.restate := by
  simp only [readIn, if_neg changed, absent]

theorem write_in_same : calculator.writeIn calculator.outputBase =
    { reply := .answered calculator.last, calculator, journal := [] } := by
  simp only [writeIn, if_true]

theorem write_in_value {value : Float} (changed : base ≠ calculator.outputBase)
    (kept : calculator.value = some value) :
    calculator.writeIn base = { calculator with outputBase := base }.writeValue [] value := by
  simp only [writeIn, if_neg changed, kept]

theorem write_in_tokens (changed : base ≠ calculator.outputBase)
    (valueless : calculator.value = none) (kept : calculator.tokens = some sequence) :
    calculator.writeIn base = { calculator with outputBase := base }.evaluateTokens sequence := by
  simp only [writeIn, if_neg changed, valueless, kept]

theorem write_in_without_tokens (changed : base ≠ calculator.outputBase)
    (valueless : calculator.value = none) (absent : calculator.tokens = none) :
    calculator.writeIn base = { calculator with outputBase := base }.restate := by
  simp only [writeIn, if_neg changed, valueless, absent]

theorem enter_blank {text : String} (blank : (Text.trimmed text).isEmpty = true) :
    calculator.enter text =
      { calculator with text := Text.trimmed text, tokens := none, value := none }.finish []
        { ok := true } := by
  simp [enter, accept, blank]

theorem enter_refused {text : String} {fault : Fault} (filled : (Text.trimmed text).isEmpty = false)
    (refused : Sequence.ofText calculator.settings (Text.trimmed text) = .error fault) :
    calculator.enter text =
      { calculator with text := Text.trimmed text, tokens := none, value := none }.fail []
        fault := by
  simp [enter, accept, filled, refused]

theorem enter_read {text : String} (filled : (Text.trimmed text).isEmpty = false)
    (read : Sequence.ofText calculator.settings (Text.trimmed text) = .ok sequence) :
    calculator.enter text =
      { calculator with
        text := Text.trimmed text
        tokens := some sequence
        value := none }.evaluateTokens sequence := by
  simp [enter, accept, filled, read]

end Steps

/-- The action asks for a base that is in use, and there is nothing to do. -/
def Idle (calculator : Calculator) : Action → Prop
  | .enter _ => False
  | .change (.input base) => base = calculator.inputBase
  | .change (.output base) => base = calculator.outputBase

section Course

variable {calculator : Calculator}

theorem act_idle {action : Action} (idle : calculator.Idle action) :
    calculator.act action = { reply := .answered calculator.last, calculator, journal := [] } := by
  cases action with
  | enter text => cases idle
  | change change =>
      cases change with
      | input base =>
          have same : base = calculator.inputBase := idle
          rw [act_input, same, read_in_same]
      | output base =>
          have same : base = calculator.outputBase := idle
          rw [act_output, same, write_in_same]

/-- Every way an action can go, with what the calculator does then. -/
inductive Course (calculator : Calculator) : Action → Turn → Prop where
  | idle {action : Action} (nothing : calculator.Idle action) :
      Course calculator action { reply := .answered calculator.last, calculator, journal := [] }
  | blank {text : String} (empty : (Text.trimmed text).isEmpty = true) :
      Course calculator (.enter text)
        ({ calculator with text := Text.trimmed text, tokens := none, value := none }.finish []
          { ok := true })
  | refused {text : String} {fault : Fault} (filled : (Text.trimmed text).isEmpty = false)
      (unread : Sequence.ofText calculator.settings (Text.trimmed text) = .error fault) :
      Course calculator (.enter text)
        ({ calculator with text := Text.trimmed text, tokens := none, value := none }.fail []
          fault)
  | entered {text : String} {sequence : Sequence} (filled : (Text.trimmed text).isEmpty = false)
      (read : Sequence.ofText calculator.settings (Text.trimmed text) = .ok sequence) :
      Course calculator (.enter text)
        ({ calculator with
          text := Text.trimmed text
          tokens := some sequence
          value := none }.evaluateTokens sequence)
  | readIn {base : Int} {sequence : Sequence} (kept : calculator.tokens = some sequence) :
      Course calculator (.change (.input base))
        ({ calculator with inputBase := base, value := none }.evaluateTokens sequence)
  | restatedIn {base : Int} (tokenless : calculator.tokens = none) :
      Course calculator (.change (.input base))
        { calculator with inputBase := base, value := none }.restate
  | writtenOut {base : Int} {value : Float} (found : calculator.value = some value) :
      Course calculator (.change (.output base))
        ({ calculator with outputBase := base }.writeValue [] value)
  | readOut {base : Int} {sequence : Sequence} (valueless : calculator.value = none)
      (kept : calculator.tokens = some sequence) :
      Course calculator (.change (.output base))
        ({ calculator with outputBase := base }.evaluateTokens sequence)
  | restatedOut {base : Int} (valueless : calculator.value = none)
      (tokenless : calculator.tokens = none) :
      Course calculator (.change (.output base)) { calculator with outputBase := base }.restate

theorem act_course (calculator : Calculator) (action : Action) :
    calculator.Course action (calculator.act action) := by
  by_cases nothing : calculator.Idle action
  · rw [act_idle nothing]
    exact .idle nothing
  -- The cases are what the action looks at: the text, or what the calculator keeps of it.
  cases action with
  | enter text =>
      rw [act_enter]
      cases blank : (Text.trimmed text).isEmpty with
      | true =>
          rw [enter_blank blank]
          exact .blank blank
      | false =>
          cases read : Sequence.ofText calculator.settings (Text.trimmed text) with
          | error fault =>
              rw [enter_refused blank read]
              exact .refused blank read
          | ok sequence =>
              rw [enter_read blank read]
              exact .entered blank read
  | change change =>
      cases change with
      | input base =>
          rw [act_input]
          cases kept : calculator.tokens with
          | some sequence =>
              rw [read_in_tokens nothing kept]
              exact .readIn kept
          | none =>
              rw [read_in_without_tokens nothing kept]
              exact .restatedIn kept
      | output base =>
          rw [act_output]
          cases found : calculator.value with
          | some value =>
              rw [write_in_value nothing found]
              exact .writtenOut found
          | none =>
              cases kept : calculator.tokens with
              | some sequence =>
                  rw [write_in_tokens nothing found kept]
                  exact .readOut found kept
              | none =>
                  rw [write_in_without_tokens nothing found kept]
                  exact .restatedOut found kept

end Course

/-- What every step that is not interrupted preserves holds after a run of such steps. -/
theorem after_induction {actions : List Action} (holds : Calculator → Prop)
    (step : ∀ calculator action, action ∈ actions → holds calculator →
      (calculator.act action).reply.IsAnswered → holds (calculator.act action).calculator)
    {calculator : Calculator} (start : holds calculator)
    (completes : calculator.Completes actions) : holds (calculator.after actions) := by
  induction actions generalizing calculator with
  | nil => exact start
  | cons action rest induction =>
      have first := step calculator action (by simp) start completes.1
      apply induction _ first completes.2
      intro calculator other member
      exact step calculator other (by simp [member])

end Calculator

end RadixCalc
