import RadixCalc.Proofs.Calculation.Ending
import RadixCalc.Proofs.Calculator.Stages

/-!
What a calculator keeps belongs together. Its tokens are those of its text, and
its latest outcome is that of the furthest stage reached with them. A value
outlives an output base that it cannot be written in, so that a later base can
still write it; nothing else outlives the stage that failed on it.
-/

namespace RadixCalc

namespace Calculator

/-- The latest outcome, under the bases that the calculator has now. -/
def LastIs (calculator : Calculator) (outcome : Outcome) : Prop :=
  calculator.last = outcome.withBases calculator.inputBase calculator.outputBase

structure Coherent (settings : Settings) (calculator : Calculator) : Prop where
  unchanged : calculator.settings = settings
  bases : calculator.last.inputBase = some calculator.inputBase ∧
    calculator.last.outputBase = some calculator.outputBase
  tokens : ∀ sequence, calculator.tokens = some sequence ↔
    calculator.text.isEmpty = false ∧ Sequence.ofText settings calculator.text = .ok sequence
  valued : calculator.value.isSome = true → calculator.tokens.isSome = true
  /-- A kept value has been written in the output base, or the base is not one to write it in. -/
  written : ∀ value, calculator.value = some value →
    (∃ result, Calculation.written settings value calculator.outputBase = .ok result ∧
      calculator.LastIs (.success result value)) ∨
    (∃ shown : ShownInt, shown.value = calculator.outputBase ∧
      calculator.LastIs (.failure (.unsupportedBase shown)) ∧
      calculator.last.errorCode = some "UNSUPPORTED_BASE")
  failed : calculator.tokens.isSome = true → calculator.value = none →
    ∃ fault, calculator.LastIs (.failure fault)
  unread : calculator.tokens = none →
    (calculator.text.isEmpty = true ∧ calculator.LastIs { ok := true }) ∨
    (calculator.text.isEmpty = false ∧ ∃ fault,
      Sequence.ofText settings calculator.text = .error fault ∧
        calculator.LastIs (.failure fault))
  exclusive : calculator.last.result = none ∨ calculator.last.error = none

/-- The tokens are kept that the text is read as. -/
structure Keeps (settings : Settings) (calculator : Calculator) (sequence : Sequence) : Prop where
  unchanged : calculator.settings = settings
  kept : calculator.tokens = some sequence
  filled : calculator.text.isEmpty = false
  read : Sequence.ofText settings calculator.text = .ok sequence

variable {settings : Settings} {calculator : Calculator} {sequence : Sequence} {value : Float}

theorem Keeps.tokens_iff (keeps : Keeps settings calculator sequence) (other : Sequence) :
    calculator.tokens = some other ↔
      calculator.text.isEmpty = false ∧ Sequence.ofText settings calculator.text = .ok other := by
  rw [keeps.kept, keeps.read, Option.some.injEq, Except.ok.injEq]
  exact ⟨fun same => ⟨keeps.filled, same⟩, fun both => both.2⟩

theorem fail_coherent (keeps : Keeps settings calculator sequence)
    (valueless : calculator.value = none) (journal : List Event) (fault : Fault) :
    Coherent settings (calculator.fail journal fault).calculator where
  unchanged := keeps.unchanged
  bases := ⟨rfl, rfl⟩
  tokens := keeps.tokens_iff
  valued := by
    intro present
    simp [fail, finish, valueless] at present
  written := by
    intro value found
    simp [fail, finish, valueless] at found
  failed := by
    intro _ _
    exact ⟨fault, rfl⟩
  unread := by
    intro absent
    simp [fail, finish, keeps.kept] at absent
  exclusive := Or.inl rfl

/-- Whether it could be written or not, a value stays, and only the outcome is another one. -/
theorem finish_valued_coherent (keeps : Keeps settings calculator sequence)
    (found : calculator.value = some value) (journal : List Event) {outcome : Outcome}
    (ended : (∃ result, Calculation.written settings value calculator.outputBase = .ok result ∧
        outcome = .success result value) ∨
      ∃ shown : ShownInt, shown.value = calculator.outputBase ∧
        outcome = .failure (.unsupportedBase shown)) :
    Coherent settings (calculator.finish journal outcome).calculator where
  unchanged := keeps.unchanged
  bases := ⟨rfl, rfl⟩
  tokens := keeps.tokens_iff
  valued := by
    intro _
    simp [finish, keeps.kept]
  written := by
    intro other present
    obtain rfl : value = other := Option.some.inj (found.symm.trans present)
    rcases ended with ⟨result, written, rfl⟩ | ⟨shown, same, rfl⟩
    · exact Or.inl ⟨result, written, rfl⟩
    · exact Or.inr ⟨shown, same, rfl, rfl⟩
  failed := by
    intro _ valueless
    simp [finish, found] at valueless
  unread := by
    intro absent
    simp [finish, keeps.kept] at absent
  exclusive := by
    rcases ended with ⟨result, -, rfl⟩ | ⟨shown, -, rfl⟩
    · exact Or.inr rfl
    · exact Or.inl rfl

theorem write_value_coherent (keeps : Keeps settings calculator sequence)
    (found : calculator.value = some value) (journal : List Event)
    (answered : (calculator.writeValue journal value).reply.IsAnswered) :
    Coherent settings (calculator.writeValue journal value).calculator := by
  unfold writeValue at answered ⊢
  rw [keeps.unchanged] at answered ⊢
  cases written : Calculation.written settings value calculator.outputBase with
  | ok result =>
      exact finish_valued_coherent keeps found journal (Or.inl ⟨result, written, rfl⟩)
  | error stop =>
      rw [written] at answered
      cases stop with
      | fault fault =>
          obtain ⟨shown, same, rfl⟩ := Calculation.written_stop written
          exact finish_valued_coherent keeps found _ (Or.inr ⟨shown, same, rfl⟩)
      | interruption cause =>
          obtain ⟨outcome, other⟩ := answered
          cases other

theorem evaluate_tokens_coherent (keeps : Keeps settings calculator sequence)
    (answered : (calculator.evaluateTokens sequence).reply.IsAnswered) :
    Coherent settings (calculator.evaluateTokens sequence).calculator := by
  have course := calculator.evaluate_tokens_course sequence
  generalize calculator.evaluateTokens sequence = turn at course answered ⊢
  cases course with
  | valued ended =>
      apply write_value_coherent
      · exact { keeps with }
      · rfl
      · exact answered
  | failed ended =>
      apply fail_coherent
      · exact { keeps with }
      · rfl
  | interrupted ended =>
      -- Only an interruption would leave the outcome of other tokens or bases behind.
      obtain ⟨outcome, same⟩ := answered
      cases same

/-- Without tokens there is nothing to compute, and the outcome is that of the text. -/
theorem finish_unread_coherent (same : calculator.settings = settings)
    (absent : calculator.tokens = none) (valueless : calculator.value = none)
    (journal : List Event) {outcome : Outcome}
    (ended : (calculator.text.isEmpty = true ∧ outcome = { ok := true }) ∨
      (calculator.text.isEmpty = false ∧ ∃ fault,
        Sequence.ofText settings calculator.text = .error fault ∧ outcome = .failure fault)) :
    Coherent settings (calculator.finish journal outcome).calculator where
  unchanged := same
  bases := ⟨rfl, rfl⟩
  tokens := by
    intro sequence
    rcases ended with ⟨blank, -⟩ | ⟨-, fault, refused, -⟩
    · simp [finish, absent, blank]
    · simp [finish, absent, refused]
  valued := by
    intro present
    simp [finish, valueless] at present
  written := by
    intro value found
    simp [finish, valueless] at found
  failed := by
    intro present
    simp [finish, absent] at present
  unread := by
    intro _
    rcases ended with ⟨blank, rfl⟩ | ⟨filled, fault, refused, rfl⟩
    · exact Or.inl ⟨blank, rfl⟩
    · exact Or.inr ⟨filled, fault, refused, rfl⟩
  exclusive := by
    rcases ended with ⟨-, rfl⟩ | ⟨-, fault, -, rfl⟩
    · exact Or.inl rfl
    · exact Or.inl rfl

/-- An outcome that has nothing but a verdict is repeated whole. -/
theorem restate_coherent (coherent : Coherent settings calculator)
    (absent : calculator.tokens = none) (inputBase outputBase : Int) :
    Coherent settings
      { calculator with inputBase, outputBase, value := none }.restate.calculator := by
  apply finish_unread_coherent
  · exact coherent.unchanged
  · exact absent
  · rfl
  rcases coherent.unread absent with ⟨blank, last⟩ | ⟨filled, fault, refused, last⟩
  · rw [last]
    exact Or.inl ⟨blank, rfl⟩
  · rw [last]
    exact Or.inr ⟨filled, fault, refused, rfl⟩

theorem start_coherent (settings : Settings) (functions : FunctionTable)
    (inputBase outputBase : Int) (bindings : Bindings) :
    Coherent settings (start settings functions inputBase outputBase bindings) := by
  -- A new calculator is as if blank text had been entered.
  exact @finish_unread_coherent settings
    (start settings functions inputBase outputBase bindings) rfl rfl rfl [] { ok := true }
    (Or.inl ⟨rfl, rfl⟩)

theorem Coherent.keeps (coherent : Coherent settings calculator)
    (kept : calculator.tokens = some sequence) : Keeps settings calculator sequence where
  unchanged := coherent.unchanged
  kept := kept
  filled := ((coherent.tokens sequence).mp kept).1
  read := ((coherent.tokens sequence).mp kept).2

theorem act_coherent {action : Action} (coherent : Coherent settings calculator)
    (answered : (calculator.act action).reply.IsAnswered) :
    Coherent settings (calculator.act action).calculator := by
  have same := coherent.unchanged
  have course := calculator.act_course action
  generalize calculator.act action = turn at course answered ⊢
  cases course with
  | idle nothing => exact coherent
  | blank empty =>
      apply finish_unread_coherent
      · exact same
      · rfl
      · rfl
      · exact Or.inl ⟨empty, rfl⟩
  | @refused text fault filled unread =>
      apply finish_unread_coherent
      · exact same
      · rfl
      · rfl
      · exact Or.inr ⟨filled, fault, same ▸ unread, rfl⟩
  | entered filled read =>
      apply evaluate_tokens_coherent
      · exact ⟨same, rfl, filled, same ▸ read⟩
      · exact answered
  | readIn kept =>
      apply evaluate_tokens_coherent
      · exact { coherent.keeps kept with }
      · exact answered
  | restatedIn tokenless => exact restate_coherent coherent tokenless _ calculator.outputBase
  | writtenOut found =>
      -- A value is only kept together with the tokens that it is the value of.
      obtain ⟨sequence, kept⟩ :=
        Option.isSome_iff_exists.mp (coherent.valued (by rw [found]; rfl))
      have keeps := coherent.keeps kept
      apply write_value_coherent
      · exact { keeps with }
      · exact found
      · exact answered
  | readOut valueless kept =>
      apply evaluate_tokens_coherent
      · exact { coherent.keeps kept with }
      · exact answered
  | @restatedOut base valueless tokenless =>
      have restated := restate_coherent coherent tokenless calculator.inputBase base
      rwa [← valueless] at restated

/-- Whatever is entered and whichever bases are chosen, what a calculator keeps belongs together
after every step, if no step is interrupted. -/
theorem coherent_after (settings : Settings) (functions : FunctionTable)
    (inputBase outputBase : Int) (bindings : Bindings) (actions : List Action)
    (completes : (start settings functions inputBase outputBase bindings).Completes actions) :
    Coherent settings
      ((start settings functions inputBase outputBase bindings).after actions) := by
  apply after_induction (Coherent settings) _ _ completes
  · intro calculator action _ coherent answered
    exact act_coherent coherent answered
  · exact start_coherent settings functions inputBase outputBase bindings

/-- After text that cannot be read comes a value, which outlives base 99 and is written once the
base is 2. -/
theorem coherent_after_unwritable :
    let calculator := (start {} FunctionTable.standard 10 10 Directory.empty).after
      [.enter "6 @", .enter "x = 6", .change (.output 99), .change (.output 2)]
    Coherent {} calculator ∧ calculator.text = "x = 6" ∧ calculator.inputBase = 10 ∧
      calculator.outputBase = 2 ∧ calculator.value = some 6.0 ∧
      calculator.last.result = some "110" ∧ calculator.last.error = none := by
  intro calculator
  refine ⟨coherent_after {} _ _ _ _ _ (by decide +kernel), ?_⟩
  decide +kernel

end Calculator

end RadixCalc
