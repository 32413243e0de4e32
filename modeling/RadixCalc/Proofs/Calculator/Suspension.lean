import RadixCalc.Proofs.Calculator.Coherence
import RadixCalc.Proofs.Calculator.History
import RadixCalc.Proofs.Calculator.Stages

/-!
Runs with interruptions. An interrupted step has already taken over its text or
its base, but has no outcome of its own, and the calculator is left with the
outcome of an earlier text or of an earlier base until a step has something to
do again and is not interrupted. Otherwise the latest outcome is that of the
text kept, calculated in the present bases.
-/

namespace RadixCalc.Calculator

/-- The text kept comes to this reply: so ends its calculation in the present bases and the
variables there were before, which leaves the present variables. What is kept of its stages is what
that calculation passes through. -/
structure ComesTo (before : Bindings) (reply : Reply) (calculator : Calculator) : Prop where
  trimmed : Text.trimmed calculator.text = calculator.text
  tokens : ∀ sequence, calculator.tokens = some sequence ↔
    calculator.text.isEmpty = false ∧
      Sequence.ofText calculator.settings calculator.text = .ok sequence
  value : ∀ value, calculator.value = some value →
    ∃ sequence, calculator.tokens = some sequence ∧
    (sequence.evaluate calculator.functions calculator.inputBase before).ending = .ok value
  calculated : { calculator with bindings := before }.calculation calculator.text =
    { reply, bindings := calculator.bindings }
  /-- Only an interruption leaves another outcome behind. -/
  settled : reply = .answered calculator.last ∨ ∃ cause, reply = .interrupted cause

variable {settings : Settings} {before : Bindings} {reply : Reply} {calculator : Calculator}
  {sequence : Sequence}

theorem Keeps.calculation (keeps : Keeps settings calculator sequence)
    (trimmed : Text.trimmed calculator.text = calculator.text) (bindings : Bindings) :
    { calculator with bindings }.calculation calculator.text =
      Calculation.ofSequence calculator.settings calculator.functions calculator.inputBase
        calculator.outputBase bindings sequence := by
  have read := keeps.read
  rw [← keeps.unchanged] at read
  simp only [Calculator.calculation, Calculation.ofText, trimmed, keeps.filled, read,
    Bool.false_eq_true, if_false]

theorem ComesTo.keeps (comes : ComesTo before reply calculator)
    (kept : calculator.tokens = some sequence) :
    Keeps calculator.settings calculator sequence where
  unchanged := rfl
  kept := kept
  filled := ((comes.tokens sequence).mp kept).1
  read := ((comes.tokens sequence).mp kept).2

/-- What is answered to the writing of a value is the latest outcome then. -/
theorem written_settles (calculator : Calculator) (value : Float) (last : Outcome) :
    calculator.written value = .answered ((calculator.written value).latest last) ∨
      ∃ cause, calculator.written value = .interrupted cause := by
  cases calculator.written value with
  | answered outcome => exact Or.inl rfl
  | interrupted cause => exact Or.inr ⟨cause, rfl⟩

theorem evaluate_tokens_comes_to (keeps : Keeps settings calculator sequence)
    (trimmed : Text.trimmed calculator.text = calculator.text)
    (valueless : calculator.value = none) :
    ComesTo calculator.bindings (calculator.evaluateTokens sequence).reply
      (calculator.evaluateTokens sequence).calculator := by
  have calculated := keeps.calculation trimmed calculator.bindings
  rw [evaluate_tokens_calculated] at calculated
  obtain rfl := keeps.unchanged
  have course := calculator.evaluate_tokens_course sequence
  generalize calculator.evaluateTokens sequence = turn at course calculated ⊢
  cases course with
  | @valued value ended =>
      rw [write_value_reply, write_value_calculator] at calculated ⊢
      exact
        { trimmed
          tokens := keeps.tokens_iff
          value := by
            intro other same
            obtain rfl := Option.some.inj same
            exact ⟨sequence, keeps.kept, ended⟩
          calculated
          settled := written_settles calculator value calculator.last }
  | failed ended =>
      exact
        { trimmed
          tokens := keeps.tokens_iff
          value := by
            intro other same
            cases same
          calculated
          settled := Or.inl rfl }
  | @interrupted cause ended =>
      -- Nothing is written down of an interruption but what the evaluation assigned.
      exact
        { trimmed
          tokens := keeps.tokens_iff
          value := by
            intro other same
            rw [valueless] at same
            cases same
          calculated
          settled := Or.inr ⟨cause, rfl⟩ }

/-- A kept value is what the text comes to in any output base. -/
theorem write_value_comes_to (comes : ComesTo before reply calculator) {value : Float}
    (found : calculator.value = some value) (base : Int) :
    ComesTo before ({ calculator with outputBase := base }.writeValue [] value).reply
      ({ calculator with outputBase := base }.writeValue [] value).calculator := by
  obtain ⟨sequence, kept, ended⟩ := comes.value value found
  have keeps := comes.keeps kept
  have left := congrArg Calculated.bindings comes.calculated
  rw [keeps.calculation comes.trimmed before] at left
  have further : Keeps calculator.settings { calculator with outputBase := base } sequence :=
    { keeps with }
  have calculated := further.calculation comes.trimmed before
  rw [write_value_reply, write_value_calculator]
  exact
    { trimmed := comes.trimmed
      tokens := comes.tokens
      value := comes.value
      calculated := by
        refine calculated.trans ?_
        simp only [Calculation.ofSequence, ended] at left ⊢
        rw [left]
        rfl
      settled := written_settles { calculator with outputBase := base } value calculator.last }

/-- Without tokens the text is blank or was refused, also with the variables from before. -/
theorem ComesTo.reads_text (comes : ComesTo before reply calculator)
    (absent : calculator.tokens = none) :
    { calculator with bindings := before }.ReadsText calculator.text := by
  simp only [ReadsText, absent, comes.trimmed]
  cases blank : calculator.text.isEmpty with
  | true => exact Or.inl rfl
  | false =>
      cases read : Sequence.ofText calculator.settings calculator.text with
      | error fault => exact Or.inr ⟨fault, rfl, rfl⟩
      | ok sequence =>
          have kept := (comes.tokens sequence).mpr ⟨blank, read⟩
          rw [absent] at kept
          cases kept

/-- Without tokens the text comes to what it came to, under any bases. -/
theorem restate_comes_to (comes : ComesTo before reply calculator)
    (absent : calculator.tokens = none) (inputBase outputBase : Int) :
    let switched := { calculator with inputBase, outputBase, value := none }
    ComesTo before switched.restate.reply switched.restate.calculator := by
  intro switched
  obtain ⟨outcome, resultless, empty, scratch⟩ :=
    @calculation_without_tokens { calculator with bindings := before } calculator.text absent
      (comes.reads_text absent)
  have calculated := comes.calculated
  rw [scratch calculator.inputBase calculator.outputBase] at calculated
  obtain ⟨answered, unchanged⟩ := Calculated.mk.inj calculated
  have last : calculator.last = outcome.withBases calculator.inputBase calculator.outputBase := by
    rcases comes.settled with same | interrupted
    · rw [same] at answered
      exact (Reply.answered.inj answered).symm
    · obtain ⟨cause, interrupted⟩ := interrupted
      rw [interrupted] at answered
      cases answered
  have restated : switched.restate.calculator.last = outcome.withBases inputBase outputBase := by
    simp [switched, restate, finish, last, Outcome.withBases, resultless, empty]
  exact
    { trimmed := comes.trimmed
      tokens := comes.tokens
      value := by
        intro value same
        cases same
      calculated := by
        refine (scratch inputBase outputBase).trans ?_
        rw [← restated, unchanged]
        rfl
      settled := Or.inl rfl }

section Entering

variable (calculator : Calculator) {text : String}

theorem blank_comes_to (empty : (Text.trimmed text).isEmpty = true) :
    let turn := { calculator with
      text := Text.trimmed text, tokens := none, value := none }.finish [] { ok := true }
    ComesTo calculator.bindings turn.reply turn.calculator where
  trimmed := Text.trimmed_trimmed text
  tokens := by
    intro sequence
    simp [finish, empty]
  value := by
    intro value same
    cases same
  calculated := by
    simp only [finish, Calculator.calculation, Calculation.ofText, Text.trimmed_trimmed, empty,
      if_true]
  settled := Or.inl rfl

theorem refused_comes_to {fault : Fault} (filled : (Text.trimmed text).isEmpty = false)
    (unread : Sequence.ofText calculator.settings (Text.trimmed text) = .error fault) :
    let turn := { calculator with
      text := Text.trimmed text, tokens := none, value := none }.fail [] fault
    ComesTo calculator.bindings turn.reply turn.calculator where
  trimmed := Text.trimmed_trimmed text
  tokens := by
    intro sequence
    simp [fail, finish, unread]
  value := by
    intro value same
    cases same
  calculated := by
    simp only [fail, finish, Calculator.calculation, Calculation.ofText, Text.trimmed_trimmed,
      filled, unread, Reply.ofEnding, Bool.false_eq_true, if_false]
  settled := Or.inl rfl

end Entering

/-- An action that has something to do settles what the text kept comes to. -/
theorem act_comes_to (comes : ComesTo before reply calculator) {action : Action}
    (busy : ¬ calculator.Idle action) :
    ∃ earlier, ComesTo earlier (calculator.act action).reply
      (calculator.act action).calculator := by
  have course := calculator.act_course action
  generalize calculator.act action = turn at course ⊢
  cases course with
  | idle nothing => exact absurd nothing busy
  | blank empty => exact ⟨_, blank_comes_to calculator empty⟩
  | refused filled unread => exact ⟨_, refused_comes_to calculator filled unread⟩
  | entered filled read =>
      exact ⟨_, evaluate_tokens_comes_to ⟨rfl, rfl, filled, read⟩
        (Text.trimmed_trimmed _) rfl⟩
  | readIn kept =>
      have keeps := comes.keeps kept
      exact ⟨_, evaluate_tokens_comes_to
        ⟨rfl, kept, keeps.filled, keeps.read⟩ comes.trimmed rfl⟩
  | restatedIn tokenless => exact ⟨_, restate_comes_to comes tokenless _ calculator.outputBase⟩
  | writtenOut found => exact ⟨_, write_value_comes_to comes found _⟩
  | readOut valueless kept =>
      have keeps := comes.keeps kept
      exact ⟨_, evaluate_tokens_comes_to ⟨rfl, kept, keeps.filled, keeps.read⟩ comes.trimmed
        valueless⟩
  | @restatedOut base valueless tokenless =>
      have restated := restate_comes_to comes tokenless calculator.inputBase base
      rw [← valueless] at restated
      exact ⟨_, restated⟩

/-- Where a calculation is interrupted, a value is only kept if the output base is too long. -/
theorem ComesTo.valueless {cause : Interruption}
    (comes : ComesTo before (.interrupted cause) calculator) :
    calculator.value = none ∨ ShownInt.ofInt? calculator.outputBase = none := by
  cases found : calculator.value with
  | none => exact Or.inl rfl
  | some value =>
      right
      obtain ⟨sequence, kept, ended⟩ := comes.value value found
      have calculated := congrArg Calculated.reply comes.calculated
      rw [(comes.keeps kept).calculation comes.trimmed before] at calculated
      simp only [Calculation.ofSequence, ended] at calculated
      change Reply.ofEnding _ _ (Calculation.outcomeOf _ _ value) = _ at calculated
      rw [Calculation.outcomeOf] at calculated
      cases rendered : Calculation.written calculator.settings value calculator.outputBase with
      | ok result =>
          rw [rendered] at calculated
          cases calculated
      | error stop =>
          rw [rendered] at calculated
          cases stop with
          | fault fault => cases calculated
          | interruption other => exact (Calculation.written_stop rendered).2

theorem ComesTo.bases (comes : ComesTo before (.answered calculator.last) calculator) :
    calculator.last.inputBase = some calculator.inputBase ∧
      calculator.last.outputBase = some calculator.outputBase := by
  have ends := Calculation.of_text_ends calculator.settings calculator.functions
    calculator.inputBase calculator.outputBase before calculator.text
  have calculated := congrArg Calculated.reply comes.calculated
  simp only [Calculator.calculation] at calculated
  rw [calculated] at ends
  generalize calculator.last = outcome at ends ⊢
  cases ends <;> exact ⟨rfl, rfl⟩

theorem write_value_last {journal : List Event} {value : Float} {cause : Interruption}
    (interrupted : (calculator.writeValue journal value).reply = .interrupted cause) :
    (calculator.writeValue journal value).calculator.last = calculator.last := by
  rw [write_value_reply] at interrupted
  rw [write_value_calculator, interrupted]
  rfl

theorem evaluate_tokens_last {cause : Interruption}
    (interrupted : (calculator.evaluateTokens sequence).reply = .interrupted cause) :
    (calculator.evaluateTokens sequence).calculator.last = calculator.last := by
  have course := calculator.evaluate_tokens_course sequence
  generalize calculator.evaluateTokens sequence = turn at course interrupted ⊢
  cases course with
  | valued ended => rw [write_value_last interrupted]
  | failed ended => cases interrupted
  | interrupted ended => rfl

/-- What is interrupted does not touch the outcome before it. -/
theorem act_last {action : Action} {cause : Interruption}
    (interrupted : (calculator.act action).reply = .interrupted cause) :
    (calculator.act action).calculator.last = calculator.last := by
  have course := calculator.act_course action
  generalize calculator.act action = turn at course interrupted ⊢
  cases course with
  | idle nothing => rfl
  | blank empty => cases interrupted
  | refused filled unread => cases interrupted
  | entered filled read => rw [evaluate_tokens_last interrupted]
  | readIn kept => rw [evaluate_tokens_last interrupted]
  | restatedIn tokenless => cases interrupted
  | writtenOut found => rw [write_value_last interrupted]
  | readOut valueless kept => rw [evaluate_tokens_last interrupted]
  | restatedOut valueless tokenless => cases interrupted

theorem start_comes_to (settings : Settings) (functions : FunctionTable)
    (inputBase outputBase : Int) (bindings : Bindings) :
    ComesTo bindings (.answered (start settings functions inputBase outputBase bindings).last)
      (start settings functions inputBase outputBase bindings) where
  trimmed := Text.trimmed_trimmed ""
  tokens := by
    intro sequence
    simp [start]
  value := by
    intro value same
    cases same
  calculated := by
    have blank : (Text.trimmed "").isEmpty = true := by decide
    simp only [start, Calculator.calculation, Calculation.ofText, blank, if_true]
  settled := Or.inl rfl

/-- Of a run it matters what the text kept comes to, and, if that is an interruption, which action
was interrupted and that there was nothing to do since then. -/
theorem after_comes_to {first : Calculator} (comes : ComesTo before (.answered first.last) first)
    (actions : List Action) :
    ∃ (start : Bindings) (reply : Reply), ComesTo start reply (first.after actions) ∧
      (∀ cause, reply = .interrupted cause → ∃ earlier action later,
        actions = earlier ++ action :: later ∧
        ((first.after earlier).act action).reply = .interrupted cause ∧
        (∀ idle ∈ later, (first.after actions).Idle idle) ∧
        (first.after actions).last = (first.after earlier).last) := by
  induction actions using List.reverseRecOn with
  | nil => exact ⟨before, _, comes, by rintro _ ⟨⟩⟩
  | append_singleton actions action induction =>
      obtain ⟨start, reply, came, suspended⟩ := induction
      have next : first.after (actions ++ [action]) =
          ((first.after actions).act action).calculator := after_append first actions [action]
      rw [next]
      -- Where there is nothing to do an interruption lasts; all else settles the text anew.
      by_cases idle : (first.after actions).Idle action
      · rw [act_idle idle]
        refine ⟨start, reply, came, ?_⟩
        intro cause interrupted
        obtain ⟨earlier, busy, later, same, stopped, idles, left⟩ := suspended cause interrupted
        refine ⟨earlier, busy, later ++ [action], by simp [same], stopped, ?_, left⟩
        intro other member
        rcases List.mem_append.mp member with before | last
        · exact idles other before
        · rw [List.mem_singleton.mp last]
          exact idle
      · obtain ⟨again, settled⟩ := act_comes_to came idle
        refine ⟨again, _, settled, ?_⟩
        intro cause interrupted
        exact ⟨actions, action, [], rfl, interrupted, by simp, act_last interrupted⟩

/-- In every run, interrupted or not, the text kept and the present bases have been calculated from
variables there were before, which left the present ones. If that calculation ended, the latest
outcome is its outcome, and it is repeated where there is nothing to do. If it was interrupted, no
value is kept unless it is the output base that cannot be shown, nothing has been done since, and
the latest outcome is the one from before the interrupted action, with the text and the bases of
that time. -/
theorem last_after_interruptions (settings : Settings) (functions : FunctionTable)
    (inputBase outputBase : Int) (bindings : Bindings) (actions : List Action) :
    let first := start settings functions inputBase outputBase bindings
    let calculator := first.after actions
    ∃ (before : Bindings) (reply : Reply),
      { calculator with bindings := before }.calculation calculator.text =
        { reply, bindings := calculator.bindings } ∧
      ((reply = .answered calculator.last ∧
          calculator.last.inputBase = some calculator.inputBase ∧
          calculator.last.outputBase = some calculator.outputBase ∧
          ∀ idle, calculator.Idle idle → (calculator.act idle).reply = reply) ∨
        ((∃ cause, reply = .interrupted cause) ∧
          (calculator.value = none ∨ ShownInt.ofInt? calculator.outputBase = none) ∧
          ∃ earlier action later, actions = earlier ++ action :: later ∧
            ((first.after earlier).act action).reply = reply ∧
            (∀ idle ∈ later, calculator.Idle idle) ∧
            calculator.last = (first.after earlier).last)) := by
  intro first calculator
  have started := start_comes_to settings functions inputBase outputBase bindings
  obtain ⟨before, reply, comes, suspended⟩ := after_comes_to started actions
  refine ⟨before, reply, comes.calculated, ?_⟩
  rcases comes.settled with answered | ⟨cause, interrupted⟩
  · subst answered
    refine Or.inl ⟨rfl, comes.bases.1, comes.bases.2, ?_⟩
    intro idle nothing
    rw [act_idle nothing]
  · subst interrupted
    exact Or.inr ⟨⟨cause, rfl⟩, comes.valueless, suspended cause rfl⟩

/-- The second text has no outcome, and where there is nothing to do the outcome of the first one is
answered under it. -/
theorem last_of_earlier_text :
    let first := start {} FunctionTable.standard 10 10 Bindings.standard
    let calculator := first.after [.enter "1+1", .enter "0^(-1/0)"]
    ((first.after [.enter "1+1"]).act (.enter "0^(-1/0)")).reply = .interrupted .infiniteFloor ∧
      calculator.text = "0^(-1/0)" ∧
      (calculator.calculation calculator.text).reply = .interrupted .infiniteFloor ∧
      calculator.Idle (.change (.output 10)) ∧
      ∃ outcome, (calculator.act (.change (.output 10))).reply = .answered outcome ∧
        outcome.ok = true ∧ outcome.result = some "2" := by
  intro first calculator
  have idle : calculator.Idle (.change (.output 10)) := by
    change (10 : Int) = calculator.outputBase
    decide +kernel
  refine ⟨by decide +kernel, by decide +kernel, by decide +kernel,
    idle, calculator.last, ?_, by decide +kernel, by decide +kernel⟩
  rw [act_idle idle]

end RadixCalc.Calculator
