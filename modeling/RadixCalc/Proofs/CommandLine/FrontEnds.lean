import RadixCalc.CommandLine.Program
import RadixCalc.Proofs.CommandLine.Options
import RadixCalc.Proofs.Console.Entering

/-!
Expressions as arguments of the command line, as lines of a conversation, and
calculated one after another over one table. All three show the same for each
expression and leave the same variables.
-/

namespace RadixCalc.CommandLine

open Console (IsExpression shownEach outputText)

variable {settings : Settings} {functions : FunctionTable} {inputBase outputBase : Int}
  {bindings : Bindings} {format : AnswerFormat} {text : String} {texts : List String}

theorem without_mark_of_unmarked (unmarked : ¬['>', '>', '>'] <+: (Text.trimmed text).toList) :
    withoutMark text = Text.trimmed text := by
  rw [Text.trimmed, String.toList_ofList] at unmarked
  rw [withoutMark]
  split
  · rename_i rest marked
    rw [marked] at unmarked
    exact absurd ⟨rest, rfl⟩ unmarked
  · rfl

theorem hands_over_none {dash : AttachedDash} (handed : dash.handsOver text = none) :
    dash = .nothing ∧ text = "--" := by
  by_contra kept
  rw [AttachedDash.handsOver, if_neg kept] at handed
  cases handed

theorem hands_over_some {dash : AttachedDash} {same : String}
    (handed : dash.handsOver text = some same) : text = same := by
  rw [AttachedDash.handsOver] at handed
  split at handed
  · cases handed
  · exact Option.some.inj handed

/-- The code that a batch ends with, where `code` is the one so far. -/
def exitCode (code : Nat) (outcomes : List Outcome) : Nat :=
  if outcomes.all Outcome.ok then code else 1

theorem exit_code_cons (code : Nat) (outcome : Outcome) (rest : List Outcome) :
    exitCode code (outcome :: rest) = exitCode (if outcome.ok then code else 1) rest := by
  cases verdict : outcome.ok <;> simp [exitCode, verdict]

/-- A batch of expressions is a succession of calculations. -/
structure Performs (format : AnswerFormat) (code : Nat) (succession : Succession)
    (batch : Batch) : Prop where
  output : batch.output = shownEach "" format succession.outcomes
  ending : batch.ending =
    (succession.interruption.map .interrupted).getD (.exit (exitCode code succession.outcomes))
  bindings : batch.workbench.calculator.bindings = succession.bindings

/-- A double dash that the parser makes nothing of ends the batch. -/
theorem evaluate_each_performs {workbench : Workbench}
    (ready : workbench.Ready settings functions inputBase outputBase bindings)
    (expressions : ∀ text ∈ texts, IsExpression text) (dash : AttachedDash) (code : Nat) :
    let batch := evaluateEach format workbench code (texts.map dash.handsOver)
    Performs format code
        (Calculation.successive settings functions inputBase outputBase bindings texts) batch ∨
      (dash = .nothing ∧ "--" ∈ texts ∧ batch.ending = .interrupted .missingText) := by
  -- The code so far is handed on, so it is as general as the workbench.
  induction texts generalizing workbench bindings code with
  | nil =>
      left
      simp only [List.map_nil, evaluateEach, Calculation.successive]
      constructor <;> dsimp only
      · rfl
      · rfl
      · exact ready.bindings
  | cons text rest induction =>
      cases handed : dash.handsOver text with
      | none =>
          obtain ⟨dropped, rfl⟩ := hands_over_none handed
          right
          simp only [List.map_cons, handed, evaluateEach]
          exact ⟨dropped, List.mem_cons_self, trivial⟩
      | some same =>
          obtain rfl := hands_over_some handed
          have expression := expressions text (by simp)
          have plain := without_mark_of_unmarked expression.unmarked
          have filled := expression.filled
          obtain ⟨replied, later⟩ := Workbench.enter_calculates ready filled
          cases reply : (Calculation.ofText settings functions inputBase outputBase bindings
              text).reply with
          | interrupted cause =>
              rw [reply] at replied
              left
              rw [successive_interrupted reply]
              simp only [List.map_cons, handed, evaluateEach, plain, filled, replied,
                Bool.false_eq_true, if_false]
              constructor <;> dsimp only
              · rfl
              · rfl
              · exact later.bindings
          | answered outcome =>
              rw [reply] at replied
              rw [successive_answered reply]
              simp only [List.map_cons, handed, evaluateEach, plain, filled, replied,
                Bool.false_eq_true, if_false]
              rcases induction later (fun other member => expressions other (by simp [member]))
                  (if outcome.ok then code else 1) with
                ⟨output, ending, final⟩ | ⟨dropped, member, missing⟩
              · left
                constructor <;> dsimp only
                · simp [output, Console.shown_each_cons]
                · rw [ending, exit_code_cons]
                · exact final
              · exact Or.inr ⟨dropped, List.mem_cons_of_mem _ member, missing⟩

theorem lines_of_output_text (unbroken : ∀ text ∈ texts, '\n' ∉ text.toList) :
    linesOf (outputText texts) = texts := by
  have pieces : ((outputText texts).toList.splitOn '\n').map String.ofList = texts ++ [""] := by
    induction texts with
    | nil => rfl
    | cons text rest induction =>
        have later := induction fun other member => unbroken other (by simp [member])
        have line : (outputText (text :: rest)).toList =
            text.toList ++ '\n' :: (outputText rest).toList := by
          simp [outputText, String.join_cons]
        rw [line, List.splitOn_append_cons_self,
          List.splitOn_eq_singleton (unbroken text (by simp)), List.map_append, later]
        simp
  rw [linesOf]
  simp [pieces]

section Runs

variable {dash : AttachedDash} {options : Options} {alone arguments lines : List String}

theorem task_converse_iff : options.task = .converse ↔
    options.version = false ∧ options.healthCheck = false ∧ options.expressions = [] := by
  rw [Options.task]
  cases options.version <;> cases options.healthCheck <;> cases options.expressions <;> simp

theorem run_evaluate {handed : List (Option String)} (converses : options.task = .converse)
    (filled : handed ≠ [])
    (accepted : Options.ofArguments dash arguments = .ok { options with expressions := handed }) :
    run settings dash arguments lines =
      withOpening options (workbenchUnder (settingsUnder settings options) options)
        (evaluateReport options.format (workbenchUnder (settingsUnder settings options) options)
          handed) := by
  obtain ⟨version, healthCheck, -⟩ := task_converse_iff.mp converses
  have evaluates : ({ options with expressions := handed } : Options).task = .evaluate handed := by
    simp [Options.task, version, healthCheck, filled]
  rw [run, accepted]
  simp only [runOptions, evaluates]
  rfl

theorem run_converse (converses : options.task = .converse)
    (accepted : Options.ofArguments dash alone = .ok options) :
    run settings dash alone lines =
      withOpening options (workbenchUnder (settingsUnder settings options) options)
        (converseReport options.format (workbenchUnder (settingsUnder settings options) options)
          lines) := by
  rw [run, accepted]
  simp only [runOptions, converses]

end Runs

/-- However expressions reach the program, what it shows for them one by one and the variables that
are left are those of calculating them one after another over one table. They can be given as
arguments behind any others, or as lines of a conversation under the same arguments. Only where the
parser makes nothing of a double dash, a batch with one among its expressions is interrupted. -/
theorem front_ends_agree (settings : Settings) (dash : AttachedDash) (alone : List String)
    (options : Options) (texts : List String)
    (accepted : Options.ofArguments dash alone = .ok options)
    (converses : options.task = .converse)
    (expressions : ∀ text ∈ texts, IsExpression text)
    (unbroken : ∀ text ∈ texts, '\n' ∉ text.toList) :
    let chosen := settingsUnder settings options
    let workbench := workbenchUnder chosen options
    let succession := Calculation.successive chosen .standard workbench.calculator.inputBase
      workbench.calculator.outputBase .standard texts
    let handed := texts.map dash.handsOver
    let batch := evaluateEach options.format workbench 0 handed
    Options.ofArguments dash (alone ++ texts.map attachedExpression) =
      .ok { options with expressions := handed } ∧
    (texts ≠ [] → ∀ arguments lines,
      Options.ofArguments dash arguments = .ok { options with expressions := handed } →
        run settings dash arguments lines =
          withOpening options workbench
            { ending := batch.ending, output := batch.output, journal := batch.journal }) ∧
    (Performs options.format 0 succession batch ∨
      (dash = .nothing ∧ "--" ∈ texts ∧ batch.ending = .interrupted .missingText)) ∧
    run settings dash alone (linesOf (outputText texts)) =
      withOpening options workbench (converseReport options.format workbench texts) ∧
    Console.Conducts options.format workbench succession
      (Console.converse workbench options.format texts) := by
  intro chosen workbench succession handed batch
  have ready : workbench.Ready chosen .standard workbench.calculator.inputBase
      workbench.calculator.outputBase .standard := Workbench.start_ready _ _ _ _ _
  refine ⟨?_, ?_, evaluate_each_performs ready expressions dash 0, ?_,
    Console.converse_conducts ready expressions⟩
  · rw [Options.of_arguments_attached accepted, (task_converse_iff.mp converses).2.2,
      List.nil_append]
  · intro filled arguments lines acceptedTexts
    exact run_evaluate converses (by simpa [handed] using filled) acceptedTexts
  · rw [lines_of_output_text unbroken]
    exact run_converse converses accepted

/-- The second expression begins with a dash and needs the variable of the first, the third is
refused after it has set a variable, and the last is a double dash. -/
theorem front_ends_agree_after_refusal :
    let alone := ["-i", "16"]
    let arguments := alone ++ ["--eval=x = F", "--eval= -3*x", "--eval=y=2=z", "--eval=--"]
    let texts := ["x = F", " -3*x", "y=2=z", "--"]
    let options : Options := { inputBase := .number 16 }
    let workbench := workbenchUnder {} options
    let batch := evaluateEach .human workbench 0 (texts.map some)
    let conversation := Console.converse workbench .human texts
    Options.ofArguments .text arguments = .ok { options with expressions := texts.map some } ∧
    (run {} .text arguments []).ending = .exit 1 ∧
    (run {} .text arguments []).output =
      "15\n-45\nError: Name Error: 'z'\n" ++
        "Error: Operator - requires two operands, found 0 only\n" ∧
    batch.workbench.calculator.bindings.get? "x" = some 15.0 ∧
    batch.workbench.calculator.bindings.get? "y" = some 2.0 ∧
    run {} .text alone (linesOf "x = F\n -3*x\ny=2=z\n--\n") =
      withOpening options workbench (converseReport .human workbench texts) ∧
    conversation.output =
      "[16->10] >>> 15\n[16->10] >>> -45\n[16->10] >>> Error: Name Error: 'z'\n" ++
        "[16->10] >>> Error: Operator - requires two operands, found 0 only\n" ++
        "[16->10] >>> \nGoodbye.\n" ∧
    conversation.workbench.calculator.bindings =
      batch.workbench.calculator.bindings := by
  intro alone arguments texts options workbench batch conversation
  have accepted : Options.ofArguments .text alone = .ok options := by decide +kernel
  have spelled : alone ++ texts.map attachedExpression = arguments := by decide +kernel
  have typed : outputText texts = "x = F\n -3*x\ny=2=z\n--\n" := by decide +kernel
  obtain ⟨attached, ran, performs, conversed, conducts⟩ :=
    front_ends_agree {} .text alone options texts accepted rfl (by decide +kernel)
      (by decide +kernel)
  rw [spelled] at attached
  rw [typed] at conversed
  have batched := ran (by decide) arguments [] attached
  rcases performs with performs | ⟨dropped, -⟩
  swap
  · cases dropped
  refine ⟨attached, ?_, ?_, ?_, ?_, conversed, ?_, ?_⟩
  · rw [batched]
    exact performs.ending.trans (by decide +kernel)
  · rw [batched]
    exact performs.output.trans (by decide +kernel)
  · exact (congrArg (Directory.get? · "x") performs.bindings).trans (by decide +kernel)
  · exact (congrArg (Directory.get? · "y") performs.bindings).trans (by decide +kernel)
  · exact conducts.output.trans (by decide +kernel)
  · exact conducts.bindings.trans performs.bindings.symm

end RadixCalc.CommandLine
