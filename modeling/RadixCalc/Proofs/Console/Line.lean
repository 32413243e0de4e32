import RadixCalc.Console.Prompt
import RadixCalc.Proofs.Calculator.Stages
import RadixCalc.Proofs.Stopping
import RadixCalc.Proofs.Text.Words

/-!
What becomes of a line. A line is told apart by its first word, in any case: it
is a command, it asks to leave, or it is entered as an expression. Something is
shown for each of them, but not for a line that goes on behind a word for
leaving.
-/

namespace RadixCalc.Console

/-- The words that commands begin with. -/
def commandWords : List String :=
  ["help", "vars", "funcs", "quit", "exit", "ibase", "obase"]

def leavingWords : List String :=
  ["quit", "exit"]

def inLowerCase (word : List Char) : String :=
  String.ofList (Text.lowerCase word)

section Commands

variable {line : String} {word : List Char} {rest : List (List Char)}

theorem of_line_unlisted (spelled : Text.words line.toList = word :: rest)
    (unlisted : inLowerCase word ∉ commandWords) : Command.ofLine? line = none := by
  rw [Command.ofLine?, spelled]
  simp only [inLowerCase, commandWords, List.mem_cons, not_or] at unlisted
  obtain ⟨help, vars, funcs, quit, exit, ibase, obase, -⟩ := unlisted
  simp only

theorem of_base_arguments_stays (side : Side) (arguments : List (List Char)) :
    Command.ofBaseArguments side arguments ≠ .leave := by
  unfold Command.ofBaseArguments
  split
  · split <;> simp
  · simp

/-- No command is to leave but a line that begins with a word for leaving. -/
theorem of_line_leave_iff (spelled : Text.words line.toList = word :: rest) :
    Command.ofLine? line = some .leave ↔ inLowerCase word ∈ leavingWords := by
  rw [Command.ofLine?, spelled]
  simp only [inLowerCase, leavingWords, List.mem_cons, List.not_mem_nil, or_false]
  split
  case h_8 help vars funcs quit exit ibase obase =>
    exact iff_of_false nofun (not_or.mpr ⟨quit, exit⟩)
  case h_4 same => simp [same]
  case h_5 same => simp [same]
  case h_6 same => simp [same, of_base_arguments_stays]
  case h_7 same => simp [same, of_base_arguments_stays]
  all_goals
    rename_i same
    simp only [same]
    split <;> simp

/-- Whoever asks to leave does so with a single word. -/
theorem asks_to_leave_iff (trimmed : Text.trim line.toList = line.toList)
    (spelled : Text.words line.toList = word :: rest) :
    asksToLeave line = true ↔ rest = [] ∧ inLowerCase word ∈ leavingWords := by
  have asks : asksToLeave line = true ↔ inLowerCase line.toList ∈ leavingWords := by
    simp [asksToLeave, inLowerCase, leavingWords]
  rw [asks]
  constructor
  · intro leaving
    have solidWords : ∀ listed ∈ leavingWords, listed.toList.all Text.isSolid = true := by
      decide +kernel
    have solid := Text.solid_of_lower_case (by
      simpa [inLowerCase, Text.isSolid] using solidWords _ leaving)
    have filled : line.toList ≠ [] := by
      intro none
      rw [none] at spelled
      cases spelled
    rw [Text.words_single solid filled] at spelled
    obtain ⟨rfl, rfl⟩ := List.cons.inj spelled
    exact ⟨rfl, leaving⟩
  · rintro ⟨rfl, leaving⟩
    rwa [Text.eq_of_words_single trimmed spelled]

end Commands

section Answers

variable {calculator : Calculator} {format : AnswerFormat} {outcome : Outcome}

/-- The outcome has something to show. -/
def Tells (outcome : Outcome) : Prop :=
  outcome.ok = true → outcome.result.isSome = true

theorem lines_filled (tells : Tells outcome) (format : AnswerFormat) :
    outcome.lines format ≠ [] := by
  cases format with
  | json => exact List.cons_ne_nil _ _
  | human =>
      cases verdict : outcome.ok with
      | false => simp [Outcome.lines, verdict]
      | true =>
          obtain ⟨result, given⟩ := Option.isSome_iff_exists.mp (tells verdict)
          simp [Outcome.lines, verdict, given]

theorem failure_tells (fault : Fault) (inputBase outputBase : Int) :
    Tells ((Outcome.failure fault).withBases inputBase outputBase) := by
  intro accepted
  cases accepted

/-- A value that is written is shown, and so is the fault that ended a calculation. -/
theorem written_tells {settings : Settings} {inputBase outputBase : Int}
    {ending : Except Stop Float}
    (answered : Reply.ofEnding inputBase outputBase
      (ending >>= Calculation.outcomeOf settings outputBase) = .answered outcome) :
    Tells outcome := by
  cases concluded : ending >>= Calculation.outcomeOf settings outputBase with
  | ok success =>
      rw [concluded] at answered
      cases answered
      obtain ⟨value, -, written⟩ := bind_ok concluded
      obtain ⟨result, -, shown⟩ := bind_ok written
      obtain rfl : Outcome.success result value = success := Except.ok.inj shown
      intro _
      rfl
  | error stop =>
      rw [concluded] at answered
      cases stop with
      | fault fault =>
          cases answered
          exact failure_tells fault _ _
      | interruption cause => cases answered

theorem evaluate_tokens_tells {sequence : Sequence}
    (answered : (calculator.evaluateTokens sequence).reply = .answered outcome) :
    Tells outcome := by
  have calculated := congrArg Calculated.reply
    (Calculator.evaluate_tokens_calculated calculator sequence)
  exact written_tells (calculated.trans answered)

/-- Only blank text is well without a result. -/
theorem accept_tells {expression : String} (filled : expression.isEmpty = false)
    {lexed : Except Fault Sequence}
    (answered : (calculator.accept expression lexed).reply = .answered outcome) :
    Tells outcome := by
  simp only [Calculator.accept, filled, Bool.false_eq_true, if_false] at answered
  cases lexed with
  | error fault =>
      cases answered
      exact failure_tells fault _ _
  | ok sequence => exact evaluate_tokens_tells answered

theorem enter_tells {workbench : Workbench} {text : String}
    (filled : (Text.trimmed text).isEmpty = false)
    (answered : (workbench.enter text).reply = .answered outcome) : Tells outcome := by
  simp only [Workbench.enter, filled, Bool.false_eq_true, if_false] at answered
  exact accept_tells filled answered

theorem sorted_filled {α : Type} {directory : Directory α} (filled : directory.entries ≠ []) :
    directory.sorted ≠ [] := by
  intro none
  rw [← List.length_eq_zero_iff, Directory.sorted, List.length_mergeSort,
    List.length_eq_zero_iff] at none
  exact filled none

/-- A command shows something unless it is interrupted or is to leave. -/
theorem perform_lines {command : Command} (stays : command ≠ .leave)
    (named : calculator.bindings.entries ≠ []) (callable : calculator.functions.entries ≠ [])
    (completes : (command.perform calculator format).interruption = none) :
    (command.perform calculator format).lines ≠ [] := by
  cases command with
  | leave => exact absurd rfl stays
  | bindings => simp [Command.perform, Bindings.listing, sorted_filled named]
  | functions => simp [Command.perform, FunctionTable.listing, sorted_filled callable]
  | help | usage | notNumber => exact List.cons_ne_nil _ _
  | setBase side base =>
      simp only [Command.perform, Command.performSetBase] at completes ⊢
      cases replied : (Command.switch calculator base side).reply with
      | answered outcome => exact List.cons_ne_nil _ _
      | interrupted cause => simp [replied] at completes

end Answers

section Responding

variable {workbench : Workbench} {format : AnswerFormat} {line : String} {word : List Char}
  {rest : List (List Char)}

theorem trimmed_words : Text.words (Text.trimmed line).toList = Text.words line.toList := by
  rw [Text.trimmed, String.toList_ofList, Text.words_trim]

theorem trimmed_filled (spelled : Text.words line.toList = word :: rest) :
    (Text.trimmed line).isEmpty = false := by
  rw [String.isEmpty_eq_false_iff]
  intro none
  rw [← trimmed_words, none] at spelled
  cases spelled

theorem stays_asked (spelled : Text.words line.toList = word :: rest)
    (stays : ¬(rest = [] ∧ inLowerCase word ∈ leavingWords)) :
    asksToLeave (Text.trimmed line) = false := by
  rw [← Bool.not_eq_true,
    asks_to_leave_iff (by simp [Text.trimmed, Text.trim_trim]) (trimmed_words.trans spelled)]
  exact stays

theorem respond_command {command : Command} (spelled : Text.words line.toList = word :: rest)
    (stays : ¬(rest = [] ∧ inLowerCase word ∈ leavingWords))
    (found : Command.ofLine? (Text.trimmed line) = some command) :
    respond workbench format line = performAt workbench format command := by
  simp only [respond, trimmed_filled spelled, stays_asked spelled stays, found, Bool.false_eq_true,
    if_false]

theorem respond_expression (spelled : Text.words line.toList = word :: rest)
    (stays : ¬(rest = [] ∧ inLowerCase word ∈ leavingWords))
    (found : Command.ofLine? (Text.trimmed line) = none) :
    respond workbench format line = enterAt workbench format (Text.trimmed line) := by
  simp only [respond, trimmed_filled spelled, stays_asked spelled stays, found, Bool.false_eq_true,
    if_false]

/-- A line with further words behind the one for leaving is taken for a command that does
nothing. -/
theorem respond_leaving_with_more (spelled : Text.words line.toList = word :: rest)
    (more : rest ≠ []) (leaving : inLowerCase word ∈ leavingWords) :
    respond workbench format line =
      { lines := [], workbench, journal := [], ending := .goesOn } := by
  have found := (of_line_leave_iff (trimmed_words.trans spelled)).mpr leaving
  rw [respond_command spelled (fun alone => more alone.1) found]
  rfl

theorem perform_at_shows {command : Command} (stays : command ≠ .leave)
    (named : workbench.calculator.bindings.entries ≠ [])
    (callable : workbench.calculator.functions.entries ≠ [])
    (continues : (performAt workbench format command).ending = .goesOn) :
    (performAt workbench format command).lines ≠ [] := by
  apply perform_lines stays named callable
  cases interrupted : (command.perform workbench.calculator format).interruption with
  | none => rfl
  | some cause => simp [performAt, interrupted] at continues

theorem enter_at_answered {outcome : Outcome}
    (replied : (workbench.enter line).reply = .answered outcome) :
    enterAt workbench format line =
      { lines := outcome.lines format
        workbench := (workbench.enter line).workbench
        journal := (workbench.enter line).journal
        ending := .goesOn } := by
  simp only [enterAt, replied]

theorem enter_at_interrupted {cause : Interruption}
    (replied : (workbench.enter line).reply = .interrupted cause) :
    enterAt workbench format line =
      { lines := []
        workbench := (workbench.enter line).workbench
        journal := (workbench.enter line).journal
        ending := .interrupted cause } := by
  simp only [enterAt, replied]

theorem enter_at_shows (filled : (Text.trimmed line).isEmpty = false)
    (continues : (enterAt workbench format line).ending = .goesOn) :
    (enterAt workbench format line).lines ≠ [] := by
  cases replied : (workbench.enter line).reply with
  | answered outcome =>
      rw [enter_at_answered replied]
      exact lines_filled (enter_tells filled replied) format
  | interrupted cause =>
      rw [enter_at_interrupted replied] at continues
      cases continues

theorem perform_at_ending (command : Command) :
    (performAt workbench format command).ending ≠ .left := by
  simp only [performAt]
  cases (command.perform workbench.calculator format).interruption <;> simp

theorem enter_at_ending : (enterAt workbench format line).ending ≠ .left := by
  simp only [enterAt]
  split <;> simp

end Responding

/-- A line that is neither blank nor just a word for leaving is carried out as a command or entered
as an expression. Unless that is interrupted, it is answered, but for a line that only begins with a
word for leaving: nothing is shown for it, and nothing is done. -/
theorem respond_answers (workbench : Workbench) (format : AnswerFormat) (line : String)
    (word : List Char) (rest : List (List Char))
    (named : workbench.calculator.bindings.entries ≠ [])
    (callable : workbench.calculator.functions.entries ≠ [])
    (spelled : Text.words line.toList = word :: rest)
    (stays : ¬(rest = [] ∧ inLowerCase word ∈ leavingWords)) :
    (∀ command, Command.ofLine? (Text.trimmed line) = some command →
      respond workbench format line = performAt workbench format command) ∧
    (Command.ofLine? (Text.trimmed line) = none →
      respond workbench format line = enterAt workbench format (Text.trimmed line)) ∧
    (respond workbench format line).ending ≠ .left ∧
    (inLowerCase word ∉ leavingWords → (respond workbench format line).ending = .goesOn →
      (respond workbench format line).lines ≠ []) ∧
    (inLowerCase word ∈ leavingWords →
      respond workbench format line =
        { lines := [], workbench, journal := [], ending := .goesOn }) := by
  have claimed : ∀ command, Command.ofLine? (Text.trimmed line) = some command →
      respond workbench format line = performAt workbench format command := by
    intro command found
    exact respond_command spelled stays found
  have entered : Command.ofLine? (Text.trimmed line) = none →
      respond workbench format line = enterAt workbench format (Text.trimmed line) := by
    intro found
    exact respond_expression spelled stays found
  refine ⟨claimed, entered, ?_, ?_, ?_⟩
  · cases found : Command.ofLine? (Text.trimmed line) with
    | some command =>
        rw [claimed command found]
        exact perform_at_ending command
    | none =>
        rw [entered found]
        exact enter_at_ending
  · intro staying
    cases found : Command.ofLine? (Text.trimmed line) with
    | some command =>
        rw [claimed command found]
        apply perform_at_shows _ named callable
        rintro rfl
        exact staying ((of_line_leave_iff (trimmed_words.trans spelled)).mp found)
    | none =>
        rw [entered found]
        exact enter_at_shows (trimmed_filled (trimmed_words.trans spelled))
  · intro leaving
    exact respond_leaving_with_more spelled (fun none => stays ⟨none, leaving⟩) leaving

/-- With further words behind it, `vars` is a variable and no command. -/
theorem respond_answers_vars_plus_one :
    let workbench : Workbench :=
      { calculator := Calculator.start {} .standard 10 10 .standard, shelf := .empty }
    respond workbench .human " vars + 1" = enterAt workbench .human "vars + 1" := by
  intro workbench
  have answers := respond_answers workbench .human " vars + 1" "vars".toList
    ["+".toList, "1".toList] (List.cons_ne_nil _ _) (List.cons_ne_nil _ _) (by decide +kernel)
    (by decide +kernel)
  exact answers.2.1 (by decide +kernel)

/-- A variable may be called `quit` as well, but a line that begins with it is swallowed. -/
theorem respond_swallows :
    let workbench : Workbench :=
      { calculator := Calculator.start {} .standard 10 10 (Bindings.standard.put "quit" 5.0)
        shelf := .empty }
    workbench.calculator.bindings.entries ≠ [] ∧
      workbench.calculator.functions.entries ≠ [] ∧
      Text.words "quit + 1".toList = ["quit".toList, "+".toList, "1".toList] ∧
      Command.ofLine? "quit + 1" ≠ none ∧
      respond workbench .human "quit + 1" =
        { lines := [], workbench, journal := [], ending := .goesOn } := by
  refine ⟨List.cons_ne_nil _ _, List.cons_ne_nil _ _, by decide +kernel, by decide +kernel, ?_⟩
  rfl

end RadixCalc.Console
