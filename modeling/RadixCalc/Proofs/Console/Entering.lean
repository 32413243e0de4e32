import RadixCalc.Proofs.Console.Line
import RadixCalc.Proofs.Sequence.Shelving

/-!
Expressions entered one after another. What a workbench answers to each is what
calculating it answers with the variables that the earlier ones have left: the
shelf cannot be told from the answers, and nothing else that a calculator keeps
has to do with new text. So a conversation over expressions is a succession of
calculations over one table.
-/

namespace RadixCalc

/-- Calculations one after another over one table, up to the first that is interrupted. -/
structure Succession where
  outcomes : List Outcome
  bindings : Bindings
  interruption : Option Interruption

namespace Calculation

def successive (settings : Settings) (functions : FunctionTable) (inputBase outputBase : Int)
    (bindings : Bindings) : List String → Succession
  | [] => { outcomes := [], bindings, interruption := none }
  | text :: rest =>
      let calculated := ofText settings functions inputBase outputBase bindings text
      match calculated.reply with
      | .interrupted cause =>
          { outcomes := [], bindings := calculated.bindings, interruption := some cause }
      | .answered outcome =>
          let later := successive settings functions inputBase outputBase calculated.bindings rest
          { later with outcomes := outcome :: later.outcomes }

end Calculation

variable {settings : Settings} {functions : FunctionTable} {inputBase outputBase : Int}
  {bindings : Bindings} {text : String} {format : AnswerFormat}

section Succession

variable {rest : List String}

theorem successive_answered {outcome : Outcome}
    (replied : (Calculation.ofText settings functions inputBase outputBase bindings text).reply =
      .answered outcome) :
    Calculation.successive settings functions inputBase outputBase bindings (text :: rest) =
      let later := Calculation.successive settings functions inputBase outputBase
        (Calculation.ofText settings functions inputBase outputBase bindings text).bindings rest
      { later with outcomes := outcome :: later.outcomes } := by
  simp only [Calculation.successive, replied]

theorem successive_interrupted {cause : Interruption}
    (replied : (Calculation.ofText settings functions inputBase outputBase bindings text).reply =
      .interrupted cause) :
    Calculation.successive settings functions inputBase outputBase bindings (text :: rest) =
      { outcomes := []
        bindings :=
          (Calculation.ofText settings functions inputBase outputBase bindings text).bindings
        interruption := some cause } := by
  simp only [Calculation.successive, replied]

end Succession

namespace Calculator

variable {calculator : Calculator}

/-- Taking over an expression is calculating it. -/
theorem accept_calculates (under : Under settings functions inputBase outputBase calculator)
    (filled : (Text.trimmed text).isEmpty = false) :
    let turn := calculator.accept (Text.trimmed text) (Sequence.ofText settings (Text.trimmed text))
    Under settings functions inputBase outputBase turn.calculator ∧
      { reply := turn.reply, bindings := turn.calculator.bindings : Calculated } =
        Calculation.ofText settings functions inputBase outputBase calculator.bindings text := by
  obtain ⟨rfl, rfl, rfl, rfl⟩ := under
  cases read : Sequence.ofText calculator.settings (Text.trimmed text) with
  | error fault =>
      simp only [accept, Calculation.ofText, filled, read, Bool.false_eq_true, if_false, fail,
        finish]
      exact ⟨⟨rfl, rfl, rfl, rfl⟩, rfl⟩
  | ok sequence =>
      simp only [accept, Calculation.ofText, filled, read, Bool.false_eq_true, if_false]
      constructor
      · exact evaluate_tokens_under { calculator with
          text := Text.trimmed text
          tokens := some sequence
          value := none } sequence
      · exact (evaluate_tokens_calculated _ sequence).symm

end Calculator

/-- The workbench works under these settings, functions and bases with these variables, and what
stands on its shelf is right. -/
structure Workbench.Ready (settings : Settings) (functions : FunctionTable)
    (inputBase outputBase : Int) (bindings : Bindings) (workbench : Workbench) : Prop where
  under : Calculator.Under settings functions inputBase outputBase workbench.calculator
  bindings : workbench.calculator.bindings = bindings
  right : workbench.shelf.IsRight settings

namespace Workbench

variable {workbench : Workbench}

theorem start_ready (settings : Settings) (functions : FunctionTable) (inputBase outputBase : Int)
    (bindings : Bindings) :
    Ready settings functions inputBase outputBase bindings
      { calculator := Calculator.start settings functions inputBase outputBase bindings
        shelf := .empty } where
  under := ⟨rfl, rfl, rfl, rfl⟩
  bindings := rfl
  right := Shelf.empty_right

/-- Reading a whole expression through a right shelf, which stays right. -/
theorem recall_text_plain {shelf : Shelf} (right : shelf.IsRight settings) (text : String) :
    (Sequence.recallText settings shelf text).ending = Sequence.ofText settings text ∧
      (Sequence.recallText settings shelf text).shelf.IsRight settings := by
  obtain ⟨ended, puts, deposits⟩ :=
    Sequence.request_deposits right (.whole settings.inputLength text)
  have left := deposits.left
  exact ⟨ended, left ▸ Shelf.put_all_right right deposits.right⟩

theorem enter_calculates
    (ready : Ready settings functions inputBase outputBase bindings workbench)
    (filled : (Text.trimmed text).isEmpty = false) :
    (workbench.enter (Text.trimmed text)).reply =
        (Calculation.ofText settings functions inputBase outputBase bindings text).reply ∧
      Ready settings functions inputBase outputBase
        (Calculation.ofText settings functions inputBase outputBase bindings text).bindings
        (workbench.enter (Text.trimmed text)).workbench := by
  obtain ⟨under, rfl, right⟩ := ready
  obtain ⟨ended, rightLater⟩ := recall_text_plain right (Text.trimmed text)
  obtain ⟨underLater, calculated⟩ := Calculator.accept_calculates under filled
  rw [← ended] at underLater calculated
  rw [← calculated]
  simp only [enter, Text.trimmed_trimmed, filled, Bool.false_eq_true, if_false, under.settings]
  refine ⟨trivial, ?_⟩
  constructor <;> dsimp only
  · exact underLater
  · exact rightLater

end Workbench

namespace Console

/-- A line that is entered as it stands, apart from the blanks at its ends: it has a first word,
which begins no command, and it is not marked as copied. -/
structure IsExpression (text : String) : Prop where
  filled : (Text.trimmed text).isEmpty = false
  unmarked : ¬['>', '>', '>'] <+: (Text.trimmed text).toList
  unlisted : ∀ word ∈ (Text.words text.toList).head?, inLowerCase word ∉ commandWords

instance (text : String) : Decidable (IsExpression text) :=
  decidable_of_iff
    ((Text.trimmed text).isEmpty = false ∧ ¬['>', '>', '>'] <+: (Text.trimmed text).toList ∧
      ∀ word ∈ (Text.words text.toList).head?, inLowerCase word ∉ commandWords)
    ⟨fun ⟨filled, unmarked, unlisted⟩ => ⟨filled, unmarked, unlisted⟩,
      fun ⟨filled, unmarked, unlisted⟩ => ⟨filled, unmarked, unlisted⟩⟩

theorem words_of_filled (filled : (Text.trimmed text).isEmpty = false) :
    ∃ word rest, Text.words text.toList = word :: rest := by
  cases spelled : Text.words text.toList with
  | cons word rest => exact ⟨word, rest, rfl⟩
  | nil =>
      have none := Text.trim_blank (Text.blank_of_words_nil spelled)
      rw [Text.trimmed, none] at filled
      cases filled

theorem respond_is_expression {workbench : Workbench} (expression : IsExpression text) :
    respond workbench format text = enterAt workbench format (Text.trimmed text) := by
  obtain ⟨word, rest, spelled⟩ := words_of_filled expression.filled
  have unlisted := expression.unlisted word (by rw [spelled]; rfl)
  have stays : ¬(rest = [] ∧ inLowerCase word ∈ leavingWords) := by
    rintro ⟨-, leaving⟩
    have listed : ∀ name ∈ leavingWords, name ∈ commandWords := by decide
    exact unlisted (listed _ leaving)
  exact respond_expression spelled stays (of_line_unlisted (trimmed_words.trans spelled) unlisted)

/-- What is shown for outcomes one after another, each behind the same text. -/
def shownEach (before : String) (format : AnswerFormat) (outcomes : List Outcome) : String :=
  String.join (outcomes.map fun outcome => before ++ outputText (outcome.lines format))

theorem shown_each_cons (before : String) (format : AnswerFormat) (outcome : Outcome)
    (rest : List Outcome) :
    shownEach before format (outcome :: rest) =
      before ++ outputText (outcome.lines format) ++ shownEach before format rest := by
  rw [shownEach, List.map_cons, String.join_cons, shownEach]

theorem prompt_under {first second : Calculator}
    (underFirst : Calculator.Under settings functions inputBase outputBase first)
    (underSecond : Calculator.Under settings functions inputBase outputBase second) :
    prompt first = prompt second := by
  rw [prompt, prompt, underFirst.inputBase, underFirst.outputBase, underSecond.inputBase,
    underSecond.outputBase]

/-- A conversation over expressions is a succession of calculations, shown behind prompts. -/
structure Conducts (format : AnswerFormat) (workbench : Workbench) (succession : Succession)
    (transcript : Transcript) : Prop where
  output : transcript.output =
    shownEach (prompt workbench.calculator) format succession.outcomes ++
      (prompt workbench.calculator ++
        if succession.interruption.isNone then outputText [farewellAtEnd] else "")
  interruption : transcript.interruption = succession.interruption
  bindings : transcript.workbench.calculator.bindings = succession.bindings

theorem converse_conducts {workbench : Workbench} {texts : List String}
    (ready : workbench.Ready settings functions inputBase outputBase bindings)
    (expressions : ∀ text ∈ texts, IsExpression text) :
    Conducts format workbench
      (Calculation.successive settings functions inputBase outputBase bindings texts)
      (converse workbench format texts) := by
  induction texts generalizing workbench bindings with
  | nil =>
      simp only [converse, Calculation.successive]
      constructor <;> dsimp only
      · simp [shownEach]
      · exact ready.bindings
  | cons text rest induction =>
      have expression := expressions text (by simp)
      obtain ⟨replied, later⟩ := Workbench.enter_calculates ready expression.filled
      cases reply : (Calculation.ofText settings functions inputBase outputBase bindings
          text).reply with
      | interrupted cause =>
          rw [reply] at replied
          rw [successive_interrupted reply]
          simp only [converse, respond_is_expression expression, enter_at_interrupted replied]
          constructor <;> dsimp only
          · simp [shownEach, outputText]
          · exact later.bindings
      | answered outcome =>
          rw [reply] at replied
          rw [successive_answered reply]
          simp only [converse, respond_is_expression expression, enter_at_answered replied]
          obtain ⟨output, interruption, final⟩ := induction later fun other member =>
            expressions other (by simp [member])
          constructor <;> dsimp only
          · simp only [output, shown_each_cons, prompt_under later.under ready.under,
              String.append_assoc]
          · exact interruption
          · exact final

end Console

end RadixCalc
