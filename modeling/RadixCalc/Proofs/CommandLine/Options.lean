import RadixCalc.CommandLine.Options
import RadixCalc.Proofs.Stopping

/-!
Expressions on the command line. Arguments that are accepted by themselves take
further ones after them as if these stood alone, and an expression that is
attached to its option is taken as it stands, whatever it begins with.
-/

namespace RadixCalc.CommandLine

/-- The argument that gives an expression attached to its option. -/
def attachedExpression (text : String) : String :=
  "--eval=" ++ text

namespace Argument

/-- An expression with the option that it is attached to. -/
def ofExpression (text : String) : Argument :=
  .option .expression true (some text.toList)

variable {first second : List String} {arguments more : List Argument}

theorem of_texts_append (classified : ofTexts first = .ok arguments)
    (unseparated : separator ∉ arguments) (classifiedMore : ofTexts second = .ok more) :
    ofTexts (first ++ second) = .ok (arguments ++ more) := by
  induction first generalizing arguments with
  | nil =>
      cases classified
      exact classifiedMore
  | cons text rest induction =>
      rw [ofTexts] at classified
      split at classified
      · cases classified
        simp at unseparated
      · rename_i option
        obtain ⟨argument, read, classified⟩ := bind_ok classified
        obtain ⟨later, classifiedLater, same⟩ := bind_ok classified
        cases same
        have joined := induction classifiedLater fun member =>
          unseparated (List.mem_cons_of_mem _ member)
        rw [List.cons_append, ofTexts, if_neg option, read, joined]
        rfl

theorem of_spelling_equals {text : List Char} (equals : '=' ∈ text) :
    Switch.ofSpelling? text = none := by
  have free : ∀ spelling ∈ Switch.spellings, '=' ∉ spelling.1.toList := by decide
  rw [Switch.ofSpelling?, List.lookup_eq_none_iff]
  intro spelling member
  have different : String.ofList text ≠ spelling.1 := by
    intro same
    apply free spelling member
    rwa [← same, String.toList_ofList]
  simpa using different

theorem attached_characters (text : String) :
    (attachedExpression text).toList =
      '-' :: '-' :: 'e' :: 'v' :: 'a' :: 'l' :: '=' :: text.toList := by
  rw [attachedExpression, String.toList_append]
  rfl

theorem of_text_attached (text : String) :
    ofText (attachedExpression text) = .ok (ofExpression text) := by
  have unspelled : Switch.ofSpelling? (attachedExpression text).toList = none :=
    of_spelling_equals (by simp [attached_characters])
  have stem : ofStem? (attachedExpression text).toList = some (ofExpression text) := by
    rw [attached_characters, ofStem?, splitEquals?]
    simp only [List.dropWhile, List.takeWhile]
    rfl
  simp only [ofText, unspelled, ofDashed, stem]
  simp [attached_characters]

theorem of_texts_attached (texts : List String) :
    ofTexts (texts.map attachedExpression) = .ok (texts.map ofExpression) := by
  induction texts with
  | nil => rfl
  | cons text rest induction =>
      have option : attachedExpression text ≠ "--" := by
        intro same
        have characters := congrArg String.toList same
        rw [attached_characters] at characters
        cases characters
      rw [List.map_cons, ofTexts, if_neg option, of_text_attached, induction]
      rfl

end Argument

theorem Cluster.of_attached_value {switch : Switch} {long : Bool}
    (takes : switch.takesValue = true) (attached : List Char) :
    Cluster.ofAttached switch long attached =
      .ok { flags := [], last := switch, value := some (String.ofList attached) } := by
  cases attached <;> simp [Cluster.ofAttached, takes]

namespace Options

variable {dash : AttachedDash}

/-- Arguments that are all taken: every one is an option with its value, or the value of the option
before it. -/
inductive Collects (dash : AttachedDash) : Options → List Argument → Options → Prop where
  | done (options : Options) : Collects dash options [] options
  | joined {options next accepted : Options} {switch : Switch} {long : Bool}
      {attached : Option (List Char)} {cluster : Cluster} {rest : List Argument}
      (taken : Cluster.ofOption switch long attached = .ok cluster)
      (complete : cluster.lacksValue = false)
      (recorded : options.setCluster dash cluster cluster.value = .ok next)
      (later : Collects dash next rest accepted) :
      Collects dash options (.option switch long attached :: rest) accepted
  | spaced {options next accepted : Options} {switch : Switch} {long : Bool}
      {attached : Option (List Char)} {cluster : Cluster} {text : String} {rest : List Argument}
      (taken : Cluster.ofOption switch long attached = .ok cluster)
      (incomplete : cluster.lacksValue = true)
      (recorded : options.setCluster dash cluster (some text) = .ok next)
      (later : Collects dash next rest accepted) :
      Collects dash options (.option switch long attached :: .value text :: rest) accepted

variable {options accepted final : Options} {stray : Bool} {arguments more : List Argument}

/-- Arguments are accepted only if no stray one has been met before or is among them. -/
theorem collects_of_collect {options : Options} {stray : Bool} {arguments : List Argument}
    (collected : collect dash options stray arguments = .ok accepted) :
    stray = false ∧ Collects dash options arguments accepted := by
  match arguments with
  | [] =>
      cases stray with
      | true => cases collected
      | false =>
          cases collected
          exact ⟨rfl, .done _⟩
  | .value text :: rest =>
      -- A stray argument is only remembered, and refused at the end.
      have tail : collect dash options true rest = .ok accepted := collected
      cases (collects_of_collect tail).1
  | .separator :: rest =>
      have tail : collect dash options true rest = .ok accepted := collected
      cases (collects_of_collect tail).1
  | .unknown :: rest =>
      have tail : collect dash options true rest = .ok accepted := collected
      cases (collects_of_collect tail).1
  | .option switch long attached :: rest =>
      rw [collect] at collected
      obtain ⟨cluster, taken, collected⟩ := bind_ok collected
      cases complete : cluster.lacksValue with
      | false =>
          rw [complete, if_neg (by simp)] at collected
          obtain ⟨next, recorded, tail⟩ := bind_ok collected
          obtain ⟨straight, later⟩ := collects_of_collect tail
          exact ⟨straight, .joined taken complete recorded later⟩
      | true =>
          rw [complete, if_pos rfl] at collected
          cases rest with
          | nil => cases collected
          | cons argument rest =>
              cases argument with
              | value text =>
                  obtain ⟨next, recorded, tail⟩ := bind_ok collected
                  obtain ⟨straight, later⟩ := collects_of_collect tail
                  exact ⟨straight, .spaced taken complete recorded later⟩
              | separator => cases collected
              | unknown => cases collected
              | option other long attached => cases collected
termination_by arguments.length

theorem Collects.collected (collects : Collects dash options arguments accepted) :
    collect dash options false arguments = .ok accepted := by
  induction collects with
  | done options => rfl
  | joined taken complete recorded later induction =>
      rw [collect, taken]
      simp [complete, recorded, induction, bind, Except.bind]
  | spaced taken incomplete recorded later induction =>
      rw [collect, taken]
      simp [incomplete, recorded, induction, bind, Except.bind]

theorem Collects.append (first : Collects dash options arguments accepted)
    (second : Collects dash accepted more final) :
    Collects dash options (arguments ++ more) final := by
  induction first with
  | done options => exact second
  | joined taken complete recorded later induction =>
      exact .joined taken complete recorded (induction second)
  | spaced taken incomplete recorded later induction =>
      exact .spaced taken incomplete recorded (induction second)

theorem Collects.unseparated (collects : Collects dash options arguments accepted) :
    .separator ∉ arguments := by
  induction collects with
  | done options => simp
  | joined taken complete recorded later induction => simpa using induction
  | spaced taken incomplete recorded later induction => simpa using induction

theorem set_value_expression (dash : AttachedDash) (options : Options) (text : String) :
    options.setValue dash text .expression =
      .ok { options with expressions := options.expressions ++ [dash.handsOver text] } := by
  rw [setValue]
  cases dash.handsOver text <;> rfl

theorem collects_expressions (dash : AttachedDash) (options : Options) (texts : List String) :
    Collects dash options (texts.map Argument.ofExpression)
      { options with expressions := options.expressions ++ texts.map dash.handsOver } := by
  induction texts generalizing options with
  | nil => simpa using Collects.done options
  | cons text rest induction =>
      have taken : Cluster.ofOption .expression true (some text.toList) =
          .ok { flags := [], last := .expression, value := some text } := by
        rw [Cluster.ofOption, Cluster.of_attached_value rfl, String.ofList_toList]
      have later := induction { options with
        expressions := options.expressions ++ [dash.handsOver text] }
      rw [List.append_assoc] at later
      exact .joined taken rfl (set_value_expression dash options text) later

/-- Attached expressions are taken after arguments that are accepted without them. -/
theorem of_arguments_attached {alone : List String}
    (accepted : ofArguments dash alone = .ok options) (texts : List String) :
    ofArguments dash (alone ++ texts.map attachedExpression) =
      .ok { options with expressions := options.expressions ++ texts.map dash.handsOver } := by
  obtain ⟨arguments, classified, collected⟩ := bind_ok accepted
  obtain ⟨-, collects⟩ := collects_of_collect collected
  rw [ofArguments, Argument.of_texts_append classified collects.unseparated
    (Argument.of_texts_attached texts)]
  exact (collects.append (collects_expressions dash options texts)).collected

end Options

end RadixCalc.CommandLine
