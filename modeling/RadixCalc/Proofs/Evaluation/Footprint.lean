import RadixCalc.Proofs.Evaluation.Frame
import RadixCalc.Proofs.Sequence.Occurrence

/-!
The names that an evaluation has to do with. Evaluating a sequence looks up and
assigns no names but those that stand in it, at whatever depth. So tables that
agree on these names cannot be told apart by it, and whatever else a table holds
is left as it was, also where the evaluation stops after some assignments.
-/

namespace RadixCalc

/-- Each of the names is bound to one value in both tables, or in neither of them. -/
def Bindings.AgreeOn (names : String → Prop) (first second : Bindings) : Prop :=
  ∀ name, names name → first.get? name = second.get? name

/-- The name is an operand of the sequence or of an argument in it, at some depth. -/
def Sequence.Mentions (sequence : Sequence) (name : String) : Prop :=
  sequence.HasToken (.operand (.symbol name))

/-- If the operand is a name, it is one of the names. -/
def Operand.Among (names : String → Prop) (operand : Operand) : Prop :=
  ∀ name, operand = .symbol name → names name

/-- If the token is a name, it is one of the names. -/
def Token.Among (names : String → Prop) (token : Token) : Prop :=
  ∀ operand, token = .operand operand → operand.Among names

/-- Only the names may be bound or bound anew, and no name is lost. -/
def Reach.among (names : String → Prop) : Reach where
  leads before after :=
    (∀ name, ¬ names name → after.get? name = before.get? name) ∧
      ∀ name, before.contains name = true → after.contains name = true
  stays _ := ⟨fun _ _ => rfl, fun _ bound => bound⟩
  joins first second third := by
    rintro ⟨others, kept⟩ ⟨othersAfter, keptAfter⟩
    exact ⟨fun name apart => (othersAfter name apart).trans (others name apart),
      fun name bound => keptAfter name (kept name bound)⟩

namespace Evaluation

variable {α β : Type} {names : String → Prop}

/-- The workspaces cannot be told apart by the names. -/
structure Alike (names : String → Prop) (first second : Workspace) : Prop where
  agree : first.bindings.AgreeOn names second.bindings
  noted : first.journal = second.journal

/-- A computation that has to do with the names only: it moves no others, and from workspaces that
are alike it ends alike. Its results are allowed ones. -/
structure Confined (names : String → Prop) (allowed : α → Prop) (computation : Evaluation α) :
    Prop where
  ends : ∀ value, EndsWith computation value → allowed value
  moves : Moves (.among names) computation
  alike : ∀ first second, Alike names first second →
    (computation.run first).1 = (computation.run second).1 ∧
      Alike names (computation.run first).2 (computation.run second).2

namespace Confined

variable {allowed : α → Prop}

theorem pure {value : α} (holds : allowed value) : Confined names allowed (Pure.pure value) where
  ends := by
    intro result ended
    rwa [← ended.of_pure]
  moves := Moves.pure value
  alike := by
    intro first second same
    exact ⟨rfl, same⟩

theorem stopped (stop : Stop) : Confined names allowed (throw stop) where
  ends := by
    intro result ended
    exact ended.not_stopped.elim
  moves := Moves.stopped stop
  alike := by
    intro first second same
    exact ⟨rfl, same⟩

theorem bind {wanted : β → Prop} {computation : Evaluation α} {next : α → Evaluation β}
    (confined : Confined names allowed computation)
    (rest : ∀ value, allowed value → Confined names wanted (next value)) :
    Confined names wanted (computation >>= next) where
  ends := by
    intro result ended
    obtain ⟨value, first, later⟩ := ended.of_bind
    exact (rest value (confined.ends value first)).ends result later
  moves := by
    apply Moves.bind confined.moves
    intro value ended
    exact (rest value (confined.ends value ended)).moves
  alike := by
    intro first second same
    obtain ⟨ended, later⟩ := confined.alike first second same
    rw [run_bind, run_bind]
    cases ran : computation.run first with
    | mk ending after =>
        cases ranOther : computation.run second with
        | mk endingOther afterOther =>
            -- Both runs stop for one reason, or both go on with one value.
            rw [ran, ranOther] at ended later
            obtain rfl : ending = endingOther := ended
            cases ending with
            | error stop => exact ⟨rfl, later⟩
            | ok value =>
                have holds := confined.ends value ⟨first, by rw [ran]⟩
                exact (rest value holds).alike after afterOther later

/-- The results that are allowed may be taken to be those that there are. -/
theorem results {computation : Evaluation α} (confined : Confined names allowed computation) :
    Confined names (EndsWith computation) computation where
  ends _ ended := ended
  moves := confined.moves
  alike := confined.alike

theorem result (ending : Except Stop α) : Confined names (fun _ => True) (ofResult ending) := by
  cases ending with
  | ok value => exact pure trivial
  | error stop => exact stopped stop

theorem note (event : Event) : Confined names (fun _ => True) (Evaluation.note event) where
  ends := by
    intro _ _
    trivial
  moves := Moves.note event
  alike := by
    intro first second same
    exact ⟨rfl, same.agree, congrArg (event :: ·) same.noted⟩

theorem resolve_agrees {base : Int} {operand : Operand} (among : operand.Among names)
    {first second : Bindings} (agree : first.AgreeOn names second) :
    operand.resolve base first = operand.resolve base second := by
  cases operand with
  | number value => rfl
  | literal digits negative => rfl
  | symbol name => rw [Operand.resolve, Operand.resolve, agree name (among name rfl)]

/-- Resolving looks up the name of the operand, if it is one. -/
theorem resolve (base : Int) {operand : Operand} (among : operand.Among names) :
    Confined names (fun _ => True) (Evaluation.resolve base operand) where
  ends := by
    intro _ _
    trivial
  moves := Moves.resolve base operand
  alike := by
    intro first second same
    rw [run_resolve, run_resolve, resolve_agrees among same.agree]
    exact (result _).alike first second same

theorem put_among {name : String} (among : names name) (value : Float) (bindings : Bindings) :
    (Reach.among names).leads bindings (bindings.put name value) := by
  constructor
  · intro other apart
    have differs : name ≠ other := by
      rintro rfl
      exact apart among
    rw [Directory.get_put, if_neg differs]
  · intro other bound
    rw [Directory.contains, Directory.get_put]
    split
    · rfl
    · exact bound

theorem assign {name : String} (among : names name) (value : Float) :
    Confined names (fun _ => True) (Evaluation.assign name value) where
  ends := by
    intro _ _
    trivial
  moves := by
    intro workspace
    exact put_among among value workspace.bindings
  alike := by
    intro first second same
    refine ⟨rfl, ?_, congrArg (Event.assigned name value :: ·) same.noted⟩
    intro other inside
    change (first.bindings.put name value).get? other = (second.bindings.put name value).get? other
    rw [Directory.get_put, Directory.get_put, same.agree other inside]

theorem operate (base : Int) (operator : Operator) {stack : List Operand}
    (among : ∀ operand ∈ stack, operand.Among names) :
    Confined names (fun _ => True) (Evaluation.operate base operator stack) := by
  match stack with
  | [] => exact stopped _
  | [_] => exact stopped _
  | right :: left :: rest =>
      have rightAmong : right.Among names := among right (by simp)
      have leftAmong : left.Among names := among left (by simp)
      rw [Evaluation.operate]
      split
      · apply bind (resolve base rightAmong)
        intro value _
        cases left with
        | symbol name =>
            apply bind (assign (leftAmong name rfl) value)
            intro _ _
            exact pure trivial
        | number found => exact stopped _
        | literal digits negative => exact stopped _
      · apply bind (resolve base rightAmong)
        intro second _
        apply bind (resolve base leftAmong)
        intro first _
        apply bind (result (operator.apply first second))
        intro value _
        exact pure trivial

theorem conclude (base : Int) (count : Nat) {stack : List Operand}
    (among : ∀ operand ∈ stack, operand.Among names) :
    Confined names (fun _ => True) (Evaluation.conclude base count stack) := by
  match stack with
  | [] => exact pure trivial
  | [operand] =>
      apply bind (resolve base (among operand (by simp)))
      intro value _
      apply bind (note _)
      intro _ _
      exact pure trivial
  | _ :: _ :: _ => exact stopped _

/-- A number has no name, and the names on the stack are those of tokens taken in before. -/
theorem discipline (functions : FunctionTable) (base : Int) :
    Discipline functions base (Token.Among names) (Operand.Among names)
      (Confined names (fun _ => True)) where
  pure _ := pure trivial
  bind first rest := bind first.results rest
  operand value among := among value rfl
  number value := by
    rintro name ⟨⟩
  operates operator _ _ among := operate base operator among
  finds _ _ := result _
  computes _ _ _ _ := result _
  concludes count _ among := conclude base count among

end Confined

end Evaluation

namespace Sequence

theorem mentions_among (sequence : Sequence) :
    Everywhere (Token.Among sequence.Mentions) sequence := by
  rw [everywhere_iff]
  rintro token inside operand rfl name rfl
  exact inside

/-- An evaluation has to do with the names alone that its sequence mentions. However it ends, it
leaves all others as they were, takes none away, and changes nothing at all if there is no
assignment. From tables that agree on the names it ends alike, with the same journal and with
tables that agree on them. -/
theorem evaluate_footprint (functions : FunctionTable) (base : Int) (sequence : Sequence) :
    (∀ bindings, let after := (sequence.evaluate functions base bindings).bindings
      (∀ name, ¬ sequence.Mentions name → after.get? name = bindings.get? name) ∧
      (∀ name, bindings.contains name = true → after.contains name = true) ∧
      (sequence.IsAssignmentFree → after = bindings)) ∧
    ∀ first second : Bindings, first.AgreeOn sequence.Mentions second →
      let one := sequence.evaluate functions base first
      let other := sequence.evaluate functions base second
      one.ending = other.ending ∧ one.journal = other.journal ∧
        one.bindings.AgreeOn sequence.Mentions other.bindings := by
  have confined := (Evaluation.Confined.discipline functions base).evaluate
    (Evaluation.Confined.result _) sequence.mentions_among
  constructor
  · intro bindings
    obtain ⟨others, kept⟩ := confined.moves { bindings, journal := [] }
    exact ⟨others, kept, fun free => evaluate_bindings free functions base bindings⟩
  · intro first second agree
    obtain ⟨ended, later⟩ := confined.alike { bindings := first, journal := [] }
      { bindings := second, journal := [] } ⟨agree, rfl⟩
    exact ⟨ended, congrArg List.reverse later.noted, later.agree⟩

/-- The last name is unbound in both tables: the evaluation stops there, after an assignment and one
more in an argument. -/
theorem evaluate_footprint_stopped :
    let sequence : Sequence := [.operand (.symbol "x"), .operand (.literal "5" false),
      .operator .assign, .call "fac" [[.operand (.symbol "y"), .operand (.literal "3" false),
        .operator .assign]], .operator (.arithmetic .plus), .operand (.symbol "z"),
      .operator (.arithmetic .plus)]
    let other : Bindings := Directory.empty.put "q" 1.0
    Bindings.standard.AgreeOn sequence.Mentions other ∧
      (sequence.evaluate FunctionTable.standard 10 Bindings.standard).ending =
        .error (.fault (.undefinedName "z")) ∧
      (sequence.evaluate FunctionTable.standard 10 other).ending =
        .error (.fault (.undefinedName "z")) ∧
      (sequence.evaluate FunctionTable.standard 10 other).bindings.get? "q" = some 1.0 ∧
      (sequence.evaluate FunctionTable.standard 10 other).bindings.get? "y" = some 3.0 := by
  intro sequence other
  have among : Everywhere (fun token => ∀ name, token = .operand (.symbol name) →
      name ∈ ["x", "y", "z"]) sequence := by
    simp [sequence, Everywhere, Token.Everywhere, EverywhereEach]
  have mentioned : ∀ name, sequence.Mentions name → name ∈ ["x", "y", "z"] := by
    intro name inside
    exact everywhere_iff.mp among _ inside name rfl
  have unbound : ∀ name ∈ ["x", "y", "z"], Bindings.standard.get? name = other.get? name := by
    decide
  have agree : Bindings.standard.AgreeOn sequence.Mentions other := by
    intro name inside
    exact unbound name (mentioned name inside)
  have assigned : sequence.Mentions "y" := by
    refine (HasToken.passed ?_ List.mem_cons_self _).behind _ |>.behind _ |>.behind _
    exact has_token_head _ _
  have stopped : (sequence.evaluate FunctionTable.standard 10 Bindings.standard).ending =
      .error (.fault (.undefinedName "z")) := by decide +kernel
  have bound : (sequence.evaluate FunctionTable.standard 10 Bindings.standard).bindings.get? "y" =
      some 3.0 := by decide +kernel
  obtain ⟨moves, alike⟩ := evaluate_footprint FunctionTable.standard 10 sequence
  obtain ⟨ended, -, same⟩ := alike Bindings.standard other agree
  have apart : ¬ sequence.Mentions "q" := fun inside => absurd (mentioned "q" inside) (by decide)
  exact ⟨agree, stopped, ended ▸ stopped, (moves other).1 "q" apart,
    same "y" assigned ▸ bound⟩

end Sequence

end RadixCalc
