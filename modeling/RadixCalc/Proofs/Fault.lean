import RadixCalc.Proofs.Evaluation.Discipline
import RadixCalc.Proofs.FunctionTable
import RadixCalc.Proofs.Lexeme.Trimming
import RadixCalc.Proofs.Sequence.Occurrence

/-!
What can stop a calculation. Reading a text has a few faults, and evaluation has
faults of its own, none of them among these. One fault is never reported, neither
by reading nor by evaluating, unless a function does: what waits on the stack of
an evaluation is always an operand that stands for a value.
-/

namespace RadixCalc

/-- The faults that evaluation has by itself. -/
def Fault.OfEvaluation : Fault → Prop
  | unsupportedBase _ | invalidDigit _ _ | repeatedPoint | operatorArity _ _ | targetNotSymbol _
  | undefinedName _ | argumentCount _ _ _ | unsupportedFunction _ | missingOperator
  | unknownOperator _ => True
  | _ => False

theorem Fault.of_evaluation_of_conversion {fault : Fault}
    (conversion : FaultKind.conversion ∈ fault.kind.lineage) : fault.OfEvaluation := by
  cases fault <;>
    simp_all [OfEvaluation, kind, report, FaultKind.lineage, FaultKind.above]

theorem Fault.of_evaluation_of_undefined {fault : Fault} (unnamed : fault.kind = .undefinedName) :
    fault.OfEvaluation := by
  cases fault <;> simp_all [OfEvaluation, kind, report]

/-- Text that is given up has a character that begins no lexeme, or an open call. -/
theorem Scan.fault_cases {signAllowed : Bool} {text : List Char} {fault : Fault}
    (stopped : (ofText signAllowed text).fault = some fault) :
    fault = .unmatchedBracket ∨ ∃ char, fault = .unknownToken char := by
  fun_induction ofText signAllowed text with
  | case1 signAllowed => cases stopped
  | case2 signAllowed first rest stepped induction => exact induction stopped
  | case3 signAllowed first rest found signNext later within stepped induction =>
      exact induction stopped
  | case4 signAllowed first rest found stepped =>
      cases stopped
      rcases step_fault stepped with ⟨-, rfl⟩ | ⟨-, rfl, -⟩
      · exact Or.inr ⟨first, rfl⟩
      · exact Or.inl rfl

namespace Sequence

/-- Lexemes that are no calls are taken as they are. -/
theorem read_calls_error {readArgument : List Char → Except Fault Sequence}
    {lexemes : List Lexeme}
    {fault : Fault} (refused : readCalls readArgument lexemes = .error fault) :
    ∃ name argument, Lexeme.call name argument ∈ lexemes ∧
      readArgument argument = .error fault := by
  induction lexemes with
  | nil => cases refused
  | cons lexeme rest induction =>
      have further : readCalls readArgument rest = .error fault →
          ∃ name argument, Lexeme.call name argument ∈ lexeme :: rest ∧
            readArgument argument = .error fault := by
        intro behind
        obtain ⟨name, argument, member, inside⟩ := induction behind
        exact ⟨name, argument, List.mem_cons_of_mem _ member, inside⟩
      cases lexeme with
      | call name argument =>
          rcases bind_error refused with inside | ⟨_, -, remaining⟩
          · exact ⟨name, argument, List.mem_cons_self, inside⟩
          · rcases bind_error remaining with behind | ⟨_, -, finished⟩
            · exact further behind
            · cases finished
      | _ =>
          rcases bind_error refused with behind | ⟨_, -, finished⟩
          · exact further behind
          · cases finished

variable {settings : Settings}

/-- A text is refused for a fault of an argument or for one of its own. -/
theorem of_text_within_error {levels : Nat} {text : List Char} {fault : Fault}
    (refused : ofTextWithin settings (levels + 1) text = .error fault) :
    (∃ name argument, Lexeme.call name argument ∈ (Scan.ofText true text).lexemes ∧
      ofTextWithin settings levels argument = .error fault) ∨
    (Scan.ofText true text).fault = some fault := by
  rcases bind_error refused with inside | ⟨items, -, arranging⟩
  · exact Or.inl (read_calls_error inside)
  · right
    split at arranging
    · rename_i found stopped
      cases arranging
      exact stopped
    · cases arranging

theorem of_text_within_fault {levels : Nat} {text : List Char} {fault : Fault}
    (refused : ofTextWithin settings levels text = .error fault) :
    fault = .tooDeep settings.callDepth ∨ fault = .unmatchedBracket ∨
      ∃ char, fault = .unknownToken char := by
  induction levels generalizing text with
  | zero => exact Or.inl (Except.error.inj refused).symm
  | succ levels induction =>
      rcases of_text_within_error refused with ⟨_, argument, -, further⟩ | stopped
      · exact induction further
      · exact Or.inr (Scan.fault_cases stopped)

end Sequence

namespace Evaluation

variable {functions : FunctionTable} {base : Int}

/-- What can stop an evaluation in a base: faults of its own, the floor of an infinity, a number
that is too long to be shown in one of these faults, and whatever stops a function. -/
inductive CanStop (functions : FunctionTable) (base : Int) : Stop → Prop where
  | own {fault : Fault} (own : fault.OfEvaluation) : CanStop functions base (.fault fault)
  | infiniteFloor : CanStop functions base (.interruption .infiniteFloor)
  | longBase (long : ShownInt.ofInt? base = none) :
      CanStop functions base (.interruption .longNumber)
  | longArity {name : String} {entry : FunctionEntry} (found : functions.get? name = some entry)
      (long : ShownInt.ofInt? entry.arity = none) :
      CanStop functions base (.interruption .longNumber)
  | refused {stop : Stop} (refuses : functions.Refuses stop) : CanStop functions base stop

theorem CanStop.of_base {stop : Stop} {faults : Fault → Prop} (shows : stop.Shows base faults)
    (own : ∀ fault, faults fault → fault.OfEvaluation) : CanStop functions base stop := by
  cases stop with
  | fault fault => exact .own (own fault shows)
  | interruption cause =>
      obtain ⟨rfl, long⟩ := shows
      exact .longBase long

section Stops

variable {α : Type}

theorem result_stops {result : Except Stop α}
    (permitted : ∀ stop, result = .error stop → CanStop functions base stop) :
    StopsWithin (CanStop functions base) (ofResult result) := by
  cases result with
  | ok value => exact StopsWithin.pure value
  | error stop => exact StopsWithin.stopped (permitted stop rfl)

theorem fail_stops {fault : Fault} (own : fault.OfEvaluation) :
    StopsWithin (CanStop functions base) (fail fault : Evaluation α) :=
  StopsWithin.stopped (.own own)

theorem note_stops (event : Event) : StopsWithin (CanStop functions base) (note event) := by
  intro workspace stop ended
  cases ended

theorem assign_stops (name : String) (value : Float) :
    StopsWithin (CanStop functions base) (assign name value) := by
  intro workspace stop ended
  cases ended

theorem resolve_stops (operand : Operand) :
    StopsWithin (CanStop functions base) (resolve base operand) := by
  intro workspace stop ended
  rw [run_resolve] at ended
  refine result_stops ?_ workspace stop ended
  intro other refused
  refine CanStop.of_base (Operand.resolve_stop refused) ?_
  rintro fault (conversion | unnamed)
  · exact Fault.of_evaluation_of_conversion conversion
  · exact Fault.of_evaluation_of_undefined unnamed

theorem apply_stops (operator : Operator) (left right : Float) :
    StopsWithin (CanStop functions base) (ofResult (operator.apply left right)) := by
  apply result_stops
  intro stop refused
  cases operator with
  | arithmetic operation =>
      rw [Arithmetic.apply_stop refused]
      exact .infiniteFloor
  | assign =>
      cases refused
      exact .own trivial
  | group =>
      cases refused
      exact .own trivial
  | other symbol =>
      cases refused
      exact .own trivial

theorem operate_stops (operator : Operator) (stack : List Operand) :
    StopsWithin (CanStop functions base) (operate base operator stack) := by
  match stack with
  | [] => exact fail_stops trivial
  | [_] => exact fail_stops trivial
  | right :: left :: rest =>
      rw [operate]
      split
      · apply StopsWithin.bind (resolve_stops right)
        intro value
        cases left with
        | symbol name =>
            refine StopsWithin.bind (assign_stops name value) ?_
            intro _
            exact StopsWithin.pure _
        | number found => exact fail_stops trivial
        | literal digits negative => exact fail_stops trivial
      · apply StopsWithin.bind (resolve_stops right)
        intro second
        apply StopsWithin.bind (resolve_stops left)
        intro first
        apply StopsWithin.bind (apply_stops operator first second)
        intro value
        exact StopsWithin.pure _

theorem conclude_stops (count : Nat) (stack : List Operand) :
    StopsWithin (CanStop functions base) (conclude base count stack) := by
  match stack with
  | [] => exact StopsWithin.pure 0.0
  | [operand] =>
      apply StopsWithin.bind (resolve_stops operand)
      intro value
      refine StopsWithin.bind (note_stops _) ?_
      intro _
      exact StopsWithin.pure value
  | _ :: _ :: _ => exact fail_stops trivial

theorem finds_stops (name : String) (count : Nat) :
    StopsWithin (CanStop functions base) (ofResult (computationOf functions name count)) := by
  apply result_stops
  intro stop missing
  rcases computation_of_stop missing with rfl | rfl | ⟨entry, found, shows⟩
  · exact .own trivial
  · exact .own trivial
  · cases stop with
    | fault fault =>
        obtain ⟨expected, rfl⟩ := shows
        exact .own trivial
    | interruption cause =>
        obtain ⟨rfl, long⟩ := shows
        exact .longArity found long

theorem computes_stops {name : String} {values : List Float}
    {compute : List Float → Except Stop Float}
    (found : computationOf functions name values.length = .ok compute) :
    StopsWithin (CanStop functions base) (ofResult (compute values)) := by
  obtain ⟨entry, listed, builtin, computing, arity⟩ := computation_of_ok found
  apply result_stops
  intro stop failed
  exact .refused ⟨name, entry, compute, values, listed, builtin, computing, arity, failed⟩

theorem stops_discipline :
    Discipline functions base (fun _ => True) (fun _ => True)
      (StopsWithin (CanStop functions base)) where
  pure := StopsWithin.pure
  bind within rest := by
    apply StopsWithin.bind_ended within
    intro workspace value after ran
    exact rest value ⟨workspace, by rw [ran]⟩
  operand _ _ := trivial
  number _ := trivial
  operates operator stack _ _ := operate_stops operator stack
  finds := finds_stops
  computes _ _ _ found := computes_stops found
  concludes count stack _ := conclude_stops count stack

/-- Whatever stops an evaluation is one of the things that can. -/
theorem evaluate_stops (sequence : Sequence) :
    StopsWithin (CanStop functions base) (evaluate functions base sequence) := by
  have required : StopsWithin (CanStop functions base) (ofResult (Radix.require base)) := by
    apply result_stops
    intro stop unsupported
    refine CanStop.of_base (Numeral.require_stop unsupported) ?_
    rintro fault ⟨shown, -, rfl⟩
    trivial
  exact stops_discipline.evaluate required (Sequence.everywhere_iff.mpr fun _ _ => trivial)

end Stops

end Evaluation

end RadixCalc
