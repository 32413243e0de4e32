import RadixCalc.Proofs.Evaluation.Discipline
import RadixCalc.Proofs.FunctionTable

/-!
When the floor of an infinity interrupts an evaluation. An evaluation reaches an
operation if the tokens before it are taken in, its two operands are on the stack
and both can be resolved, be it in the sequence itself or in an argument of a
call, whose earlier arguments then have values. If functions refuse nothing but
their arguments, only a power that is reached with zero on the left and minus
infinity on the right asks for such a floor, and such a power always does.
-/

namespace RadixCalc

namespace Arithmetic

theorem is_odd_exponent_interrupted_iff {exponent : Float} (below : exponent < 0.0) :
    isOddExponent exponent = .error (.interruption .infiniteFloor) ↔
      exponent = -Binary64.infinity := by
  have number := Binary64.number_of_below_zero below
  constructor
  · intro interrupted
    cases infinite : exponent.isInf with
    | true => exact Binary64.infinite_below_zero.mp ⟨below, infinite⟩
    | false =>
        simp only [isOddExponent, Mathematics.isFloor, number, infinite] at interrupted
        cases interrupted
  · intro same
    have infinite := (Binary64.infinite_below_zero.mpr same).2
    simp only [isOddExponent, Mathematics.isFloor, number, infinite]
    rfl

theorem apply_interrupted_iff {operation : Arithmetic} {left right : Float} :
    operation.apply left right = .error (.interruption .infiniteFloor) ↔
      operation = .power ∧ (left == 0.0) = true ∧ right = -Binary64.infinity := by
  constructor
  · intro interrupted
    cases operation with
    | power =>
        rw [apply, raise] at interrupted
        split at interrupted
        · rename_i degenerate
          obtain ⟨zero, below⟩ := Bool.and_eq_true_iff.mp degenerate
          rcases bind_error interrupted with odd | ⟨_, -, finished⟩
          · exact ⟨rfl, zero,
              (is_odd_exponent_interrupted_iff (of_decide_eq_true below)).mp odd⟩
          · cases finished
        split at interrupted
        · cases interrupted
        · cases interrupted
        · rename_i refused
          -- A power that is too large has an exponent with a floor.
          obtain ⟨number, bounded⟩ := Mathematics.power_range refused
          simp only [isOddExponent, Mathematics.isFloor, number, bounded] at interrupted
          split at interrupted <;> cases interrupted
    | times => cases interrupted
    | divide =>
        obtain ⟨value, divided⟩ := quotient_of_total left right
        rw [apply, divided] at interrupted
        cases interrupted
    | remainder =>
        obtain ⟨value, divided⟩ := remainder_of_total left right
        rw [apply, divided] at interrupted
        cases interrupted
    | plus => cases interrupted
    | minus => cases interrupted
  · rintro ⟨rfl, zero, rfl⟩
    have below := (Binary64.infinite_below_zero.mpr (rfl : -Binary64.infinity = _)).1
    rw [apply, raise]
    simp only [zero, below, decide_true, Bool.and_self, if_true,
      (is_odd_exponent_interrupted_iff below).mpr rfl]
    rfl

end Arithmetic

namespace Evaluation

variable {α β : Type}

/-- From the workspace the computation is interrupted. -/
def Interrupts (computation : Evaluation α) (workspace : Workspace) : Prop :=
  (computation.run workspace).1 = .error (.interruption .infiniteFloor)

namespace Interrupts

variable {workspace : Workspace}

theorem not_pure {value : α} : ¬ Interrupts (pure value) workspace := by
  intro interrupts
  cases interrupts

theorem not_fail {fault : Fault} : ¬ Interrupts (fail fault : Evaluation α) workspace := by
  intro interrupts
  cases interrupts

theorem of_result_iff {ending : Except Stop α} :
    Interrupts (ofResult ending) workspace ↔ ending = .error (.interruption .infiniteFloor) := by
  cases ending with
  | ok value => exact ⟨fun interrupts => (not_pure interrupts).elim, fun same => by cases same⟩
  | error stop => exact ⟨fun interrupts => interrupts, fun same => same⟩

/-- A number that cannot be shown is another interruption. -/
theorem not_showing {result : Except Stop α} {number : Int} {faults : Fault → Prop}
    (shows : ∀ stop, result = .error stop → stop.Shows number faults) :
    ¬ Interrupts (ofResult result) workspace := by
  intro interrupts
  obtain ⟨other, -⟩ := shows _ (of_result_iff.mp interrupts)
  cases other

theorem not_resolve {base : Int} {operand : Operand} :
    ¬ Interrupts (resolve base operand) workspace := by
  intro interrupts
  rw [Interrupts, run_resolve] at interrupts
  exact not_showing (fun _ => Operand.resolve_stop) interrupts

theorem not_found {functions : FunctionTable} {name : String} {count : Nat} :
    ¬ Interrupts (ofResult (computationOf functions name count)) workspace := by
  intro interrupts
  have missing := of_result_iff.mp interrupts
  rcases computation_of_stop missing with same | same | ⟨entry, -, other, -⟩
  · cases same
  · cases same
  · cases other

/-- A chain is interrupted where its first part is, or else where the rest is. -/
theorem bind_iff {first : Evaluation α} {next : α → Evaluation β} :
    Interrupts (first >>= next) workspace ↔
      Interrupts first workspace ∨
        ∃ value after, first.run workspace = (.ok value, after) ∧
          Interrupts (next value) after := by
  unfold Interrupts
  rw [run_bind]
  obtain ⟨ending, after⟩ := first.run workspace
  cases ending with
  | ok value =>
      constructor
      · intro later
        exact Or.inr ⟨value, after, rfl, later⟩
      · rintro (first | ⟨_, _, same, later⟩)
        · cases first
        · cases same
          exact later
  | error stop =>
      constructor
      · intro interrupted
        exact Or.inl (congrArg Except.error (Except.error.inj interrupted))
      · rintro (interrupted | ⟨_, _, same, _⟩)
        · exact congrArg Except.error (Except.error.inj interrupted)
        · cases same

theorem of_first {first : Evaluation α} (next : α → Evaluation β)
    (interrupts : Interrupts first workspace) : Interrupts (first >>= next) workspace :=
  bind_iff.mpr (Or.inl interrupts)

theorem of_rest {first : Evaluation α} {next : α → Evaluation β} {value : α}
    {after : Workspace}
    (ran : first.run workspace = (.ok value, after)) (interrupts : Interrupts (next value) after) :
    Interrupts (first >>= next) workspace :=
  bind_iff.mpr (Or.inr ⟨value, after, ran, interrupts⟩)

theorem after_quiet {first : Evaluation α} {next : α → Evaluation β}
    (interrupts : Interrupts (first >>= next) workspace) (quiet : ¬ Interrupts first workspace) :
    ∃ value after, first.run workspace = (.ok value, after) ∧ Interrupts (next value) after :=
  (bind_iff.mp interrupts).resolve_left quiet

theorem not_note {event : Event} : ¬ Interrupts (note event) workspace := by
  intro interrupts
  cases interrupts

theorem not_assign {name : String} {value : Float} :
    ¬ Interrupts (assign name value) workspace := by
  intro interrupts
  cases interrupts

end Interrupts

/-- A result that is taken over leaves the workspace as it was. -/
theorem run_result_ok {result : Except Stop α} {value : α} {workspace after : Workspace} :
    (ofResult result).run workspace = (.ok value, after) ↔
      result = .ok value ∧ workspace = after := by
  cases result with
  | ok found =>
      constructor
      · intro ended
        cases ended
        exact ⟨rfl, rfl⟩
      · rintro ⟨same, rfl⟩
        cases same
        rfl
  | error stop =>
      constructor
      · intro ended
        cases ended
      · rintro ⟨same, -⟩
        cases same

theorem run_resolve_ok {base : Int} {operand : Operand} {value : Float}
    {workspace after : Workspace} :
    (resolve base operand).run workspace = (.ok value, after) ↔
      operand.resolve base workspace.bindings = .ok value ∧ workspace = after := by
  rw [run_resolve]
  exact run_result_ok

theorem operate_interrupts_iff {base : Int} {operator : Operator} {stack : List Operand}
    {workspace : Workspace} :
    Interrupts (operate base operator stack) workspace ↔
      operator = .arithmetic .power ∧ ∃ second first below zero,
        stack = second :: first :: below ∧ (zero == 0.0) = true ∧
          second.resolve base workspace.bindings = .ok (-Binary64.infinity) ∧
          first.resolve base workspace.bindings = .ok zero := by
  constructor
  · intro interrupts
    match stack with
    | [] => exact (Interrupts.not_fail interrupts).elim
    | [_] => exact (Interrupts.not_fail interrupts).elim
    | second :: first :: below =>
        by_cases assigning : operator = .assign
        · rw [operate, if_pos assigning] at interrupts
          obtain ⟨value, _, -, assigned⟩ := interrupts.after_quiet Interrupts.not_resolve
          cases first with
          | symbol name =>
              obtain ⟨_, _, -, finished⟩ := assigned.after_quiet Interrupts.not_assign
              exact (Interrupts.not_pure finished).elim
          | number found => exact (Interrupts.not_fail assigned).elim
          | literal digits negative => exact (Interrupts.not_fail assigned).elim
        · rw [operate, if_neg assigning] at interrupts
          obtain ⟨right, _, resolved, further⟩ := interrupts.after_quiet Interrupts.not_resolve
          obtain ⟨resolvedRight, rfl⟩ := run_resolve_ok.mp resolved
          obtain ⟨left, _, resolved, applying⟩ := further.after_quiet Interrupts.not_resolve
          obtain ⟨resolvedLeft, rfl⟩ := run_resolve_ok.mp resolved
          -- Only applying the operator is left, and of all operators only a power interrupts.
          rcases Interrupts.bind_iff.mp applying with applied | ⟨_, _, -, finished⟩
          · have stopped := Interrupts.of_result_iff.mp applied
            cases operator with
            | arithmetic operation =>
                obtain ⟨rfl, equal, rfl⟩ := Arithmetic.apply_interrupted_iff.mp stopped
                exact ⟨rfl, second, first, below, left, rfl, equal, resolvedRight, resolvedLeft⟩
            | assign => exact absurd rfl assigning
            | group => cases stopped
            | other symbol => cases stopped
          · exact (Interrupts.not_pure finished).elim
  · rintro ⟨rfl, second, first, below, zero, rfl, equal, resolvedRight, resolvedLeft⟩
    have applied : Arithmetic.apply .power zero (-Binary64.infinity) =
        .error (.interruption .infiniteFloor) :=
          Arithmetic.apply_interrupted_iff.mpr ⟨rfl, equal, rfl⟩
    rw [operate, if_neg (by decide)]
    apply Interrupts.of_rest (run_resolve_ok.mpr ⟨resolvedRight, rfl⟩)
    apply Interrupts.of_rest (run_resolve_ok.mpr ⟨resolvedLeft, rfl⟩)
    exact (Interrupts.of_result_iff.mpr applied).of_first _

section Reaching

variable (functions : FunctionTable) (base : Int) (operation : Arithmetic) (left right : Float)

/-- From the workspace, evaluating the sequence comes to the operation with these two numbers. -/
inductive Reaches : Sequence → Workspace → Prop where
  | here {before after : Sequence} {first second : Operand} {below : List Operand}
      {start reached : Workspace}
      (taken : (takeAll functions base before []).run start =
        (.ok (second :: first :: below), reached))
      (resolvedRight : second.resolve base reached.bindings = .ok right)
      (resolvedLeft : first.resolve base reached.bindings = .ok left) :
      Reaches (before ++ .operator (.arithmetic operation) :: after) start
  | inside {before after argument : Sequence} {name : String} {earlier later : List Sequence}
      {stack : List Operand} {compute : List Float → Except Stop Float} {values : List Float}
      {start reached entered : Workspace}
      (taken : (takeAll functions base before []).run start = (.ok stack, reached))
      (found : computationOf functions name (earlier ++ argument :: later).length = .ok compute)
      (evaluated : (evaluateEach functions base earlier).run reached = (.ok values, entered))
      (reaches : Reaches argument entered) :
      Reaches (before ++ .call name (earlier ++ argument :: later) :: after) start

variable {functions base operation left right} in
theorem Reaches.filled {sequence : Sequence} {start : Workspace}
    (reaches : Reaches functions base operation left right sequence start) : sequence ≠ [] := by
  cases reaches <;> simp

/-- From the workspace, evaluating the sequence comes to zero raised to minus infinity. -/
def ReachesInfiniteExponent (sequence : Sequence) (start : Workspace) : Prop :=
  ∃ zero, (zero == 0.0) = true ∧
    Reaches functions base .power zero (-Binary64.infinity) sequence start

end Reaching

variable {functions : FunctionTable} {base : Int}

theorem conclude_quiet {count : Nat} {stack : List Operand} {workspace : Workspace} :
    ¬ Interrupts (conclude base count stack) workspace := by
  intro interrupts
  match stack with
  | [] => exact Interrupts.not_pure interrupts
  | [operand] =>
      obtain ⟨value, _, -, noted⟩ := interrupts.after_quiet Interrupts.not_resolve
      obtain ⟨_, _, -, finished⟩ := noted.after_quiet Interrupts.not_note
      exact Interrupts.not_pure finished
  | _ :: _ :: _ => exact Interrupts.not_fail interrupts

theorem run_take_all_append {first : Sequence} {stack middle : List Operand}
    {start reached : Workspace}
    (taken : (takeAll functions base first stack).run start = (.ok middle, reached))
    (second : Sequence) :
    (takeAll functions base (first ++ second) stack).run start =
      (takeAll functions base second middle).run reached := by
  rw [take_all_append, run_bind, taken]

theorem evaluate_each_append (first second : List Sequence) :
    evaluateEach functions base (first ++ second) =
      evaluateEach functions base first >>= fun values =>
        evaluateEach functions base second >>= fun others => pure (values ++ others) := by
  induction first with
  | nil => simp [evaluateEach]
  | cons argument rest induction => simp [evaluateEach, induction]

theorem run_evaluate_each_append {first second : List Sequence} {values others : List Float}
    {start reached final : Workspace}
    (evaluated : (evaluateEach functions base first).run start = (.ok values, reached))
    (further : (evaluateEach functions base second).run reached = (.ok others, final)) :
    (evaluateEach functions base (first ++ second)).run start =
      (.ok (values ++ others), final) := by
  rw [evaluate_each_append, run_bind, evaluated]
  simp only [run_bind, further]
  rfl

/-- An argument is evaluated on a stack of its own. -/
theorem run_evaluate_each_single {argument : Sequence} {stack : List Operand} {value : Float}
    {start reached final : Workspace}
    (taken : (takeAll functions base argument []).run start = (.ok stack, reached))
    (concluded : (conclude base argument.length stack).run reached = (.ok value, final)) :
    (evaluateEach functions base [argument]).run start = (.ok [value], final) := by
  rw [evaluateEach, run_bind, taken]
  simp only [run_bind, concluded]
  rfl

theorem computes_quiet (refuses : functions.RefusesOnlyArguments) {name : String}
    {values : List Float} {compute : List Float → Except Stop Float} {workspace : Workspace}
    (found : computationOf functions name values.length = .ok compute) :
    ¬ Interrupts (ofResult (compute values)) workspace := by
  intro interrupts
  obtain ⟨entry, listed, builtin, computing, arity⟩ := computation_of_ok found
  obtain ⟨_, other, -⟩ := refuses _ ⟨name, entry, compute, values, listed, builtin, computing,
    arity, Interrupts.of_result_iff.mp interrupts⟩
  cases other

section Interrupted

mutual

theorem reaches_of_take_token (refuses : functions.RefusesOnlyArguments) (token : Token)
    {before after : Sequence} {stack : List Operand} {start reached : Workspace}
    (taken : (takeAll functions base before []).run start = (.ok stack, reached))
    (interrupts : Interrupts (takeToken functions base token stack) reached) :
    ReachesInfiniteExponent functions base (before ++ token :: after) start := by
  match token with
  | .operand value => exact (Interrupts.not_pure interrupts).elim
  | .operator operator =>
      obtain ⟨rfl, second, first, below, zero, rfl, equal, resolvedRight, resolvedLeft⟩ :=
        operate_interrupts_iff.mp interrupts
      exact ⟨zero, equal, .here taken resolvedRight resolvedLeft⟩
  | .call name arguments =>
      obtain ⟨compute, _, checked, called⟩ := interrupts.after_quiet Interrupts.not_found
      obtain ⟨found, rfl⟩ := run_result_ok.mp checked
      rcases Interrupts.bind_iff.mp called with evaluating | ⟨values, _, evaluated, computing⟩
      · have nothing : (evaluateEach functions base []).run reached = (.ok [], reached) := rfl
        exact reaches_of_evaluate_each refuses arguments taken found nothing evaluating
      · rw [← evaluate_each_length arguments ⟨_, congrArg Prod.fst evaluated⟩] at found
        obtain ⟨_, _, -, finished⟩ := computing.after_quiet (computes_quiet refuses found)
        exact (Interrupts.not_pure finished).elim

theorem reaches_of_take_all (refuses : functions.RefusesOnlyArguments) (sequence : List Token)
    {before : Sequence} {stack : List Operand} {start reached : Workspace}
    (taken : (takeAll functions base before []).run start = (.ok stack, reached))
    (interrupts : Interrupts (takeAll functions base sequence stack) reached) :
    ReachesInfiniteExponent functions base (before ++ sequence) start := by
  match sequence with
  | [] => exact (Interrupts.not_pure interrupts).elim
  | token :: rest =>
      rcases Interrupts.bind_iff.mp interrupts with first | ⟨next, entered, taking, later⟩
      · exact reaches_of_take_token refuses token taken first
      · have further : (takeAll functions base (before ++ [token]) []).run start =
            (.ok next, entered) := by
          rw [run_take_all_append taken, takeAll, run_bind, taking]
          rfl
        have reaches := reaches_of_take_all refuses rest further later
        rwa [List.append_assoc] at reaches

theorem reaches_of_evaluate_each (refuses : functions.RefusesOnlyArguments)
    (arguments : List (List Token)) {before after : Sequence}
    {name : String} {earlier : List Sequence} {stack : List Operand}
    {compute : List Float → Except Stop Float} {values : List Float}
    {start reached entered : Workspace}
    (taken : (takeAll functions base before []).run start = (.ok stack, reached))
    (found : computationOf functions name (earlier ++ arguments).length = .ok compute)
    (evaluated : (evaluateEach functions base earlier).run reached = (.ok values, entered))
    (interrupts : Interrupts (evaluateEach functions base arguments) entered) :
    ReachesInfiniteExponent functions base
      (before ++ .call name (earlier ++ arguments) :: after) start := by
  match arguments with
  | [] => exact (Interrupts.not_pure interrupts).elim
  | argument :: rest =>
      rcases Interrupts.bind_iff.mp interrupts with inside | ⟨inner, left, taking, concluding⟩
      · have nothing : (takeAll functions base [] []).run entered = (.ok [], entered) := rfl
        obtain ⟨zero, equal, reaches⟩ := reaches_of_take_all refuses argument nothing inside
        exact ⟨zero, equal, .inside taken found evaluated reaches⟩
      · -- The argument has a value, so it is one of the earlier ones for those behind it.
        obtain ⟨value, final, concluded, remaining⟩ := concluding.after_quiet conclude_quiet
        rcases Interrupts.bind_iff.mp remaining with later | ⟨_, _, -, finished⟩
        · have further := run_evaluate_each_append evaluated
            (run_evaluate_each_single taking concluded)
          have regrouped : earlier ++ argument :: rest = (earlier ++ [argument]) ++ rest := by simp
          rw [regrouped] at found ⊢
          exact reaches_of_evaluate_each refuses rest taken found further later
        · exact (Interrupts.not_pure finished).elim

end

end Interrupted

end Evaluation

end RadixCalc
