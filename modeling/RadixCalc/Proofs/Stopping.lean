import RadixCalc.Evaluation
import RadixCalc.Proofs.Binary64.Unpacking

/-!
How computations stop short. A computation hands its state on whether it ends or
stops, and what it can stop for is what its parts can stop for. Reading a number
only has the faults of conversion, and resolving an operand has one more, a name
that stands for nothing. A base that is too long to be shown interrupts both.
Arithmetic only stops for the floor of an infinity.
-/

namespace RadixCalc

/-- A chain fails where its first part fails, or else where the rest does. -/
theorem bind_error {ε α β : Type} {first : Except ε α} {next : α → Except ε β}
    {problem : ε} (refused : first >>= next = .error problem) :
    first = .error problem ∨ ∃ value, first = .ok value ∧ next value = .error problem := by
  cases first with
  | error other => exact Or.inl (congrArg Except.error (Except.error.inj refused))
  | ok value => exact Or.inr ⟨value, rfl, refused⟩

theorem bind_ok {ε α β : Type} {first : Except ε α} {next : α → Except ε β} {result : β}
    (ended : first >>= next = .ok result) :
    ∃ value, first = .ok value ∧ next value = .ok result := by
  cases first with
  | error other => cases ended
  | ok value => exact ⟨value, rfl, ended⟩

section Running

variable {ε σ α β : Type}

theorem run_bind (first : ExceptT ε (StateM σ) α) (next : α → ExceptT ε (StateM σ) β)
    (state : σ) :
    (first >>= next).run state =
      match first.run state with
      | (.ok value, after) => (next value).run after
      | (.error problem, after) => (.error problem, after) := by
  have opened : (first >>= next).run state =
      ExceptT.bindCont next (first.run state).1 (first.run state).2 := rfl
  rw [opened]
  obtain ⟨ending, after⟩ := first.run state
  cases ending <;> rfl

theorem run_map (shape : α → β) (first : ExceptT Stop (StateM σ) α) (state : σ) :
    (shape <$> first).run state = ((first.run state).1.map shape, (first.run state).2) := by
  rw [map_eq_pure_bind, run_bind]
  obtain ⟨ending, after⟩ := first.run state
  cases ending <;> rfl

theorem run_resolve (base : Int) (operand : Operand) (workspace : Workspace) :
    (Evaluation.resolve base operand).run workspace =
      (Evaluation.ofResult (operand.resolve base workspace.bindings)).run workspace :=
  rfl

/-- Everything that a computation stops for, from any state, is allowed. -/
def StopsWithin (allowed : Stop → Prop) (computation : ExceptT Stop (StateM σ) α) : Prop :=
  ∀ (state : σ) (stop : Stop), (computation.run state).1 = .error stop → allowed stop

namespace StopsWithin

variable {allowed : Stop → Prop}

theorem pure (value : α) :
    StopsWithin allowed (Pure.pure value : ExceptT Stop (StateM σ) α) := by
  intro state stop ended
  cases ended

theorem stopped {stop : Stop} (permitted : allowed stop) :
    StopsWithin allowed (throw stop : ExceptT Stop (StateM σ) α) := by
  intro state other ended
  obtain rfl : stop = other := Except.error.inj ended
  exact permitted

/-- Only what the first part ends with is handed on. -/
theorem bind_ended {first : ExceptT Stop (StateM σ) α} {next : α → ExceptT Stop (StateM σ) β}
    (firstWithin : StopsWithin allowed first)
    (nextWithin : ∀ state value after, first.run state = (.ok value, after) →
      StopsWithin allowed (next value)) :
    StopsWithin allowed (first >>= next) := by
  intro state stop ended
  rw [run_bind] at ended
  cases ran : first.run state with
  | mk ending after =>
      rw [ran] at ended
      cases ending with
      | error other =>
          obtain rfl : other = stop := Except.error.inj ended
          exact firstWithin state other (by rw [ran])
      | ok value => exact nextWithin state value after ran after stop ended

theorem bind {first : ExceptT Stop (StateM σ) α} {next : α → ExceptT Stop (StateM σ) β}
    (firstWithin : StopsWithin allowed first)
    (nextWithin : ∀ value, StopsWithin allowed (next value)) :
    StopsWithin allowed (first >>= next) :=
  firstWithin.bind_ended fun _ value _ _ => nextWithin value

end StopsWithin

end Running

namespace Numeral

variable {radix : Radix}

theorem digit_in_fault {char : Char} {fault : Fault} (refused : digitIn radix char = .error fault) :
    FaultKind.conversion ∈ fault.kind.lineage := by
  rw [digitIn] at refused
  split at refused
  · split at refused
    · cases refused
    · obtain rfl := Except.error.inj refused
      simp [Fault.kind, Fault.report, FaultKind.lineage, FaultKind.above]
  · obtain rfl := Except.error.inj refused
    simp [Fault.kind, Fault.report, FaultKind.lineage, FaultKind.above]

theorem add_whole_fault {weight total : Float} {digits : List Char} {fault : Fault}
    (refused : addWhole radix weight total digits = .error fault) :
    FaultKind.conversion ∈ fault.kind.lineage := by
  induction digits generalizing weight total with
  | nil => cases refused
  | cons char rest induction =>
      rw [addWhole] at refused
      rcases bind_error refused with digit | ⟨value, _, later⟩
      · exact digit_in_fault digit
      · exact induction later

theorem add_fraction_fault {weight total : Float} {digits : List Char} {fault : Fault}
    (refused : addFraction radix weight total digits = .error fault) :
    FaultKind.conversion ∈ fault.kind.lineage := by
  induction digits generalizing weight total with
  | nil => cases refused
  | cons char rest induction =>
      rw [addFraction] at refused
      rcases bind_error refused with digit | ⟨value, _, later⟩
      · exact digit_in_fault digit
      · exact induction later

theorem read_digits_fault {text : List Char} {fault : Fault}
    (refused : readDigits radix text = .error fault) :
    FaultKind.conversion ∈ fault.kind.lineage := by
  rw [readDigits] at refused
  split at refused
  · obtain rfl := Except.error.inj refused
    decide
  · rcases bind_error refused with whole | ⟨total, _, fraction⟩
    · exact add_whole_fault whole
    · exact add_fraction_fault fraction

end Numeral

namespace Stop

/-- One of these faults, or the interruption by a number that was to be shown and cannot be. -/
def Shows (number : Int) (faults : Fault → Prop) : Stop → Prop
  | fault problem => faults problem
  | interruption cause => cause = .longNumber ∧ ShownInt.ofInt? number = none

variable {number : Int} {faults others : Fault → Prop} {stop : Stop}

theorem Shows.imp (shows : stop.Shows number faults)
    (wider : ∀ problem, faults problem → others problem) : stop.Shows number others := by
  cases stop with
  | fault problem => exact wider problem shows
  | interruption cause => exact shows

theorem showing_shows {shape : ShownInt → Fault}
    (shaped : ∀ shown : ShownInt, shown.value = number → faults (shape shown)) :
    (showing number shape).Shows number faults := by
  rw [showing]
  cases found : ShownInt.ofInt? number with
  | none => exact ⟨rfl, found⟩
  | some shown => exact shaped shown (ShownInt.of_int_some_iff.mp found)

end Stop

namespace Numeral

variable {base : Int} {stop : Stop}

/-- Reports that the base is not supported. -/
def RefusesBase (base : Int) (fault : Fault) : Prop :=
  ∃ shown : ShownInt, shown.value = base ∧ fault = .unsupportedBase shown

theorem require_stop (refused : Radix.require base = .error stop) :
    stop.Shows base (RefusesBase base) := by
  rw [Radix.require] at refused
  split at refused
  · cases refused
  · obtain rfl := Except.error.inj refused
    exact Stop.showing_shows fun shown same => ⟨shown, same, rfl⟩

/-- A base is refused with a fault if it can be shown. -/
theorem require_shown {shown : ShownInt} (outside : Radix.ofInt? shown.value = none) :
    Radix.require shown.value = .error (.fault (.unsupportedBase shown)) := by
  rw [Radix.require, outside, Stop.showing_value]

theorem conversion_of_refused_base {fault : Fault} (refuses : RefusesBase base fault) :
    FaultKind.conversion ∈ fault.kind.lineage := by
  obtain ⟨shown, -, rfl⟩ := refuses
  simp [Fault.kind, Fault.report, FaultKind.lineage, FaultKind.above]

theorem read_stop {text : String} (refused : read text base = .error stop) :
    stop.Shows base fun fault => FaultKind.conversion ∈ fault.kind.lineage := by
  rw [read] at refused
  split at refused
  · cases refused
  split at refused
  · cases refused
  rcases bind_error refused with required | ⟨radix, _, reading⟩
  · exact (require_stop required).imp fun _ => conversion_of_refused_base
  · obtain ⟨fault, digits, rfl⟩ := Stop.of_checked_error reading
    exact read_digits_fault digits

end Numeral

theorem Operand.resolve_stop {base : Int} {bindings : Bindings} {operand : Operand} {stop : Stop}
    (refused : operand.resolve base bindings = .error stop) :
    stop.Shows base fun fault =>
      FaultKind.conversion ∈ fault.kind.lineage ∨ fault.kind = .undefinedName := by
  cases operand with
  | number value => cases refused
  | literal digits negative =>
      rw [Operand.resolve] at refused
      rcases bind_error refused with read | ⟨value, _, signed⟩
      · exact (Numeral.read_stop read).imp fun _ => Or.inl
      · cases signed
  | symbol name =>
      rw [Operand.resolve] at refused
      split at refused
      · cases refused
      split at refused
      · exact (Numeral.read_stop refused).imp fun _ => Or.inl
      · obtain rfl := Except.error.inj refused
        exact Or.inr rfl

/-- A power is too large only between numbers. -/
theorem Mathematics.power_range {left right : Float}
    (refused : power left right = .error .range) :
    right.isNaN = false ∧ right.isInf = false := by
  rw [power] at refused
  split at refused
  · cases refused
  · rename_i finite
    have both : (left.isFinite && right.isFinite) = true := by simpa using finite
    exact Binary64.number_of_finite (Bool.and_eq_true_iff.mp both).2

namespace Evaluation

variable {functions : FunctionTable} {name : String} {count : Nat}

theorem computation_of_ok {compute : List Float → Except Stop Float}
    (found : computationOf functions name count = .ok compute) :
    ∃ entry, functions.get? name = some entry ∧ entry.builtin = true ∧
      entry.compute = some compute ∧ entry.arity = count := by
  rw [computationOf] at found
  split at found
  · cases found
  rename_i entry listed
  split at found
  · cases found
  rename_i counted
  split at found
  · rename_i computing
    split at found
    · rename_i builtin
      cases found
      exact ⟨entry, listed, builtin, computing, not_not.mp counted⟩
    · cases found
  · cases found

/-- Looking a computation up has three kinds of fault. One of them shows how many arguments there
should be, if that can be shown. -/
theorem computation_of_stop {stop : Stop}
    (refused : computationOf functions name count = .error stop) :
    stop = .fault (.undefinedName name) ∨ stop = .fault (.unsupportedFunction name) ∨
      ∃ entry, functions.get? name = some entry ∧
        stop.Shows entry.arity fun fault =>
          ∃ expected, fault = .argumentCount name expected count := by
  rw [computationOf] at refused
  split at refused
  · exact Or.inl (Except.error.inj refused).symm
  rename_i entry listed
  split at refused
  · obtain rfl := Except.error.inj refused
    exact Or.inr (Or.inr ⟨entry, listed, Stop.showing_shows fun shown _ => ⟨shown, rfl⟩⟩)
  split at refused
  · split at refused
    · cases refused
    · exact Or.inr (Or.inl (Except.error.inj refused).symm)
  · exact Or.inr (Or.inl (Except.error.inj refused).symm)

end Evaluation

namespace Arithmetic

theorem is_odd_exponent_stop {exponent : Float} {stop : Stop} (number : exponent.isNaN = false)
    (stopped : isOddExponent exponent = .error stop) : stop = .interruption .infiniteFloor := by
  rw [isOddExponent, Mathematics.isFloor, number] at stopped
  cases infinite : exponent.isInf with
  | true =>
      rw [infinite] at stopped
      exact (Except.error.inj stopped).symm
  | false =>
      rw [infinite] at stopped
      cases stopped

theorem raise_stop {left right : Float} {stop : Stop} (stopped : raise left right = .error stop) :
    stop = .interruption .infiniteFloor := by
  rw [raise] at stopped
  split at stopped
  · rename_i degenerate
    have below : right < 0.0 := of_decide_eq_true (Bool.and_eq_true_iff.mp degenerate).2
    rcases bind_error stopped with odd | ⟨_, -, finished⟩
    · exact is_odd_exponent_stop (Binary64.number_of_below_zero below) odd
    · cases finished
  split at stopped
  · cases stopped
  · cases stopped
  · rename_i refused
    split at stopped
    · rcases bind_error stopped with odd | ⟨_, -, finished⟩
      · exact is_odd_exponent_stop (Mathematics.power_range refused).1 odd
      · cases finished
    · cases stopped

theorem remainder_of_total (left right : Float) :
    ∃ value, remainderOf left right = .ok value := by
  rw [remainderOf]
  split
  · exact ⟨_, rfl⟩
  · rename_i guarded
    obtain ⟨divides, bounded⟩ := Bool.or_eq_false_iff.mp (Bool.eq_false_iff.mpr guarded)
    rw [Mathematics.remainder, divides, bounded]
    cases left.isNaN || right.isNaN <;> exact ⟨_, rfl⟩

theorem quotient_of_total (left right : Float) : ∃ value, quotientOf left right = .ok value := by
  rw [quotientOf]
  split
  · split
    · exact ⟨_, rfl⟩
    · split <;> exact ⟨_, rfl⟩
  · rename_i guarded
    rw [Mathematics.quotient, if_neg guarded]
    exact ⟨_, rfl⟩

/-- Arithmetic has no faults; it only comes to the floor of an infinity. -/
theorem apply_stop {operation : Arithmetic} {left right : Float} {stop : Stop}
    (stopped : operation.apply left right = .error stop) :
    stop = .interruption .infiniteFloor := by
  cases operation with
  | power => exact raise_stop stopped
  | times => cases stopped
  | divide =>
      obtain ⟨value, divided⟩ := quotient_of_total left right
      rw [apply, divided] at stopped
      cases stopped
  | remainder =>
      obtain ⟨value, divided⟩ := remainder_of_total left right
      rw [apply, divided] at stopped
      cases stopped
  | plus => cases stopped
  | minus => cases stopped

end Arithmetic

end RadixCalc
