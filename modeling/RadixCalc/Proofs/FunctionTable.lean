import RadixCalc.Proofs.Stopping

/-!
What functions refuse. A table refuses only arguments if the computations that
can be called stop for no other kind of fault and are not interrupted. The
built-in functions are such a table: of them only the factorial stops, on a
number with a fraction.
-/

namespace RadixCalc

namespace FunctionTable

/-- Something that can be called stops for this, having got as many values as it takes. -/
def Refuses (functions : FunctionTable) (stop : Stop) : Prop :=
  ∃ (name : String) (entry : FunctionEntry) (compute : List Float → Except Stop Float)
    (values : List Float), functions.get? name = some entry ∧ entry.builtin = true ∧
      entry.compute = some compute ∧ entry.arity = values.length ∧ compute values = .error stop

/-- What can be called stops only for what it has against its arguments, whatever it says about them
and under which code. -/
def RefusesOnlyArguments (functions : FunctionTable) : Prop :=
  ∀ stop, functions.Refuses stop → ∃ fault, stop = .fault fault ∧ fault.kind = .argument

end FunctionTable

end RadixCalc
