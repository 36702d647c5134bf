import ServiceDispatch.Call.Contract

/-!
# Contents of the sample services

The sample contracts exercise every way in which parameters move and values are injected. Their
services keep a counter, show a fixed time, or have no state at all.
-/

namespace ServiceDispatch.Sample

/-- The state of a sample service. -/
inductive Content where
  /-- No state. -/
  | plain
  /-- A counter. -/
  | counter (count : Nat)
  /-- A clock that always shows the same time. -/
  | clock (now : UInt64)
  deriving DecidableEq, Repr

/-- Counts one more. -/
def Content.increment : Content → Content
  | counter count => counter (count + 1)
  | other => other

/-- What a counter stands at. -/
def Content.count : Content → Nat
  | counter count => count
  | _ => 0

/-- The time that a clock shows. -/
def Content.now : Content → UInt64
  | clock now => now
  | _ => 0

/-- The state of an instance. -/
def contentOf (object : InstanceId) : Operating Content Content := do
  return ((← get).container.content? object).getD .plain

/-- Changes the state of an instance. -/
def change (object : InstanceId) (step : Content → Content) : Operating Content Unit :=
  Serving.modifyContainer fun container => container.modifyContent object step

/-- What a method answers to arguments of other types than its own; adapters pass none. -/
def misfit : Operating Content Reply :=
  throw (.own (.internal "the arguments do not fit the operation"))

/-- The error type of the sample operations. -/
def errorKind : String := "MathError"

/-- The error of a division by zero. -/
def divisionByZero : ForeignError := ⟨errorKind, "division by zero"⟩

/-- The error of a balance that falls short by some amount. -/
def insufficientFunds (missing : String) : ForeignError :=
  ⟨errorKind, "insufficient funds: short by " ++ missing⟩

end ServiceDispatch.Sample
