import ServiceDispatch.AdapterPlan
import ServiceDispatch.Call.Method
import ServiceDispatch.CanonicalKey
import ServiceDispatch.InputBuffer

/-!
# Invocation adapters

The uniform way to call any operation: check the instance, take the arguments from the input slots,
call the method once, and collect its return value and the parameters that flow out.
-/

namespace ServiceDispatch

namespace AdapterPlan

/-- The arguments of a call in declared order: taken from their slots, or initial values. The first
slot that is empty or of another type ends it. -/
def takeArguments : List (Binding ValueType) → InputBuffer → Except Failure (List Value)
  | [], _ => .ok []
  | binding :: rest, inputs =>
    match binding.source with
    | .initial => (takeArguments rest inputs).map (binding.type.initial :: ·)
    | .slot index =>
      match inputs.take index binding.type with
      | (inputs, .ok value) => (takeArguments rest inputs).map (value :: ·)
      | (_, .error failure) => .error failure

/-- The values of the parameters that flow out, in declared order, from the values passed. -/
def outputValues (bindings : List (Binding ValueType)) (passed : List Value) (reply : Reply) :
    List Value :=
  ((bindings.zip passed).mapIdx fun position parameter =>
    if parameter.1.direction.flowsOut then [reply.after position parameter.2] else []).flatten

/-- The outcome of a call, from the values passed and what the method answered. -/
def outcome (plan : AdapterPlan ValueType) (passed : List Value) (reply : Reply) : Outcome where
  returned := if plan.returnsValue then some reply.returned else none
  outputs := outputValues plan.bindings passed reply

end AdapterPlan

/-- The adapter of an operation. -/
structure Adapter (σ : Type) where
  /-- The operation. -/
  signature : Signature
  /-- The type of the contract, which the instance must have. -/
  contract : String
  /-- How parameters move. -/
  plan : AdapterPlan ValueType
  /-- The method that is called. -/
  method : Method σ

namespace Adapter

variable {σ : Type}

/-- The key of the operation. -/
def key (adapter : Adapter σ) : CanonicalKey := adapter.signature.key

/-- Fresh input slots for a call. -/
def allocateInputs (adapter : Adapter σ) : InputBuffer := .withLength adapter.plan.slots

/-- Calls the operation on an instance. An error of the method ends the call if the adapter surfaces
errors; any other adapter hands the result of the method on as the value that it is. -/
def invoke (adapter : Adapter σ) (served : ServiceInstance) (inputs : InputBuffer) :
    Run σ Outcome := do
  let object ← Serving.ofExcept (served.asType adapter.contract)
  let passed ← Serving.ofExcept (AdapterPlan.takeArguments adapter.plan.bindings inputs)
  match ← Serving.attempt (adapter.method object passed) with
  | .ok reply => pure (adapter.plan.outcome passed reply)
  | .error error =>
    if adapter.plan.surfaces then throw (Failure.surface error)
    else pure (adapter.plan.outcome passed (.failed error))

end Adapter

end ServiceDispatch
