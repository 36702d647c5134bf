import ServiceDispatch.Call.Adapter
import ServiceDispatch.Call.Hosting
import ServiceDispatch.Registry

/-!
# Dispatch

Finds the adapter of a call, checks the number of arguments, fills the input slots and invokes the
adapter with the context of the call as the current one. Everything that can be checked is checked
before the adapter runs. What an adapter is made of does not matter here.
-/

namespace ServiceDispatch

variable {σ α : Type}

/-- An adapter as dispatching sees it. -/
structure Invocable (σ : Type) where
  /-- Fresh input slots for a call. -/
  allocateInputs : InputBuffer
  /-- Calls the operation on an instance. -/
  invoke : ServiceInstance → InputBuffer → Run σ Outcome

namespace Invocable

/-- The slots of a call, filled with its arguments. -/
def prepare (adapter : Invocable σ) (key : String) (arguments : List Value) :
    Except Failure InputBuffer :=
  let inputs := adapter.allocateInputs
  if arguments.length = inputs.length then
    match inputs.fill arguments with
    | (filled, .ok ()) => .ok filled
    | (_, .error failure) => .error failure
  else .error (.argumentCount key inputs.length arguments.length)

/-- Invokes an adapter with a context as the current one, and lets go what belongs to the call. -/
def serve (adapter : Invocable σ) (served : ServiceInstance) (inputs : InputBuffer)
    (context : OperationContext) : Run σ Outcome := do
  Serving.report .invoking
  let result ← Serving.attempt (Serving.withCurrent context (adapter.invoke served inputs))
  context.release
  match result with
  | .ok outcome => pure outcome
  | .error failure =>
    Serving.report (.invocationFailed failure)
    throw failure

end Invocable

namespace Registry

/-- The adapter of a call with its filled slots, in a registry of adapters that are seen as
`view` says. -/
def select (registry : Registry α) (view : α → Invocable σ) (key : String)
    (arguments : List Value) : Except Failure (Invocable σ × InputBuffer) :=
  match registry.lookup key with
  | .error failure => .error failure
  | .ok adapter =>
    ((view adapter).prepare key arguments).map fun inputs => (view adapter, inputs)

/-- Dispatches a call by key. -/
def dispatch (registry : Registry α) (view : α → Invocable σ) (key : String)
    (served : ServiceInstance) (arguments : List Value) (context : OperationContext) :
    Run σ Outcome := do
  Serving.reportAll (registry.lookupEvents key)
  match registry.select view key arguments with
  | .ok (adapter, inputs) => adapter.serve served inputs context
  | .error failure =>
    context.release
    throw failure

/-- Dispatches a call of the operation that a signature describes. -/
def dispatchSignature (registry : Registry α) (view : α → Invocable σ) (signature : Signature)
    (served : ServiceInstance) (arguments : List Value) (context : OperationContext) :
    Run σ Outcome :=
  registry.dispatch view signature.key.text served arguments context

end Registry

/-- The adapter of a contract's operation as dispatching sees it. -/
def Adapter.invocable (adapter : Adapter σ) : Invocable σ :=
  ⟨adapter.allocateInputs, adapter.invoke⟩

/-- A registry of the adapters of contracts. -/
abbrev AdapterRegistry (σ : Type) := Registry (Adapter σ)

namespace AdapterRegistry

/-- Invokes the adapter of an operation for a call. -/
def invoke (adapter : Adapter σ) (served : ServiceInstance) (inputs : InputBuffer)
    (context : OperationContext) : Run σ Outcome :=
  adapter.invocable.serve served inputs context

/-- Dispatches a call by key. -/
def dispatch (registry : AdapterRegistry σ) (key : String) (served : ServiceInstance)
    (arguments : List Value) (context : OperationContext) : Run σ Outcome :=
  Registry.dispatch registry Adapter.invocable key served arguments context

/-- Dispatches a call of the operation that a signature describes. -/
def dispatchSignature (registry : AdapterRegistry σ) (signature : Signature)
    (served : ServiceInstance) (arguments : List Value) (context : OperationContext) :
    Run σ Outcome :=
  registry.dispatch signature.key.text served arguments context

end AdapterRegistry

end ServiceDispatch
