import ServiceDispatch.Call.State

/-!
# Methods

What operations do when they run. A method of a contract gets a value for each of its parameters and
answers a return value and what it wrote to parameters passed by reference. A method of an
implementation also gets what was injected.
-/

namespace ServiceDispatch

/-- What a method answers. -/
structure Reply where
  /-- Its return value; the empty tuple if it has none. -/
  returned : Value
  /-- What it wrote to parameters passed by reference, by position among the parameters that the
  caller supplies. A later write to the same parameter counts. -/
  writes : List (Nat × Value)
  deriving DecidableEq, Repr

namespace Reply

/-- The answer of a method that writes nothing. -/
def value (returned : Value) : Reply := ⟨returned, []⟩

/-- The answer of a method that does nothing that can be seen. -/
def done : Reply := value .unit

/-- The failure of a method as its return value, for callers that do not ask for failures. What the
method may have written by then does not count. -/
def failed (error : OperationError) : Reply := value (.failed error)

/-- The value of a parameter after the call, from the value that was passed. -/
def after (reply : Reply) (position : Nat) (passed : Value) : Value :=
  reply.writes.foldl (fun value write => if write.1 = position then write.2 else value) passed

end Reply

/-- An action of an operation, which may fail with an error of its own. -/
abbrev Operating (σ α : Type) := Serving σ OperationError α

/-- A method of a contract, called on an instance with a value for each parameter. -/
abbrev Method (σ : Type) := InstanceId → List Value → Operating σ Reply

/-- What an implementation gets for one of its parameters. -/
inductive Argument where
  /-- A value that the caller supplied. -/
  | passed (value : Value)
  /-- The transport state of the message. -/
  | transport (context : TransportContext)
  /-- The request of the message. -/
  | request (request : TransportRequest)
  /-- The handle of the response. -/
  | response (handle : ResponseHandle)
  /-- A message property, or the initial value of its type. -/
  | property (value : Value)
  /-- A message property, if there is one. -/
  | optionalProperty (value : Option Value)
  /-- A service. -/
  | service (object : InstanceId)
  /-- A service, if it is registered. -/
  | optionalService (object : Option InstanceId)

/-- A method of an implementation, called on an instance with an argument for each parameter. -/
abbrev Implementation (σ : Type) := InstanceId → List Argument → Operating σ Reply

end ServiceDispatch
