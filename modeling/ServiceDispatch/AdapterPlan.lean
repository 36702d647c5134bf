import ServiceDispatch.Signature

/-!
# Adapter plans

How an invocation adapter moves parameters: which slot each one is taken from, which are handed
back, whether the call is awaited and whether its error is surfaced. A plan is generated once for an
operation; both the emitted code and a running adapter follow it.
-/

namespace ServiceDispatch

/-- Where a parameter's value comes from when the method is called. -/
inductive ArgumentSource where
  /-- Taken from an input slot. -/
  | slot (index : Nat)
  /-- The initial value of its type. -/
  | initial
  deriving DecidableEq, Repr

/-- How one parameter is bound, over any kind of type. -/
structure Binding (τ : Type) where
  /-- Type of the parameter. -/
  type : τ
  /-- Direction of the parameter. -/
  direction : Direction
  /-- Where its value comes from. -/
  source : ArgumentSource
  deriving DecidableEq, Repr

namespace Binding

variable {τ : Type}

/-- Binds parameters in declared order; those that flow in take the slots from the given one on. -/
def ofParameters : (slot : Nat) → List (τ × Direction) → List (Binding τ)
  | _, [] => []
  | slot, (type, direction) :: rest =>
    if direction.flowsIn then ⟨type, direction, .slot slot⟩ :: ofParameters (slot + 1) rest
    else ⟨type, direction, .initial⟩ :: ofParameters slot rest

/-- The slot that a binding takes, if it takes one. -/
def slot? (binding : Binding τ) : Option Nat :=
  match binding.source with
  | .slot index => some index
  | .initial => none

end Binding

/-- How an invocation adapter calls its method. -/
structure AdapterPlan (τ : Type) where
  /-- Number of input slots it asks for. -/
  slots : Nat
  /-- Parameters in declared order. -/
  bindings : List (Binding τ)
  /-- Whether the call is awaited. -/
  awaits : Bool
  /-- Whether an error of the call is surfaced. -/
  surfaces : Bool
  /-- Whether the outcome carries a return value. -/
  returnsValue : Bool
  deriving Repr

end ServiceDispatch
