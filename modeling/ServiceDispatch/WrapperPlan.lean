import ServiceDispatch.ResolutionPlan

/-!
# Wrapper plans

How a delegation wrapper calls an implementation method: which parameters the caller supplies, which
the wrapper resolves and how, and how it opens its injection scope. Both the emitted code and a
running wrapper follow the plan.
-/

namespace ServiceDispatch

/-- A parameter that the wrapper resolves, over any kind of type. -/
structure Injected (τ : Type) where
  /-- Binding rule. -/
  plan : ResolutionPlan
  /-- Type asked for: the inner one of a shared or optional parameter. -/
  target : τ
  /-- Whether the parameter is optional. -/
  isOptional : Bool
  deriving DecidableEq, Repr

/-- Who supplies a parameter. -/
inductive Provision (τ : Type) where
  /-- The caller. -/
  | caller
  /-- The wrapper. -/
  | injected (injected : Injected τ)
  deriving DecidableEq, Repr

/-- One parameter of an implementation method. -/
structure WrapperParameter (τ : Type) where
  /-- Its identifier. -/
  name : String
  /-- Its declared type. -/
  type : τ
  /-- Who supplies it. -/
  provision : Provision τ
  deriving DecidableEq, Repr

namespace WrapperParameter

variable {τ : Type}

/-- The binding of a parameter that the wrapper resolves. -/
def injected? (parameter : WrapperParameter τ) : Option (Injected τ) :=
  match parameter.provision with
  | .caller => none
  | .injected injected => some injected

/-- Whether the caller supplies the parameter. -/
def isContract (parameter : WrapperParameter τ) : Bool := parameter.injected?.isNone

end WrapperParameter

/-- How a wrapper opens its injection scope. -/
inductive ScopeUse where
  /-- Not at all, since nothing is injected. -/
  | none
  /-- If an operation is running; otherwise every binding answers nothing. -/
  | whenAvailable
  /-- Always; without a running operation the wrapper fails. -/
  | required
  deriving DecidableEq, Repr

/-- How a wrapper calls its implementation method. -/
structure WrapperPlan (τ : Type) where
  /-- Parameters of the implementation in declared order. -/
  parameters : List (WrapperParameter τ)
  /-- Whether the call is awaited. -/
  awaits : Bool
  deriving Repr

namespace WrapperPlan

variable {τ : Type}

/-- Bindings in declared order. -/
def injected (plan : WrapperPlan τ) : List (Injected τ) :=
  plan.parameters.filterMap WrapperParameter.injected?

/-- Whether any binding can fail when called. -/
def isFallible (plan : WrapperPlan τ) : Bool :=
  plan.injected.any fun binding => binding.plan.isFallible

/-- How the wrapper opens its injection scope. -/
def scopeUse (plan : WrapperPlan τ) : ScopeUse :=
  if plan.injected.isEmpty then .none
  else if plan.isFallible then .required
  else .whenAvailable

end WrapperPlan

end ServiceDispatch
