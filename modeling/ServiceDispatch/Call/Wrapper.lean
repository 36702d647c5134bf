import ServiceDispatch.Call.Injection
import ServiceDispatch.Call.Method
import ServiceDispatch.WrapperPlan

/-!
# Delegation wrappers

How a method of a contract is served by an implementation that wants more parameters: the wrapper
opens an injection scope if it needs one, resolves its bindings in declared order, calls the
implementation, and closes the scope on every way out.
-/

namespace ServiceDispatch

/-- The type that a binding asks for when it runs. -/
inductive TargetType where
  /-- A type of values. -/
  | value (type : ValueType)
  /-- Any other type, by its full name. No message property has such a type. -/
  | object (typeName : String)
  deriving DecidableEq, Repr

/-- The value that stands for an absent property of a type. -/
def TargetType.initial : TargetType → Value
  | value type => type.initial
  | object _ => .unit

/-- The full name of a type. -/
def TargetType.typeName : TargetType → String
  | value type => type.typeName
  | object typeName => typeName

/-- A wrapper around an implementation method. -/
structure Wrapper (σ : Type) where
  /-- How the implementation is called. -/
  plan : WrapperPlan TargetType
  /-- How failures of the library turn into errors of the operation. -/
  convert : Failure → OperationError
  /-- The implementation method. -/
  implementation : Implementation σ

namespace Wrapper

variable {σ ε : Type}

/-- The part of the transport state that a binding asks for. -/
def transportArgument (context : TransportContext) : TransportPart → Argument
  | .context => .transport context
  | .request => .request context.request
  | .response => .response context.response

/-- A property read through a scope; without a scope there are no properties. -/
def propertyValue (scope : Option InjectionScope) (name : String) : TargetType → Option Value
  | .value type => scope.bind fun scope => scope.property name type
  | .object _ => none

/-- The argument of a binding to a message property. -/
def propertyArgument (injected : Injected TargetType) (found : Option Value) : Argument :=
  if injected.isOptional then .optionalProperty found
  else .property (found.getD injected.target.initial)

/-- Asks a session for the service of a binding. -/
def serviceArgument (injected : Injected TargetType) (name : Option String) (session : Session) :
    Resolution σ Argument := do
  let key : ServiceKey := ⟨injected.target.typeName, name⟩
  if injected.isOptional then return .optionalService (← Resolution.find session key)
  else return .service (← Resolution.require session key)

/-- Resolves a service through a scope. -/
def resolveService (scope : InjectionScope) (injected : Injected TargetType)
    (name : Option String) : Serving σ ε (Except Failure Argument × Option InjectionScope) := do
  let (result, scope) ← scope.resolve (serviceArgument injected name)
  return (result, some scope)

/-- Resolves one binding. Only properties can do without a scope. -/
def resolve (scope : Option InjectionScope) (injected : Injected TargetType) :
    Serving σ ε (Except Failure Argument × Option InjectionScope) :=
  match injected.plan, scope with
  | .messageProperty name _, _ =>
    pure (.ok (propertyArgument injected (propertyValue scope name injected.target)), scope)
  | _, none => pure (.error .noOperationContext, none)
  | .transport part, some opened =>
    pure ((opened.transport part).map fun context => transportArgument context part, scope)
  | .keyedService name, some opened => resolveService opened injected (some name)
  | .defaultService, some opened => resolveService opened injected none

/-- Resolves bindings in order, up to the first that fails. -/
def resolveAll : Option InjectionScope → List (Injected TargetType) →
    Serving σ ε (Except Failure (List Argument) × Option InjectionScope)
  | scope, [] => pure (.ok [], scope)
  | scope, injected :: rest => do
    match ← resolve scope injected with
    | (.error failure, scope) => pure (.error failure, scope)
    | (.ok argument, scope) =>
      let (arguments, scope) ← resolveAll scope rest
      pure (arguments.map (argument :: ·), scope)

/-- Arranges what the caller supplied and what was resolved in the order of the parameters. -/
def arrange {τ : Type} : List (WrapperParameter τ) → (passed : List Value) →
    (resolved : List Argument) → List Argument
  | [], _, _ => []
  | parameter :: rest, passed, resolved =>
    match parameter.provision, passed, resolved with
    | .caller, value :: passed, resolved => .passed value :: arrange rest passed resolved
    | .injected _, passed, argument :: resolved => argument :: arrange rest passed resolved
    | _, passed, resolved => arrange rest passed resolved

/-- Opens the scope of a wrapper. -/
def openScope (wrapper : Wrapper σ) : ScopeUse → Operating σ (Option InjectionScope)
  | .none => pure none
  | .whenAvailable => do return (← Serving.attempt InjectionScope.current).toOption
  | .required => do
    match ← Serving.attempt InjectionScope.current with
    | .ok scope => pure (some scope)
    | .error failure => throw (wrapper.convert failure)

/-- Closes the scope of a wrapper. -/
def closeScope : Option InjectionScope → Serving σ ε Unit
  | none => pure ()
  | some scope => scope.close

/-- The method that the wrapper makes of the implementation. -/
def method (wrapper : Wrapper σ) : Method σ := fun object passed => do
  let plan := wrapper.plan
  let scope ← wrapper.openScope plan.scopeUse
  let (resolved, scope) ← resolveAll scope plan.injected
  let result ←
    match resolved with
    | .error failure => pure (.error (wrapper.convert failure))
    | .ok resolved =>
      Serving.attempt (wrapper.implementation object (arrange plan.parameters passed resolved))
  closeScope scope
  Serving.ofExcept result

end Wrapper

end ServiceDispatch
