import ServiceDispatch.Call.State
import ServiceDispatch.ResolutionPlan

/-!
# Injection scopes

Where one call finds what is injected into it. On an instance that serves all calls, services come
from a session of the call's own, which is opened when the first service is asked for; on any other
instance they come from the session of the instance. Transport state and properties come from the
message and never need a session.
-/

namespace ServiceDispatch

/-- The session of an injection scope. -/
inductive SessionUse where
  /-- The session of the instance. -/
  | ambient (session : Session)
  /-- One of its own, once it has been opened. -/
  | isolated (opened : Option ScopeId)
  deriving DecidableEq, Repr

/-- The state of injection into one call. -/
structure InjectionScope where
  /-- The context of the call. -/
  context : OperationContext
  /-- The session. -/
  use : SessionUse

namespace InjectionScope

variable {σ ε : Type}

/-- Opens a scope for a call. -/
def enter (context : OperationContext) : InjectionScope :=
  ⟨context,
    if context.hosting.isSingleton then .isolated none
    else .ambient context.hosting.session⟩

/-- Opens a scope for the call being served. -/
def current : Run σ InjectionScope := do
  match (← get).current with
  | some context => pure (enter context)
  | none => throw .noOperationContext

/-- Whether services come from a session of the scope's own. -/
def isIsolated (scope : InjectionScope) : Bool :=
  match scope.use with
  | .ambient _ => false
  | .isolated _ => true

/-- Whether there is a session already. -/
def hasSession (scope : InjectionScope) : Bool :=
  match scope.use with
  | .ambient _ => true
  | .isolated opened => opened.isSome

/-- The session to ask for services; one of the scope's own is opened when it is first needed. -/
def session (scope : InjectionScope) : Serving σ ε (Session × InjectionScope) := do
  match scope.use with
  | .ambient session => pure (session, scope)
  | .isolated (some id) => pure (.scope id, scope)
  | .isolated none =>
    Serving.report (.sessionIsolated scope.context.action)
    let id ← Serving.openScope
    pure (.scope id, { scope with use := .isolated (some id) })

/-- Asks for a service in a way of the container. -/
def resolve {α : Type} (scope : InjectionScope) (request : Session → Resolution σ α) :
    Serving σ ε (Except Failure α × InjectionScope) := do
  let (session, scope) ← scope.session
  return (← Serving.resolving (request session), scope)

/-- The transport state of the message, on behalf of a binding to a part of it. -/
def transport (scope : InjectionScope) (part : TransportPart) : Except Failure TransportContext :=
  match scope.context.properties.transport? with
  | some context => .ok context
  | none => .error (.missingTransportContext part.display)

/-- A property of the message, if it is present and of the type asked for. -/
def property (scope : InjectionScope) (name : String) (type : ValueType) : Option Value :=
  scope.context.properties.get? name type

/-- What can be asked of a scope. -/
inductive Command where
  /-- The transport state, on behalf of a binding to a part of it. -/
  | transport (part : TransportPart)
  /-- A property of the message. -/
  | property (name : String) (type : ValueType)
  /-- A service, if it is registered. -/
  | find (key : ServiceKey)
  /-- A service that has to be registered. -/
  | require (key : ServiceKey)
  deriving DecidableEq, Repr

/-- What a scope answers. -/
inductive Answer where
  /-- The transport state. -/
  | transport (context : TransportContext)
  /-- A property, if there is one. -/
  | property (found : Option Value)
  /-- A service, if there is one. -/
  | service (found : Option InstanceId)

/-- Carries a command out. -/
def execute (scope : InjectionScope) :
    Command → Serving σ ε (Except Failure Answer × InjectionScope)
  | .transport part => pure ((scope.transport part).map .transport, scope)
  | .property name type => pure (.ok (.property (scope.property name type)), scope)
  | .find key => do
    let (result, scope) ← scope.resolve fun session => Resolution.find session key
    return (result.map .service, scope)
  | .require key => do
    let (result, scope) ← scope.resolve fun session => Resolution.require session key
    return (result.map fun object => .service (some object), scope)

/-- Ends the scope and lets a session of its own go. -/
def close (scope : InjectionScope) : Serving σ ε Unit := do
  match scope.use with
  | .isolated (some id) =>
    Serving.report (.sessionReleased scope.context.action)
    Serving.releaseScope id
  | _ => pure ()

/-- The displayed form of a scope. -/
def display (scope : InjectionScope) : String :=
  Text.record "InjectionScope"
    [("action", Text.quote scope.context.action), ("isolated", Text.truth scope.isIsolated),
     ("has_session", Text.truth scope.hasSession)] false

end InjectionScope

end ServiceDispatch
