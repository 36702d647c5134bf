import ServiceDispatch.Call.State

/-!
# Opening and releasing instance contexts

An instance that lives as long as its host is activated from the container itself; any other one
gets a scope of its own, which is released with it.
-/

namespace ServiceDispatch

/-- How an instance is made in a session. -/
abbrev Activator (σ : Type) := Session → Run σ ServiceInstance

/-- The activator that resolves a service and uses it as a contract. -/
def Activator.ofService {σ : Type} (service : ServiceKey) (contract : String) : Activator σ :=
  fun session => do
    return .ofType contract (← Serving.resolved (Resolution.require session service))

/-- The activator that builds an instance of a type without asking the container. -/
def Activator.building {σ : Type} (typeName : String) (content : σ) : Activator σ := fun _ =>
  modifyGet fun state =>
    let (object, container) := state.container.allocate ⟨typeName, [], content⟩
    (.ofType typeName object, { state with container })

namespace InstanceContext

variable {σ : Type}

/-- The session for a new instance. -/
def openSession (mode : InstanceMode) : Run σ Session := do
  if mode.isSingleton then pure .root else return .scope (← Serving.openScope)

/-- Lets a session go; the container itself stays. -/
def releaseSession {ε : Type} : Session → Serving σ ε Unit
  | .root => pure ()
  | .scope id => Serving.releaseScope id

/-- Opens an instance context. If the instance cannot be activated, its session is let go at
once. -/
def activate (mode : InstanceMode) (activator : Activator σ) : Run σ InstanceContext := do
  let session ← openSession mode
  match ← Serving.attempt (activator session) with
  | .ok served =>
    Serving.report (.instanceOpened mode served.contract)
    pure ⟨mode, session, served⟩
  | .error failure =>
    releaseSession session
    throw failure

/-- Lets an instance context go, with its session. -/
def release {ε : Type} (hosting : InstanceContext) : Serving σ ε Unit := do
  Serving.report (.instanceReleased hosting.mode hosting.served.contract)
  releaseSession hosting.session

end InstanceContext

/-- Lets go what belongs to a call that is over. -/
def OperationContext.release {σ ε : Type} (context : OperationContext) : Serving σ ε Unit := do
  if context.ownsHosting then context.hosting.release

end ServiceDispatch
