import ServiceDispatch.Call.Hosting
import ServiceDispatch.Call.Injection
import ServiceDispatch.Service.Retention

/-!
# Visits

One call on an instance from its point of view: the injection scope of the call in use, as commands.
A visit also tells which instances are no longer kept by anything, and which events are new.
-/

namespace ServiceDispatch

/-- An injection scope in use. -/
structure Visit (σ : Type) where
  /-- The registrations. -/
  services : Services σ
  /-- The injection scope. -/
  scope : InjectionScope
  /-- What changes while the call is served. -/
  state : ServiceState σ
  /-- Instances that were told to be released. -/
  told : List InstanceId
  /-- Number of events that were told. -/
  seen : Nat

namespace Visit

variable {σ : Type}

/-- Runs an action that cannot fail. -/
def perform {α : Type} (visit : Visit σ) (action : Serving σ Empty α) : α × ServiceState σ :=
  match action.run visit.services visit.state with
  | (.ok value, state) => (value, state)
  | (.error impossible, _) => nomatch impossible

/-- Carries a command out. -/
def execute (visit : Visit σ) (command : InjectionScope.Command) :
    Except Failure InjectionScope.Answer × Visit σ :=
  let ((answer, scope), state) := visit.perform (visit.scope.execute command)
  (answer, { visit with scope, state })

/-- Sets the status of the response, if the message came with transport state. -/
def setStatus (visit : Visit σ) (status : UInt16) : Visit σ :=
  match visit.scope.context.properties.transport? with
  | none => visit
  | some context =>
    let responses := visit.state.responses.setStatus context.response status
    { visit with state := { visit.state with responses } }

/-- Ends the injection scope. -/
def close (visit : Visit σ) : Visit σ :=
  { visit with state := (visit.perform visit.scope.close).2 }

/-- Lets the instance go, with its session. -/
def leave (visit : Visit σ) : Visit σ :=
  { visit with state := (visit.perform visit.scope.context.hosting.release).2 }

/-- The instances that were released since the last time, given those that are still held. -/
def settle (visit : Visit σ) (held : List InstanceId) : List InstanceId × Visit σ :=
  let released := visit.state.container.released (held ++ visit.services.existing)
  let fresh := released.filter fun id => !visit.told.contains id
  (fresh, { visit with told := visit.told ++ fresh })

/-- The events that were reported since the last time. -/
def news (visit : Visit σ) : List Event × Visit σ :=
  let log := visit.state.container.log
  (log.drop visit.seen, { visit with seen := log.length })

end Visit

/-- How the injection scope of a visit is found. -/
inductive Entrance where
  /-- It is opened for the context of the call. -/
  | direct
  /-- It is opened for the current context, which that of the call is made. -/
  | ambient
  /-- It is opened for the current context where there is none. -/
  | outside
  deriving DecidableEq, Repr

/-- Finds the injection scope of a call. -/
def Entrance.scope {σ : Type} (entrance : Entrance) (context : OperationContext) :
    Run σ InjectionScope := do
  match entrance with
  | .direct => pure (.enter context)
  | .ambient =>
    modify fun state => { state with current := some context }
    InjectionScope.current
  | .outside => InjectionScope.current

end ServiceDispatch
