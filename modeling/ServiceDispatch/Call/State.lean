import ServiceDispatch.Call.Context
import ServiceDispatch.Service.Resolution

/-!
# State of serving

What changes while calls are served, and actions on it. An action runs under fixed registrations; a
failing one keeps what it did before it failed.
-/

namespace ServiceDispatch

/-- What changes while calls are served. -/
structure ServiceState (σ : Type) where
  /-- Instances, caches, scopes and the log. -/
  container : Container σ
  /-- The responses that transports share with operations. -/
  responses : Responses
  /-- The context of the call being served, if there is one. -/
  current : Option OperationContext
  /-- Number of channel sessions so far. -/
  sessions : Nat

/-- The state before anything is served. -/
def ServiceState.initial {σ : Type} (container : Container σ) : ServiceState σ :=
  ⟨container, .empty, none, 0⟩

/-- An action on the state that may fail with an error of type `ε`. -/
abbrev Serving (σ ε α : Type) := ReaderT (Services σ) (ExceptT ε (StateM (ServiceState σ))) α

/-- An action of the library itself. -/
abbrev Run (σ α : Type) := Serving σ Failure α

namespace Serving

variable {σ ε ε' α : Type}

/-- Carries an action out. -/
def run (action : Serving σ ε α) (services : Services σ) (state : ServiceState σ) :
    Except ε α × ServiceState σ :=
  (action services).run.run state

/-- Runs an action and hands its error over as a value. -/
def attempt (action : Serving σ ε α) : Serving σ ε' (Except ε α) :=
  fun services => ExceptT.lift (action services).run

/-- Ends with a value or an error. -/
def ofExcept : Except ε α → Serving σ ε α
  | .ok value => pure value
  | .error error => throw error

/-- Changes the container. -/
def modifyContainer (change : Container σ → Container σ) : Serving σ ε Unit :=
  modify fun state => { state with container := change state.container }

/-- Adds an event to the log. -/
def report (event : Event) : Serving σ ε Unit :=
  modifyContainer fun container => container.report event

/-- Adds events to the log in order. -/
def reportAll (events : List Event) : Serving σ ε Unit := events.forM report

/-- Opens a resolution scope. -/
def openScope : Serving σ ε ScopeId :=
  modifyGet fun state =>
    let (id, container) := state.container.openScope
    (id, { state with container })

/-- Releases a resolution scope. -/
def releaseScope (id : ScopeId) : Serving σ ε Unit :=
  modifyContainer fun container => container.releaseScope id

/-- Runs an action on the container and hands its failure over as a value. -/
def resolving (action : Resolution σ α) : Serving σ ε (Except Failure α) := fun services =>
  modifyGet fun state =>
    let (result, container) := action.run services state.container
    (result, { state with container })

/-- Runs an action on the container. -/
def resolved (action : Resolution σ α) : Run σ α := do ofExcept (← resolving action)

/-- Runs an action with the given context as the current one, and restores the former one whatever
the outcome. -/
def withCurrent (context : OperationContext) (action : Serving σ ε α) : Serving σ ε α := do
  let former := (← get).current
  modify fun state => { state with current := some context }
  let result ← attempt action
  modify fun state => { state with current := former }
  ofExcept result

end Serving

end ServiceDispatch
