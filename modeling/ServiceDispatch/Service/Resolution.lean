import ServiceDispatch.Service.Container

/-!
# Resolution

How services are found. A singleton is shared by all sessions and its factory asks the container
itself; a scoped service is shared by the session it was asked from; a transient one is built on
every request. Factories may ask for further services, one level deeper than their own request. In a
resolution that ends no factory runs inside itself, so the number of registrations bounds the depth.
-/

namespace ServiceDispatch

/-- An action on the container, under fixed registrations, that may fail. What it did before failing
stays done. -/
abbrev Resolution (σ α : Type) := ReaderT (Services σ) (ExceptT Failure (StateM (Container σ))) α

namespace Resolution

variable {σ α : Type}

/-- Carries an action out. -/
def run (action : Resolution σ α) (services : Services σ) (container : Container σ) :
    Except Failure α × Container σ :=
  (action services).run.run container

/-- Runs an action and hands its failure over as a value. -/
def attempt (action : Resolution σ α) : Resolution σ (Except Failure α) :=
  fun services => ExceptT.lift (action services).run

/-- Adds an event to the log. -/
def report (event : Event) : Resolution σ Unit := modify fun container => container.report event

/-- Checks that what was found for a key is of the key's type. -/
def checked (key : ServiceKey) (found : Option InstanceId) : Resolution σ (Option InstanceId) := do
  match found with
  | none => pure none
  | some object =>
    if (← get).typeOf? object = some key.typeName then pure (some object)
    else
      throw (.serviceResolution key.typeName "registered value has a different type")

/-- The instance of a cache, built on a miss. If the factory itself filled the cache, what it put
there stays. -/
def cached (name : CacheName) (key : ServiceKey) (build : Resolution σ InstanceId) :
    Resolution σ InstanceId := do
  match ((← get).cache name).get? key with
  | some found => pure found
  | none =>
    let built ← build
    match ((← get).cache name).get? key with
    | some first => pure first
    | none =>
      modify fun container => container.store name key built
      pure built

/-- Follows a recipe, with a way to answer its requests and the services it was given so far. -/
def follow (find : ServiceKey → Resolution σ (Option InstanceId)) :
    Recipe σ → List (Option InstanceId) → Resolution σ InstanceId
  | .fail failure, _ => throw failure
  | .build typeName content, given =>
    modifyGet fun container => container.allocate ⟨typeName, given, content⟩
  | .ask key next, given => do
    match ← attempt (find key) with
    | .error failure => follow find (next (.error failure)) given
    | .ok found => follow find (next (.ok found.isSome)) (given ++ [found])

/-- How an instance is had from its supply, with a way to run factories. -/
def obtain (make : Session → Recipe σ → Resolution σ InstanceId) (session : Session) :
    Supply σ → Resolution σ InstanceId
  | .existing object => pure object
  | .factory recipe => make session recipe

/-- Finds a service by key with a way to run factories; nothing is found if the key is not
registered. -/
def findWith (make : Session → Recipe σ → Resolution σ InstanceId) (session : Session)
    (key : ServiceKey) : Resolution σ (Option InstanceId) := do
  match (← read).get? key with
  | none => pure none
  | some registration =>
    let object ←
      match registration.lifetime with
      | .singleton =>
        cached .singletons key do
          report (.singletonCreated key)
          obtain make .root registration.supply
      | .scoped => cached (.session session) key (obtain make session registration.supply)
      | .transient => obtain make session registration.supply
    pure (some object)

/-- What becomes of a request that is nested too deep to end. -/
def endless : Failure := .internal "service factories depend on themselves"

/-- Runs a factory in a session, with a bound on how deep factories may nest. -/
def makeWithin : (depth : Nat) → Session → Recipe σ → Resolution σ InstanceId
  | 0, _, _ => throw endless
  | depth + 1, session, recipe =>
    follow (fun key => do checked key (← findWith (makeWithin depth) session key)) recipe []

/-- Finds a service by key, whatever the type of what is registered there. -/
def findAny (session : Session) (key : ServiceKey) : Resolution σ (Option InstanceId) := do
  findWith (makeWithin (← read).size) session key

/-- Finds a service, if it is registered. -/
def find (session : Session) (key : ServiceKey) : Resolution σ (Option InstanceId) := do
  checked key (← findAny session key)

/-- Finds a service that has to be registered. -/
def require (session : Session) (key : ServiceKey) : Resolution σ InstanceId := do
  match ← find session key with
  | some object => pure object
  | none => throw (.serviceNotRegistered key.typeName key.name)

end Resolution

end ServiceDispatch
