import ServiceDispatch.Event
import ServiceDispatch.Service.Collection

/-!
# Containers

The state behind resolution: every instance ever built, the caches of shared instances, the scopes,
and the log. Nothing is removed from the list of instances; which of them are still kept is a
question about the caches.
-/

namespace ServiceDispatch

/-- An instance that a factory has built. -/
structure Instance (σ : Type) where
  /-- Full name of its type. -/
  typeName : String
  /-- What its factory asked for, in order; a service that was not registered left nothing. -/
  dependencies : List (Option InstanceId)
  /-- Its own state. -/
  content : σ

/-- Shared instances by key. -/
abbrev Cache := Keyed ServiceKey InstanceId

/-- A resolution scope. -/
structure Scope where
  /-- Instances that the scope shares. -/
  cache : Cache
  /-- Whether it has not been released. -/
  isOpen : Bool

/-- Where services are asked for. -/
inductive Session where
  /-- The container itself. -/
  | root
  /-- A scope of the container. -/
  | scope (scope : ScopeId)
  deriving DecidableEq, Repr

/-- A cache of the container. -/
inductive CacheName where
  /-- The instances that all sessions share. -/
  | singletons
  /-- The instances that one session shares. -/
  | session (session : Session)
  deriving DecidableEq, Repr

/-- What changes while services are resolved. -/
structure Container (σ : Type) where
  /-- Every instance, in the order in which they were built. -/
  instances : List (Instance σ)
  /-- The shared instances of singleton services. -/
  singletons : Cache
  /-- The shared instances of scoped services that were resolved from the container itself. -/
  rootScoped : Cache
  /-- Every scope, in the order in which they were opened. -/
  scopes : List Scope
  /-- What happened, oldest first. It serves everything above the container as well. -/
  log : List Event

namespace Container

variable {σ : Type}

/-- A container in which nothing has happened. -/
def empty : Container σ := ⟨[], .empty, .empty, [], []⟩

instance : Inhabited (Container σ) := ⟨empty⟩

/-- Adds an event to the log. -/
def report (container : Container σ) (event : Event) : Container σ :=
  { container with log := container.log ++ [event] }

/-- The instance of an identity. -/
def instance? (container : Container σ) (id : InstanceId) : Option (Instance σ) :=
  container.instances[id.index]?

/-- The type of an instance. -/
def typeOf? (container : Container σ) (id : InstanceId) : Option String :=
  (container.instance? id).map (·.typeName)

/-- The state of an instance. -/
def content? (container : Container σ) (id : InstanceId) : Option σ :=
  (container.instance? id).map (·.content)

/-- The place of an instance, from one, among the instances with a given property. -/
def ordinal (container : Container σ) (counts : Instance σ → Bool) (id : InstanceId) : Nat :=
  ((container.instances.take (id.index + 1)).filter counts).length

/-- Adds an instance. -/
def allocate (container : Container σ) (built : Instance σ) : InstanceId × Container σ :=
  (⟨container.instances.length⟩,
    { container with instances := container.instances ++ [built] })

/-- Changes the state of an instance. -/
def modifyContent (container : Container σ) (id : InstanceId) (change : σ → σ) : Container σ :=
  { container with
    instances := container.instances.modify id.index fun built =>
      { built with content := change built.content } }

/-- The scope of an identity. -/
def scope? (container : Container σ) (id : ScopeId) : Option Scope :=
  container.scopes[id.index]?

/-- Opens a scope. -/
def openScope (container : Container σ) : ScopeId × Container σ :=
  let id : ScopeId := ⟨container.scopes.length⟩
  let grown : Container σ :=
    { container with scopes := container.scopes ++ [{ cache := .empty, isOpen := true }] }
  (id, grown.report (.scopeOpened id))

/-- Number of instances that a scope shares. -/
def scopeSize (container : Container σ) (id : ScopeId) : Nat :=
  ((container.scope? id).map (·.cache.size)).getD 0

/-- Releases a scope with the instances that it shares. -/
def releaseScope (container : Container σ) (id : ScopeId) : Container σ :=
  let shrunk : Container σ :=
    { container with
      scopes := container.scopes.set id.index { cache := .empty, isOpen := false } }
  shrunk.report (.scopeReleased id (container.scopeSize id))

/-- The content of a cache. -/
def cache (container : Container σ) : CacheName → Cache
  | .singletons => container.singletons
  | .session .root => container.rootScoped
  | .session (.scope id) => ((container.scope? id).map (·.cache)).getD .empty

/-- Puts an instance into a cache. -/
def store (container : Container σ) (name : CacheName) (key : ServiceKey) (object : InstanceId) :
    Container σ :=
  match name with
  | .singletons =>
    { container with singletons := container.singletons.insert key object }
  | .session .root =>
    { container with rootScoped := container.rootScoped.insert key object }
  | .session (.scope id) =>
    { container with
      scopes := container.scopes.modify id.index fun scope =>
        { scope with cache := scope.cache.insert key object } }

/-- The displayed form of a scope. -/
def displayScope (container : Container σ) (id : ScopeId) : String :=
  Text.record "ServiceScope"
    [("id", Event.masked), ("scoped", toString (container.scopeSize id))] false

end Container

/-- The displayed form of a container over given registrations. -/
def Services.displayContainer {σ : Type} (services : Services σ) : String :=
  Text.record "ServiceProvider" [("registrations", toString services.size)] true

end ServiceDispatch
