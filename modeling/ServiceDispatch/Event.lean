import ServiceDispatch.Datum
import ServiceDispatch.Failure
import ServiceDispatch.Lifetime
import ServiceDispatch.Service.Key

/-!
# Events

What the library reports while it works. An event keeps its data; its level, its message and the
text of its fields are derived. Scopes and sessions have random identifiers, which the texts mask.
-/

namespace ServiceDispatch

/-- How much an event matters. -/
inductive Level where
  | trace | debug | info | warn | error
  deriving DecidableEq, Repr

/-- The written form of a level. -/
def Level.display : Level → String
  | trace => "TRACE"
  | debug => "DEBUG"
  | info => "INFO"
  | warn => "WARN"
  | error => "ERROR"

/-- Something that happened. -/
inductive Event where
  /-- An adapter took a free key. -/
  | adapterRegistered (key : String)
  /-- An adapter took the place of another one. -/
  | adapterReplaced (key : String)
  /-- All linked adapters were staged. -/
  | adaptersStaged (count : Nat)
  /-- Sealing was refused because of a key with several adapters. -/
  | adaptersCollide (key : String)
  /-- The registry was sealed. -/
  | registrySealed (count : Nat)
  /-- A key without an adapter was looked up. -/
  | adapterMissing (key : String)
  /-- A service was registered. -/
  | serviceRegistered (service : ServiceKey) (lifetime : Lifetime)
  /-- The container was built. -/
  | containerBuilt (count : Nat)
  /-- The factory of a singleton starts. -/
  | singletonCreated (service : ServiceKey)
  /-- A resolution scope was opened. -/
  | scopeOpened (scope : ScopeId)
  /-- A resolution scope was released with the instances it held. -/
  | scopeReleased (scope : ScopeId) (released : Nat)
  /-- A contract instance was activated. -/
  | instanceOpened (mode : InstanceMode) (contract : String)
  /-- A contract instance was let go. -/
  | instanceReleased (mode : InstanceMode) (contract : String)
  /-- An adapter is about to be invoked. -/
  | invoking
  /-- An invocation ended with a failure. -/
  | invocationFailed (failure : Failure)
  /-- A call on a shared instance opens a session of its own. -/
  | sessionIsolated (action : String)
  /-- The session of such a call is let go. -/
  | sessionReleased (action : String)
  /-- A service to be hosted is not registered. -/
  | hostedServiceMissing (address : String) (service : ServiceKey)
  /-- An operation to be hosted has no adapter. -/
  | hostedAdapterMissing (address key : String)
  /-- An endpoint was opened. -/
  | endpointOpened (address contract : String) (declared : InstanceMode) (lifetime : Lifetime)
      (mode : InstanceMode) (binding : String)
  /-- A host was opened. -/
  | hostOpened (endpoints adapters : Nat)
  /-- A channel was opened. -/
  | channelOpened (address : String) (session : Option String)
  /-- A channel was closed. -/
  | channelClosed (address : String) (session : Option String)
  /-- The configuration was read from a file. -/
  | configurationLoaded (path : String)
  /-- The file of the configuration does not exist. -/
  | configurationMissing (path : String)
  deriving DecidableEq, Repr

namespace Event

/-- How much an event matters. -/
def level : Event → Level
  | .singletonCreated _ | .scopeOpened _ | .scopeReleased _ _ | .sessionReleased _ => .trace
  | .hostOpened _ _ | .configurationLoaded _ => .info
  | .adapterReplaced _ | .configurationMissing _ => .warn
  | .adaptersCollide _ | .adapterMissing _ | .hostedServiceMissing _ _
  | .hostedAdapterMissing _ _ => .error
  | _ => .debug

/-- The message of an event. -/
def message : Event → String
  | .adapterRegistered _ => "Registered invocation adapter"
  | .adapterReplaced _ => "Invocation adapter replaced an existing registration"
  | .adaptersStaged _ => "Staged linked invocation adapters"
  | .adaptersCollide _ => "Invocation registry has colliding keys"
  | .registrySealed _ => "Invocation registry sealed"
  | .adapterMissing _ => "No invocation adapter registered"
  | .serviceRegistered _ _ => "Registering service"
  | .containerBuilt _ => "Service provider built"
  | .singletonCreated _ => "Creating singleton"
  | .scopeOpened _ => "Service scope opened"
  | .scopeReleased _ _ => "Service scope released"
  | .instanceOpened _ _ => "Instance context opened"
  | .instanceReleased _ _ => "Instance context released"
  | .invoking => "Invoking operation"
  | .invocationFailed _ => "Operation returned an error"
  | .sessionIsolated _ => "Opening isolated resolution session"
  | .sessionReleased _ => "Releasing isolated resolution session"
  | .hostedServiceMissing _ _ => "Hosted service is not registered"
  | .hostedAdapterMissing _ _ => "Endpoint operation has no invocation adapter"
  | .endpointOpened _ _ _ _ _ _ => "Endpoint opened"
  | .hostOpened _ _ => "Service host opened"
  | .channelOpened _ _ => "Channel opened"
  | .channelClosed _ _ => "Channel closed"
  | .configurationLoaded path => "Configuration loaded from " ++ path
  | .configurationMissing path => "Configuration file not found: " ++ path

/-- What stands for a random identifier. -/
def masked : String := "<id>"

/-- The text of a session's identifier. -/
def maskedSession : Option String → String
  | none => "None"
  | some _ => masked

/-- The fields of an event by name. -/
def fields : Event → List (String × String)
  | .adapterRegistered key | .adapterReplaced key | .adaptersCollide key
  | .adapterMissing key => [("key", key)]
  | .adaptersStaged count | .registrySealed count | .containerBuilt count =>
    [("count", toString count)]
  | .serviceRegistered service lifetime =>
    [("service", service.display), ("lifetime", lifetime.display)]
  | .singletonCreated service => [("service", service.display)]
  | .scopeOpened _ => [("scope", masked)]
  | .scopeReleased _ released => [("scope", masked), ("released", toString released)]
  | .instanceOpened mode contract | .instanceReleased mode contract =>
    [("mode", mode.display), ("contract", contract)]
  | .invoking => []
  | .invocationFailed failure => [("error", failure.message)]
  | .sessionIsolated action | .sessionReleased action => [("action", action)]
  | .hostedServiceMissing address service =>
    [("address", address), ("service", service.display)]
  | .hostedAdapterMissing address key => [("address", address), ("key", key)]
  | .endpointOpened address contract declared lifetime mode binding =>
    [("address", address), ("contract", contract), ("declared", declared.display),
     ("lifetime", lifetime.display), ("mode", mode.display), ("binding", binding)]
  | .hostOpened endpoints adapters =>
    [("endpoints", toString endpoints), ("adapters", toString adapters)]
  | .channelOpened address session | .channelClosed address session =>
    [("address", address), ("session_id", maskedSession session)]
  | .configurationLoaded _ | .configurationMissing _ => []

/-- An event as data. -/
def toDatum (event : Event) : Datum :=
  .table
    [("level", .text event.level.display), ("message", .text event.message),
     ("fields", .table (event.fields.map fun field => (field.1, .text field.2)))]

end Event

end ServiceDispatch
