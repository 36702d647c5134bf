import ServiceDispatch.Call.Dispatch
import ServiceDispatch.Host.Endpoint

/-!
# Opening hosts

A host is opened over registrations, settings, a registry and endpoints. Its registry is sealed
first; then each endpoint is checked and opened in order: its service must be registered, all its
operations must have adapters, its instance must activate if it serves all calls, and its address
must not have been used.
-/

namespace ServiceDispatch

/-- A host to be opened. -/
structure HostSpec (σ : Type) where
  /-- Settings. -/
  settings : Settings
  /-- The registry to seal and use; without one the registry shared by all hosts is used as it
  is. -/
  registry : Option (AdapterRegistry σ)
  /-- Endpoints in the order in which they were added. -/
  endpoints : List (EndpointSpec σ)

/-- An opened host. -/
structure Host (σ : Type) where
  /-- The sealed registry. -/
  registry : AdapterRegistry σ
  /-- Endpoints by address. -/
  endpoints : Keyed String (Endpoint σ)

namespace HostSpec

variable {σ : Type}

/-- The registry of the host, sealed if it can be, given the one shared by all hosts. -/
def sealRegistry (spec : HostSpec σ) (shared : AdapterRegistry σ) :
    Except Failure Unit × AdapterRegistry σ :=
  match spec.registry with
  | some registry => registry.trySeal spec.settings.dispatch.rejectCollisions
  | none => (.ok (), shared)

/-- What sealing the registry reports. -/
def sealEvents (spec : HostSpec σ) : List Event :=
  match spec.registry with
  | some registry => registry.sealEvents spec.settings.dispatch.rejectCollisions
  | none => []

/-- The displayed form of a host to be opened, over given registrations. -/
def display (spec : HostSpec σ) (services : Services σ) : String :=
  Text.record "ServiceHostBuilder"
    [("services", services.display), ("endpoints", toString spec.endpoints.length)] true

end HostSpec

namespace EndpointSpec

variable {σ : Type}

/-- The first operation without an adapter, by key. -/
def missingAdapter? (spec : EndpointSpec σ) (registry : AdapterRegistry σ) : Option String :=
  (spec.contract.operations.map fun signature => signature.key.text).find? fun key =>
    !registry.contains key

/-- Checks that the service is registered and answers its lifetime. -/
def checkService (spec : EndpointSpec σ) : Run σ Lifetime := do
  match (← read).lifetime? spec.service with
  | some lifetime => pure lifetime
  | none =>
    Serving.report (.hostedServiceMissing spec.address spec.service)
    throw (.serviceNotRegistered spec.service.typeName spec.service.name)

/-- Checks that every operation has an adapter. -/
def checkOperations (spec : EndpointSpec σ) (registry : AdapterRegistry σ) : Run σ Unit := do
  match spec.missingAdapter? registry with
  | none => pure ()
  | some key =>
    Serving.report (.hostedAdapterMissing spec.address key)
    throw (.registryMiss key)

/-- The instance that serves all calls, if the mode is such. -/
def openSingle (spec : EndpointSpec σ) (mode : InstanceMode) : Run σ (Option InstanceContext) := do
  if mode.isSingleton then some <$> InstanceContext.activate mode spec.activator else pure none

/-- Checks and opens an endpoint. -/
def openWith (spec : EndpointSpec σ) (registry : AdapterRegistry σ) (default : InstanceMode) :
    Run σ (Endpoint σ) := do
  let lifetime ← spec.checkService
  spec.checkOperations registry
  let declared := spec.declaredMode default
  let mode := spec.mode default lifetime
  let single ← spec.openSingle mode
  Serving.report
    (.endpointOpened spec.address spec.contract.name declared lifetime mode spec.binding.name)
  pure
    { address := spec.address
      contract := spec.contract.name
      operations := spec.contract.operations
      declared
      mode
      binding := spec.binding
      activator := spec.activator
      single }

end EndpointSpec

/-- Lets go the instance that serves all calls of an endpoint. -/
def Endpoint.release {σ ε : Type} (endpoint : Endpoint σ) : Serving σ ε Unit :=
  match endpoint.single with
  | some hosting => hosting.release
  | none => pure ()

namespace Host

variable {σ : Type}

/-- The failure of an address that is used again. -/
def duplicateAddress (address : String) : Failure :=
  .configuration ("Endpoint address '" ++ address ++ "' is used more than once") none

/-- Opens endpoints in order, next to those that are open already. If one cannot be opened, all of
them are let go. -/
def openEndpoints (registry : AdapterRegistry σ) (default : InstanceMode) :
    List (EndpointSpec σ) → Keyed String (Endpoint σ) → Run σ (Keyed String (Endpoint σ))
  | [], opened => pure opened
  | spec :: rest, opened => do
    match ← Serving.attempt (spec.openWith registry default) with
    | .error failure =>
      opened.values.forM Endpoint.release
      throw failure
    | .ok endpoint =>
      match opened.get? spec.address with
      | none => openEndpoints registry default rest (opened.insert spec.address endpoint)
      | some former =>
        former.release
        ((opened.insert spec.address endpoint).values).forM Endpoint.release
        throw (duplicateAddress spec.address)

/-- Opens a host, given the registry shared by all hosts. -/
def openWith (spec : HostSpec σ) (shared : AdapterRegistry σ) : Run σ (Host σ) := do
  Serving.reportAll spec.sealEvents
  let (sealing, registry) := spec.sealRegistry shared
  Serving.ofExcept sealing
  Serving.report (← read).buildEvent
  let endpoints ← openEndpoints registry spec.settings.host.defaultMode spec.endpoints .empty
  Serving.report (.hostOpened endpoints.size registry.size)
  pure ⟨registry, endpoints⟩

/-- Addresses in rising order. -/
def addresses (host : Host σ) : List String := sortedTexts host.endpoints.keys

/-- The endpoint at an address. -/
def endpoint? (host : Host σ) (address : String) : Option (Endpoint σ) :=
  host.endpoints.get? address

/-- The displayed form of a host. -/
def display (host : Host σ) : String :=
  Text.record "ServiceHost"
    [("addresses", Text.listing (host.addresses.map Text.quote))] true

end Host

end ServiceDispatch
