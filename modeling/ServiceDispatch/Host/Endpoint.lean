import ServiceDispatch.Call.Contract
import ServiceDispatch.Call.Hosting
import ServiceDispatch.Config.Settings

/-!
# Endpoints

Where contracts are served: a binding, of which only its sessions matter here, the contract, and how
instances of the service behind it are shared.
-/

namespace ServiceDispatch

/-- The transport of an endpoint. -/
structure TransportBinding where
  /-- Its name. -/
  name : String
  /-- Whether its channels carry a session. -/
  sessionful : Bool
  deriving DecidableEq, Repr

namespace TransportBinding

/-- Requests and responses without sessions. -/
def basicHttp : TransportBinding := ⟨basicHttpName, false⟩

/-- Connections with sessions. -/
def netTcp : TransportBinding := ⟨netTcpName, true⟩

/-- The binding of a name as the settings describe it. -/
def ofSettings (name : String) (settings : HostSettings) : TransportBinding :=
  ⟨name, settings.isSessionful name⟩

/-- The binding of a name: one that is known without configuration, or else as the settings describe
it. -/
def named (name : String) (settings : HostSettings) : TransportBinding :=
  if name = basicHttpName then basicHttp
  else if name = netTcpName then netTcp
  else ofSettings name settings

/-- The displayed form of a binding. -/
def display (binding : TransportBinding) : String :=
  Text.record "Binding"
    [("name", Text.quote binding.name), ("sessionful", Text.truth binding.sessionful)] false

end TransportBinding

/-- An endpoint to be opened. -/
structure EndpointSpec (σ : Type) where
  /-- Its address. -/
  address : String
  /-- The contract to serve. -/
  contract : ServedContract σ
  /-- The service behind the contract. -/
  service : ServiceKey
  /-- The mode asked for, if any. -/
  declared : Option InstanceMode
  /-- Its binding. -/
  binding : TransportBinding

namespace EndpointSpec

variable {σ : Type}

/-- How instances of the endpoint are made. -/
def activator (spec : EndpointSpec σ) : Activator σ :=
  .ofService spec.service spec.contract.typeName

/-- The mode that is declared, or else the default one. -/
def declaredMode (spec : EndpointSpec σ) (default : InstanceMode) : InstanceMode :=
  spec.declared.getD default

/-- The mode in which a service of a lifetime is served: the effective one, without sessions where
the binding has none. -/
def mode (spec : EndpointSpec σ) (default : InstanceMode) (lifetime : Lifetime) : InstanceMode :=
  let effective := (spec.declaredMode default).effective lifetime
  if spec.binding.sessionful then effective else effective.withoutSessions

end EndpointSpec

/-- An opened endpoint. -/
structure Endpoint (σ : Type) where
  /-- Its address. -/
  address : String
  /-- Name of the contract. -/
  contract : String
  /-- Its operations in declared order. -/
  operations : List Signature
  /-- The mode asked for, or the default one. -/
  declared : InstanceMode
  /-- The mode in which it is served. -/
  mode : InstanceMode
  /-- Its binding. -/
  binding : TransportBinding
  /-- How its instances are made. -/
  activator : Activator σ
  /-- The one instance that serves all calls, if the mode is such. -/
  single : Option InstanceContext

namespace Endpoint

variable {σ : Type}

/-- The operation of a name. -/
def operation (endpoint : Endpoint σ) (action : String) : Except Failure Signature :=
  match endpoint.operations.find? fun signature => signature.method = action with
  | some signature => .ok signature
  | none => .error (.unknownOperation endpoint.contract action)

/-- The displayed form of an endpoint. -/
def display (endpoint : Endpoint σ) : String :=
  Text.record "Endpoint"
    [("address", Text.quote endpoint.address), ("contract", Text.quote endpoint.contract),
     ("mode", endpoint.mode.variantName), ("binding", endpoint.binding.display)] true

/-- An endpoint as data. -/
def toDatum (endpoint : Endpoint σ) : Datum :=
  .table
    [("address", .text endpoint.address), ("contract", .text endpoint.contract),
     ("declared", .text endpoint.declared.display), ("mode", .text endpoint.mode.display),
     ("binding", .text endpoint.binding.name), ("sessionful", .flag endpoint.binding.sessionful),
     ("operations", .list (endpoint.operations.map fun signature => .text signature.method)),
     ("debug", .text endpoint.display)]

end Endpoint

end ServiceDispatch
