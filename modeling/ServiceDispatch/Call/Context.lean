import ServiceDispatch.Message
import ServiceDispatch.Service.Container

/-!
# Contexts of a call

The instance that serves a call, how it is hosted, and what an operation can learn about the call it
serves.
-/

namespace ServiceDispatch

/-- A service instance as adapters see it. -/
structure ServiceInstance where
  /-- The contract under which it is shown. -/
  contract : String
  /-- The type as which it can really be used. -/
  typeName : String
  /-- The instance. -/
  object : InstanceId
  deriving DecidableEq, Repr

namespace ServiceInstance

/-- An instance shown as what it is. -/
def ofType (typeName : String) (object : InstanceId) : ServiceInstance :=
  ⟨typeName, typeName, object⟩

/-- The instance as a contract type. -/
def asType (served : ServiceInstance) (expected : String) : Except Failure InstanceId :=
  if served.typeName = expected then .ok served.object
  else .error (.instanceTypeMismatch expected)

/-- The displayed form of an instance. -/
def display (served : ServiceInstance) : String :=
  Text.record "ServiceInstance" [("contract", Text.quote served.contract)] true

end ServiceInstance

/-- An instance with the session that it was activated from. -/
structure InstanceContext where
  /-- How the instance is shared. -/
  mode : InstanceMode
  /-- The session it was activated from. -/
  session : Session
  /-- The instance. -/
  served : ServiceInstance
  deriving DecidableEq, Repr

namespace InstanceContext

/-- Whether the instance serves all calls as long as the host lives. -/
def isSingleton (hosting : InstanceContext) : Bool := hosting.mode.isSingleton

/-- The displayed form of an instance context. -/
def display (hosting : InstanceContext) : String :=
  Text.record "HostedInstanceContext"
    [("mode", hosting.mode.variantName), ("instance", hosting.served.display)] true

end InstanceContext

/-- What is known about one call while it is served. -/
structure OperationContext where
  /-- The instance context that serves the call. -/
  hosting : InstanceContext
  /-- Whether that context was opened for this call alone and ends with it. -/
  ownsHosting : Bool
  /-- Properties of the message. -/
  properties : Properties
  /-- Name of the operation. -/
  action : String
  /-- Session of the channel, if it has one. -/
  session : Option String

namespace OperationContext

/-- The displayed form of an operation context. -/
def display (context : OperationContext) : String :=
  Text.record "OperationContext"
    [("action", Text.quote context.action),
     ("session_id", Text.optional (context.session.map Text.quote)),
     ("singleton", Text.truth context.hosting.isSingleton),
     ("properties", context.properties.display)] false

end OperationContext

end ServiceDispatch
