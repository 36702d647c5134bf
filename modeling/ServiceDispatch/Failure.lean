/-!
# Failures

Why a call, a registration or a configuration fails. Errors of the operations themselves are foreign
to the library: they keep their own type and text and are carried along unchanged.
-/

namespace ServiceDispatch

/-- An error of a type that the library does not know. -/
structure ForeignError where
  /-- Name of the error's type, by which it can be recovered. -/
  kind : String
  /-- Text of the error. -/
  message : String
  deriving DecidableEq, Repr

/-- Why an action of the library did not succeed. -/
inductive Failure where
  /-- A transport binding was declared but the message carries no transport context. -/
  | missingTransportContext (binding : String)
  /-- An injected operation ran outside of a dispatched call. -/
  | noOperationContext
  /-- No adapter is registered for a key. -/
  | registryMiss (key : String)
  /-- Two registrations have the same key. -/
  | registryCollision (key : String)
  /-- A registration came after the registry was sealed. -/
  | registrySealed (key : String)
  /-- A required service is not registered. -/
  | serviceNotRegistered (typeName : String) (key : Option String)
  /-- A factory failed or made a value of the wrong type. -/
  | serviceResolution (typeName message : String)
  /-- The instance does not implement the contract of the adapter. -/
  | instanceTypeMismatch (expected : String)
  /-- An input slot was left empty. -/
  | missingInput (position : Nat)
  /-- An input slot holds a value of another type. -/
  | inputTypeMismatch (position : Nat) (expected : String)
  /-- The number of arguments differs from the number of input slots. -/
  | argumentCount (operation : String) (expected actual : Nat)
  /-- The action names no operation of the contract. -/
  | unknownOperation (contract action : String)
  /-- No endpoint listens at the address. -/
  | unknownEndpoint (address : String)
  /-- An error of the operation itself. -/
  | operation (source : ForeignError)
  /-- The configuration is unusable. -/
  | configuration (message : String) (source : Option ForeignError)
  /-- The environment of the program fails. -/
  | infrastructure (message : String) (source : Option ForeignError)
  /-- A state that should not arise. -/
  | internal (message : String)
  deriving DecidableEq, Repr

instance : Inhabited Failure := ⟨.noOperationContext⟩

/-- What an operation may fail with: a failure of the library or an error of its own. -/
inductive OperationError where
  /-- A failure of the library, such as one met while resolving a service. -/
  | own (failure : Failure)
  /-- An error that the library does not know. -/
  | foreign (error : ForeignError)
  deriving DecidableEq, Repr

namespace Failure

/-- Surfaces the error of an operation: failures of the library pass as they are, foreign errors are
wrapped once. -/
def surface : OperationError → Failure
  | .own failure => failure
  | .foreign error => .operation error

/-- The error of the operation itself, if this failure carries one. -/
def operation? : Failure → Option ForeignError
  | .operation source => some source
  | _ => none

/-- The error of the operation itself, if it is of the type named. -/
def recover (failure : Failure) (kind : String) : Option ForeignError :=
  failure.operation?.filter fun error => error.kind = kind

/-- The cause recorded with a failure of configuration or environment. -/
def source? : Failure → Option ForeignError
  | .configuration _ source | .infrastructure _ source => source
  | _ => none

/-- Whether the failure shows a fault of start-up rather than of one call. -/
def isStartupFault : Failure → Bool
  | .registryMiss _ | .registryCollision _ | .registrySealed _ => true
  | _ => false

/-- The name of a kind of failure. -/
def kind : Failure → String
  | missingTransportContext _ => "MissingTransportContext"
  | noOperationContext => "NoOperationContext"
  | registryMiss _ => "RegistryMiss"
  | registryCollision _ => "RegistryCollision"
  | registrySealed _ => "RegistrySealed"
  | serviceNotRegistered _ _ => "ServiceNotRegistered"
  | serviceResolution _ _ => "ServiceResolution"
  | instanceTypeMismatch _ => "InstanceTypeMismatch"
  | missingInput _ => "MissingInput"
  | inputTypeMismatch _ _ => "InputTypeMismatch"
  | argumentCount _ _ _ => "ArgumentCount"
  | unknownOperation _ _ => "UnknownOperation"
  | unknownEndpoint _ => "UnknownEndpoint"
  | operation _ => "Operation"
  | configuration _ _ => "Configuration"
  | infrastructure _ _ => "Infrastructure"
  | internal _ => "Internal"

/-- The key of a service inside a message. -/
def keySuffix : Option String → String
  | none => ""
  | some key => " (key '" ++ key ++ "')"

/-- The text of a failure. -/
def message : Failure → String
  | missingTransportContext binding => "Missing " ++ binding ++ " in inbound message properties"
  | noOperationContext => "No operation context is active for the current call"
  | registryMiss key => "No invocation adapter registered for operation '" ++ key ++ "'"
  | registryCollision key =>
    "Invocation adapter key '" ++ key ++ "' was registered more than once"
  | registrySealed key => "Invocation registry is sealed; cannot register '" ++ key ++ "'"
  | serviceNotRegistered typeName key => "Service not registered: " ++ typeName ++ keySuffix key
  | serviceResolution typeName message =>
    "Failed to resolve service " ++ typeName ++ ": " ++ message
  | instanceTypeMismatch expected =>
    "Service instance does not implement contract " ++ expected
  | missingInput position => "Input slot " ++ toString position ++ " was not populated"
  | inputTypeMismatch position expected =>
    "Input slot " ++ toString position ++ " does not hold a value of type " ++ expected
  | argumentCount name expected actual =>
    "Operation '" ++ name ++ "' expects " ++ toString expected ++ " arguments, got " ++
      toString actual
  | unknownOperation contract action =>
    "Unknown operation '" ++ action ++ "' on contract " ++ contract
  | unknownEndpoint address => "No endpoint registered at '" ++ address ++ "'"
  | operation source => "Operation failed: " ++ source.message
  | configuration message _ => "Configuration error: " ++ message
  | infrastructure message _ => "Infrastructure error: " ++ message
  | internal message => "Internal error: " ++ message

/-- Puts a context before the text of a foreign error and keeps the error as the cause. -/
def withContext (context : String) (error : ForeignError) : Failure :=
  .infrastructure (context ++ ": " ++ error.message) (some error)

/-- As `withContext`, for errors met while reading the configuration. -/
def withConfigurationContext (context : String) (error : ForeignError) : Failure :=
  .configuration (context ++ ": " ++ error.message) (some error)

end Failure

end ServiceDispatch
