import ServiceDispatch.Datum
import ServiceDispatch.Failure

/-!
# Failures as data

A failure is read from a table that names its kind and has an entry for each of its parts.
-/

namespace ServiceDispatch

namespace Failure

/-- The kind of error that a text alone describes. -/
def plainKind : String := "Foreign"

/-- Reads a failure. The error of an operation and the cause of a failure are given as their texts.
-/
def ofDatum? (datum : Datum) : Option Failure := do
  let text (name : String) : Option String := do (← datum.field? name).text?
  let number (name : String) : Option Nat := do (← datum.field? name).nat? Datum.wordBound
  let source := (text "source").map (ForeignError.mk plainKind)
  match ← text "kind" with
  | "MissingTransportContext" => return .missingTransportContext (← text "binding")
  | "NoOperationContext" => return .noOperationContext
  | "RegistryMiss" => return .registryMiss (← text "key")
  | "RegistryCollision" => return .registryCollision (← text "key")
  | "RegistrySealed" => return .registrySealed (← text "key")
  | "ServiceNotRegistered" => return .serviceNotRegistered (← text "type_name") (text "key")
  | "ServiceResolution" => return .serviceResolution (← text "type_name") (← text "message")
  | "InstanceTypeMismatch" => return .instanceTypeMismatch (← text "expected")
  | "MissingInput" => return .missingInput (← number "position")
  | "InputTypeMismatch" => return .inputTypeMismatch (← number "position") (← text "expected")
  | "ArgumentCount" =>
    return .argumentCount (← text "operation") (← number "expected") (← number "actual")
  | "UnknownOperation" => return .unknownOperation (← text "contract") (← text "action")
  | "UnknownEndpoint" => return .unknownEndpoint (← text "address")
  | "Operation" => return .operation ⟨plainKind, ← text "message"⟩
  | "Configuration" => return .configuration (← text "message") source
  | "Infrastructure" => return .infrastructure (← text "message") source
  | "Internal" => return .internal (← text "message")
  | _ => none

end Failure

end ServiceDispatch
