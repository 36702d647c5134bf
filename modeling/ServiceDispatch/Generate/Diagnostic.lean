import ServiceDispatch.Datum
import ServiceDispatch.Source.Lexeme

/-!
# Diagnostics

Problems found in a contract or an implementation. They are collected, so that what has no problem
is still generated.
-/

namespace ServiceDispatch.Generate

open Source

/-- Kind of problem. -/
inductive DiagnosticKind where
  /-- An injected parameter names both a message property and a service key. -/
  | conflictingBinding
  /-- A message property has an empty name. -/
  | emptyPropertyName
  /-- An argument of an injection is not known. -/
  | unknownInjectArgument
  /-- A binding can fail but the operation cannot return an error. -/
  | infallibleReturn
  /-- An injected service has a type that no service has. -/
  | unsupportedServiceType
  /-- An operation is not called on `&self`. -/
  | invalidReceiver
  /-- An operation or a contract is generic. -/
  | genericOperation
  /-- An input is a shared reference. -/
  | sharedReference
  /-- An output is not a mutable reference. -/
  | invalidOut
  /-- A parameter is not a plain identifier. -/
  | invalidPattern
  /-- A contract declares something other than a method. -/
  | unsupportedItem
  /-- Arguments of an attribute cannot be read. -/
  | invalidAttribute
  deriving DecidableEq, Repr

/-- The stable code of a kind. -/
def DiagnosticKind.code : DiagnosticKind → String
  | conflictingBinding => "OPB001"
  | emptyPropertyName => "OPB002"
  | unknownInjectArgument => "OPB003"
  | infallibleReturn => "OPB004"
  | unsupportedServiceType => "OPB005"
  | invalidReceiver => "OPB010"
  | genericOperation => "OPB011"
  | sharedReference => "OPB012"
  | invalidOut => "OPB013"
  | invalidPattern => "OPB014"
  | unsupportedItem => "OPB015"
  | invalidAttribute => "OPB020"

/-- The name of a kind. -/
def DiagnosticKind.name : DiagnosticKind → String
  | conflictingBinding => "ConflictingBinding"
  | emptyPropertyName => "EmptyPropertyName"
  | unknownInjectArgument => "UnknownInjectArgument"
  | infallibleReturn => "InfallibleReturn"
  | unsupportedServiceType => "UnsupportedServiceType"
  | invalidReceiver => "InvalidReceiver"
  | genericOperation => "GenericOperation"
  | sharedReference => "SharedReference"
  | invalidOut => "InvalidOut"
  | invalidPattern => "InvalidPattern"
  | unsupportedItem => "UnsupportedItem"
  | invalidAttribute => "InvalidAttribute"

/-- One problem. -/
structure Diagnostic where
  /-- Its kind. -/
  kind : DiagnosticKind
  /-- Its description. -/
  message : String
  /-- The part of the source it is about. -/
  span : Span
  deriving DecidableEq, Repr

/-- A problem as it is shown: its code in brackets, then its description. -/
def Diagnostic.display (diagnostic : Diagnostic) : String :=
  "[" ++ diagnostic.kind.code ++ "] " ++ diagnostic.message

/-- A part of the source as data: the lines and columns of its ends. -/
def spanDatum (span : Span) : Datum :=
  .list
    [.integer span.start.line, .integer span.start.column, .integer span.stop.line,
     .integer span.stop.column]

/-- A problem as data. One with the arguments of an attribute has no place in the source. -/
def Diagnostic.toDatum (diagnostic : Diagnostic) : Datum :=
  .table
    [("code", .text diagnostic.kind.code), ("kind", .text diagnostic.kind.name),
     ("message", .text diagnostic.message), ("display", .text diagnostic.display),
     ("span", if diagnostic.kind = .invalidAttribute then .null else spanDatum diagnostic.span)]

end ServiceDispatch.Generate
