import ServiceDispatch.CanonicalKey
import ServiceDispatch.Datum

/-!
# Signatures as data

A signature is stored as a table. The position of a parameter is its place in the list, so it is
written for readers but not read.
-/

namespace ServiceDispatch

/-- A parameter as data. -/
def Parameter.toDatum (parameter : Parameter) : Datum :=
  .table
    [("name", .text parameter.name), ("type", .text parameter.typeName),
     ("direction", .text parameter.direction.name), ("position", .integer parameter.position)]

/-- Reads the parameter at a position. -/
def Parameter.ofDatum? (position : Nat) (datum : Datum) : Option Parameter := do
  return {
    name := ← (← datum.field? "name").text?
    typeName := ← (← datum.field? "type").text?
    direction := ← Direction.ofName? (← (← datum.field? "direction").text?)
    position }

namespace Signature

/-- A signature as data. -/
def entries (signature : Signature) : List (String × Datum) :=
  [("declaring_type", .text signature.declaringType), ("method", .text signature.method),
   ("parameters", .list (signature.parameters.map Parameter.toDatum)),
   ("shape", .text signature.shape.name)]

/-- What follows from a signature: its displayed form, its key and the numbers of its slots. -/
def derivedEntries (signature : Signature) : List (String × Datum) :=
  [("display", .text signature.display), ("key", .text signature.key.text),
   ("input_count", .integer signature.inputCount),
   ("output_count", .integer signature.outputCount)]

/-- A signature as data, with what follows from it. -/
def description (signature : Signature) : Datum :=
  .table (signature.entries ++ signature.derivedEntries)

/-- Reads the parameters from a position on. -/
def parameters? (position : Nat) : List Datum → Option (List Parameter)
  | [] => some []
  | datum :: rest => do
    return (← Parameter.ofDatum? position datum) :: (← parameters? (position + 1) rest)

/-- Reads a signature. One that tells no shape returns at once and without a value. -/
def ofDatum? (datum : Datum) : Option Signature := do
  return {
    declaringType := ← (← datum.field? "declaring_type").text?
    method := ← (← datum.field? "method").text?
    parameters := ← parameters? 0 (((datum.field? "parameters").bind Datum.items?).getD [])
    shape := (((datum.field? "shape").bind Datum.text?).bind ReturnShape.ofName?).getD .void }

end Signature

end ServiceDispatch
