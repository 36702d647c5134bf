/-!
# Operation signatures

The immutable description of one contract operation: who declares it, what it is called, its
parameters with their directions, and the shape of its return.
-/

namespace ServiceDispatch

/-- Direction in which a parameter value travels across a call. -/
inductive Direction where
  /-- Supplied by the caller and not written back. -/
  | input
  /-- Produced by the operation only. -/
  | output
  /-- Supplied by the caller and written back. -/
  | inout
  deriving DecidableEq, Repr

namespace Direction

/-- Whether a parameter of this direction occupies an input slot. -/
def flowsIn : Direction → Bool
  | input | inout => true
  | output => false

/-- Whether a parameter of this direction occupies an output slot. -/
def flowsOut : Direction → Bool
  | output | inout => true
  | input => false

/-- The text before the type name in a canonical key. -/
def keyword : Direction → String
  | input => ""
  | output => "out "
  | inout => "inout "

/-- The name of a direction. -/
def name : Direction → String
  | input => "In"
  | output => "Out"
  | inout => "InOut"

/-- The direction of a name. -/
def ofName? (name : String) : Option Direction :=
  [input, output, inout].find? fun direction => direction.name = name

end Direction

/-- Shape of an operation's return: whether it is awaited and whether it yields a value. -/
inductive ReturnShape where
  /-- Synchronous without a value. -/
  | void
  /-- Synchronous with a value. -/
  | value
  /-- Awaited without a value. -/
  | asyncVoid
  /-- Awaited with a value. -/
  | asyncValue
  deriving DecidableEq, Repr

namespace ReturnShape

/-- The shape of a return with the two given traits. -/
def classify : (awaited hasValue : Bool) → ReturnShape
  | false, false => void
  | false, true => value
  | true, false => asyncVoid
  | true, true => asyncValue

/-- Whether the call must be awaited. -/
def isAsync : ReturnShape → Bool
  | asyncVoid | asyncValue => true
  | void | value => false

/-- Whether the call yields a value. -/
def hasValue : ReturnShape → Bool
  | value | asyncValue => true
  | void | asyncVoid => false

/-- The name of a shape. -/
def name : ReturnShape → String
  | void => "Void"
  | value => "Value"
  | asyncVoid => "AsyncVoid"
  | asyncValue => "AsyncValue"

/-- The shape of a name. -/
def ofName? (name : String) : Option ReturnShape :=
  [void, value, asyncVoid, asyncValue].find? fun shape => shape.name = name

@[simp] theorem isAsync_classify (awaited carries : Bool) :
    (classify awaited carries).isAsync = awaited := by
  cases awaited <;> cases carries <;> rfl

@[simp] theorem hasValue_classify (awaited carries : Bool) :
    (classify awaited carries).hasValue = carries := by
  cases awaited <;> cases carries <;> rfl

end ReturnShape

/-- One declared parameter of an operation. -/
structure Parameter where
  /-- Declared name. -/
  name : String
  /-- Value type as written, without the reference of its direction. -/
  typeName : String
  /-- Direction of travel. -/
  direction : Direction
  /-- Position in the declared parameter list, from zero. -/
  position : Nat
  deriving DecidableEq, Repr

/-- The description of one contract operation. -/
structure Signature where
  /-- Fully qualified name of the declaring contract. -/
  declaringType : String
  /-- Operation name. -/
  method : String
  /-- Parameters in declared order. -/
  parameters : List Parameter
  /-- Return shape. -/
  shape : ReturnShape
  deriving DecidableEq, Repr

namespace Signature

/-- Parameters that occupy input slots, in declared order. -/
def inputs (signature : Signature) : List Parameter :=
  signature.parameters.filter (·.direction.flowsIn)

/-- Parameters that occupy output slots, in declared order. -/
def outputs (signature : Signature) : List Parameter :=
  signature.parameters.filter (·.direction.flowsOut)

/-- Number of input slots. -/
def inputCount (signature : Signature) : Nat := signature.inputs.length

/-- Number of output slots. -/
def outputCount (signature : Signature) : Nat := signature.outputs.length

/-- A parameter as signatures show it. -/
def showParameter (parameter : Parameter) : String :=
  parameter.direction.keyword ++ parameter.name ++ ": " ++ parameter.typeName

/-- The displayed form of a signature. -/
def display (signature : Signature) : String :=
  signature.declaringType ++ "::" ++ signature.method ++ "(" ++
    String.intercalate ", " (signature.parameters.map showParameter) ++ ")"

end Signature

end ServiceDispatch
