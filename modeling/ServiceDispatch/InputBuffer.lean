import ServiceDispatch.Failure
import ServiceDispatch.Text.Record
import ServiceDispatch.Value

/-!
# Input buffers

The input slots of one call, one for each parameter that flows in. A slot gives its value away once;
reading it at the wrong type empties it as well.
-/

namespace ServiceDispatch

/-- A fixed number of slots, each empty or holding a value. -/
structure InputBuffer where
  /-- The slots by position. -/
  slots : List (Option Value)
  deriving DecidableEq, Repr

namespace InputBuffer

/-- The buffer without slots. -/
def empty : InputBuffer := ⟨[]⟩

/-- A buffer of empty slots. -/
def withLength (length : Nat) : InputBuffer := ⟨List.replicate length none⟩

/-- Number of slots. -/
def length (buffer : InputBuffer) : Nat := buffer.slots.length

/-- Whether the buffer has no slots. -/
def isEmpty (buffer : InputBuffer) : Bool := buffer.slots.isEmpty

/-- The value that a slot holds now. -/
def held? (buffer : InputBuffer) (position : Nat) : Option Value := buffer.slots[position]?.join

/-- Whether a slot holds a value. -/
def isSet (buffer : InputBuffer) (position : Nat) : Bool := (buffer.held? position).isSome

/-- Fills one slot; a position outside the buffer is a failure. -/
def set (buffer : InputBuffer) (position : Nat) (value : Value) : Except Failure InputBuffer :=
  if position < buffer.length then .ok ⟨buffer.slots.set position (some value)⟩
  else
    .error (.internal ("input slot " ++ toString position ++ " out of range for buffer of " ++
      toString buffer.length))

/-- Fills slots from a position on, as far as there are slots. A failure keeps what was written. -/
def fillFrom (buffer : InputBuffer) (position : Nat) :
    List Value → InputBuffer × Except Failure Unit
  | [] => (buffer, .ok ())
  | value :: rest =>
    match buffer.set position value with
    | .ok next => fillFrom next (position + 1) rest
    | .error failure => (buffer, .error failure)

/-- Fills the slots in order. -/
def fill (buffer : InputBuffer) (values : List Value) : InputBuffer × Except Failure Unit :=
  buffer.fillFrom 0 values

/-- Takes the value of a slot at a type. The slot is empty afterwards whatever the outcome. -/
def take (buffer : InputBuffer) (position : Nat) (type : ValueType) :
    InputBuffer × Except Failure Value :=
  match buffer.held? position with
  | none => (buffer, .error (.missingInput position))
  | some value =>
    (⟨buffer.slots.set position none⟩,
      if value.type = type then .ok value
      else .error (.inputTypeMismatch position type.typeName))

/-- What can be done with a buffer. -/
inductive Command where
  /-- Fills one slot. -/
  | set (position : Nat) (value : Value)
  /-- Fills slots in order. -/
  | fill (values : List Value)
  /-- Takes the value of a slot at a type. -/
  | take (position : Nat) (type : ValueType)
  /-- Asks whether a slot holds a value. -/
  | isSet (position : Nat)
  deriving DecidableEq, Repr

/-- What a buffer answers. -/
inductive Answer where
  /-- It was done. -/
  | done
  /-- The value that was taken. -/
  | value (value : Value)
  /-- Whether it is so. -/
  | flag (b : Bool)
  deriving DecidableEq, Repr

/-- Carries a command out. -/
def execute (buffer : InputBuffer) : Command → Except Failure Answer × InputBuffer
  | .set position value =>
    match buffer.set position value with
    | .ok next => (.ok .done, next)
    | .error failure => (.error failure, buffer)
  | .fill values =>
    let (next, result) := buffer.fill values
    (result.map fun _ => .done, next)
  | .take position type =>
    let (next, result) := buffer.take position type
    (result.map .value, next)
  | .isSet position => (.ok (.flag (buffer.isSet position)), buffer)

/-- The displayed form: which slots are filled. -/
def display (buffer : InputBuffer) : String :=
  Text.record "InputBuffer"
    [("filled", Text.listing (buffer.slots.map fun slot => Text.truth slot.isSome))] false

end InputBuffer

/-- What one invocation yields. -/
structure Outcome where
  /-- The return value, absent for shapes without one. -/
  returned : Option Value
  /-- Values of the parameters that flow out, in declared order. -/
  outputs : List Value
  deriving DecidableEq, Repr

namespace Outcome

/-- The outcome without a return value and outputs. -/
def none : Outcome := ⟨.none, []⟩

/-- The return value, if it has the type asked for. -/
def returnAs (outcome : Outcome) (type : ValueType) : Option Value :=
  outcome.returned.bind (·.ofType? type)

/-- An output, if it exists and has the type asked for. -/
def outputAs (outcome : Outcome) (index : Nat) (type : ValueType) : Option Value :=
  outcome.outputs[index]?.bind (·.ofType? type)

/-- The displayed form: what is there, without the values. -/
def display (outcome : Outcome) : String :=
  Text.record "InvocationOutcome"
    [("has_return", Text.truth outcome.returned.isSome),
     ("outputs", toString outcome.outputs.length)] false

end Outcome

end ServiceDispatch
