import ServiceDispatch.Keyed
import ServiceDispatch.Text.Record
import ServiceDispatch.Value

/-!
# Messages

An inbound call as the host receives it: an action, positional arguments and a bag of named
properties. A transport leaves its request and a shared response handle among the properties.
-/

namespace ServiceDispatch

/-- Transport-level facts about the request of a message. -/
structure TransportRequest where
  /-- Request method. -/
  method : String
  /-- Request path. -/
  path : String
  /-- Request headers; names are case sensitive. -/
  headers : Keyed String String

/-- Looks a request header up. -/
def TransportRequest.header (request : TransportRequest) (name : String) : Option String :=
  request.headers.get? name

/-- The state behind a response handle. -/
structure Response where
  /-- Status code. -/
  status : UInt16
  /-- Response headers. -/
  headers : Keyed String String

/-- A response that nobody has written to. -/
def Response.fresh : Response := ⟨200, .empty⟩

/-- A shared handle: all copies of it denote one response. -/
structure ResponseHandle where
  /-- Number of the response. -/
  index : Nat
  deriving DecidableEq, Repr

/-- The responses behind all handles. -/
structure Responses where
  /-- Responses by number. -/
  states : List Response

namespace Responses

/-- No responses yet. -/
def empty : Responses := ⟨[]⟩

/-- Adds a fresh response. -/
def allocate (responses : Responses) : ResponseHandle × Responses :=
  (⟨responses.states.length⟩, ⟨responses.states ++ [Response.fresh]⟩)

/-- The response behind a handle. -/
def get (responses : Responses) (handle : ResponseHandle) : Response :=
  responses.states[handle.index]?.getD Response.fresh

/-- Changes the response behind a handle, for all its copies at once. -/
def modify (responses : Responses) (handle : ResponseHandle) (change : Response → Response) :
    Responses :=
  ⟨responses.states.modify handle.index change⟩

/-- Sets the status code. -/
def setStatus (responses : Responses) (handle : ResponseHandle) (status : UInt16) : Responses :=
  responses.modify handle fun response => { response with status }

/-- Sets a header. -/
def setHeader (responses : Responses) (handle : ResponseHandle) (name value : String) :
    Responses :=
  responses.modify handle fun response =>
    { response with headers := response.headers.insert name value }

/-- The status code. -/
def status (responses : Responses) (handle : ResponseHandle) : UInt16 :=
  (responses.get handle).status

/-- A header. -/
def header (responses : Responses) (handle : ResponseHandle) (name : String) : Option String :=
  (responses.get handle).headers.get? name

end Responses

/-- The transport state of one inbound message. -/
structure TransportContext where
  /-- Inbound request. -/
  request : TransportRequest
  /-- Handle of the outbound response. -/
  response : ResponseHandle

/-- The value of a message property. -/
inductive Property where
  /-- An ordinary value. -/
  | value (value : Value)
  /-- The transport state that a transport attached. -/
  | transport (context : TransportContext)

/-- The named properties of a message. -/
structure Properties where
  /-- Properties by name. -/
  entries : Keyed String Property

namespace Properties

/-- The property under which a transport attaches its state. -/
def transportName : String := "opbind.transport.context"

/-- The property that carries the partition key of queues. -/
def partitionKeyName : String := "opbind.queue.partition_key"

/-- No properties. -/
def empty : Properties := ⟨.empty⟩

/-- Sets a property, in place of a former one. -/
def insert (properties : Properties) (name : String) (property : Property) : Properties :=
  ⟨properties.entries.insert name property⟩

/-- A property, if it is present and of the type asked for. -/
def get? (properties : Properties) (name : String) (type : ValueType) : Option Value :=
  match properties.entries.get? name with
  | some (.value value) => value.ofType? type
  | _ => none

/-- The transport state stored under a name, if that is what the name holds. -/
def transportAt? (properties : Properties) (name : String) : Option TransportContext :=
  match properties.entries.get? name with
  | some (.transport context) => some context
  | _ => none

/-- The transport state that the transport attached. -/
def transport? (properties : Properties) : Option TransportContext :=
  properties.transportAt? transportName

/-- Whether a property of any type has the name. -/
def contains (properties : Properties) (name : String) : Bool := properties.entries.contains name

/-- Removes a property and tells whether it was there. -/
def remove (properties : Properties) (name : String) : Bool × Properties :=
  (properties.contains name, ⟨properties.entries.erase name⟩)

/-- Number of properties. -/
def size (properties : Properties) : Nat := properties.entries.size

/-- The displayed form: the names in rising order. -/
def display (properties : Properties) : String :=
  Text.record "MessageProperties"
    [("names", Text.listing ((sortedTexts properties.entries.keys).map Text.quote))] false

end Properties

/-- One inbound call. -/
structure Message where
  /-- Name of the operation within the contract. -/
  action : String
  /-- Arguments, one for each input slot. -/
  arguments : List Value
  /-- Properties. -/
  properties : Properties

namespace Message

/-- Attaches transport state under its well-known name. -/
def withTransport (message : Message) (context : TransportContext) : Message :=
  { message with
    properties := message.properties.insert Properties.transportName (.transport context) }

/-- The displayed form of a message. -/
def display (message : Message) : String :=
  Text.record "Message"
    [("action", Text.quote message.action),
     ("arguments", toString message.arguments.length),
     ("properties", message.properties.display)] false

end Message

end ServiceDispatch
