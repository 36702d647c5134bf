import ServiceDispatch.Datum

/-!
# Resolution plans

Where the value of an injected parameter comes from. A plan is fixed when the wrapper of an
operation is generated and never changes afterwards.
-/

namespace ServiceDispatch

/-- The part of the transport state that a binding asks for. -/
inductive TransportPart where
  /-- The whole transport context. -/
  | context
  /-- The inbound request. -/
  | request
  /-- The handle of the outbound response. -/
  | response
  deriving DecidableEq, Repr

/-- The words for a part in texts and failures. -/
def TransportPart.display : TransportPart → String
  | context => "transport context"
  | request => "transport request"
  | response => "transport response"

/-- Binding rule of one injected parameter. -/
inductive ResolutionPlan where
  /-- A part of the transport state of the inbound message. -/
  | transport (part : TransportPart)
  /-- A named entry of the properties of the inbound message. -/
  | messageProperty (name typeName : String)
  /-- A service of the container, by type and key. -/
  | keyedService (key : String)
  /-- A service of the container, by type alone. -/
  | defaultService
  deriving DecidableEq, Repr

namespace ResolutionPlan

/-- Whether the binding resolves from the container. -/
def readsContainer : ResolutionPlan → Bool
  | keyedService _ | defaultService => true
  | transport _ | messageProperty _ _ => false

/-- Whether the binding reads the message. -/
def readsMessage (plan : ResolutionPlan) : Bool := !plan.readsContainer

/-- Whether the binding can fail when called. Only message properties are best effort. -/
def isFallible : ResolutionPlan → Bool
  | messageProperty _ _ => false
  | transport _ | keyedService _ | defaultService => true

/-- The displayed form of a plan. -/
def display : ResolutionPlan → String
  | transport part => part.display
  | messageProperty name typeName => "message property '" ++ name ++ "' as " ++ typeName
  | keyedService key => "keyed service '" ++ key ++ "'"
  | defaultService => "default service"

/-- The name of a kind of plan in stored plans. -/
def tag : ResolutionPlan → String
  | transport .context => "transport_context"
  | transport .request => "transport_request"
  | transport .response => "transport_response"
  | messageProperty _ _ => "message_property"
  | keyedService _ => "keyed_service"
  | defaultService => "default_service"

/-- The details of a plan by name. -/
def details : ResolutionPlan → List (String × String)
  | messageProperty name typeName => [("name", name), ("type_name", typeName)]
  | keyedService key => [("key", key)]
  | transport _ | defaultService => []

/-- A plan as data: its kind and its details. -/
def toDatum (plan : ResolutionPlan) : Datum :=
  .table (("kind", .text plan.tag) :: plan.details.map fun entry => (entry.1, .text entry.2))

/-- The plan of a kind, with its details looked up by name and place. -/
def ofTag? (kind : String) (detail : String → Nat → Option String) : Option ResolutionPlan :=
  match kind with
  | "transport_context" => some (transport .context)
  | "transport_request" => some (transport .request)
  | "transport_response" => some (transport .response)
  | "message_property" => do
    return messageProperty (← detail "name" 0) (← detail "type_name" 1)
  | "keyed_service" => do return keyedService (← detail "key" 0)
  | "default_service" => some defaultService
  | _ => none

/-- Reads a plan. It is a table, in which unknown entries are passed over, or a sequence of the kind
and exactly its details. -/
def ofDatum? : Datum → Option ResolutionPlan
  | .table entries => do
    ofTag? (← (← Datum.lookup? "kind" entries).text?) fun name _ =>
      (Datum.lookup? name entries).bind Datum.text?
  | .list (kind :: given) => do
    let plan ← ofTag? (← kind.text?) fun _ place => given[place]?.bind Datum.text?
    if given.length = plan.details.length then some plan else none
  | _ => none

end ResolutionPlan

end ServiceDispatch
