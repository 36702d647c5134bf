import ServiceDispatch.Call.Wrapper
import ServiceDispatch.Sample.Content

/-!
# Sample: greetings

Operations whose implementations take injected parameters of every kind. The wrappers in between are
described by their plans.
-/

namespace ServiceDispatch.Sample.Greeter

/-- The type of clocks. -/
def clockType : String := "dyn driver::fixtures::Clock"

/-- The type of journals. -/
def journalType : String := "driver::fixtures::Journal"

/-- A parameter that the caller supplies. -/
def given (name : String) (type : ValueType) : WrapperParameter TargetType :=
  ⟨name, .value type, .caller⟩

/-- A parameter that is injected. -/
def injected (name : String) (plan : ResolutionPlan) (target : TargetType) (isOptional : Bool) :
    WrapperParameter TargetType :=
  ⟨name, target, .injected ⟨plan, target, isOptional⟩⟩

/-- A service of a type, by name or the default one. -/
def service (parameter typeName : String) (name : Option String) (isOptional : Bool) :
    WrapperParameter TargetType :=
  injected parameter ((name.map .keyedService).getD .defaultService) (.object typeName) isOptional

/-- A message property of a type. -/
def property (parameter name : String) (type : ValueType) (isOptional : Bool) :
    WrapperParameter TargetType :=
  injected parameter (.messageProperty name type.written) (.value type) isOptional

/-- A part of the transport state. -/
def transport (parameter : String) (part : TransportPart) (typeName : String) :
    WrapperParameter TargetType :=
  injected parameter (.transport part) (.object typeName) false

/-- The time that a clock shows. -/
def timeOf (clock : InstanceId) : Operating Content UInt64 := do
  return (← contentOf clock).now

/-- The time that a clock shows, if there is one. -/
def timeOf? : Option InstanceId → Operating Content Reply
  | none => pure (.value (.optionU64 none))
  | some clock => do return .value (.optionU64 (some (← timeOf clock)))

/-- The number of a journal, from one in the order in which journals were built. -/
def journalNumber (container : Container Content) (journal : InstanceId) : Nat :=
  container.ordinal (fun built => built.typeName == journalType) journal

/-- Greets by name with the time. -/
def greet : Implementation Content
  | _, [.passed (.string name), .service clock] => do
    let now ← timeOf clock
    pure (.value (.string ("hello " ++ name ++ " at " ++ toString now)))
  | _, _ => misfit

/-- Shows the request. -/
def route : Implementation Content
  | _, [.request request] =>
    pure (.value (.string
      (request.method ++ " " ++ request.path ++ " " ++ (request.header "x-id").getD "-")))
  | _, _ => misfit

/-- Shows the path of the request and the status of the response. -/
def whole : Implementation Content
  | _, [.transport context] => do
    let status := (← get).responses.status context.response
    pure (.value (.string (context.request.path ++ " " ++ toString status)))
  | _, _ => misfit

/-- The response header that marks a rejected request. -/
def rejectedHeader : String := "x-rejected"

/-- Rejects the request with a status. -/
def reject : Implementation Content
  | _, [.passed (.u16 status), .response handle] => do
    modify fun state =>
      { state with
        responses :=
          (state.responses.setStatus handle status).setHeader handle rejectedHeader "1" }
    pure .done
  | _, _ => misfit

/-- Answers a property. -/
def echo : Implementation Content
  | _, [.property value] => pure (.value value)
  | _, _ => misfit

/-- Answers a property of bytes, if there is one. -/
def echoBytes : Implementation Content
  | _, [.optionalProperty (some (.bytes data))] => pure (.value (.optionBytes (some data)))
  | _, [.optionalProperty none] => pure (.value (.optionBytes none))
  | _, _ => misfit

/-- Answers the times of two clocks. -/
def stamps : Implementation Content
  | _, [.service first, .service second] => do
    pure (.value (.pair (← timeOf first) (← timeOf second)))
  | _, _ => misfit

/-- Answers the time of a clock, if there is one. -/
def maybeTime : Implementation Content
  | _, [.optionalService clock] => timeOf? clock
  | _, _ => misfit

/-- Answers the number of a journal and whether another one is the same. -/
def journal : Implementation Content
  | _, [.service first, .service second] => do
    let number := journalNumber (← get).container first
    pure (.value (.tagged (.ofNat number) (first = second)))
  | _, _ => misfit

/-- Mixes supplied and injected parameters. -/
def interleave : Implementation Content
  | _, [.passed (.i32 a), .property (.i32 bonus), .passed (.i32 b), .service clock,
      .passed (.i32 c), .optionalProperty note] => do
    let now ← timeOf clock
    let written :=
      match note with
      | some (.string text) => some (Text.quote text)
      | _ => none
    let shown := [toString a, toString bonus, toString now, Text.optional written]
    pure ⟨.string ("/".intercalate shown), [(1, .i32 (b * 2)), (2, .i32 (c + (a + bonus)))]⟩
  | _, _ => misfit

/-- Answers the session of the call. -/
def session : Implementation Content := fun _ _ => do
  pure (.value (.optionString ((← get).current.bind (·.session))))

/-- Answers a text. -/
def plain : Implementation Content
  | _, [.passed text] => pure (.value text)
  | _, _ => misfit

/-- The operation that a wrapper around an implementation serves. -/
def wrapped (declaration : OperationDeclaration) (parameters : List (WrapperParameter TargetType))
    (implementation : Implementation Content) : OperationDeclaration × Method Content :=
  let wrapper : Wrapper Content := ⟨⟨parameters, declaration.isAsync⟩, .own, implementation⟩
  (declaration, wrapper.method)

/-- The operations in declared order. -/
def operations : List (OperationDeclaration × Method Content) :=
  [wrapped ⟨"greet", [("name", .string, .input)], false, true, true⟩
      [given "name" .string, service "clock" clockType none false] greet,
   wrapped ⟨"route", [], false, true, true⟩
      [transport "request" .request "TransportRequest"] route,
   wrapped ⟨"whole", [], false, true, true⟩
      [transport "context" .context "TransportContext"] whole,
   wrapped ⟨"reject", [("status", .u16, .input)], false, false, true⟩
      [given "status" .u16, transport "response" .response "TransportResponse"] reject,
   wrapped ⟨"partition", [], false, true, false⟩
      [property "key" Properties.partitionKeyName .bytes true] echoBytes,
   wrapped ⟨"tenant", [], true, true, false⟩ [property "tenant" "tenant" .string false] echo,
   wrapped ⟨"stamps", [], false, true, true⟩
      [service "local" clockType none false, service "utc" clockType "utc" false] stamps,
   wrapped ⟨"martian", [], false, true, true⟩ [service "clock" clockType "mars" true] maybeTime,
   wrapped ⟨"local", [], false, true, true⟩ [service "clock" clockType none true] maybeTime,
   wrapped ⟨"journal", [], true, true, true⟩
      [service "first" journalType none false, service "second" journalType none false] journal,
   wrapped
      ⟨"interleave", [("a", .i32, .input), ("b", .i32, .inout), ("c", .i32, .output)],
        false, true, true⟩
      [given "a" .i32, property "bonus" "bonus" .i32 false, given "b" .i32,
        service "clock" clockType "utc" false, given "c" .i32,
        property "note" "note" .string true] interleave,
   wrapped ⟨"session", [], false, true, false⟩ [] session,
   wrapped ⟨"plain", [("text", .string, .input)], false, true, false⟩ [given "text" .string] plain]

/-- The contract. -/
def contract : ServedContract Content :=
  .ofOperations "inject::Greeter" "dyn driver::fixtures::Greeter" operations

end ServiceDispatch.Sample.Greeter
