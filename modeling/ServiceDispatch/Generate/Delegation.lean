import ServiceDispatch.Generate.Contract
import ServiceDispatch.WrapperPlan

/-!
# Analysis of implementations

Marked methods of an implementation block serve the contract methods of the same names. Parameters
marked for injection leave the visible signature and are resolved for each call; each gets a binding
rule or a diagnostic.
-/

namespace ServiceDispatch.Generate

open Source

/-- The marker of methods that serve a contract. -/
def operationMarker : String := "operation"

/-- The marker of injected parameters. -/
def injectMarker : String := "inject"

/-- Attributes that a wrapper takes over from its method. -/
def forwardedMarkers : List String := ["cfg", "allow", "deny", "warn", "doc"]

/-- One argument of an injection. -/
inductive InjectArgument where
  /-- The key of a service. -/
  | key (text : StringArgument)
  /-- The name of a message property. -/
  | property (text : StringArgument)
  /-- An argument of any other name. -/
  | unknown (path : NamePath)
  deriving DecidableEq, Repr

/-- Reads one argument of an injection. -/
def injectArgument (path : NamePath) : ArgumentReader InjectArgument := fun trees =>
  if path.isName "key" then do
    let (text, rest) ← stringArgument trees
    .ok (.key text, rest)
  else if path.isName "property" then do
    let (text, rest) ← stringArgument trees
    .ok (.property text, rest)
  else do
    let (_, rest) ← skipValue trees
    .ok (.unknown path, rest)

/-- Reads the arguments of the attribute of an injection. -/
def injectArguments (attr : Attribute) : Except ArgumentFault (List InjectArgument) :=
  match attr.arguments with
  | .absent => .ok []
  | .assigned _ => .error .missingParentheses
  | .list _ trees _ => arguments injectArgument trees

/-- The last key among some arguments. -/
def keyOf? (found : List InjectArgument) : Option StringArgument :=
  (found.filterMap fun argument =>
    match argument with
    | .key text => some text
    | _ => none).getLast?

/-- The last property name among some arguments. -/
def propertyOf? (found : List InjectArgument) : Option StringArgument :=
  (found.filterMap fun argument =>
    match argument with
    | .property text => some text
    | _ => none).getLast?

/-- The unknown ones among some arguments. -/
def unknownOf (found : List InjectArgument) : List NamePath :=
  found.filterMap fun argument =>
    match argument with
    | .unknown path => some path
    | _ => none

/-- The part of the transport state that a type asks for. -/
def transportPart? (type : Ty) : Option TransportPart :=
  match type.lastName? with
  | some "TransportContext" => some .context
  | some "TransportRequest" => some .request
  | some "TransportResponse" => some .response
  | _ => none

/-- The inner type of an optional type, or the type itself, and whether it is optional. -/
def optionalTarget (type : Ty) : Ty × Bool :=
  match type.unwrap? "Option" with
  | some inner => (inner, true)
  | none => (type, false)

/-- The problem with an argument that is not known. -/
def unknownFault (path : NamePath) : Diagnostic :=
  ⟨.unknownInjectArgument,
    "unknown inject argument `" ++ path.display ++ "`; expected `key` or `property`",
    Lexeme.spanOf path.lexemes⟩

/-- The binding to a message property. -/
def bindProperty (name : Name) (type : Ty) (property : StringArgument) :
    Except (List Diagnostic) (Injected Ty) :=
  if Text.isBlankText property.value then
    .error [⟨.emptyPropertyName,
      "message property name of `" ++ name.text ++ "` must not be empty", property.span⟩]
  else
    let (target, isOptional) := optionalTarget type
    .ok ⟨.messageProperty property.value target.typeName, target, isOptional⟩

/-- The binding to a service of the container. -/
def bindService (name : Name) (type : Ty) (key? : Option StringArgument) :
    Except (List Diagnostic) (Injected Ty) :=
  let (shared, isOptional) := optionalTarget type
  match shared.unwrap? "Arc" with
  | some target =>
    let plan :=
      match key? with
      | some key => .keyedService key.value
      | none => .defaultService
    .ok ⟨plan, target, isOptional⟩
  | none =>
    .error [⟨.unsupportedServiceType,
      "injected service `" ++ name.text ++ "` must be `Arc<T>` or `Option<Arc<T>>`", type.span⟩]

/-- The binding rule of a parameter by its type and the arguments of its injection. -/
def bindInjection (name : Name) (type : Ty) (found : List InjectArgument) :
    Except (List Diagnostic) (Injected Ty) :=
  match propertyOf? found, keyOf? found with
  | some _, some key =>
    .error [⟨.conflictingBinding,
      "parameter `" ++ name.text ++ "` specifies both a message property and a service key",
      key.span⟩]
  | property?, key? =>
    if !(unknownOf found).isEmpty then .error ((unknownOf found).map unknownFault)
    else
      match property?, key?, transportPart? type with
      | some property, _, _ => bindProperty name type property
      | none, none, some part => .ok ⟨.transport part, type, false⟩
      | none, key?, _ => bindService name type key?

/-- The binding rule of a parameter that carries the attribute of an injection. -/
def planInjection (name : Name) (type : Ty) (attr : Attribute) :
    Except (List Diagnostic) (Injected Ty) :=
  match injectArguments attr with
  | .error fault => .error [⟨.invalidAttribute, fault.message, .nowhere⟩]
  | .ok found => bindInjection name type found

/-- A method that serves a contract method. -/
structure Delegation where
  /-- Its identifier. -/
  name : Name
  /-- Its parameters and how it is called. -/
  plan : WrapperPlan Ty
  /-- The signature that the contract sees. -/
  wrapper : MethodHead
  /-- The attributes that its wrapper takes over. -/
  attributes : List Attribute

/-- Analyses one parameter of an implementation method. -/
def analyzeInjection (input : TypedInput) :
    Except (List Diagnostic) (Name × WrapperParameter Ty) :=
  match plainName input.pattern with
  | .error fault => .error [fault]
  | .ok name =>
    match input.attributes.find? (Attribute.isMarker injectMarker) with
    | none => .ok (name, ⟨name.text, input.type, .caller⟩)
    | some attr =>
      match planInjection name input.type attr with
      | .error faults => .error faults
      | .ok injected => .ok (name, ⟨name.text, input.type, .injected injected⟩)

/-- A parameter of the wrapper: without attributes and modifiers. -/
def wrapperInput (parameter : Name × WrapperParameter Ty) : Input :=
  .typed ⟨[], .name false parameter.1, parameter.2.type⟩

/-- The signature that the contract sees: the receiver, then the parameters that are not injected.
-/
def wrapperHead (head : MethodHead) (parameters : List (Name × WrapperParameter Ty)) :
    MethodHead :=
  head.withInputs
    (head.inputs.filter Grammar.isReceiver ++
      (parameters.filter fun parameter => parameter.2.isContract).map wrapperInput)

/-- Where the return of a method is declared; its name stands for one that is not. -/
def returnSpan (head : MethodHead) : Span :=
  match head.output with
  | none => head.name.span
  | some type => type.span

/-- The problem of a method whose bindings can fail while its return cannot say so. -/
def infallibleFault (head : MethodHead) : Diagnostic :=
  ⟨.infallibleReturn,
    "operation `" ++ head.name.text ++ "` injects bindings that can fail; it must return " ++
      "`Result<_, E>` with `E: From<opbind::Error>`",
    returnSpan head⟩

/-- Analyses a marked method: its delegation, or its problems. -/
def analyzeMethod (method : MethodItem) : Except (List Diagnostic) Delegation :=
  let head := method.head
  let (faults, parameters) := partition (head.typedInputs.map analyzeInjection)
  let faults := receiverFaults head ++ faults.flatten
  let plan : WrapperPlan Ty := ⟨parameters.map Prod.snd, head.isAsync⟩
  if !faults.isEmpty then .error faults
  else if plan.isFallible && !returnsResult head.output then .error [infallibleFault head]
  else
    .ok
      { name := head.name
        plan
        wrapper := wrapperHead head parameters
        attributes := method.attributes.filter fun attr =>
          forwardedMarkers.any fun marker => attr.isMarker marker }

/-- What an item of an implementation block adds. Only marked methods add anything. -/
def implContribution : ImplItem → Contribution Delegation
  | .method method =>
    if method.attributes.any (Attribute.isMarker operationMarker) then
      .ofResult (analyzeMethod method)
    else .empty
  | .other _ => .empty

/-- Analyses an implementation block. A block that implements a trait serves nothing, since the
trait implementation is what is generated. -/
def analyzeImpl (block : ImplBlock) : Contribution Delegation :=
  match block.traitPart with
  | some lexemes =>
    ⟨[], [⟨.invalidAttribute,
      "service_impl expects an inherent impl block; the contract impl is generated",
      Lexeme.spanOf lexemes⟩]⟩
  | none => .ofItems implContribution block.items

end ServiceDispatch.Generate
