import ServiceDispatch.AdapterPlan
import ServiceDispatch.CanonicalKey
import ServiceDispatch.Generate.Argument
import ServiceDispatch.Generate.Diagnostic
import ServiceDispatch.SignatureData

/-!
# Contract analysis

Turns a trait into one operation per method that can be served, and one diagnostic per problem. A
contract without a namespace is declared by its module, whose path only a compiler knows; analysis
names that module `self`.
-/

namespace ServiceDispatch.Generate

open Source

/-- The marker of output-only parameters. -/
def outMarker : String := "out"

/-- Reads one argument of a contract: its namespace. -/
def namespaceArgument (path : NamePath) : ArgumentReader String := fun trees =>
  if path.isName "namespace" then do
    let (found, rest) ← stringArgument trees
    .ok (found.value, rest)
  else .error .unknownContractArgument

/-- The namespace among the arguments of a contract; the last one counts. -/
def contractNamespace (trees : List Tree) : Except ArgumentFault (Option String) := do
  let found ← arguments namespaceArgument trees
  .ok found.getLast?

/-- One parameter of an operation. -/
structure ContractParameter where
  /-- Its identifier. -/
  name : Name
  /-- Its value type, without the reference of an output. -/
  type : Ty
  /-- Its direction. -/
  direction : Direction

/-- One operation that can be served. -/
structure ContractOperation where
  /-- Its method's identifier. -/
  name : Name
  /-- Whether it is asynchronous. -/
  isAsync : Bool
  /-- Its parameters in declared order, the receiver excepted. -/
  parameters : List ContractParameter
  /-- What its return means. -/
  returns : ReturnSpec
  /-- Its signature. -/
  signature : Signature

namespace ContractOperation

/-- The key of an operation. -/
def key (operation : ContractOperation) : CanonicalKey := operation.signature.key

/-- How an adapter calls the operation. -/
def adapterPlan (operation : ContractOperation) : AdapterPlan Ty where
  slots := operation.signature.inputCount
  bindings := Binding.ofParameters 0
    (operation.parameters.map fun parameter => (parameter.type, parameter.direction))
  awaits := operation.isAsync
  surfaces := operation.returns.fallible
  returnsValue := operation.returns.hasValue

/-- An operation as data. -/
def toDatum (operation : ContractOperation) : Datum :=
  .table
    [("ident", .text operation.name.text), ("async", .flag operation.isAsync),
     ("params", .list (operation.parameters.map fun parameter =>
        .table
          [("ident", .text parameter.name.text), ("type", .text parameter.type.typeName),
           ("direction", .text parameter.direction.name)])),
     ("ret", operation.returns.toDatum), ("shape", .text operation.signature.shape.name),
     ("signature", operation.signature.description), ("key", .text operation.key.text)]

end ContractOperation

/-- The value type and the direction of a parameter, by its declared type and whether it is marked
as an output. -/
def valueAndDirection (isOut : Bool) (declared : Ty) : Except Diagnostic (Ty × Direction) :=
  match declared.ungroup with
  | .reference _ true target => .ok (target, if isOut then .output else .inout)
  | .reference lead false target =>
    let span := (Ty.reference lead false target).span
    .error <|
      if isOut then ⟨.invalidOut, "`#[out]` requires a `&mut T` parameter", span⟩
      else
        ⟨.sharedReference,
          "operation inputs are owned values; take `T` or `&mut T` instead of `&T`", span⟩
  | .implTrait lexemes =>
    .error ⟨.genericOperation, "`impl Trait` parameters are not supported in operations",
      Lexeme.spanOf lexemes⟩
  | type =>
    if isOut then .error ⟨.invalidOut, "`#[out]` requires a `&mut T` parameter", type.span⟩
    else .ok (type, .input)

/-- The identifier of a parameter, if its pattern is a plain one. -/
def plainName (pattern : Pattern) : Except Diagnostic Name :=
  match pattern with
  | .name _ name => .ok name
  | .other lexemes =>
    .error ⟨.invalidPattern, "operation parameters must be plain identifiers",
      Lexeme.spanOf lexemes⟩

/-- Analyses one parameter of a contract method. -/
def analyzeParameter (input : TypedInput) : Except Diagnostic ContractParameter := do
  let name ← plainName input.pattern
  let isOut := input.attributes.any (Attribute.isMarker outMarker)
  let (type, direction) ← valueAndDirection isOut input.type
  .ok ⟨name, type, direction⟩

/-- The results of some analyses, and the problems of the others. -/
def partition {ε α : Type} (results : List (Except ε α)) : List ε × List α :=
  (results.filterMap fun result => match result with | .error e => some e | .ok _ => none,
    results.filterMap fun result => match result with | .error _ => none | .ok a => some a)

/-- The problem with the receiver of a method, if there is one. -/
def receiverFaults (head : MethodHead) : List Diagnostic :=
  if head.takesShared then []
  else
    [⟨.invalidReceiver, "operation `" ++ head.name.text ++ "` must take `&self`", head.span⟩]

/-- The problem with the generic parameters of a method, if there is one. -/
def genericFaults (head : MethodHead) : List Diagnostic :=
  if head.generics.isGeneric then
    [⟨.genericOperation, "operation `" ++ head.name.text ++ "` must not be generic",
      Lexeme.spanOf head.generics.lexemes⟩]
  else []

/-- The parameters of a signature. -/
def signatureParameters (parameters : List ContractParameter) : List Parameter :=
  parameters.mapIdx fun position parameter =>
    ⟨parameter.name.plain, parameter.type.typeName, parameter.direction, position⟩

/-- The operation of a method with the given parameters. -/
def operationOf (declaringType : String) (head : MethodHead)
    (parameters : List ContractParameter) : ContractOperation :=
  let returns := ReturnSpec.ofOutput head.output
  { name := head.name
    isAsync := head.isAsync
    parameters
    returns
    signature :=
      { declaringType
        method := head.name.plain
        parameters := signatureParameters parameters
        shape := ReturnShape.classify head.isAsync returns.hasValue } }

/-- Analyses a contract method: its operation, or all its problems. -/
def analyzeOperation (declaringType : String) (head : MethodHead) :
    Except (List Diagnostic) ContractOperation :=
  let (faults, parameters) := partition (head.typedInputs.map analyzeParameter)
  let faults := receiverFaults head ++ genericFaults head ++ faults
  if faults.isEmpty then .ok (operationOf declaringType head parameters) else .error faults

/-- What an item, or several, add to a contract. -/
structure Contribution (α : Type) where
  /-- Operations in order. -/
  operations : List α
  /-- Problems in order. -/
  diagnostics : List Diagnostic

namespace Contribution

variable {α : Type}

/-- Nothing. -/
def empty : Contribution α := ⟨[], []⟩

/-- One contribution after another. -/
def append (first second : Contribution α) : Contribution α :=
  ⟨first.operations ++ second.operations, first.diagnostics ++ second.diagnostics⟩

/-- The contribution of an analysis. -/
def ofResult : Except (List Diagnostic) α → Contribution α
  | .ok operation => ⟨[operation], []⟩
  | .error faults => ⟨[], faults⟩

/-- What each of some items adds, in order. -/
def ofItems {ι : Type} (contribution : ι → Contribution α) (items : List ι) : Contribution α :=
  items.foldr (fun item rest => (contribution item).append rest) empty

end Contribution

/-- What an item of a contract adds. Methods of a contract that cannot be described add nothing. -/
def contractContribution (supported : Bool) (declaringType : String) :
    TraitItem → Contribution ContractOperation
  | .method method =>
    if supported then .ofResult (analyzeOperation declaringType method.head) else .empty
  | .declaration lexemes =>
    ⟨[], [⟨.unsupportedItem, "service contracts may only declare methods",
      Lexeme.spanOf lexemes⟩]⟩
  | .uninterpreted _ => .empty

/-- An analysed contract. -/
structure Contract where
  /-- The trait's identifier. -/
  name : Name
  /-- Its explicit namespace. -/
  givenNamespace : Option String
  /-- Its full name. -/
  declaringType : String
  /-- Its operations in declared order. -/
  operations : List ContractOperation
  /-- Whether any of its methods is asynchronous. -/
  hasAsync : Bool
  /-- Whether it can be described at all. -/
  supported : Bool
  /-- Problems found; offending methods have no operation. -/
  diagnostics : List Diagnostic

/-- The namespace that stands for the module of a contract. -/
def moduleNamespace : String := "self"

/-- The full name of a contract. -/
def declaringType (givenNamespace : Option String) (name : Name) : String :=
  givenNamespace.getD moduleNamespace ++ "::" ++ name.plain

/-- The problem of a generic contract. -/
def contractFaults (decl : TraitDecl) : List Diagnostic :=
  if decl.generics.isGeneric then
    [⟨.genericOperation, "service contract `" ++ decl.name.text ++ "` must not be generic",
      Lexeme.spanOf decl.generics.lexemes⟩]
  else []

/-- Analyses a trait as a contract declared in a namespace or in its module. -/
def analyzeContract (decl : TraitDecl) (givenNamespace : Option String) : Contract :=
  let declaring := declaringType givenNamespace decl.name
  let supported := !decl.generics.isGeneric
  let found := Contribution.ofItems (contractContribution supported declaring) decl.items
  { name := decl.name
    givenNamespace
    declaringType := declaring
    operations := found.operations
    hasAsync := decl.hasAsync
    supported
    diagnostics := contractFaults decl ++ found.diagnostics }

end ServiceDispatch.Generate
