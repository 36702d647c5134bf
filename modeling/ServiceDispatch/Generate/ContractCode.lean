import ServiceDispatch.Generate.Code

/-!
# Code for a contract

The trait itself, the table of its operations, and for each operation its signature, its adapter and
the entry that links the adapter. The body of an adapter is straight-line code: bind the parameters,
call the method, collect the outputs.
-/

namespace ServiceDispatch.Generate

open Source Code

/-- The path of a direction. -/
def directionCode : Direction → Code
  | .input => facade ["ParameterDirection", "In"]
  | .output => facade ["ParameterDirection", "Out"]
  | .inout => facade ["ParameterDirection", "InOut"]

/-- The path of a return shape. -/
def shapeCode : ReturnShape → Code
  | .void => facade ["ReturnShape", "Void"]
  | .value => facade ["ReturnShape", "Value"]
  | .asyncVoid => facade ["ReturnShape", "AsyncVoid"]
  | .asyncValue => facade ["ReturnShape", "AsyncValue"]

/-- The full name of a contract: a literal, or built from the path of its module. -/
def declaringCode (contract : Contract) : Code :=
  match contract.givenNamespace with
  | some _ => text contract.declaringType
  | none =>
    path ["core", "concat"] ++ mark "!" ++
      parens (commas
        [path ["core", "module_path"] ++ mark "!" ++ parens [], text "::",
          text contract.name.plain])

/-- The description of one parameter. -/
def parameterCode (parameter : Parameter) : Code :=
  facade ["ParameterDescriptor", "new_static"] ++
    parens (commas
      [text parameter.name, text parameter.typeName, directionCode parameter.direction,
        count parameter.position])

/-- The type of an array of a given length. -/
def arrayType (item : Code) (length : Nat) : Code := brackets (item ++ mark ";" ++ count length)

/-- The statics that hold the signature of an operation. -/
def signatureCode (contract : Contract) (operation : ContractOperation) : Code :=
  let signature := operation.signature
  let params := staticName "PARAMS" contract.name operation.name
  undocumented ++
    static params
      (arrayType (facade ["ParameterDescriptor"]) signature.parameters.length)
      (brackets (commas (signature.parameters.map parameterCode))) ++
    undocumented ++
    static (staticName "SIG" contract.name operation.name) (facade ["OperationSignature"])
      (facade ["OperationSignature", "new_static"] ++
        parens (commas
          [declaringCode contract, text signature.method, mark "&" ++ word params,
            shapeCode signature.shape]))

/-- A reference to the signature of an operation. -/
def signatureRef (contract : Contract) (operation : ContractOperation) : Code :=
  mark "&" ++ word (staticName "SIG" contract.name operation.name)

/-- The table of operations and the implementation that hands it out. -/
def tableCode (contract : Contract) : Code :=
  let table := tableName contract.name
  let signature := facade ["OperationSignature"]
  undocumented ++
    static table (arrayType (mark "&" ++ signature) contract.operations.length)
      (brackets (commas (contract.operations.map (signatureRef contract)))) ++
    word "impl" ++ facade ["ServiceContract"] ++ words ["for", "dyn", contract.name.text] ++
    braces
      (words ["const", "NAME"] ++ mark ":" ++ staticRef (word "str") ++ mark "=" ++
        declaringCode contract ++ mark ";" ++
        words ["fn", "operations"] ++ parens [] ++ mark "->" ++
        staticRef (brackets (staticRef signature)) ++ braces (mark "&" ++ word table))

/-- The variable of a parameter. -/
def variableName (index : Nat) : String := "__opbind_arg" ++ index.repr

/-- The statement that binds a parameter. -/
def bindingCode (index : Nat) (binding : Binding Ty) : Code :=
  let type := binding.type.tokens
  let value :=
    match binding.source with
    | .slot slot =>
      word "inputs" ++ mark "." ++ word "take" ++ turbofish type ++ parens (count slot) ++ mark "?"
    | .initial =>
      mark "<" ++ type ++ word "as" ++ path ["core", "default", "Default"] ++ mark ">" ++
        mark "::" ++ word "default" ++ parens []
  word "let" ++ (if binding.direction.flowsOut then word "mut" else []) ++
    word (variableName index) ++ mark ":" ++ type ++ mark "=" ++ value ++ mark ";"

/-- The argument that passes a parameter to the method. -/
def argumentCode (index : Nat) (binding : Binding Ty) : Code :=
  (if binding.direction.flowsOut then mark "&" ++ word "mut" else []) ++
    word (variableName index)

/-- The outputs that a parameter adds to the outcome. -/
def outputCode (index : Nat) (binding : Binding Ty) : List Code :=
  if binding.direction.flowsOut then
    [boxed (word (variableName index)) ++ word "as" ++ facade ["Value"]]
  else []

/-- The call of the method, awaited and surfaced as the plan says. -/
def callCode (method : Name) (plan : AdapterPlan Ty) : Code :=
  word "__opbind_service" ++ mark "." ++ word method.text ++
    parens (commas (plan.bindings.mapIdx argumentCode)) ++
    (if plan.awaits then mark "." ++ word "await" else []) ++
    (if plan.surfaces then
      mark "." ++ word "map_err" ++ parens (facade ["Error", "operation"]) ++ mark "?"
    else [])

/-- The statement that calls the method and keeps its value. -/
def callStatement (method : Name) (plan : AdapterPlan Ty) : Code :=
  (if plan.returnsValue then words ["let", "__opbind_return"] ++ mark "=" else []) ++
    callCode method plan ++ mark ";"

/-- The return value of the outcome. -/
def returnCode (plan : AdapterPlan Ty) : Code :=
  let option := ["core", "option", "Option"]
  if plan.returnsValue then
    path (option ++ ["Some"]) ++
      parens (boxed (word "__opbind_return") ++ word "as" ++ facade ["Value"])
  else path (option ++ ["None"])

/-- The list of the outputs of the outcome. -/
def outputsCode (plan : AdapterPlan Ty) : Code :=
  let outputs := (plan.bindings.mapIdx outputCode).flatten
  if outputs.isEmpty then path ["std", "vec", "Vec", "new"] ++ parens []
  else path ["std", "vec"] ++ mark "!" ++ brackets (commas outputs)

/-- The body of an adapter after it has found its instance. -/
def invokeCode (method : Name) (plan : AdapterPlan Ty) : Code :=
  (plan.bindings.mapIdx bindingCode).flatten ++ callStatement method plan ++
    path ["core", "result", "Result", "Ok"] ++
    parens (facade ["InvocationOutcome", "new"] ++
      parens (commas [returnCode plan, outputsCode plan]))

/-- The allocation of the input slots of an adapter. -/
def allocationCode (plan : AdapterPlan Ty) : Code :=
  if plan.slots = 0 then facade ["InputBuffer", "empty"] ++ parens []
  else facade ["InputBuffer", "with_len"] ++ parens (count plan.slots)

/-- The parameter of an adapter that holds the input slots. -/
def inputsPattern (plan : AdapterPlan Ty) : Code :=
  if plan.slots = 0 then word "_inputs" else words ["mut", "inputs"]

/-- The adapter of an operation. -/
def adapterCode (contract : Contract) (operation : ContractOperation) : Code :=
  let plan := operation.adapterPlan
  let adapter := adapterName contract.name operation.name
  undocumented ++ allowing "non_camel_case_types" ++ words ["struct", adapter] ++ mark ";" ++
    asyncTrait ++ word "impl" ++ facade ["InvocationAdapter"] ++ words ["for", adapter] ++
    braces
      (words ["fn", "signature"] ++ parens sharedSelf ++ mark "->" ++
        staticRef (facade ["OperationSignature"]) ++ braces (signatureRef contract operation) ++
        words ["fn", "allocate_inputs"] ++ parens sharedSelf ++ mark "->" ++
        facade ["InputBuffer"] ++ braces (allocationCode plan) ++
        words ["async", "fn", "invoke"] ++
        parens
          (sharedSelf ++ mark "," ++
            word "instance" ++ mark ":" ++ mark "&" ++ facade ["ServiceInstance"] ++ mark "," ++
            inputsPattern plan ++ mark ":" ++ facade ["InputBuffer"] ++ mark ",") ++
        mark "->" ++ facade ["Result"] ++ mark "<" ++ facade ["InvocationOutcome"] ++ mark ">" ++
        braces
          (words ["let", "__opbind_service"] ++ mark "=" ++
            word "instance" ++ mark "." ++ word "contract" ++
            turbofish (words ["dyn", contract.name.text]) ++ parens [] ++ mark "?" ++ mark ";" ++
            invokeCode operation.name plan))

/-- The factory of an adapter and the entry that links both to the operation's signature. -/
def entryCode (contract : Contract) (operation : ContractOperation) : Code :=
  let adapter := adapterName contract.name operation.name
  let factory := factoryName contract.name operation.name
  let shared := ["std", "sync", "Arc"]
  undocumented ++ allowing "non_snake_case" ++ words ["fn", factory] ++ parens [] ++ mark "->" ++
    path shared ++ mark "<" ++ word "dyn" ++ facade ["InvocationAdapter"] ++ mark ">" ++
    braces (path (shared ++ ["new"]) ++ parens (word adapter)) ++
    attributed
      (facade ["linkme", "distributed_slice"] ++ parens (facade ["INVOCATION_ADAPTERS"])) ++
    attributed (word "linkme" ++ parens (word "crate" ++ mark "=" ++ facade ["linkme"])) ++
    undocumented ++
    static (staticName "ENTRY" contract.name operation.name) (facade ["InvocationAdapterEntry"])
      (facade ["InvocationAdapterEntry"] ++
        braces
          (word "signature" ++ mark ":" ++ signatureRef contract operation ++ mark "," ++
            word "factory" ++ mark ":" ++ word factory ++ mark ","))

/-- Everything that is generated for an operation. -/
def operationCode (contract : Contract) (operation : ContractOperation) : Code :=
  signatureCode contract operation ++ adapterCode contract operation ++
    entryCode contract operation

/-- A contract trait with everything that is generated for it. -/
def contractCode (decl : TraitDecl) (contract : Contract) : Code :=
  Lexeme.tokens (prepareTrait decl contract.hasAsync).lexemes ++
    (if contract.supported then
      tableCode contract ++ contract.operations.flatMap (operationCode contract)
    else []) ++
    diagnostics contract.diagnostics

end ServiceDispatch.Generate
