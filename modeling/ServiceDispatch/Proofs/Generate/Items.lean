import ServiceDispatch.Proofs.Generate.Balance

/-!
# The items of a generated contract

What the items of a generated contract say about it, and a reader for each of them. A reader looks
at the tokens alone: names, texts and sizes are what stands there, and types other than the ones
that the library declares are passed over.
-/

namespace ServiceDispatch.Generate

open Source Code

/-- The full name of a contract as an item spells it. -/
inductive Declaring where
  /-- A text. -/
  | literal (text : String)
  /-- The path of the module that the item stands in, and a text after it. -/
  | inModule (tail : String)
  deriving DecidableEq, Repr

/-- The full name of a contract whose items stand in a module. -/
def Declaring.value (modulePath : String) : Declaring → String
  | literal text => text
  | inModule tail => modulePath ++ tail

/-- The static that holds the parameters of an operation. -/
structure ParametersItem where
  /-- Its name. -/
  name : String
  /-- The length of its type. -/
  length : Nat
  /-- The parameters. -/
  rows : List Parameter
  deriving DecidableEq, Repr

/-- The static that holds the signature of an operation. -/
structure SignatureItem where
  /-- Its name. -/
  name : String
  /-- The full name of the contract. -/
  declaring : Declaring
  /-- The operation's name. -/
  method : String
  /-- The name of the static with the parameters. -/
  parameters : String
  /-- The return shape. -/
  shape : ReturnShape
  deriving DecidableEq, Repr

/-- The table of the operations of a contract, and the implementation that hands it out. -/
structure TableItem where
  /-- Its name. -/
  name : String
  /-- The length of its type. -/
  length : Nat
  /-- The names of the statics with the signatures. -/
  rows : List String
  /-- The trait that the implementation is for. -/
  contract : String
  /-- The full name of the contract. -/
  declaring : Declaring
  /-- The name of the table that is handed out. -/
  table : String
  deriving DecidableEq, Repr

/-- The adapter type of an operation and its implementation. -/
structure AdapterItem where
  /-- Its name. -/
  name : String
  /-- The type that the implementation is for. -/
  target : String
  /-- The name of the static with the signature that the adapter answers. -/
  signature : String
  deriving DecidableEq, Repr

/-- The function that makes an adapter. -/
structure FactoryItem where
  /-- Its name. -/
  name : String
  /-- The adapter that it makes. -/
  adapter : String
  deriving DecidableEq, Repr

/-- The entry that registers an operation. -/
structure EntryItem where
  /-- Its name. -/
  name : String
  /-- The name of the static with the signature. -/
  signature : String
  /-- The name of the factory. -/
  factory : String
  deriving DecidableEq, Repr

/-- The items of one operation. -/
structure OperationItems where
  /-- Its parameters. -/
  parameters : ParametersItem
  /-- Its signature. -/
  signature : SignatureItem
  /-- Its adapter. -/
  adapter : AdapterItem
  /-- The factory of its adapter. -/
  factory : FactoryItem
  /-- Its entry. -/
  entry : EntryItem
  deriving DecidableEq, Repr

/-- The items of a contract. -/
structure ContractItems where
  /-- The table of its operations. -/
  table : TableItem
  /-- The items of its operations in the order in which they stand. -/
  operations : List OperationItems
  deriving DecidableEq, Repr

namespace Reader

/-- Reads a word that stands for something. -/
def named {α : Type} (meaning : String → Option α) : Reader α := token fun
  | .word text => meaning text
  | _ => none

/-- Reads a reference to a static, by the name of the static. -/
def reference : Reader String := do
  expect (mark "&")
  word

/-- Reads the path of the module with two texts after it. -/
def inModule : Reader Declaring := do
  expect (path ["core", "concat"] ++ mark "!")
  enclosed .parenthesis do
    expect (path ["core", "module_path"] ++ mark "!" ++ parens [] ++ mark ",")
    let separator ← text
    expect (mark ",")
    let name ← text
    return .inModule (separator ++ name)

/-- Reads the full name of a contract. -/
def declaring : Reader Declaring :=
  choice (path ["core", "concat"]) inModule (do return .literal (← text))

/-- Reads the description of a parameter. -/
def parameter : Reader Parameter := do
  expect (facade ["ParameterDescriptor", "new_static"])
  enclosed .parenthesis do
    let name ← text
    expect (mark ",")
    let typeName ← text
    expect (mark "," ++ facade ["ParameterDirection"] ++ mark "::")
    let direction ← named Direction.ofName?
    expect (mark ",")
    let position ← size
    return ⟨name, typeName, direction, position⟩

/-- Reads the type of an array, by its length. -/
def arrayOf (item : Code) : Reader Nat :=
  enclosed .bracket do
    expect (item ++ mark ";")
    size

/-- Reads a static: its name, its type and its value. -/
def static {α β : Type} (type : Reader α) (value : Reader β) : Reader (String × α × β) := do
  expect (Code.word "static")
  let name ← word
  expect (mark ":")
  let found ← type
  expect (mark "=")
  let held ← value
  expect (mark ";")
  return (name, found, held)

/-- Reads the static that holds the parameters of an operation. -/
def parameters : Reader ParametersItem := do
  expect undocumented
  let found ← static (arrayOf (facade ["ParameterDescriptor"])) (list parameter)
  return ⟨found.1, found.2.1, found.2.2⟩

/-- Reads the value of the static with a signature, whose name is known. -/
def signatureValue : Reader (String → SignatureItem) := do
  expect (facade ["OperationSignature", "new_static"])
  enclosed .parenthesis do
    let contract ← declaring
    expect (mark ",")
    let method ← text
    expect (mark ",")
    let parameters ← reference
    expect (mark "," ++ facade ["ReturnShape"] ++ mark "::")
    let shape ← named ReturnShape.ofName?
    return fun name => ⟨name, contract, method, parameters, shape⟩

/-- Reads the static that holds the signature of an operation. -/
def signature : Reader SignatureItem := do
  expect undocumented
  let found ← static (expect (facade ["OperationSignature"])) signatureValue
  return found.2.2 found.1

/-- Reads the table of the operations of a contract and the implementation that hands it out. -/
def table : Reader TableItem := do
  expect undocumented
  let found ← static (arrayOf (mark "&" ++ facade ["OperationSignature"])) (list reference)
  expect (Code.word "impl" ++ facade ["ServiceContract"] ++ words ["for", "dyn"])
  let contract ← word
  enclosed .brace do
    expect (words ["const", "NAME"] ++ mark ":" ++ staticRef (Code.word "str") ++ mark "=")
    let spelled ← declaring
    expect (mark ";" ++ words ["fn", "operations"] ++ parens [] ++ mark "->" ++
      staticRef (brackets (staticRef (facade ["OperationSignature"]))))
    let handed ← enclosed .brace reference
    return ⟨found.1, found.2.1, found.2.2, contract, spelled, handed⟩

/-- Reads an adapter; of its implementation only the signature that it answers is looked at. -/
def adapter : Reader AdapterItem := do
  expect (undocumented ++ allowing "non_camel_case_types" ++ Code.word "struct")
  let name ← word
  expect (mark ";" ++ asyncTrait ++ Code.word "impl" ++ facade ["InvocationAdapter"] ++
    Code.word "for")
  let target ← word
  expect ([.opening .brace] ++ words ["fn", "signature"] ++ parens sharedSelf ++ mark "->" ++
    staticRef (facade ["OperationSignature"]))
  let signature ← enclosed .brace reference
  skip
  return ⟨name, target, signature⟩

/-- Reads the factory of an adapter. -/
def factory : Reader FactoryItem := do
  expect (undocumented ++ allowing "non_snake_case" ++ Code.word "fn")
  let name ← word
  expect (parens [] ++ mark "->" ++ path ["std", "sync", "Arc"] ++ mark "<" ++ Code.word "dyn" ++
    facade ["InvocationAdapter"] ++ mark ">")
  enclosed .brace do
    expect (path ["std", "sync", "Arc", "new"])
    let adapter ← enclosed .parenthesis word
    return ⟨name, adapter⟩

/-- Reads the value of an entry, whose static's name is known. -/
def entryValue : Reader (String → EntryItem) := do
  expect (facade ["InvocationAdapterEntry"])
  enclosed .brace do
    expect (Code.word "signature" ++ mark ":")
    let signature ← reference
    expect (mark "," ++ Code.word "factory" ++ mark ":")
    let factory ← word
    expect (mark ",")
    return fun name => ⟨name, signature, factory⟩

/-- Reads the entry that registers an operation. -/
def entry : Reader EntryItem := do
  expect (attributed
      (facade ["linkme", "distributed_slice"] ++ parens (facade ["INVOCATION_ADAPTERS"])) ++
    attributed (Code.word "linkme" ++
      parens (Code.word "crate" ++ mark "=" ++ facade ["linkme"])) ++
    undocumented)
  let found ← static (expect (facade ["InvocationAdapterEntry"])) entryValue
  return found.2.2 found.1

/-- Reads the items of one operation. -/
def operation : Reader OperationItems := do
  let parameters ← parameters
  let signature ← signature
  let adapter ← adapter
  let factory ← factory
  let entry ← entry
  return ⟨parameters, signature, adapter, factory, entry⟩

/-- Reads the items of operations as long as another item follows; the fuel bounds their number. -/
def operations : (fuel : Nat) → Reader (List OperationItems)
  | 0 => return []
  | fuel + 1 =>
    choice (mark "#")
      (do
        let first ← operation
        let others ← operations fuel
        return first :: others)
      (return [])

/-- Reads the items of a contract. -/
def contract : Reader ContractItems := do
  let table ← table
  let operations ← fun code => operations code.length code
  return ⟨table, operations⟩

end Reader

end ServiceDispatch.Generate
