import ServiceDispatch.Call.Adapter

/-!
# Served contracts

A contract at run time: its name, its type, and the adapters of its operations in declared order.
-/

namespace ServiceDispatch

/-- The adapters of a contract. -/
structure ServedContract (σ : Type) where
  /-- Name of the contract. -/
  name : String
  /-- Full name of its type. -/
  typeName : String
  /-- Its operations in declared order. -/
  adapters : List (Adapter σ)

namespace ServedContract

variable {σ : Type}

/-- The signatures of the operations. -/
def operations (contract : ServedContract σ) : List Signature :=
  contract.adapters.map (·.signature)

/-- The adapters under their keys, as they are linked into a program. -/
def entries (contract : ServedContract σ) : List (CanonicalKey × Adapter σ) :=
  contract.adapters.map fun adapter => (adapter.key, adapter)

end ServedContract

/-- An operation as its declaration describes it. -/
structure OperationDeclaration where
  /-- Its name. -/
  name : String
  /-- Its parameters: name, type and direction. -/
  parameters : List (String × ValueType × Direction)
  /-- Whether it is asynchronous. -/
  isAsync : Bool
  /-- Whether it returns a value. -/
  hasValue : Bool
  /-- Whether it can fail. -/
  isFallible : Bool

namespace OperationDeclaration

/-- The signature of an operation of a contract. -/
def signature (operation : OperationDeclaration) (contract : String) : Signature where
  declaringType := contract
  method := operation.name
  parameters := operation.parameters.mapIdx fun position parameter =>
    ⟨parameter.1, parameter.2.1.written, parameter.2.2, position⟩
  shape := .classify operation.isAsync operation.hasValue

/-- How the adapter of an operation calls it. -/
def adapterPlan (operation : OperationDeclaration) (signature : Signature) :
    AdapterPlan ValueType where
  slots := signature.inputCount
  bindings := Binding.ofParameters 0 (operation.parameters.map Prod.snd)
  awaits := operation.isAsync
  surfaces := operation.isFallible
  returnsValue := operation.hasValue

end OperationDeclaration

/-- The contract of operations with their methods. -/
def ServedContract.ofOperations {σ : Type} (name typeName : String)
    (operations : List (OperationDeclaration × Method σ)) : ServedContract σ where
  name := name
  typeName := typeName
  adapters := operations.map fun operation =>
    let signature := operation.1.signature name
    { signature
      contract := typeName
      plan := operation.1.adapterPlan signature
      method := operation.2 }

end ServiceDispatch
