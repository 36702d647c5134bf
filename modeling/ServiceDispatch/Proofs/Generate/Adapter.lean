import ServiceDispatch.Proofs.Generate.AdapterBody

/-!
# Generated adapters

For every operation that analysis accepts, the adapter that is generated for it moves every declared
parameter once, in its direction, and the body that is emitted for it does the same. The meaning of
types is left open, and so is the method.
-/

namespace ServiceDispatch.Generate

open Source

section

variable {σ : Type} {declaringType : String} {head : MethodHead} {operation : ContractOperation}

/-- Results without problems are all kept, in order. -/
theorem eq_map_ok_of_partition {ε α : Type} {results : List (Except ε α)}
    (clean : (partition results).1 = []) : results = (partition results).2.map .ok := by
  induction results with
  | nil => rfl
  | cons result rest ih =>
    cases result with
    | error problem => simp [partition] at clean
    | ok a =>
      have others := ih (by simpa [partition] using clean)
      have kept : (partition (.ok a :: rest)).2 = a :: (partition rest).2 := rfl
      rw [kept, List.map_cons, ← others]

/-- An operation is accepted only with all its parameters, in declared order. -/
theorem analyzeOperation_ok (accepted : analyzeOperation declaringType head = .ok operation) :
    ∃ parameters, head.typedInputs.map analyzeParameter = parameters.map .ok ∧
      operation = operationOf declaringType head parameters := by
  rw [analyzeOperation] at accepted
  dsimp only at accepted
  split at accepted
  · rename_i clean
    have nothing := List.isEmpty_iff.mp clean
    rw [List.append_eq_nil_iff] at nothing
    exact ⟨_, eq_map_ok_of_partition nothing.2, (Except.ok.inj accepted).symm⟩
  · cases accepted

namespace ContractOperation

/-- The types and directions of the parameters, given what types mean. -/
def typedParameters (operation : ContractOperation) (meaning : Ty → ValueType) :
    List (ValueType × Direction) :=
  operation.parameters.map fun parameter => (meaning parameter.type, parameter.direction)

/-- The adapter that is generated for an operation of a contract type, given what types mean and
what the method does. -/
def adapter (operation : ContractOperation) (meaning : Ty → ValueType) (contract : String)
    (method : Method σ) : Adapter σ where
  signature := operation.signature
  contract := contract
  plan := operation.adapterPlan.map meaning
  method := method

/-- What is generated for an operation does what the declaration of the operation asks for. -/
structure IsAdapted (operation : ContractOperation) (head : MethodHead) (meaning : Ty → ValueType)
    (adapter : Adapter σ) : Prop where
  /-- The parameters are those declared, in declared order. -/
  parameters : head.typedInputs.map analyzeParameter = operation.parameters.map .ok
  /-- The adapter moves each of them once, in its direction. -/
  moves : adapter.Moves (operation.typedParameters meaning)
  /-- The code that is emitted for it is a straight-line program, -/
  emitted : invokeCode operation.name operation.adapterPlan =
    (AdapterBody.ofPlan operation.adapterPlan).code operation.name
  /-- which does what the adapter does, -/
  runs : ∀ object inputs services state,
    ((AdapterBody.ofPlan operation.adapterPlan).run meaning adapter.method object inputs).run
        services state =
      (adapter.invoke (.ofType adapter.contract object) inputs).run services state
  /-- and awaits the call if and only if the shape is asynchronous. -/
  awaits : (AdapterBody.ofPlan operation.adapterPlan).awaits = operation.signature.shape.isAsync

end ContractOperation

/-- The plan of an operation was made for its signature. -/
theorem isPlanned_adapter (parameters : List ContractParameter) (meaning : Ty → ValueType)
    (contract : String) (method : Method σ) :
    ((operationOf declaringType head parameters).adapter meaning contract method).IsPlanned
      ((operationOf declaringType head parameters).typedParameters meaning) where
  directions := by
    have directions : (signatureParameters parameters).map (·.direction) =
        parameters.map (·.direction) := by
      rw [signatureParameters, AdapterBody.map_mapIdx]
      refine List.ext_getElem? fun position => ?_
      rw [List.getElem?_mapIdx, List.getElem?_map]
    have typed : ((operationOf declaringType head parameters).typedParameters meaning).map (·.2) =
        parameters.map (·.direction) := by
      rw [ContractOperation.typedParameters, List.map_map]
      rfl
    exact directions.trans typed.symm
  slots := rfl
  bindings := by
    have mapped := Binding.map_ofParameters meaning 0
      (parameters.map fun parameter => (parameter.type, parameter.direction))
    rw [List.map_map] at mapped
    exact mapped
  awaits := (ReturnShape.isAsync_classify _ _).symm
  returnsValue := (ReturnShape.hasValue_classify _ _).symm

/-- Whatever operation analysis accepts, what is generated for it does what its declaration asks
for. -/
theorem analyzeOperation_adapts (accepted : analyzeOperation declaringType head = .ok operation)
    (meaning : Ty → ValueType) (contract : String) (method : Method σ) :
    operation.IsAdapted head meaning (operation.adapter meaning contract method) := by
  obtain ⟨parameters, analyzed, rfl⟩ := analyzeOperation_ok accepted
  exact
    { parameters := analyzed
      moves := (isPlanned_adapter parameters meaning contract method).moves
      emitted := AdapterBody.invokeCode_eq_code _ _
      runs := AdapterBody.run_ofPlan _ meaning rfl
      awaits := (ReturnShape.isAsync_classify _ _).symm }

end

namespace Recording

/-- A name that stands nowhere. -/
def name (text : String) : Name := ⟨text, .nowhere⟩

/-- A type by its name. -/
def named (text : String) : Ty := .named [] (name text) .absent

/-- A parameter by name and type. -/
def parameter (attributes : List Attribute) (text : String) (type : Ty) : Input :=
  .typed ⟨attributes, .name false (name text), type⟩

/-- The marker of outputs. -/
def out : Attribute := ⟨false, ⟨none, [name outMarker]⟩, .absent, .nowhere⟩

/-- `async fn record(&self, #[out] note: &mut String, amount: u64, total: &mut u64) -> bool` -/
def head : MethodHead where
  qualifiers := [⟨.word "async", .nowhere⟩, ⟨.word "fn", .nowhere⟩]
  name := name "record"
  generics := .absent
  inputsSpan := .nowhere
  inputs :=
    [.receiver ⟨[], true, false, false, []⟩,
      parameter [out] "note" (.reference [] true (named "String")),
      parameter [] "amount" (named "u64"),
      parameter [] "total" (.reference [] true (named "u64"))]
  trailing := false
  variadic := []
  arrow := .nowhere
  output := some (named "bool")
  conditions := []

/-- Its operation. -/
def operation : ContractOperation :=
  operationOf "books::Ledger" head
    [⟨name "note", named "String", .output⟩, ⟨name "amount", named "u64", .input⟩,
      ⟨name "total", named "u64", .inout⟩]

/-- What the types mean. -/
def meaning : Ty → ValueType
  | .named _ ⟨"String", _⟩ _ => .string
  | _ => .u64

/-- Adds the amount to the total and notes it. -/
def record : Method Unit
  | _, [_, .u64 amount, .u64 total] =>
    pure ⟨.bool true, [(0, .string "added"), (2, .u64 (amount + total))]⟩
  | _, _ => pure .done

end Recording

open Recording in
theorem analyzeOperation_adapts_record :
    analyzeOperation "books::Ledger" head = .ok operation ∧
      operation.IsAdapted head meaning (operation.adapter meaning "dyn Ledger" record) :=
  ⟨rfl, analyzeOperation_adapts rfl meaning "dyn Ledger" record⟩

open Recording in
/-- The amount comes from the first slot and the total from the second one; the note and the total
flow out. -/
example :
    (((operation.adapter meaning "dyn Ledger" record).invoke (.ofType "dyn Ledger" ⟨0⟩)
      (.holding [.u64 2, .u64 40])).run .empty (.initial .empty)).1.toOption =
      some ⟨some (.bool true), [.string "added", .u64 42]⟩ := by
  decide +kernel

end ServiceDispatch.Generate
