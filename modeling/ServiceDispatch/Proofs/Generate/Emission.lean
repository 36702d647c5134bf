import ServiceDispatch.Proofs.Generate.Items

/-!
# What generated items say

The items that are generated for a contract, read back: each of them says what the analysis found,
and refers to the others by the names that they have.
-/

namespace ServiceDispatch.Generate

open Source Code

/-- The full name of a contract as its items spell it. -/
def Contract.declared (contract : Contract) : Declaring :=
  match contract.givenNamespace with
  | some _ => .literal contract.declaringType
  | none => .inModule ("::" ++ contract.name.plain)

/-- The items of an operation. -/
def operationItems (contract : Contract) (operation : ContractOperation) : OperationItems :=
  let parameters := staticName "PARAMS" contract.name operation.name
  let signature := staticName "SIG" contract.name operation.name
  let adapter := adapterName contract.name operation.name
  let factory := factoryName contract.name operation.name
  { parameters :=
      ⟨parameters, operation.signature.parameters.length, operation.signature.parameters⟩
    signature :=
      ⟨signature, contract.declared, operation.signature.method, parameters,
        operation.signature.shape⟩
    adapter := ⟨adapter, adapter, signature⟩
    factory := ⟨factory, adapter⟩
    entry := ⟨staticName "ENTRY" contract.name operation.name, signature, factory⟩ }

/-- The items of a contract. -/
def contractItems (contract : Contract) : ContractItems :=
  let table := tableName contract.name
  { table :=
      ⟨table, contract.operations.length,
        contract.operations.map fun operation => staticName "SIG" contract.name operation.name,
        contract.name.text, contract.declared, table⟩
    operations := contract.operations.map (operationItems contract) }

namespace Reader

theorem reads_named {α : Type} {meaning : String → Option α} {text : String} {value : α}
    (means : meaning text = some value) : Reads (named meaning) (Code.word text) value := by
  intro rest
  change (meaning text).map _ = _
  rw [means]
  rfl

theorem reads_reference (name : String) :
    Reads reference (mark "&" ++ Code.word name) name :=
  (reads_expect _).bind (reads_word name)

theorem isPart_reference (name : String) : IsPart (mark "&" ++ Code.word name) :=
  ⟨.mark '&' false, Code.word name,
    by simp [Code.mark, Lexeme.ofMark, Lexeme.ofChars, Lexeme.tokens], by simp⟩

theorem reads_inModule (separator name : String) :
    Reads inModule
      (path ["core", "concat"] ++ mark "!" ++
        parens (commas
          [path ["core", "module_path"] ++ mark "!" ++ parens [], Code.text separator,
            Code.text name]))
      (.inModule (separator ++ name)) := by
  refine Reads.of_eq ((reads_expect _).bind (Reads.enclosed ((reads_expect _).bind
    ((reads_text separator).bind ((reads_expect _).bind (reads_text name).last))) .parenthesis)) ?_
  simp [parens, commas, List.intersperse]

theorem reads_declaring (contract : Contract) :
    Reads declaring (declaringCode contract) contract.declared := by
  unfold declaring declaringCode Contract.declared
  cases contract.givenNamespace with
  | some given =>
    refine Reads.choose_other (fun rest => ?_) (reads_text _).last
    simp [Code.text, List.isPrefixOf, show path ["core", "concat"] = .mark ':' true :: _ from rfl]
  | none =>
    refine Reads.choose (fun rest => ?_) (reads_inModule "::" contract.name.plain)
    simp

theorem directionCode_eq (direction : Direction) : directionCode direction =
    facade ["ParameterDirection"] ++ mark "::" ++ Code.word direction.name := by
  cases direction <;> rfl

theorem shapeCode_eq (shape : ReturnShape) :
    shapeCode shape = facade ["ReturnShape"] ++ mark "::" ++ Code.word shape.name := by
  cases shape <;> rfl

theorem direction_ofName?_name (direction : Direction) :
    Direction.ofName? direction.name = some direction := by
  cases direction <;> decide

theorem shape_ofName?_name (shape : ReturnShape) :
    ReturnShape.ofName? shape.name = some shape := by
  cases shape <;> decide

theorem reads_parameter (described : Parameter) :
    Reads parameter (parameterCode described) described := by
  have direction := reads_named (direction_ofName?_name described.direction)
  refine Reads.of_eq ((reads_expect _).bind (Reads.enclosed ((reads_text described.name).bind
    ((reads_expect _).bind ((reads_text described.typeName).bind ((reads_expect _).bind
      (direction.bind ((reads_expect _).bind (reads_size described.position).last))))))
    .parenthesis)) ?_
  simp [parameterCode, parens, commas, List.intersperse, directionCode_eq]

theorem isPart_parameter (described : Parameter) : IsPart (parameterCode described) :=
  ⟨.mark ':' true, _, rfl, by simp⟩

theorem reads_arrayOf (item : Code) (length : Nat) :
    Reads (arrayOf item) (arrayType item length) length := by
  refine Reads.of_eq (Reads.enclosed ((reads_expect _).bind (reads_size length)) .bracket) ?_
  simp [arrayType, brackets]

theorem reads_static {α β : Type} {type : Reader α} {value : Reader β} {typeCode valueCode : Code}
    {found : α} {held : β} (name : String) (readsType : Reads type typeCode found)
    (readsValue : Reads value valueCode held) :
    Reads (static type value) (Code.static name typeCode valueCode) (name, found, held) := by
  refine Reads.of_eq ((reads_expect _).bind ((reads_word name).bind ((reads_expect _).bind
    (readsType.bind ((reads_expect _).bind (readsValue.bind (reads_expect _).last)))))) ?_
  simp [Code.static, words, Code.word]

variable (contract : Contract) (operation : ContractOperation)

/-- The static with the parameters of an operation. -/
def parametersCode : Code :=
  undocumented ++
    Code.static (staticName "PARAMS" contract.name operation.name)
      (arrayType (facade ["ParameterDescriptor"]) operation.signature.parameters.length)
      (brackets (commas (operation.signature.parameters.map parameterCode)))

/-- The signature of an operation as a value. -/
def signatureValueCode : Code :=
  facade ["OperationSignature", "new_static"] ++
    parens (commas
      [declaringCode contract, Code.text operation.signature.method,
        mark "&" ++ Code.word (staticName "PARAMS" contract.name operation.name),
        shapeCode operation.signature.shape])

/-- The static with the signature of an operation. -/
def signatureStatic : Code :=
  undocumented ++
    Code.static (staticName "SIG" contract.name operation.name) (facade ["OperationSignature"])
      (signatureValueCode contract operation)

theorem signatureCode_eq : signatureCode contract operation =
    parametersCode contract operation ++ signatureStatic contract operation := by
  simp [signatureCode, parametersCode, signatureStatic, signatureValueCode]

theorem reads_parameters :
    Reads parameters (parametersCode contract operation)
      (operationItems contract operation).parameters := by
  have rows : Reads (list parameter)
      (brackets (commas (operation.signature.parameters.map parameterCode)))
      (operation.signature.parameters.map id) :=
    reads_list (fun _ _ => reads_parameter _) fun _ _ => isPart_parameter _
  rw [List.map_id] at rows
  exact (reads_expect _).bind (reads_static _ (reads_arrayOf _ _) rows).last

theorem reads_signatureValue :
    Reads signatureValue (signatureValueCode contract operation)
      fun name => { (operationItems contract operation).signature with name } := by
  have parameters := reads_reference (staticName "PARAMS" contract.name operation.name)
  have shape := reads_named (shape_ofName?_name operation.signature.shape)
  refine Reads.of_eq ((reads_expect _).bind (Reads.enclosed ((reads_declaring contract).bind
    ((reads_expect _).bind ((reads_text operation.signature.method).bind ((reads_expect _).bind
      (parameters.bind ((reads_expect _).bind shape.last)))))) .parenthesis)) ?_
  simp [signatureValueCode, parens, commas, List.intersperse, shapeCode_eq]

theorem reads_signature :
    Reads signature (signatureStatic contract operation)
      (operationItems contract operation).signature :=
  (reads_expect _).bind
    (reads_static _ (reads_expect _) (reads_signatureValue contract operation)).last

theorem reads_table : Reads table (tableCode contract) (contractItems contract).table := by
  have rows : Reads (list reference)
      (brackets (commas (contract.operations.map (signatureRef contract))))
      (contract.operations.map fun operation => staticName "SIG" contract.name operation.name) :=
    reads_list (fun _ _ => reads_reference _) fun _ _ => isPart_reference _
  have held := reads_static (tableName contract.name)
    (reads_arrayOf (mark "&" ++ facade ["OperationSignature"]) contract.operations.length) rows
  have handed := (reads_reference (tableName contract.name)).enclosed .brace
  refine Reads.of_eq ((reads_expect _).bind (held.bind ((reads_expect _).bind
    ((reads_word contract.name.text).bind (Reads.enclosed ((reads_expect _).bind
      ((reads_declaring contract).bind ((reads_expect _).bind handed.last))) .brace))))) ?_
  simp [tableCode, braces, words, Code.word]

/-- What the implementation of an adapter holds after the signature that it answers. -/
def invocationCode : Code :=
  let plan := operation.adapterPlan
  words ["fn", "allocate_inputs"] ++ parens sharedSelf ++ mark "->" ++ facade ["InputBuffer"] ++
    braces (allocationCode plan) ++ words ["async", "fn", "invoke"] ++
    parens
      (sharedSelf ++ mark "," ++
        Code.word "instance" ++ mark ":" ++ mark "&" ++ facade ["ServiceInstance"] ++ mark "," ++
        inputsPattern plan ++ mark ":" ++ facade ["InputBuffer"] ++ mark ",") ++
    mark "->" ++ facade ["Result"] ++ mark "<" ++ facade ["InvocationOutcome"] ++ mark ">" ++
    braces
      (words ["let", "__opbind_service"] ++ mark "=" ++
        Code.word "instance" ++ mark "." ++ Code.word "contract" ++
        turbofish (words ["dyn", contract.name.text]) ++ parens [] ++ mark "?" ++ mark ";" ++
        invokeCode operation.name plan)

theorem balanced_invocationCode
    (balanced : ∀ parameter ∈ operation.parameters, Balanced parameter.type.tokens) :
    Balanced (invocationCode contract operation) := by
  have types : ∀ parameter ∈ operation.parameters.map fun parameter =>
      (parameter.type, parameter.direction), Balanced parameter.1.tokens :=
    List.forall_mem_map.mpr balanced
  have invoked : Balanced (invokeCode operation.name operation.adapterPlan) :=
    balanced_invokeCode _
      (forall_type_ofParameters (P := fun type => Balanced type.tokens) types 0)
  have allocated : Balanced (allocationCode operation.adapterPlan) := by
    unfold allocationCode
    repeat' first | with_reducible apply Balanced.append | with_reducible apply Balanced.choice
    all_goals simp
  have inputs : Balanced (inputsPattern operation.adapterPlan) :=
    .choice (balanced_word _) (balanced_words _)
  have self : Balanced sharedSelf := (balanced_mark _).append (balanced_word _)
  have shared : Balanced
      (sharedSelf ++ mark "," ++ Code.word "instance" ++ mark ":" ++ mark "&" ++
        facade ["ServiceInstance"] ++ mark "," ++ inputsPattern operation.adapterPlan ++ mark ":" ++
        facade ["InputBuffer"] ++ mark ",") := by
    repeat' with_reducible apply Balanced.append
    all_goals simp [inputs, self]
  have body : Balanced
      (words ["let", "__opbind_service"] ++ mark "=" ++ Code.word "instance" ++ mark "." ++
        Code.word "contract" ++ turbofish (words ["dyn", contract.name.text]) ++ parens [] ++
        mark "?" ++ mark ";" ++ invokeCode operation.name operation.adapterPlan) := by
    repeat' with_reducible apply Balanced.append
    all_goals simp [invoked]
  unfold invocationCode
  dsimp only
  repeat' with_reducible apply Balanced.append
  all_goals simp only [balanced_words, balanced_mark, balanced_facade, balanced_parens self,
    balanced_parens shared, balanced_braces allocated, balanced_braces body]

/-- The function that makes the adapter of an operation. -/
def factoryCode : Code :=
  undocumented ++ allowing "non_snake_case" ++
    words ["fn", factoryName contract.name operation.name] ++ parens [] ++ mark "->" ++
    path ["std", "sync", "Arc"] ++ mark "<" ++ Code.word "dyn" ++ facade ["InvocationAdapter"] ++
    mark ">" ++
    braces (path ["std", "sync", "Arc", "new"] ++
      parens (Code.word (adapterName contract.name operation.name)))

/-- The entry of an operation as a value. -/
def entryValueCode : Code :=
  facade ["InvocationAdapterEntry"] ++
    braces
      (Code.word "signature" ++ mark ":" ++ signatureRef contract operation ++ mark "," ++
        Code.word "factory" ++ mark ":" ++
        Code.word (factoryName contract.name operation.name) ++ mark ",")

/-- The static with the entry of an operation. -/
def entryStatic : Code :=
  attributed
      (facade ["linkme", "distributed_slice"] ++ parens (facade ["INVOCATION_ADAPTERS"])) ++
    attributed (Code.word "linkme" ++
      parens (Code.word "crate" ++ mark "=" ++ facade ["linkme"])) ++
    undocumented ++
    Code.static (staticName "ENTRY" contract.name operation.name)
      (facade ["InvocationAdapterEntry"]) (entryValueCode contract operation)

theorem entryCode_eq : entryCode contract operation =
    factoryCode contract operation ++ entryStatic contract operation := by
  simp [entryCode, factoryCode, entryStatic, entryValueCode]

theorem reads_adapter (balanced : Balanced (invocationCode contract operation)) :
    Reads adapter (adapterCode contract operation) (operationItems contract operation).adapter := by
  have answers :=
    (reads_reference (staticName "SIG" contract.name operation.name)).enclosed .brace
  have name := reads_word (adapterName contract.name operation.name)
  refine Reads.of_eq ((reads_expect _).bind (name.bind ((reads_expect _).bind (name.bind
    ((reads_expect _).bind (answers.bind (reads_skip balanced .brace).last)))))) ?_
  simp [adapterCode, invocationCode, signatureRef, braces, Code.enclosed, words, Code.word]

theorem reads_factory :
    Reads factory (factoryCode contract operation) (operationItems contract operation).factory := by
  have made := (reads_word (adapterName contract.name operation.name)).enclosed .parenthesis
  refine Reads.of_eq ((reads_expect _).bind ((reads_word (factoryName contract.name
    operation.name)).bind ((reads_expect _).bind (Reads.enclosed ((reads_expect _).bind made.last)
      .brace)))) ?_
  simp [factoryCode, braces, parens, words, Code.word]

theorem reads_entryValue :
    Reads entryValue (entryValueCode contract operation)
      fun name => { (operationItems contract operation).entry with name } := by
  have signature := reads_reference (staticName "SIG" contract.name operation.name)
  have factory := reads_word (factoryName contract.name operation.name)
  refine Reads.of_eq ((reads_expect _).bind (Reads.enclosed ((reads_expect _).bind
    (signature.bind ((reads_expect _).bind (factory.bind (reads_expect _).last)))) .brace)) ?_
  simp [entryValueCode, braces, signatureRef]

theorem reads_entry :
    Reads entry (entryStatic contract operation) (operationItems contract operation).entry :=
  (reads_expect _).bind
    (reads_static _ (reads_expect _) (reads_entryValue contract operation)).last

theorem reads_operation (balanced : Balanced (invocationCode contract operation)) :
    Reads Reader.operation (operationCode contract operation)
      (operationItems contract operation) := by
  refine Reads.of_eq ((reads_parameters contract operation).bind
    ((reads_signature contract operation).bind ((reads_adapter contract operation balanced).bind
      ((reads_factory contract operation).bind (reads_entry contract operation).last)))) ?_
  simp [operationCode, signatureCode_eq, entryCode_eq]

/-- The items of operations are read one after another. -/
theorem run_operations {operations : List ContractOperation} {fuel : Nat}
    (balanced : ∀ operation ∈ operations, Balanced (invocationCode contract operation))
    (enough : operations.length ≤ fuel) {rest : Code}
    (stops : (mark "#").isPrefixOf rest = false) :
    Reader.operations fuel (operations.flatMap (operationCode contract) ++ rest) =
      some (operations.map (operationItems contract), rest) := by
  induction operations generalizing fuel with
  | nil =>
    cases fuel with
    | zero => rfl
    | succ fuel =>
      simp only [List.flatMap_nil, List.nil_append, List.map_nil, Reader.operations, choice, stops,
        Bool.false_eq_true, if_false, run_pure]
  | cons operation later ih =>
    obtain ⟨fuel, rfl⟩ :=
      Nat.exists_eq_succ_of_ne_zero (Nat.ne_of_gt (Nat.lt_of_lt_of_le (Nat.succ_pos _) enough))
    obtain ⟨here, others⟩ := List.forall_mem_cons.mp balanced
    have starts : ∀ follows,
        (mark "#").isPrefixOf (operationCode contract operation ++ follows) = true := by
      intro follows
      simp [operationCode, signatureCode_eq, parametersCode, undocumented, attributed]
    have read := ih others (Nat.le_of_succ_le_succ enough)
    simp only [List.flatMap_cons, List.append_assoc, List.map_cons, Reader.operations, choice,
      starts, if_true, run_bind, reads_operation contract operation here _, Option.bind_some, read,
      run_pure]

/-- The items of a contract are read up to other code. -/
theorem run_contract
    (balanced : ∀ operation ∈ contract.operations,
      ∀ parameter ∈ operation.parameters, Balanced parameter.type.tokens)
    {rest : Code} (stops : (mark "#").isPrefixOf rest = false) :
    Reader.contract (tableCode contract ++
        contract.operations.flatMap (operationCode contract) ++ rest) =
      some (contractItems contract, rest) := by
  have enough : contract.operations.length ≤
      (contract.operations.flatMap (operationCode contract) ++ rest).length := by
    have lengths : ∀ operation, 1 ≤ (operationCode contract operation).length := by
      intro operation
      simp [operationCode, signatureCode_eq, parametersCode, undocumented, attributed, brackets,
        Code.enclosed]
      omega
    induction contract.operations with
    | nil => exact Nat.zero_le _
    | cons operation later ih =>
      have := lengths operation
      simp only [List.flatMap_cons, List.length_append, List.length_cons] at ih ⊢
      omega
  have read := run_operations contract
    (fun operation mem => balanced_invocationCode contract operation (balanced operation mem))
    enough stops
  simp only [Reader.contract, run_bind, List.append_assoc, reads_table contract _,
    Option.bind_some, read, run_pure]
  rfl

end Reader

end ServiceDispatch.Generate
