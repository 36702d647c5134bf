import Std.Data.String.ToNat
import ServiceDispatch.Generate.ContractCode
import ServiceDispatch.Proofs.Call.Adaptation

/-!
# Bodies of generated adapters

The body that is emitted for an adapter, read as the straight-line program it is: statements that
bind variables, one call, and the variables that make up the outcome. Running it comes to what the
plan of the adapter says, since no two parameters have one variable. That a compiler runs the body
in this way is the meaning given to it here.
-/

namespace ServiceDispatch.Generate

open Source Code

/-- A statement that binds a variable. -/
structure BindingStatement where
  /-- The variable. -/
  name : String
  /-- Whether it can be written to. -/
  isMutable : Bool
  /-- Its type. -/
  type : Ty
  /-- Where its value comes from. -/
  source : ArgumentSource

/-- A variable that is passed to the method. -/
structure PassedVariable where
  /-- The variable. -/
  name : String
  /-- Whether the method may write to it. -/
  byReference : Bool

/-- The body of an adapter after it has found its instance. -/
structure AdapterBody where
  /-- Statements that bind variables, in order. -/
  statements : List BindingStatement
  /-- What is passed to the method, in order. -/
  arguments : List PassedVariable
  /-- Whether the call is awaited. -/
  awaits : Bool
  /-- Whether an error of the call is surfaced. -/
  surfaces : Bool
  /-- Whether the value of the call is kept for the outcome. -/
  returnsValue : Bool
  /-- The variables that are the outputs, in order. -/
  outputs : List String

/-- The code of a binding statement. -/
def BindingStatement.code (statement : BindingStatement) : Code :=
  let type := statement.type.tokens
  let value :=
    match statement.source with
    | .slot slot =>
      word "inputs" ++ mark "." ++ word "take" ++ turbofish type ++ parens (count slot) ++ mark "?"
    | .initial =>
      mark "<" ++ type ++ word "as" ++ path ["core", "default", "Default"] ++ mark ">" ++
        mark "::" ++ word "default" ++ parens []
  word "let" ++ (if statement.isMutable then word "mut" else []) ++ word statement.name ++
    mark ":" ++ type ++ mark "=" ++ value ++ mark ";"

/-- The code that passes a variable. -/
def PassedVariable.code (argument : PassedVariable) : Code :=
  (if argument.byReference then mark "&" ++ word "mut" else []) ++ word argument.name

namespace AdapterBody

/-- The code that makes a variable an output. -/
def outputCode (name : String) : Code := boxed (word name) ++ word "as" ++ facade ["Value"]

/-- The code of a body that calls a method. -/
def code (body : AdapterBody) (method : Name) : Code :=
  let call :=
    word "__opbind_service" ++ mark "." ++ word method.text ++
      parens (commas (body.arguments.map PassedVariable.code)) ++
      (if body.awaits then mark "." ++ word "await" else []) ++
      (if body.surfaces then
        mark "." ++ word "map_err" ++ parens (facade ["Error", "operation"]) ++ mark "?"
      else [])
  let option := ["core", "option", "Option"]
  let returned :=
    if body.returnsValue then
      path (option ++ ["Some"]) ++
        parens (boxed (word "__opbind_return") ++ word "as" ++ facade ["Value"])
    else path (option ++ ["None"])
  let outputs :=
    if body.outputs.isEmpty then path ["std", "vec", "Vec", "new"] ++ parens []
    else path ["std", "vec"] ++ mark "!" ++ brackets (commas (body.outputs.map outputCode))
  (body.statements.map BindingStatement.code).flatten ++
    ((if body.returnsValue then words ["let", "__opbind_return"] ++ mark "=" else []) ++ call ++
      mark ";") ++
    path ["core", "result", "Result", "Ok"] ++
    parens (facade ["InvocationOutcome", "new"] ++ parens (commas [returned, outputs]))

/-- The statements for bindings whose variables have the given names by position. -/
def statementsOf (name : Nat → String) (bindings : List (Binding Ty)) : List BindingStatement :=
  bindings.mapIdx fun position binding =>
    ⟨name position, binding.direction.flowsOut, binding.type, binding.source⟩

/-- What is passed for them. -/
def argumentsOf (name : Nat → String) (bindings : List (Binding Ty)) : List PassedVariable :=
  bindings.mapIdx fun position binding => ⟨name position, binding.direction.flowsOut⟩

/-- The outputs among them. -/
def outputsOf (name : Nat → String) (bindings : List (Binding Ty)) : List String :=
  (bindings.mapIdx fun position binding =>
    if binding.direction.flowsOut then [name position] else []).flatten

/-- The body that a plan asks for. -/
def ofPlan (plan : AdapterPlan Ty) : AdapterBody where
  statements := statementsOf variableName plan.bindings
  arguments := argumentsOf variableName plan.bindings
  awaits := plan.awaits
  surfaces := plan.surfaces
  returnsValue := plan.returnsValue
  outputs := outputsOf variableName plan.bindings

theorem map_mapIdx {α β γ : Type} (list : List α) (f : Nat → α → β) (g : β → γ) :
    (list.mapIdx f).map g = list.mapIdx fun place a => g (f place a) := by
  refine List.ext_getElem? fun place => ?_
  simp only [List.getElem?_map, List.getElem?_mapIdx, Option.map_map, Function.comp_def]

/-- The code that is emitted for a plan is the code of its body. -/
theorem invokeCode_eq_code (method : Name) (plan : AdapterPlan Ty) :
    invokeCode method plan = (ofPlan plan).code method := by
  have statements : plan.bindings.mapIdx bindingCode =
      (statementsOf variableName plan.bindings).map BindingStatement.code := by
    rw [statementsOf, map_mapIdx]
    rfl
  have arguments : plan.bindings.mapIdx argumentCode =
      (argumentsOf variableName plan.bindings).map PassedVariable.code := by
    rw [argumentsOf, map_mapIdx]
    rfl
  have outputs : (plan.bindings.mapIdx Generate.outputCode).flatten =
      (outputsOf variableName plan.bindings).map outputCode := by
    rw [outputsOf, List.map_flatten, map_mapIdx]
    congr 2
    funext position binding
    cases flows : binding.direction.flowsOut <;> simp [Generate.outputCode, outputCode, flows]
  rw [invokeCode, callStatement, callCode, outputsCode, returnCode, statements, arguments, outputs]
  simp only [code, ofPlan, List.isEmpty_map]
  rfl

/-- The value of a variable. No code is generated that names a variable before it is bound. -/
def valueOf (bound : Keyed String Value) (name : String) : Value := (bound.get? name).getD .unit

/-- Binds variables one after another, given what types mean. -/
def bindAll (meaning : Ty → ValueType) :
    List BindingStatement → InputBuffer → Keyed String Value → Except Failure (Keyed String Value)
  | [], _, bound => .ok bound
  | statement :: rest, inputs, bound =>
    match statement.source with
    | .initial =>
      bindAll meaning rest inputs (bound.insert statement.name (meaning statement.type).initial)
    | .slot index =>
      match inputs.take index (meaning statement.type) with
      | (inputs, .ok value) => bindAll meaning rest inputs (bound.insert statement.name value)
      | (_, .error failure) => .error failure

/-- What the method leaves in variables that it may write to, from the position of the first. -/
def writeAll (reply : Reply) :
    (position : Nat) → List PassedVariable → Keyed String Value → Keyed String Value
  | _, [], bound => bound
  | position, argument :: rest, bound =>
    writeAll reply (position + 1) rest
      (if argument.byReference then
        bound.insert argument.name (reply.after position (valueOf bound argument.name))
      else bound)

/-- The outcome of a body from what the method answered and the variables before it was called. -/
def outcome (body : AdapterBody) (bound : Keyed String Value) (reply : Reply) : Outcome where
  returned := if body.returnsValue then some reply.returned else none
  outputs := body.outputs.map (valueOf (writeAll reply 0 body.arguments bound))

/-- Runs a body on an instance. An error of the method is the value of the call if the body does not
surface it. -/
def run {σ : Type} (body : AdapterBody) (meaning : Ty → ValueType) (method : Method σ)
    (object : InstanceId) (inputs : InputBuffer) : Run σ Outcome := do
  let bound ← Serving.ofExcept (bindAll meaning body.statements inputs .empty)
  let passed := body.arguments.map fun argument => valueOf bound argument.name
  match ← Serving.attempt (method object passed) with
  | .ok reply => pure (body.outcome bound reply)
  | .error error =>
    if body.surfaces then throw (Failure.surface error) else pure (body.outcome bound (.failed error))

variable {name : Nat → String}

theorem statementsOf_cons (binding : Binding Ty) (rest : List (Binding Ty)) :
    statementsOf name (binding :: rest) =
      ⟨name 0, binding.direction.flowsOut, binding.type, binding.source⟩ ::
        statementsOf (fun position => name (position + 1)) rest := by
  rw [statementsOf, List.mapIdx_cons]
  rfl

theorem argumentsOf_cons (binding : Binding Ty) (rest : List (Binding Ty)) :
    argumentsOf name (binding :: rest) =
      ⟨name 0, binding.direction.flowsOut⟩ ::
        argumentsOf (fun position => name (position + 1)) rest := by
  rw [argumentsOf, List.mapIdx_cons]
  rfl

theorem injective_succ (injective : name.Injective) :
    Function.Injective fun position => name (position + 1) :=
  fun _ _ same => Nat.succ.inj (injective same)

/-- Variables of a name hold the values of a list by position. -/
def Holds (bound : Keyed String Value) (name : Nat → String) (values : List Value) : Prop :=
  ∀ {position value}, values[position]? = some value → bound.get? (name position) = some value

/-- Variables are bound to the values taken for parameters, unless these cannot be taken. -/
def BindsTo (name : Nat → String) (count : Nat) (before : Keyed String Value)
    (taken : Except Failure (List Value)) (result : Except Failure (Keyed String Value)) : Prop :=
  match taken with
  | .error failure => result = .error failure
  | .ok passed => passed.length = count ∧ ∃ bound, result = .ok bound ∧ Holds bound name passed ∧
      ∀ other, (∀ position, name position ≠ other) → bound.get? other = before.get? other

/-- A variable that is bound first keeps its value while others are bound. -/
theorem BindsTo.cons {count : Nat} {before : Keyed String Value} {value : Value}
    {taken : Except Failure (List Value)} {result : Except Failure (Keyed String Value)}
    (injective : name.Injective)
    (binds : BindsTo (fun position => name (position + 1)) count (before.insert (name 0) value)
      taken result) :
    BindsTo name (count + 1) before (taken.map (value :: ·)) result := by
  match taken, binds with
  | .error failure, fails => exact fails
  | .ok passed, ⟨length, bound, same, holds, untouched⟩ =>
    refine ⟨congrArg Nat.succ length, bound, same, ?_, fun other apart => ?_⟩
    · intro position value' here
      cases position with
      | zero =>
        obtain rfl := Option.some.inj here
        rw [untouched (name 0) fun position equal => Nat.succ_ne_zero _ (injective equal),
          Keyed.get?_insert, if_pos rfl]
      | succ position => exact holds here
    · rw [untouched other fun position => apart (position + 1), Keyed.get?_insert, if_neg (apart 0)]

/-- Binding parameters to variables of different names gives each variable the value that is taken
for its parameter, and touches no other variable. -/
theorem bindAll_statementsOf (meaning : Ty → ValueType) (injective : name.Injective)
    (bindings : List (Binding Ty)) (inputs : InputBuffer) (before : Keyed String Value) :
    BindsTo name bindings.length before
      (AdapterPlan.takeArguments (bindings.map (Binding.map meaning)) inputs)
      (bindAll meaning (statementsOf name bindings) inputs before) := by
  induction bindings generalizing name inputs before with
  | nil =>
    refine ⟨rfl, before, rfl, ?_, fun _ _ => rfl⟩
    intro position value here
    cases here
  | cons binding rest ih =>
    have others := fun inputs value =>
      (ih (injective_succ injective) inputs (before.insert (name 0) value)).cons injective
    obtain ⟨type, direction, source⟩ := binding
    rw [List.map_cons, AdapterPlan.takeArguments, statementsOf_cons, bindAll]
    cases source with
    | initial => exact others inputs (meaning type).initial
    | slot index =>
      simp only [Binding.map]
      cases inputs.take index (meaning type) with
      | mk left taken =>
        cases taken with
        | error failure => rfl
        | ok value => exact others left value

/-- Writing to variables of different names leaves in each the value after the call if the method
may write to it, and what it held otherwise. -/
theorem get?_writeAll (injective : name.Injective) (bindings : List (Binding Ty)) (reply : Reply)
    (start : Nat) (bound : Keyed String Value) :
    (∀ {position binding}, bindings[position]? = some binding →
      valueOf (writeAll reply start (argumentsOf name bindings) bound) (name position) =
        if binding.direction.flowsOut then
          reply.after (start + position) (valueOf bound (name position))
        else valueOf bound (name position)) ∧
      ∀ other, (∀ position, name position ≠ other) →
        (writeAll reply start (argumentsOf name bindings) bound).get? other =
          bound.get? other := by
  induction bindings generalizing name start bound with
  | nil =>
    refine ⟨?_, fun _ _ => rfl⟩
    intro position binding here
    cases here
  | cons binding rest ih =>
    rw [argumentsOf_cons, writeAll]
    dsimp only
    -- the first variable after the call
    have written : ∃ updated : Keyed String Value,
        (if binding.direction.flowsOut then
          bound.insert (name 0) (reply.after start (valueOf bound (name 0)))
        else bound) = updated ∧
        valueOf updated (name 0) =
          (if binding.direction.flowsOut then reply.after start (valueOf bound (name 0))
          else valueOf bound (name 0)) ∧
        ∀ other, name 0 ≠ other → updated.get? other = bound.get? other := by
      refine ⟨_, rfl, ?_, fun other apart => ?_⟩
      · cases binding.direction.flowsOut <;> simp [valueOf]
      · cases binding.direction.flowsOut <;> simp [apart]
    obtain ⟨updated, same, first, others⟩ := written
    rw [same]
    obtain ⟨values, untouched⟩ := ih (injective_succ injective) (start + 1) updated
    refine ⟨?_, fun other apart => ?_⟩
    · intro position binding' here
      cases position with
      | zero =>
        obtain rfl := Option.some.inj here
        have kept := untouched (name 0) fun position equal =>
          Nat.succ_ne_zero _ (injective equal)
        rw [valueOf, kept]
        exact first
      | succ position =>
        have differs : name 0 ≠ name (position + 1) := fun equal =>
          Nat.succ_ne_zero _ (injective equal).symm
        rw [values here, valueOf, others _ differs, Nat.add_assoc, Nat.add_comm 1]
        rfl
    · rw [untouched other fun position => apart (position + 1), others other (apart 0)]

/-- The variables of parameters have different names. -/
theorem variableName_injective : variableName.Injective := by
  intro index index' same
  have numbers : index.repr = index'.repr := (String.append_right_inj _).mp same
  have read := congrArg String.toNat? numbers
  simpa using read

/-- What is passed is what the variables hold. -/
theorem map_argumentsOf {bound : Keyed String Value} {bindings : List (Binding Ty)}
    {passed : List Value} (length : passed.length = bindings.length)
    (holds : Holds bound name passed) :
    (argumentsOf name bindings).map (fun argument => valueOf bound argument.name) = passed := by
  rw [argumentsOf, map_mapIdx]
  refine List.ext_getElem (by simp [length]) fun position _ inside => ?_
  rw [List.getElem_mapIdx, valueOf, holds (List.getElem?_eq_getElem inside), Option.getD_some]

/-- The outputs are what the variables of parameters that flow out hold after the call. -/
theorem map_outputsOf (meaning : Ty → ValueType) (injective : name.Injective)
    {bound : Keyed String Value} {bindings : List (Binding Ty)} {passed : List Value}
    (length : passed.length = bindings.length) (holds : Holds bound name passed) (reply : Reply) :
    (outputsOf name bindings).map (valueOf (writeAll reply 0 (argumentsOf name bindings) bound)) =
      AdapterPlan.outputValues (bindings.map (Binding.map meaning)) passed reply := by
  obtain ⟨written, -⟩ := get?_writeAll injective bindings reply 0 bound
  rw [outputsOf, List.map_flatten, map_mapIdx, AdapterPlan.outputValues]
  refine congrArg List.flatten (List.ext_getElem (by simp [length]) fun position inside _ => ?_)
  rw [List.length_mapIdx] at inside
  have given : position < passed.length := length.symm ▸ inside
  have value : valueOf bound (name position) = passed[position] := by
    rw [valueOf, holds (List.getElem?_eq_getElem given), Option.getD_some]
  have after := written (List.getElem?_eq_getElem inside)
  rw [value, Nat.zero_add] at after
  simp only [List.getElem_mapIdx, List.getElem_zip, List.getElem_map, Binding.map]
  cases flows : bindings[position].direction.flowsOut with
  | true => simp [after, flows]
  | false => rfl

/-- The outcome of a body is the one that an adapter with the plan makes of the same answer. -/
theorem outcome_ofPlan {plan : AdapterPlan Ty} {meaning : Ty → ValueType}
    {bound : Keyed String Value} {passed : List Value} (length : passed.length = plan.bindings.length)
    (holds : Holds bound variableName passed) (reply : Reply) :
    (ofPlan plan).outcome bound reply = (plan.map meaning).outcome passed reply := by
  have outputs := map_outputsOf meaning variableName_injective length holds reply
  rw [outcome, ofPlan, outputs]
  rfl

/-- The body that is emitted for a plan does what an adapter with the plan does. -/
theorem run_ofPlan {σ : Type} (plan : AdapterPlan Ty) (meaning : Ty → ValueType)
    {adapter : Adapter σ} (planned : adapter.plan = plan.map meaning) (object : InstanceId)
    (inputs : InputBuffer) (services : Services σ) (state : ServiceState σ) :
    ((ofPlan plan).run meaning adapter.method object inputs).run services state =
      (adapter.invoke (.ofType adapter.contract object) inputs).run services state := by
  have bindings : adapter.plan.bindings = plan.bindings.map (Binding.map meaning) := by
    rw [planned]
    rfl
  have binds := bindAll_statementsOf meaning variableName_injective plan.bindings inputs .empty
  rw [Adapter.run_invoke rfl, bindings, run, Serving.run_bind, Serving.run_ofExcept]
  cases taken : AdapterPlan.takeArguments (plan.bindings.map (Binding.map meaning)) inputs with
  | error failure =>
    rw [taken] at binds
    rw [ofPlan, show bindAll _ _ _ _ = _ from binds]
  | ok passed =>
    rw [taken] at binds
    obtain ⟨length, bound, same, holds, -⟩ := binds
    have arguments : (ofPlan plan).arguments.map (fun argument => valueOf bound argument.name) =
        passed := map_argumentsOf length holds
    have outcomes := fun reply => @outcome_ofPlan plan meaning bound passed length holds reply
    have statements : bindAll meaning (ofPlan plan).statements inputs .empty = .ok bound := same
    have surfaces : (plan.map meaning).surfaces = (ofPlan plan).surfaces := rfl
    rw [statements]
    dsimp only
    rw [arguments, Serving.run_bind, Serving.run_attempt]
    dsimp only [ServiceInstance.ofType]
    cases ((adapter.method object passed).run services state).1 with
    | ok reply => simp only [Serving.run_pure, Adapter.answer, planned, outcomes]
    | error error =>
      simp only [Adapter.answer, planned, surfaces]
      cases (ofPlan plan).surfaces with
      | true => rfl
      | false => simp only [Bool.false_eq_true, if_false, Serving.run_pure, outcomes]

end AdapterBody

end ServiceDispatch.Generate
