import ServiceDispatch.Proofs.Host.Activation

/-!
# Running a dispatched call

What filling the slots, invoking an adapter and dispatching a call come to, as equations over `run`.
That a key has an adapter is left to those who sealed the registry; here it is found or not.
-/

namespace ServiceDispatch

variable {σ ε : Type} {services : Services σ} {state : ServiceState σ}

namespace InputBuffer

/-- The buffer in which every slot holds a value. -/
def holding (values : List Value) : InputBuffer := ⟨values.map some⟩

/-- Values go into the slots after those that are filled already. -/
theorem fillFrom_append {filled free : List (Option Value)} {values : List Value}
    (room : free.length = values.length) :
    fillFrom ⟨filled ++ free⟩ filled.length values = (⟨filled ++ values.map some⟩, .ok ()) := by
  induction values generalizing filled free with
  | nil => simp [fillFrom, List.length_eq_zero_iff.mp room]
  | cons value rest ih =>
    match free with
    | [] => simp at room
    | slot :: free =>
      have inside : filled.length < (⟨filled ++ slot :: free⟩ : InputBuffer).length := by
        simp [length]
      have written : (filled ++ slot :: free).set filled.length (some value) =
          (filled ++ [some value]) ++ free := by simp
      have others := @ih (filled ++ [some value]) free (by simpa using room)
      rw [List.length_append, List.length_singleton] at others
      rw [fillFrom, set, if_pos inside]
      dsimp only
      rw [written, others, List.append_assoc, List.singleton_append, List.map_cons]

/-- A buffer with a slot for each value is filled with all of them, whatever it held before. -/
theorem fill_of_length {buffer : InputBuffer} {values : List Value}
    (room : values.length = buffer.length) : buffer.fill values = (holding values, .ok ()) :=
  @fillFrom_append [] buffer.slots values room.symm

end InputBuffer

/-- The slots of a call can be filled exactly if there is an argument for each of them. -/
theorem Invocable.prepare_eq (adapter : Invocable σ) (key : String) (arguments : List Value) :
    adapter.prepare key arguments =
      if arguments.length = adapter.allocateInputs.length then .ok (.holding arguments)
      else .error (.argumentCount key adapter.allocateInputs.length arguments.length) := by
  rw [prepare]
  by_cases count : arguments.length = adapter.allocateInputs.length
  · rw [if_pos count, if_pos count, InputBuffer.fill_of_length count]
  · rw [if_neg count, if_neg count]

namespace Adapter

variable {adapter : Adapter σ} {served : ServiceInstance} {inputs : InputBuffer}

/-- What an invocation answers, from what the method answered. -/
def answer (adapter : Adapter σ) (passed : List Value) :
    Except OperationError Reply → Except Failure Outcome
  | .ok reply => .ok (adapter.plan.outcome passed reply)
  | .error error =>
    if adapter.plan.surfaces then .error (Failure.surface error)
    else .ok (adapter.plan.outcome passed (.failed error))

/-- An instance of another contract is not called. -/
theorem run_invoke_mismatched (other : served.typeName ≠ adapter.contract) :
    (adapter.invoke served inputs).run services state =
      (.error (.instanceTypeMismatch adapter.contract), state) := by
  rw [invoke, Serving.run_bind, Serving.run_ofExcept, ServiceInstance.asType, if_neg other]

/-- An instance of the contract is called once, if all arguments can be taken from their slots. -/
theorem run_invoke (typed : served.typeName = adapter.contract) :
    (adapter.invoke served inputs).run services state =
      match AdapterPlan.takeArguments adapter.plan.bindings inputs with
      | .error failure => (.error failure, state)
      | .ok passed =>
        (adapter.answer passed ((adapter.method served.object passed).run services state).1,
          ((adapter.method served.object passed).run services state).2) := by
  rw [invoke, Serving.run_bind, Serving.run_ofExcept, ServiceInstance.asType, if_pos typed]
  dsimp only
  rw [Serving.run_bind, Serving.run_ofExcept]
  cases AdapterPlan.takeArguments adapter.plan.bindings inputs with
  | error failure => rfl
  | ok passed =>
    dsimp only
    rw [Serving.run_bind, Serving.run_attempt]
    dsimp only
    cases ((adapter.method served.object passed).run services state).1 with
    | error error => cases surfaces : adapter.plan.surfaces <;> simp [answer, surfaces]
    | ok reply => rfl

/-- What an invocation does is what its method does, if that is called at all. -/
theorem state_invoke (adapter : Adapter σ) (services : Services σ) (state : ServiceState σ)
    (served : ServiceInstance) (inputs : InputBuffer) :
    ((adapter.invoke served inputs).run services state).2 = state ∨
      ∃ passed, ((adapter.invoke served inputs).run services state).2 =
        ((adapter.method served.object passed).run services state).2 := by
  by_cases typed : served.typeName = adapter.contract
  · rw [run_invoke typed]
    cases AdapterPlan.takeArguments adapter.plan.bindings inputs with
    | error failure => exact .inl rfl
    | ok passed => exact .inr ⟨passed, rfl⟩
  · rw [run_invoke_mismatched typed]
    exact .inl rfl

/-- An invocation that succeeds has called the method on the instance, with what was taken from the
slots. The method has succeeded if the adapter surfaces errors. -/
theorem run_invoke_ok {outcome : Outcome} {after : ServiceState σ}
    (succeeded : (adapter.invoke served inputs).run services state = (.ok outcome, after)) :
    served.typeName = adapter.contract ∧
      ∃ passed result, AdapterPlan.takeArguments adapter.plan.bindings inputs = .ok passed ∧
        (adapter.method served.object passed).run services state = (result, after) ∧
        (adapter.plan.surfaces = true → ∃ reply, result = .ok reply) := by
  by_cases typed : served.typeName = adapter.contract
  · rw [run_invoke typed] at succeeded
    cases taken : AdapterPlan.takeArguments adapter.plan.bindings inputs with
    | error failure =>
      rw [taken] at succeeded
      cases succeeded
    | ok passed =>
      rw [taken] at succeeded
      dsimp only at succeeded
      cases replied : (adapter.method served.object passed).run services state with
      | mk result final =>
        rw [replied] at succeeded
        obtain ⟨answered, rfl⟩ := Prod.mk.inj succeeded
        refine ⟨typed, passed, result, rfl, replied, fun surfaces => ?_⟩
        cases result with
        | error error => simp [answer, surfaces] at answered
        | ok reply => exact ⟨reply, rfl⟩
  · rw [run_invoke_mismatched typed] at succeeded
    cases succeeded

end Adapter

/-- Lets go what belongs to a call that has ended, and notes a failure of it. -/
def Container.endCall (container : Container σ) (context : OperationContext)
    (result : Except Failure Outcome) : Container σ :=
  let released := container.releaseCall context
  match result with
  | .ok _ => released
  | .error failure => released.report (.invocationFailed failure)

namespace ServiceState

/-- The state in which the adapter of a call is invoked. -/
def callStarted (state : ServiceState σ) (context : OperationContext) : ServiceState σ :=
  { state with container := state.container.report .invoking, current := some context }

/-- The state after a call, from the one in which its adapter was invoked and what that made of
it. -/
def callEnded (before : ServiceState σ) (context : OperationContext)
    (ended : Except Failure Outcome × ServiceState σ) : ServiceState σ :=
  { ended.2 with
    container := ended.2.container.endCall context ended.1
    current := before.current }

end ServiceState

/-- The adapter answers for the call, whose context is current meanwhile. -/
theorem Invocable.run_serve (adapter : Invocable σ) (served : ServiceInstance)
    (inputs : InputBuffer) (context : OperationContext) :
    (adapter.serve served inputs context).run services state =
      (((adapter.invoke served inputs).run services (state.callStarted context)).1,
        state.callEnded context
          ((adapter.invoke served inputs).run services (state.callStarted context))) := by
  simp only [serve, Serving.run_bind, Serving.run_report, Serving.run_attempt,
    Serving.run_withCurrent, OperationContext.run_release, ServiceState.callEnded,
    ServiceState.callStarted]
  cases (adapter.invoke served inputs).run services
      { state with container := state.container.report .invoking, current := some context } with
  | mk result after =>
    cases result with
    | ok outcome => rfl
    | error failure => rfl

namespace Registry

variable {α : Type} {registry : Registry α} {view : α → Invocable σ} {key : String}

/-- A look-up finds an adapter without a report, or reports that there is none. -/
theorem lookup_cases (registry : Registry α) (key : String) :
    (∃ adapter, registry.lookup key = .ok adapter ∧ registry.lookupEvents key = []) ∨
      registry.lookup key = .error (.registryMiss key) ∧
        registry.lookupEvents key = [.adapterMissing key] := by
  rw [Registry.lookup, Registry.lookupEvents, Registry.contains, Keyed.contains]
  cases registry.adapters.get? key with
  | some adapter => exact .inl ⟨adapter, rfl, rfl⟩
  | none => exact .inr ⟨rfl, rfl⟩

/-- A call whose key has an adapter is refused for the number of its arguments or handed to that
adapter. -/
theorem run_dispatch {adapter : α} (found : registry.lookup key = .ok adapter)
    (served : ServiceInstance) (arguments : List Value) (context : OperationContext) :
    (registry.dispatch view key served arguments context).run services state =
      let slots := (view adapter).allocateInputs.length
      if arguments.length = slots then
        ((view adapter).serve served (.holding arguments) context).run services state
      else
        (.error (.argumentCount key slots arguments.length),
          { state with container := state.container.releaseCall context }) := by
  obtain ⟨_, -, silent⟩ | ⟨missing, -⟩ := lookup_cases registry key
  · rw [dispatch, silent, Serving.run_bind, Serving.run_reportAll]
    simp only [select, found, Invocable.prepare_eq, List.foldl_nil]
    by_cases count : arguments.length = (view adapter).allocateInputs.length
    · simp only [if_pos count, Except.map]
    · simp only [if_neg count, Except.map, Serving.run_bind, OperationContext.run_release,
        Serving.run_throw]
  · rw [found] at missing
    cases missing

/-- A call whose key has no adapter is refused. -/
theorem run_dispatch_missing (missing : registry.lookup key = .error (.registryMiss key))
    (served : ServiceInstance) (arguments : List Value) (context : OperationContext) :
    (registry.dispatch view key served arguments context).run services state =
      (.error (.registryMiss key),
        { state with
          container :=
            (state.container.report (.adapterMissing key)).releaseCall context }) := by
  obtain ⟨_, found, -⟩ | ⟨-, noted⟩ := lookup_cases registry key
  · rw [found] at missing
    cases missing
  · rw [dispatch, noted, Serving.run_bind, Serving.run_reportAll]
    simp only [select, missing, Serving.run_bind, OperationContext.run_release,
      Serving.run_throw, List.foldl_cons, List.foldl_nil]

end Registry

namespace AdapterRegistry

variable {registry : AdapterRegistry σ} {key : String} {adapter : Adapter σ}

/-- The adapter answers for the call, whose context is current meanwhile. -/
theorem run_invoke (adapter : Adapter σ) (served : ServiceInstance) (inputs : InputBuffer)
    (context : OperationContext) :
    (invoke adapter served inputs context).run services state =
      (((adapter.invoke served inputs).run services (state.callStarted context)).1,
        state.callEnded context
          ((adapter.invoke served inputs).run services (state.callStarted context))) :=
  adapter.invocable.run_serve served inputs context

/-- A call whose key has an adapter is refused for the number of its arguments or handed to that
adapter. -/
theorem run_dispatch (found : registry.lookup key = .ok adapter) (served : ServiceInstance)
    (arguments : List Value) (context : OperationContext) :
    (registry.dispatch key served arguments context).run services state =
      if arguments.length = adapter.plan.slots then
        (invoke adapter served (.holding arguments) context).run services state
      else
        (.error (.argumentCount key adapter.plan.slots arguments.length),
          { state with container := state.container.releaseCall context }) := by
  have slots : adapter.invocable.allocateInputs.length = adapter.plan.slots :=
    List.length_replicate
  rw [dispatch, Registry.run_dispatch found, slots]
  rfl

/-- A call whose key has no adapter is refused. -/
theorem run_dispatch_missing (missing : registry.lookup key = .error (.registryMiss key))
    (served : ServiceInstance) (arguments : List Value) (context : OperationContext) :
    (registry.dispatch key served arguments context).run services state =
      (.error (.registryMiss key),
        { state with
          container :=
            (state.container.report (.adapterMissing key)).releaseCall context }) :=
  Registry.run_dispatch_missing missing served arguments context

end AdapterRegistry

end ServiceDispatch
