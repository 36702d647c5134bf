import ServiceDispatch.Proofs.Call.Delegation
import ServiceDispatch.Proofs.Call.Dispatch

/-!
# Errors on their way to the caller

An error of an operation reaches the caller of the outermost call as it is, or within one layer if
it is foreign to the library, however many operations in between have dispatched one another and
handed the failure on. What those operations do before and after their calls is left open. An
operation that makes an error of its own out of the failure of a call is not covered; that error is
one of its own.
-/

namespace ServiceDispatch

variable {σ : Type} {services : Services σ} {state : ServiceState σ}

namespace Failure

/-- A failure that has surfaced surfaces again as it is. -/
theorem surface_own_surface (error : OperationError) :
    surface (.own (surface error)) = surface error := rfl

/-- A foreign error is recovered as what it is and as nothing else. -/
theorem recover_surface_foreign (source : ForeignError) (kind : String) :
    (surface (.foreign source)).recover kind =
      if source.kind = kind then some source else none := by
  by_cases same : source.kind = kind <;> simp [surface, recover, operation?, Option.filter, same]

end Failure

/-- A call of an operation with all that it is dispatched with. -/
structure Call (σ : Type) where
  /-- The registry that finds the adapter. -/
  registry : AdapterRegistry σ
  /-- The key of the operation. -/
  key : String
  /-- The instance that serves the call. -/
  served : ServiceInstance
  /-- The arguments. -/
  arguments : List Value
  /-- The context of the call. -/
  context : OperationContext

namespace Call

/-- Dispatches a call. -/
def dispatch (call : Call σ) : Run σ Outcome :=
  call.registry.dispatch call.key call.served call.arguments call.context

/-- A call gets as far as the method of its operation, with some values for the parameters. -/
structure Arrives (call : Call σ) (adapter : Adapter σ) (passed : List Value) : Prop where
  /-- The operation has an adapter. -/
  found : call.registry.lookup call.key = .ok adapter
  /-- There is an argument for each slot of it. -/
  count : call.arguments.length = adapter.plan.slots
  /-- The instance is of its contract. -/
  typed : call.served.typeName = adapter.contract
  /-- The arguments are of the types of its parameters. -/
  taken : AdapterPlan.takeArguments adapter.plan.bindings (.holding call.arguments) = .ok passed

/-- A call gets as far as the method of its operation, through an adapter that surfaces errors. -/
structure Reaches (call : Call σ) (adapter : Adapter σ) (passed : List Value) : Prop extends
    call.Arrives adapter passed where
  /-- An error of the method ends the call. -/
  surfaces : adapter.plan.surfaces = true

/-- What the method of a call does when it is run for it. -/
def operation (call : Call σ) (adapter : Adapter σ) (passed : List Value) : Operating σ Reply :=
  adapter.method call.served.object passed

variable {call : Call σ} {adapter : Adapter σ} {passed : List Value}

/-- A call that gets as far as its method answers what becomes of that. -/
theorem Arrives.dispatch_eq (arrives : call.Arrives adapter passed) :
    (call.dispatch.run services state).1 =
      adapter.answer passed
        ((call.operation adapter passed).run services (state.callStarted call.context)).1 := by
  rw [dispatch, AdapterRegistry.run_dispatch arrives.found, if_pos arrives.count,
    AdapterRegistry.run_invoke, Adapter.run_invoke arrives.typed, arrives.taken]
  rfl

theorem Reaches.dispatch_of_error (reaches : call.Reaches adapter passed) {error : OperationError}
    (fails : ((call.operation adapter passed).run services
      (state.callStarted call.context)).1 = .error error) :
    (call.dispatch.run services state).1 = .error (.surface error) := by
  rw [reaches.dispatch_eq, fails]
  exact if_pos reaches.surfaces

/-- Through an adapter that surfaces no errors, a method that fails has answered. -/
theorem Arrives.dispatch_of_unsurfaced (arrives : call.Arrives adapter passed)
    (unsurfaced : adapter.plan.surfaces = false) {error : OperationError}
    (fails : ((call.operation adapter passed).run services
      (state.callStarted call.context)).1 = .error error) :
    (call.dispatch.run services state).1 = .ok (adapter.plan.outcome passed (.failed error)) := by
  rw [arrives.dispatch_eq, fails]
  exact if_neg (by simp [unsurfaced])

end Call

/-- A way to go on after a call that ends with the failure of the call if it has one, whatever else
it does before that. -/
def Returns (services : Services σ) (rest : Except Failure Outcome → Operating σ Reply) : Prop :=
  ∀ failure state, ((rest (.error failure)).run services state).1 = .error (.own failure)

/-- An operation, run in a state, comes to dispatch a call in another one and returns the failure of
that call if it has one. -/
inductive HandsOn (services : Services σ) :
    Operating σ Reply → ServiceState σ → Call σ → ServiceState σ → Prop where
  /-- It does something first, which may include calls of any kind, and then dispatches the call. -/
  | call {α : Type} {first : Operating σ α} {rest : α → Except Failure Outcome → Operating σ Reply}
      {state middle : ServiceState σ} {value : α} (inner : α → Call σ)
      (before : first.run services state = (.ok value, middle))
      (returns : Returns services (rest value)) :
      HandsOn services
        (first >>= fun value => Serving.attempt (inner value).dispatch >>= rest value) state
        (inner value) middle
  /-- It is a wrapper without anything to inject, or with properties alone outside of a call, and
  its implementation does so. -/
  | direct {wrapper : Wrapper σ} {object : InstanceId} {passed : List Value}
      {state middle : ServiceState σ} {inner : Call σ}
      (direct : wrapper.plan.injected = [] ∨
        state.current = none ∧ wrapper.plan.isFallible = false)
      (handsOn : HandsOn services
        (wrapper.call object passed (wrapper.plan.injected.map Wrapper.absent)) state inner
        middle) :
      HandsOn services (wrapper.method object passed) state inner middle
  /-- It is a wrapper whose bindings are answered, and its implementation does so. -/
  | wrapped {wrapper : Wrapper σ} {object : InstanceId} {passed : List Value}
      {state middle : ServiceState σ} {inner : Call σ} {context : OperationContext}
      {arguments : List Argument} {after : Container σ} (serving : state.current = some context)
      (injects : wrapper.plan.injected ≠ [])
      (answered : Wrapper.Answered services context (Wrapper.sessionOf context state)
        (Wrapper.begun context wrapper.plan.injected state).container wrapper.plan.injected
        arguments after)
      (handsOn : HandsOn services (wrapper.call object passed arguments)
        { Wrapper.begun context wrapper.plan.injected state with container := after } inner
        middle) :
      HandsOn services (wrapper.method object passed) state inner middle

/-- The failure of a call becomes an error of the operation that has dispatched it, as a failure of
the library, whether the operation is wrapped or not. -/
theorem HandsOn.run_eq {operation : Operating σ Reply} {inner : Call σ} {middle : ServiceState σ}
    (handsOn : HandsOn services operation state inner middle) {failure : Failure}
    (fails : (inner.dispatch.run services middle).1 = .error failure) :
    (operation.run services state).1 = .error (.own failure) := by
  induction handsOn with
  | call inner before returns =>
    simp only [Serving.run_bind, before, Serving.run_attempt, fails]
    exact returns failure _
  | direct direct _ ih =>
    rw [Wrapper.run_method_direct direct]
    exact ih fails
  | wrapped serving injects answered _ ih =>
    rw [Wrapper.run_method_served serving injects answered]
    exact ih fails

namespace Call

/-- A call fails by an error that an operation ends with: its own one, or that of a call that so
many operations have dispatched from inside, one within the other, each of which returns what the
next one fails with. -/
inductive Raises (services : Services σ) (error : OperationError) :
    (depth : Nat) → Call σ → ServiceState σ → Prop where
  /-- The operation of the call ends with the error. -/
  | own {call : Call σ} {adapter : Adapter σ} {passed : List Value} {state : ServiceState σ}
      (reaches : call.Reaches adapter passed)
      (fails : ((call.operation adapter passed).run services
        (state.callStarted call.context)).1 = .error error) :
      Raises services error 0 call state
  /-- The operation of the call returns the failure of a call from inside. -/
  | inside {depth : Nat} {call inner : Call σ} {adapter : Adapter σ} {passed : List Value}
      {state middle : ServiceState σ} (reaches : call.Reaches adapter passed)
      (handsOn : HandsOn services (call.operation adapter passed)
        (state.callStarted call.context) inner middle)
      (raises : Raises services error depth inner middle) :
      Raises services error (depth + 1) call state

variable {call inner : Call σ} {adapter : Adapter σ} {passed : List Value}

/-- One level more changes nothing about a failure, wherever that comes from. -/
theorem Reaches.dispatch_of_handsOn {middle : ServiceState σ}
    (reaches : call.Reaches adapter passed)
    (handsOn : HandsOn services (call.operation adapter passed) (state.callStarted call.context)
      inner middle)
    {failure : Failure} (fails : (inner.dispatch.run services middle).1 = .error failure) :
    (call.dispatch.run services state).1 = .error failure :=
  reaches.dispatch_of_error (handsOn.run_eq fails)

/-- However deep the calls are nested, the outermost one fails with the error, surfaced once. -/
theorem Raises.dispatch_eq {error : OperationError} {depth : Nat}
    (raises : call.Raises services error depth state) :
    (call.dispatch.run services state).1 = .error (.surface error) := by
  induction raises with
  | own reaches fails => exact reaches.dispatch_of_error fails
  | inside reaches handsOn _ ih => exact reaches.dispatch_of_handsOn handsOn ih

/-- A wrapper ends a call with what it makes of the failure of the first binding that fails. -/
theorem Reaches.raises_of_refused {wrapper : Wrapper σ} (reaches : call.Reaches adapter passed)
    (wrapped : adapter.method = wrapper.method) {reached later : List (Injected TargetType)}
    (split : wrapper.plan.injected = reached ++ later) {failure : Failure} {after : Container σ}
    (refused : Wrapper.Refused services call.context
      (Wrapper.sessionOf call.context (state.callStarted call.context))
      (Wrapper.begun call.context reached (state.callStarted call.context)).container reached
      failure after) :
    call.Raises services (wrapper.convert failure) 0 state := by
  refine .own reaches ?_
  rw [operation, wrapped, Wrapper.run_method_refused rfl split refused]

end Call

/-- An adapter of an operation without parameters that does what is given. -/
def Adapter.performing (action : Operating σ Reply) : Adapter σ :=
  ⟨⟨"Relay", "Perform", [], .void⟩, "Relay", ⟨0, [], false, true, false⟩, fun _ _ => action⟩

namespace Call

/-- A call of an operation that does what is given. -/
def performing (context : OperationContext) (action : Operating σ Reply) : Call σ where
  registry := .ofEntries [(⟨"perform"⟩, .performing action)]
  key := "perform"
  served := .ofType "Relay" ⟨0⟩
  arguments := []
  context := context

theorem performing_reaches (context : OperationContext) (action : Operating σ Reply) :
    (performing context action).Reaches (.performing action) [] := ⟨⟨rfl, rfl, rfl, rfl⟩, rfl⟩

/-- Goes on after a call by returning its failure. -/
def returnFailure : Except Failure Outcome → Operating σ Reply
  | .ok _ => pure .done
  | .error failure => throw (.own failure)

/-- An operation that dispatches a call and returns its failure. -/
def relay (inner : Call σ) : Operating σ Reply := do
  pure ()
  Serving.attempt inner.dispatch >>= returnFailure

/-- A call of an operation that fails, within so many calls of operations that return its
failure. -/
def nested (context : OperationContext) (error : OperationError) : Nat → Call σ
  | 0 => performing context (throw error)
  | depth + 1 => performing context (nested context error depth).relay

theorem returns_returnFailure : Returns services returnFailure := fun _ _ => rfl

theorem relay_handsOn (inner : Call σ) : HandsOn services inner.relay state inner state :=
  @HandsOn.call σ services Unit (pure ()) (fun _ => returnFailure) state state () (fun _ => inner)
    rfl returns_returnFailure

/-- There are calls nested to any depth that fail by any error. -/
theorem nested_raises (context : OperationContext) (error : OperationError) (depth : Nat) :
    (nested context error depth).Raises services error depth state := by
  induction depth generalizing state with
  | zero => exact .own (performing_reaches context _) rfl
  | succ depth ih => exact .inside (performing_reaches context _) (relay_handsOn _) ih

example (context : OperationContext) :
    ((nested context (.foreign ⟨"MathError", "divide by zero"⟩) 3).dispatch.run .empty
        (.initial (.empty : Container Unit))).1 =
      .error (.operation ⟨"MathError", "divide by zero"⟩) :=
  (nested_raises context _ 3).dispatch_eq

end Call

end ServiceDispatch
