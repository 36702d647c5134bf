import ServiceDispatch.Proofs.Call.Dispatch

/-!
# Admitting calls

A call is refused before anything is invoked, or its adapter is invoked with just the arguments of
the call, under the context of the call, and answers for it. Adapters may do anything, also dispatch
further calls. What a registry holds is left open as well, be it sealed or not.
-/

namespace ServiceDispatch

variable {σ α : Type}

namespace InputBuffer

@[simp] theorem length_holding (values : List Value) :
    (holding values).length = values.length := List.length_map some

/-- Each slot of a filled buffer holds the value of its place. -/
theorem held?_holding (values : List Value) (place : Nat) :
    (holding values).held? place = values[place]? := by
  rw [held?, holding, List.getElem?_map]
  cases values[place]? <;> rfl

end InputBuffer

section

variable {services : Services σ} {state : ServiceState σ} {registry : Registry α}
  {view : α → Invocable σ} {key : String} {served : ServiceInstance} {arguments : List Value}
  {context : OperationContext}

/-- However a call ends, the context that was current before it is current again. -/
theorem Registry.current_dispatch :
    ((registry.dispatch view key served arguments context).run services state).2.current =
      state.current := by
  obtain ⟨adapter, found, -⟩ | ⟨missing, -⟩ := lookup_cases registry key
  · rw [run_dispatch found]
    dsimp only
    split
    · rw [Invocable.run_serve]
      rfl
    · rfl
  · rw [run_dispatch_missing missing]

end

/-- An operation comes from one state to another: by steps of its own, which leave the current
context alone, and by calls that it dispatches from inside, to adapters of any kind. -/
inductive Operates (services : Services σ) (first : ServiceState σ) : ServiceState σ → Prop where
  /-- Nothing is done yet. -/
  | start : Operates services first first
  /-- A step of the operation itself. -/
  | step {last next : ServiceState σ} (before : Operates services first last)
      (alone : next.current = last.current) : Operates services first next
  /-- A call from inside, which may fail. -/
  | dispatch {last : ServiceState σ} (before : Operates services first last) {β : Type}
      (registry : Registry β) (view : β → Invocable σ) (key : String) (served : ServiceInstance)
      (arguments : List Value) (context : OperationContext) :
      Operates services first
        ((registry.dispatch view key served arguments context).run services last).2

/-- Whatever an operation has dispatched so far, it works in the context that it began in. -/
theorem Operates.current_eq {services : Services σ} {first last : ServiceState σ}
    (operates : Operates services first last) : last.current = first.current := by
  induction operates with
  | start => rfl
  | step _ alone ih => exact alone.trans ih
  | dispatch _ registry view key served arguments context ih =>
    exact Registry.current_dispatch.trans ih

/-- What dispatching makes of a call, by the ways it may go. Every equation says what is run and
what the state is afterwards, so nothing else happens on that way, and an adapter that is invoked is
invoked once. -/
structure Registry.Admits (registry : Registry α) (view : α → Invocable σ)
    (services : Services σ) (state : ServiceState σ) (key : String) (served : ServiceInstance)
    (arguments : List Value) (context : OperationContext) : Prop where
  /-- A call whose key has no adapter is refused; the registry answers from the adapters of its
  sealing, or from those staged so far. -/
  missing : registry.adapters.get? key = none →
    (registry.dispatch view key served arguments context).run services state =
      (.error (.registryMiss key),
        { state with
          container := (state.container.report (.adapterMissing key)).releaseCall context })
  /-- Otherwise a call is refused that has not an argument for each slot. -/
  miscounted : ∀ {adapter n}, registry.adapters.get? key = some adapter →
    (view adapter).allocateInputs.length = n → arguments.length ≠ n →
    (registry.dispatch view key served arguments context).run services state =
      (.error (.argumentCount key n arguments.length),
        { state with container := state.container.releaseCall context })
  /-- Any other call is answered by its adapter. Whether that succeeds or fails, its answer is the
  answer of the call. -/
  invoked : ∀ {adapter n}, registry.adapters.get? key = some adapter →
    (view adapter).allocateInputs.length = n → arguments.length = n →
    let ended :=
      ((view adapter).invoke served (.holding arguments)).run services (state.callStarted context)
    (registry.dispatch view key served arguments context).run services state =
      (ended.1, state.callEnded context ended)
  /-- The slots that the adapter asked for take all arguments, whatever they held, -/
  filled : ∀ {adapter n}, (view adapter).allocateInputs.length = n → arguments.length = n →
    (view adapter).allocateInputs.fill arguments = (.holding arguments, .ok ())
  /-- and none of them is left empty or holds anything else than the argument of its place. -/
  slots : (InputBuffer.holding arguments).length = arguments.length ∧
    ∀ place, (InputBuffer.holding arguments).held? place = arguments[place]?
  /-- The context of the call is current from the beginning of its operation to the end, also after
  calls that the operation dispatches from inside. -/
  current : ∀ {now}, Operates services (state.callStarted context) now →
    now.current = some context
  /-- Afterwards the former one is, or none if there was none. -/
  restored :
    ((registry.dispatch view key served arguments context).run services state).2.current =
      state.current
  /-- A call of the operation that a signature describes is a call under its key. -/
  bySignature : ∀ signature : Signature, signature.key.text = key →
    registry.dispatchSignature view signature served arguments context =
      registry.dispatch view key served arguments context

/-- Whatever a registry holds, a dispatched call is checked, and then answered by its adapter. -/
theorem Registry.dispatch_admits (registry : Registry α) (view : α → Invocable σ)
    (services : Services σ) (state : ServiceState σ) (key : String) (served : ServiceInstance)
    (arguments : List Value) (context : OperationContext) :
    registry.Admits view services state key served arguments context where
  missing absent := by
    have missing : registry.lookup key = .error (.registryMiss key) := by rw [lookup, absent]
    exact run_dispatch_missing missing served arguments context
  miscounted {adapter n} here slots count := by
    have found : registry.lookup key = .ok adapter := by rw [lookup, here]
    subst slots
    rw [run_dispatch found]
    exact if_neg count
  invoked {adapter n} here slots count := by
    have found : registry.lookup key = .ok adapter := by rw [lookup, here]
    subst slots
    rw [run_dispatch found]
    exact (if_pos count).trans (Invocable.run_serve _ _ _ _)
  filled slots count := InputBuffer.fill_of_length (count.trans slots.symm)
  slots := ⟨InputBuffer.length_holding arguments, InputBuffer.held?_holding arguments⟩
  current operates := operates.current_eq
  restored := current_dispatch
  bySignature signature same := by
    subst same
    rfl

end ServiceDispatch
