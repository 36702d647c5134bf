import ServiceDispatch.Call.Dispatch
import ServiceDispatch.Call.Injection

/-!
# Running calls

What each building block of serving a call answers and leaves behind, as equations over `run`. They
are complete, so that later modules never look into the monad.
-/

namespace ServiceDispatch

/-- A run that is known to have succeeded gives a value, whatever stands in for one otherwise. -/
theorem eq_of_isOk {ε α β : Type} {result : Except ε α × β} (other : α)
    (succeeded : result.1.isOk = true) :
    result = (.ok (result.1.toOption.getD other), result.2) := by
  match result, succeeded with
  | (.ok _, _), _ => rfl

namespace Serving

variable {σ ε ε' α β : Type} (services : Services σ) (state : ServiceState σ)

@[simp] theorem run_pure (value : α) :
    (pure value : Serving σ ε α).run services state = (.ok value, state) := rfl

@[simp] theorem run_throw (error : ε) :
    (throw error : Serving σ ε α).run services state = (.error error, state) := rfl

/-- An error ends a sequence and keeps what was done before it. -/
theorem run_bind (action : Serving σ ε α) (next : α → Serving σ ε β) :
    (action >>= next).run services state =
      match action.run services state with
      | (.ok value, after) => (next value).run services after
      | (.error error, after) => (.error error, after) := by
  simp only [run, bind, ReaderT.bind, ExceptT.bind, ExceptT.run, ExceptT.mk,
    StateT.bind, StateT.run]
  cases action services state with
  | mk result after => cases result <;> rfl

/-- Changing the answer of an action changes nothing else. -/
theorem run_map (action : Serving σ ε α) (change : α → β) :
    (change <$> action).run services state =
      ((action.run services state).1.map change, (action.run services state).2) := by
  simp only [run, Functor.map, ExceptT.map, ExceptT.run, ExceptT.mk, bind, StateT.bind, StateT.run]
  cases action services state with
  | mk result after => cases result <;> rfl

@[simp] theorem run_get :
    (get : Serving σ ε (ServiceState σ)).run services state = (.ok state, state) := rfl

@[simp] theorem run_read :
    (read : Serving σ ε (Services σ)).run services state = (.ok services, state) := rfl

@[simp] theorem run_modify (change : ServiceState σ → ServiceState σ) :
    (modify change : Serving σ ε Unit).run services state = (.ok (), change state) := rfl

@[simp] theorem run_modifyGet (change : ServiceState σ → α × ServiceState σ) :
    (modifyGet change : Serving σ ε α).run services state =
      (.ok (change state).1, (change state).2) := rfl

/-- An attempt never fails and answers how the action ended. -/
@[simp] theorem run_attempt (action : Serving σ ε α) :
    (attempt action : Serving σ ε' (Except ε α)).run services state =
      (.ok (action.run services state).1, (action.run services state).2) := rfl

@[simp] theorem run_ofExcept (result : Except ε α) :
    (ofExcept result).run services state = (result, state) := by
  cases result <;> rfl

@[simp] theorem run_modifyContainer (change : Container σ → Container σ) :
    (modifyContainer change : Serving σ ε Unit).run services state =
      (.ok (), { state with container := change state.container }) := rfl

@[simp] theorem run_report (event : Event) :
    (report event : Serving σ ε Unit).run services state =
      (.ok (), { state with container := state.container.report event }) := rfl

@[simp] theorem run_openScope :
    (openScope : Serving σ ε ScopeId).run services state =
      (.ok state.container.openScope.1, { state with container := state.container.openScope.2 }) :=
  rfl

@[simp] theorem run_releaseScope (id : ScopeId) :
    (releaseScope id : Serving σ ε Unit).run services state =
      (.ok (), { state with container := state.container.releaseScope id }) := rfl

/-- A resolution is an attempt that changes the container alone. -/
@[simp] theorem run_resolving (action : Resolution σ α) :
    (resolving action : Serving σ ε (Except Failure α)).run services state =
      (.ok (action.run services state.container).1,
        { state with container := (action.run services state.container).2 }) := rfl

@[simp] theorem run_resolved (action : Resolution σ α) :
    (resolved action).run services state =
      ((action.run services state.container).1,
        { state with container := (action.run services state.container).2 }) := by
  rw [resolved, run_bind, run_resolving]
  exact run_ofExcept _ _ _

/-- The former context is current again whatever the outcome. -/
theorem run_withCurrent (context : OperationContext) (action : Serving σ ε α) :
    (withCurrent context action).run services state =
      ((action.run services { state with current := some context }).1,
        { (action.run services { state with current := some context }).2 with
          current := state.current }) := by
  simp only [withCurrent, run_bind, run_get, run_modify, run_attempt, run_ofExcept]

/-- Events are logged one after another. -/
theorem run_reportAll (events : List Event) :
    (reportAll events : Serving σ ε Unit).run services state =
      (.ok (), { state with container := events.foldl Container.report state.container }) := by
  induction events generalizing state with
  | nil => rfl
  | cons event rest ih =>
    have first : (reportAll (event :: rest) : Serving σ ε Unit) =
        report event >>= fun _ => reportAll rest := rfl
    rw [first, run_bind, run_report]
    exact ih _

end Serving

end ServiceDispatch
