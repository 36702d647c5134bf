import ServiceDispatch.Proofs.Call.Dispatch
import ServiceDispatch.Proofs.Call.Delegation

/-!
# Accounts of scopes

Which scopes are open and how often each has been released, for everything that happens while a call
is served. Resolutions do neither, and a wrapper that opens a scope releases it on every way out.
What implementations do to scopes is a condition here: they may open some, but release them again
and leave others alone.
-/

namespace ServiceDispatch

variable {σ ε α : Type} {services : Services σ}

/-- Whether an event is the release of a scope. -/
def Event.releases (event : Event) (id : ScopeId) : Bool :=
  match event with
  | .scopeReleased released _ => released = id
  | _ => false

namespace Container

/-- How often a scope has been released. -/
def releases (container : Container σ) (id : ScopeId) : Nat :=
  container.log.countP (·.releases id)

/-- How often a scope should have been released: once if it was opened and is not open any more. -/
def closings (container : Container σ) (id : ScopeId) : Nat :=
  if container.openness[id.index]? = some false then 1 else 0

variable {before middle after container : Container σ}

theorem nextScope_index (container : Container σ) :
    container.nextScope.index = container.openness.length := by
  rw [nextScope, openness, List.length_map]

/-- Every scope is released whenever, and only when, it ceases to be open. -/
def ReleasesOnce (before after : Container σ) : Prop :=
  ∀ id, after.releases id + before.closings id = before.releases id + after.closings id

/-- No scope is opened or released. -/
structure KeepsScopes (before after : Container σ) : Prop where
  /-- The open scopes stay the same ones. -/
  openness : after.openness = before.openness
  /-- No release is noted. -/
  releases : ∀ id, after.releases id = before.releases id

/-- Scopes may be opened but are released again, and those that were there before are left
alone. -/
structure Settles (before after : Container σ) : Prop where
  /-- All scopes that were opened have been released. -/
  opened : ∃ count, after.openness = before.openness ++ List.replicate count false
  /-- That was done once for each. -/
  once : ReleasesOnce before after

/-- One scope is opened. -/
structure Opens (before after : Container σ) : Prop where
  /-- It is the last one. -/
  openness : after.openness = before.openness ++ [true]
  /-- No release is noted. -/
  once : ReleasesOnce before after

theorem ReleasesOnce.trans (first : ReleasesOnce before middle)
    (second : ReleasesOnce middle after) : ReleasesOnce before after := by
  intro id
  have former := first id
  have latter := second id
  omega

namespace KeepsScopes

theorem refl (container : Container σ) : KeepsScopes container container := ⟨rfl, fun _ => rfl⟩

theorem trans (first : KeepsScopes before middle) (second : KeepsScopes middle after) :
    KeepsScopes before after :=
  ⟨second.openness.trans first.openness, fun id => (second.releases id).trans (first.releases id)⟩

theorem once (keeps : KeepsScopes before after) : ReleasesOnce before after := by
  intro id
  rw [closings, closings, keeps.openness, keeps.releases]

theorem settles (keeps : KeepsScopes before after) : Settles before after :=
  ⟨⟨0, by rw [keeps.openness, List.replicate_zero, List.append_nil]⟩, keeps.once⟩

/-- Only one kind of report is the release of a scope. -/
theorem report (container : Container σ) {event : Event} (other : ∀ id, event.releases id = false) :
    KeepsScopes container (container.report event) := by
  refine ⟨rfl, fun id => ?_⟩
  simp [Container.releases, Container.report, List.countP_append, other]

end KeepsScopes

theorem Step.keepsScopes {session : Session} (step : Step services session before after) :
    KeepsScopes before after := by
  refine ⟨step.grows.scopes, fun id => ?_⟩
  cases step with
  | report key => exact (KeepsScopes.report before fun _ => rfl).releases id
  | build makes => rfl
  | share makes shares free | adopt existing shares free => rw [releases, log_store]; rfl

/-- Resolutions open and release nothing. -/
theorem Reaches.keepsScopes {session : Session} (reaches : Reaches services session before after) :
    KeepsScopes before after := by
  induction reaches with
  | refl => exact KeepsScopes.refl before
  | tail _ step ih => exact ih.trans step.keepsScopes

namespace Settles

theorem refl (container : Container σ) : Settles container container :=
  (KeepsScopes.refl container).settles

theorem trans (first : Settles before middle) (second : Settles middle after) :
    Settles before after := by
  obtain ⟨former, opened⟩ := first.opened
  obtain ⟨latter, later⟩ := second.opened
  refine ⟨⟨former + latter, ?_⟩, first.once.trans second.once⟩
  rw [later, opened, List.append_assoc, List.replicate_append_replicate]

/-- A scope that was there before stays as it is. -/
theorem getElem?_openness (settles : Settles before after) {place : Nat}
    (there : place < before.openness.length) :
    after.openness[place]? = before.openness[place]? := by
  obtain ⟨count, opened⟩ := settles.opened
  rw [opened, List.getElem?_append_left there]

/-- An open scope was there before and stays open, and no other is open afterwards. -/
theorem open_iff (settles : Settles before after) (place : Nat) :
    after.openness[place]? = some true ↔ before.openness[place]? = some true := by
  by_cases there : place < before.openness.length
  · rw [settles.getElem?_openness there]
  · obtain ⟨count, opened⟩ := settles.opened
    rw [opened, List.getElem?_append_right (Nat.le_of_not_lt there),
      List.getElem?_eq_none (Nat.le_of_not_lt there)]
    simp [List.getElem?_replicate]

end Settles

namespace Opens

/-- The scope is open. -/
theorem getElem?_nextScope (opens : Opens before after) :
    after.openness[before.nextScope.index]? = some true := by
  rw [opens.openness, nextScope_index, List.getElem?_concat_length]

theorem trans_keeps (opens : Opens before middle) (keeps : KeepsScopes middle after) :
    Opens before after :=
  ⟨keeps.openness.trans opens.openness, opens.once.trans keeps.once⟩

theorem openScope (container : Container σ) : Opens container container.openScope.2 := by
  have same : container.openScope.2.openness = container.openness ++ [true] := by
    simp [Container.openScope, Container.openness, Container.report]
  refine ⟨same, fun id => ?_⟩
  have unreleased : container.openScope.2.releases id = container.releases id := by
    simp [Container.openScope, Container.releases, Container.report, List.countP_append,
      Event.releases]
  have closed : container.openScope.2.closings id = container.closings id := by
    rw [closings, closings, same, List.getElem?_append]
    split
    · rfl
    · rename_i outside
      rw [List.getElem?_eq_none (Nat.le_of_not_lt outside)]
      cases (id.index - container.openness.length) <;> rfl
  rw [unreleased, closed]

end Opens

@[simp] theorem openness_releaseScope (container : Container σ) (id : ScopeId) :
    (container.releaseScope id).openness = container.openness.set id.index false := by
  simp [releaseScope, report, openness, List.map_set]

/-- An open scope is released, and nothing happens to the others. -/
theorem releasesOnce_releaseScope {id : ScopeId}
    (isOpen : container.openness[id.index]? = some true) :
    ReleasesOnce container (container.releaseScope id) := by
  intro other
  have counted : (container.releaseScope id).releases other =
      container.releases other + if id = other then 1 else 0 := by
    simp [releaseScope, releases, report, List.countP_append, Event.releases,
      List.countP_singleton]
  have there : id.index < container.openness.length := (List.getElem?_eq_some_iff.mp isOpen).1
  rw [counted, closings, closings, openness_releaseScope, List.getElem?_set]
  by_cases same : id = other
  · subst same
    rw [isOpen]
    simp [there]
  · have apart : id.index ≠ other.index := fun equal => same (congrArg ScopeId.mk equal)
    simp [same, apart]

/-- A scope that was opened is released, whatever else was opened and released meanwhile. -/
theorem Opens.settles_release (opens : Opens before middle) (settles : Settles middle after) :
    Settles before (after.releaseScope before.nextScope) := by
  obtain ⟨count, opened⟩ := settles.opened
  rw [opens.openness] at opened
  have isOpen : after.openness[before.nextScope.index]? = some true :=
    (settles.open_iff _).mpr opens.getElem?_nextScope
  refine ⟨⟨count + 1, ?_⟩,
    (opens.once.trans settles.once).trans (releasesOnce_releaseScope isOpen)⟩
  rw [openness_releaseScope, opened, nextScope_index, List.replicate_succ, List.append_assoc,
    List.set_append_right _ _ (Nat.le_refl _)]
  simp

end Container

open Container (KeepsScopes Settles Opens)

/-- A session can be asked for services: it is the container itself or a scope that has not been
released. -/
def Session.IsOpen (container : Container σ) : Session → Prop
  | .root => True
  | .scope id => container.openness[id.index]? = some true

theorem Session.IsOpen.of_settles {session : Session} {before after : Container σ}
    (isOpen : session.IsOpen before) (settles : Settles before after) :
    session.IsOpen after := by
  cases session with
  | root => trivial
  | scope id => exact (settles.open_iff id.index).mpr isOpen

/-- Whatever scopes an action opens, it releases them again, and it leaves others alone. -/
def Serving.Settles (services : Services σ) (action : Serving σ ε α) : Prop :=
  ∀ state, Container.Settles state.container (action.run services state).2.container

namespace Wrapper

variable {wrapper : Wrapper σ} {context : OperationContext} {state : ServiceState σ}
  {reached : List (Injected TargetType)} {object : InstanceId} {passed : List Value}

/-- How a wrapper may be run. -/
inductive Runs (wrapper : Wrapper σ) (services : Services σ) (state : ServiceState σ)
    (object : InstanceId) (passed : List Value) :
    Except OperationError Reply × ServiceState σ → Prop where
  /-- The implementation is run at once. -/
  | direct :
      Runs wrapper services state object passed
        ((wrapper.call object passed (wrapper.plan.injected.map absent)).run services state)
  /-- No call is being served, and something is to be injected that only a call has. -/
  | stranded :
      Runs wrapper services state object passed
        (.error (wrapper.convert .noOperationContext), state)
  /-- A binding fails. -/
  | refused {context : OperationContext} {reached later : List (Injected TargetType)}
      {failure : Failure} {after : Container σ} (serving : state.current = some context)
      (split : wrapper.plan.injected = reached ++ later)
      (refused : Refused services context (sessionOf context state)
        (begun context reached state).container reached failure after) :
      Runs wrapper services state object passed
        (.error (wrapper.convert failure),
          ended context reached state { begun context reached state with container := after })
  /-- The implementation is run with what all bindings were answered. -/
  | served {context : OperationContext} {arguments : List Argument} {after : Container σ}
      {result : Except OperationError Reply} {final : ServiceState σ}
      (serving : state.current = some context)
      (answered : Answered services context (sessionOf context state)
        (begun context wrapper.plan.injected state).container wrapper.plan.injected arguments
        after)
      (calling : (wrapper.call object passed arguments).run services
        { begun context wrapper.plan.injected state with container := after } = (result, final)) :
      Runs wrapper services state object passed
        (result, ended context wrapper.plan.injected state final)

theorem runs (wrapper : Wrapper σ) (services : Services σ) (state : ServiceState σ)
    (object : InstanceId) (passed : List Value) :
    wrapper.Runs services state object passed
      ((wrapper.method object passed).run services state) := by
  by_cases injects : wrapper.plan.injected = []
  · rw [run_method_direct (.inl injects)]
    exact .direct
  · cases current : state.current with
    | none =>
      cases fallible : wrapper.plan.isFallible with
      | true =>
        rw [run_method_stranded current fallible]
        exact .stranded
      | false =>
        rw [run_method_direct (.inr ⟨current, fallible⟩)]
        exact .direct
    | some context =>
      obtain ⟨arguments, after, answered⟩ | ⟨reached, later, failure, after, split, refused⟩ :=
        answered_or_refused_begun services context state wrapper.plan.injected
      · rw [run_method_served current injects answered]
        exact .served current answered rfl
      · rw [run_method_refused current split refused]
        exact .refused current split refused

/-- A session that a call has opened for itself is open for the bindings. -/
theorem opens_begun (isolated : isolates context reached = true) :
    Opens state.container (begun context reached state).container := by
  rw [begun, if_pos isolated]
  have noted : KeepsScopes state.container
      (state.container.report (.sessionIsolated context.action)) :=
    KeepsScopes.report _ fun _ => rfl
  have opens := Opens.openScope (state.container.report (.sessionIsolated context.action))
  exact ⟨opens.openness.trans (by rw [noted.openness]), noted.once.trans opens.once⟩

/-- The session of a call is released once, after all that was done with it. -/
theorem settles_ended {final : ServiceState σ}
    (settles : Settles (begun context reached state).container final.container) :
    Settles state.container (ended context reached state final).container := by
  cases isolated : isolates context reached with
  | false => simpa [ended, begun, isolated] using settles
  | true =>
    have noted : Settles final.container
        (final.container.report (.sessionReleased context.action)) :=
      (KeepsScopes.report _ fun _ => rfl).settles
    simpa [ended, isolated] using (opens_begun isolated).settles_release (settles.trans noted)

/-- A wrapper around an implementation that settles does so on every way out. -/
theorem settles_method
    (settles : ∀ object arguments, (wrapper.implementation object arguments).Settles services)
    (object : InstanceId) (passed : List Value) :
    (wrapper.method object passed).Settles services := by
  intro state
  have runs := wrapper.runs services state object passed
  generalize (wrapper.method object passed).run services state = result at runs
  cases runs with
  | direct => exact settles _ _ state
  | stranded => exact Settles.refl _
  | refused serving split refused => exact settles_ended refused.reaches.keepsScopes.settles
  | @served context arguments after result final serving answered calling =>
    have called := settles object (arrange wrapper.plan.parameters passed arguments)
      { begun context wrapper.plan.injected state with container := after }
    rw [show (wrapper.implementation _ _).run services _ = _ from calling] at called
    exact settles_ended (answered.reaches.keepsScopes.settles.trans called)

/-- A session that a call has opened for itself is still open when the implementation has been run
with what came from it. -/
theorem open_of_call
    (settles : ∀ object arguments, (wrapper.implementation object arguments).Settles services)
    (isolated : isolates context wrapper.plan.injected = true)
    {arguments : List Argument} {after : Container σ}
    (answered : Answered services context (sessionOf context state)
      (begun context wrapper.plan.injected state).container wrapper.plan.injected arguments
      after)
    (object : InstanceId) (passed : List Value) :
    ((wrapper.call object passed arguments).run services
      { begun context wrapper.plan.injected state with
        container := after }).2.container.openness[state.container.nextScope.index]? =
      some true := by
  have opens := (opens_begun isolated).trans_keeps answered.reaches.keepsScopes
  have called := settles object (arrange wrapper.plan.parameters passed arguments)
    { begun context wrapper.plan.injected state with container := after }
  exact (called.open_iff _).mpr opens.getElem?_nextScope

end Wrapper

/-- The method behind an adapter leaves no scope open and releases none of others: it is a method
that does so, or a wrapper around an implementation that does. -/
inductive Adapter.IsDiscreet (services : Services σ) (adapter : Adapter σ) : Prop where
  /-- The method itself settles. -/
  | direct (settles : ∀ object passed, (adapter.method object passed).Settles services)
  /-- The implementation that the method wraps settles. -/
  | wrapped (wrapper : Wrapper σ) (wraps : adapter.method = wrapper.method)
      (settles : ∀ object arguments, (wrapper.implementation object arguments).Settles services)

namespace Adapter

variable {adapter : Adapter σ}

theorem IsDiscreet.settles_method (discreet : adapter.IsDiscreet services) (object : InstanceId)
    (passed : List Value) : (adapter.method object passed).Settles services := by
  cases discreet with
  | direct settles => exact settles object passed
  | wrapped wrapper wraps settles =>
    rw [wraps]
    exact Wrapper.settles_method settles object passed

/-- Invoking the adapter does no more to scopes than its method. -/
theorem IsDiscreet.settles_invoke (discreet : adapter.IsDiscreet services)
    (served : ServiceInstance) (inputs : InputBuffer) :
    (adapter.invoke served inputs).Settles services := by
  intro state
  obtain same | ⟨passed, same⟩ := adapter.state_invoke services state served inputs
  · rw [same]
    exact Settles.refl _
  · rw [same]
    exact discreet.settles_method served.object passed state

end Adapter

end ServiceDispatch
