import ServiceDispatch.Proofs.Call.Moves
import ServiceDispatch.Proofs.Service.Given

/-!
# Scoped services that are injected

Which instance a wrapper injects for a scoped service: the one that the session of the call shares,
as long as that session is open. So all injections within one call give one instance, and from the
moment of the injection on it can be told where the instance is. Implementations may do with the
container what its users can do, but release the scopes that they open.
-/

namespace ServiceDispatch

variable {σ ε α : Type} {services : Services σ}

/-- The instance that an argument gives, if it is a service. -/
def Argument.object? : Argument → Option InstanceId
  | .service object => some object
  | .optionalService found => found
  | _ => none

theorem Injected.readsContainer_of_key? {injected : Injected TargetType} {key : ServiceKey}
    (named : injected.key? = some key) : injected.plan.readsContainer = true := by
  obtain ⟨plan, target, isOptional⟩ := injected
  cases plan with
  | messageProperty name typeName => cases named
  | transport part => cases named
  | keyedService name => rfl
  | defaultService => rfl

namespace Wrapper

open Container (Reaches Moves Settles)

variable {wrapper : Wrapper σ} {context : OperationContext} {session : Session}
  {before middle after : Container σ} {bindings first second : List (Injected TargetType)}
  {arguments : List Argument}

/-- A binding that is answered with an instance has found it under its key. -/
theorem find_of_answers {injected : Injected TargetType} {key : ServiceKey}
    (named : injected.key? = some key) {argument : Argument} {object : InstanceId}
    (answers : Answers services context session before injected (.ok argument) after)
    (gives : argument.object? = some object) :
    (Resolution.find session key).run services before = (.ok (some object), after) := by
  cases answers with
  | service named' required found =>
    obtain rfl := Option.some.inj (named.symm.trans named')
    obtain rfl := Option.some.inj gives
    exact Resolution.find_of_require found
  | optionalService named' optional looked =>
    obtain rfl := Option.some.inj (named.symm.trans named')
    exact looked.trans (congrArg (fun found => (Except.ok found, after)) gives)
  | _ => cases gives

theorem Answered.append {arguments' : List Argument}
    (former : Answered services context session before first arguments middle)
    (latter : Answered services context session middle second arguments' after) :
    Answered services context session before (first ++ second) (arguments ++ arguments') after := by
  induction former with
  | nil => exact latter
  | cons answered _ ih => exact .cons answered (ih latter)

theorem Answered.refused {failure : Failure}
    (former : Answered services context session before first arguments middle)
    (latter : Refused services context session middle second failure after) :
    Refused services context session before (first ++ second) failure after := by
  obtain ⟨answered, fails⟩ := latter
  rw [← List.append_assoc]
  exact .last (former.append answered) fails

/-- The first of several bindings are answered before the others. -/
theorem Answered.split
    (answered : Answered services context session before (first ++ second) arguments after) :
    ∃ former latter middle, arguments = former ++ latter ∧
      Answered services context session before first former middle ∧
      Answered services context session middle second latter after := by
  induction first generalizing before arguments with
  | nil => exact ⟨[], arguments, before, rfl, .nil before, answered⟩
  | cons injected rest ih =>
    cases answered with
    | cons here others =>
      obtain ⟨former, latter, middle, rfl, answers, answers'⟩ := ih others
      exact ⟨_ :: former, latter, middle, rfl, .cons here answers, answers'⟩

/-- Bindings are answered in one way. -/
theorem Answered.unique {arguments' : List Argument} {after' : Container σ}
    (answered : Answered services context session before bindings arguments after)
    (answered' : Answered services context session before bindings arguments' after') :
    arguments = arguments' ∧ after = after' := by
  induction answered generalizing arguments' after' with
  | nil =>
    cases answered'
    exact ⟨rfl, rfl⟩
  | cons here _ ih =>
    cases answered' with
    | cons here' others' =>
      obtain ⟨same, rfl⟩ := Prod.mk.inj (here.run_answer.symm.trans here'.run_answer)
      obtain rfl := Except.ok.inj same
      obtain ⟨rfl, rfl⟩ := ih others'
      exact ⟨rfl, rfl⟩

/-- A scoped service that was injected is what the session shares once the bindings are
answered. -/
theorem Answered.held {key : ServiceKey} {supply : Supply σ}
    (registered : services.get? key = some ⟨.scoped, supply⟩)
    (present : before.HasCache (.session session))
    (answered : Answered services context session before bindings arguments after) {place : Nat}
    {injected : Injected TargetType} (asks : bindings[place]? = some injected)
    (named : injected.key? = some key) {argument : Argument}
    (gets : arguments[place]? = some argument) {object : InstanceId}
    (gives : argument.object? = some object) :
    (after.cache (.session session)).get? key = some object := by
  induction answered generalizing place with
  | nil => cases asks
  | @cons before middle after injected' argument' rest arguments here others ih =>
    cases place with
    | zero =>
      obtain rfl := Option.some.inj asks
      obtain rfl := Option.some.inj gets
      have held := Resolution.held_of_find registered present (find_of_answers named here gives)
      exact others.reaches.grows.retains held
    | succ place =>
      have steps : Reaches services session before
          ((answer context session injected').run services before).2 :=
        reaches_answer injected' services before
      have grows := steps.grows
      rw [here.run_answer] at grows
      exact ih ((grows.hasCache_iff _).mpr present) asks gets

/-- A binding to a service that has to be there is answered with an instance. -/
theorem object_of_answers {injected : Injected TargetType} {key : ServiceKey}
    (named : injected.key? = some key) (required : injected.isOptional = false)
    {argument : Argument}
    (answers : Answers services context session before injected (.ok argument) after) :
    ∃ object, argument.object? = some object := by
  cases answers with
  | service => exact ⟨_, rfl⟩
  | optionalService _ optional => rw [required] at optional; cases optional
  | _ => cases named

/-- All services that have to be there are given as instances once the bindings are answered. -/
theorem Answered.object {key : ServiceKey}
    (answered : Answered services context session before bindings arguments after) {place : Nat}
    {injected : Injected TargetType} (asks : bindings[place]? = some injected)
    (named : injected.key? = some key) (required : injected.isOptional = false) :
    ∃ argument object, arguments[place]? = some argument ∧ argument.object? = some object := by
  induction answered generalizing place with
  | nil => cases asks
  | cons here _ ih =>
    cases place with
    | zero =>
      obtain rfl := Option.some.inj asks
      obtain ⟨object, gives⟩ := object_of_answers named required here
      exact ⟨_, object, rfl, gives⟩
    | succ place => exact ih asks

variable {state : ServiceState σ} {reached later : List (Injected TargetType)} {key : ServiceKey}
  {object : InstanceId}

/-- While a call is served, a wrapper asks for a service under a key and is given an instance; the
bindings before that one have been answered as well. -/
inductive Injects (wrapper : Wrapper σ) (services : Services σ) (context : OperationContext)
    (state : ServiceState σ) (key : ServiceKey) (object : InstanceId) : Prop where
  /-- One of the bindings that are reached has the key, and its argument is the instance. -/
  | intro {reached later : List (Injected TargetType)} {arguments : List Argument}
      {after : Container σ} {place : Nat} {injected : Injected TargetType} {argument : Argument}
      (split : wrapper.plan.injected = reached ++ later)
      (answered : Answered services context (sessionOf context state)
        (begun context reached state).container reached arguments after)
      (asks : reached[place]? = some injected) (named : injected.key? = some key)
      (gets : arguments[place]? = some argument) (gives : argument.object? = some object) :
      Injects wrapper services context state key object

/-- Once a binding to the container has been reached, it is settled whether the call has a session
of its own. -/
theorem begun_append (reads : reached.any (·.plan.readsContainer) = true)
    (state : ServiceState σ) :
    begun context (reached ++ later) state = begun context reached state := by
  rw [begun, begun, isolates, isolates, List.any_append, reads, Bool.true_or]

theorem any_readsContainer {place : Nat} {injected : Injected TargetType}
    (asks : reached[place]? = some injected) (named : injected.key? = some key) :
    reached.any (·.plan.readsContainer) = true :=
  List.any_eq_true.mpr
    ⟨injected, List.mem_of_getElem? asks, Injected.readsContainer_of_key? named⟩

/-- The session that a call asks is open when bindings are answered. -/
theorem isOpen_begun (isOpen : context.hosting.isSingleton = false →
      context.hosting.session.IsOpen state.container)
    (reads : reached.any (·.plan.readsContainer) = true) :
    (sessionOf context state).IsOpen (begun context reached state).container := by
  cases singleton : context.hosting.isSingleton with
  | false =>
    have same : begun context reached state = state := by simp [begun, isolates, singleton]
    rw [same, sessionOf, singleton]
    exact isOpen singleton
  | true =>
    have isolated : isolates context reached = true := by simp [isolates, singleton, reads]
    rw [sessionOf, singleton]
    exact (opens_begun isolated).getElem?_nextScope

theorem hasCache_of_isOpen {container : Container σ} (isOpen : session.IsOpen container) :
    container.HasCache (.session session) := by
  cases session with
  | root => trivial
  | scope id =>
    have there : id.index < container.openness.length := (List.getElem?_eq_some_iff.mp isOpen).1
    rwa [Container.openness, List.length_map] at there

/-- All injections of a scoped service within one call give one instance. -/
theorem Injects.unique {supply : Supply σ}
    (registered : services.get? key = some ⟨.scoped, supply⟩)
    (isOpen : context.hosting.isSingleton = false →
      context.hosting.session.IsOpen state.container) {object' : InstanceId}
    (injects : wrapper.Injects services context state key object)
    (injects' : wrapper.Injects services context state key object') : object = object' := by
  obtain @⟨reached, later, arguments, after, place, injected, argument, split, answered, asks,
    named, gets, gives⟩ := injects
  obtain @⟨reached', later', arguments', after', place', injected', argument', split', answered',
    asks', named', gets', gives'⟩ := injects'
  have reads := any_readsContainer asks named
  have reads' := any_readsContainer asks' named'
  have present := hasCache_of_isOpen (isOpen_begun isOpen reads)
  have present' := hasCache_of_isOpen (isOpen_begun isOpen reads')
  have held := answered.held registered present asks named gets gives
  have held' := answered'.held registered present' asks' named' gets' gives'
  -- one of the two has got further than the other
  obtain ⟨more, rfl⟩ | ⟨more, rfl⟩ := List.prefix_or_prefix_of_prefix
    (split ▸ List.prefix_append reached later) (split' ▸ List.prefix_append reached' later')
  · rw [begun_append reads] at answered'
    obtain ⟨_, _, middle, -, former, latter⟩ := answered'.split
    obtain ⟨-, rfl⟩ := answered.unique former
    exact Option.some.inj ((latter.reaches.grows.retains held).symm.trans held')
  · rw [begun_append reads'] at answered
    obtain ⟨_, _, middle, -, former, latter⟩ := answered.split
    obtain ⟨-, rfl⟩ := answered'.unique former
    exact Option.some.inj (held.symm.trans (latter.reaches.grows.retains held'))

/-- A call that succeeds has been given an instance for each binding to a service that has to be
there. -/
theorem injects_of_ok (serving : state.current = some context) {receiver : InstanceId}
    {passed : List Value} {reply : Reply} {final : ServiceState σ}
    (succeeded : (wrapper.method receiver passed).run services state = (.ok reply, final))
    {place : Nat} {injected : Injected TargetType}
    (asks : wrapper.plan.injected[place]? = some injected) (named : injected.key? = some key)
    (required : injected.isOptional = false) :
    ∃ object, wrapper.Injects services context state key object := by
  obtain ⟨arguments, after, answered⟩ | ⟨reached, later, failure, after, split, refused⟩ :=
    answered_or_refused_begun services context state wrapper.plan.injected
  · obtain ⟨argument, object, gets, gives⟩ := answered.object asks named required
    exact ⟨object, .intro (List.append_nil _).symm answered asks named gets gives⟩
  · rw [run_method_refused serving split refused] at succeeded
    cases succeeded

end Wrapper

/-- What an action does to the container are moves, and it releases the scopes that it opens. -/
structure Serving.Behaves (services : Services σ) (action : Serving σ ε α) : Prop where
  /-- Scopes are released. -/
  settles : action.Settles services
  /-- It goes by moves. -/
  moves : ∀ state, Container.Moves services state.container (action.run services state).2.container

namespace Wrapper

open Container (Moves)

variable {wrapper : Wrapper σ} {context : OperationContext} {state : ServiceState σ}
  {reached : List (Injected TargetType)} {object : InstanceId} {key : ServiceKey}

theorem moves_begun (context : OperationContext) (reached : List (Injected TargetType))
    (state : ServiceState σ) :
    Moves services state.container (begun context reached state).container := by
  rw [begun]
  split
  · exact ((Moves.refl _).report _).tail (.openScope _)
  · exact Moves.refl _

theorem moves_ended {start : Container σ} {final : ServiceState σ}
    (moves : Moves services start final.container) :
    Moves services start (ended context reached state final).container := by
  rw [ended]
  split
  · exact (moves.report _).releaseScope _
  · exact moves

variable (behaves : ∀ object arguments,
  (wrapper.implementation object arguments).Behaves services)

include behaves

/-- A wrapper around an implementation that behaves does so itself. -/
theorem behaves_method (object : InstanceId) (passed : List Value) :
    (wrapper.method object passed).Behaves services := by
  refine ⟨settles_method (fun object arguments => (behaves object arguments).settles) object
    passed, fun state => ?_⟩
  have runs := wrapper.runs services state object passed
  generalize (wrapper.method object passed).run services state = result at runs
  cases runs with
  | direct => exact (behaves _ _).moves state
  | stranded => exact Moves.refl _
  | refused serving split refused =>
    exact moves_ended ((moves_begun _ _ state).trans refused.reaches.moves)
  | @served context arguments after result final serving answered calling =>
    have called := (behaves object (arrange wrapper.plan.parameters passed arguments)).moves
      { begun context wrapper.plan.injected state with container := after }
    rw [show (wrapper.implementation _ _).run services _ = _ from calling] at called
    exact moves_ended (((moves_begun _ _ state).trans answered.reaches.moves).trans called)

/-- A scoped service that is injected is at some point of the call what the session shares, which is
open then. -/
theorem Injects.passes {supply : Supply σ}
    (injects : wrapper.Injects services context state key object)
    (registered : services.get? key = some ⟨.scoped, supply⟩)
    (serving : state.current = some context) {id : ScopeId}
    (session : sessionOf context state = .scope id)
    (isOpen : context.hosting.isSingleton = false →
      context.hosting.session.IsOpen state.container)
    (receiver : InstanceId) (passed : List Value) :
    ∃ point, Moves services state.container point ∧ point.openness[id.index]? = some true ∧
      (point.cache (.session (.scope id))).get? key = some object ∧
      Moves services point ((wrapper.method receiver passed).run services state).2.container := by
  obtain @⟨reached, later, arguments, point, place, injected, argument, split, answered, asks,
    named, gets, gives⟩ := injects
  have reads := any_readsContainer asks named
  have opened := isOpen_begun isOpen reads
  have held := answered.held registered (hasCache_of_isOpen opened) asks named gets gives
  rw [session] at opened held
  have still : point.openness[id.index]? = some true := by
    rw [answered.reaches.keepsScopes.openness]
    exact opened
  refine ⟨point, (moves_begun _ _ state).trans answered.reaches.moves, still, held, ?_⟩
  -- the call goes on with the bindings that are left
  obtain ⟨others, after, rest⟩ | ⟨next, beyond, failure, after, split', fails⟩ :=
    answered_or_refused services context (sessionOf context state) point later
  · have all : Answered services context (sessionOf context state)
        (begun context wrapper.plan.injected state).container wrapper.plan.injected
        (arguments ++ others) after := by
      rw [split, begun_append reads]
      exact answered.append rest
    have injects : wrapper.plan.injected ≠ [] := by
      intro nothing
      rw [split, List.append_eq_nil_iff] at nothing
      rw [nothing.1] at asks
      cases asks
    have called :=
      (behaves receiver (arrange wrapper.plan.parameters passed (arguments ++ others))).moves
        { begun context wrapper.plan.injected state with container := after }
    rw [run_method_served serving injects all]
    exact moves_ended (rest.reaches.moves.trans called)
  · have split'' : wrapper.plan.injected = (reached ++ next) ++ beyond := by
      rw [split, split', List.append_assoc]
    have refused : Refused services context (sessionOf context state)
        (begun context (reached ++ next) state).container (reached ++ next) failure after := by
      rw [begun_append reads]
      exact answered.refused fails
    rw [run_method_refused serving split'' refused]
    exact moves_ended fails.reaches.moves

end Wrapper

/-- It is known which wrappers stand behind the adapters of a registry, by their keys, and all that
is called behaves: the implementations of these wrappers, and the other methods. -/
structure AdapterRegistry.IsWired (registry : AdapterRegistry σ) (services : Services σ)
    (wrapper? : String → Option (Wrapper σ)) : Prop where
  /-- The adapter of a key calls the wrapper that stands behind it. -/
  wraps : ∀ {key adapter wrapper}, registry.lookup key = .ok adapter →
    wrapper? key = some wrapper → adapter.method = wrapper.method
  /-- Implementations behave. -/
  implementation : ∀ {key wrapper}, wrapper? key = some wrapper → ∀ object arguments,
    (wrapper.implementation object arguments).Behaves services
  /-- Methods without a wrapper behave. -/
  method : ∀ {key adapter}, registry.lookup key = .ok adapter → wrapper? key = none →
    ∀ object passed, (adapter.method object passed).Behaves services

namespace AdapterRegistry.IsWired

variable {registry : AdapterRegistry σ} {wrapper? : String → Option (Wrapper σ)}
  {key : String} {adapter : Adapter σ}

/-- Whatever an adapter calls behaves. -/
theorem behaves (wired : registry.IsWired services wrapper?)
    (looked : registry.lookup key = .ok adapter) (object : InstanceId) (passed : List Value) :
    (adapter.method object passed).Behaves services := by
  cases found : wrapper? key with
  | none => exact wired.method looked found object passed
  | some wrapper =>
    rw [wired.wraps looked found]
    exact Wrapper.behaves_method (wired.implementation found) object passed

theorem isDiscreet (wired : registry.IsWired services wrapper?)
    (looked : registry.lookup key = .ok adapter) : adapter.IsDiscreet services :=
  .direct fun object passed => (wired.behaves looked object passed).settles

/-- Invoking an adapter does no more to the container than its method. -/
theorem moves_invoke (wired : registry.IsWired services wrapper?)
    (looked : registry.lookup key = .ok adapter) (served : ServiceInstance) (inputs : InputBuffer)
    (state : ServiceState σ) :
    Container.Moves services state.container
      ((adapter.invoke served inputs).run services state).2.container := by
  obtain same | ⟨passed, same⟩ := adapter.state_invoke services state served inputs
  · rw [same]
    exact Container.Moves.refl _
  · rw [same]
    exact (wired.behaves looked served.object passed).moves state

end AdapterRegistry.IsWired

end ServiceDispatch
