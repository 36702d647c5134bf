import ServiceDispatch.Call.Dispatch
import ServiceDispatch.Proofs.Call.Running
import ServiceDispatch.Proofs.Service.Growth

/-!
# Activating instances

What opening an instance context answers and which instances exist afterwards. A transient service
is always served by an instance that did not exist before; what opening and releasing do to
instances of other lifetimes is a matter of caches and is stated where hosts are opened.
-/

namespace ServiceDispatch

variable {σ ε : Type} {services : Services σ} {state : ServiceState σ}

namespace Container

/-- Lets a session go; the container itself stays. -/
def releaseSession (container : Container σ) : Session → Container σ
  | .root => container
  | .scope id => container.releaseScope id

@[simp] theorem instances_releaseSession (container : Container σ) (session : Session) :
    (container.releaseSession session).instances = container.instances := by
  cases session <;> rfl

/-- Lets an instance context go with its session. -/
def releaseHosting (container : Container σ) (hosting : InstanceContext) : Container σ :=
  (container.report (.instanceReleased hosting.mode hosting.served.contract)).releaseSession
    hosting.session

@[simp] theorem instances_releaseHosting (container : Container σ) (hosting : InstanceContext) :
    (container.releaseHosting hosting).instances = container.instances :=
  instances_releaseSession _ _

/-- Lets go what belongs to a call. -/
def releaseCall (container : Container σ) (context : OperationContext) : Container σ :=
  if context.ownsHosting then container.releaseHosting context.hosting else container

@[simp] theorem instances_releaseCall (container : Container σ) (context : OperationContext) :
    (container.releaseCall context).instances = container.instances := by
  rw [releaseCall]
  split
  · exact instances_releaseHosting _ _
  · rfl

/-- The state of an instance stays what it is while instances are only added. -/
theorem content?_of_isPrefix {before after : Container σ}
    (more : before.instances <+: after.instances) {id : InstanceId} {content : σ}
    (found : before.content? id = some content) : after.content? id = some content := by
  obtain ⟨built, here, same⟩ := Option.map_eq_some_iff.mp found
  obtain ⟨added, grown⟩ := more
  have inside : id.index < before.instances.length := instance?_lt here
  rw [content?, instance?, ← grown, List.getElem?_append_left inside]
  exact found

/-- A change of one instance is seen there and nowhere else. -/
theorem content?_modifyContent (container : Container σ) (id other : InstanceId)
    (change : σ → σ) :
    (container.modifyContent id change).content? other =
      if id = other then (container.content? other).map change else container.content? other := by
  by_cases same : id = other
  · subst same
    simp only [content?, instance?, modifyContent, List.getElem?_modify, if_true]
    cases container.instances[id.index]? <;> rfl
  · have apart : id.index ≠ other.index := fun equal => same (congrArg InstanceId.mk equal)
    simp only [content?, instance?, modifyContent, List.getElem?_modify, apart, same, if_false]
    cases container.instances[other.index]? <;> rfl

end Container

/-- A transient service is built anew, as the last instance of all. -/
theorem Resolution.require_transient {session : Session} {key : ServiceKey} {recipe : Recipe σ}
    (registered : services.get? key = some ⟨.transient, .factory recipe⟩)
    {before after : Container σ} {object : InstanceId}
    (answered : (require session key).run services before = (.ok object, after)) :
    ∃ middle built, Container.Reaches services session before middle ∧
      recipe.Builds built.typeName built.content ∧
      object = (middle.allocate built).1 ∧ after = (middle.allocate built).2 := by
  obtain ⟨registration, found, -, answers⟩ := require_ok answered
  rw [registered] at found
  obtain rfl := Option.some.inj found
  exact answers

namespace InstanceContext

@[simp] theorem run_releaseSession (session : Session) :
    (releaseSession session : Serving σ ε Unit).run services state =
      (.ok (), { state with container := state.container.releaseSession session }) := by
  cases session <;> rfl

@[simp] theorem run_release (hosting : InstanceContext) :
    (hosting.release : Serving σ ε Unit).run services state =
      (.ok (), { state with container := state.container.releaseHosting hosting }) := by
  rw [release, Serving.run_bind, Serving.run_report]
  exact run_releaseSession hosting.session

/-- The session of a new instance context, with the container in which it has been opened. -/
def begin (mode : InstanceMode) (container : Container σ) : Session × Container σ :=
  if mode.isSingleton then (.root, container)
  else (.scope container.openScope.1, container.openScope.2)

theorem instances_begin (mode : InstanceMode) (container : Container σ) :
    (begin mode container).2.instances = container.instances := by
  cases mode <;> rfl

/-- An instance context is opened if its service is found in its session. -/
theorem run_activate (mode : InstanceMode) (service : ServiceKey) (contract : String) :
    (activate mode (.ofService service contract)).run services state =
      let start := begin mode state.container
      match (Resolution.require start.1 service).run services start.2 with
      | (.ok object, after) =>
        (.ok ⟨mode, start.1, .ofType contract object⟩,
          { state with container := after.report (.instanceOpened mode contract) })
      | (.error failure, after) =>
        (.error failure, { state with container := after.releaseSession start.1 }) := by
  have opening : (openSession mode : Run σ Session).run services state =
      (.ok (begin mode state.container).1,
        { state with container := (begin mode state.container).2 }) := by
    cases mode <;> rfl
  generalize begin mode state.container = start at opening
  obtain ⟨session, container⟩ := start
  rw [activate, Serving.run_bind, opening]
  simp only [Activator.ofService, Serving.run_bind, Serving.run_attempt, Serving.run_resolved]
  cases (Resolution.require session service).run services container with
  | mk result after =>
    cases result with
    | ok object => rfl
    | error failure => simp only [Serving.run_bind, run_releaseSession, Serving.run_throw]

/-- However opening an instance context ends, instances are only added. -/
theorem isPrefix_of_activate {mode : InstanceMode} {service : ServiceKey} {contract : String}
    {result : Except Failure InstanceContext} {after : ServiceState σ}
    (activated : (activate mode (.ofService service contract)).run services state =
      (result, after)) :
    state.container.instances <+: after.container.instances := by
  have more : state.container.instances <+:
      ((Resolution.require (begin mode state.container).1 service).run services
        (begin mode state.container).2).2.instances := by
    rw [← instances_begin mode state.container]
    exact (Resolution.reaches_require _ service _).grows.instances
  rw [run_activate] at activated
  dsimp only at activated
  cases answered : (Resolution.require (begin mode state.container).1 service).run services
      (begin mode state.container).2 with
  | mk found middle =>
    rw [answered] at activated more
    cases found with
    | ok object =>
      obtain ⟨-, rfl⟩ := Prod.mk.inj activated
      exact more
    | error failure =>
      obtain ⟨-, rfl⟩ := Prod.mk.inj activated
      dsimp only
      rw [Container.instances_releaseSession]
      exact more

/-- An instance context of a transient service has an instance that is built for it. -/
theorem activate_transient {mode : InstanceMode} {service : ServiceKey} {contract : String}
    {recipe : Recipe σ} (registered : services.get? service = some ⟨.transient, .factory recipe⟩)
    {hosting : InstanceContext} {after : ServiceState σ}
    (activated : (activate mode (.ofService service contract)).run services state =
      (.ok hosting, after)) :
    ∃ built, recipe.Builds built.typeName built.content ∧
      state.container.instances.length ≤ hosting.served.object.index ∧
      after.container.instance? hosting.served.object = some built := by
  rw [run_activate] at activated
  have same := instances_begin mode state.container
  generalize begin mode state.container = start at activated same
  dsimp only at activated
  match answered : (Resolution.require start.1 service).run services start.2 with
  | (.error _, _) => simp [answered] at activated
  | (.ok object, middle) =>
    rw [answered] at activated
    obtain ⟨rfl, rfl⟩ : _ = hosting ∧ _ = after := by simpa using activated
    obtain ⟨last, built, reaches, builds, rfl, rfl⟩ :=
      Resolution.require_transient registered answered
    refine ⟨built, builds, ?_, Container.instance?_allocate last built⟩
    have longer := reaches.grows.instances.length_le
    rw [same] at longer
    exact longer

end InstanceContext

@[simp] theorem OperationContext.run_release (context : OperationContext) :
    (context.release : Serving σ ε Unit).run services state =
      (.ok (), { state with container := state.container.releaseCall context }) := by
  rw [release, Container.releaseCall]
  cases context.ownsHosting with
  | false => rfl
  | true => exact InstanceContext.run_release context.hosting

end ServiceDispatch
