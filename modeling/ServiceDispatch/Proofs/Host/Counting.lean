import ServiceDispatch.Proofs.Call.Dispatch
import ServiceDispatch.Proofs.Host.Attendance
import ServiceDispatch.Proofs.Host.Opening

/-!
# Counting operations on opened hosts

The instances of an opened host, seen through operations that count the calls of their own instance:
however channels are opened, used and closed, a successful call answers how many calls of its group
there have been. Which calls form a group follows from lifetime, mode and binding alone.
-/

namespace ServiceDispatch

open Sample (Content)

variable {services : Services Content} {state : ServiceState Content}

/-- What a counting operation answers. -/
def counted (count : Nat) : Outcome := ⟨some (.usize (.ofNat count)), []⟩

/-- The adapter calls an operation that counts the calls of its instance. -/
def Adapter.IsCounting (adapter : Adapter Content) : Prop :=
  ∃ name typeName operation,
    adapter ∈ (Sample.Counting.contract name typeName operation).adapters

/-- A counting operation counts the call and answers the new number. -/
theorem Sample.Counting.run_visit {object : InstanceId} {count : Nat} (passed : List Value)
    (here : state.container.content? object = some (.counter count)) :
    (Sample.Counting.visit object passed).run services state =
      (.ok (.value (.usize (.ofNat (count + 1)))),
        { state with container := state.container.modifyContent object .increment }) := by
  have after : (state.container.modifyContent object .increment).content? object =
      some (.counter (count + 1)) := by
    rw [Container.content?_modifyContent, if_pos rfl, here]
    rfl
  rw [visit, Serving.run_bind, change, Serving.run_modifyContainer]
  dsimp only
  rw [Serving.run_bind, contentOf, Serving.run_bind, Serving.run_get]
  simp only [after, Serving.run_pure, Option.getD_some, Content.count]

theorem Adapter.IsCounting.facts {adapter : Adapter Content} (counting : adapter.IsCounting) :
    adapter.plan.bindings = [] ∧ adapter.plan.returnsValue = true ∧
      adapter.method = Sample.Counting.visit := by
  obtain ⟨name, typeName, operation, mem⟩ := counting
  obtain rfl := List.mem_singleton.mp mem
  exact ⟨rfl, rfl, rfl⟩

/-- A counting operation counts if the instance is of the type of the contract. -/
theorem Adapter.IsCounting.run_invoke {adapter : Adapter Content} (counting : adapter.IsCounting)
    {served : ServiceInstance} (inputs : InputBuffer) {count : Nat}
    (here : state.container.content? served.object = some (.counter count)) :
    (adapter.invoke served inputs).run services state =
      if served.typeName = adapter.contract then
        (.ok (counted (count + 1)),
          { state with container := state.container.modifyContent served.object .increment })
      else (.error (.instanceTypeMismatch adapter.contract), state) := by
  obtain ⟨noBindings, answers, method⟩ := counting.facts
  rw [Adapter.invoke, Serving.run_bind, Serving.run_ofExcept, ServiceInstance.asType]
  by_cases typed : served.typeName = adapter.contract
  · simp only [typed, if_true, Serving.run_bind, Serving.run_ofExcept, noBindings,
      AdapterPlan.takeArguments, Serving.run_attempt, method, Sample.Counting.run_visit _ here,
      Serving.run_pure, AdapterPlan.outcome, answers]
    rfl
  · simp only [typed, if_false]

namespace AdapterRegistry

variable {registry : AdapterRegistry Content} {served : ServiceInstance}
  {context : OperationContext}

/-- How a call of a counting operation ends: it is counted, or it fails and nothing is counted. -/
def Counts (before : Container Content) (object : InstanceId) (count : Nat) :
    Except Failure Outcome × ServiceState Content → Prop
  | (.ok outcome, after) => outcome = counted (count + 1) ∧
      after.container.instances = (before.modifyContent object .increment).instances
  | (.error _, after) => after.container.instances = before.instances

theorem counts_invoke {adapter : Adapter Content} (counting : adapter.IsCounting)
    (inputs : InputBuffer) (context : OperationContext) {count : Nat}
    (here : state.container.content? served.object = some (.counter count)) :
    Counts state.container served.object count
      ((invoke adapter served inputs context).run services state) := by
  have inner : (adapter.invoke served inputs).run services (state.callStarted context) = _ :=
    counting.run_invoke inputs here
  rw [run_invoke, inner]
  by_cases typed : served.typeName = adapter.contract
  · rw [if_pos typed]
    exact ⟨rfl, Container.instances_releaseCall _ _⟩
  · rw [if_neg typed]
    exact Container.instances_releaseCall _ _

end AdapterRegistry

/-- A host serves counting operations only: each factory run builds an instance that has counted
nothing, and whatever adapter is registered for an operation counts. -/
structure HostSpec.IsCounting (spec : HostSpec Content) (services : Services Content)
    (registry : AdapterRegistry Content) : Prop where
  /-- The services of the endpoints come from factories that build counters. -/
  factories : ∀ {endpoint}, endpoint ∈ spec.endpoints → ∃ lifetime recipe,
    services.get? endpoint.service = some ⟨lifetime, .factory recipe⟩ ∧
      ∀ {typeName content}, recipe.Builds typeName content → content = .counter 0
  /-- The operations of the endpoints count. -/
  operations : ∀ {endpoint signature adapter}, endpoint ∈ spec.endpoints →
    signature ∈ endpoint.contract.operations →
    registry.lookup signature.key.text = .ok adapter → adapter.IsCounting

variable {spec : HostSpec Content} {host : Host Content} {container : Container Content}
  {seat : Group → InstanceId → Prop} {attendance : Attendance}

theorem HostSpec.IsCounting.isMade {registry : AdapterRegistry Content}
    (counting : spec.IsCounting services registry)
    {endpoint : EndpointSpec Content} (mem : endpoint ∈ spec.endpoints) :
    services.IsMade endpoint.service := by
  obtain ⟨lifetime, recipe, registered, -⟩ := counting.factories mem
  exact ⟨lifetime, recipe, registered⟩

theorem HostSpec.IsCounting.content_eq {registry : AdapterRegistry Content}
    (counting : spec.IsCounting services registry)
    {endpoint : EndpointSpec Content} (mem : endpoint ∈ spec.endpoints)
    {built : Instance Content} (makes : services.Makes endpoint.service built) :
    built.content = .counter 0 := by
  obtain ⟨lifetime, recipe, registered, builds⟩ := counting.factories mem
  obtain ⟨lifetime', recipe', registered', made⟩ := makes
  rw [registered] at registered'
  cases Option.some.inj registered'
  exact builds made

/-- The groups of the endpoints with one instance for all calls have these instances. -/
def Host.FirstSeat (spec : HostSpec Content) (services : Services Content) (host : Host Content)
    (group : Group) (object : InstanceId) : Prop :=
  ∃ described ∈ spec.endpoints, ∃ lifetime endpoint hosting,
    services.lifetime? described.service = some lifetime ∧
      host.endpoint? described.address = some endpoint ∧ endpoint.single = some hosting ∧
      group = (if lifetime = .transient then .endpoint described.address
        else .registration described.service) ∧
      object = hosting.served.object

namespace Host

/-- The seats of a host that was just opened: nothing has been counted. -/
theorem Opened.seating
    (opens : Opened services spec.settings.host.defaultMode spec.endpoints host.endpoints container)
    {registry : AdapterRegistry Content} (counting : spec.IsCounting services registry) :
    Seating (FirstSeat spec services host) container .none where
  functional := by
    rintro group object object'
      ⟨described, mem, lifetime, endpoint, hosting, registered, found, single, rfl, rfl⟩
      ⟨described', mem', lifetime', endpoint', hosting', registered', found', single', same, rfl⟩
    have holds := (opens.serves_of_mem mem found).holds single
    have holds' := (opens.serves_of_mem mem' found').holds single'
    by_cases unshared : lifetime = .transient <;> by_cases unshared' : lifetime' = .transient <;>
      simp only [unshared, unshared', if_true, if_false] at same
    · injection same with same
      rw [same, found'] at found
      obtain rfl := Option.some.inj found
      rw [Option.some.inj (single.symm.trans single')]
    · cases same
    · cases same
    · injection same with same
      have shared : services.lifetime? described.service ≠ some .transient := by
        rw [registered]
        exact fun equal => unshared (Option.some.inj equal)
      obtain ⟨name, held, others⟩ := holds.cached shared
      exact Option.some.inj (held.symm.trans (others same.symm holds'))
  injective := by
    rintro group group' object
      ⟨described, mem, lifetime, endpoint, hosting, registered, found, single, rfl, rfl⟩
      ⟨described', mem', lifetime', endpoint', hosting', registered', found', single', rfl, same⟩
    have holds := (opens.serves_of_mem mem found).holds single
    have holds' := (opens.serves_of_mem mem' found').holds single'
    have made := counting.isMade mem
    have made' := counting.isMade mem'
    by_cases unshared : lifetime = .transient
    · subst unshared
      have loose : Container.Loose services container hosting.served.object :=
        holds.loose registered
      have loose' : Container.Loose services container hosting'.served.object := same ▸ loose
      have unshared' := holds'.lifetime_of_loose made' loose'
      rw [registered'] at unshared'
      cases unshared'
      rw [if_pos rfl, if_pos rfl, opens.apart found found' single single' loose same]
    · have shared : services.lifetime? described.service ≠ some .transient := by
        rw [registered]
        exact fun equal => unshared (Option.some.inj equal)
      have shared' : services.lifetime? described'.service ≠ some .transient := by
        intro unshared'
        have loose : Container.Loose services container hosting'.served.object :=
          holds'.loose unshared'
        exact shared (holds.lifetime_of_loose made (same ▸ loose))
      obtain ⟨name, held, -⟩ := holds.cached shared
      obtain ⟨name', held', -⟩ := holds'.cached shared'
      rw [registered'] at shared'
      rw [← same] at held'
      rw [if_neg unshared, if_neg fun equal => shared' (congrArg some equal),
        (opens.orderly.apart made made' held held').2]
  counts := by
    rintro group object
      ⟨described, mem, lifetime, endpoint, hosting, registered, found, single, rfl, rfl⟩
    have holds := (opens.serves_of_mem mem found).holds single
    obtain ⟨built, here, makes⟩ := holds.stocked (counting.isMade mem) opens.stocked
    rw [Container.content?, here, Option.map_some, counting.content_eq mem makes]
    rfl
  channels := by
    rintro number object ⟨_, _, lifetime, _, _, _, _, _, same, _⟩
    split at same <;> cases same
  calls := by
    rintro number object ⟨_, _, lifetime, _, _, _, _, _, same, _⟩
    split at same <;> cases same
  used mem := nomatch mem
  made mem := nomatch mem

end Host

end ServiceDispatch
