import Mathlib.Data.List.Nodup
import ServiceDispatch.Host.Opening
import ServiceDispatch.Proofs.Host.Activation
import ServiceDispatch.Proofs.Service.Order

/-!
# Opened hosts

What is true of every host that could be opened: each endpoint is the one of its address, in the
mode that its registration and declaration give, and each instance that serves all calls has a place
of its own. For shared services that place is in a cache of the container, so endpoints of one
service have one instance; any other instance was built for its endpoint alone. Services that were
handed in ready-made are not covered.
-/

namespace ServiceDispatch

variable {σ ε : Type} {services : Services σ} {default : InstanceMode} {state : ServiceState σ}

/-- A sequence that ends by throwing answers nothing. -/
theorem Serving.run_bind_throw_ne {α β : Type} (action : Serving σ ε α) (error : ε) (value : β)
    (after : ServiceState σ) :
    (action >>= fun _ => (throw error : Serving σ ε β)).run services state ≠
      (.ok value, after) := by
  rw [run_bind]
  match action.run services state with
  | (.ok _, _) => simp
  | (.error _, _) => simp

namespace Container

variable {before after container : Container σ} {object : InstanceId}

theorem Orderly.relog (orderly : Orderly services container) (log : List Event) :
    Orderly services { container with log } :=
  ⟨orderly.below, orderly.apart⟩

theorem IsUnused.relog (unused : container.IsUnused) (log : List Event) :
    IsUnused { container with log } :=
  ⟨unused.singletons, unused.rootScoped, unused.scopes⟩

/-- Reports change the log alone. -/
theorem foldl_report (container : Container σ) (events : List Event) :
    events.foldl report container = { container with log := container.log ++ events } := by
  induction events generalizing container with
  | nil => simp
  | cons event rest ih => simp [ih, report]

/-- What is in no cache later was in none before. -/
theorem Loose.of_grows (grows : Grows before after) (loose : Loose services after object) :
    Loose services before object :=
  fun made held => loose made (grows.retains held)

end Container

open Container (Orderly Stocked Loose Reaches)

namespace EndpointSpec

variable {before after container : Container σ} {spec : EndpointSpec σ} {object : InstanceId}

/-- The container keeps an instance for an endpoint: in the cache that shares its service, or in no
cache at all if the service is not shared. -/
def Holds (spec : EndpointSpec σ) (services : Services σ) (container : Container σ)
    (object : InstanceId) : Prop :=
  match services.lifetime? spec.service with
  | some .singleton => (container.cache .singletons).get? spec.service = some object
  | some .scoped => (container.cache (.session .root)).get? spec.service = some object
  | some .transient => Loose services container object ∧
      ∃ built, container.instance? object = some built ∧ services.Makes spec.service built
  | none => False

theorem Holds.relog (holds : spec.Holds services container object) (log : List Event) :
    spec.Holds services { container with log } object := holds

/-- Resolutions leave instances in their places. -/
theorem Holds.of_reaches {session : Session} (holds : spec.Holds services before object)
    (reaches : Reaches services session before after) : spec.Holds services after object := by
  rw [Holds] at holds ⊢
  match services.lifetime? spec.service, holds with
  | some .singleton, held => exact reaches.grows.retains held
  | some .scoped, held => exact reaches.grows.retains held
  | some .transient, ⟨loose, built, here, makes⟩ =>
    exact ⟨reaches.loose (Container.instance?_lt here) loose, built,
      reaches.grows.instance? here, makes⟩

/-- A held instance exists and is as the factory of its service builds it. -/
theorem Holds.stocked (holds : spec.Holds services container object)
    (made : services.IsMade spec.service) (stocked : Stocked services container) :
    ∃ built, container.instance? object = some built ∧ services.Makes spec.service built := by
  rw [Holds] at holds
  match services.lifetime? spec.service, holds with
  | some .singleton, held => exact stocked made held
  | some .scoped, held => exact stocked made held
  | some .transient, ⟨_, built, here, makes⟩ => exact ⟨built, here, makes⟩

/-- What an endpoint of a shared service holds is in a cache. -/
theorem Holds.lifetime_of_loose (holds : spec.Holds services container object)
    (made : services.IsMade spec.service) (loose : Loose services container object) :
    services.lifetime? spec.service = some .transient := by
  rw [Holds] at holds
  match services.lifetime? spec.service, holds with
  | some .singleton, held => exact absurd held (loose made)
  | some .scoped, held => exact absurd held (loose made)
  | some .transient, _ => rfl

theorem Holds.loose (holds : spec.Holds services container object)
    (unshared : services.lifetime? spec.service = some .transient) :
    Loose services container object := by
  rw [Holds, unshared] at holds
  exact holds.1

/-- An instance of a shared service is in a cache, which is the same one for all endpoints. -/
theorem Holds.cached (holds : spec.Holds services container object)
    (shared : services.lifetime? spec.service ≠ some .transient) :
    ∃ name, (container.cache name).get? spec.service = some object ∧
      ∀ {other : EndpointSpec σ} {object'}, other.service = spec.service →
        other.Holds services container object' →
        (container.cache name).get? spec.service = some object' := by
  rw [Holds] at holds
  match lifetime : services.lifetime? spec.service, holds with
  | some .singleton, held =>
    refine ⟨.singletons, held, fun same holds' => ?_⟩
    rw [Holds, same, lifetime] at holds'
    exact holds'
  | some .scoped, held =>
    refine ⟨.session .root, held, fun same holds' => ?_⟩
    rw [Holds, same, lifetime] at holds'
    exact holds'
  | some .transient, _ => exact absurd lifetime shared

/-- The service of an endpoint is found in the container itself where the container keeps it. -/
theorem holds_of_require (made : services.IsMade spec.service)
    (orderly : Orderly services before)
    (answered : (Resolution.require .root spec.service).run services before = (.ok object, after)) :
    spec.Holds services after object ∧
      (services.lifetime? spec.service = some .transient →
        before.instances.length ≤ object.index) := by
  obtain ⟨registration, registered, -, answers⟩ := Resolution.require_ok answered
  obtain ⟨lifetime, recipe, factory⟩ := made
  rw [factory] at registered
  obtain rfl := Option.some.inj registered
  rw [Holds, Services.lifetime?, factory]
  match lifetime, answers with
  | .singleton, held => exact ⟨held trivial, fun absurd => nomatch absurd⟩
  | .scoped, held => exact ⟨held trivial, fun absurd => nomatch absurd⟩
  | .transient, ⟨middle, built, reaches, builds, same, grown⟩ =>
    subst same grown
    exact ⟨⟨(reaches.orderly orderly).loose_allocate built, built,
      Container.instance?_allocate middle built, _, recipe, factory, builds⟩,
      fun _ => reaches.grows.instances.length_le⟩

/-- An opened endpoint serves what was described, in the mode that results, with one instance for
all calls exactly if the mode is such. -/
structure Serves (spec : EndpointSpec σ) (services : Services σ) (default : InstanceMode)
    (container : Container σ) (endpoint : Endpoint σ) : Prop where
  /-- The operations are those of the contract. -/
  operations : endpoint.operations = spec.contract.operations
  /-- Instances come from the service. -/
  activator : endpoint.activator = spec.activator
  /-- The mode follows from the registration. -/
  mode : ∃ lifetime, services.lifetime? spec.service = some lifetime ∧
    endpoint.mode = spec.mode default lifetime
  /-- In other modes no instance serves all calls. -/
  idle : endpoint.mode ≠ .single → endpoint.single = none
  /-- The instance that serves all calls is kept by the container. -/
  single : endpoint.mode = .single → ∃ object,
    endpoint.single = some ⟨.single, .root, .ofType spec.contract.typeName object⟩ ∧
      spec.Holds services container object

theorem Serves.holds {endpoint : Endpoint σ} {hosting : InstanceContext}
    (serves : spec.Serves services default container endpoint)
    (single : endpoint.single = some hosting) :
    spec.Holds services container hosting.served.object := by
  by_cases mode : endpoint.mode = .single
  · obtain ⟨object, here, holds⟩ := serves.single mode
    obtain rfl := Option.some.inj (single.symm.trans here)
    exact holds
  · rw [serves.idle mode] at single
    contradiction

theorem Serves.of_holds {endpoint : Endpoint σ}
    (serves : spec.Serves services default before endpoint)
    (holds : ∀ {object}, spec.Holds services before object → spec.Holds services after object) :
    spec.Serves services default after endpoint := by
  refine ⟨serves.operations, serves.activator, serves.mode, serves.idle, fun single => ?_⟩
  obtain ⟨object, here, held⟩ := serves.single single
  exact ⟨object, here, holds held⟩

/-- An endpoint is opened if its service is registered, its operations have adapters and its
instance can be opened, in this order. -/
theorem run_openWith (registry : AdapterRegistry σ) :
    (spec.openWith registry default).run services state =
      match services.lifetime? spec.service with
      | none =>
        (.error (.serviceNotRegistered spec.service.typeName spec.service.name),
          { state with
            container := state.container.report (.hostedServiceMissing spec.address spec.service) })
      | some lifetime =>
        match spec.missingAdapter? registry with
        | some key =>
          (.error (.registryMiss key),
            { state with
              container := state.container.report (.hostedAdapterMissing spec.address key) })
        | none =>
          match (spec.openSingle (spec.mode default lifetime)).run services state with
          | (.error failure, after) => (.error failure, after)
          | (.ok single, after) =>
            (.ok ⟨spec.address, spec.contract.name, spec.contract.operations,
                spec.declaredMode default, spec.mode default lifetime, spec.binding,
                spec.activator, single⟩,
              { after with
                container := after.container.report
                  (.endpointOpened spec.address spec.contract.name (spec.declaredMode default)
                    lifetime (spec.mode default lifetime) spec.binding.name) }) := by
  rw [openWith, Serving.run_bind, checkService, Serving.run_bind, Serving.run_read]
  dsimp only
  cases services.lifetime? spec.service with
  | none => rfl
  | some lifetime =>
    simp only [Serving.run_pure, Serving.run_bind, checkOperations]
    cases spec.missingAdapter? registry with
    | some key => rfl
    | none =>
      simp only [Serving.run_pure]
      cases (spec.openSingle (spec.mode default lifetime)).run services state with
      | mk result after => cases result <;> rfl

/-- The checks of an endpoint that could be opened have passed, and its instance has been opened
after them. -/
theorem run_openWith_ok {registry : AdapterRegistry σ} {endpoint : Endpoint σ}
    {after : ServiceState σ}
    (opened : (spec.openWith registry default).run services state = (.ok endpoint, after)) :
    ∃ lifetime single middle event, services.lifetime? spec.service = some lifetime ∧
      (spec.openSingle (spec.mode default lifetime)).run services state = (.ok single, middle) ∧
      after = { middle with container := middle.container.report event } ∧
      endpoint = ⟨spec.address, spec.contract.name, spec.contract.operations,
        spec.declaredMode default, spec.mode default lifetime, spec.binding, spec.activator,
        single⟩ := by
  rw [run_openWith] at opened
  cases registered : services.lifetime? spec.service with
  | none => simp [registered] at opened
  | some lifetime =>
    rw [registered] at opened
    cases missing : spec.missingAdapter? registry with
    | some key => simp [missing] at opened
    | none =>
      rw [missing] at opened
      match single : (spec.openSingle (spec.mode default lifetime)).run services state with
      | (.error _, _) => simp [single] at opened
      | (.ok hosting, middle) =>
        simp only [single, Prod.mk.injEq, Except.ok.injEq] at opened
        obtain ⟨rfl, rfl⟩ := opened
        exact ⟨lifetime, hosting, middle, _, rfl, single, rfl, rfl⟩

/-- In the mode that asks for it an instance is looked for in the container itself; in any other
mode nothing is done. -/
theorem run_openSingle (mode : InstanceMode) :
    (spec.openSingle mode).run services state =
      if mode = .single then
        match (Resolution.require .root spec.service).run services state.container with
        | (.ok object, found) =>
          (.ok (some ⟨.single, .root, .ofType spec.contract.typeName object⟩),
            { state with
              container := found.report (.instanceOpened .single spec.contract.typeName) })
        | (.error failure, found) => (.error failure, { state with container := found })
      else (.ok none, state) := by
  cases mode with
  | perCall | perSession => rfl
  | single =>
    have start : InstanceContext.begin .single state.container = (.root, state.container) := rfl
    rw [openSingle, InstanceMode.isSingleton, activator, if_pos rfl, if_pos rfl, Serving.run_map,
      InstanceContext.run_activate, start]
    dsimp only
    cases (Resolution.require .root spec.service).run services state.container with
    | mk result found => cases result <;> rfl

/-- An instance that could be opened was found in the container itself. -/
theorem run_openSingle_ok {mode : InstanceMode} {single : Option InstanceContext}
    {after : ServiceState σ}
    (opened : (spec.openSingle mode).run services state = (.ok single, after)) :
    (mode = .single ∧ ∃ object found,
        (Resolution.require .root spec.service).run services state.container =
          (.ok object, found) ∧
        single = some ⟨.single, .root, .ofType spec.contract.typeName object⟩ ∧
        after = { state with
          container := found.report (.instanceOpened .single spec.contract.typeName) }) ∨
      mode ≠ .single ∧ single = none ∧ after = state := by
  rw [run_openSingle] at opened
  split at opened
  · rename_i asked
    match answered : (Resolution.require .root spec.service).run services state.container with
    | (.error _, _) => simp [answered] at opened
    | (.ok object, found) =>
      simp only [answered, Prod.mk.injEq, Except.ok.injEq] at opened
      exact .inl ⟨asked, object, found, rfl, opened.1.symm, opened.2.symm⟩
  · rename_i other
    simp only [Prod.mk.injEq, Except.ok.injEq] at opened
    exact .inr ⟨other, opened.1.symm, opened.2.symm⟩

/-- Opening an endpoint is a resolution in the container itself. A service that is not shared is
served by an instance that did not exist before. -/
theorem openWith_ok {registry : AdapterRegistry σ} {endpoint : Endpoint σ}
    {after : ServiceState σ} (made : services.IsMade spec.service)
    (orderly : Orderly services state.container)
    (opened : (spec.openWith registry default).run services state = (.ok endpoint, after)) :
    ∃ middle log, Reaches services .root state.container middle ∧
      after.container = { middle with log } ∧
      spec.Serves services default middle endpoint ∧
      ∀ {hosting}, endpoint.single = some hosting → Loose services middle hosting.served.object →
        state.container.instances.length ≤ hosting.served.object.index := by
  obtain ⟨lifetime, single, middle, event, registered, opening, rfl, rfl⟩ :=
    run_openWith_ok opened
  obtain ⟨mode, object, found, answered, rfl, rfl⟩ | ⟨mode, rfl, rfl⟩ := run_openSingle_ok opening
  · have reaches : Reaches services .root state.container
        ((Resolution.require .root spec.service).run services state.container).2 :=
      Resolution.reaches_require .root spec.service state.container
    rw [answered] at reaches
    obtain ⟨holds, fresh⟩ := holds_of_require made orderly answered
    refine ⟨found, _, reaches, rfl, ⟨rfl, rfl, ⟨lifetime, registered, rfl⟩,
      fun other => absurd mode other, fun _ => ⟨object, rfl, holds⟩⟩, ?_⟩
    intro hosting same loose
    obtain rfl := Option.some.inj same
    exact fresh (holds.lifetime_of_loose made loose)
  · exact ⟨_, _, Reaches.refl _, rfl, ⟨rfl, rfl, ⟨lifetime, registered, rfl⟩,
      fun _ => rfl, fun single => absurd single mode⟩, fun absurd => nomatch absurd⟩

end EndpointSpec

/-- Endpoints are opened one after another, each at an address that none before it has. -/
inductive Host.OpensAll (services : Services σ) (registry : AdapterRegistry σ)
    (default : InstanceMode) : List (EndpointSpec σ) → Keyed String (Endpoint σ) →
      ServiceState σ → Keyed String (Endpoint σ) → ServiceState σ → Prop where
  /-- There is nothing to open. -/
  | nil (opened : Keyed String (Endpoint σ)) (state : ServiceState σ) :
      OpensAll services registry default [] opened state opened state
  /-- An endpoint is opened before the others. -/
  | cons {spec : EndpointSpec σ} {rest : List (EndpointSpec σ)} {opened final}
      {before middle after : ServiceState σ} {endpoint : Endpoint σ}
      (opening : (spec.openWith registry default).run services before = (.ok endpoint, middle))
      (free : opened.get? spec.address = none)
      (others : OpensAll services registry default rest (opened.insert spec.address endpoint)
        middle final after) :
      OpensAll services registry default (spec :: rest) opened before final after

/-- Opening endpoints succeeds in no other way. -/
theorem Host.opensAll_of_openEndpoints {registry : AdapterRegistry σ}
    {specs : List (EndpointSpec σ)}
    {opened final : Keyed String (Endpoint σ)} {before after : ServiceState σ}
    (succeeded : (openEndpoints registry default specs opened).run services before =
      (.ok final, after)) :
    OpensAll services registry default specs opened before final after := by
  induction specs generalizing opened before with
  | nil =>
    obtain ⟨rfl, rfl⟩ : opened = final ∧ before = after := by
      simpa [Host.openEndpoints] using succeeded
    exact .nil opened before
  | cons spec rest ih =>
    rw [Host.openEndpoints, Serving.run_bind, Serving.run_attempt] at succeeded
    cases opening : (spec.openWith registry default).run services before with
    | mk result middle =>
      rw [opening] at succeeded
      cases result with
      | error failure => exact absurd succeeded (Serving.run_bind_throw_ne _ _ _ _)
      | ok endpoint =>
        dsimp only at succeeded
        cases used : opened.get? spec.address with
        | none =>
          rw [used] at succeeded
          exact .cons opening used (ih succeeded)
        | some former =>
          rw [used] at succeeded
          dsimp only at succeeded
          rw [Serving.run_bind] at succeeded
          cases letGo : (former.release : Run σ Unit).run services middle with
          | mk released left =>
            rw [letGo] at succeeded
            cases released with
            | error failure => simp at succeeded
            | ok => exact absurd succeeded (Serving.run_bind_throw_ne _ _ _ _)

/-- The endpoints described so far are open, next to no others, over a container that keeps their
instances. -/
structure Host.Opened (services : Services σ) (default : InstanceMode)
    (specs : List (EndpointSpec σ)) (opened : Keyed String (Endpoint σ)) (container : Container σ) :
    Prop where
  /-- No cached instance has two places. -/
  orderly : Orderly services container
  /-- Cached instances are as their factories build them. -/
  stocked : Stocked services container
  /-- No address is used twice. -/
  distinct : (specs.map (·.address)).Nodup
  /-- Every endpoint described is open. -/
  complete : ∀ {spec}, spec ∈ specs → opened.contains spec.address = true
  /-- Every open endpoint serves what was described for its address. -/
  serves : ∀ {address endpoint}, opened.get? address = some endpoint →
    ∃ spec ∈ specs, spec.address = address ∧ spec.Serves services default container endpoint
  /-- Endpoints of services that are not shared have different instances. -/
  apart : ∀ {address address' endpoint endpoint' hosting hosting'},
    opened.get? address = some endpoint → opened.get? address' = some endpoint' →
    endpoint.single = some hosting → endpoint'.single = some hosting' →
    Loose services container hosting.served.object →
    hosting.served.object = hosting'.served.object → address = address'

namespace Host

variable {before after container : Container σ} {specs : List (EndpointSpec σ)}
  {opened : Keyed String (Endpoint σ)}

theorem Opened.start (orderly : Orderly services container) (stocked : Stocked services container) :
    Opened services default [] .empty container where
  orderly := orderly
  stocked := stocked
  distinct := List.nodup_nil
  complete absurd := nomatch absurd
  serves absurd := nomatch absurd
  apart absurd := nomatch absurd

theorem Opened.relog (opens : Opened services default specs opened container) (log : List Event) :
    Opened services default specs opened { container with log } where
  orderly := opens.orderly.relog log
  stocked := opens.stocked
  distinct := opens.distinct
  complete := opens.complete
  serves found := by
    obtain ⟨spec, mem, here, serves⟩ := opens.serves found
    exact ⟨spec, mem, here, serves.of_holds fun holds => holds.relog log⟩
  apart := opens.apart

theorem Opened.of_reaches {session : Session}
    (opens : Opened services default specs opened before)
    (reaches : Reaches services session before after) :
    Opened services default specs opened after where
  orderly := reaches.orderly opens.orderly
  stocked := reaches.stocked opens.stocked
  distinct := opens.distinct
  complete := opens.complete
  serves found := by
    obtain ⟨spec, mem, here, serves⟩ := opens.serves found
    exact ⟨spec, mem, here, serves.of_holds fun holds => holds.of_reaches reaches⟩
  apart found found' single single' loose same :=
    opens.apart found found' single single' (loose.of_grows reaches.grows) same

/-- An address has one description, which is found by it. -/
theorem Opened.find?_address (opens : Opened services default specs opened container)
    {spec : EndpointSpec σ} (mem : spec ∈ specs) :
    specs.find? (fun other => other.address = spec.address) = some spec := by
  cases found : specs.find? (fun other => other.address = spec.address) with
  | none => simpa using List.find?_eq_none.mp found spec mem
  | some other =>
    have same : other.address = spec.address := by simpa using List.find?_some found
    rw [List.inj_on_of_nodup_map opens.distinct (List.mem_of_find?_eq_some found) mem same]

/-- The endpoint at the address of a description serves what is described there. -/
theorem Opened.serves_of_mem (opens : Opened services default specs opened container)
    {spec : EndpointSpec σ} (mem : spec ∈ specs) {endpoint : Endpoint σ}
    (found : opened.get? spec.address = some endpoint) :
    spec.Serves services default container endpoint := by
  obtain ⟨other, mem', same, serves⟩ := opens.serves found
  obtain rfl := List.inj_on_of_nodup_map opens.distinct mem' mem same
  exact serves

/-- The instance of an open endpoint exists. -/
theorem Opened.index_lt (opens : Opened services default specs opened container)
    (made : ∀ spec ∈ specs, services.IsMade spec.service) {address : String}
    {endpoint : Endpoint σ} {hosting : InstanceContext}
    (found : opened.get? address = some endpoint) (single : endpoint.single = some hosting) :
    hosting.served.object.index < container.instances.length := by
  obtain ⟨spec, mem, -, serves⟩ := opens.serves found
  obtain ⟨built, here, -⟩ := (serves.holds single).stocked (made spec mem) opens.stocked
  exact Container.instance?_lt here

/-- One more endpoint at a new address is open if its instance, where it is not shared, is new. -/
theorem Opened.insert (opens : Opened services default specs opened container)
    {spec : EndpointSpec σ} {endpoint : Endpoint σ} (free : opened.get? spec.address = none)
    (serves : spec.Serves services default container endpoint)
    (fresh : ∀ {address endpoint' hosting hosting'}, opened.get? address = some endpoint' →
      endpoint'.single = some hosting' → endpoint.single = some hosting →
      Loose services container hosting.served.object →
      hosting.served.object ≠ hosting'.served.object) :
    Opened services default (specs ++ [spec]) (opened.insert spec.address endpoint) container where
  orderly := opens.orderly
  stocked := opens.stocked
  distinct := by
    rw [List.map_append, List.nodup_append]
    refine ⟨opens.distinct, by simp, ?_⟩
    intro address used other last same
    obtain ⟨former, mem, rfl⟩ := List.mem_map.mp used
    have taken := opens.complete mem
    rw [same, List.mem_singleton.mp last, Keyed.contains, free] at taken
    contradiction
  complete mem := by
    rw [Keyed.contains, Keyed.get?_insert]
    split
    · rfl
    · obtain former | last := List.mem_append.mp mem
      · exact opens.complete former
      · rename_i other
        exact absurd (congrArg EndpointSpec.address (List.mem_singleton.mp last)).symm other
  serves found := by
    rw [Keyed.get?_insert] at found
    split at found
    · rename_i here
      obtain rfl := Option.some.inj found
      exact ⟨spec, List.mem_append_right _ List.mem_cons_self, here, serves⟩
    · obtain ⟨former, mem, rest⟩ := opens.serves found
      exact ⟨former, List.mem_append_left _ mem, rest⟩
  apart found found' single single' loose same := by
    rw [Keyed.get?_insert] at found found'
    split at found <;> split at found'
    · rename_i here here'
      exact here.symm.trans here'
    · obtain rfl := Option.some.inj found
      exact absurd same (fresh found' single' single loose)
    · obtain rfl := Option.some.inj found'
      rw [same] at loose
      exact absurd same.symm (fresh found single single' loose)
    · exact opens.apart found found' single single' loose same

/-- Endpoints are opened in order, each next to those before it. -/
theorem Opened.openEndpoints {registry : AdapterRegistry σ} {rest : List (EndpointSpec σ)}
    (opens : Opened services default specs opened state.container)
    (made : ∀ spec ∈ specs ++ rest, services.IsMade spec.service)
    {final : Keyed String (Endpoint σ)} {after : ServiceState σ}
    (succeeded : (openEndpoints registry default rest opened).run services state =
      (.ok final, after)) :
    Opened services default (specs ++ rest) final after.container := by
  have inOrder := opensAll_of_openEndpoints succeeded
  clear succeeded
  induction inOrder generalizing specs with
  | nil opened state => simpa using opens
  | @cons spec rest opened final state middle after endpoint opening free others ih =>
    obtain ⟨found, log, reaches, grown, serves, fresh⟩ :=
      EndpointSpec.openWith_ok (made spec (by simp)) opens.orderly opening
    have next : Opened services default (specs ++ [spec])
        (opened.insert spec.address endpoint) middle.container := by
      rw [grown]
      refine ((opens.of_reaches reaches).insert free serves ?_).relog log
      intro address endpoint' hosting hosting' here single' single loose same
      have old := opens.index_lt (fun spec mem => made spec (List.mem_append_left _ mem))
        here single'
      have new := fresh single loose
      rw [same] at new
      exact Nat.lt_irrefl _ (Nat.lt_of_lt_of_le old new)
    have all : specs ++ spec :: rest = (specs ++ [spec]) ++ rest := by simp
    rw [all] at made ⊢
    exact ih next made

/-- A host that could be opened has sealed its registry and opened its endpoints in order, and
nothing else has become of the container than reports. -/
theorem openWith_ok {spec : HostSpec σ} {shared : AdapterRegistry σ} {host : Host σ}
    {after : ServiceState σ}
    (succeeded : (openWith spec shared).run services state = (.ok host, after)) :
    ∃ start middle log log',
      start.container = { state.container with log } ∧
      (openEndpoints (spec.sealRegistry shared).2 spec.settings.host.defaultMode spec.endpoints
        .empty).run services start = (.ok host.endpoints, middle) ∧
      after.container = { middle.container with log := log' } ∧
      host.registry = (spec.sealRegistry shared).2 := by
  rw [openWith, Serving.run_bind, Serving.run_reportAll] at succeeded
  generalize spec.sealRegistry shared = sealed at succeeded ⊢
  obtain ⟨sealing, registry⟩ := sealed
  cases sealing with
  | error failure => simp [Serving.run_bind] at succeeded
  | ok =>
    simp only [Serving.run_bind, Serving.run_ofExcept, Serving.run_read, Serving.run_report,
      Container.foldl_report] at succeeded
    generalize started : ServiceState.mk _ _ _ _ = start at succeeded
    cases opening : (openEndpoints registry spec.settings.host.defaultMode spec.endpoints
        .empty).run services start with
    | mk result middle =>
      cases result with
      | error failure => simp [opening] at succeeded
      | ok endpoints =>
        simp only [opening, Serving.run_pure, Prod.mk.injEq, Except.ok.injEq] at succeeded
        obtain ⟨rfl, rfl⟩ := succeeded
        exact ⟨start, middle, _, _, by rw [← started]; rfl, opening, rfl, rfl⟩

/-- A host that could be opened over a container of its own has all its endpoints open. -/
theorem opened_of_openWith {spec : HostSpec σ} {shared : AdapterRegistry σ} {host : Host σ}
    {after : ServiceState σ} (unused : state.container.IsUnused)
    (made : ∀ endpoint ∈ spec.endpoints, services.IsMade endpoint.service)
    (succeeded : (openWith spec shared).run services state = (.ok host, after)) :
    Opened services spec.settings.host.defaultMode spec.endpoints host.endpoints
      after.container := by
  obtain ⟨start, middle, log, log', started, opening, finished, -⟩ := openWith_ok succeeded
  have untouched : start.container.IsUnused := by
    rw [started]
    exact unused.relog log
  have opens : Opened services spec.settings.host.defaultMode ([] ++ spec.endpoints)
      host.endpoints middle.container :=
    (Opened.start untouched.orderly untouched.stocked).openEndpoints made opening
  rw [finished]
  exact opens.relog log'

/-- An open host uses the registry that it sealed, or the shared one. -/
theorem registry_of_openWith {spec : HostSpec σ} {shared : AdapterRegistry σ} {host : Host σ}
    {after : ServiceState σ}
    (succeeded : (openWith spec shared).run services state = (.ok host, after)) :
    host.registry = (spec.sealRegistry shared).2 := by
  obtain ⟨-, -, -, -, -, -, -, same⟩ := openWith_ok succeeded
  exact same

end Host

end ServiceDispatch
