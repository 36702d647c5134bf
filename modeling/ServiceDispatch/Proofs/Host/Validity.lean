import ServiceDispatch.Proofs.Host.Endpoints
import ServiceDispatch.Proofs.Service.Log

/-!
# Valid hosts

Which hosts can be opened, said without opening any. A host is valid if its registry can be sealed
and its endpoints pass four checks; the instance of an endpoint that serves all calls is looked for
in the container as the instances of the endpoints before it have left it. A host is opened exactly
if it is valid, and otherwise fails with the first check that does not pass. What is reported and
let go on the way is not covered.
-/

namespace ServiceDispatch

variable {σ : Type} {services : Services σ} {default : InstanceMode}
  {registry : AdapterRegistry σ}

/-- A service is registered if it has a lifetime. -/
theorem Services.contains_eq_isSome (services : Services σ) (key : ServiceKey) :
    services.contains key = (services.lifetime? key).isSome := by
  simp [contains, Keyed.contains, lifetime?, get?]

namespace EndpointSpec

section

variable (spec : EndpointSpec σ) (services : Services σ) (default : InstanceMode)

/-- The service is registered, and one instance of it is to serve all calls. -/
def IsSole : Prop :=
  ∃ lifetime, services.lifetime? spec.service = some lifetime ∧
    spec.mode default lifetime = .single

instance : Decidable (spec.IsSole services default) :=
  decidable_of_iff ((services.lifetime? spec.service).map (spec.mode default) = some .single)
    Option.map_eq_some_iff

/-- The instance that is to serve all calls, if there is to be one, is found in the container. -/
def Activates (container : Container σ) : Prop :=
  spec.IsSole services default → ∃ object,
    ((Resolution.require .root spec.service).run services container).1 = .ok object

/-- The container once that instance has been looked for. -/
def warm (container : Container σ) : Container σ :=
  if spec.IsSole services default then
    ((Resolution.require .root spec.service).run services container).2
  else container

/-- Every operation has an adapter. -/
def IsAdapted (registry : AdapterRegistry σ) : Prop :=
  ∀ signature ∈ spec.contract.operations, registry.contains signature.key.text = true

/-- The checks of an endpoint where the given addresses have been used. -/
structure Passes (registry : AdapterRegistry σ) (used : List String) (container : Container σ) :
    Prop where
  /-- The service is registered. -/
  registered : services.contains spec.service = true
  /-- Every operation has an adapter. -/
  adapted : spec.IsAdapted registry
  /-- The instance that is to serve all calls is found. -/
  activates : spec.Activates services default container
  /-- The address has not been used. -/
  fresh : spec.address ∉ used

/-- The first check of an endpoint that does not pass, where the given addresses have been used: its
service, its operations in order, its instance, its address. -/
inductive Fails (registry : AdapterRegistry σ) (used : List String) (container : Container σ) :
    Failure → Prop
  /-- The service is not registered. -/
  | service (unregistered : services.contains spec.service = false) :
      Fails registry used container
        (.serviceNotRegistered spec.service.typeName spec.service.name)
  /-- An operation is the first without an adapter. -/
  | operation {earlier later : List Signature} {signature : Signature}
      (registered : services.contains spec.service = true)
      (declared : spec.contract.operations = earlier ++ signature :: later)
      (adapted : ∀ former ∈ earlier, registry.contains former.key.text = true)
      (missing : registry.contains signature.key.text = false) :
      Fails registry used container (.registryMiss signature.key.text)
  /-- The instance that is to serve all calls is not found. -/
  | activation {failure : Failure}
      (registered : services.contains spec.service = true)
      (adapted : spec.IsAdapted registry)
      (sole : spec.IsSole services default)
      (refused : ((Resolution.require .root spec.service).run services container).1 =
        .error failure) :
      Fails registry used container failure
  /-- The address has been used. -/
  | address (registered : services.contains spec.service = true)
      (adapted : spec.IsAdapted registry)
      (activates : spec.Activates services default container)
      (repeated : spec.address ∈ used) :
      Fails registry used container (Host.duplicateAddress spec.address)

/-- An address is served as described. -/
structure Hosts (entry : String × Endpoint σ) : Prop
    extends spec.Describes services default entry.2 where
  /-- The endpoint is found at the address described. -/
  key : entry.1 = spec.address
  /-- The endpoint knows its address. -/
  address : entry.2.address = spec.address
  /-- The mode asked for is the one declared or the default one. -/
  declared : entry.2.declared = spec.declared.getD default
  /-- The binding is the one described. -/
  binding : entry.2.binding = spec.binding
  /-- A service that the container shares is served by one instance. -/
  shared : services.lifetime? spec.service ≠ some .transient → entry.2.mode = .single
  /-- Any other one is served as asked for, per call in place of per session where the binding has
  no sessions. -/
  unshared : services.lifetime? spec.service = some .transient → entry.2.mode =
    if entry.2.declared = .perSession ∧ spec.binding.sessionful = false then .perCall
    else entry.2.declared
  /-- Instances for sessions are only where there are sessions. -/
  sessions : entry.2.mode = .perSession → entry.2.binding.sessionful = true
  /-- An instance that serves all calls is there in no other mode. -/
  sole : entry.2.single.isSome = true ↔ entry.2.mode = .single

end

end EndpointSpec

namespace HostSpec

section

variable (spec : HostSpec σ) (services : Services σ) (shared : AdapterRegistry σ)
  (container : Container σ)

/-- The container once the instances that are to serve all calls of endpoints have been looked for
one after another. -/
def warmed (endpoints : List (EndpointSpec σ)) : Container σ :=
  endpoints.foldl
    (fun container endpoint =>
      endpoint.warm services spec.settings.host.defaultMode container) container

/-- A host that can be opened over a container. -/
structure IsValid : Prop where
  /-- The registry can be sealed. -/
  seals : (spec.sealRegistry shared).1 = .ok ()
  /-- Every service is registered. -/
  registered : ∀ endpoint ∈ spec.endpoints, services.contains endpoint.service = true
  /-- Every operation has an adapter. -/
  adapted : ∀ endpoint ∈ spec.endpoints, endpoint.IsAdapted (spec.sealRegistry shared).2
  /-- Every instance that is to serve all calls is found after those before it. -/
  activates : ∀ {before endpoint after}, spec.endpoints = before ++ endpoint :: after →
    endpoint.Activates services spec.settings.host.defaultMode
      (spec.warmed services container before)
  /-- No address is used twice. -/
  distinct : (spec.endpoints.map (·.address)).Nodup

/-- The first failing check of a host: that of its registry, or that of the first endpoint that
fails where all endpoints before it could have been opened. -/
inductive FailsFirst : Failure → Prop
  /-- The registry cannot be sealed. -/
  | sealing {failure : Failure} (refused : (spec.sealRegistry shared).1 = .error failure) :
      FailsFirst failure
  /-- An endpoint fails next to those before it. -/
  | endpoint {before after : List (EndpointSpec σ)} {endpoint : EndpointSpec σ} {failure : Failure}
      (listed : spec.endpoints = before ++ endpoint :: after)
      (valid : IsValid { spec with endpoints := before } services shared container)
      (fails : endpoint.Fails services spec.settings.host.defaultMode (spec.sealRegistry shared).2
        (before.map (·.address)) (spec.warmed services container before) failure) :
      FailsFirst failure

end

end HostSpec

namespace EndpointSpec

variable {spec : EndpointSpec σ} {state after : ServiceState σ} {container : Container σ}

theorem missingAdapter?_eq_none_iff :
    spec.missingAdapter? registry = none ↔ spec.IsAdapted registry := by
  simp [missingAdapter?, IsAdapted]

/-- The missing adapter is that of the first operation without one. -/
theorem missingAdapter?_eq_some_iff {key : String} :
    spec.missingAdapter? registry = some key ↔
      ∃ earlier signature later, spec.contract.operations = earlier ++ signature :: later ∧
        (∀ former ∈ earlier, registry.contains former.key.text = true) ∧
        registry.contains signature.key.text = false ∧ key = signature.key.text := by
  rw [missingAdapter?, List.find?_map, Option.map_eq_some_iff]
  constructor
  · rintro ⟨signature, found, rfl⟩
    obtain ⟨lacks, earlier, later, declared, adapted⟩ := List.find?_eq_some_iff_append.mp found
    exact ⟨earlier, signature, later, declared, by simpa using adapted, by simpa using lacks, rfl⟩
  · rintro ⟨earlier, signature, later, declared, adapted, lacks, rfl⟩
    refine ⟨signature, List.find?_eq_some_iff_append.mpr ⟨by simpa using lacks, earlier, later,
      declared, by simpa using adapted⟩, rfl⟩

theorem isSole_iff {lifetime : Lifetime}
    (registered : services.lifetime? spec.service = some lifetime) :
    spec.IsSole services default ↔ spec.mode default lifetime = .single := by
  simp [IsSole, registered]

/-- Looking for an instance does not depend on the log. -/
theorem warm_differsInLog {container other : Container σ}
    (differs : container.DiffersInLog other) :
    (spec.warm services default container).DiffersInLog (spec.warm services default other) := by
  rw [warm, warm]
  split
  · exact (Resolution.run_require_of_differsInLog differs services .root spec.service).2
  · exact differs

theorem Activates.of_differsInLog {container other : Container σ}
    (activates : spec.Activates services default container)
    (differs : container.DiffersInLog other) : spec.Activates services default other := by
  intro sole
  rw [← (Resolution.run_require_of_differsInLog differs services .root spec.service).1]
  exact activates sole

theorem Fails.of_differsInLog {container other : Container σ} {used : List String}
    {failure : Failure} (fails : spec.Fails services default registry used container failure)
    (differs : container.DiffersInLog other) :
    spec.Fails services default registry used other failure := by
  cases fails with
  | service unregistered => exact .service unregistered
  | operation registered declared adapted missing =>
    exact .operation registered declared adapted missing
  | activation registered adapted sole refused =>
    rw [(Resolution.run_require_of_differsInLog differs services .root spec.service).1] at refused
    exact .activation registered adapted sole refused
  | address registered adapted activates «repeated» =>
    exact .address registered adapted (activates.of_differsInLog differs) «repeated»

theorem not_isAdapted {earlier later : List Signature} {signature : Signature}
    (declared : spec.contract.operations = earlier ++ signature :: later)
    (missing : registry.contains signature.key.text = false) : ¬ spec.IsAdapted registry := by
  intro adapted
  have there := adapted signature (declared ▸ List.mem_append_right _ List.mem_cons_self)
  simp [there] at missing

theorem not_activates {failure : Failure} (sole : spec.IsSole services default)
    (refused : ((Resolution.require .root spec.service).run services container).1 =
      .error failure) : ¬ spec.Activates services default container := by
  intro activates
  obtain ⟨object, found⟩ := activates sole
  simp [found] at refused

/-- An endpoint that passes all checks fails none. -/
theorem Fails.not_passes {used : List String} {failure : Failure}
    (fails : spec.Fails services default registry used container failure) :
    ¬ spec.Passes services default registry used container := by
  intro passes
  cases fails with
  | service unregistered => simp [passes.registered] at unregistered
  | operation _ declared _ missing => exact not_isAdapted declared missing passes.adapted
  | activation _ _ sole refused => exact not_activates sole refused passes.activates
  | address _ _ _ «repeated» => exact passes.fresh «repeated»

/-- An endpoint has one first failing check. -/
theorem Fails.unique {used : List String} {failure failure' : Failure}
    (fails : spec.Fails services default registry used container failure)
    (fails' : spec.Fails services default registry used container failure') :
    failure = failure' := by
  cases fails with
  | service unregistered =>
    cases fails' with
    | service => rfl
    | operation registered | activation registered | address registered =>
      simp [registered] at unregistered
  | operation registered declared adapted missing =>
    cases fails' with
    | service unregistered => simp [registered] at unregistered
    | operation _ declared' adapted' missing' =>
      have first := missingAdapter?_eq_some_iff.mpr ⟨_, _, _, declared, adapted, missing, rfl⟩
      rw [missingAdapter?_eq_some_iff.mpr ⟨_, _, _, declared', adapted', missing', rfl⟩] at first
      exact congrArg Failure.registryMiss (Option.some.inj first).symm
    | activation _ all | address _ all => exact absurd all (not_isAdapted declared missing)
  | activation registered all sole refused =>
    cases fails' with
    | service unregistered => simp [registered] at unregistered
    | operation _ declared _ missing => exact absurd all (not_isAdapted declared missing)
    | activation _ _ _ refused' => exact Except.error.inj (refused.symm.trans refused')
    | address _ _ activates => exact absurd activates (not_activates sole refused)
  | address registered all activates =>
    cases fails' with
    | service unregistered => simp [registered] at unregistered
    | operation _ declared _ missing => exact absurd all (not_isAdapted declared missing)
    | activation _ _ sole refused => exact absurd activates (not_activates sole refused)
    | address => rfl

/-- A service that the container shares is served by one instance, whatever was asked for. -/
theorem mode_eq_single {lifetime : Lifetime} (shared : lifetime ≠ .transient) :
    spec.mode default lifetime = .single := by
  rw [mode]
  cases lifetime with
  | transient => exact absurd rfl shared
  | singleton | «scoped» => split <;> rfl

/-- A service that the container does not share is served as asked for, per call in place of per
session where the binding has no sessions. -/
theorem mode_transient : spec.mode default .transient =
    if spec.declaredMode default = .perSession ∧ spec.binding.sessionful = false then .perCall
    else spec.declaredMode default := by
  rw [mode]
  dsimp only [InstanceMode.effective]
  cases spec.binding.sessionful with
  | true => simp
  | false => cases spec.declaredMode default <;> rfl

/-- Instances for sessions are only where there are sessions. -/
theorem sessionful_of_mode {lifetime : Lifetime}
    (sessions : spec.mode default lifetime = .perSession) : spec.binding.sessionful = true := by
  rw [mode] at sessions
  split at sessions
  · assumption
  · generalize (spec.declaredMode default).effective lifetime = effective at sessions
    cases effective <;> cases sessions

/-- An endpoint that could be opened passes its own checks and serves what is described; the
container has changed as by looking for its instance. -/
theorem openWith_passes {endpoint : Endpoint σ}
    (opened : (spec.openWith registry default).run services state = (.ok endpoint, after)) :
    services.contains spec.service = true ∧ spec.IsAdapted registry ∧
      spec.Activates services default state.container ∧
      spec.Hosts services default (spec.address, endpoint) ∧
      after.container.DiffersInLog (spec.warm services default state.container) := by
  have adapted : spec.missingAdapter? registry = none := by
    cases missing : spec.missingAdapter? registry with
    | none => rfl
    | some key =>
      rw [run_openWith, missing] at opened
      cases found : services.lifetime? spec.service <;> simp [found] at opened
  have describes := describes_of_openWith opened
  obtain ⟨lifetime, single, middle, event, registered, opening, rfl, rfl⟩ :=
    run_openWith_ok opened
  refine ⟨by rw [Services.contains_eq_isSome, registered]; rfl,
    missingAdapter?_eq_none_iff.mp adapted, ?_⟩
  have hosts : (single.isSome = true ↔ spec.mode default lifetime = .single) →
      spec.Hosts services default (spec.address, ⟨spec.address, spec.contract.name,
        spec.contract.operations, spec.declaredMode default, spec.mode default lifetime,
        spec.binding, spec.activator, single⟩) := fun sole =>
    { describes with
      key := rfl
      address := rfl
      declared := rfl
      binding := rfl
      shared := fun other => mode_eq_single fun transient => other (transient ▸ registered)
      unshared := fun transient => by
        obtain rfl := Option.some.inj (registered.symm.trans transient)
        exact mode_transient
      sessions := sessionful_of_mode
      sole }
  obtain ⟨sole, object, found, answered, rfl, rfl⟩ | ⟨other, rfl, rfl⟩ := run_openSingle_ok opening
  · refine ⟨fun _ => ⟨object, by rw [answered]⟩, hosts (by simp [sole]), ?_⟩
    rw [warm, if_pos ((isSole_iff registered).mpr sole), answered]
    exact ⟨_, rfl⟩
  · refine ⟨fun sole => absurd ((isSole_iff registered).mp sole) other, hosts (by simp [other]), ?_⟩
    rw [warm, if_neg fun sole => other ((isSole_iff registered).mp sole)]
    exact ⟨_, rfl⟩

/-- An endpoint that could not be opened fails its first check that does not pass, wherever it was
to be served. -/
theorem openWith_fails {failure : Failure} (used : List String)
    (refused : (spec.openWith registry default).run services state = (.error failure, after)) :
    spec.Fails services default registry used state.container failure := by
  rw [run_openWith] at refused
  cases found : services.lifetime? spec.service with
  | none =>
    simp only [found, Prod.mk.injEq, Except.error.injEq] at refused
    obtain ⟨rfl, -⟩ := refused
    exact .service (by rw [Services.contains_eq_isSome, found]; rfl)
  | some lifetime =>
    have registered : services.contains spec.service = true := by
      rw [Services.contains_eq_isSome, found]; rfl
    rw [found] at refused
    cases missing : spec.missingAdapter? registry with
    | some key =>
      simp only [missing, Prod.mk.injEq, Except.error.injEq] at refused
      obtain ⟨rfl, -⟩ := refused
      obtain ⟨earlier, signature, later, declared, adapted, lacks, rfl⟩ :=
        missingAdapter?_eq_some_iff.mp missing
      exact .operation registered declared adapted lacks
    | none =>
      have adapted := missingAdapter?_eq_none_iff.mp missing
      simp only [missing, run_openSingle] at refused
      by_cases sole : spec.mode default lifetime = .single
      · rw [if_pos sole] at refused
        match answered : (Resolution.require .root spec.service).run services state.container with
        | (.ok _, _) => simp [answered] at refused
        | (.error reason, _) =>
          simp only [answered, Prod.mk.injEq, Except.error.injEq] at refused
          obtain ⟨rfl, -⟩ := refused
          exact .activation registered adapted ((isSole_iff found).mpr sole) (by rw [answered])
      · simp [sole] at refused

end EndpointSpec

namespace HostSpec

variable {spec : HostSpec σ} {shared : AdapterRegistry σ} {container : Container σ}
  {before after : List (EndpointSpec σ)} {endpoint : EndpointSpec σ}

theorem warmed_concat : spec.warmed services container (before ++ [endpoint]) =
    endpoint.warm services spec.settings.host.defaultMode
      (spec.warmed services container before) := by
  simp [warmed]

/-- Every endpoint of a valid host passes its checks. -/
theorem IsValid.passes (valid : spec.IsValid services shared container)
    (listed : spec.endpoints = before ++ endpoint :: after) :
    endpoint.Passes services spec.settings.host.defaultMode (spec.sealRegistry shared).2
      (before.map (·.address)) (spec.warmed services container before) where
  registered := valid.registered endpoint (by simp [listed])
  adapted := valid.adapted endpoint (by simp [listed])
  activates := valid.activates listed
  fresh := by
    have distinct := valid.distinct
    rw [listed, List.map_append, List.map_cons, List.nodup_append] at distinct
    exact fun used => distinct.2.2 _ used _ List.mem_cons_self rfl

/-- A valid host stays valid with one more endpoint that passes its checks. -/
theorem IsValid.concat (valid : IsValid { spec with endpoints := before } services shared container)
    (passes : endpoint.Passes services spec.settings.host.defaultMode (spec.sealRegistry shared).2
      (before.map (·.address)) (spec.warmed services container before)) :
    IsValid { spec with endpoints := before ++ [endpoint] } services shared container where
  seals := valid.seals
  registered described mem := by
    obtain former | last := List.mem_append.mp mem
    · exact valid.registered described former
    · exact List.mem_singleton.mp last ▸ passes.registered
  adapted described mem := by
    obtain former | last := List.mem_append.mp mem
    · exact valid.adapted described former
    · exact List.mem_singleton.mp last ▸ passes.adapted
  activates {first here rest} split := by
    have whole : before ++ [endpoint] = first ++ here :: rest := split
    obtain rfl | ⟨middle, last, rfl⟩ := List.eq_nil_or_concat' rest
    · obtain ⟨rfl, same⟩ := List.append_inj' whole rfl
      obtain rfl := List.singleton_inj.mp same
      exact passes.activates
    · rw [← List.cons_append, ← List.append_assoc] at whole
      exact valid.activates (List.append_inj' whole rfl).1
  distinct := by
    rw [List.map_append, List.nodup_append]
    refine ⟨valid.distinct, by simp, ?_⟩
    intro address used other last same
    rw [same, List.mem_singleton.mp last] at used
    exact passes.fresh used

theorem isValid_nil (seals : (spec.sealRegistry shared).1 = .ok ()) :
    IsValid { spec with endpoints := [] } services shared container where
  seals := seals
  registered := nofun
  adapted := nofun
  activates split := by simp at split
  distinct := List.nodup_nil

/-- A host that has a first failing check is not valid. -/
theorem FailsFirst.not_isValid {failure : Failure}
    (fails : spec.FailsFirst services shared container failure) :
    ¬ spec.IsValid services shared container := by
  intro valid
  cases fails with
  | sealing refused => simp [valid.seals] at refused
  | endpoint listed _ fails => exact fails.not_passes (valid.passes listed)

/-- No endpoint fails among those of a valid host. -/
theorem IsValid.length_le_of_fails {before' after' : List (EndpointSpec σ)}
    {endpoint' : EndpointSpec σ} {failure : Failure}
    (valid : IsValid { spec with endpoints := before } services shared container)
    (listed : spec.endpoints = before ++ endpoint :: after)
    (listed' : spec.endpoints = before' ++ endpoint' :: after')
    (fails : endpoint'.Fails services spec.settings.host.defaultMode (spec.sealRegistry shared).2
      (before'.map (·.address)) (spec.warmed services container before') failure) :
    before.length ≤ before'.length := by
  by_contra longer
  have front : before' ++ [endpoint'] <+: spec.endpoints :=
    ⟨after', by rw [listed', List.append_assoc, List.singleton_append]⟩
  have whole : before <+: spec.endpoints := ⟨endpoint :: after, listed.symm⟩
  have shorter : (before' ++ [endpoint']).length ≤ before.length := by
    rw [List.length_append, List.length_singleton]
    omega
  obtain ⟨between, same⟩ := List.prefix_of_prefix_length_le front whole shorter
  rw [List.append_assoc, List.singleton_append] at same
  exact fails.not_passes (valid.passes same.symm)

/-- A host has one first failing check. -/
theorem FailsFirst.unique {failure failure' : Failure}
    (fails : spec.FailsFirst services shared container failure)
    (fails' : spec.FailsFirst services shared container failure') : failure = failure' := by
  cases fails with
  | sealing refused =>
    cases fails' with
    | sealing refused' => exact Except.error.inj (refused.symm.trans refused')
    | endpoint _ valid =>
      have seals : (spec.sealRegistry shared).1 = .ok () := valid.seals
      simp [seals] at refused
  | endpoint listed valid fails =>
    cases fails' with
    | sealing refused =>
      have seals : (spec.sealRegistry shared).1 = .ok () := valid.seals
      simp [seals] at refused
    | endpoint listed' valid' fails' =>
      have shorter := valid.length_le_of_fails listed listed' fails'
      have longer := valid'.length_le_of_fails listed' listed fails
      obtain ⟨rfl, rest⟩ :=
        List.append_inj (listed.symm.trans listed') (Nat.le_antisymm shorter longer)
      obtain ⟨rfl, -⟩ := List.cons.inj rest
      exact fails.unique fails'

end HostSpec

namespace Endpoint

variable (services : Services σ) (state : ServiceState σ)

/-- An instance is always let go. -/
theorem run_release (endpoint : Endpoint σ) :
    ∃ after, (endpoint.release : Run σ Unit).run services state = (.ok (), after) := by
  rw [release]
  cases endpoint.single with
  | none => exact ⟨state, rfl⟩
  | some hosting => exact ⟨_, InstanceContext.run_release hosting⟩

theorem run_forM_release (endpoints : List (Endpoint σ)) :
    ∃ after, (endpoints.forM release : Run σ Unit).run services state = (.ok (), after) := by
  induction endpoints generalizing state with
  | nil => exact ⟨state, rfl⟩
  | cons endpoint rest ih =>
    obtain ⟨middle, released⟩ := endpoint.run_release services state
    obtain ⟨after, others⟩ := ih middle
    have inOrder : ((endpoint :: rest).forM release : Run σ Unit) =
        endpoint.release >>= fun _ => rest.forM release := rfl
    rw [inOrder, Serving.run_bind, released]
    exact ⟨after, others⟩

end Endpoint

namespace Host

variable {spec : HostSpec σ} {shared : AdapterRegistry σ} {container : Container σ}
  {state : ServiceState σ} {before : List (EndpointSpec σ)}
  {opened : Keyed String (Endpoint σ)}

/-- What opening endpoints answers, whatever is let go when it fails. -/
theorem run_openEndpoints_cons (registry : AdapterRegistry σ) (default : InstanceMode)
    (endpoint : EndpointSpec σ) (rest : List (EndpointSpec σ))
    (opened : Keyed String (Endpoint σ)) (services : Services σ) (state : ServiceState σ) :
    ((openEndpoints registry default (endpoint :: rest) opened).run services state).1 =
      match (endpoint.openWith registry default).run services state with
      | (.error failure, _) => .error failure
      | (.ok hosted, middle) =>
        match opened.get? endpoint.address with
        | none =>
          ((openEndpoints registry default rest (opened.insert endpoint.address hosted)).run
            services middle).1
        | some _ => .error (duplicateAddress endpoint.address) := by
  rw [openEndpoints, Serving.run_bind, Serving.run_attempt]
  cases (endpoint.openWith registry default).run services state with
  | mk result middle =>
    cases result with
    | error failure =>
      obtain ⟨after, released⟩ := Endpoint.run_forM_release services middle opened.values
      dsimp only
      rw [Serving.run_bind, released]
      rfl
    | ok hosted =>
      dsimp only
      cases opened.get? endpoint.address with
      | none => rfl
      | some former =>
        obtain ⟨later, released⟩ := former.run_release services middle
        obtain ⟨after, others⟩ := Endpoint.run_forM_release services later
          (opened.insert endpoint.address hosted).values
        dsimp only
        rw [Serving.run_bind, released]
        dsimp only
        rw [Serving.run_bind, others]
        rfl

/-- Addresses are used as described. -/
theorem EndpointSpec.keys_of_hosts {specs : List (EndpointSpec σ)}
    {opened : Keyed String (Endpoint σ)}
    (hosts : List.Forall₂ (fun described => described.Hosts services default) specs
      opened.entries) :
    opened.keys = specs.map (·.address) := by
  rw [Keyed.keys]
  generalize opened.entries = entries at hosts
  induction hosts with
  | nil => rfl
  | cons head _ ih => rw [List.map_cons, List.map_cons, head.key, ih]

/-- Endpoints are opened after those of a valid host, and the host is valid with them; or one of
them is the first to fail. -/
theorem openEndpoints_outcome (rest : List (EndpointSpec σ))
    (valid : HostSpec.IsValid { spec with endpoints := before } services shared container)
    (hosts : List.Forall₂
      (fun described => described.Hosts services spec.settings.host.defaultMode) before
      opened.entries)
    (warmed : state.container.DiffersInLog (spec.warmed services container before)) :
    (∃ final, ((openEndpoints (spec.sealRegistry shared).2 spec.settings.host.defaultMode rest
          opened).run services state).1 = .ok final ∧
        HostSpec.IsValid { spec with endpoints := before ++ rest } services shared container ∧
        List.Forall₂ (fun described => described.Hosts services spec.settings.host.defaultMode)
          (before ++ rest) final.entries) ∨
      ∃ failure, ((openEndpoints (spec.sealRegistry shared).2 spec.settings.host.defaultMode rest
          opened).run services state).1 = .error failure ∧
        HostSpec.FailsFirst { spec with endpoints := before ++ rest } services shared container
          failure := by
  induction rest generalizing before opened state with
  | nil =>
    rw [List.append_nil]
    exact .inl ⟨opened, rfl, valid, hosts⟩
  | cons endpoint rest ih =>
    rw [run_openEndpoints_cons]
    have keys := EndpointSpec.keys_of_hosts hosts
    cases opening : (endpoint.openWith (spec.sealRegistry shared).2
        spec.settings.host.defaultMode).run services state with
    | mk result middle =>
      cases result with
      | error failure =>
        have fails := EndpointSpec.openWith_fails (before.map (·.address)) opening
        exact .inr ⟨failure, rfl, .endpoint rfl valid (fails.of_differsInLog warmed)⟩
      | ok hosted =>
        obtain ⟨registered, adapted, found, serves, left⟩ := EndpointSpec.openWith_passes opening
        have activates := found.of_differsInLog warmed
        dsimp only
        cases free : opened.get? endpoint.address with
        | some former =>
          have used : endpoint.address ∈ before.map (·.address) := by
            rw [← keys, Keyed.mem_keys_iff, Keyed.contains, free]
            rfl
          exact .inr ⟨_, rfl, .endpoint rfl valid (.address registered adapted activates used)⟩
        | none =>
          have fresh : endpoint.address ∉ opened.keys := by
            rw [Keyed.mem_keys_iff, Keyed.contains, free]
            simp
          have valid' := valid.concat ⟨registered, adapted, activates, keys ▸ fresh⟩
          have hosts' : List.Forall₂
              (fun described => described.Hosts services spec.settings.host.defaultMode)
              (before ++ [endpoint]) (opened.insert endpoint.address hosted).entries := by
            rw [Keyed.insert, Keyed.put_of_notMem fresh]
            exact List.rel_append hosts (.cons serves .nil)
          have warmed' : middle.container.DiffersInLog
              (spec.warmed services container (before ++ [endpoint])) := by
            rw [HostSpec.warmed_concat]
            exact left.trans (EndpointSpec.warm_differsInLog warmed)
          have next := ih valid' hosts' warmed'
          rw [List.append_assoc, List.singleton_append] at next
          exact next

/-- A host is opened if it is valid, with the endpoints described; otherwise it fails with its first
failing check. -/
theorem openWith_outcome (spec : HostSpec σ) (shared : AdapterRegistry σ)
    (services : Services σ) (state : ServiceState σ) :
    (∃ host, ((openWith spec shared).run services state).1 = .ok host ∧
        spec.IsValid services shared state.container ∧
        host.registry = (spec.sealRegistry shared).2 ∧
        List.Forall₂ (fun described => described.Hosts services spec.settings.host.defaultMode)
          spec.endpoints host.endpoints.entries) ∨
      ∃ failure, ((openWith spec shared).run services state).1 = .error failure ∧
        spec.FailsFirst services shared state.container failure := by
  rw [openWith, Serving.run_bind, Serving.run_reportAll]
  cases sealed : spec.sealRegistry shared with
  | mk sealing registry =>
    cases sealing with
    | error failure =>
      exact .inr ⟨failure, by simp [Serving.run_bind], .sealing (by rw [sealed])⟩
    | ok =>
      simp only [Serving.run_bind, Serving.run_ofExcept, Serving.run_read, Serving.run_report,
        Container.foldl_report]
      generalize started : ServiceState.mk _ _ _ _ = start
      have same : start.container.DiffersInLog state.container := by
        rw [← started]
        exact ⟨_, rfl⟩
      have empty : HostSpec.IsValid { spec with endpoints := [] } services shared
        state.container := HostSpec.isValid_nil (by rw [sealed])
      cases run : (openEndpoints registry spec.settings.host.defaultMode spec.endpoints
          .empty).run services start with
      | mk result after =>
        have answer : ((openEndpoints (spec.sealRegistry shared).2 spec.settings.host.defaultMode
            spec.endpoints .empty).run services start).1 = result := by rw [sealed, run]
        obtain ⟨final, opening, valid, hosts⟩ | ⟨failure, opening, fails⟩ :=
          openEndpoints_outcome spec.endpoints empty .nil same
        · obtain rfl := answer.symm.trans opening
          exact .inl ⟨⟨registry, final⟩, rfl, valid, rfl, hosts⟩
        · obtain rfl := answer.symm.trans opening
          exact .inr ⟨failure, rfl, fails⟩

/-- A host can be opened exactly if it is valid, and fails otherwise with its first failing check.
Once open, its endpoints are those described, in the modes that follow from their services. -/
theorem openWith_accepts (spec : HostSpec σ) (shared : AdapterRegistry σ)
    (services : Services σ) (state : ServiceState σ) :
    ((∃ host, ((openWith spec shared).run services state).1 = .ok host) ↔
        spec.IsValid services shared state.container) ∧
      (∀ failure, ((openWith spec shared).run services state).1 = .error failure ↔
        spec.FailsFirst services shared state.container failure) ∧
      ∀ host, ((openWith spec shared).run services state).1 = .ok host →
        host.registry = (spec.sealRegistry shared).2 ∧
        List.Forall₂ (fun described => described.Hosts services spec.settings.host.defaultMode)
          spec.endpoints host.endpoints.entries := by
  obtain ⟨host, opened, valid, sealed, hosts⟩ | ⟨failure, refused, fails⟩ :=
    openWith_outcome spec shared services state
  · refine ⟨by simp [opened, valid], fun failure => ?_, fun host' same => ?_⟩
    · rw [opened]
      exact ⟨nofun, fun fails => absurd valid fails.not_isValid⟩
    · obtain rfl := Except.ok.inj (opened.symm.trans same)
      exact ⟨sealed, hosts⟩
  · rw [refused]
    refine ⟨⟨nofun, fun valid => absurd valid fails.not_isValid⟩, fun failure' => ⟨?_, ?_⟩, nofun⟩
    · intro same
      obtain rfl := Except.error.inj same
      exact fails
    · intro fails'
      rw [fails.unique fails']

end Host

end ServiceDispatch
