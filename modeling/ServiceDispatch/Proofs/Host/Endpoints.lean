import ServiceDispatch.Proofs.Host.Opening

/-!
# Endpoints of opened hosts

What the endpoints of an opened host have from their descriptions, whatever the container holds and
wherever instances come from, and what is kept of the container while a host is opened.
-/

namespace ServiceDispatch

variable {σ : Type} {services : Services σ} {default : InstanceMode}
  {registry : AdapterRegistry σ}

/-- An endpoint has its operations, its mode and the type of its instances from a description. -/
structure EndpointSpec.Describes (spec : EndpointSpec σ) (services : Services σ)
    (default : InstanceMode) (endpoint : Endpoint σ) : Prop where
  /-- The contract is the one described. -/
  contract : endpoint.contract = spec.contract.name
  /-- The operations are those of the contract. -/
  operations : endpoint.operations = spec.contract.operations
  /-- Instances come from the service. -/
  activator : endpoint.activator = spec.activator
  /-- The mode follows from the registration. -/
  mode : ∃ lifetime, services.lifetime? spec.service = some lifetime ∧
    endpoint.mode = spec.mode default lifetime
  /-- The instance that serves all calls is there in the mode that asks for one. -/
  single : endpoint.mode = .single → ∃ object,
    endpoint.single = some ⟨.single, .root, .ofType spec.contract.typeName object⟩

namespace InstanceContext

/-- An instance context that was opened has the mode asked for, a new session and an instance of the
contract. -/
theorem activate_ok {mode : InstanceMode} {service : ServiceKey} {contract : String}
    {state after : ServiceState σ} {hosting : InstanceContext}
    (activated : (activate mode (.ofService service contract)).run services state =
      (.ok hosting, after)) :
    ∃ object, hosting = ⟨mode, (begin mode state.container).1, .ofType contract object⟩ := by
  rw [run_activate] at activated
  dsimp only at activated
  match answered : (Resolution.require (begin mode state.container).1 service).run services
      (begin mode state.container).2 with
  | (.error _, _) => simp [answered] at activated
  | (.ok object, _) =>
    rw [answered] at activated
    exact ⟨object, (Except.ok.inj (Prod.mk.inj activated).1).symm⟩

end InstanceContext

/-- An endpoint that could be opened is as described. -/
theorem EndpointSpec.describes_of_openWith {spec : EndpointSpec σ} {before after : ServiceState σ}
    {endpoint : Endpoint σ}
    (opened : (spec.openWith registry default).run services before = (.ok endpoint, after)) :
    spec.Describes services default endpoint := by
  obtain ⟨lifetime, single, middle, event, registered, opening, rfl, rfl⟩ :=
    run_openWith_ok opened
  refine ⟨rfl, rfl, rfl, ⟨lifetime, registered, rfl⟩, fun mode => ?_⟩
  obtain ⟨-, object, found, answered, rfl, rfl⟩ | ⟨other, -⟩ := run_openSingle_ok opening
  · exact ⟨object, rfl⟩
  · exact absurd mode other

/-- Endpoints that were opened are as described, next to those that were open before. -/
theorem Host.OpensAll.described {specs : List (EndpointSpec σ)}
    {opened final : Keyed String (Endpoint σ)} {before after : ServiceState σ}
    (opens : OpensAll services registry default specs opened before final after)
    {address : String} {endpoint : Endpoint σ} (found : final.get? address = some endpoint) :
    opened.get? address = some endpoint ∨
      ∃ spec ∈ specs, spec.address = address ∧ spec.Describes services default endpoint := by
  induction opens with
  | nil opened state => exact .inl found
  | @cons spec rest opened final before middle after endpoint' opening free others ih =>
    obtain former | ⟨spec', mem, here, describes⟩ := ih found
    · rw [Keyed.get?_insert] at former
      split at former
      · rename_i same
        obtain rfl := Option.some.inj former
        exact .inr ⟨spec, List.mem_cons_self, same, EndpointSpec.describes_of_openWith opening⟩
      · exact .inl former
    · exact .inr ⟨spec', List.mem_cons_of_mem _ mem, here, describes⟩

/-- Every endpoint of an opened host is as described for its address. -/
theorem Host.described_of_openWith {spec : HostSpec σ} {shared : AdapterRegistry σ}
    {host : Host σ} {before after : ServiceState σ}
    (succeeded : (openWith spec shared).run services before = (.ok host, after))
    {address : String} {endpoint : Endpoint σ} (found : host.endpoint? address = some endpoint) :
    ∃ described ∈ spec.endpoints, described.address = address ∧
      described.Describes services spec.settings.host.defaultMode endpoint := by
  obtain ⟨start, middle, -, -, -, opening, -, -⟩ := openWith_ok succeeded
  obtain former | described := (opensAll_of_openEndpoints opening).described found
  · cases former
  · exact described

section

variable {P : Container σ → Prop}
  (relog : ∀ {container : Container σ} {log}, P container → P { container with log })
  (reaches : ∀ {before after}, P before → Container.Reaches services .root before after → P after)

include relog reaches

/-- What resolutions in the container itself keep, whatever is reported, is kept while an endpoint
is opened. -/
theorem EndpointSpec.openWith_induction {spec : EndpointSpec σ} {before after : ServiceState σ}
    {endpoint : Endpoint σ} (start : P before.container)
    (opened : (spec.openWith registry default).run services before = (.ok endpoint, after)) :
    P after.container := by
  obtain ⟨lifetime, single, middle, event, -, opening, rfl, -⟩ := run_openWith_ok opened
  obtain ⟨-, object, found, answered, -, rfl⟩ | ⟨-, -, rfl⟩ := run_openSingle_ok opening
  · have steps : Container.Reaches services .root before.container
        ((Resolution.require .root spec.service).run services before.container).2 :=
      Resolution.reaches_require .root spec.service before.container
    rw [answered] at steps
    exact relog (relog (reaches start steps))
  · exact relog start

/-- It is kept while endpoints are opened one after another. -/
theorem Host.OpensAll.induction {specs : List (EndpointSpec σ)}
    {opened final : Keyed String (Endpoint σ)} {before after : ServiceState σ}
    (start : P before.container)
    (opens : OpensAll services registry default specs opened before final after) :
    P after.container := by
  induction opens with
  | nil opened state => exact start
  | cons opening free others ih =>
    exact ih (EndpointSpec.openWith_induction relog reaches start opening)

/-- It is kept while a host is opened. -/
theorem Host.openWith_induction {spec : HostSpec σ} {shared : AdapterRegistry σ} {host : Host σ}
    {before after : ServiceState σ} (start : P before.container)
    (succeeded : (openWith spec shared).run services before = (.ok host, after)) :
    P after.container := by
  obtain ⟨first, middle, log, log', started, opening, finished, -⟩ := openWith_ok succeeded
  have here : P first.container := by
    rw [started]
    exact relog start
  rw [finished]
  exact relog (OpensAll.induction relog reaches here (opensAll_of_openEndpoints opening))

end

end ServiceDispatch
