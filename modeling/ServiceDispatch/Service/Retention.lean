import ServiceDispatch.Service.Container

/-!
# Retention

Which instances are still kept. An instance keeps what its factory asked for, and that was built
before it; so one pass over the instances, latest first, finds everything that is kept.
-/

namespace ServiceDispatch

namespace Container

variable {σ : Type}

/-- The instances that an instance keeps. -/
def dependenciesOf (container : Container σ) (id : InstanceId) : List InstanceId :=
  ((container.instance? id).map fun built =>
    built.dependencies.filterMap fun found => found).getD []

/-- Closes a set of instances under keeping, as far as the first so many instances are concerned. -/
def closure (container : Container σ) : (below : Nat) → List InstanceId → List InstanceId
  | 0, kept => kept
  | below + 1, kept =>
    if kept.contains ⟨below⟩ then
      closure container below (kept ++ container.dependenciesOf ⟨below⟩)
    else closure container below kept

/-- The instances in the caches of the container and its open scopes. -/
def cachedInstances (container : Container σ) : List InstanceId :=
  container.singletons.values ++ container.rootScoped.values ++
    container.scopes.flatMap fun scope => scope.cache.values

/-- Every instance ever built. -/
def allInstances (container : Container σ) : List InstanceId :=
  (List.range container.instances.length).map InstanceId.mk

/-- The instances that nothing keeps: neither a cache, nor the holders given, nor another instance
that is kept. -/
def released (container : Container σ) (holders : List InstanceId) : List InstanceId :=
  let kept :=
    container.closure container.instances.length (container.cachedInstances ++ holders)
  container.allInstances.filter fun id => !kept.contains id

end Container

/-- The instances that registrations keep because they were handed in ready-made. -/
def Services.existing {σ : Type} (services : Services σ) : List InstanceId :=
  services.registrations.values.filterMap fun registration =>
    match registration.supply with
    | .existing object => some object
    | .factory _ => none

end ServiceDispatch
