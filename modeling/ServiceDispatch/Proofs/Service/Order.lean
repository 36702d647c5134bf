import ServiceDispatch.Proofs.Service.Growth

/-!
# Order in caches

Instances that factories build never get mixed up: two places of the caches never hold the same one,
and an instance that was not put into a cache when it was built never gets into one. What callers
hand in ready-made may be shared at will and is not covered.
-/

namespace ServiceDispatch

variable {σ : Type} {services : Services σ} {session : Session}

/-- Instances of a key come from a factory. -/
def Services.IsMade (services : Services σ) (key : ServiceKey) : Prop :=
  ∃ lifetime recipe, services.get? key = some ⟨lifetime, .factory recipe⟩

theorem Services.Makes.isMade {key : ServiceKey} {built : Instance σ}
    (makes : services.Makes key built) : services.IsMade key := by
  obtain ⟨lifetime, recipe, registered, -⟩ := makes
  exact ⟨lifetime, recipe, registered⟩

/-- What was handed in ready-made does not come from a factory. -/
theorem Services.not_isMade {key : ServiceKey} {lifetime : Lifetime} {object : InstanceId}
    (existing : services.get? key = some ⟨lifetime, .existing object⟩) :
    ¬ services.IsMade key := by
  rintro ⟨lifetime', recipe, registered⟩
  rw [existing] at registered
  simp at registered

namespace Container

/-- Factory-built instances in caches exist, and each has one place. -/
structure Orderly (services : Services σ) (container : Container σ) : Prop where
  /-- A cache holds instances that were built before. -/
  below : ∀ {name key object}, services.IsMade key →
    (container.cache name).get? key = some object → object.index < container.instances.length
  /-- No instance has two places. -/
  apart : ∀ {name name' key key' object}, services.IsMade key → services.IsMade key' →
    (container.cache name).get? key = some object →
    (container.cache name').get? key' = some object → name = name' ∧ key = key'

/-- A factory-built instance in a cache is as the factory of its key can build it. -/
def Stocked (services : Services σ) (container : Container σ) : Prop :=
  ∀ {name key object}, services.IsMade key → (container.cache name).get? key = some object →
    ∃ built, container.instance? object = some built ∧ services.Makes key built

/-- No place for factory-built instances holds an instance. -/
def Loose (services : Services σ) (container : Container σ) (object : InstanceId) : Prop :=
  ∀ {name key}, services.IsMade key → (container.cache name).get? key ≠ some object

/-- A container that has not been asked for anything; instances may have been handed in. -/
structure IsUnused (container : Container σ) : Prop where
  /-- Nothing is shared among all sessions. -/
  singletons : container.singletons = .empty
  /-- Nothing is shared by the container itself. -/
  rootScoped : container.rootScoped = .empty
  /-- No scope was opened. -/
  scopes : container.scopes = []

variable {before after : Container σ}

theorem IsUnused.get?_cache {container : Container σ} (unused : container.IsUnused)
    (name : CacheName) (key : ServiceKey) : (container.cache name).get? key = none := by
  match name with
  | .singletons => rw [cache, unused.singletons, Keyed.get?_empty]
  | .session .root => rw [cache, unused.rootScoped, Keyed.get?_empty]
  | .session (.scope id) => simp [cache, scope?, unused.scopes]

theorem IsUnused.orderly {container : Container σ} (unused : container.IsUnused) :
    Orderly services container := by
  constructor
  · intro name key object _ held
    rw [unused.get?_cache] at held
    contradiction
  · intro name name' key key' object _ _ held
    rw [unused.get?_cache] at held
    contradiction

theorem IsUnused.stocked {container : Container σ} (unused : container.IsUnused) :
    Stocked services container := by
  intro name key object _ held
  rw [unused.get?_cache] at held
  contradiction

/-- What is in a cache after something was put into one: that, or what was there before. -/
theorem held_of_store {container : Container σ} {name other : CacheName} {key query : ServiceKey}
    {object found : InstanceId}
    (held : ((container.store name key object).cache other).get? query = some found) :
    (name = other ∧ key = query ∧ object = found) ∨
      (container.cache other).get? query = some found := by
  by_cases present : container.HasCache name
  · rw [get?_cache_store _ _ _ _ _ _ present] at held
    split at held
    · rename_i here
      exact Or.inl ⟨here.1, here.2, Option.some.inj held⟩
    · exact Or.inr held
  · rw [store_of_not_hasCache _ _ _ present] at held
    exact Or.inr held

/-- What is in a cache for factory-built instances after a step: the instance that the step built,
or what was there before. -/
theorem Step.held (step : Step services session before after) {name : CacheName} {key : ServiceKey}
    {object : InstanceId} (made : services.IsMade key)
    (held : (after.cache name).get? key = some object) :
    (before.cache name).get? key = some object ∨
      object = ⟨before.instances.length⟩ ∧ before.instances.length < after.instances.length ∧
        (∃ built, after.instance? object = some built ∧ services.Makes key built) ∧
        ∀ name' key', services.IsMade key' → (after.cache name').get? key' = some object →
          (before.cache name').get? key' = some object ∨ name' = name ∧ key' = key := by
  cases step with
  | report key => exact Or.inl held
  | build makes => exact Or.inl held
  | @share key' built place makes shares free =>
    obtain ⟨rfl, rfl, rfl⟩ | former := held_of_store held
    · refine Or.inr ⟨rfl, by simp [allocate], ⟨built, ?_, makes⟩, ?_⟩
      · rw [instance?, instances_store]
        exact instance?_allocate before built
      · intro name' key' _ held'
        obtain ⟨rfl, rfl, -⟩ | former' := held_of_store held'
        · exact Or.inr ⟨rfl, rfl⟩
        · exact Or.inl former'
    · exact Or.inl former
  | adopt existing shares free =>
    obtain ⟨-, rfl, -⟩ | former := held_of_store held
    · exact absurd made (Services.not_isMade existing)
    · exact Or.inl former

/-- A step keeps the caches in order. -/
theorem Step.orderly (step : Step services session before after)
    (orderly : Orderly services before) : Orderly services after := by
  have longer : before.instances.length ≤ after.instances.length := step.grows.instances.length_le
  constructor
  · intro name key object made held
    obtain former | ⟨rfl, more, -⟩ := step.held made held
    · exact Nat.lt_of_lt_of_le (orderly.below made former) longer
    · exact more
  · intro name name' key key' object made made' held held'
    obtain former | ⟨rfl, -, -, only⟩ := step.held made held
    · obtain former' | ⟨rfl, -⟩ := step.held made' held'
      · exact orderly.apart made made' former former'
      · exact absurd (orderly.below made former) (Nat.lt_irrefl _)
    · obtain former' | ⟨rfl, rfl⟩ := only name' key' made' held'
      · exact absurd (orderly.below made' former') (Nat.lt_irrefl _)
      · exact ⟨rfl, rfl⟩

/-- A step keeps the caches stocked. -/
theorem Step.stocked (step : Step services session before after)
    (stocked : Stocked services before) : Stocked services after := by
  intro name key object made held
  obtain former | ⟨-, -, found, -⟩ := step.held made held
  · obtain ⟨built, found, makes⟩ := stocked made former
    exact ⟨built, step.grows.instance? found, makes⟩
  · exact found

/-- A step puts no instance into a cache that existed before. -/
theorem Step.loose (step : Step services session before after) {object : InstanceId}
    (exists_before : object.index < before.instances.length)
    (loose : Loose services before object) : Loose services after object := by
  intro name key made held
  obtain former | ⟨rfl, -⟩ := step.held made held
  · exact loose made former
  · exact Nat.lt_irrefl _ exists_before

theorem Reaches.orderly (reaches : Reaches services session before after)
    (orderly : Orderly services before) : Orderly services after := by
  induction reaches with
  | refl => exact orderly
  | tail _ step ih => exact step.orderly ih

theorem Reaches.stocked (reaches : Reaches services session before after)
    (stocked : Stocked services before) : Stocked services after := by
  induction reaches with
  | refl => exact stocked
  | tail _ step ih => exact step.stocked ih

theorem Reaches.loose (reaches : Reaches services session before after) {object : InstanceId}
    (exists_before : object.index < before.instances.length)
    (loose : Loose services before object) : Loose services after object := by
  induction reaches with
  | refl => exact loose
  | tail earlier step ih =>
    exact step.loose
      (Nat.lt_of_lt_of_le exists_before (Reaches.grows earlier).instances.length_le) ih

/-- An instance that was built last is in no cache. -/
theorem Orderly.loose_allocate {container : Container σ} (orderly : Orderly services container)
    (built : Instance σ) :
    Loose services (container.allocate built).2 (container.allocate built).1 := by
  intro name key made held
  rw [cache_allocate] at held
  exact Nat.lt_irrefl _ (orderly.below made held)

end Container

end ServiceDispatch
