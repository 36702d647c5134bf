import ServiceDispatch.Proofs.Service.Steps

/-!
# Growth of containers

What every resolution keeps: instances are only added, caches lose nothing and replace nothing, and
no scope is opened or released. From that follows which instance a request answers: for a shared
service the one that the cache holds afterwards, otherwise one that was built last.
-/

namespace ServiceDispatch

variable {σ : Type} {services : Services σ} {session : Session}

namespace Container

/-- A container has become another one without losing anything. -/
structure Grows (before after : Container σ) : Prop where
  /-- Instances are added at the end. -/
  instances : before.instances <+: after.instances
  /-- What a cache holds stays there. -/
  retains : ∀ {name key object}, (before.cache name).get? key = some object →
    (after.cache name).get? key = some object
  /-- Scopes stay open or released as they were. -/
  scopes : after.scopes.map Scope.isOpen = before.scopes.map Scope.isOpen

variable {before middle after : Container σ}

theorem Grows.refl (container : Container σ) : Grows container container :=
  ⟨List.prefix_rfl, id, rfl⟩

theorem Grows.trans (first : Grows before middle) (second : Grows middle after) :
    Grows before after :=
  ⟨first.instances.trans second.instances, fun held => second.retains (first.retains held),
    second.scopes.trans first.scopes⟩

theorem Grows.report (container : Container σ) (event : Event) :
    Grows container (container.report event) :=
  ⟨List.prefix_rfl, id, rfl⟩

theorem Grows.allocate (container : Container σ) (built : Instance σ) :
    Grows container (container.allocate built).2 :=
  ⟨List.prefix_append _ _, id, rfl⟩

/-- Filling a free place of a cache loses nothing. -/
theorem Grows.store {name : CacheName} {key : ServiceKey} (container : Container σ)
    (object : InstanceId) (free : (container.cache name).get? key = none) :
    Grows container (container.store name key object) where
  instances := ⟨[], by rw [List.append_nil, instances_store]⟩
  retains := by
    intro other query found held
    by_cases present : container.HasCache name
    · rw [get?_cache_store _ _ _ _ _ _ present, if_neg]
      · exact held
      · rintro ⟨rfl, rfl⟩
        rw [free] at held
        contradiction
    · rwa [store_of_not_hasCache _ _ _ present]
  scopes := by
    match name with
    | .singletons | .session .root => rfl
    | .session (.scope id) =>
      refine List.ext_getElem? fun place => ?_
      simp only [Container.store, List.getElem?_map, List.getElem?_modify]
      cases container.scopes[place]? with
      | none => rfl
      | some scope => by_cases here : id.index = place <;> simp [here]

theorem Step.grows (step : Step services session before after) : Grows before after := by
  cases step with
  | report key => exact Grows.report before _
  | build makes => exact Grows.allocate before _
  | share makes shares free => exact (Grows.allocate before _).trans (Grows.store _ _ free)
  | adopt existing shares free => exact Grows.store before _ free

theorem Reaches.grows (reaches : Reaches services session before after) : Grows before after := by
  induction reaches with
  | refl => exact Grows.refl before
  | tail _ step ih => exact ih.trans step.grows

/-- The caches stay the same ones. -/
theorem Grows.hasCache_iff (grows : Grows before after) (name : CacheName) :
    after.HasCache name ↔ before.HasCache name := by
  have lengths : after.scopes.length = before.scopes.length := by
    simpa using congrArg List.length grows.scopes
  match name with
  | .singletons | .session .root => exact Iff.rfl
  | .session (.scope id) => simp only [HasCache, lengths]

theorem instance?_lt {container : Container σ} {id : InstanceId} {built : Instance σ}
    (found : container.instance? id = some built) : id.index < container.instances.length :=
  (List.getElem?_eq_some_iff.mp found).1

/-- An instance stays what it is. -/
theorem Grows.instance? (grows : Grows before after) {id : InstanceId} {built : Instance σ}
    (found : before.instance? id = some built) : after.instance? id = some built := by
  obtain ⟨added, same⟩ := grows.instances
  rw [Container.instance?, ← same, List.getElem?_append_left (instance?_lt found)]
  exact found

theorem instance?_allocate (container : Container σ) (built : Instance σ) :
    (container.allocate built).2.instance? (container.allocate built).1 = some built := by
  simp [allocate, Container.instance?]

end Container

namespace Resolution

open Container (Reaches Grows)

/-- A cache that exists holds what it handed out. -/
theorem get?_of_cached {key : ServiceKey} {name : CacheName} {build : Resolution σ InstanceId}
    {container after : Container σ} {object : InstanceId}
    (grows : Grows container (build.run services container).2)
    (present : container.HasCache name)
    (answered : (cached name key build).run services container = (.ok object, after)) :
    (after.cache name).get? key = some object := by
  rw [run_cached] at answered
  cases held : (container.cache name).get? key with
  | some found =>
    rw [held] at answered
    obtain ⟨rfl, rfl⟩ : found = object ∧ container = after := by simpa using answered
    exact held
  | none =>
    rw [held] at answered
    match building : build.run services container with
    | (.error _, _) => simp [building] at answered
    | (.ok built, middle) =>
      rw [building] at answered grows
      dsimp only at answered
      cases first : (middle.cache name).get? key with
      | some kept =>
        rw [first] at answered
        obtain ⟨rfl, rfl⟩ : kept = object ∧ middle = after := by simpa using answered
        exact first
      | none =>
        rw [first] at answered
        obtain ⟨rfl, rfl⟩ : built = object ∧ middle.store name key built = after := by
          simpa using answered
        rw [Container.get?_cache_store _ _ _ _ _ _ ((grows.hasCache_iff name).mpr present)]
        simp

/-- How the instance that answers a request is had: a shared one is what its cache holds
afterwards, any other one was handed in ready-made or built last. -/
def Answers (services : Services σ) (session : Session) (key : ServiceKey)
    (registration : Registration σ) (before after : Container σ) (object : InstanceId) : Prop :=
  match registration.lifetime.cache? session with
  | some name => before.HasCache name → (after.cache name).get? key = some object
  | none =>
    match registration.supply with
    | .existing given => object = given ∧ after = before
    | .factory recipe => Ends services session recipe before (.ok object, after)

theorem answers_supplied {make : Session → Recipe σ → Resolution σ InstanceId}
    (maker : MakesBySteps services make) {key : ServiceKey} {registration : Registration σ}
    (registered : services.get? key = some registration) {container after : Container σ}
    {object : InstanceId}
    (answered : (supplied make session key registration).run services container =
      (.ok object, after)) :
    Answers services session key registration container after object := by
  rw [supplied] at answered
  rw [Answers]
  cases lifetime : registration.lifetime with
  | singleton =>
    rw [lifetime] at answered
    intro present
    refine get?_of_cached ?_ present answered
    simp only [run_bind, run_report]
    exact (Grows.report _ _).trans (reaches_obtain maker registered _).grows
  | transient =>
    rw [lifetime] at answered
    dsimp only [Lifetime.cache?]
    cases supply : registration.supply with
    | existing given =>
      rw [supply] at answered
      obtain ⟨rfl, rfl⟩ : given = object ∧ container = after := by simpa [obtain] using answered
      exact ⟨rfl, rfl⟩
    | factory recipe =>
      rw [supply] at answered
      have ends := maker session recipe container
      rwa [show (make session recipe).run services container = _ from answered] at ends
  | _ =>
    rw [lifetime] at answered
    intro present
    exact get?_of_cached (reaches_obtain maker registered container).grows present answered

/-- However factories are run, what is found is an instance of a registered service, of the type
that the key names. -/
theorem checked_findWith_ok {make : Session → Recipe σ → Resolution σ InstanceId}
    (maker : MakesBySteps services make) {session : Session} {key : ServiceKey}
    {container after : Container σ} {object : InstanceId}
    (answered : (do checked key (← findWith make session key) : Resolution σ _).run services
      container = (.ok (some object), after)) :
    ∃ registration, services.get? key = some registration ∧
      after.typeOf? object = some key.typeName ∧
      Answers services session key registration container after object := by
  rw [run_bind, run_findWith] at answered
  cases registered : services.get? key with
  | none => simp [registered, run_checked] at answered
  | some registration =>
    rw [registered] at answered
    dsimp only at answered
    cases supplying : (supplied make session key registration).run services container with
    | mk result middle =>
      cases result with
      | error failure => simp [supplying, Except.map] at answered
      | ok found =>
        simp only [supplying, Except.map, run_checked] at answered
        by_cases typed : middle.typeOf? found = some key.typeName
        · simp only [typed, if_true] at answered
          obtain ⟨rfl, rfl⟩ : found = object ∧ middle = after := by simpa using answered
          exact ⟨registration, rfl, typed, answers_supplied maker registered supplying⟩
        · simp [typed] at answered

/-- Asking for a service that may be missing finds such an instance, if it finds one. -/
theorem find_ok {session : Session} {key : ServiceKey} {container after : Container σ}
    {object : InstanceId}
    (answered : (find session key).run services container = (.ok (some object), after)) :
    ∃ registration, services.get? key = some registration ∧
      after.typeOf? object = some key.typeName ∧
      Answers services session key registration container after object := by
  refine checked_findWith_ok (makesBySteps_makeWithin services.size) ?_
  rw [find, run_bind, run_findAny] at answered
  rw [run_bind]
  exact answered

/-- What has to be there has been found. -/
theorem find_of_require {session : Session} {key : ServiceKey} {container after : Container σ}
    {object : InstanceId}
    (answered : (require session key).run services container = (.ok object, after)) :
    (find session key).run services container = (.ok (some object), after) := by
  rw [run_require] at answered
  cases found : (find session key).run services container with
  | mk result middle =>
    rw [found] at answered
    cases result with
    | error failure => simp at answered
    | ok object? =>
      cases object? with
      | none => simp at answered
      | some other =>
        obtain ⟨rfl, rfl⟩ : other = object ∧ middle = after := by simpa using answered
        rfl

/-- Asking for a service that has to be there answers such an instance. -/
theorem require_ok {session : Session} {key : ServiceKey} {container after : Container σ}
    {object : InstanceId}
    (answered : (require session key).run services container = (.ok object, after)) :
    ∃ registration, services.get? key = some registration ∧
      after.typeOf? object = some key.typeName ∧
      Answers services session key registration container after object :=
  find_ok (find_of_require answered)

end Resolution

end ServiceDispatch
