import Mathlib.Logic.Relation
import ServiceDispatch.Proofs.Service.Running

/-!
# Steps of a resolution

Whatever services a resolution asks for and however deep factories nest, it changes its container by
four kinds of steps only. Everything that resolutions keep is derived from these steps. Which
service is answered is stated for each lifetime; how long a resolution takes is not covered.
-/

namespace ServiceDispatch

variable {σ : Type}

namespace Container

/-- Whether a container has the cache of a name: all but those of scopes never opened. -/
def HasCache (container : Container σ) : CacheName → Prop
  | .session (.scope id) => id.index < container.scopes.length
  | _ => True

@[simp] theorem cache_allocate (container : Container σ) (built : Instance σ) (name : CacheName) :
    (container.allocate built).2.cache name = container.cache name := rfl

@[simp] theorem instances_store (container : Container σ) (name : CacheName) (key : ServiceKey)
    (object : InstanceId) : (container.store name key object).instances = container.instances := by
  match name with
  | .singletons | .session .root | .session (.scope _) => rfl

@[simp] theorem log_store (container : Container σ) (name : CacheName) (key : ServiceKey)
    (object : InstanceId) : (container.store name key object).log = container.log := by
  match name with
  | .singletons | .session .root | .session (.scope _) => rfl

/-- What is put into a cache is found there under its key, and nothing else changes. -/
theorem get?_cache_store (container : Container σ) (name other : CacheName)
    (key query : ServiceKey) (object : InstanceId) (present : container.HasCache name) :
    ((container.store name key object).cache other).get? query =
      if name = other ∧ key = query then some object else (container.cache other).get? query := by
  match name, other with
  | .singletons, .singletons | .session .root, .session .root => simp [store, cache]
  | .singletons, .session .root | .session .root, .singletons
  | .singletons, .session (.scope _) | .session .root, .session (.scope _)
  | .session (.scope _), .singletons | .session (.scope _), .session .root =>
    simp [store, cache, scope?]
  | .session (.scope id), .session (.scope id') =>
    have bound : id.index < container.scopes.length := present
    by_cases same : id = id'
    · subst same
      simp [store, cache, scope?, List.getElem?_eq_getElem bound]
    · have apart : id.index ≠ id'.index := by
        intro equal
        exact same (congrArg ScopeId.mk equal)
      simp [store, cache, scope?, List.getElem?_modify_ne _ _ apart, same]

/-- Putting something into a cache that does not exist changes nothing. -/
theorem store_of_not_hasCache (container : Container σ) {name : CacheName} (key : ServiceKey)
    (object : InstanceId) (absent : ¬ container.HasCache name) :
    container.store name key object = container := by
  match name with
  | .singletons | .session .root => exact absurd trivial absent
  | .session (.scope id) =>
    have outside : container.scopes.length ≤ id.index := Nat.le_of_not_lt absent
    simp [store, List.modify_eq_self outside]

end Container

/-- A recipe can end in building an instance of a type with some content. -/
inductive Recipe.Builds : Recipe σ → String → σ → Prop where
  /-- It builds at once. -/
  | build (typeName : String) (content : σ) : Builds (.build typeName content) typeName content
  /-- It builds after some answer to its request. -/
  | ask {key : ServiceKey} {next : Except Failure Bool → Recipe σ} {typeName : String} {content : σ}
      (answer : Except Failure Bool) (later : Builds (next answer) typeName content) :
      Builds (.ask key next) typeName content

/-- The cache that shares instances of a lifetime among requests to a session. -/
def Lifetime.cache? (session : Session) : Lifetime → Option CacheName
  | .singleton => some .singletons
  | .scoped => some (.session session)
  | .transient => none

namespace Services

/-- The factory registered for a key can build an instance. -/
def Makes (services : Services σ) (key : ServiceKey) (built : Instance σ) : Prop :=
  ∃ lifetime recipe, services.get? key = some ⟨lifetime, .factory recipe⟩ ∧
    recipe.Builds built.typeName built.content

/-- Instances of a key are shared in a cache by requests to a session or to the container itself,
which is where singletons are built. -/
def SharesIn (services : Services σ) (session : Session) (key : ServiceKey) (name : CacheName) :
    Prop :=
  ∃ registration asked, services.get? key = some registration ∧
    (asked = session ∨ asked = .root) ∧ registration.lifetime.cache? asked = some name

end Services

/-- One step of a resolution for a session. -/
inductive Container.Step (services : Services σ) (session : Session) :
    Container σ → Container σ → Prop where
  /-- The start of a singleton's factory is logged. -/
  | report (container : Container σ) (key : ServiceKey) :
      Step services session container (container.report (.singletonCreated key))
  /-- A factory builds an instance. -/
  | build (container : Container σ) {key : ServiceKey} {built : Instance σ}
      (makes : services.Makes key built) :
      Step services session container (container.allocate built).2
  /-- A factory builds an instance, which goes into a free place of a cache. -/
  | share (container : Container σ) {key : ServiceKey} {built : Instance σ} {name : CacheName}
      (makes : services.Makes key built) (shares : services.SharesIn session key name)
      (free : (container.cache name).get? key = none) :
      Step services session container
        ((container.allocate built).2.store name key (container.allocate built).1)
  /-- An instance that was handed in ready-made goes into a free place of a cache. -/
  | adopt (container : Container σ) {key : ServiceKey} {object : InstanceId} {name : CacheName}
      {lifetime : Lifetime} (existing : services.get? key = some ⟨lifetime, .existing object⟩)
      (shares : services.SharesIn session key name)
      (free : (container.cache name).get? key = none) :
      Step services session container (container.store name key object)

/-- A container becomes another one by steps of resolutions for a session. -/
def Container.Reaches (services : Services σ) (session : Session) :
    Container σ → Container σ → Prop :=
  Relation.ReflTransGen (Container.Step services session)

namespace Container

variable {services : Services σ} {session : Session} {before middle after : Container σ}

theorem Reaches.refl (container : Container σ) : Reaches services session container container :=
  Relation.ReflTransGen.refl

theorem Reaches.trans (first : Reaches services session before middle)
    (second : Reaches services session middle after) : Reaches services session before after :=
  Relation.ReflTransGen.trans first second

theorem Step.reaches (step : Step services session before after) :
    Reaches services session before after :=
  Relation.ReflTransGen.single step

/-- A request to the container itself does nothing that a request to a session could not do. -/
theorem Reaches.of_root (reaches : Reaches services .root before after) :
    Reaches services session before after := by
  have shares_of_root : ∀ {key name}, services.SharesIn .root key name →
      services.SharesIn session key name := by
    rintro key name ⟨registration, asked, registered, asked_root, place⟩
    exact ⟨registration, asked, registered, Or.inr (asked_root.elim id id), place⟩
  induction reaches with
  | refl => exact Reaches.refl before
  | tail _ step ih =>
    refine ih.tail ?_
    cases step with
    | report key => exact .report _ key
    | build makes => exact .build _ makes
    | share makes shares free => exact .share _ makes (shares_of_root shares) free
    | adopt existing shares free => exact .adopt _ existing (shares_of_root shares) free

end Container

namespace Resolution

open Container (Step Reaches)

variable {services : Services σ} {session : Session}

/-- How a factory's run may end: it fails after some steps, or it builds an instance last. -/
def Ends (services : Services σ) (session : Session) (recipe : Recipe σ) (before : Container σ) :
    Except Failure InstanceId × Container σ → Prop
  | (.error _, after) => Reaches services session before after
  | (.ok object, after) => ∃ middle built, Reaches services session before middle ∧
      recipe.Builds built.typeName built.content ∧
      object = (middle.allocate built).1 ∧ after = (middle.allocate built).2

theorem Ends.of_reaches {recipe recipe' : Recipe σ} {before middle : Container σ}
    {result : Except Failure InstanceId × Container σ}
    (reaches : Reaches services session before middle)
    (wider : ∀ {typeName content}, recipe.Builds typeName content →
      recipe'.Builds typeName content)
    (ends : Ends services session recipe middle result) :
    Ends services session recipe' before result := by
  match result, ends with
  | (.error _, _), later => exact reaches.trans later
  | (.ok _, _), ⟨last, built, later, builds, same⟩ =>
    exact ⟨last, built, reaches.trans later, wider builds, same⟩

/-- A way to answer requests that goes by steps. -/
def FindsBySteps (services : Services σ) (session : Session)
    (find : ServiceKey → Resolution σ (Option InstanceId)) : Prop :=
  ∀ key container, Reaches services session container ((find key).run services container).2

/-- A way to run factories that goes by steps. -/
def MakesBySteps (services : Services σ)
    (make : Session → Recipe σ → Resolution σ InstanceId) : Prop :=
  ∀ session recipe container,
    Ends services session recipe container ((make session recipe).run services container)

/-- A recipe is followed by steps if its requests are answered by steps. -/
theorem ends_follow {find : ServiceKey → Resolution σ (Option InstanceId)}
    (finds : FindsBySteps services session find) (recipe : Recipe σ)
    (given : List (Option InstanceId)) (container : Container σ) :
    Ends services session recipe container ((follow find recipe given).run services container) := by
  induction recipe generalizing given container with
  | fail failure => exact Reaches.refl container
  | build typeName content =>
    exact ⟨container, ⟨typeName, given, content⟩, Reaches.refl container,
      .build typeName content, rfl, rfl⟩
  | ask key next ih =>
    rw [run_follow_ask]
    have asked := finds key container
    cases answer : (find key).run services container with
    | mk result after =>
      rw [answer] at asked
      cases result with
      | error failure => exact (ih _ given after).of_reaches asked (.ask _)
      | ok found => exact (ih _ (given ++ [found]) after).of_reaches asked (.ask _)

/-- How an instance may be had from its supply, ready to go into a cache. -/
def Supplies (services : Services σ) (session : Session) (key : ServiceKey) (name : CacheName)
    (before : Container σ) : Except Failure InstanceId × Container σ → Prop
  | (.error _, after) => Reaches services session before after
  | (.ok object, after) => Reaches services session before after ∧
      ((after.cache name).get? key = none →
        Reaches services session before (after.store name key object))

theorem Supplies.of_reaches {key : ServiceKey} {name : CacheName} {before middle : Container σ}
    {result : Except Failure InstanceId × Container σ}
    (reaches : Reaches services session before middle)
    (supplies : Supplies services session key name middle result) :
    Supplies services session key name before result := by
  match result, supplies with
  | (.error _, _), later => exact reaches.trans later
  | (.ok _, _), ⟨later, stores⟩ =>
    exact ⟨reaches.trans later, fun free => reaches.trans (stores free)⟩

/-- A cache goes by steps if what it asks for on a miss does. -/
theorem reaches_cached {key : ServiceKey} {name : CacheName} {build : Resolution σ InstanceId}
    {container : Container σ}
    (supplies : Supplies services session key name container (build.run services container)) :
    Reaches services session container ((cached name key build).run services container).2 := by
  rw [run_cached]
  cases held : (container.cache name).get? key with
  | some found => exact Reaches.refl container
  | none =>
    match build.run services container, supplies with
    | (.error _, _), reaches => exact reaches
    | (.ok object, after), ⟨reaches, stores⟩ =>
      dsimp only
      cases free : (after.cache name).get? key with
      | some first => exact reaches
      | none => exact stores free

/-- A supply gives an instance by steps, and so it is put into a free place of a cache. -/
theorem supplies_obtain {make : Session → Recipe σ → Resolution σ InstanceId}
    (maker : MakesBySteps services make) {key : ServiceKey} {registration : Registration σ}
    (registered : services.get? key = some registration) {name : CacheName}
    (shares : services.SharesIn session key name) (container : Container σ) :
    Supplies services session key name container
      ((obtain make session registration.supply).run services container) := by
  obtain ⟨lifetime, supply⟩ := registration
  cases supply with
  | existing object =>
    exact ⟨Reaches.refl container,
      fun free => (Step.adopt container registered shares free).reaches⟩
  | factory recipe =>
    have ends := maker session recipe container
    dsimp only [obtain]
    match (make session recipe).run services container, ends with
    | (.error _, _), reaches => exact reaches
    | (.ok _, _), ⟨middle, built, reaches, builds, rfl, rfl⟩ =>
      have makes : services.Makes key built := ⟨lifetime, recipe, registered, builds⟩
      refine ⟨reaches.tail (.build middle makes), fun free => ?_⟩
      rw [Container.cache_allocate] at free
      exact reaches.tail (.share middle makes shares free)

/-- An instance is had from its supply by steps. -/
theorem reaches_obtain {make : Session → Recipe σ → Resolution σ InstanceId}
    (maker : MakesBySteps services make) {key : ServiceKey} {registration : Registration σ}
    (registered : services.get? key = some registration) (container : Container σ) :
    Reaches services session container
      ((obtain make session registration.supply).run services container).2 := by
  obtain ⟨lifetime, supply⟩ := registration
  cases supply with
  | existing object => exact Reaches.refl container
  | factory recipe =>
    have ends := maker session recipe container
    dsimp only [obtain]
    match (make session recipe).run services container, ends with
    | (.error _, _), reaches => exact reaches
    | (.ok _, _), ⟨middle, built, reaches, builds, rfl, rfl⟩ =>
      exact reaches.tail (.build middle ⟨lifetime, recipe, registered, builds⟩)

/-- A registered service is had by steps. -/
theorem reaches_supplied {make : Session → Recipe σ → Resolution σ InstanceId}
    (maker : MakesBySteps services make) {key : ServiceKey} {registration : Registration σ}
    (registered : services.get? key = some registration) (container : Container σ) :
    Reaches services session container
      ((supplied make session key registration).run services container).2 := by
  rw [supplied]
  cases lifetime : registration.lifetime with
  | singleton =>
    have shares : services.SharesIn .root key .singletons :=
      ⟨registration, .root, registered, Or.inr rfl, by rw [lifetime]; rfl⟩
    have logged : Reaches services .root container (container.report (.singletonCreated key)) :=
      (Step.report container key).reaches
    refine Reaches.of_root (reaches_cached ?_)
    simp only [run_bind, run_report]
    exact (supplies_obtain maker registered shares _).of_reaches logged
  | transient => exact reaches_obtain maker registered container
  | _ =>
    refine reaches_cached (supplies_obtain maker registered ?_ container)
    exact ⟨registration, session, registered, Or.inl rfl, by rw [lifetime]; rfl⟩

/-- A way to run factories gives a way to answer requests. -/
theorem findsBySteps_findWith {make : Session → Recipe σ → Resolution σ InstanceId}
    (maker : MakesBySteps services make) :
    FindsBySteps services session (findWith make session) := by
  intro key container
  rw [run_findWith]
  cases registered : services.get? key with
  | none => exact Reaches.refl container
  | some registration => exact reaches_supplied maker registered container

/-- Checking the type of what was found changes nothing. -/
theorem findsBySteps_checked {find : ServiceKey → Resolution σ (Option InstanceId)}
    (finds : FindsBySteps services session find) :
    FindsBySteps services session (fun key => do checked key (← find key)) := by
  intro key container
  have found := finds key container
  rw [run_bind]
  match (find key).run services container, found with
  | (.error _, _), reaches => exact reaches
  | (.ok answer, after), reaches =>
    dsimp only
    rw [run_checked]
    cases answer with
    | none => exact reaches
    | some object =>
      dsimp only
      split <;> exact reaches

/-- However deep factories may nest, they run by steps. -/
theorem makesBySteps_makeWithin (depth : Nat) :
    MakesBySteps services (makeWithin (σ := σ) depth) := by
  induction depth with
  | zero => exact fun _ _ container => Reaches.refl container
  | succ depth ih =>
    intro session recipe container
    exact ends_follow (findsBySteps_checked (findsBySteps_findWith ih)) recipe [] container

/-- How deep factories may nest in a request is bound by the number of registrations. -/
theorem run_findAny (session : Session) (key : ServiceKey) (container : Container σ) :
    (findAny session key).run services container =
      (findWith (makeWithin services.size) session key).run services container := by
  rw [findAny, run_bind, run_read]

/-- Asking for a service that may be missing goes by steps. -/
theorem findsBySteps_find (services : Services σ) (session : Session) :
    FindsBySteps services session (find session) := by
  have anyType : FindsBySteps services session (findAny session) := by
    intro key container
    rw [run_findAny]
    exact findsBySteps_findWith (makesBySteps_makeWithin services.size) key container
  exact findsBySteps_checked anyType

/-- A service that has to be there fails in the one case that it is missing. -/
theorem run_require (session : Session) (key : ServiceKey) (container : Container σ) :
    (require session key).run services container =
      match (find session key).run services container with
      | (.error failure, after) => (.error failure, after)
      | (.ok (some object), after) => (.ok object, after)
      | (.ok none, after) => (.error (.serviceNotRegistered key.typeName key.name), after) := by
  rw [require, run_bind]
  match (find session key).run services container with
  | (.error _, _) => rfl
  | (.ok none, _) => rfl
  | (.ok (some _), _) => rfl

/-- Asking for a service that has to be there goes by steps. -/
theorem reaches_require (session : Session) (key : ServiceKey) (container : Container σ) :
    Reaches services session container ((require session key).run services container).2 := by
  have found := findsBySteps_find services session key container
  rw [run_require]
  match (find session key).run services container, found with
  | (.error _, _), reaches => exact reaches
  | (.ok none, _), reaches => exact reaches
  | (.ok (some _), _), reaches => exact reaches

end Resolution

end ServiceDispatch
