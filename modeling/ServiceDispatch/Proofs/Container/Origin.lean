import Mathlib.Logic.Relation
import ServiceDispatch.Proofs.Container.Commands
import ServiceDispatch.Proofs.Container.Registration

/-!
# Instances that are built for scopes

Where the instances come from that a container shares and that instances depend on. The caches of
the container itself never hold what a factory built for a scope, and nothing that they hold depends
on such an instance: a factory that runs for the container is given only what the container shares
or builds for itself. The contents of instances play no role.
-/

namespace ServiceDispatch

variable {σ : Type} {services : Services σ}

/-- The cache is one of the container itself. -/
def CacheName.IsOwn (name : CacheName) : Prop := name = .singletons ∨ name = .session .root

/-- One instance was built from another one. -/
def Container.DependsOn (container : Container σ) (object dependency : InstanceId) : Prop :=
  ∃ built, container.instance? object = some built ∧ some dependency ∈ built.dependencies

/-- A factory that ran for a scope built the instance. -/
def BuiltForScope (history : List (Occurrence σ)) (object : InstanceId) : Prop :=
  ∃ occurrence ∈ history, ∃ id key, occurrence.deed = .production (.scope id) key (.ok object)

theorem builtForScope_append {former later : List (Occurrence σ)} {object : InstanceId} :
    BuiltForScope (former ++ later) object ↔
      BuiltForScope former object ∨ BuiltForScope later object := by
  simp only [BuiltForScope, List.mem_append, or_and_right, exists_or]

namespace Container

open Resolution (AnswersAtOnce Course Gave)

/-- After some history, what was built for scopes is kept apart from what the container has for
itself. -/
structure Separates (services : Services σ) (history : List (Occurrence σ))
    (container : Container σ) : Prop where
  /-- What was built for scopes exists. -/
  built : ∀ {object}, BuiltForScope history object → object.index < container.instances.length
  /-- What was handed in exists, and was not built for a scope. -/
  existing : ∀ {key lifetime object}, services.get? key = some ⟨lifetime, .existing object⟩ →
    object.index < container.instances.length ∧ ¬ BuiltForScope history object
  /-- What the container itself shares exists, and was not built for a scope. -/
  own : ∀ {name key object}, name.IsOwn → (container.cache name).get? key = some object →
    object.index < container.instances.length ∧ ¬ BuiltForScope history object
  /-- What a scope shares, now or at the end of any occurrence, was built for a scope. -/
  inScope : ∀ former, former = container ∨ (∃ occurrence ∈ history, former = occurrence.after) →
    ∀ {id key object}, (former.cache (.session (.scope id))).get? key = some object →
      BuiltForScope history object
  /-- What an instance depends on exists; what depends on an instance that was built for a scope was
  built for a scope. -/
  dependencies : ∀ {object dependency}, container.DependsOn object dependency →
    dependency.index < container.instances.length ∧
      (BuiltForScope history dependency → BuiltForScope history object)
  /-- What requests are given exists, and was not built for a scope if the container itself was
  asked. -/
  given : ∀ {session object}, Gave history session object →
    object.index < container.instances.length ∧
      (session = .root → ¬ BuiltForScope history object)

variable {history : List (Occurrence σ)} {container before middle after : Container σ}
  {session : Session} {key : ServiceKey} {object : InstanceId} {lifetime : Lifetime}

theorem IsSetUp.separates (setUp : container.IsSetUp services) :
    Separates services [] container := by
  have none_built : ∀ {object}, ¬ BuiltForScope ([] : List (Occurrence σ)) object :=
    fun ⟨_, mem, _⟩ => nomatch mem
  constructor
  case built => exact fun built => absurd built none_built
  case existing => exact fun registered => ⟨setUp.existing registered, none_built⟩
  case own =>
    intro name key object _ held
    rw [setUp.get?_cache] at held
    cases held
  case inScope =>
    rintro former (rfl | ⟨_, mem, -⟩) id key object held
    · rw [setUp.get?_cache] at held
      cases held
    · cases mem
  case dependencies =>
    rintro object dependency ⟨built, found, needs⟩
    exact ⟨setUp.complete built (List.mem_of_getElem? found) dependency needs,
      fun built => absurd built none_built⟩
  case given => exact fun ⟨_, mem, _⟩ => nomatch mem

/-- Something happens that builds nothing for a scope and leaves the instances and caches as they
are. -/
theorem Separates.note (separates : Separates services history container)
    {occurrence : Occurrence σ} (same : occurrence.after = container)
    (builds : ∀ id key object, occurrence.deed ≠ .production (.scope id) key (.ok object))
    (answers : ∀ session key object, occurrence.deed = .request session key (.ok (some object)) →
      object.index < container.instances.length ∧
        (session = .root → ¬ BuiltForScope history object)) :
    Separates services (history ++ [occurrence]) container := by
  have unchanged : ∀ {object}, BuiltForScope (history ++ [occurrence]) object ↔
      BuiltForScope history object := by
    intro object
    rw [builtForScope_append, or_iff_left]
    rintro ⟨_, mem, id, key, deed⟩
    obtain rfl := List.mem_singleton.mp mem
    exact builds id key object deed
  constructor
  case built => exact fun built => separates.built (unchanged.mp built)
  case existing =>
    intro key lifetime object registered
    rw [unchanged]
    exact separates.existing registered
  case own =>
    intro name key object isOwn held
    rw [unchanged]
    exact separates.own isOwn held
  case inScope =>
    rintro former (rfl | ⟨other, mem, rfl⟩) id key object held
    · exact unchanged.mpr (separates.inScope _ (.inl rfl) held)
    obtain earlier | here := List.mem_append.mp mem
    · exact unchanged.mpr (separates.inScope _ (.inr ⟨other, earlier, rfl⟩) held)
    · obtain rfl := List.mem_singleton.mp here
      exact unchanged.mpr (separates.inScope _ (.inl same) held)
  case dependencies =>
    intro object dependency depends
    rw [unchanged, unchanged]
    exact separates.dependencies depends
  case given =>
    rintro session object ⟨other, mem, key, deed⟩
    rw [unchanged]
    obtain earlier | here := List.mem_append.mp mem
    · exact separates.given ⟨other, earlier, key, deed⟩
    · obtain rfl := List.mem_singleton.mp here
      exact answers session key object deed

/-- The container changes without new instances and without anything new in its caches. -/
theorem Separates.of_subset (separates : Separates services history before)
    (instances : after.instances = before.instances)
    (held : ∀ {name key object}, (after.cache name).get? key = some object →
      (before.cache name).get? key = some object) :
    Separates services history after := by
  constructor
  case built => rw [instances]; exact separates.built
  case existing => rw [instances]; exact separates.existing
  case own =>
    intro name key object isOwn now
    rw [instances]
    exact separates.own isOwn (held now)
  case inScope =>
    rintro former (rfl | earlier) id key object now
    · exact separates.inScope _ (.inl rfl) (held now)
    · exact separates.inScope _ (.inr earlier) now
  case dependencies =>
    rintro object dependency ⟨built, found, needs⟩
    rw [instances]
    rw [instance?, instances] at found
    exact separates.dependencies ⟨built, found, needs⟩
  case given => rw [instances]; exact separates.given

/-- What an instance depends on that was built last is what it was built from. -/
theorem dependsOn_allocate {instance_ : Instance σ} {object dependency : InstanceId}
    (depends : (container.allocate instance_).2.DependsOn object dependency) :
    container.DependsOn object dependency ∨
      object = (container.allocate instance_).1 ∧ some dependency ∈ instance_.dependencies := by
  obtain ⟨built, found, needs⟩ := depends
  rw [instance?, Container.allocate, List.getElem?_append] at found
  split at found
  · exact .inl ⟨built, found, needs⟩
  · rename_i beyond
    obtain ⟨last, here⟩ := List.getElem?_eq_some_iff.mp found
    have place : object.index = container.instances.length := by
      rw [List.length_singleton] at last
      omega
    obtain rfl : instance_ = built := by simpa using here
    exact .inr ⟨congrArg InstanceId.mk place, needs⟩

/-- The instance that is built is one for a scope if its factory ran for one. -/
theorem builtForScope_production {after : Container σ} {object new : InstanceId} :
    BuiltForScope (history ++ [⟨before, .production session key (.ok new), after⟩]) object ↔
      BuiltForScope history object ∨ session ≠ .root ∧ object = new := by
  rw [builtForScope_append]
  refine or_congr_right ⟨?_, fun ⟨forScope, same⟩ => ?_⟩
  · rintro ⟨_, mem, id, other, deed⟩
    obtain rfl := List.mem_singleton.mp mem
    obtain ⟨rfl, -, built⟩ := Deed.production.inj deed
    exact ⟨by simp, (Except.ok.inj built).symm⟩
  · cases session with
    | root => exact absurd rfl forScope
    | scope id => exact ⟨_, List.mem_singleton.mpr rfl, id, key, by rw [same]⟩

/-- A factory builds an instance from what it was given. -/
theorem Separates.allocate (separates : Separates services history container)
    (instance_ : Instance σ) (before : Container σ) (key : ServiceKey)
    (given : ∀ object, some object ∈ instance_.dependencies → Gave history session object) :
    Separates services
        (history ++ [⟨before, .production session key (.ok (container.allocate instance_).1),
          (container.allocate instance_).2⟩])
        (container.allocate instance_).2 := by
  have longer : (container.allocate instance_).2.instances.length =
      container.instances.length + 1 := by simp [Container.allocate]
  -- the new instance is not among those that were there
  have former : ∀ {object : InstanceId}, object.index < container.instances.length →
      (BuiltForScope (history ++ [⟨before, .production session key
        (.ok (container.allocate instance_).1), (container.allocate instance_).2⟩]) object ↔
        BuiltForScope history object) := by
    intro object there
    rw [builtForScope_production, or_iff_left]
    rintro ⟨-, rfl⟩
    exact Nat.lt_irrefl _ there
  have widen : ∀ {object : InstanceId}, BuiltForScope history object →
      BuiltForScope (history ++ [⟨before, .production session key
        (.ok (container.allocate instance_).1), (container.allocate instance_).2⟩]) object :=
    fun built => builtForScope_append.mpr (.inl built)
  constructor
  case built =>
    intro object built
    rw [longer]
    obtain built | ⟨-, rfl⟩ := builtForScope_production.mp built
    · exact Nat.lt_succ_of_lt (separates.built built)
    · exact Nat.lt_succ_self _
  case existing =>
    intro key lifetime object registered
    obtain ⟨there, apart⟩ := separates.existing registered
    exact ⟨longer ▸ Nat.lt_succ_of_lt there, mt (former there).mp apart⟩
  case own =>
    intro name key object isOwn held
    obtain ⟨there, apart⟩ := separates.own isOwn held
    exact ⟨longer ▸ Nat.lt_succ_of_lt there, mt (former there).mp apart⟩
  case inScope =>
    rintro state (rfl | ⟨other, mem, rfl⟩) id key object held
    · exact widen (separates.inScope _ (.inl rfl) held)
    obtain earlier | here := List.mem_append.mp mem
    · exact widen (separates.inScope _ (.inr ⟨other, earlier, rfl⟩) held)
    · obtain rfl := List.mem_singleton.mp here
      exact widen (separates.inScope _ (.inl rfl) held)
  case dependencies =>
    intro object dependency depends
    obtain depends | ⟨rfl, needs⟩ := dependsOn_allocate depends
    · obtain ⟨there, carries⟩ := separates.dependencies depends
      exact ⟨longer ▸ Nat.lt_succ_of_lt there,
        fun built => widen (carries ((former there).mp built))⟩
    · -- a factory that runs for the container was given nothing that was built for a scope
      obtain ⟨there, apart⟩ := separates.given (given dependency needs)
      exact ⟨longer ▸ Nat.lt_succ_of_lt there, fun built => builtForScope_production.mpr
        (.inr ⟨fun root => apart root ((former there).mp built), rfl⟩)⟩
  case given =>
    rintro asked object ⟨other, mem, query, deed⟩
    obtain earlier | here := List.mem_append.mp mem
    · obtain ⟨there, apart⟩ := separates.given ⟨other, earlier, query, deed⟩
      exact ⟨longer ▸ Nat.lt_succ_of_lt there, fun root => mt (former there).mp (apart root)⟩
    · obtain rfl := List.mem_singleton.mp here
      cases deed

/-- Factories run for the container itself if what they build goes into one of its own caches. -/
theorem isOwn_iff_of_cache? {name : CacheName} (place : lifetime.cache? session = some name) :
    name.IsOwn ↔ lifetime.builder session = .root := by
  cases lifetime with
  | transient => cases place
  | singleton =>
    cases place
    exact iff_of_true (.inl rfl) rfl
  | _ =>
    cases place
    simp [CacheName.IsOwn, Lifetime.builder]

/-- An instance goes into a cache of the container itself, or into one of a scope if it was built
for a scope. -/
theorem Separates.store (separates : Separates services history container)
    (there : object.index < container.instances.length) {name : CacheName}
    (origin : BuiltForScope history object ↔ ¬ name.IsOwn) (key : ServiceKey) :
    Separates services history (container.store name key object) := by
  constructor
  case built => rw [instances_store]; exact separates.built
  case existing => rw [instances_store]; exact separates.existing
  case own =>
    intro other query found isOwn held
    rw [instances_store]
    obtain ⟨rfl, -, rfl⟩ | former := held_of_store held
    · exact ⟨there, fun built => origin.mp built isOwn⟩
    · exact separates.own isOwn former
  case inScope =>
    rintro state (rfl | earlier) id query found held
    · obtain ⟨rfl, -, rfl⟩ | former := held_of_store held
      · exact origin.mpr (by simp [CacheName.IsOwn])
      · exact separates.inScope _ (.inl rfl) former
    · exact separates.inScope _ (.inr earlier) held
  case dependencies =>
    rintro other dependency ⟨built, found, needs⟩
    rw [instances_store]
    rw [instance?, instances_store] at found
    exact separates.dependencies ⟨built, found, needs⟩
  case given => rw [instances_store]; exact separates.given

/-- What a session shares may be given to it. -/
theorem Separates.held (separates : Separates services history container) {name : CacheName}
    (place : lifetime.cache? session = some name)
    (held : (container.cache name).get? key = some object) :
    object.index < container.instances.length ∧
      (session = .root → ¬ BuiltForScope history object) := by
  by_cases isOwn : name.IsOwn
  · obtain ⟨there, apart⟩ := separates.own isOwn held
    exact ⟨there, fun _ => apart⟩
  · match name, held, isOwn with
    | .singletons, _, notOwn => exact absurd (.inl rfl) notOwn
    | .session .root, _, notOwn => exact absurd (.inr rfl) notOwn
    | .session (.scope id), held, notOwn =>
      refine ⟨separates.built (separates.inScope _ (.inl rfl) held), ?_⟩
      rintro rfl
      exact absurd ((isOwn_iff_of_cache? place).mpr lifetime.builder_root) notOwn

/-- An instance is settled, and what the request is given in its place may be given. -/
theorem Separates.settle (separates : Separates services history container)
    (there : object.index < container.instances.length)
    (origin : BuiltForScope history object ↔ lifetime.builder session ≠ .root)
    {settled : InstanceId × Container σ}
    (settles : container.settle (lifetime.cache? session) key object = settled) :
    Separates services history settled.2 ∧
      settled.1.index < settled.2.instances.length ∧
        (session = .root → ¬ BuiltForScope history settled.1) := by
  subst settles
  have apart : session = .root → ¬ BuiltForScope history object := by
    rintro rfl built
    exact origin.mp built lifetime.builder_root
  cases place : lifetime.cache? session with
  | none => exact ⟨separates, there, apart⟩
  | some name =>
    dsimp only [Container.settle]
    cases held : (container.cache name).get? key with
    | none =>
      dsimp only
      rw [instances_store]
      have outside : BuiltForScope history object ↔ ¬ name.IsOwn := by
        rw [isOwn_iff_of_cache? place]
        exact origin
      exact ⟨separates.store there outside key, there, apart⟩
    | some first =>
      dsimp only
      exact ⟨separates, separates.held place held⟩

theorem Separates.starting (separates : Separates services history container) (key : ServiceKey)
    (lifetime : Lifetime) : Separates services history (container.starting key lifetime) := by
  cases lifetime with
  | singleton => exact separates.of_subset rfl id
  | _ => exact separates

/-- A request that is answered at once keeps what was built for scopes apart. -/
theorem Separates.answersAtOnce (adopts : services.AdoptsSingletons)
    (separates : Separates services history before) {answer : Except Failure (Option InstanceId)}
    (answers : AnswersAtOnce services session key before answer after) :
    Separates services (history ++ [⟨before, .request session key answer, after⟩]) after := by
  cases answers with
  | absent =>
    exact separates.note rfl (by rintro _ _ _ ⟨⟩) (by rintro _ _ _ ⟨⟩)
  | @shared registration object registered held =>
    refine separates.note rfl (by rintro _ _ _ ⟨⟩) ?_
    rintro asked query given deed
    obtain ⟨rfl, rfl, same⟩ := Deed.request.inj deed
    obtain rfl : object = given := by simpa using same
    cases place : registration.lifetime.cache? session with
    | none =>
      rw [shared?, place] at held
      cases held
    | some name =>
      rw [shared?, place] at held
      exact separates.held place held
  | @existing lifetime given _ registered settles =>
    obtain rfl := adopts registered
    obtain ⟨there, apart⟩ := separates.existing registered
    obtain ⟨separates, fits⟩ := (separates.starting key .singleton).settle there
      (iff_of_false apart (fun other => other rfl)) settles
    refine separates.note rfl (by rintro _ _ _ ⟨⟩) ?_
    rintro asked query found deed
    obtain ⟨rfl, rfl, same⟩ := Deed.request.inj deed
    obtain rfl : _ = found := by simpa using same
    exact fits

/-- A request whose factory failed keeps what was built for scopes apart. -/
theorem Separates.failed (separates : Separates services history after) (failure : Failure) :
    Separates services
      (history ++ [⟨middle, .production (lifetime.builder session) key (.error failure), after⟩,
        ⟨before, .request session key (.error failure), after⟩]) after := by
  have produced : Separates services
      (history ++ [⟨middle, .production (lifetime.builder session) key (.error failure), after⟩])
      after :=
    separates.note rfl (fun _ _ _ deed => by cases (Deed.production.inj deed).2.2)
      (by rintro _ _ _ ⟨⟩)
  rw [List.append_cons]
  exact produced.note rfl (by rintro _ _ _ ⟨⟩) (by rintro _ _ _ ⟨⟩)

/-- A request whose factory built an instance keeps what was built for scopes apart. -/
theorem Separates.produced (separates : Separates services history container)
    {instance_ : Instance σ}
    (given : ∀ object, some object ∈ instance_.dependencies →
      Gave history (lifetime.builder session) object)
    {settled : InstanceId × Container σ}
    (settles : (container.allocate instance_).2.settle (lifetime.cache? session) key
      (container.allocate instance_).1 = settled) :
    Separates services
      (history ++ [⟨middle,
          .production (lifetime.builder session) key (.ok (container.allocate instance_).1),
          (container.allocate instance_).2⟩,
        ⟨before, .request session key (.ok (some settled.1)), settled.2⟩]) settled.2 := by
  have there : (container.allocate instance_).1.index <
      (container.allocate instance_).2.instances.length := by simp [Container.allocate]
  have new : ¬ BuiltForScope history (container.allocate instance_).1 :=
    fun built => Nat.lt_irrefl _ (separates.built built)
  obtain ⟨separates, fits⟩ := (separates.allocate instance_ middle key given).settle there
    (by simp [builtForScope_production, new]) settles
  rw [List.append_cons]
  refine separates.note rfl (by rintro _ _ _ ⟨⟩) ?_
  rintro asked query found deed
  obtain ⟨rfl, rfl, same⟩ := Deed.request.inj deed
  obtain rfl : _ = found := by simpa using same
  exact fits

/-- A course of requests keeps what was built for scopes apart. -/
theorem Separates.course (adopts : services.AdoptsSingletons) {past : List (Occurrence σ)}
    (course : Course services session before past after)
    (separates : Separates services history before) :
    Separates services (history ++ past) after := by
  induction course generalizing history with
  | start => rwa [List.append_nil]
  | answered _ answers ih =>
    rw [← List.append_assoc]
    exact (ih separates).answersAtOnce adopts answers
  | failed failure _ _ _ _ ih inside =>
    rw [← List.append_assoc, ← List.append_assoc]
    exact (inside ((ih separates).starting _ _)).failed failure
  | built _ _ _ _ _ given settles ih inside =>
    rw [← List.append_assoc, ← List.append_assoc]
    exact (inside ((ih separates).starting _ _)).produced
      (fun object needs => (given object needs).append_left _) settles

/-- A command keeps what was built for scopes apart. -/
theorem Separates.command (adopts : services.AdoptsSingletons)
    (separates : Separates services history container) (command : Command) :
    Separates services (history ++ command.occurrences services container)
      (command.after services container) := by
  cases command with
  | resolve session key =>
    exact separates.course adopts (course_resolve services container session key)
  | openScope =>
    have opened : Separates services history container.openScope.2 :=
      separates.of_subset rfl fun held => by rwa [cache_openScope] at held
    exact opened.note rfl (by rintro _ _ _ ⟨⟩) (by rintro _ _ _ ⟨⟩)
  | releaseScope scope =>
    have released : Separates services history (container.releaseScope scope) := by
      refine separates.of_subset rfl fun held => ?_
      rw [cache_releaseScope] at held
      split at held
      · cases held
      · exact held
    exact released.note rfl (by rintro _ _ _ ⟨⟩) (by rintro _ _ _ ⟨⟩)

/-- Whatever is done with a container keeps what was built for scopes apart. -/
theorem Separates.commands (adopts : services.AdoptsSingletons)
    (separates : Separates services history container) (commands : List Command) :
    Separates services (history ++ container.history services commands)
      (afterAll services container commands) := by
  induction commands generalizing history container with
  | nil => rwa [Container.history, List.append_nil]
  | cons command rest ih =>
    rw [Container.history, ← List.append_assoc]
    exact ih (separates.command adopts command)

end Container

end ServiceDispatch
