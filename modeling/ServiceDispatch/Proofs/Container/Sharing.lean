import ServiceDispatch.Proofs.Container.Asking
import ServiceDispatch.Proofs.Container.Confinement
import ServiceDispatch.Proofs.Container.Factories

/-!
# Places of shared instances

Factories of shared services run for places of caches: one key in one cache. A place for which a
factory has finished is filled from then on, and no factory runs for it again; a place for which no
factory has finished stays free. Without a circle among the plans no factory is run inside itself,
so nothing is filled twice. What requests answer is not covered.
-/

namespace ServiceDispatch

variable {σ : Type} {plans : Plans σ}

/-- A factory of a shared service runs, for a place of a cache. -/
def Occurrence.RunsFor (lifetimes : ServiceKey → Option Lifetime) (occurrence : Occurrence σ)
    (name : CacheName) (key : ServiceKey) (result : Except Failure InstanceId) : Prop :=
  ∃ session lifetime, occurrence.deed = .production session key result ∧
    lifetimes key = some lifetime ∧ lifetime.cache? session = some name

/-- What one factory has filled, no factory runs for later. -/
def Occurrence.RunsApart (lifetimes : ServiceKey → Option Lifetime)
    (earlier later : Occurrence σ) : Prop :=
  ∀ {name key object result}, earlier.RunsFor lifetimes name key (.ok object) →
    ¬ later.RunsFor lifetimes name key result

/-- An instance is shared in the same place whoever builds it. -/
theorem Lifetime.cache?_builder (session : Session) (lifetime : Lifetime) :
    lifetime.cache? (lifetime.builder session) = lifetime.cache? session := by
  cases lifetime <;> rfl

/-- A request does not run a factory for a place. -/
theorem Occurrence.not_runsFor {lifetimes : ServiceKey → Option Lifetime}
    {occurrence : Occurrence σ} {session : Session} {key : ServiceKey}
    {answer : Except Failure (Option InstanceId)}
    (deed : occurrence.deed = .request session key answer)
    (name : CacheName) (other : ServiceKey) (result : Except Failure InstanceId) :
    ¬ occurrence.RunsFor lifetimes name other result := by
  rintro ⟨session', lifetime, production, -⟩
  rw [deed] at production
  cases production

namespace Plans

open Container (Grows)

/-- From one state of a container to another one, factories fill places of caches. -/
structure Fills (plans : Plans σ) (before : Container σ) (past : List (Occurrence σ))
    (after : Container σ) : Prop where
  /-- Nothing is lost. -/
  grows : Grows before after
  /-- Factories run for places that were free. -/
  free : ∀ {occurrence name key result}, occurrence ∈ past →
    occurrence.RunsFor plans.lifetime? name key result → (before.cache name).get? key = none
  /-- A factory that finishes fills its place. -/
  finished : ∀ {occurrence name key object}, occurrence ∈ past →
    occurrence.RunsFor plans.lifetime? name key (.ok object) → (after.cache name).get? key = some object
  /-- A place is filled by a factory that finishes. -/
  filled : ∀ {name key object}, (before.cache name).get? key = none →
    (after.cache name).get? key = some object →
    ∃ occurrence ∈ past, occurrence.RunsFor plans.lifetime? name key (.ok object)
  /-- A place is filled once. -/
  once : past.Pairwise (Occurrence.RunsApart plans.lifetime?)

variable {before middle after container last : Container σ} {past later : List (Occurrence σ)}
  {session : Session} {key : ServiceKey} {plan : Plan σ}

/-- Nothing is filled where no factory runs and the caches stay as they are. -/
theorem Fills.quiet (grows : Grows before after)
    (same : ∀ name, after.cache name = before.cache name)
    (rests : ∀ occurrence ∈ past, ∀ name key result,
      ¬ occurrence.RunsFor plans.lifetime? name key result) : plans.Fills before past after where
  grows := grows
  free := fun mem runs => absurd runs (rests _ mem _ _ _)
  finished := fun mem runs => absurd runs (rests _ mem _ _ _)
  filled := by
    intro name key object free held
    rw [same, free] at held
    cases held
  once := by
    refine List.Pairwise.imp_of_mem ?_ (List.pairwise_of_forall fun _ _ => trivial)
    intro earlier later mem _ _ name key object result runs
    exact absurd runs (rests earlier mem _ _ _)

theorem Fills.refl (plans : Plans σ) (container : Container σ) :
    plans.Fills container [] container :=
  .quiet (Grows.refl container) (fun _ => rfl) fun _ mem => nomatch mem

theorem Fills.trans (first : plans.Fills before past middle)
    (second : plans.Fills middle later after) : plans.Fills before (past ++ later) after where
  grows := first.grows.trans second.grows
  free := by
    intro occurrence name key result mem runs
    obtain former | here := List.mem_append.mp mem
    · exact first.free former runs
    · have free := second.free here runs
      by_contra held
      obtain ⟨object, held⟩ := Option.ne_none_iff_exists'.mp held
      rw [first.grows.retains held] at free
      cases free
  finished := by
    intro occurrence name key object mem runs
    obtain former | here := List.mem_append.mp mem
    · exact second.grows.retains (first.finished former runs)
    · exact second.finished here runs
  filled := by
    intro name key object free held
    cases between : (middle.cache name).get? key with
    | none =>
      obtain ⟨occurrence, mem, runs⟩ := second.filled between held
      exact ⟨occurrence, List.mem_append_right _ mem, runs⟩
    | some first_object =>
      have still := second.grows.retains between
      obtain rfl := Option.some.inj (still.symm.trans held)
      obtain ⟨occurrence, mem, runs⟩ := first.filled free between
      exact ⟨occurrence, List.mem_append_left _ mem, runs⟩
  once := by
    refine List.pairwise_append.mpr ⟨first.once, second.once, ?_⟩
    intro earlier former_mem later later_mem name key object result finishes runs
    have held := first.finished former_mem finishes
    rw [second.free later_mem runs] at held
    cases held

/-- What is done next finds the cache of a session still there. -/
theorem Fills.next (present : before.HasCache (.session session))
    (first : plans.Fills before past middle)
    (second : middle.HasCache (.session session) → plans.Fills middle later after) :
    plans.Fills before (past ++ later) after :=
  first.trans (second ((first.grows.hasCache_iff _).mpr present))

/-- A place for which no factory runs stays free. -/
theorem Fills.stays_free (fills : plans.Fills before past after) {name : CacheName}
    (free : (before.cache name).get? key = none)
    (rests : ∀ occurrence ∈ past, ∀ result, ¬ occurrence.RunsFor plans.lifetime? name key result) :
    (after.cache name).get? key = none := by
  by_contra held
  obtain ⟨object, held⟩ := Option.ne_none_iff_exists'.mp held
  obtain ⟨occurrence, mem, runs⟩ := fills.filled free held
  exact rests occurrence mem _ runs

theorem Fills.request (plans : Plans σ) (container : Container σ) {occurrence : Occurrence σ}
    {answer : Except Failure (Option InstanceId)}
    (deed : occurrence.deed = .request session key answer) :
    plans.Fills container [occurrence] container := by
  refine .quiet (Grows.refl container) (fun _ => rfl) fun _ mem => ?_
  obtain rfl := List.mem_singleton.mp mem
  exact Occurrence.not_runsFor deed

theorem Fills.starting (plans : Plans σ) (container : Container σ) (key : ServiceKey)
    (lifetime : Lifetime) : plans.Fills container [] (container.starting key lifetime) := by
  have reaches : Container.Reaches plans.services .root container _ :=
    Container.reaches_starting container key lifetime
  exact .quiet reaches.grows (congrFun (Container.cache_starting container key lifetime))
    fun _ mem => nomatch mem

/-- What is settled in a free place is held there, and nothing else changes. -/
theorem get?_settle (container : Container σ) {place : Option CacheName}
    (free : ∀ name, place = some name → (container.cache name).get? key = none)
    (present : ∀ name, place = some name → container.HasCache name) (object : InstanceId)
    (name : CacheName) (other : ServiceKey) :
    ((container.settle place key object).2.cache name).get? other =
      if place = some name ∧ key = other then some object
      else (container.cache name).get? other := by
  cases place with
  | none => rfl
  | some own =>
    dsimp only [Container.settle]
    rw [free own rfl]
    dsimp only
    rw [Container.get?_cache_store _ _ _ _ _ _ (present own rfl)]
    simp only [Option.some_inj]

/-- For which place the factory of a plan runs. -/
theorem runsFor_iff (planned : plans.get? key = some plan) {occurrence : Occurrence σ}
    {result : Except Failure InstanceId}
    (deed : occurrence.deed = .production (plan.lifetime.builder session) key result)
    (name : CacheName) (other : ServiceKey) (result' : Except Failure InstanceId) :
    occurrence.RunsFor plans.lifetime? name other result' ↔
      plan.lifetime.cache? session = some name ∧ key = other ∧ result = result' := by
  constructor
  · rintro ⟨session', lifetime, production, lives, place⟩
    obtain ⟨rfl, rfl, rfl⟩ := Deed.production.inj (deed.symm.trans production)
    obtain rfl := Option.some.inj ((lifetime?_of_planned planned).symm.trans lives)
    rw [Lifetime.cache?_builder] at place
    exact ⟨place, rfl, rfl⟩
  · rintro ⟨place, rfl, rfl⟩
    refine ⟨_, plan.lifetime, deed, lifetime?_of_planned planned, ?_⟩
    rw [Lifetime.cache?_builder]
    exact place

/-- A factory that fails fills nothing. -/
theorem Fills.broken (planned : plans.get? key = some plan) {production request : Occurrence σ}
    {failure : Failure} {answer : Except Failure (Option InstanceId)}
    (produces : production.deed =
      .production (plan.lifetime.builder session) key (.error failure))
    (asks : request.deed = .request session key answer)
    (free : ∀ name, plan.lifetime.cache? session = some name →
      (last.cache name).get? key = none) : plans.Fills last [production, request] last := by
  have runs := runsFor_iff planned produces
  suffices own : plans.Fills last [production] last from own.trans (.request plans last asks)
  constructor
  case grows => exact Grows.refl last
  case free =>
    intro occurrence name other result mem runsFor
    obtain rfl := List.mem_singleton.mp mem
    obtain ⟨place, rfl, -⟩ := (runs _ _ _).mp runsFor
    exact free name place
  case finished =>
    intro occurrence name other object mem runsFor
    obtain rfl := List.mem_singleton.mp mem
    obtain ⟨-, -, same⟩ := (runs _ _ _).mp runsFor
    cases same
  case filled =>
    intro name other object free held
    rw [free] at held
    cases held
  case once => exact List.pairwise_singleton _ _

/-- A factory that finishes fills its place and no other. -/
theorem Fills.produced (planned : plans.get? key = some plan) {production request : Occurrence σ}
    {instance_ : Instance σ} {answer : Except Failure (Option InstanceId)}
    {settled : InstanceId × Container σ}
    (produces : production.deed =
      .production (plan.lifetime.builder session) key (.ok (last.allocate instance_).1))
    (asks : request.deed = .request session key answer)
    (free : ∀ name, plan.lifetime.cache? session = some name →
      (last.cache name).get? key = none)
    (present : ∀ name, plan.lifetime.cache? session = some name → last.HasCache name)
    (settles : (last.allocate instance_).2.settle (plan.lifetime.cache? session) key
      (last.allocate instance_).1 = settled) :
    plans.Fills last [production, request] settled.2 := by
  have runs := runsFor_iff planned produces
  have grows : Grows last settled.2 := by
    subst settles
    exact (Grows.allocate last instance_).trans (Container.grows_settle _ _ _ _)
  have holds := get?_settle (last.allocate instance_).2 free present (last.allocate instance_).1
  rw [settles] at holds
  suffices own : plans.Fills last [production] settled.2 from
    own.trans (.request plans settled.2 asks)
  constructor
  case grows => exact grows
  case free =>
    intro occurrence name other result mem runsFor
    obtain rfl := List.mem_singleton.mp mem
    obtain ⟨place, rfl, -⟩ := (runs _ _ _).mp runsFor
    exact free name place
  case finished =>
    intro occurrence name other object mem runsFor
    obtain rfl := List.mem_singleton.mp mem
    obtain ⟨place, rfl, same⟩ := (runs _ _ _).mp runsFor
    obtain rfl := Except.ok.inj same
    rw [holds, if_pos ⟨place, rfl⟩]
  case filled =>
    intro name other object free' held
    refine ⟨production, List.mem_singleton_self _, (runs _ _ _).mpr ?_⟩
    rw [holds] at held
    split at held
    · rename_i here
      exact ⟨here.1, here.2, congrArg Except.ok (Option.some.inj held)⟩
    · rw [Container.cache_allocate, free'] at held
      cases held
  case once => exact List.pairwise_singleton _ _

section

variable {keys : List ServiceKey} {given : Except Failure (List InstanceId)}

/-- What a factory asks for leaves the place of the factory free. -/
theorem Fills.place_free (acyclic : plans.IsAcyclic) (planned : plans.get? key = some plan)
    (free : container.shared? session key plan.lifetime = none)
    (asks : plans.Asks (plan.lifetime.builder session) plan.needs
      (container.starting key plan.lifetime) past given last)
    (fills : plans.Fills (container.starting key plan.lifetime) past last) {name : CacheName}
    (place : plan.lifetime.cache? session = some name) :
    (last.cache name).get? key = none := by
  rw [Container.shared?, place] at free
  have starts_free : ((container.starting key plan.lifetime).cache name).get? key = none := by
    rwa [Container.cache_starting]
  refine fills.stays_free starts_free fun occurrence mem result => ?_
  rintro ⟨asked, other_plan, deed, -⟩
  exact asks.ne_of_production acyclic planned mem deed rfl

/-- The cache of a service is there if that of the session is. -/
theorem hasCache_of_place {container : Container σ} {lifetime : Lifetime}
    (present : container.HasCache (.session session)) {name : CacheName}
    (place : lifetime.cache? session = some name) : container.HasCache name := by
  cases lifetime with
  | transient => cases place
  | singleton =>
    obtain rfl := Option.some.inj place
    trivial
  | _ =>
    obtain rfl := Option.some.inj place
    exact present

/-- A session that builds a service has its cache if the one that asks for it does. -/
theorem hasCache_starting {container : Container σ} (key : ServiceKey) (lifetime : Lifetime)
    (present : container.HasCache (.session session)) :
    (container.starting key lifetime).HasCache (.session (lifetime.builder session)) := by
  have starts := (Fills.starting (⟨.empty⟩ : Plans σ) container key lifetime).grows
  rw [starts.hasCache_iff]
  obtain same | root := lifetime.builder_eq session
  · rw [same]
    exact present
  · rw [root]
    trivial

/-- A request that runs a factory without a result. -/
theorem Fills.failed (acyclic : plans.IsAcyclic) (planned : plans.get? key = some plan)
    (free : container.shared? session key plan.lifetime = none)
    (asks : plans.Asks (plan.lifetime.builder session) plan.needs
      (container.starting key plan.lifetime) past given last)
    (fills : plans.Fills (container.starting key plan.lifetime) past last)
    {production request : Occurrence σ} {failure : Failure}
    {answer : Except Failure (Option InstanceId)}
    (produces : production.deed =
      .production (plan.lifetime.builder session) key (.error failure))
    (asked : request.deed = .request session key answer) :
    plans.Fills container (past ++ [production, request]) last := by
  have starts := Fills.starting plans container key plan.lifetime
  have ends := Fills.broken planned produces asked fun name place =>
    fills.place_free acyclic planned free asks place
  exact (starts.trans fills).trans ends

/-- A request that runs a factory with a result. -/
theorem Fills.built (acyclic : plans.IsAcyclic) (planned : plans.get? key = some plan)
    (free : container.shared? session key plan.lifetime = none)
    (present : container.HasCache (.session session))
    (asks : plans.Asks (plan.lifetime.builder session) plan.needs
      (container.starting key plan.lifetime) past given last)
    (fills : plans.Fills (container.starting key plan.lifetime) past last)
    {production request : Occurrence σ} {instance_ : Instance σ}
    {answer : Except Failure (Option InstanceId)} {settled : InstanceId × Container σ}
    (produces : production.deed =
      .production (plan.lifetime.builder session) key (.ok (last.allocate instance_).1))
    (asked : request.deed = .request session key answer)
    (settles : (last.allocate instance_).2.settle (plan.lifetime.cache? session) key
      (last.allocate instance_).1 = settled) :
    plans.Fills container (past ++ [production, request]) settled.2 := by
  have starts := Fills.starting plans container key plan.lifetime
  have still : last.HasCache (.session session) :=
    ((starts.trans fills).grows.hasCache_iff _).mpr present
  have ends := Fills.produced planned produces asked
    (fun name place => fills.place_free acyclic planned free asks place)
    (fun name place => hasCache_of_place still place) settles
  exact (starts.trans fills).trans ends

/-- Without a circle among the plans, requests fill places. -/
theorem Asks.fills (acyclic : plans.IsAcyclic)
    (asks : plans.Asks session keys before past given after)
    (present : before.HasCache (.session session)) : plans.Fills before past after := by
  induction asks with
  | done => exact Fills.refl plans _
  | missing | mistypedHeld => exact Fills.request plans _ rfl
  | held _ _ _ _ onwards => exact (Fills.request plans _ rfl).trans (onwards present)
  | failed planned free asks _ nested =>
    have fills := nested (hasCache_starting _ _ present)
    exact .failed acyclic planned free asks fills rfl rfl
  | built planned free asks _ settles _ _ nested onwards =>
    refine Fills.next present ?_ onwards
    have fills := nested (hasCache_starting _ _ present)
    exact .built acyclic planned free present asks fills rfl rfl settles
  | mistypedBuilt planned free asks _ settles _ nested =>
    have fills := nested (hasCache_starting _ _ present)
    exact .built acyclic planned free present asks fills rfl rfl settles

/-- In a request that runs a factory with a result, every factory finishes. -/
theorem not_broken_of_built (planned : plans.get? key = some plan)
    (asks : plans.Asks (plan.lifetime.builder session) plan.needs container past given last)
    {instance_ : Instance σ} (builds : plan.outcome given = .ok instance_)
    {production request : Occurrence σ} {object : InstanceId}
    {answer : Except Failure (Option InstanceId)}
    (produces : production.deed =
      .production (plan.lifetime.builder session) key (.ok object))
    (asked : request.deed = .request session key answer) {occurrence : Occurrence σ}
    (mem : occurrence ∈ past ++ [production, request]) {name : CacheName} {other : ServiceKey}
    {failure : Failure} : ¬ occurrence.RunsFor plans.lifetime? name other (.error failure) := by
  intro runs
  simp only [List.mem_append, List.mem_cons, List.not_mem_nil, or_false] at mem
  obtain mem | rfl | rfl := mem
  · obtain ⟨asked, _, deed, -⟩ := runs
    exact asks.finished (ok_of_outcome builds).1 _ mem _ _ _ deed
  · obtain ⟨-, -, same⟩ := (runsFor_iff planned produces _ _ _).mp runs
    cases same
  · exact Occurrence.not_runsFor asked _ _ _ runs

/-- The place of a factory that did not finish stays free. -/
theorem Asks.unfinished_free (acyclic : plans.IsAcyclic)
    (asks : plans.Asks session keys before past given after)
    (present : before.HasCache (.session session)) {occurrence : Occurrence σ}
    (mem : occurrence ∈ past) {name : CacheName} {failure : Failure}
    (runs : occurrence.RunsFor plans.lifetime? name key (.error failure)) :
    (after.cache name).get? key = none := by
  induction asks with
  | done => cases mem
  | missing | mistypedHeld =>
    obtain rfl := List.mem_singleton.mp mem
    exact absurd runs (Occurrence.not_runsFor rfl _ _ _)
  | held _ _ _ _ onwards =>
    obtain rfl | mem := List.mem_cons.mp mem
    · exact absurd runs (Occurrence.not_runsFor rfl _ _ _)
    · exact onwards present mem
  | failed planned free asks _ nested =>
    have fills := asks.fills acyclic (hasCache_starting _ _ present)
    simp only [List.mem_append, List.mem_cons, List.not_mem_nil, or_false] at mem
    obtain mem | rfl | rfl := mem
    · exact nested (hasCache_starting _ _ present) mem
    · obtain ⟨place, rfl, -⟩ := (runsFor_iff planned rfl _ _ _).mp runs
      exact fills.place_free acyclic planned free asks place
    · exact absurd runs (Occurrence.not_runsFor rfl _ _ _)
  | built planned _ asks builds settles _ _ _ onwards =>
    have grows := (reaches_built planned asks.reaches builds settles).grows
    obtain here | later := List.mem_append.mp mem
    · exact absurd runs (not_broken_of_built planned asks builds rfl rfl here)
    · exact onwards ((grows.hasCache_iff _).mpr present) later
  | mistypedBuilt planned _ asks builds =>
    exact absurd runs (not_broken_of_built planned asks builds rfl rfl mem)

end

end Plans

namespace Container

/-- No factory can run for a place any more: it is filled, or the scope of its cache has been
released. -/
def IsTaken (container : Container σ) (name : CacheName) (key : ServiceKey) : Prop :=
  (∃ object, (container.cache name).get? key = some object) ∨
    ∃ id, name = .session (.scope id) ∧ container.openness[id.index]? = some false

/-- A place stays taken. -/
theorem IsTaken.of_keeps {before after : Container σ} {name : CacheName} {key : ServiceKey}
    (taken : before.IsTaken name key) (keeps : Keeps before after) : after.IsTaken name key := by
  obtain ⟨object, held⟩ | ⟨id, rfl, closed⟩ := taken
  · by_cases live : name.IsLive after
    · exact .inl ⟨object, keeps.held live held⟩
    · match name, live with
      | .singletons, dead | .session .root, dead => exact absurd trivial dead
      | .session (.scope id), dead =>
        have former : id.index < before.openness.length := by
          rw [openness, List.length_map]
          exact hasCache_of_held held
        have there := Nat.lt_of_lt_of_le former keeps.later.scopes
        have state := List.getElem?_eq_getElem there
        cases isOpen : after.openness[id.index] with
        | true =>
          rw [isOpen] at state
          exact absurd state dead
        | false =>
          rw [isOpen] at state
          exact .inr ⟨id, rfl, state⟩
  · exact .inr ⟨id, rfl, keeps.later.closed closed⟩

end Container

namespace Plans

open Container (Command)

variable {container : Container σ} {command : Command} {name : CacheName} {key : ServiceKey}
  {occurrence : Occurrence σ}

/-- What a possible command does. -/
theorem fills_resolve (acyclic : plans.IsAcyclic) {session : Session}
    (isOpen : session.IsOpen container) (asked : ServiceKey) :
    plans.Fills container ((Command.resolve session asked).occurrences plans.services container)
      ((Command.resolve session asked).after plans.services container) :=
  (acyclic.asks session asked container).fills acyclic (Wrapper.hasCache_of_isOpen isOpen)

/-- Scopes are opened and released without running factories. -/
theorem runsFor_resolve {lifetimes : ServiceKey → Option Lifetime}
    (mem : occurrence ∈ command.occurrences plans.services container)
    {result : Except Failure InstanceId} (runs : occurrence.RunsFor lifetimes name key result) :
    ∃ session asked, command = .resolve session asked := by
  cases command with
  | resolve session asked => exact ⟨session, asked, rfl⟩
  | openScope | releaseScope scope =>
    obtain rfl := List.mem_singleton.mp mem
    obtain ⟨_, _, deed, -⟩ := runs
    cases deed

/-- A command does not run factories for places that are taken. -/
theorem not_runsFor_command (acyclic : plans.IsAcyclic) (possible : command.IsPossible container)
    (taken : container.IsTaken name key)
    (mem : occurrence ∈ command.occurrences plans.services container)
    (result : Except Failure InstanceId) :
    ¬ occurrence.RunsFor plans.lifetime? name key result := by
  intro runs
  obtain ⟨session, asked, rfl⟩ := runsFor_resolve mem runs
  obtain ⟨object, held⟩ | ⟨id, rfl, closed⟩ := taken
  · have free := (fills_resolve acyclic possible asked).free mem runs
    rw [held] at free
    cases free
  · obtain ⟨builder, lifetime, deed, -, place⟩ := runs
    obtain ⟨own, -⟩ := (acyclic.asks session asked container).runsBelow _ mem _ _ _ deed
    have here : builder = .scope id := by
      cases lifetime with
      | transient | singleton => cases place
      | _ => exact CacheName.session.inj (Option.some.inj place)
    subst here
    obtain rfl | root := own
    · rw [show container.openness[id.index]? = some true from possible] at closed
      cases closed
    · cases root

/-- A place is filled once on a command. -/
theorem runsApart_command (acyclic : plans.IsAcyclic) (possible : command.IsPossible container) :
    (command.occurrences plans.services container).Pairwise
      (Occurrence.RunsApart plans.lifetime?) := by
  cases command with
  | resolve session asked => exact (fills_resolve acyclic possible asked).once
  | openScope | releaseScope scope => exact List.pairwise_singleton _ _

/-- What a factory has built on a command is shared after it. -/
theorem held_of_finished_command (acyclic : plans.IsAcyclic)
    (possible : command.IsPossible container)
    (mem : occurrence ∈ command.occurrences plans.services container) {object : InstanceId}
    (finishes : occurrence.RunsFor plans.lifetime? name key (.ok object)) :
    ((command.after plans.services container).cache name).get? key = some object := by
  obtain ⟨session, asked, rfl⟩ := runsFor_resolve mem finishes
  exact (fills_resolve acyclic possible asked).finished mem finishes

/-- What is shared after a command was shared before it or built by a factory that has finished. -/
theorem finished_of_held_command (acyclic : plans.IsAcyclic)
    (possible : command.IsPossible container) {object : InstanceId}
    (held : ((command.after plans.services container).cache name).get? key = some object) :
    (container.cache name).get? key = some object ∨
      ∃ occurrence ∈ command.occurrences plans.services container,
        occurrence.RunsFor plans.lifetime? name key (.ok object) := by
  cases command with
  | openScope =>
    rw [Command.after, Container.cache_openScope] at held
    exact .inl held
  | releaseScope scope =>
    rw [Command.after, Container.cache_releaseScope] at held
    split at held
    · cases held
    · exact .inl held
  | resolve session asked =>
    have fills := fills_resolve acyclic possible asked
    cases before : (container.cache name).get? key with
    | none => exact .inr (fills.filled before held)
    | some former => exact .inl ((fills.grows.retains before).symm.trans held)

end Plans

namespace Factories

open Container (Command)

variable {factories : Factories σ} {moment : Nat} {container : Container σ}
  {commands : List Command} {name : CacheName} {key : ServiceKey} {occurrence : Occurrence σ}

/-- A place that is taken stays so, and no factory runs for it any more. -/
theorem not_runsFor_history (acyclic : factories.IsAcyclic)
    (admits : factories.Admits moment container commands) (taken : container.IsTaken name key)
    (mem : occurrence ∈ factories.history moment container commands)
    (result : Except Failure InstanceId) :
    ¬ occurrence.RunsFor factories.lifetime? name key result := by
  induction commands generalizing moment container with
  | nil => cases mem
  | cons command rest ih =>
    obtain here | later := List.mem_append.mp mem
    · rw [← lifetime?_plans factories moment]
      exact Plans.not_runsFor_command (acyclic.plans moment) admits.1 taken here result
    · have still := taken.of_keeps (command.passes (factories.plans moment).services container).keeps
      exact ih admits.2 still later

/-- Once a factory has filled a place, no factory runs for it, whatever is asked for later. -/
theorem runsApart_history (acyclic : factories.IsAcyclic)
    (admits : factories.Admits moment container commands) :
    (factories.history moment container commands).Pairwise
      (Occurrence.RunsApart factories.lifetime?) := by
  induction commands generalizing moment container with
  | nil => exact .nil
  | cons command rest ih =>
    have lifetimes := lifetime?_plans factories moment
    refine List.pairwise_append.mpr ⟨?_, ih admits.2, ?_⟩
    · rw [← lifetimes]
      exact Plans.runsApart_command (acyclic.plans moment) admits.1
    · intro earlier here later there name key object result finishes
      rw [← lifetimes] at finishes
      have held := Plans.held_of_finished_command (acyclic.plans moment) admits.1 here finishes
      exact not_runsFor_history acyclic admits.2 (.inl ⟨object, held⟩) there result

/-- What a factory has built for a place is shared there as long as the cache lives. -/
theorem held_of_finished (acyclic : factories.IsAcyclic)
    (admits : factories.Admits moment container commands)
    (mem : occurrence ∈ factories.history moment container commands) {object : InstanceId}
    (finishes : occurrence.RunsFor factories.lifetime? name key (.ok object))
    (live : name.IsLive (factories.afterAll moment container commands)) :
    ((factories.afterAll moment container commands).cache name).get? key = some object := by
  induction commands generalizing moment container with
  | nil => cases mem
  | cons command rest ih =>
    obtain here | later := List.mem_append.mp mem
    · rw [← lifetime?_plans factories moment] at finishes
      have held := Plans.held_of_finished_command (acyclic.plans moment) admits.1 here finishes
      exact (keeps_afterAll factories _ _ rest).held live held
    · exact ih admits.2 later live

/-- What is shared was shared at first or built by a factory that has finished. -/
theorem finished_of_held (acyclic : factories.IsAcyclic)
    (admits : factories.Admits moment container commands) {object : InstanceId}
    (held : ((factories.afterAll moment container commands).cache name).get? key = some object) :
    (container.cache name).get? key = some object ∨
      ∃ occurrence ∈ factories.history moment container commands,
        occurrence.RunsFor factories.lifetime? name key (.ok object) := by
  induction commands generalizing moment container with
  | nil => exact .inl held
  | cons command rest ih =>
    obtain middle | ⟨occurrence, mem, finishes⟩ := ih admits.2 held
    · have shared := Plans.finished_of_held_command (acyclic.plans moment) admits.1 middle
      rw [lifetime?_plans] at shared
      obtain start | ⟨occurrence, mem, finishes⟩ := shared
      · exact .inl start
      · exact .inr ⟨occurrence, List.mem_append_left _ mem, finishes⟩
    · exact .inr ⟨occurrence, List.mem_append_right _ mem, finishes⟩

end Factories

end ServiceDispatch
