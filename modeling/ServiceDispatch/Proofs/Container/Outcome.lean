import ServiceDispatch.Proofs.Container.Registration
import ServiceDispatch.Proofs.Container.Sharing

/-!
# Outcomes of requests

A request for a planned service comes to what the plans and its container say beforehand. While
factories run, more and more is shared; but whatever has come to be shared was built by a request
that succeeds, so nothing changes for what is asked for later. That requests end, that shared
services are built once and what they come to is summed up here for whole histories.
-/

namespace ServiceDispatch

variable {σ : Type} {plans : Plans σ}

/-- Sessions that share a place of a service leave it to the same session to build it. -/
theorem Lifetime.builder_eq_of_cache? {lifetime : Lifetime} {session session' : Session}
    {name : CacheName} (place : lifetime.cache? session = some name)
    (place' : lifetime.cache? session' = some name) :
    lifetime.builder session = lifetime.builder session' := by
  cases lifetime with
  | transient => cases place
  | singleton => rfl
  | _ =>
    have same := Option.some.inj (place.trans place'.symm)
    exact CacheName.session.inj same

namespace Plans

open Container (Grows Orderly)

variable {start now middle after container last : Container σ} {session : Session}
  {key : ServiceKey} {rest keys : List ServiceKey} {plan : Plan σ} {past : List (Occurrence σ)}
  {given : Except Failure (List InstanceId)} {object : InstanceId} {failure : Failure}

/-- What requests come to that are made one after another, by the container at the start: all
succeed, or one is the first that fails. -/
def ComesTo (plans : Plans σ) (start : Container σ) (session : Session) (keys : List ServiceKey) :
    Except Failure (List InstanceId) → Prop
  | .ok _ => ∀ key ∈ keys, plans.Succeeds start session key
  | .error failure => ∃ former key later, keys = former ++ key :: later ∧
      (∀ earlier ∈ former, plans.Succeeds start session earlier) ∧
        plans.Fails start session key failure

theorem ComesTo.fails (fails : plans.Fails start session key failure) :
    plans.ComesTo start session (key :: rest) (.error failure) :=
  ⟨[], key, rest, rfl, nofun, fails⟩

theorem ComesTo.next (succeeds : plans.Succeeds start session key)
    (onwards : plans.ComesTo start session rest given) (object : InstanceId) :
    plans.ComesTo start session (key :: rest) (given.map (object :: ·)) := by
  cases given with
  | ok objects => exact List.forall_mem_cons.mpr ⟨succeeds, onwards⟩
  | error failure =>
    obtain ⟨former, other, later, rfl, answered, fails⟩ := onwards
    exact ⟨key :: former, other, later, rfl, List.forall_mem_cons.mpr ⟨succeeds, answered⟩, fails⟩

/-- A container in which nothing has been shared but what requests at the start would build. -/
structure Extends (plans : Plans σ) (start now : Container σ) : Prop where
  /-- What was shared exists. -/
  orderly : Orderly plans.services start
  /-- Nothing is lost. -/
  grows : Grows start now
  /-- What has been added was built after everything that its factory asks for. -/
  added : ∀ {session key plan object}, plans.get? key = some plan →
    start.shared? session key plan.lifetime = none →
    now.shared? session key plan.lifetime = some object →
    (∀ need ∈ plan.needs, plans.Succeeds start (plan.lifetime.builder session) need) ∧
      ∃ typeName content, plan.ending = .build typeName content ∧
        now.typeOf? object = some typeName

theorem Extends.refl (orderly : Orderly plans.services start) : plans.Extends start start where
  orderly := orderly
  grows := Grows.refl start
  added := by
    intro session key plan object _ free held
    rw [free] at held
    cases held

/-- What is shared stays shared. -/
theorem shared?_of_grows {lifetime : Lifetime} (grows : Grows start now)
    (held : start.shared? session key lifetime = some object) :
    now.shared? session key lifetime = some object := by
  obtain ⟨name, place, held⟩ := Option.bind_eq_some_iff.mp held
  exact Option.bind_eq_some_iff.mpr ⟨name, place, grows.retains held⟩

/-- An instance keeps its type. -/
theorem typeOf?_of_grows {typeName : String} (grows : Grows start now)
    (typed : start.typeOf? object = some typeName) : now.typeOf? object = some typeName := by
  obtain ⟨built, found, rfl⟩ := Option.map_eq_some_iff.mp typed
  exact Option.map_eq_some_iff.mpr ⟨built, grows.instance? found, rfl⟩

/-- What is shared has a type. -/
theorem exists_typeOf? (orderly : Orderly plans.services start)
    (planned : plans.get? key = some plan)
    (held : start.shared? session key plan.lifetime = some object) :
    ∃ typeName, start.typeOf? object = some typeName := by
  obtain ⟨name, place, held⟩ := Option.bind_eq_some_iff.mp held
  have made : plans.services.IsMade key := ⟨_, _, get?_services_of_planned planned⟩
  have there := orderly.below made held
  exact ⟨_, Option.map_eq_some_iff.mpr ⟨_, List.getElem?_eq_getElem there, rfl⟩⟩

/-- What finds something shared on the way comes to what it would have come to at the start. -/
theorem Extends.of_held (since : plans.Extends start now) (planned : plans.get? key = some plan)
    (held : now.shared? session key plan.lifetime = some object) :
    (now.typeOf? object = some key.typeName → plans.Succeeds start session key) ∧
      (now.typeOf? object ≠ some key.typeName →
        plans.Fails start session key (mistyped key)) := by
  cases before : start.shared? session key plan.lifetime with
  | some former =>
    obtain rfl := Option.some.inj ((shared?_of_grows since.grows before).symm.trans held)
    obtain ⟨typeName, typed⟩ := exists_typeOf? since.orderly planned before
    have still := typeOf?_of_grows since.grows typed
    rw [still, ← typed]
    exact ⟨.held planned before, .mistypedHeld planned before⟩
  | none =>
    obtain ⟨needs, typeName, content, ending, typed⟩ := since.added planned before held
    rw [typed]
    constructor
    · intro same
      obtain rfl := Option.some.inj same
      exact .built planned before needs ending
    · intro other
      exact .mistypedBuilt planned before needs ending fun same => other (congrArg some same)

/-- What is free on the way was free at the start. -/
theorem Extends.free (since : plans.Extends start now) {lifetime : Lifetime}
    (free : now.shared? session key lifetime = none) :
    start.shared? session key lifetime = none := by
  by_contra held
  obtain ⟨object, held⟩ := Option.ne_none_iff_exists'.mp held
  rw [shared?_of_grows since.grows held] at free
  cases free

/-- Nothing is added where the caches stay as they are. -/
theorem Extends.of_same (since : plans.Extends start now) (grows : Grows now after)
    (same : after.cache = now.cache) : plans.Extends start after where
  orderly := since.orderly
  grows := since.grows.trans grows
  added := by
    intro session key plan object planned free held
    have before : now.shared? session key plan.lifetime = some object := by
      rwa [Container.shared?, same] at held
    obtain ⟨needs, typeName, content, ending, typed⟩ := since.added planned free before
    exact ⟨needs, typeName, content, ending, typeOf?_of_grows grows typed⟩

theorem Extends.starting (since : plans.Extends start now) (key : ServiceKey)
    (lifetime : Lifetime) : plans.Extends start (now.starting key lifetime) :=
  since.of_same (Fills.starting plans now key lifetime).grows
    (Container.cache_starting now key lifetime)

/-- What a cache holds after something was settled: that, or what it held before. -/
theorem held_of_settle {place : Option CacheName} {name : CacheName} {query : ServiceKey}
    {built found : InstanceId}
    (held : ((container.settle place key built).2.cache name).get? query = some found) :
    (place = some name ∧ key = query ∧ (container.settle place key built).1 = found) ∨
      (container.cache name).get? query = some found := by
  cases place with
  | none => exact .inr held
  | some own =>
    dsimp only [Container.settle] at held ⊢
    cases there : (container.cache own).get? key with
    | some first =>
      rw [there] at held
      exact .inr held
    | none =>
      rw [there] at held
      obtain ⟨rfl, rfl, rfl⟩ | former := Container.held_of_store held
      · exact .inl ⟨rfl, rfl, rfl⟩
      · exact .inr former

section

variable {instance_ : Instance σ} {settled : InstanceId × Container σ}
  (since : plans.Extends start last) (planned : plans.get? key = some plan)
  (free : start.shared? session key plan.lifetime = none)
  (builds : plan.outcome given = .ok instance_)
  (settles : (last.allocate instance_).2.settle (plan.lifetime.cache? session) key
    (last.allocate instance_).1 = settled)

include since planned free builds settles

/-- What is settled is of the type that the factory builds, whichever instance it is. -/
theorem Extends.typeOf?_settled : settled.2.typeOf? settled.1 = some instance_.typeName := by
  have built : (last.allocate instance_).2.typeOf? (last.allocate instance_).1 =
      some instance_.typeName :=
    Option.map_eq_some_iff.mpr ⟨_, Container.instance?_allocate last instance_, rfl⟩
  subst settles
  cases place : plan.lifetime.cache? session with
  | none => exact built
  | some name =>
    dsimp only [Container.settle]
    cases held : (last.cache name).get? key with
    | none =>
      rw [Container.cache_allocate, held]
      exact typeOf?_of_grows (Grows.store _ _ held) built
    | some first =>
      rw [Container.cache_allocate, held]
      have shared : last.shared? session key plan.lifetime = some first := by
        rw [Container.shared?, place]
        exact held
      obtain ⟨-, typeName, content, ending, typed⟩ := since.added planned free shared
      rw [(ok_of_outcome builds).2] at ending
      obtain ⟨rfl, -⟩ := Ending.build.inj ending
      exact typeOf?_of_grows (Grows.allocate last instance_) typed

/-- What a factory has built was built after everything that it asks for. -/
theorem Extends.built
    (needs : ∀ need ∈ plan.needs, plans.Succeeds start (plan.lifetime.builder session) need) :
    plans.Extends start settled.2 where
  orderly := since.orderly
  grows := by
    subst settles
    exact (since.grows.trans (Grows.allocate last instance_)).trans
      (Container.grows_settle _ _ _ _)
  added := by
    have grows : Grows last settled.2 := by
      subst settles
      exact (Grows.allocate last instance_).trans (Container.grows_settle _ _ _ _)
    intro session' key' plan' object planned' free' held
    obtain ⟨name, place, held⟩ := Option.bind_eq_some_iff.mp held
    have typed := since.typeOf?_settled planned free builds settles
    rw [← settles] at held
    obtain ⟨own, rfl, same⟩ | former := held_of_settle held
    · obtain rfl := Option.some.inj (planned.symm.trans planned')
      rw [settles] at same
      rw [← same, ← Lifetime.builder_eq_of_cache? own place]
      exact ⟨needs, _, _, (ok_of_outcome builds).2, typed⟩
    · have before : last.shared? session' key' plan'.lifetime = some object :=
        Option.bind_eq_some_iff.mpr ⟨name, place, former⟩
      obtain ⟨needs', typeName, content, ending, typed'⟩ := since.added planned' free' before
      exact ⟨needs', typeName, content, ending, typeOf?_of_grows grows typed'⟩

end

/-- A factory that has built an instance was given everything. -/
theorem ComesTo.of_outcome {instance_ : Instance σ}
    (comes : plans.ComesTo start session plan.needs given)
    (builds : plan.outcome given = .ok instance_) :
    ∀ need ∈ plan.needs, plans.Succeeds start session need := by
  obtain ⟨objects, rfl⟩ := (ok_of_outcome builds).1
  exact comes

/-- A factory that has failed was not given everything, or gave up itself. -/
theorem ComesTo.fails_of_outcome (planned : plans.get? key = some plan)
    (free : start.shared? session key plan.lifetime = none)
    (comes : plans.ComesTo start (plan.lifetime.builder session) plan.needs given)
    (fails : plan.outcome given = .error failure) : plans.Fails start session key failure := by
  cases given with
  | error inner =>
    obtain rfl := Except.error.inj fails
    obtain ⟨former, need, later, order, answered, need_fails⟩ := comes
    exact .dependency planned free order answered need_fails
  | ok objects =>
    dsimp only [Plan.outcome] at fails
    cases ending : plan.ending with
    | fail own =>
      rw [ending] at fails
      obtain rfl := Except.error.inj fails
      exact .own planned free comes ending
    | build typeName content =>
      rw [ending] at fails
      cases fails

/-- Requests that are made on the way come to what they would have come to at the start. -/
theorem Asks.comesTo (asks : plans.Asks session keys now past given after)
    (since : plans.Extends start now) :
    plans.Extends start after ∧ plans.ComesTo start session keys given := by
  induction asks with
  | done => exact ⟨since, nofun⟩
  | missing unplanned => exact ⟨since, .fails (.missing unplanned)⟩
  | mistypedHeld planned held other =>
    exact ⟨since, .fails ((since.of_held planned held).2 other)⟩
  | held planned held typed _ onwards =>
    have succeeds := (since.of_held planned held).1 typed
    obtain ⟨still, others⟩ := onwards since
    exact ⟨still, others.next succeeds _⟩
  | failed planned free _ fails nested =>
    obtain ⟨still, inner⟩ := nested (since.starting _ _)
    exact ⟨still, .fails (inner.fails_of_outcome planned (since.free free) fails)⟩
  | built planned free _ builds settles typed _ nested onwards =>
    obtain ⟨still, inner⟩ := nested (since.starting _ _)
    have needs := inner.of_outcome builds
    have ends := still.built planned (since.free free) builds settles needs
    have same := still.typeOf?_settled planned (since.free free) builds settles
    obtain ⟨after_still, others⟩ := onwards ends
    have ending := (ok_of_outcome builds).2
    rw [Option.some.inj (same.symm.trans typed)] at ending
    exact ⟨after_still, others.next (.built planned (since.free free) needs ending) _⟩
  | @mistypedBuilt session key _ container _ plan _ _ instance_ _ planned free _ builds settles
      other nested =>
    obtain ⟨still, inner⟩ := nested (since.starting _ _)
    have needs := inner.of_outcome builds
    have ends := still.built planned (since.free free) builds settles needs
    have same := still.typeOf?_settled planned (since.free free) builds settles
    have apart : instance_.typeName ≠ key.typeName := by
      intro equal
      rw [same, equal] at other
      exact other rfl
    exact ⟨ends, .fails (.mistypedBuilt planned (since.free free) needs (ok_of_outcome builds).2
      apart)⟩

open Container (Command)
open Resolution (require)

section

variable (acyclic : plans.IsAcyclic) (orderly : Orderly plans.services container)

include acyclic orderly

theorem comesTo_require (session : Session) (key : ServiceKey) :
    plans.ComesTo container session [key]
      (((require session key).run plans.services container).1.map ([·])) :=
  ((acyclic.asks session key container).comesTo (.refl orderly)).2

theorem succeeds_of_require
    (answered : ((require session key).run plans.services container).1 = .ok object) :
    plans.Succeeds container session key := by
  have comes := comesTo_require acyclic orderly session key
  rw [answered] at comes
  exact comes key List.mem_cons_self

theorem fails_of_require
    (answered : ((require session key).run plans.services container).1 = .error failure) :
    plans.Fails container session key failure := by
  have comes := comesTo_require acyclic orderly session key
  rw [answered] at comes
  obtain ⟨former, other, later, order, -, fails⟩ := comes
  obtain ⟨rfl, single⟩ | ⟨_, _, none_left⟩ := List.cons_eq_append_iff.mp order
  · obtain ⟨rfl, -⟩ := List.cons.inj single
    exact fails
  · simp at none_left

/-- A request is answered if it succeeds by the plans. -/
theorem require_ok_iff (session : Session) (key : ServiceKey) :
    (∃ object, ((require session key).run plans.services container).1 = .ok object) ↔
      plans.Succeeds container session key := by
  constructor
  · intro ⟨object, answered⟩
    exact succeeds_of_require acyclic orderly answered
  · intro succeeds
    cases answered : ((require session key).run plans.services container).1 with
    | ok object => exact ⟨object, rfl⟩
    | error failure =>
      exact absurd succeeds (fails_of_require acyclic orderly answered).not_succeeds

/-- A request fails with the failure that the plans say. -/
theorem require_error_iff (session : Session) (key : ServiceKey) (failure : Failure) :
    ((require session key).run plans.services container).1 = .error failure ↔
      plans.Fails container session key failure := by
  constructor
  · exact fails_of_require acyclic orderly
  · intro fails
    cases answered : ((require session key).run plans.services container).1 with
    | ok object =>
      exact absurd (succeeds_of_require acyclic orderly answered) fails.not_succeeds
    | error other =>
      exact congrArg Except.error ((fails_of_require acyclic orderly answered).unique fails)

/-- A request fails if it meets an obstacle. -/
theorem require_fails_iff (session : Session) (key : ServiceKey) :
    (∃ failure, ((require session key).run plans.services container).1 = .error failure) ↔
      ∃ asked other, plans.Consults container session key asked other ∧
        plans.IsObstacle container asked other := by
  constructor
  · intro ⟨failure, answered⟩
    exact (fails_of_require acyclic orderly answered).exists_obstacle
  · intro ⟨asked, other, consults, obstacle⟩
    cases answered : ((require session key).run plans.services container).1 with
    | ok object =>
      have succeeds := succeeds_of_require acyclic orderly answered
      exact absurd obstacle (consults.succeeds succeeds).not_isObstacle
    | error failure => exact ⟨failure, rfl⟩

end

/-- What is shared is answered at once. -/
theorem occurrences_of_shared (planned : plans.get? key = some plan)
    (held : container.shared? session key plan.lifetime = some object) :
    (Command.resolve session key).occurrences plans.services container =
        [⟨container, .request session key (.ok (some object)), container⟩] ∧
      (Command.resolve session key).after plans.services container = container := by
  obtain ⟨found, happens⟩ := finds_held planned plans.services.size held
  refine ⟨happens, ?_⟩
  rw [Command.after, Resolution.run_findAny, found]

/-- What requests for services that have to be there come to in some state of a container. -/
structure MeetsRequests (plans : Plans σ) (container : Container σ) : Prop where
  /-- Every request ends, however deep factories nest. -/
  ends : ∀ session key, plans.Asks session [key] container
    ((Command.resolve session key).occurrences plans.services container)
    (((require session key).run plans.services container).1.map ([·]))
    ((Command.resolve session key).after plans.services container)
  /-- It is answered if everything that it needs is there or can be built. -/
  answered : ∀ session key,
    (∃ object, ((require session key).run plans.services container).1 = .ok object) ↔
      plans.Succeeds container session key
  /-- It fails if it needs, to build what is not shared yet, something that is not registered, that
  is of another type, or the factory of which fails. -/
  obstructed : ∀ session key,
    (∃ failure, ((require session key).run plans.services container).1 = .error failure) ↔
      ∃ asked other, plans.Consults container session key asked other ∧
        plans.IsObstacle container asked other
  /-- It fails with the first failure that is met. -/
  failed : ∀ session key failure,
    ((require session key).run plans.services container).1 = .error failure ↔
      plans.Fails container session key failure
  /-- A request for what is shared answers that, and runs nothing. -/
  reused : ∀ session key plan object, plans.get? key = some plan →
    container.shared? session key plan.lifetime = some object →
    (Command.resolve session key).occurrences plans.services container =
        [⟨container, .request session key (.ok (some object)), container⟩] ∧
      (Command.resolve session key).after plans.services container = container
  /-- After a request nothing is shared for a factory that was run and did not finish. -/
  unfinished : ∀ session key, session.IsOpen container →
    ∀ occurrence ∈ (Command.resolve session key).occurrences plans.services container,
    ∀ name other failure, occurrence.RunsFor plans.lifetime? name other (.error failure) →
    (((Command.resolve session key).after plans.services container).cache name).get? other = none

/-- Without a circle among the plans, requests end and come to what the plans say. -/
theorem meetsRequests (acyclic : plans.IsAcyclic) (orderly : Orderly plans.services container) :
    plans.MeetsRequests container where
  ends := fun session key => acyclic.asks session key container
  answered := require_ok_iff acyclic orderly
  obstructed := require_fails_iff acyclic orderly
  failed := require_error_iff acyclic orderly
  reused := fun _ _ _ _ planned held => occurrences_of_shared planned held
  unfinished := by
    intro session key isOpen occurrence mem name other failure runs
    have present := Wrapper.hasCache_of_isOpen isOpen
    exact (acyclic.asks session key container).unfinished_free acyclic present mem runs

end Plans

namespace Factories

open Container (Command)

/-- What a container over registered factories keeps to while commands are carried out. -/
structure Serves (factories : Factories σ) (container : Container σ) (commands : List Command) :
    Prop where
  /-- Requests end and come to what the plans say that are followed then. -/
  meets : ∀ moment,
    (factories.plans moment).MeetsRequests (factories.afterAll 0 container commands)
  /-- A factory that has finished for a place of a cache is never run for it again: one of a
  singleton finishes at most once, one of a scoped service at most once in each session. -/
  once : (factories.history 0 container commands).Pairwise
    (Occurrence.RunsApart factories.lifetime?)
  /-- What it has built stays shared until the scope is released, whatever fails later. -/
  kept : ∀ occurrence ∈ factories.history 0 container commands, ∀ name key object,
    occurrence.RunsFor factories.lifetime? name key (.ok object) →
    name.IsLive (factories.afterAll 0 container commands) →
    ((factories.afterAll 0 container commands).cache name).get? key = some object
  /-- Nothing is shared that a factory has not finished. -/
  cached : ∀ name key object,
    ((factories.afterAll 0 container commands).cache name).get? key = some object →
    ∃ occurrence ∈ factories.history 0 container commands,
      occurrence.RunsFor factories.lifetime? name key (.ok object)

/-- Without a circle among the factories, requests end and come to what the plans say, whatever was
asked for before, and each shared instance is built once. -/
theorem IsAcyclic.serves {factories : Factories σ} {container : Container σ}
    {commands : List Command} (acyclic : factories.IsAcyclic) (unused : container.IsUnused)
    (admits : factories.Admits 0 container commands) : factories.Serves container commands where
  meets moment := by
    have orderly : Container.Orderly (factories.plans 0).services container := unused.orderly
    exact Plans.meetsRequests (acyclic.plans moment) (orderly_afterAll orderly commands moment)
  once := runsApart_history acyclic admits
  kept := fun _ mem _ _ _ finishes live => held_of_finished acyclic admits mem finishes live
  cached := by
    intro name key object held
    obtain start | finished := finished_of_held acyclic admits held
    · rw [unused.get?_cache] at start
      cases start
    · exact finished

end Factories

/-- The factories that were run, with whether they have finished. -/
def Container.runs (history : List (Occurrence σ)) : List (Session × ServiceKey × Bool) :=
  history.filterMap fun occurrence =>
    match occurrence.deed with
    | .production session key result => some (session, key, result.isOk)
    | _ => none

namespace Sample.Retried

open Interwoven (key)

/-- A factory of a numbered service. -/
def entry (number : Nat) (lifetime : Lifetime) (needs : List Nat) (ending : Nat → Ending Unit) :
    ServiceKey × Factory Unit :=
  (key number, ⟨lifetime, needs.map key, ending⟩)

/-- The ending of a factory that builds a numbered service. -/
def building (number : Nat) : Ending Unit := .build (numberedType number) ()

/-- The ending of a factory that fails on the first commands. -/
def recovering (commands number : Nat) : Nat → Ending Unit := fun moment =>
  if moment < commands then .fail (.internal "refused") else building number

/-- A singleton, a scoped service that needs it, another singleton that needs it and fails at first,
and a transient service that needs the latter two. -/
def factories : Factories Unit :=
  ⟨⟨[entry 0 .singleton [] fun _ => building 0, entry 1 .scoped [0] fun _ => building 1,
    entry 2 .singleton [0] (recovering 2 2),
    entry 3 .transient [1, 2] fun _ => building 3]⟩⟩

/-- The transient service is asked for in a scope, and once more when that has failed. -/
def commands : List Container.Command :=
  [.openScope, .resolve (.scope ⟨0⟩) (key 3), .resolve (.scope ⟨0⟩) (key 3)]

theorem isAcyclic : factories.IsAcyclic := by
  rw [← Factories.isAcyclic_plans_iff factories 0]
  exact Plans.isAcyclic_of_rank
    (fun other => if other = key 3 then 2 else if other = key 0 then 0 else 1) (by decide +kernel)

/-- A singleton whose factory builds something else. -/
def misplaced : Plans Unit := ⟨⟨[(key 0, ⟨.singleton, [], .build textType ()⟩)]⟩⟩

end Sample.Retried

open Sample in
/-- The second request finds what the first has built, and succeeds with the factory that had failed
before. -/
theorem Factories.serves_retried :
    Retried.factories.IsAcyclic ∧ (Container.empty : Container Unit).IsUnused ∧
      Retried.factories.Admits 0 .empty Retried.commands ∧
      Container.runs (Retried.factories.history 0 .empty Retried.commands) =
        [(.root, Interwoven.key 0, true), (.scope ⟨0⟩, Interwoven.key 1, true),
          (.root, Interwoven.key 2, false), (.scope ⟨0⟩, Interwoven.key 3, false),
          (.root, Interwoven.key 2, true), (.scope ⟨0⟩, Interwoven.key 3, true)] ∧
      Retried.factories.Serves .empty Retried.commands := by
  have unused : (Container.empty : Container Unit).IsUnused := ⟨rfl, rfl, rfl⟩
  have admits : Retried.factories.Admits 0 .empty Retried.commands := by decide +kernel
  exact ⟨Retried.isAcyclic, unused, admits, by decide +kernel,
    Retried.isAcyclic.serves unused admits⟩

namespace Plans

open Resolution (require)
open Sample
open Sample.Interwoven (key)

/-- A request can fail where no factory fails and nothing is missing: its factory has built an
instance of another type. -/
theorem require_misplaced :
    Retried.misplaced.IsAcyclic ∧
      ((require .root (key 0)).run Retried.misplaced.services .empty).1 =
        .error (mistyped (key 0)) ∧
      ¬ ∃ asked other, Retried.misplaced.Consults .empty .root (key 0) asked other ∧
        (Retried.misplaced.get? other = none ∨
          ∃ plan failure, Retried.misplaced.get? other = some plan ∧
            plan.ending = .fail failure) := by
  have acyclic : Retried.misplaced.IsAcyclic := isAcyclic_of_rank (fun _ => 0) (by decide +kernel)
  have planned : Retried.misplaced.get? (key 0) =
      some ⟨.singleton, [], .build textType ()⟩ := rfl
  have apart : textType ≠ (key 0).typeName := by decide +kernel
  have unused : (Container.empty : Container Unit).IsUnused := ⟨rfl, rfl, rfl⟩
  refine ⟨acyclic, ?_, ?_⟩
  · exact (require_error_iff acyclic unused.orderly _ _ _).mpr
      (.mistypedBuilt planned rfl nofun rfl apart)
  · rintro ⟨asked, other, consults, obstacle⟩
    cases consults with
    | here =>
      obtain unplanned | ⟨plan, failure, planned', ending⟩ := obstacle
      · rw [planned] at unplanned
        cases unplanned
      · obtain rfl := Option.some.inj (planned.symm.trans planned')
        cases ending
    | through planned' _ needed =>
      obtain rfl := Option.some.inj (planned.symm.trans planned')
      cases needed

end Plans

end ServiceDispatch
