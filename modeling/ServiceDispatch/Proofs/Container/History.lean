import ServiceDispatch.Proofs.Call.Injections

/-!
# Histories of containers

Everything that is asked of a container while scopes are opened, services resolved and scopes
released, requests of factories included, in the order in which it is finished. What factories ask
for inside a request is a course of further requests, so a whole history is taken apart by one
induction. What holds instances outside of the container is not covered.
-/

namespace ServiceDispatch

variable {σ : Type}

/-- Something that is done with a container. -/
inductive Deed where
  /-- A service is asked for; the type of what is answered has not been checked yet. -/
  | request (session : Session) (key : ServiceKey) (answer : Except Failure (Option InstanceId))
  /-- The factory of a service runs against a session. -/
  | production (session : Session) (key : ServiceKey) (result : Except Failure InstanceId)
  /-- A scope is opened. -/
  | opening (scope : ScopeId)
  /-- A scope is released. -/
  | closing (scope : ScopeId)

/-- Whether a service is asked for. -/
def Deed.isRequest : Deed → Bool
  | .request .. => true
  | _ => false

/-- A deed between two states of a container. -/
structure Occurrence (σ : Type) where
  /-- The container before the deed. -/
  before : Container σ
  /-- What was done. -/
  deed : Deed
  /-- The container after it. -/
  after : Container σ

/-- The session against which the factory of a service runs that a session asks for. -/
def Lifetime.builder (session : Session) : Lifetime → Session
  | .singleton => .root
  | .scoped | .transient => session

namespace Container

/-- The instance that requests to a session already share. -/
def shared? (container : Container σ) (session : Session) (key : ServiceKey) (lifetime : Lifetime) :
    Option InstanceId :=
  (lifetime.cache? session).bind fun name => (container.cache name).get? key

/-- The container when the supply of a service is turned to. -/
def starting (container : Container σ) (key : ServiceKey) : Lifetime → Container σ
  | .singleton => container.report (.singletonCreated key)
  | .scoped | .transient => container

/-- Puts an instance into its cache, if it has one; one that is there already stays and takes its
place. -/
def settle (container : Container σ) (place : Option CacheName) (key : ServiceKey)
    (object : InstanceId) : InstanceId × Container σ :=
  match place with
  | none => (object, container)
  | some name =>
    match (container.cache name).get? key with
    | some first => (first, container)
    | none => (object, container.store name key object)

end Container

namespace Resolution

/-- What happens while a recipe is followed, by what happens on its requests. -/
def followed (find : ServiceKey → Resolution σ (Option InstanceId))
    (asked : ServiceKey → Container σ → List (Occurrence σ)) (services : Services σ) :
    Recipe σ → Container σ → List (Occurrence σ)
  | .fail _, _ | .build _ _, _ => []
  | .ask key next, container =>
    asked key container ++
      match (find key).run services container with
      | (.error failure, after) => followed find asked services (next (.error failure)) after
      | (.ok found, after) => followed find asked services (next (.ok found.isSome)) after

/-- What happens while an instance is had from its supply, by what happens in factories. -/
def obtained (make : Session → Recipe σ → Resolution σ InstanceId)
    (made : Session → Recipe σ → Container σ → List (Occurrence σ)) (services : Services σ)
    (session : Session) (key : ServiceKey) : Supply σ → Container σ → List (Occurrence σ)
  | .existing _, _ => []
  | .factory recipe, container =>
    let run := (make session recipe).run services container
    made session recipe container ++ [⟨container, .production session key run.1, run.2⟩]

/-- What happens when a session is asked for a service, the request itself last. -/
def requested (make : Session → Recipe σ → Resolution σ InstanceId)
    (made : Session → Recipe σ → Container σ → List (Occurrence σ)) (services : Services σ)
    (session : Session) (key : ServiceKey) (container : Container σ) : List (Occurrence σ) :=
  let run := (findWith make session key).run services container
  (match services.get? key with
    | none => []
    | some registration =>
      match container.shared? session key registration.lifetime with
      | some _ => []
      | none =>
        obtained make made services (registration.lifetime.builder session) key
          registration.supply (container.starting key registration.lifetime)) ++
    [⟨container, .request session key run.1, run.2⟩]

/-- What happens in a factory, below which factories may nest so deep. -/
def madeWithin (services : Services σ) :
    (depth : Nat) → Session → Recipe σ → Container σ → List (Occurrence σ)
  | 0, _, _, _ => []
  | depth + 1, session, recipe, container =>
    followed (findWithin depth session)
      (requested (makeWithin depth) (madeWithin services depth) services session) services recipe
      container

end Resolution

namespace Container

/-- What a user of a container can do. -/
inductive Command where
  /-- Opens a scope. -/
  | openScope
  /-- Asks a session for a service. -/
  | resolve (session : Session) (key : ServiceKey)
  /-- Releases a scope. -/
  | releaseScope (scope : ScopeId)
  deriving DecidableEq, Repr

namespace Command

/-- A session that is asked, and a scope that is released, are still open. -/
def IsPossible (container : Container σ) : Command → Prop
  | openScope => True
  | resolve session _ => session.IsOpen container
  | releaseScope scope => (Session.scope scope).IsOpen container

instance (container : Container σ) (command : Command) :
    Decidable (command.IsPossible container) :=
  match command with
  | openScope => inferInstanceAs (Decidable True)
  | resolve .root _ => inferInstanceAs (Decidable True)
  | resolve (.scope id) _ | releaseScope id =>
    inferInstanceAs (Decidable (container.openness[id.index]? = some true))

/-- The container after a command. -/
def after (services : Services σ) (container : Container σ) : Command → Container σ
  | openScope => container.openScope.2
  | resolve session key => ((Resolution.findAny session key).run services container).2
  | releaseScope scope => container.releaseScope scope

/-- What happens on a command. -/
def occurrences (services : Services σ) (container : Container σ) :
    Command → List (Occurrence σ)
  | openScope => [⟨container, .opening container.openScope.1, container.openScope.2⟩]
  | resolve session key =>
    Resolution.requested (Resolution.makeWithin services.size)
      (Resolution.madeWithin services services.size) services session key container
  | releaseScope scope => [⟨container, .closing scope, container.releaseScope scope⟩]

end Command

/-- Every command is possible when its turn comes. -/
def Admits (services : Services σ) (container : Container σ) : List Command → Prop
  | [] => True
  | command :: rest =>
    command.IsPossible container ∧ Admits services (command.after services container) rest

instance (services : Services σ) (container : Container σ) (commands : List Command) :
    Decidable (Admits services container commands) :=
  decideAdmits container commands
where
  decideAdmits (container : Container σ) :
      (commands : List Command) → Decidable (Admits services container commands)
    | [] => inferInstanceAs (Decidable True)
    | command :: rest =>
      have := decideAdmits (command.after services container) rest
      inferInstanceAs (Decidable (_ ∧ _))

/-- What happens on a sequence of commands. -/
def history (services : Services σ) (container : Container σ) :
    List Command → List (Occurrence σ)
  | [] => []
  | command :: rest =>
    command.occurrences services container ++
      history services (command.after services container) rest

/-- The container after a sequence of commands. -/
def afterAll (services : Services σ) (container : Container σ) (commands : List Command) :
    Container σ :=
  commands.foldl (Command.after services) container

end Container

namespace Resolution

open Container (Reaches)

/-- A request that is answered without running a factory. -/
inductive AnswersAtOnce (services : Services σ) (session : Session) (key : ServiceKey)
    (container : Container σ) : Except Failure (Option InstanceId) → Container σ → Prop where
  /-- The key is not registered. -/
  | absent (unregistered : services.get? key = none) :
      AnswersAtOnce services session key container (.ok none) container
  /-- The instance is shared already. -/
  | shared {registration : Registration σ} {object : InstanceId}
      (registered : services.get? key = some registration)
      (held : container.shared? session key registration.lifetime = some object) :
      AnswersAtOnce services session key container (.ok (some object)) container
  /-- The instance was handed in ready-made. -/
  | existing {lifetime : Lifetime} {object : InstanceId} {settled : InstanceId × Container σ}
      (registered : services.get? key = some ⟨lifetime, .existing object⟩)
      (settles : (container.starting key lifetime).settle (lifetime.cache? session) key object =
        settled) :
      AnswersAtOnce services session key container (.ok (some settled.1)) settled.2

/-- An instance that was answered to a request of a session. -/
def Gave (past : List (Occurrence σ)) (session : Session) (object : InstanceId) : Prop :=
  ∃ occurrence ∈ past, ∃ key, occurrence.deed = .request session key (.ok (some object))

/-- A session is asked for services one after another; each request may run a factory, which asks in
turn. -/
inductive Course (services : Services σ) :
    Session → Container σ → List (Occurrence σ) → Container σ → Prop where
  /-- Nothing is asked. -/
  | start (session : Session) (container : Container σ) :
      Course services session container [] container
  /-- A request is answered at once. -/
  | answered {session : Session} {before middle after : Container σ} {past : List (Occurrence σ)}
      {key : ServiceKey} {answer : Except Failure (Option InstanceId)}
      (course : Course services session before past middle)
      (answers : AnswersAtOnce services session key middle answer after) :
      Course services session before (past ++ [⟨middle, .request session key answer, after⟩]) after
  /-- A request runs a factory, which fails. -/
  | failed {session : Session} {before middle after : Container σ}
      {past inner : List (Occurrence σ)} {key : ServiceKey} {lifetime : Lifetime}
      {recipe : Recipe σ} (failure : Failure)
      (course : Course services session before past middle)
      (registered : services.get? key = some ⟨lifetime, .factory recipe⟩)
      (free : middle.shared? session key lifetime = none)
      (nested : Course services (lifetime.builder session) (middle.starting key lifetime) inner
        after) :
      Course services session before
        (past ++ (inner ++
          [⟨middle.starting key lifetime,
              .production (lifetime.builder session) key (.error failure), after⟩,
            ⟨middle, .request session key (.error failure), after⟩])) after
  /-- A request runs a factory, which builds an instance from what it was given. -/
  | built {session : Session} {before middle last : Container σ}
      {past inner : List (Occurrence σ)} {key : ServiceKey} {lifetime : Lifetime}
      {recipe : Recipe σ} {instance_ : Instance σ} {settled : InstanceId × Container σ}
      (course : Course services session before past middle)
      (registered : services.get? key = some ⟨lifetime, .factory recipe⟩)
      (free : middle.shared? session key lifetime = none)
      (nested : Course services (lifetime.builder session) (middle.starting key lifetime) inner
        last)
      (builds : recipe.Builds instance_.typeName instance_.content)
      (given : ∀ object, some object ∈ instance_.dependencies →
        Gave inner (lifetime.builder session) object)
      (settles : (last.allocate instance_).2.settle (lifetime.cache? session) key
        (last.allocate instance_).1 = settled) :
      Course services session before
        (past ++ (inner ++
          [⟨middle.starting key lifetime,
              .production (lifetime.builder session) key (.ok (last.allocate instance_).1),
              (last.allocate instance_).2⟩,
            ⟨middle, .request session key (.ok (some settled.1)), settled.2⟩])) settled.2

variable {services : Services σ} {session : Session} {before middle after : Container σ}
  {past later : List (Occurrence σ)}

theorem Course.trans (first : Course services session before past middle)
    (second : Course services session middle later after) :
    Course services session before (past ++ later) after := by
  induction second with
  | start => rwa [List.append_nil]
  | answered _ answers ih =>
    rw [← List.append_assoc]
    exact .answered (ih first) answers
  | failed failure _ registered free nested ih =>
    rw [← List.append_assoc]
    exact .failed failure (ih first) registered free nested
  | built _ registered free nested builds given settles ih =>
    rw [← List.append_assoc]
    exact .built (ih first) registered free nested builds given settles

theorem Gave.append_left {object : InstanceId} (gave : Gave later session object)
    (past : List (Occurrence σ)) : Gave (past ++ later) session object := by
  obtain ⟨occurrence, mem, key, deed⟩ := gave
  exact ⟨occurrence, List.mem_append_right _ mem, key, deed⟩

/-- What a factory built is settled in the cache that it was built for. -/
theorem run_cached_settle (name : CacheName) (key : ServiceKey) (build : Resolution σ InstanceId)
    (services : Services σ) (container : Container σ) :
    (cached name key build).run services container =
      match (container.cache name).get? key with
      | some found => (.ok found, container)
      | none =>
        match build.run services container with
        | (.error failure, after) => (.error failure, after)
        | (.ok built, after) =>
          (.ok (after.settle (some name) key built).1,
            (after.settle (some name) key built).2) := by
  rw [run_cached]
  cases (container.cache name).get? key with
  | some found => rfl
  | none =>
    match build.run services container with
    | (.error _, _) => rfl
    | (.ok built, after) =>
      dsimp only [Container.settle]
      cases (after.cache name).get? key <;> rfl

/-- How a registered service is had, for all lifetimes alike. -/
theorem run_supplied (make : Session → Recipe σ → Resolution σ InstanceId) (services : Services σ)
    (session : Session) (key : ServiceKey) (registration : Registration σ)
    (container : Container σ) :
    (supplied make session key registration).run services container =
      match container.shared? session key registration.lifetime with
      | some found => (.ok found, container)
      | none =>
        match (obtain make (registration.lifetime.builder session) registration.supply).run services
            (container.starting key registration.lifetime) with
        | (.error failure, after) => (.error failure, after)
        | (.ok built, after) =>
          (.ok (after.settle (registration.lifetime.cache? session) key built).1,
            (after.settle (registration.lifetime.cache? session) key built).2) := by
  obtain ⟨lifetime, supply⟩ := registration
  cases lifetime with
  | transient =>
    dsimp only [supplied, Container.shared?, Lifetime.cache?, Lifetime.builder,
      Container.starting, Option.bind_none, Container.settle]
    match (obtain make session supply).run services container with
    | (.error _, _) => rfl
    | (.ok _, _) => rfl
  | singleton =>
    dsimp only [supplied, Container.shared?, Lifetime.cache?, Option.bind_some]
    rw [run_cached_settle, run_bind, run_report]
    rfl
  | _ =>
    dsimp only [supplied, Container.shared?, Lifetime.cache?, Option.bind_some]
    rw [run_cached_settle]
    rfl

/-- How a factory's run may end: it fails after a course of requests, or builds an instance from
what it was given, now or before. -/
def Finishes (services : Services σ) (session : Session) (recipe : Recipe σ)
    (given : List (Option InstanceId)) (before : Container σ) (past : List (Occurrence σ)) :
    Except Failure InstanceId × Container σ → Prop
  | (.error _, after) => Course services session before past after
  | (.ok object, after) => ∃ last built, Course services session before past last ∧
      recipe.Builds built.typeName built.content ∧
      (∀ object, some object ∈ built.dependencies →
        some object ∈ given ∨ Gave past session object) ∧
      object = (last.allocate built).1 ∧ after = (last.allocate built).2

/-- A way to answer requests that goes by courses. -/
def FindsByCourse (services : Services σ) (session : Session)
    (find : ServiceKey → Resolution σ (Option InstanceId))
    (asked : ServiceKey → Container σ → List (Occurrence σ)) : Prop :=
  ∀ key container, Course services session container (asked key container)
      ((find key).run services container).2 ∧
    ∀ object, ((find key).run services container).1 = .ok (some object) →
      Gave (asked key container) session object

/-- A way to run factories that goes by courses. -/
def MakesByCourse (services : Services σ) (make : Session → Recipe σ → Resolution σ InstanceId)
    (made : Session → Recipe σ → Container σ → List (Occurrence σ)) : Prop :=
  ∀ session recipe container, Finishes services session recipe [] container
    (made session recipe container) ((make session recipe).run services container)

/-- A course goes on with a request and the rest of its factory. -/
theorem Finishes.of_course {key : ServiceKey} {next : Except Failure Bool → Recipe σ}
    {answer : Except Failure Bool} {given given' : List (Option InstanceId)}
    {result : Except Failure InstanceId × Container σ}
    (course : Course services session before past middle)
    (answers : ∀ object, some object ∈ given' → some object ∈ given ∨ Gave past session object)
    (finishes : Finishes services session (next answer) given' middle later result) :
    Finishes services session (.ask key next) given before (past ++ later) result := by
  match result, finishes with
  | (.error _, _), rest => exact course.trans rest
  | (.ok _, _), ⟨last, built, rest, builds, dependencies, same⟩ =>
    refine ⟨last, built, course.trans rest, .ask answer builds, fun object mem => ?_, same⟩
    obtain former | gave := dependencies object mem
    · obtain former | ⟨occurrence, inside, deed⟩ := answers object former
      · exact .inl former
      · exact .inr ⟨occurrence, List.mem_append_left _ inside, deed⟩
    · exact .inr (gave.append_left past)

/-- A recipe is followed by a course of the requests that it makes. -/
theorem finishes_followed {find : ServiceKey → Resolution σ (Option InstanceId)}
    {asked : ServiceKey → Container σ → List (Occurrence σ)}
    (finds : FindsByCourse services session find asked) (recipe : Recipe σ)
    (given : List (Option InstanceId)) (container : Container σ) :
    Finishes services session recipe given container
      (followed find asked services recipe container)
      ((follow find recipe given).run services container) := by
  induction recipe generalizing given container with
  | fail failure => exact .start session container
  | build typeName content =>
    exact ⟨container, ⟨typeName, given, content⟩, .start session container,
      .build typeName content, fun _ mem => .inl mem, rfl, rfl⟩
  | ask key next ih =>
    obtain ⟨course, gave⟩ := finds key container
    rw [run_follow_ask, followed]
    cases answer : (find key).run services container with
    | mk result after =>
      rw [answer] at course gave
      cases result with
      | error failure => exact (ih _ given after).of_course course fun _ mem => .inl mem
      | ok found =>
        refine (ih _ (given ++ [found]) after).of_course course fun object mem => ?_
        obtain former | here := List.mem_append.mp mem
        · exact .inl former
        · obtain rfl := List.mem_singleton.mp here
          exact .inr (gave object rfl)

/-- A way to run factories gives a way to answer requests. -/
theorem course_requested {make : Session → Recipe σ → Resolution σ InstanceId}
    {made : Session → Recipe σ → Container σ → List (Occurrence σ)}
    (maker : MakesByCourse services make made) (session : Session) (key : ServiceKey)
    (container : Container σ) :
    Course services session container (requested make made services session key container)
      ((findWith make session key).run services container).2 := by
  have start : Course services session container [] container := .start session container
  rw [requested, run_findWith]
  cases registered : services.get? key with
  | none => exact start.answered (.absent registered)
  | some registration =>
    obtain ⟨lifetime, supply⟩ := registration
    dsimp only
    rw [run_supplied]
    dsimp only
    cases held : container.shared? session key lifetime with
    | some found => exact start.answered (.shared registered held)
    | none =>
      cases supply with
      | existing object => exact start.answered (.existing registered rfl)
      | factory recipe =>
        have finishes := maker (lifetime.builder session) recipe (container.starting key lifetime)
        dsimp only [obtain, obtained]
        match (make (lifetime.builder session) recipe).run services
          (container.starting key lifetime), finishes with
        | (.error failure, _), nested =>
          rw [List.append_assoc]
          exact start.failed failure registered held nested
        | (.ok _, _), ⟨last, built, nested, builds, dependencies, rfl, rfl⟩ =>
          rw [List.append_assoc]
          refine start.built registered held nested builds (fun object mem => ?_) rfl
          exact (dependencies object mem).resolve_left (List.not_mem_nil)

/-- What is found is the answer to the request. -/
theorem gave_requested {make : Session → Recipe σ → Resolution σ InstanceId}
    {made : Session → Recipe σ → Container σ → List (Occurrence σ)} {session : Session}
    {key : ServiceKey} {container : Container σ} {object : InstanceId}
    (answered : ((findWith make session key).run services container).1 = .ok (some object)) :
    Gave (requested make made services session key container) session object :=
  ⟨_, List.mem_append_right _ (List.mem_singleton.mpr rfl), key,
    congrArg (Deed.request session key) answered⟩

/-- However deep factories may nest, what happens in them is a course of requests. -/
theorem makesByCourse_makeWithin (services : Services σ) (depth : Nat) :
    MakesByCourse services (makeWithin depth) (madeWithin services depth) := by
  induction depth with
  | zero => exact fun session _ container => .start session container
  | succ depth ih =>
    intro session recipe container
    refine finishes_followed (fun key container => ?_) recipe [] container
    have course := course_requested ih session key container
    have gave : ∀ object,
        ((findWith (makeWithin depth) session key).run services container).1 =
          .ok (some object) →
        Gave (requested (makeWithin depth) (madeWithin services depth) services session key
          container) session object := fun _ => gave_requested
    rw [findWithin, run_bind]
    cases run : (findWith (makeWithin depth) session key).run services container with
    | mk result after =>
      rw [run] at course gave
      cases result with
      | error failure => exact ⟨course, fun _ answered => nomatch answered⟩
      | ok found =>
        dsimp only
        rw [run_checked]
        cases found with
        | none => exact ⟨course, fun _ answered => nomatch answered⟩
        | some object =>
          dsimp only
          split
          · refine ⟨course, fun object' answered => ?_⟩
            obtain rfl : object = object' := by simpa using answered
            exact gave object rfl
          · exact ⟨course, fun _ answered => nomatch answered⟩

end Resolution

end ServiceDispatch
