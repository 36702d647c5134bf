import ServiceDispatch.Proofs.Container.Plans
import ServiceDispatch.Proofs.Container.Timeline

/-!
# Asking for planned services

What happens when a session is asked for services that have to be there, one after another up to the
first that fails. The relation has a rule for each thing that a request may meet and no bound on how
deep factories nest: what it relates has ended. Without a circle among the plans every request ends,
and it does what the resolution with its bound does.
-/

namespace ServiceDispatch

variable {σ : Type}

/-- What a planned factory comes to by what it was given. -/
def Plan.outcome (plan : Plan σ) (given : Except Failure (List InstanceId)) :
    Except Failure (Instance σ) :=
  match given with
  | .error failure => .error failure
  | .ok objects =>
    match plan.ending with
    | .fail failure => .error failure
    | .build typeName content => .ok ⟨typeName, objects.map some, content⟩

namespace Plans

/-- A session is asked for services in order, up to the first request that fails. -/
inductive Asks (plans : Plans σ) : Session → List ServiceKey → Container σ →
    List (Occurrence σ) → Except Failure (List InstanceId) → Container σ → Prop where
  /-- There is nothing to ask for. -/
  | done (session : Session) (container : Container σ) :
      Asks plans session [] container [] (.ok []) container
  /-- A service is not registered. -/
  | missing {session : Session} {key : ServiceKey} {rest : List ServiceKey}
      {container : Container σ} (unplanned : plans.get? key = none) :
      Asks plans session (key :: rest) container
        [⟨container, .request session key (.ok none), container⟩]
        (.error (.serviceNotRegistered key.typeName key.name)) container
  /-- A service is shared already. -/
  | held {session : Session} {key : ServiceKey} {rest : List ServiceKey}
      {container after : Container σ} {plan : Plan σ} {object : InstanceId}
      {later : List (Occurrence σ)} {others : Except Failure (List InstanceId)}
      (planned : plans.get? key = some plan)
      (held : container.shared? session key plan.lifetime = some object)
      (typed : container.typeOf? object = some key.typeName)
      (onwards : Asks plans session rest container later others after) :
      Asks plans session (key :: rest) container
        (⟨container, .request session key (.ok (some object)), container⟩ :: later)
        (others.map (object :: ·)) after
  /-- What is shared is of another type. -/
  | mistypedHeld {session : Session} {key : ServiceKey} {rest : List ServiceKey}
      {container : Container σ} {plan : Plan σ} {object : InstanceId}
      (planned : plans.get? key = some plan)
      (held : container.shared? session key plan.lifetime = some object)
      (other : container.typeOf? object ≠ some key.typeName) :
      Asks plans session (key :: rest) container
        [⟨container, .request session key (.ok (some object)), container⟩]
        (.error (mistyped key)) container
  /-- A factory is run and fails, or what it asks for does. -/
  | failed {session : Session} {key : ServiceKey} {rest : List ServiceKey}
      {container after : Container σ} {plan : Plan σ} {inner : List (Occurrence σ)}
      {given : Except Failure (List InstanceId)} {failure : Failure}
      (planned : plans.get? key = some plan)
      (free : container.shared? session key plan.lifetime = none)
      (nested : Asks plans (plan.lifetime.builder session) plan.needs
        (container.starting key plan.lifetime) inner given after)
      (fails : plan.outcome given = .error failure) :
      Asks plans session (key :: rest) container
        (inner ++ [⟨container.starting key plan.lifetime,
            .production (plan.lifetime.builder session) key (.error failure), after⟩,
          ⟨container, .request session key (.error failure), after⟩])
        (.error failure) after
  /-- A factory is run and builds an instance. -/
  | built {session : Session} {key : ServiceKey} {rest : List ServiceKey}
      {container last after : Container σ} {plan : Plan σ} {inner later : List (Occurrence σ)}
      {given : Except Failure (List InstanceId)} {instance_ : Instance σ}
      {settled : InstanceId × Container σ} {others : Except Failure (List InstanceId)}
      (planned : plans.get? key = some plan)
      (free : container.shared? session key plan.lifetime = none)
      (nested : Asks plans (plan.lifetime.builder session) plan.needs
        (container.starting key plan.lifetime) inner given last)
      (builds : plan.outcome given = .ok instance_)
      (settles : (last.allocate instance_).2.settle (plan.lifetime.cache? session) key
        (last.allocate instance_).1 = settled)
      (typed : settled.2.typeOf? settled.1 = some key.typeName)
      (onwards : Asks plans session rest settled.2 later others after) :
      Asks plans session (key :: rest) container
        (inner ++ [⟨container.starting key plan.lifetime,
            .production (plan.lifetime.builder session) key (.ok (last.allocate instance_).1),
            (last.allocate instance_).2⟩,
          ⟨container, .request session key (.ok (some settled.1)), settled.2⟩] ++ later)
        (others.map (settled.1 :: ·)) after
  /-- A factory is run and builds an instance of another type. -/
  | mistypedBuilt {session : Session} {key : ServiceKey} {rest : List ServiceKey}
      {container last : Container σ} {plan : Plan σ} {inner : List (Occurrence σ)}
      {given : Except Failure (List InstanceId)} {instance_ : Instance σ}
      {settled : InstanceId × Container σ} (planned : plans.get? key = some plan)
      (free : container.shared? session key plan.lifetime = none)
      (nested : Asks plans (plan.lifetime.builder session) plan.needs
        (container.starting key plan.lifetime) inner given last)
      (builds : plan.outcome given = .ok instance_)
      (settles : (last.allocate instance_).2.settle (plan.lifetime.cache? session) key
        (last.allocate instance_).1 = settled)
      (other : settled.2.typeOf? settled.1 ≠ some key.typeName) :
      Asks plans session (key :: rest) container
        (inner ++ [⟨container.starting key plan.lifetime,
            .production (plan.lifetime.builder session) key (.ok (last.allocate instance_).1),
            (last.allocate instance_).2⟩,
          ⟨container, .request session key (.ok (some settled.1)), settled.2⟩])
        (.error (mistyped key)) settled.2

end Plans

open Resolution

/-- Asks a session for a service that has to be there, below which factories may nest so deep. -/
def Resolution.requireWithin (depth : Nat) (session : Session) (key : ServiceKey) :
    Resolution σ InstanceId := do
  match ← findWithin depth session key with
  | some object => pure object
  | none => throw (.serviceNotRegistered key.typeName key.name)

/-- Asks for several services, up to the first request that fails. -/
def Resolution.requireAll (depth : Nat) (session : Session) :
    List ServiceKey → Resolution σ (List InstanceId)
  | [] => pure []
  | key :: rest => do
    let object ← requireWithin depth session key
    let others ← requireAll depth session rest
    pure (object :: others)

/-- What happens when a session is asked for a service, below which factories may nest so deep. -/
def Services.occurrencesWithin (services : Services σ) (depth : Nat) (session : Session) :
    ServiceKey → Container σ → List (Occurrence σ) :=
  requested (makeWithin depth) (madeWithin services depth) services session

/-- What happens when a session is asked for several services. -/
def Services.occurrencesOfAll (services : Services σ) (depth : Nat) (session : Session) :
    List ServiceKey → Container σ → List (Occurrence σ)
  | [], _ => []
  | key :: rest, container =>
    services.occurrencesWithin depth session key container ++
      match (requireWithin depth session key).run services container with
      | (.error _, _) => []
      | (.ok _, after) => services.occurrencesOfAll depth session rest after

/-- A request below some depth does so much and comes to that. -/
structure Plans.Answered (plans : Plans σ) (depth : Nat) (session : Session) (key : ServiceKey)
    (container : Container σ) (past : List (Occurrence σ)) (result : Except Failure InstanceId)
    (after : Container σ) : Prop where
  /-- What it comes to. -/
  run : (requireWithin depth session key).run plans.services container = (result, after)
  /-- What it does. -/
  happens : plans.services.occurrencesWithin depth session key container = past

/-- Requests below some depth do so much and come to that. -/
structure Plans.AllAnswered (plans : Plans σ) (depth : Nat) (session : Session)
    (keys : List ServiceKey) (container : Container σ) (past : List (Occurrence σ))
    (given : Except Failure (List InstanceId)) (after : Container σ) : Prop where
  /-- What they come to. -/
  run : (requireAll depth session keys).run plans.services container = (given, after)
  /-- What they do. -/
  happens : plans.services.occurrencesOfAll depth session keys container = past

namespace Plans

variable {plans : Plans σ} {depth : Nat} {session : Session} {key : ServiceKey}
  {keys rest : List ServiceKey} {container middle after : Container σ}
  {past later : List (Occurrence σ)} {failure : Failure} {plan : Plan σ}

theorem AllAnswered.nil (plans : Plans σ) (depth : Nat) (session : Session)
    (container : Container σ) :
    plans.AllAnswered depth session [] container [] (.ok []) container := ⟨rfl, rfl⟩

/-- A request that fails is the last one. -/
theorem Answered.stop
    (answered : plans.Answered depth session key container past (.error failure) after) :
    plans.AllAnswered depth session (key :: rest) container past (.error failure) after where
  run := by rw [requireAll, run_bind, answered.run]
  happens := by
    rw [Services.occurrencesOfAll, answered.happens, answered.run]
    exact List.append_nil past

/-- After a request that is answered the others are made. -/
theorem Answered.next {object : InstanceId} {others : Except Failure (List InstanceId)}
    (answered : plans.Answered depth session key container past (.ok object) middle)
    (onwards : plans.AllAnswered depth session rest middle later others after) :
    plans.AllAnswered depth session (key :: rest) container (past ++ later)
      (others.map (object :: ·)) after where
  run := by
    rw [requireAll, run_bind, answered.run]
    dsimp only
    rw [run_bind_pure, onwards.run]
  happens := by
    rw [Services.occurrencesOfAll, answered.happens, answered.run]
    exact congrArg (past ++ ·) onwards.happens

end Plans

/-- Asks for services that have to be there and goes on with a recipe. -/
def Recipe.needing (keys : List ServiceKey) (last : Recipe σ) : Recipe σ :=
  .ofDependencies (keys.map fun key => ⟨key, false⟩) last

theorem Recipe.needing_nil (last : Recipe σ) : needing [] last = last := rfl

theorem Recipe.needing_cons (key : ServiceKey) (rest : List ServiceKey) (last : Recipe σ) :
    needing (key :: rest) last = require key (needing rest last) := rfl

namespace Plans

variable {plans : Plans σ} {depth : Nat} {session : Session} {keys : List ServiceKey}
  {container after : Container σ} {past : List (Occurrence σ)}
  {given : Except Failure (List InstanceId)} {plan : Plan σ}

/-- A recipe that needs services goes on with what it is given. -/
theorem run_follow_needing (services : Services σ) (depth : Nat) (session : Session)
    (keys : List ServiceKey) (last : Recipe σ) (former : List (Option InstanceId))
    (container : Container σ) :
    (follow (findWithin depth session) (.needing keys last) former).run services container =
      match (requireAll depth session keys).run services container with
      | (.error failure, after) => (.error failure, after)
      | (.ok objects, after) =>
        (follow (findWithin depth session) last (former ++ objects.map some)).run services
          after := by
  induction keys generalizing former container with
  | nil =>
    rw [requireAll, run_pure]
    dsimp only
    rw [List.map_nil, List.append_nil, Recipe.needing_nil]
  | cons key rest ih =>
    rw [Recipe.needing_cons, Recipe.require, run_follow_ask, requireAll, run_bind,
      requireWithin, run_bind]
    cases found : (findWithin depth session key).run services container with
    | mk result middle =>
      cases result with
      | error failure => rfl
      | ok answer =>
        cases answer with
        | none => rfl
        | some object =>
          dsimp only [Option.isSome]
          rw [ih, run_pure]
          dsimp only
          rw [run_bind]
          cases (requireAll depth session rest).run services middle with
          | mk others after =>
            cases others with
            | error failure => rfl
            | ok objects => simp

/-- What happens to a recipe that needs services is what happens on its requests, and the rest. -/
theorem followed_needing (services : Services σ) (depth : Nat) (session : Session)
    (keys : List ServiceKey) (last : Recipe σ) (container : Container σ) :
    followed (findWithin depth session) (services.occurrencesWithin depth session) services
        (.needing keys last) container =
      services.occurrencesOfAll depth session keys container ++
        match (requireAll depth session keys).run services container with
        | (.error _, _) => []
        | (.ok _, after) =>
          followed (findWithin depth session) (services.occurrencesWithin depth session) services
            last after := by
  induction keys generalizing container with
  | nil => rfl
  | cons key rest ih =>
    rw [Recipe.needing_cons, Recipe.require, followed, requireAll, run_bind,
      Services.occurrencesOfAll, requireWithin, run_bind, List.append_assoc]
    refine congrArg (services.occurrencesWithin depth session key container ++ ·) ?_
    cases found : (findWithin depth session key).run services container with
    | mk result middle =>
      cases result with
      | error failure => rfl
      | ok answer =>
        cases answer with
        | none => rfl
        | some object =>
          dsimp only [Option.isSome]
          rw [ih, run_pure]
          dsimp only
          rw [run_bind]
          cases (requireAll depth session rest).run services middle with
          | mk others after => cases others <;> rfl

/-- A planned factory comes to its outcome. -/
theorem AllAnswered.run_plan
    (answered : plans.AllAnswered depth session plan.needs container past given after) :
    (makeWithin (depth + 1) session plan.recipe).run plans.services container =
      match plan.outcome given with
      | .error failure => (.error failure, after)
      | .ok instance_ => (.ok (after.allocate instance_).1, (after.allocate instance_).2) := by
  have unfolded : (makeWithin (depth + 1) session plan.recipe : Resolution σ InstanceId) =
      follow (findWithin depth session) (.needing plan.needs plan.ending.recipe) [] := rfl
  rw [unfolded, run_follow_needing, answered.run]
  cases given with
  | error failure => rfl
  | ok objects =>
    dsimp only [Plan.outcome]
    cases plan.ending <;> rfl

/-- What happens in a planned factory is what happens on its requests. -/
theorem AllAnswered.madeWithin_plan
    (answered : plans.AllAnswered depth session plan.needs container past given after) :
    madeWithin plans.services (depth + 1) session plan.recipe container = past := by
  have unfolded : madeWithin plans.services (depth + 1) session plan.recipe container =
      followed (findWithin depth session) (plans.services.occurrencesWithin depth session)
        plans.services (.needing plan.needs plan.ending.recipe) container := rfl
  rw [unfolded, followed_needing, answered.run, answered.happens]
  cases given with
  | error failure => exact List.append_nil past
  | ok objects => cases plan.ending <;> exact List.append_nil past

section

variable {key : ServiceKey} {object : InstanceId}

/-- Checks what a request has found. -/
theorem run_requireWithin_ok {services : Services σ}
    (found : (findWith (makeWithin depth) session key).run services container =
      (.ok (some object), after)) :
    (requireWithin depth session key).run services container =
      if after.typeOf? object = some key.typeName then (.ok object, after)
      else (.error (mistyped key), after) := by
  rw [requireWithin, run_bind, findWithin, run_bind, found]
  dsimp only
  rw [run_checked]
  dsimp only
  by_cases typed : after.typeOf? object = some key.typeName
  · rw [if_pos typed, if_pos typed]
    rfl
  · rw [if_neg typed, if_neg typed]
    rfl

/-- A service that is not planned is not registered. -/
theorem Answered.of_missing (depth : Nat) (session : Session) (container : Container σ)
    (unplanned : plans.get? key = none) :
    plans.Answered depth session key container
      [⟨container, .request session key (.ok none), container⟩]
      (.error (.serviceNotRegistered key.typeName key.name)) container := by
  have unregistered : plans.services.get? key = none := by
    rw [get?_services, unplanned]
    rfl
  have found : (findWith (makeWithin depth) session key).run plans.services container =
      (.ok none, container) := by
    rw [run_findWith, unregistered]
  constructor
  · rw [requireWithin, run_bind, findWithin, run_bind, found]
    rfl
  · rw [Services.occurrencesWithin, requested, found, unregistered]
    rfl

variable (planned : plans.get? key = some plan)

include planned

theorem get?_services_of_planned :
    plans.services.get? key = some ⟨plan.lifetime, .factory plan.recipe⟩ := by
  rw [get?_services, planned]
  rfl

/-- What is shared already is found. -/
theorem finds_held (depth : Nat)
    (held : container.shared? session key plan.lifetime = some object) :
    (findWith (makeWithin depth) session key).run plans.services container =
        (.ok (some object), container) ∧
      plans.services.occurrencesWithin depth session key container =
        [⟨container, .request session key (.ok (some object)), container⟩] := by
  have registered := get?_services_of_planned planned
  have found : (findWith (makeWithin depth) session key).run plans.services container =
      (.ok (some object), container) := by
    rw [run_findWith, registered]
    dsimp only
    rw [run_supplied]
    dsimp only
    rw [held]
    rfl
  refine ⟨found, ?_⟩
  rw [Services.occurrencesWithin, requested, found, registered]
  dsimp only
  rw [held]
  rfl

variable (free : container.shared? session key plan.lifetime = none)
  (answered : plans.AllAnswered depth (plan.lifetime.builder session) plan.needs
    (container.starting key plan.lifetime) past given after)

include free answered

/-- A request that runs a factory fails with it. -/
theorem Answered.of_failed {failure : Failure} (fails : plan.outcome given = .error failure) :
    plans.Answered (depth + 1) session key container
      (past ++ [⟨container.starting key plan.lifetime,
          .production (plan.lifetime.builder session) key (.error failure), after⟩,
        ⟨container, .request session key (.error failure), after⟩])
      (.error failure) after := by
  have registered := get?_services_of_planned planned
  have runs := answered.run_plan
  rw [fails] at runs
  have found : (findWith (makeWithin (depth + 1)) session key).run plans.services container =
      (.error failure, after) := by
    rw [run_findWith, registered]
    dsimp only
    rw [run_supplied]
    dsimp only [obtain]
    rw [free, runs]
    rfl
  constructor
  · rw [requireWithin, run_bind, findWithin, run_bind, found]
  · rw [Services.occurrencesWithin, requested, found, registered]
    dsimp only [obtained]
    rw [free, answered.madeWithin_plan, runs, List.append_assoc]
    rfl

/-- A request that runs a factory settles what it has built. -/
theorem finds_built {instance_ : Instance σ} {settled : InstanceId × Container σ}
    (builds : plan.outcome given = .ok instance_)
    (settles : (after.allocate instance_).2.settle (plan.lifetime.cache? session) key
      (after.allocate instance_).1 = settled) :
    (findWith (makeWithin (depth + 1)) session key).run plans.services container =
        (.ok (some settled.1), settled.2) ∧
      plans.services.occurrencesWithin (depth + 1) session key container =
        past ++ [⟨container.starting key plan.lifetime,
            .production (plan.lifetime.builder session) key (.ok (after.allocate instance_).1),
            (after.allocate instance_).2⟩,
          ⟨container, .request session key (.ok (some settled.1)), settled.2⟩] := by
  have registered := get?_services_of_planned planned
  have runs := answered.run_plan
  rw [builds] at runs
  have found : (findWith (makeWithin (depth + 1)) session key).run plans.services container =
      (.ok (some settled.1), settled.2) := by
    rw [run_findWith, registered]
    dsimp only
    rw [run_supplied]
    dsimp only [obtain]
    rw [free, runs]
    dsimp only
    rw [settles]
    rfl
  refine ⟨found, ?_⟩
  rw [Services.occurrencesWithin, requested, found, registered]
  dsimp only [obtained]
  rw [free, answered.madeWithin_plan, runs, List.append_assoc]
  rfl

end

/-- A rule says what a request comes to, whatever is asked for after it. -/
def Meets (plans : Plans σ) (session : Session) (key : ServiceKey) (container : Container σ)
    (past : List (Occurrence σ)) (result : Except Failure InstanceId) (after : Container σ) : Prop :=
  match result with
  | .error failure => ∀ rest, plans.Asks session (key :: rest) container past (.error failure) after
  | .ok object => ∀ {rest later others last}, plans.Asks session rest after later others last →
      plans.Asks session (key :: rest) container (past ++ later) (others.map (object :: ·)) last

/-- A request is answered as the rules say if its factory is given what the rules say. -/
theorem exists_meets {depth : Nat} {key : ServiceKey} {plan : Plan σ}
    (planned : plans.get? key = some plan) (session : Session) (container : Container σ)
    (nested : ∃ inner given last,
      plans.AllAnswered depth (plan.lifetime.builder session) plan.needs
        (container.starting key plan.lifetime) inner given last ∧
      plans.Asks (plan.lifetime.builder session) plan.needs
        (container.starting key plan.lifetime) inner given last) :
    ∃ past result after, plans.Answered (depth + 1) session key container past result after ∧
      plans.Meets session key container past result after := by
  cases shared : container.shared? session key plan.lifetime with
  | some object =>
    obtain ⟨found, happens⟩ := finds_held planned (depth + 1) shared
    have checks := run_requireWithin_ok found
    by_cases typed : container.typeOf? object = some key.typeName
    · rw [if_pos typed] at checks
      exact ⟨_, _, _, ⟨checks, happens⟩, fun asks => .held planned shared typed asks⟩
    · rw [if_neg typed] at checks
      exact ⟨_, _, _, ⟨checks, happens⟩, fun _ => .mistypedHeld planned shared typed⟩
  | none =>
    obtain ⟨inner, given, last, answered, asks⟩ := nested
    cases outcome : plan.outcome given with
    | error failure =>
      exact ⟨_, _, _, .of_failed planned shared answered outcome,
        fun _ => .failed planned shared asks outcome⟩
    | ok instance_ =>
      obtain ⟨found, happens⟩ := finds_built planned shared answered outcome rfl
      have checks := run_requireWithin_ok found
      split at checks
      · rename_i typed
        exact ⟨_, _, _, ⟨checks, happens⟩,
          fun onwards => .built planned shared asks outcome rfl typed onwards⟩
      · rename_i other
        exact ⟨_, _, _, ⟨checks, happens⟩,
          fun _ => .mistypedBuilt planned shared asks outcome rfl other⟩

/-- As far down as factories nest, requests are answered as the rules say. -/
theorem exists_asks {depth : Nat} {keys : List ServiceKey}
    (shallow : ∀ key ∈ keys, plans.NestsWithin depth key) (session : Session)
    (container : Container σ) :
    ∃ past given after, plans.AllAnswered depth session keys container past given after ∧
      plans.Asks session keys container past given after := by
  -- on the depth for what factories ask for, on the keys for what is asked for next
  induction depth generalizing session keys container with
  | zero =>
    cases keys with
    | nil => exact ⟨_, _, _, .nil plans 0 session container, .done session container⟩
    | cons key rest =>
      have unplanned : plans.get? key = none := shallow key List.mem_cons_self
      exact ⟨_, _, _, (Answered.of_missing 0 session container unplanned).stop,
        .missing unplanned⟩
  | succ depth deeper =>
    induction keys generalizing container with
    | nil => exact ⟨_, _, _, .nil plans _ session container, .done session container⟩
    | cons key rest onwards =>
      obtain ⟨below, others⟩ := List.forall_mem_cons.mp shallow
      cases planned : plans.get? key with
      | none =>
        exact ⟨_, _, _, (Answered.of_missing _ session container planned).stop, .missing planned⟩
      | some plan =>
        have nests : ∀ need ∈ plan.needs, plans.NestsWithin depth need :=
          fun need needed => below need ⟨plan, planned, needed⟩
        obtain ⟨past, result, middle, answered, meets⟩ := exists_meets planned session container
          (deeper nests (plan.lifetime.builder session) _)
        cases result with
        | error failure => exact ⟨_, _, _, answered.stop, meets rest⟩
        | ok object =>
          obtain ⟨later, given, after, answered_rest, asks⟩ := onwards others middle
          exact ⟨_, _, _, answered.next answered_rest, meets asks⟩

/-- The bound of a resolution is the number of registrations. -/
theorem run_require_eq (services : Services σ) (session : Session) (key : ServiceKey)
    (container : Container σ) :
    (require session key).run services container =
      (requireWithin services.size session key).run services container := by
  have finds : (find session key).run services container =
      (findWithin services.size session key).run services container := by
    rw [find, run_bind, run_findAny, findWithin, run_bind]
  refine (run_bind services container (find session key) _).trans ?_
  rw [finds]
  exact (run_bind services container (findWithin services.size session key) _).symm

/-- Checking what was found does nothing. -/
theorem after_resolve (services : Services σ) (session : Session) (key : ServiceKey)
    (container : Container σ) :
    (Container.Command.resolve session key).after services container =
      ((require session key).run services container).2 := by
  rw [Container.Command.after, run_require, find, run_bind]
  cases (findAny session key).run services container with
  | mk result after =>
    cases result with
    | error failure => rfl
    | ok found =>
      dsimp only
      rw [run_checked]
      cases found with
      | none => rfl
      | some object =>
        dsimp only
        by_cases typed : after.typeOf? object = some key.typeName
        · rw [if_pos typed]
        · rw [if_neg typed]

/-- Without a circle among the plans every request for a service that has to be there ends, and
the resolution with its bound does and answers the same. -/
theorem IsAcyclic.asks (acyclic : plans.IsAcyclic) (session : Session) (key : ServiceKey)
    (container : Container σ) :
    plans.Asks session [key] container
      ((Container.Command.resolve session key).occurrences plans.services container)
      (((require session key).run plans.services container).1.map ([·]))
      ((Container.Command.resolve session key).after plans.services container) := by
  have shallow : ∀ other ∈ [key], plans.NestsWithin plans.services.size other :=
    fun other _ => acyclic.nestsWithin other
  obtain ⟨past, given, after, answered, asks⟩ := exists_asks shallow session container
  have run := answered.run
  have happens := answered.happens
  rw [requireAll, run_bind, ← run_require_eq] at run
  rw [Services.occurrencesOfAll, ← run_require_eq] at happens
  have here : (Container.Command.resolve session key).occurrences plans.services container =
      plans.services.occurrencesWithin plans.services.size session key container := rfl
  rw [here, after_resolve]
  cases result : (require session key).run plans.services container with
  | mk answer last =>
    rw [result] at run happens
    cases answer with
    | error failure =>
      obtain ⟨rfl, rfl⟩ := Prod.mk.inj run
      rw [List.append_nil] at happens
      rw [happens]
      exact asks
    | ok object =>
      obtain ⟨rfl, rfl⟩ := Prod.mk.inj run
      dsimp only [Services.occurrencesOfAll] at happens
      rw [List.append_nil] at happens
      rw [happens]
      exact asks

/-- A factory that has built an instance was given everything. -/
theorem ok_of_outcome {instance_ : Instance σ} (builds : plan.outcome given = .ok instance_) :
    (∃ objects, given = .ok objects) ∧
      plan.ending = .build instance_.typeName instance_.content := by
  cases given with
  | error failure => cases builds
  | ok objects =>
    refine ⟨⟨objects, rfl⟩, ?_⟩
    dsimp only [Plan.outcome] at builds
    cases ending : plan.ending with
    | fail failure =>
      rw [ending] at builds
      cases builds
    | build typeName content =>
      rw [ending] at builds
      obtain rfl := Except.ok.inj builds
      rfl

/-- A recipe that needs services can build what the rest of it can. -/
theorem builds_needing {last : Recipe σ} {typeName : String} {content : σ}
    (builds : last.Builds typeName content) (keys : List ServiceKey) :
    (Recipe.needing keys last).Builds typeName content := by
  induction keys with
  | nil => exact builds
  | cons key rest ih => exact .ask (.ok true) ih

/-- What a planned factory has built, its recipe can build. -/
theorem builds_of_outcome {instance_ : Instance σ} (builds : plan.outcome given = .ok instance_) :
    plan.recipe.Builds instance_.typeName instance_.content := by
  have last : plan.ending.recipe.Builds instance_.typeName instance_.content := by
    rw [(ok_of_outcome builds).2]
    exact .build _ _
  exact builds_needing last plan.needs

/-- A request that runs a factory with a result goes by steps. -/
theorem reaches_built {last : Container σ} {key : ServiceKey} {instance_ : Instance σ}
    {settled : InstanceId × Container σ} (planned : plans.get? key = some plan)
    (nested : Container.Reaches plans.services (plan.lifetime.builder session)
      (container.starting key plan.lifetime) last)
    (builds : plan.outcome given = .ok instance_)
    (settles : (last.allocate instance_).2.settle (plan.lifetime.cache? session) key
      (last.allocate instance_).1 = settled) :
    Container.Reaches plans.services session container settled.2 := by
  have starts : Container.Reaches plans.services session container _ :=
    Container.reaches_starting container key plan.lifetime
  have ends := reaches_settle_built (get?_services_of_planned planned)
    (builds_of_outcome builds) settles
  exact (starts.trans nested.of_builder).trans ends

/-- Asking for services goes by steps. -/
theorem Asks.reaches (asks : plans.Asks session keys container past given after) :
    Container.Reaches plans.services session container after := by
  induction asks with
  | done | missing | mistypedHeld => exact Container.Reaches.refl _
  | held _ _ _ _ onwards => exact onwards
  | failed _ _ _ _ nested =>
    exact (Container.reaches_starting _ _ _).trans nested.of_builder
  | built planned _ _ builds settles _ _ nested onwards =>
    exact (reaches_built planned nested builds settles).trans onwards
  | mistypedBuilt planned _ _ builds settles _ nested =>
    exact reaches_built planned nested builds settles

/-- A factory runs on behalf of services that are asked for: for one of them or for what it needs,
directly or through others, and in the session that asks or in the container itself. -/
def RunsBelow (plans : Plans σ) (session : Session) (keys : List ServiceKey)
    (occurrence : Occurrence σ) : Prop :=
  ∀ asked other result, occurrence.deed = .production asked other result →
    (asked = session ∨ asked = .root) ∧
      ∃ key ∈ keys, Relation.ReflTransGen plans.Needs key other

section

variable {key : ServiceKey} {rest : List ServiceKey} {occurrence : Occurrence σ}

theorem RunsBelow.of_request {asked : Session} {other : ServiceKey}
    {answer : Except Failure (Option InstanceId)}
    (deed : occurrence.deed = .request asked other answer) :
    plans.RunsBelow session keys occurrence :=
  fun _ _ _ production => nomatch deed.symm.trans production

theorem RunsBelow.of_rest (below : plans.RunsBelow session rest occurrence) :
    plans.RunsBelow session (key :: rest) occurrence := by
  intro asked other result deed
  obtain ⟨own, asked_key, member, needs⟩ := below asked other result deed
  exact ⟨own, asked_key, List.mem_cons_of_mem _ member, needs⟩

/-- What a factory asks for is needed by its service. -/
theorem RunsBelow.of_nested (planned : plans.get? key = some plan)
    (below : plans.RunsBelow (plan.lifetime.builder session) plan.needs occurrence) :
    plans.RunsBelow session (key :: rest) occurrence := by
  intro asked other result deed
  obtain ⟨own, need, member, needs⟩ := below asked other result deed
  refine ⟨?_, key, List.mem_cons_self, .head ⟨plan, planned, member⟩ needs⟩
  exact own.elim (fun same => same ▸ plan.lifetime.builder_eq session) .inr

theorem RunsBelow.of_production {lifetime : Lifetime} {result : Except Failure InstanceId}
    (deed : occurrence.deed = .production (lifetime.builder session) key result) :
    plans.RunsBelow session (key :: rest) occurrence := by
  intro asked other result' deed'
  obtain ⟨rfl, rfl, -⟩ := Deed.production.inj (deed.symm.trans deed')
  exact ⟨lifetime.builder_eq session, key, List.mem_cons_self, .refl⟩

end

/-- Only factories of what is asked for run, and of what that needs. -/
theorem Asks.runsBelow (asks : plans.Asks session keys container past given after) :
    ∀ occurrence ∈ past, plans.RunsBelow session keys occurrence := by
  induction asks with
  | done => exact fun _ mem => nomatch mem
  | missing | mistypedHeld =>
    intro occurrence mem
    obtain rfl := List.mem_singleton.mp mem
    exact .of_request rfl
  | held _ _ _ _ onwards =>
    exact List.forall_mem_cons.mpr
      ⟨.of_request rfl, fun occurrence mem => (onwards occurrence mem).of_rest⟩
  | failed planned _ _ _ nested | mistypedBuilt planned _ _ _ _ _ nested =>
    intro occurrence mem
    simp only [List.mem_append, List.mem_cons, List.not_mem_nil, or_false] at mem
    obtain mem | rfl | rfl := mem
    · exact .of_nested planned (nested occurrence mem)
    · exact .of_production rfl
    · exact .of_request rfl
  | built planned _ _ _ _ _ _ nested onwards =>
    intro occurrence mem
    simp only [List.mem_append, List.mem_cons, List.not_mem_nil, or_false] at mem
    obtain (mem | rfl | rfl) | mem := mem
    · exact .of_nested planned (nested occurrence mem)
    · exact .of_production rfl
    · exact .of_request rfl
    · exact (onwards occurrence mem).of_rest

/-- Without a circle a factory is not run inside itself. -/
theorem Asks.ne_of_production (acyclic : plans.IsAcyclic) {key : ServiceKey}
    (planned : plans.get? key = some plan)
    (asks : plans.Asks session plan.needs container past given after)
    {occurrence : Occurrence σ} (mem : occurrence ∈ past) {asked : Session} {other : ServiceKey}
    {result : Except Failure InstanceId}
    (deed : occurrence.deed = .production asked other result) : other ≠ key := by
  obtain ⟨-, need, needed, needs⟩ := asks.runsBelow occurrence mem _ _ _ deed
  rintro rfl
  exact acyclic _ (.head' ⟨plan, planned, needed⟩ needs)

/-- Where everything is answered, every factory that was run has finished. -/
theorem Asks.finished (asks : plans.Asks session keys container past given after)
    (answered : ∃ objects, given = .ok objects) :
    ∀ occurrence ∈ past, ∀ asked other failure,
      occurrence.deed ≠ .production asked other (.error failure) := by
  have of_map : ∀ {object : InstanceId} {others : Except Failure (List InstanceId)},
      (∃ objects, others.map (object :: ·) = .ok objects) → ∃ objects, others = .ok objects := by
    rintro object (failure | others) ⟨objects, same⟩
    · cases same
    · exact ⟨others, rfl⟩
  induction asks with
  | done => exact fun _ mem => nomatch mem
  | missing | mistypedHeld | failed | mistypedBuilt =>
    obtain ⟨objects, same⟩ := answered
    cases same
  | held _ _ _ _ onwards =>
    exact List.forall_mem_cons.mpr ⟨fun _ _ _ => nofun, onwards (of_map answered)⟩
  | built _ _ _ builds _ _ _ nested onwards =>
    intro occurrence mem asked other failure deed
    simp only [List.mem_append, List.mem_cons, List.not_mem_nil, or_false] at mem
    obtain (mem | rfl | rfl) | mem := mem
    · exact nested (ok_of_outcome builds).1 occurrence mem asked other failure deed
    · cases deed
    · cases deed
    · exact onwards (of_map answered) occurrence mem asked other failure deed

end Plans

end ServiceDispatch
