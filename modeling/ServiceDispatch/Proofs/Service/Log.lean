import ServiceDispatch.Proofs.Service.Running

/-!
# The log of a container

Resolutions write to the log and never read it: whatever was logged before, they answer the same and
leave the same instances, caches and scopes. What is written is not covered.
-/

namespace ServiceDispatch

variable {σ α β : Type}

namespace Container

@[simp] theorem cache_relog (container : Container σ) (log : List Event) (name : CacheName) :
    ({ container with log } : Container σ).cache name = container.cache name := by
  match name with
  | .singletons | .session .root | .session (.scope _) => rfl

@[simp] theorem store_relog (container : Container σ) (log : List Event) (name : CacheName)
    (key : ServiceKey) (object : InstanceId) :
    ({ container with log } : Container σ).store name key object =
      { container.store name key object with log } := by
  match name with
  | .singletons | .session .root | .session (.scope _) => rfl

/-- A container is another one but for the log. -/
def DiffersInLog (container other : Container σ) : Prop := ∃ log, container = { other with log }

theorem DiffersInLog.trans {first second third : Container σ} (left : DiffersInLog first second)
    (right : DiffersInLog second third) : DiffersInLog first third := by
  obtain ⟨log, rfl⟩ := left
  obtain ⟨log', rfl⟩ := right
  exact ⟨log, rfl⟩

end Container

namespace Resolution

/-- An action answers the same whatever was logged before it, and leaves the same container but for
the log. -/
def IgnoresLog (action : Resolution σ α) : Prop :=
  ∀ services container log, ∃ log', action.run services { container with log } =
    ((action.run services container).1, { (action.run services container).2 with log := log' })

theorem ignoresLog_pure (value : α) : IgnoresLog (pure value : Resolution σ α) :=
  fun _ _ log => ⟨log, rfl⟩

theorem ignoresLog_throw (failure : Failure) : IgnoresLog (throw failure : Resolution σ α) :=
  fun _ _ log => ⟨log, rfl⟩

theorem ignoresLog_read : IgnoresLog (read : Resolution σ (Services σ)) := fun _ _ log => ⟨log, rfl⟩

theorem ignoresLog_report (event : Event) : IgnoresLog (report event : Resolution σ Unit) :=
  fun _ _ log => ⟨log ++ [event], rfl⟩

theorem IgnoresLog.bind {action : Resolution σ α} {next : α → Resolution σ β}
    (first : IgnoresLog action) (later : ∀ value, IgnoresLog (next value)) :
    IgnoresLog (action >>= next) := by
  intro services container log
  obtain ⟨log', same⟩ := first services container log
  rw [run_bind, run_bind, same]
  cases action.run services container with
  | mk result after =>
    cases result with
    | error failure => exact ⟨log', rfl⟩
    | ok value => exact later value services after log'

theorem ignoresLog_checked (key : ServiceKey) (found : Option InstanceId) :
    IgnoresLog (checked key found : Resolution σ (Option InstanceId)) := by
  intro services container log
  rw [run_checked, run_checked]
  have same : ∀ object, ({ container with log } : Container σ).typeOf? object =
      container.typeOf? object := fun _ => rfl
  cases found with
  | none => exact ⟨log, rfl⟩
  | some object =>
    simp only [same]
    split <;> exact ⟨log, rfl⟩

theorem IgnoresLog.cached {build : Resolution σ InstanceId} (builds : IgnoresLog build)
    (name : CacheName) (key : ServiceKey) : IgnoresLog (cached name key build) := by
  intro services container log
  rw [run_cached, run_cached, Container.cache_relog]
  cases (container.cache name).get? key with
  | some found => exact ⟨log, rfl⟩
  | none =>
    obtain ⟨log', same⟩ := builds services container log
    rw [same]
    match build.run services container with
    | (.error failure, after) => exact ⟨log', rfl⟩
    | (.ok built, after) =>
      simp only [Container.cache_relog, Container.store_relog]
      cases (after.cache name).get? key <;> exact ⟨log', rfl⟩

/-- A recipe is followed without the log if its requests are answered without it. -/
theorem ignoresLog_follow {find : ServiceKey → Resolution σ (Option InstanceId)}
    (finds : ∀ key, IgnoresLog (find key)) (recipe : Recipe σ) (given : List (Option InstanceId)) :
    IgnoresLog (follow find recipe given) := by
  induction recipe generalizing given with
  | fail failure => exact ignoresLog_throw failure
  | build typeName content => exact fun _ _ log => ⟨log, rfl⟩
  | ask key next ih =>
    intro services container log
    obtain ⟨log', same⟩ := finds key services container log
    rw [run_follow_ask, run_follow_ask, same]
    match (find key).run services container with
    | (.error failure, after) => exact ih _ given services after log'
    | (.ok found, after) => exact ih _ (given ++ [found]) services after log'

variable {make : Session → Recipe σ → Resolution σ InstanceId}

theorem ignoresLog_obtain (makes : ∀ session recipe, IgnoresLog (make session recipe))
    (session : Session) (supply : Supply σ) : IgnoresLog (obtain make session supply) := by
  cases supply with
  | existing object => exact ignoresLog_pure object
  | factory recipe => exact makes session recipe

theorem ignoresLog_findWith (makes : ∀ session recipe, IgnoresLog (make session recipe))
    (session : Session) (key : ServiceKey) : IgnoresLog (findWith make session key) := by
  have supplies : ∀ registration, IgnoresLog (supplied make session key registration) := by
    intro registration
    rw [supplied]
    cases registration.lifetime with
    | singleton =>
      exact ((ignoresLog_report _).bind fun _ => ignoresLog_obtain makes .root _).cached _ key
    | «scoped» => exact (ignoresLog_obtain makes session _).cached _ key
    | transient => exact ignoresLog_obtain makes session _
  intro services container log
  rw [run_findWith, run_findWith]
  cases services.get? key with
  | none => exact ⟨log, rfl⟩
  | some registration =>
    obtain ⟨log', same⟩ := supplies registration services container log
    dsimp only
    rw [same]
    exact ⟨log', rfl⟩

theorem ignoresLog_makeWithin (depth : Nat) (session : Session) (recipe : Recipe σ) :
    IgnoresLog (makeWithin depth session recipe) := by
  induction depth generalizing session recipe with
  | zero => exact ignoresLog_throw endless
  | succ depth ih =>
    exact ignoresLog_follow
      (fun key => (ignoresLog_findWith ih session key).bind fun _ => ignoresLog_checked key _)
      recipe []

/-- A service is found or missed whatever was logged before. -/
theorem ignoresLog_require (session : Session) (key : ServiceKey) :
    IgnoresLog (require session key : Resolution σ InstanceId) := by
  have findsAny : IgnoresLog (findAny session key : Resolution σ (Option InstanceId)) :=
    ignoresLog_read.bind fun _ => ignoresLog_findWith (ignoresLog_makeWithin _) session key
  refine (findsAny.bind fun _ => ignoresLog_checked key _).bind fun found => ?_
  cases found with
  | some object => exact ignoresLog_pure object
  | none => exact ignoresLog_throw _

/-- In containers that differ in their logs a service is found or missed alike. -/
theorem run_require_of_differsInLog {container other : Container σ}
    (differs : container.DiffersInLog other) (services : Services σ) (session : Session)
    (key : ServiceKey) :
    ((require session key).run services container).1 =
        ((require session key).run services other).1 ∧
      ((require session key).run services container).2.DiffersInLog
        ((require session key).run services other).2 := by
  obtain ⟨log, rfl⟩ := differs
  obtain ⟨log', same⟩ := ignoresLog_require session key services other log
  rw [same]
  exact ⟨rfl, log', rfl⟩

end Resolution

end ServiceDispatch
