import ServiceDispatch.Proofs.Service.Growth

/-!
# What factories are given

The answers to the requests of a factory, each with the key that was asked for. Those of scoped
services are what the session shares under their keys. How deep factories may nest makes no
difference here.
-/

namespace ServiceDispatch

namespace Resolution

open Container (Grows)

variable {σ : Type} {services : Services σ} {session : Session}

/-- Finds a service on behalf of a factory, below which factories may nest so deep. -/
def findWithin (depth : Nat) (session : Session) (key : ServiceKey) :
    Resolution σ (Option InstanceId) := do
  checked key (← findWith (makeWithin depth) session key)

theorem findsBySteps_findWithin (services : Services σ) (session : Session) (depth : Nat) :
    FindsBySteps services session (findWithin depth session) :=
  findsBySteps_checked (findsBySteps_findWith (makesBySteps_makeWithin depth))

/-- What a factory that follows a recipe is given, with the keys that it asks for. A request that
fails gives nothing. -/
def given (find : ServiceKey → Resolution σ (Option InstanceId)) (services : Services σ) :
    Recipe σ → Container σ → List (ServiceKey × Option InstanceId)
  | .fail _, _ | .build _ _, _ => []
  | .ask key next, container =>
    match (find key).run services container with
    | (.error failure, after) => given find services (next (.error failure)) after
    | (.ok found, after) => (key, found) :: given find services (next (.ok found.isSome)) after

variable {find : ServiceKey → Resolution σ (Option InstanceId)}

/-- What a session shares under a key is what a factory is given for the key. -/
theorem held_of_given (finds : FindsBySteps services session find) {key : ServiceKey}
    (shares : ∀ {container after : Container σ} {object},
      container.HasCache (.session session) →
      (find key).run services container = (.ok (some object), after) →
      (after.cache (.session session)).get? key = some object)
    (recipe : Recipe σ) (former : List (Option InstanceId)) {container : Container σ}
    (present : container.HasCache (.session session)) {object : InstanceId}
    (mem : (key, some object) ∈ given find services recipe container) :
    (((follow find recipe former).run services container).2.cache (.session session)).get? key =
      some object := by
  induction recipe generalizing former container with
  | fail failure => cases mem
  | build typeName content => cases mem
  | ask asked next ih =>
    rw [given] at mem
    rw [run_follow_ask]
    have grows : Grows container ((find asked).run services container).2 :=
      (finds asked container).grows
    cases answer : (find asked).run services container with
    | mk result middle =>
      rw [answer] at mem grows
      have there : middle.HasCache (.session session) := (grows.hasCache_iff _).mpr present
      cases result with
      | error failure => exact ih _ former there mem
      | ok found =>
        obtain here | later := List.mem_cons.mp mem
        · -- the answer is shared at once, and the rest of the factory leaves it there
          obtain ⟨rfl, rfl⟩ := Prod.mk.inj here
          have held := shares present answer
          have ends := ends_follow finds (next (.ok true)) (former ++ [some object]) middle
          have rest : Grows middle
              ((follow find (next (.ok true)) (former ++ [some object])).run services
                middle).2 := by
            cases follows : (follow find (next (.ok true)) (former ++ [some object])).run services
                middle with
            | mk result last =>
              rw [follows] at ends
              cases result with
              | error failure => exact Container.Reaches.grows ends
              | ok built =>
                obtain ⟨before_last, made, reaches, -, -, rfl⟩ := ends
                exact reaches.grows.trans (Grows.allocate before_last made)
          exact rest.retains held
        · exact ih _ (former ++ [found]) there later

/-- A scoped service that is found is what the session shares. -/
theorem held_of_findWithin {depth : Nat} {key : ServiceKey} {supply : Supply σ}
    (registered : services.get? key = some ⟨.scoped, supply⟩) {container after : Container σ}
    {object : InstanceId} (present : container.HasCache (.session session))
    (answered : (findWithin depth session key).run services container =
      (.ok (some object), after)) :
    (after.cache (.session session)).get? key = some object := by
  obtain ⟨registration, found, -, answers⟩ :=
    checked_findWith_ok (makesBySteps_makeWithin depth) answered
  rw [registered] at found
  obtain rfl := Option.some.inj found
  exact answers present

/-- The same for requests that do not come from a factory. -/
theorem held_of_find {key : ServiceKey} {supply : Supply σ}
    (registered : services.get? key = some ⟨.scoped, supply⟩) {container after : Container σ}
    {object : InstanceId} (present : container.HasCache (.session session))
    (answered : (Resolution.find session key).run services container =
      (.ok (some object), after)) :
    (after.cache (.session session)).get? key = some object := by
  obtain ⟨registration, found, -, answers⟩ := find_ok answered
  rw [registered] at found
  obtain rfl := Option.some.inj found
  exact answers present

/-- Asking for a transient service is running its factory. -/
theorem run_follow_of_require {service : ServiceKey} {recipe : Recipe σ}
    (registered : services.get? service = some ⟨.transient, .factory recipe⟩)
    {before after : Container σ} {object : InstanceId}
    (answered : (require session service).run services before = (.ok object, after)) :
    (follow (findWithin (services.size - 1) session) recipe []).run services before =
      (.ok object, after) := by
  have found := find_of_require answered
  rw [Resolution.find, run_bind, run_findAny, run_findWith, registered] at found
  have obtained : (supplied (makeWithin services.size) session service
      ⟨.transient, .factory recipe⟩) = makeWithin services.size session recipe := rfl
  dsimp only at found
  rw [obtained] at found
  cases size : services.size with
  | zero =>
    rw [size] at found
    simp [makeWithin, Except.map] at found
  | succ depth =>
    rw [size, makeWithin] at found
    rw [Nat.add_sub_cancel]
    have within : (follow (fun key => do checked key (← findWith (makeWithin depth) session key))
        recipe [] : Resolution σ InstanceId) = follow (findWithin depth session) recipe [] := rfl
    rw [within] at found
    cases follows : (follow (findWithin depth session) recipe []).run services before with
    | mk result last =>
      rw [follows] at found
      cases result with
      | error failure => simp [Except.map] at found
      | ok built =>
        simp only [Except.map, run_checked] at found
        split at found
        · obtain ⟨rfl, rfl⟩ : built = object ∧ last = after := by simpa using found
          rfl
        · cases found

end Resolution

end ServiceDispatch
