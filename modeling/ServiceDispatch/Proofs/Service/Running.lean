import ServiceDispatch.Service.Resolution

/-!
# Running resolutions

What each building block of a resolution answers and leaves behind, as equations over `run`. The
equations are complete, so that later modules never look into the monad.
-/

namespace ServiceDispatch

namespace Resolution

variable {σ α β : Type} (services : Services σ) (container : Container σ)

@[simp] theorem run_pure (value : α) :
    (pure value : Resolution σ α).run services container = (.ok value, container) := rfl

@[simp] theorem run_throw (failure : Failure) :
    (throw failure : Resolution σ α).run services container = (.error failure, container) := rfl

/-- A failure ends a sequence and keeps what was done before it. -/
theorem run_bind (action : Resolution σ α) (next : α → Resolution σ β) :
    (action >>= next).run services container =
      match action.run services container with
      | (.ok value, after) => (next value).run services after
      | (.error failure, after) => (.error failure, after) := by
  simp only [run, bind, ReaderT.bind, ExceptT.bind, ExceptT.run, ExceptT.mk,
    StateT.bind, StateT.run]
  cases action services container with
  | mk result after => cases result <;> rfl

/-- Changing the answer of an action changes nothing else. -/
theorem run_bind_pure (action : Resolution σ α) (change : α → β) :
    (action >>= fun value => pure (change value)).run services container =
      ((action.run services container).1.map change, (action.run services container).2) := by
  rw [run_bind]
  cases action.run services container with
  | mk result after => cases result <;> rfl

@[simp] theorem run_get :
    (get : Resolution σ (Container σ)).run services container = (.ok container, container) := rfl

@[simp] theorem run_read :
    (read : Resolution σ (Services σ)).run services container = (.ok services, container) := rfl

@[simp] theorem run_modify (change : Container σ → Container σ) :
    (modify change : Resolution σ Unit).run services container = (.ok (), change container) := rfl

@[simp] theorem run_modifyGet (change : Container σ → α × Container σ) :
    (modifyGet change : Resolution σ α).run services container =
      (.ok (change container).1, (change container).2) := rfl

@[simp] theorem run_report (event : Event) :
    (report event).run services container = (.ok (), container.report event) := rfl

/-- An attempt never fails and answers how the action ended. -/
@[simp] theorem run_attempt (action : Resolution σ α) :
    (attempt action).run services container =
      (.ok (action.run services container).1, (action.run services container).2) := rfl

/-- What was found is handed on if it is of the type that its key names. -/
theorem run_checked (key : ServiceKey) (found : Option InstanceId) :
    (checked key found).run services container =
      match found with
      | none => (.ok none, container)
      | some object =>
        if container.typeOf? object = some key.typeName then (.ok (some object), container)
        else
          (.error (.serviceResolution key.typeName "registered value has a different type"),
            container) := by
  cases found with
  | none => rfl
  | some object =>
    simp only [checked, run_bind, run_get]
    split <;> rfl

/-- A cache answers what it holds. What a factory built goes into it unless the factory filled the
place itself. -/
theorem run_cached (name : CacheName) (key : ServiceKey) (build : Resolution σ InstanceId) :
    (cached name key build).run services container =
      match (container.cache name).get? key with
      | some found => (.ok found, container)
      | none =>
        match build.run services container with
        | (.error failure, after) => (.error failure, after)
        | (.ok built, after) =>
          match (after.cache name).get? key with
          | some first => (.ok first, after)
          | none => (.ok built, after.store name key built) := by
  simp only [cached, run_bind, run_get]
  cases (container.cache name).get? key with
  | some found => rfl
  | none =>
    simp only [run_bind]
    cases build.run services container with
    | mk result after =>
      cases result with
      | error failure => rfl
      | ok built =>
        simp only [run_get]
        cases (after.cache name).get? key <;> rfl

/-- A request is answered to the recipe, which goes on whatever the answer is. -/
theorem run_follow_ask (find : ServiceKey → Resolution σ (Option InstanceId)) (key : ServiceKey)
    (next : Except Failure Bool → Recipe σ) (given : List (Option InstanceId)) :
    (follow find (.ask key next) given).run services container =
      match (find key).run services container with
      | (.error failure, after) => (follow find (next (.error failure)) given).run services after
      | (.ok found, after) =>
        (follow find (next (.ok found.isSome)) (given ++ [found])).run services after := by
  simp only [follow, run_bind, run_attempt]
  cases (find key).run services container with
  | mk result after => cases result <;> rfl

/-- How a registered service is had, by its lifetime. -/
def supplied (make : Session → Recipe σ → Resolution σ InstanceId) (session : Session)
    (key : ServiceKey) (registration : Registration σ) : Resolution σ InstanceId :=
  match registration.lifetime with
  | .singleton =>
    cached .singletons key do
      report (.singletonCreated key)
      obtain make .root registration.supply
  | .scoped => cached (.session session) key (obtain make session registration.supply)
  | .transient => obtain make session registration.supply

/-- A key that is not registered is answered without doing anything. -/
theorem run_findWith (make : Session → Recipe σ → Resolution σ InstanceId) (session : Session)
    (key : ServiceKey) :
    (findWith make session key).run services container =
      match services.get? key with
      | none => (.ok none, container)
      | some registration =>
        (((supplied make session key registration).run services container).1.map some,
          ((supplied make session key registration).run services container).2) := by
  simp only [findWith, run_bind, run_read]
  cases services.get? key with
  | none => rfl
  | some registration =>
    simp only [supplied]
    cases registration.lifetime <;> exact run_bind_pure _ _ _ _

end Resolution

end ServiceDispatch
